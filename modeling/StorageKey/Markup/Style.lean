import StorageKey.Markup.Colour
import StorageKey.Text.Blank
import StorageKey.Text.LetterCase

/-!
# Styles of a text

A style sets or clears attributes, and may choose a colour for the text, one for the ground behind
it, and the target of a link. It is written as words: an attribute by its name or a short form,
`not` before an attribute that is cleared, a colour, `on` before the colour of the ground, and
`link` before a target.

* `Style.ofString?`, `Style.text`: reading a style and writing it in a fixed order;
* `Style.normalName`: the one name of all spellings of a style;
* `Style.onTop`: a style on top of another;
* `Style.codes`: the codes that select it on a terminal with 16 colours.
-/

namespace StorageKey.Markup

open StorageKey.Text

/-- The attributes of a text. -/
inductive Attribute
  | bold
  | dim
  | italic
  | underline
  | blink
  | blink2
  | reverse
  | conceal
  | strike
  | underline2
  | frame
  | encircle
  | overline
  deriving DecidableEq, Repr

namespace Attribute

/-- All attributes in the order in which a style names them, each with its name and its code on a
terminal. -/
def all : List (Attribute × String × Nat) := [
  (bold, "bold", 1), (dim, "dim", 2), (italic, "italic", 3), (underline, "underline", 4),
  (blink, "blink", 5), (blink2, "blink2", 6), (reverse, "reverse", 7), (conceal, "conceal", 8),
  (strike, "strike", 9), (underline2, "underline2", 21), (frame, "frame", 51),
  (encircle, "encircle", 52), (overline, "overline", 53)]

/-- The short forms of attributes. -/
def shortForms : List (String × Attribute) := [
  ("b", bold), ("d", dim), ("i", italic), ("u", underline), ("r", reverse), ("c", conceal),
  ("s", strike), ("uu", underline2), ("o", overline)]

/-- The attribute of a word. -/
def ofString? (s : String) : Option Attribute :=
  match all.find? (·.2.1 = s) with
  | some e => some e.1
  | none => shortForms.lookup s

end Attribute

/-- A style. An attribute that it neither sets nor clears is not in the list. -/
structure Style where
  attributes : List (Attribute × Bool)
  colour : Option Colour
  ground : Option Colour
  link : Option String
  deriving DecidableEq, Repr

namespace Style

/-- The style that changes nothing. -/
def plain : Style := ⟨[], none, none, none⟩

/-- Set or clear an attribute. -/
def withAttribute (s : Style) (a : Attribute) (b : Bool) : Style :=
  { s with attributes := (a, b) :: s.attributes.filter (·.1 ≠ a) }

/-- The words of a text. -/
def wordsOf (s : List Char) : List String :=
  ((s.splitBy fun a b => isBlank a == isBlank b).filter fun r => !allBlank r).map String.ofList

/-- Read the words of a style. -/
def ofWords? (s : Style) : List String → Option Style
  | [] => some s
  | w :: r =>
    let word := String.ofList (lower w.toList)
    if word = "on" then
      match r with
      | [] => none
      | c :: r =>
        match Colour.ofString? c with
        | some c => ofWords? { s with ground := some c } r
        | none => none
    else if word = "not" then
      match r with
      | [] => none
      | a :: r =>
        match Attribute.ofString? a with
        | some a => ofWords? (s.withAttribute a false) r
        | none => none
    else if word = "link" then
      match r with
      | [] => none
      | l :: r => ofWords? { s with link := some l } r
    else
      match Attribute.ofString? word with
      | some a => ofWords? (s.withAttribute a true) r
      | none =>
        match Colour.ofString? word with
        | some c => ofWords? { s with colour := some c } r
        | none => none

/-- The style that a text spells. -/
def ofString? (s : List Char) : Option Style :=
  match wordsOf s with
  | ["none"] => some plain
  | ws => ofWords? plain ws

/-- The words of a style in their order. -/
def toWords (s : Style) : List String :=
  (Attribute.all.flatMap fun e =>
    match s.attributes.lookup e.1 with
    | some true => [e.2.1]
    | some false => ["not", e.2.1]
    | none => []) ++
  (s.colour.toList.map (·.name)) ++
  (s.ground.toList.flatMap fun c => ["on", c.name]) ++
  (s.link.toList.flatMap fun l => ["link", l])

/-- The text of a style. -/
def text (s : Style) : String :=
  match s.toWords with
  | [] => "none"
  | ws => String.intercalate " " ws

/-- The one name of all spellings of a style; a text that is no style is its own name, without
blanks at its ends and in lower case. -/
def normalName (s : List Char) : List Char :=
  match ofString? s with
  | some style => style.text.toList
  | none => lower (strip s)

/-- A style on top of another. -/
def onTop (s t : Style) : Style where
  attributes := s.attributes ++ t.attributes.filter fun e => (s.attributes.lookup e.1).isNone
  colour := s.colour.or t.colour
  ground := s.ground.or t.ground
  link := s.link.or t.link

/-- The codes that select a style. -/
def codes (s : Style) : List Nat :=
  (Attribute.all.filter fun e => s.attributes.lookup e.1 = some true).map (·.2.2) ++
  (s.colour.toList.map (Colour.code false)) ++ (s.ground.toList.map (Colour.code true))

end Style

end StorageKey.Markup
