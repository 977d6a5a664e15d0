import StorageKey.Markup.Style

/-!
# Text with marks

A tag in brackets starts with a small letter, a hash, a slash or an at sign. It opens a style, or
closes one by name or the last one that is open. Backslashes before a tag are halved, and an odd
one makes the tag plain text.

* `pieces`: a text as pieces of plain text and tags;
* `Marked.ofText`: the plain text and the spans of its styles, or the tag that closes nothing;
* `Marked.labelled`: each character with the style it has and whether a span starts or ends there.
-/

namespace StorageKey.Markup

open StorageKey.Text

/-- A piece of plain text, or a tag with its place, its name and what follows an equals sign in
it. -/
inductive Piece
  | plain (s : List Char)
  | tag (place : Nat) (name : List Char) (value : Option (List Char))
  deriving DecidableEq, Repr

/-- Whether a character can start a tag. -/
def startsTag (c : Char) : Bool := ('a' ≤ c && c ≤ 'z') || c = '#' || c = '/' || c = '@'

/-- The inside of a tag and what follows it, for the text after an opening bracket. -/
def tagBody? (s : List Char) : Option (List Char × List Char) :=
  match s with
  | [] => none
  | c :: r =>
    if !startsTag c then none
    else
      let inside := r.takeWhile fun c => c ≠ '[' && c ≠ ']'
      match r.drop inside.length with
      | ']' :: rest => some (c :: inside, rest)
      | _ => none

/-- A tag with the given inside. -/
def tagOf (place : Nat) (body : List Char) : Piece :=
  match body.dropWhile (· ≠ '=') with
  | [] => .tag place body none
  | _ :: value => .tag place (body.takeWhile (· ≠ '=')) (some value)

/-- A piece of plain text, unless it is empty; a backslash before a bracket is dropped. -/
def plainPiece (s : List Char) : List Piece := if s.isEmpty then [] else [.plain (unescape s)]
where
  /-- A text without the backslashes before brackets. -/
  unescape : List Char → List Char
    | '\\' :: '[' :: r => '[' :: unescape r
    | c :: r => c :: unescape r
    | [] => []

/-- The pieces of a text. `pending` is the plain text before it, last character first, and `place`
counts the characters before it. -/
def piecesFrom (fuel : Nat) (place : Nat) (pending : List Char) (s : List Char) : List Piece :=
  match fuel with
  | 0 => plainPiece pending.reverse
  | fuel + 1 =>
    match s with
    | [] => plainPiece pending.reverse
    | c :: r =>
      if c ≠ '\\' ∧ c ≠ '[' then piecesFrom fuel (place + 1) (c :: pending) r
      else
        let slashes := s.takeWhile (· = '\\')
        let n := slashes.length
        match s.drop n with
        | '[' :: r =>
          match tagBody? r with
          | some (body, rest) =>
            let next := piecesFrom fuel (place + n + 2 + body.length) [] rest
            plainPiece pending.reverse ++ plainPiece (slashes.take (n / 2)) ++
              (if n % 2 = 1 then .plain ('[' :: body ++ [']']) else tagOf (place + n) body) :: next
          | none => piecesFrom fuel (place + n + 1) ('[' :: slashes ++ pending) r
        | r => piecesFrom fuel (place + n) (slashes ++ pending) r

/-- The pieces of a text. -/
def pieces (s : List Char) : List Piece := piecesFrom (s.length + 1) 0 [] s

/-- A stretch of the text and its style. -/
structure Span where
  start : Nat
  stop : Nat
  style : Style
  deriving DecidableEq, Repr

/-- A text and the spans of its styles; where spans overlap, a later one is on top. -/
structure Marked where
  text : List Char
  spans : List Span
  deriving DecidableEq, Repr

/-- Why a text has no marks that fit: a tag closes nothing. -/
inductive MarkFault
  | noSuchTag (tag : List Char) (place : Nat)
  | nothingOpen (place : Nat)
  deriving DecidableEq, Repr

/-- The wording of a fault. -/
def MarkFault.message : MarkFault → String
  | .noSuchTag tag place =>
    "closing tag '[" ++ String.ofList tag ++ "]' at position " ++ toString place ++
      " doesn't match any open tag"
  | .nothingOpen place =>
    "closing tag '[/]' at position " ++ toString place ++ " has nothing to close"

/-- An open tag: where the text under it starts, its name, and its style. -/
structure OpenTag where
  start : Nat
  name : List Char
  style : Style
  deriving DecidableEq, Repr

/-- The characters that a terminal would act on are dropped from a text. -/
def dropControls (s : List Char) : List Char :=
  s.filter fun c => !([7, 8, 11, 12, 13].contains c.toNat)

/-- What is read of a text: its characters, last first, the closed spans, last first, and the open
tags, the innermost first. -/
structure Reading where
  reversed : List Char
  size : Nat
  closed : List Span
  openTags : List OpenTag

namespace Reading

/-- Read plain text. -/
def addText (m : Reading) (s : List Char) : Reading :=
  let s := dropControls s
  { m with reversed := s.reverse ++ m.reversed, size := m.size + s.length }

/-- Open a tag. -/
def openTag (m : Reading) (name : List Char) (value : Option (List Char)) : Reading :=
  let name := Style.normalName name
  let spelled := match value with
    | none => name
    | some v => name ++ ' ' :: v
  { m with openTags := ⟨m.size, name, (Style.ofString? spelled).getD .plain⟩ :: m.openTags }

/-- The innermost open tag with a name, and the others. -/
def takeTag? (name : List Char) : List OpenTag → Option (OpenTag × List OpenTag)
  | [] => none
  | t :: ts =>
    if t.name = name then some (t, ts) else (takeTag? name ts).map fun e => (e.1, t :: e.2)

/-- Close an open tag. -/
def close (m : Reading) (t : OpenTag) (others : List OpenTag) : Reading :=
  { m with closed := ⟨t.start, m.size, t.style⟩ :: m.closed, openTags := others }

/-- Read a piece. -/
def step (m : Reading) : Piece → Except MarkFault Reading
  | .plain s => .ok (m.addText s)
  | .tag place name value =>
    match name with
    | '/' :: r =>
      let wanted := strip r
      if wanted.isEmpty then
        match m.openTags with
        | [] => .error (.nothingOpen place)
        | t :: ts => .ok (m.close t ts)
      else
        match takeTag? (Style.normalName wanted) m.openTags with
        | some (t, ts) => .ok (m.close t ts)
        | none => .error (.noSuchTag (match value with
          | none => name
          | some v => name ++ '=' :: v) place)
    | _ => .ok (m.openTag name value)

/-- The spans in the order of their starts; of those with one start, the last closed is first. Tags
that are still open reach to the end. -/
def spans (m : Reading) : List Span :=
  let all := (m.openTags.map fun t => ⟨t.start, m.size, t.style⟩).reverse ++ m.closed
  all.mergeSort fun a b => a.start ≤ b.start

end Reading

namespace Marked

/-- The marked text that a text with tags spells. Codes for emoji, such as ':bomb:', are left as they
stand. -/
def ofText (s : List Char) : Except MarkFault Marked := do
  let m ← (pieces s).foldlM Reading.step ⟨[], 0, [], []⟩
  .ok ⟨m.reversed.reverse, m.spans⟩

/-- What is known of a character: whether a span starts or ends before it, and its style. -/
structure Label where
  boundary : Bool
  style : Style
  deriving DecidableEq, Repr

/-- The label of the character at a place. -/
def labelAt (m : Marked) (i : Nat) : Label where
  boundary := m.spans.any fun s => s.start = i || s.stop = i
  style := m.spans.foldl (fun t s => if s.start ≤ i ∧ i < s.stop then s.style.onTop t else t) .plain

/-- The characters with their labels. -/
def labelled (m : Marked) : List (Char × Label) :=
  m.text.zipIdx.map fun e => (e.1, m.labelAt e.2)

/-- Whether a character is a bracket of any kind. -/
def isBracket (c : Char) : Bool :=
  c = '[' || c = ']' || c = '\x7b' || c = '\x7d' || c = '(' || c = ')'

/-- The text with its brackets in bold, below all other styles. -/
def withBoldBrackets (m : Marked) : Marked :=
  let bold : Style := Style.plain.withAttribute .bold true
  let brackets := (m.text.zipIdx.filter fun e => isBracket e.1).map fun e => ⟨e.2, e.2 + 1, bold⟩
  { m with spans := brackets ++ m.spans }

end Marked

end StorageKey.Markup
