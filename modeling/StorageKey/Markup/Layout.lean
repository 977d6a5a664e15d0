import StorageKey.Text.Blank
import StorageKey.Text.Width

/-!
# Lines of a given width

A text is laid out in lines of at most a given number of cells. Lines break between words; a word
that is wider than a line is broken where the line ends. Blanks at the end of a line are kept as
long as they fit. Characters may carry labels, which stay with them.

* `breakPoints`: where a line of text is broken;
* `layOut`: the lines of a text.
-/

namespace StorageKey.Markup

open StorageKey.Text

variable {α : Type}

/-- The characters of a labelled text. -/
def chars (s : List (Char × α)) : List Char := s.map (·.1)

/-! ### Words -/

/-- Each word with the blanks after it. -/
def joinPairs : List (List Char) → List (List Char)
  | [] => []
  | [w] => [w]
  | w :: b :: r => (w ++ b) :: joinPairs r

/-- The words of a text, each with the blanks after it, the first also with those before it. -/
def wordsWithBlanks (s : List Char) : List (List Char) :=
  match s.splitBy fun a b => isBlank a == isBlank b with
  | [] => []
  | first :: r =>
    if allBlank first then
      match joinPairs r with
      | [] => []
      | w :: ws => (first ++ w) :: ws
    else joinPairs (first :: r)

/-- A word in parts of at most `width` cells. `used` counts the cells of the part that is open. -/
def chopFrom (width used : Nat) : List Char → List (List Char)
  | [] => [[]]
  | c :: r =>
    if used + cellWidth c > width then
      [] :: (match chopFrom width (cellWidth c) r with
        | [] => [[c]]
        | p :: ps => (c :: p) :: ps)
    else
      match chopFrom width (used + cellWidth c) r with
      | [] => [[c]]
      | p :: ps => (c :: p) :: ps

/-- A word in parts of at most `width` cells. -/
def chop (width : Nat) (w : List Char) : List (List Char) := chopFrom width 0 w

/-- Where lines are broken: the place of the next word, the cells used on its line, and the breaks
so far, last first. -/
structure Breaking where
  place : Nat
  used : Nat
  breaks : List Nat

/-- Break before the next part of a word. -/
def Breaking.addPart (b : Breaking) (part : List Char) : Breaking where
  place := b.place + part.length
  used := cells part
  breaks := if b.place = 0 then b.breaks else b.place :: b.breaks

/-- Place a word on the line, or on the next one. -/
def Breaking.addWord (width : Nat) (b : Breaking) (word : List Char) : Breaking :=
  let needed := cells (stripEnd word)
  if b.used + needed ≤ width then
    { b with place := b.place + word.length, used := b.used + cells word }
  else if needed > width then (chop width word).foldl Breaking.addPart b
  else if b.used ≠ 0 ∧ b.place ≠ 0 then
    ⟨b.place + word.length, cells word, b.place :: b.breaks⟩
  else { b with place := b.place + word.length }

/-- The places where a line of text is broken, in ascending order. -/
def breakPoints (width : Nat) (s : List Char) : List Nat :=
  ((wordsWithBlanks s).foldl (Breaking.addWord width) ⟨0, 0, []⟩).breaks.reverse

/-- Cut a list at places, which are counted from `from`. -/
def cutAt (start : Nat) : List Nat → List (Char × α) → List (List (Char × α))
  | [], s => [s]
  | p :: ps, s => s.take (p - start) :: cutAt p ps (s.drop (p - start))

/-! ### Lines -/

/-- A text in lines at its line feeds. -/
def lineParts : List (Char × α) → List (List (Char × α))
  | [] => [[]]
  | c :: r =>
    if c.1 = '\n' then [] :: lineParts r
    else match lineParts r with
      | [] => [[c]]
      | p :: ps => (c :: p) :: ps

/-- Replace tabs by blanks up to the next multiple of eight cells. `column` counts the cells before
the text, and `part` holds the characters since the last tab, last first. -/
def expandTabsFrom (column : Nat) (part : List (Char × α)) : List (Char × α) → List (Char × α)
  | [] => part.reverse
  | c :: r =>
    if c.1 = '\t' then
      let here := column + cells (chars part.reverse) + 1
      let fill := if here % 8 = 0 then 0 else 8 - here % 8
      part.reverse ++ List.replicate (1 + fill) (' ', c.2) ++ expandTabsFrom (here + fill) [] r
    else expandTabsFrom column (c :: part) r

/-- Replace the tabs of a line. -/
def expandTabs (s : List (Char × α)) : List (Char × α) :=
  if s.any (·.1 = '\t') then expandTabsFrom 0 [] s else s

/-- Drop blanks at the end of a line that has more than `width` characters, but no more than are
too many. -/
def dropExcessBlanks (width : Nat) (s : List (Char × α)) : List (Char × α) :=
  let blanks := (s.reverse.takeWhile fun c => isBlank c.1).length
  s.take (s.length - min blanks (s.length - width))

/-- The start of a line that takes at most `width` cells. -/
def takeCells (width : Nat) : List (Char × α) → List (Char × α)
  | [] => []
  | c :: r => if cellWidth c.1 ≤ width then c :: takeCells (width - cellWidth c.1) r else
      (if width = 0 then [] else [(' ', c.2)])

/-- Cut a line to `width` cells. -/
def cropCells (width : Nat) (s : List (Char × α)) : List (Char × α) :=
  if cells (chars s) ≤ width then s else takeCells width s

/-- The lines of a text. -/
def layOut (width : Nat) (s : List (Char × α)) : List (List (Char × α)) :=
  (lineParts s).flatMap fun line =>
    let line := expandTabs line
    (cutAt 0 (breakPoints width (chars line)) line).map fun l =>
      cropCells width (dropExcessBlanks width l)

end StorageKey.Markup
