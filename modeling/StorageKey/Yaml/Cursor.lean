import StorageKey.Yaml.Source

/-!
# A place in a document's text

* `Cursor`: the text that is left, and the place by index, line and column;
* `Cursor.next`, `Cursor.advance`: moving on;
* `Cursor.lineBreak?`: the line break at the cursor;
* `Cursor.fault`: a fault at the cursor, unless the text cannot be read so far.

The end of the text is seen as a NUL, which no document holds.
-/

namespace StorageKey.Yaml

/-- A place in a text. Behind the rest there may be more that cannot be read. -/
structure Cursor where
  rest : List Char
  cut : Option Fault
  index : Nat
  line : Nat
  column : Nat
  deriving DecidableEq, Repr

/-- The characters that break lines. -/
def isBreak (c : Char) : Bool :=
  c = '\n' || c = '\r' || c = '\u0085' || c = '\u2028' || c = '\u2029'

/-- A line break or the end of the text. -/
def isBreakOrEnd (c : Char) : Bool := c = '\x00' || isBreak c

/-- A space, a line break or the end of the text. -/
def isSpaceOrEnd (c : Char) : Bool := c = ' ' || isBreakOrEnd c

/-- A space, a tab, a line break or the end of the text. -/
def isBlankOrEnd (c : Char) : Bool := c = '\t' || isSpaceOrEnd c

/-- The characters of names: ASCII letters, digits, the hyphen and the underscore. -/
def isNameChar (c : Char) : Bool := c.isAlphanum || c = '-' || c = '_'

namespace Cursor

/-- The start of a text. -/
def start (s : Source) : Cursor := ⟨s.text, s.cut, 0, 0, 0⟩

/-- The character at the cursor. -/
def peek (c : Cursor) : Char := c.rest.headD '\x00'

/-- The character `n` places further on. -/
def peekAt (c : Cursor) (n : Nat) : Char := (c.rest.drop n).headD '\x00'

/-- Whether the character ends a line when `r` follows it. -/
def endsLine (x : Char) (r : List Char) : Bool :=
  if x = '\r' then r.head? ≠ some '\n' else isBreak x

/-- The next place. A byte order mark takes no column. -/
def next (c : Cursor) : Cursor :=
  match c.rest with
  | [] => c
  | x :: r =>
    if endsLine x r then { c with rest := r, index := c.index + 1, line := c.line + 1, column := 0 }
    else
      let column := if x = '\ufeff' then c.column else c.column + 1
      { c with rest := r, index := c.index + 1, column }

/-- The place `n` characters further on. -/
def advance : Nat → Cursor → Cursor
  | 0, c => c
  | n + 1, c => advance n c.next

@[simp] theorem rest_next (c : Cursor) : c.next.rest = c.rest.drop 1 := by
  unfold next
  split
  · simp_all
  · split <;> simp_all

@[simp] theorem rest_advance (n : Nat) (c : Cursor) : (c.advance n).rest = c.rest.drop n := by
  induction n generalizing c with
  | zero => rfl
  | succ n ih => simp [advance, ih]

/-- Why the text cannot be read on, if at most `ahead` more characters can be read. -/
def cutWithin? (c : Cursor) (ahead : Nat) : Option Fault :=
  if (c.rest.drop ahead).isEmpty then c.cut else none

/-- A fault that is found out by reading up to `ahead` characters more. -/
def fault (c : Cursor) (ahead : Nat) (f : Fault) : Fault := (c.cutWithin? ahead).getD f

/-- The failure that something else must stand at the cursor. -/
def reject {α : Type} (c : Cursor) : Except Fault α := .error (c.fault 1 .malformed)

/-- How many characters of a class stand at the cursor. -/
def span (c : Cursor) (p : Char → Bool) : Nat := (c.rest.takeWhile p).length

/-- The characters of a class at the cursor, and the place after them. -/
def take (c : Cursor) (p : Char → Bool) : List Char × Cursor :=
  let s := c.rest.takeWhile p
  (s, c.advance s.length)

/-- The place after the characters of a class. -/
def skip (c : Cursor) (p : Char → Bool) : Cursor := c.advance (c.span p)

/-- The text of the line break at the cursor and the place after it. The usual breaks read as a
line feed, the separators of lines and paragraphs as themselves. -/
def lineBreak? (c : Cursor) : Option (Char × Cursor) :=
  let x := c.peek
  if x = '\r' ∧ c.peekAt 1 = '\n' then some ('\n', c.advance 2)
  else if x = '\r' ∨ x = '\n' ∨ x = '\u0085' then some ('\n', c.next)
  else if x = '\u2028' ∨ x = '\u2029' then some (x, c.next)
  else none

/-- The place after a comment, if there is one at the cursor. -/
def skipComment (c : Cursor) : Cursor :=
  if c.peek = '#' then c.skip (fun x => !isBreakOrEnd x) else c

/-- Whether a line of three hyphens or three dots starts at the cursor. -/
def atMarker (c : Cursor) : Bool :=
  let s := c.rest.take 3
  (s = ['-', '-', '-'] || s = ['.', '.', '.']) && isBlankOrEnd (c.peekAt 3)

end Cursor

end StorageKey.Yaml
