/-!
# A page that is being written

* `Page`: the text so far, the column, and what the last mark leaves: whether a blank stands before
  the next mark, and whether only indentation stands on the line;
* `Page.put`, `Page.newLine`, `Page.indentTo`, `Page.mark`: writing on it.
-/

namespace StorageKey.Yaml

/-- A page that is being written. The text is kept last character first. -/
structure Page where
  reversed : List Char
  column : Nat
  /-- Whether a blank has just been written. -/
  blank : Bool
  /-- Whether only indentation and marks that count as such stand on the line. -/
  indentation : Bool
  deriving DecidableEq, Repr

namespace Page

/-- The empty page. -/
def empty : Page := ⟨[], 0, true, true⟩

/-- The text of a page. -/
def text (p : Page) : List Char := p.reversed.reverse

/-- Write a piece of text that has no line break. -/
def put (p : Page) (s : List Char) : Page :=
  { p with reversed := s.reverse ++ p.reversed, column := p.column + s.length }

/-- End the line. -/
def newLine (p : Page) : Page := ⟨'\n' :: p.reversed, 0, true, true⟩

/-- Go to a column, on a new line unless only indentation stands on this one. -/
def indentTo (p : Page) (indent : Nat) : Page :=
  let p :=
    if !p.indentation || p.column > indent || (p.column = indent && !p.blank) then p.newLine else p
  if p.column < indent then
    { p.put (List.replicate (indent - p.column) ' ') with blank := true }
  else p

/-- Write a blank unless one has just been written. -/
def separate (p : Page) : Page := if p.blank then p else p.put [' ']

/-- Write a mark, after a blank where `apart`. `opening` says that a blank need not follow it, and
`indents` that it counts as indentation. -/
def mark (p : Page) (c : Char) (apart opening indents : Bool) : Page :=
  let p := if apart then p.separate else p
  { p.put [c] with blank := opening, indentation := p.indentation && indents }

/-- Take what is written for text: neither a blank nor indentation. -/
def settled (p : Page) : Page := { p with blank := false, indentation := false }

end Page

end StorageKey.Yaml
