import StorageKey.Text.Separated

/-!
# Lines of a text

* `isLineBoundary`: the characters that end a line, Unicode's separators among them;
* `splitLines`: the lines of a text without their boundaries. A carriage return and the line
  feed after it are one boundary, and a text that ends in a boundary has no further empty line;
* `unifyNewlines`: every newline convention of text files read as a line feed.

A line ends at its boundary (`splitLines_append_cons`).
-/

namespace StorageKey.Text

/-- The characters that end a line. -/
def isLineBoundary (c : Char) : Bool :=
  c = '\n' || c = '\r' || c = '\x0b' || c = '\x0c' || c = '\x1c' || c = '\x1d' || c = '\x1e' ||
  c = '\u0085' || c = '\u2028' || c = '\u2029'

/-- The lines of a text, without their boundaries. -/
def splitLines : List Char → List (List Char)
  | [] => []
  | [c] => if isLineBoundary c then [[]] else [[c]]
  | c :: d :: r =>
    if c = '\r' ∧ d = '\n' then [] :: splitLines r
    else if isLineBoundary c then [] :: splitLines (d :: r)
    else consFirst c (splitLines (d :: r))

/-- Carriage returns, alone or before a line feed, become line feeds. -/
def unifyNewlines : List Char → List Char
  | [] => []
  | [c] => if c = '\r' then ['\n'] else [c]
  | c :: d :: r =>
    if c = '\r' then (if d = '\n' then '\n' :: unifyNewlines r else '\n' :: unifyNewlines (d :: r))
    else c :: unifyNewlines (d :: r)

/-! ### Lines -/

@[simp] theorem splitLines_nil : splitLines [] = [] := rfl

/-- A text without boundaries is one line. -/
theorem splitLines_of_noBoundary {s : List Char} (hs : s ≠ [])
    (h : ∀ c ∈ s, isLineBoundary c = false) : splitLines s = [s] := by
  fun_induction splitLines s with
  | case1 => contradiction
  | case2 x hx => simp_all
  | case3 x hx => rfl
  | case4 x y r hxy ih => simp_all [isLineBoundary]
  | case5 x y r hxy hx ih => simp_all
  | case6 x y r hxy hx ih =>
    rw [ih (by simp) fun c hc => h c (List.mem_cons_of_mem _ hc)]
    rfl

/-- A line ends at its boundary, if the boundary does not go on with the text after it. -/
theorem splitLines_append_cons {l r : List Char} {b : Char} (hl : ∀ c ∈ l, isLineBoundary c = false)
    (hb : isLineBoundary b = true) (hr : b = '\r' → r.head? ≠ some '\n') :
    splitLines (l ++ b :: r) = l :: splitLines r := by
  induction l with
  | nil => cases r <;> simp_all [splitLines]
  | cons x l ih =>
    have hx := hl x List.mem_cons_self
    have ih := ih fun c hc => hl c (List.mem_cons_of_mem _ hc)
    have hx' : x ≠ '\r' := by rintro rfl; simp [isLineBoundary] at hx
    cases l with
    | nil => simp_all [splitLines, consFirst]
    | cons y l => simp_all [splitLines, consFirst]

/-! ### Newlines -/

theorem unifyNewlines_of_not_mem {s : List Char} (h : '\r' ∉ s) : unifyNewlines s = s := by
  fun_induction unifyNewlines s <;> simp_all

end StorageKey.Text
