import StorageKey.Text.Separated

/-!
# Paths

A path is a list of names below an anchor: the working directory, the root, or the second root
that exactly two leading slashes name. Empty names and single dots are dropped when a path is
read; a double dot is kept, since what it leads to depends on the file system.

* `Path.ofString`, `Path.text`: reading and writing;
* `Path.join`: the path below a path.

A path that is read is found again in its text (`Path.ofString_text`).
-/

namespace StorageKey

/-- Where a path starts. -/
inductive Anchor
  | here
  | root
  | doubleRoot
  deriving DecidableEq, Repr

/-- A path: its anchor and the names below it. -/
structure Path where
  anchor : Anchor
  names : List String
  deriving DecidableEq, Repr

namespace Path

/-- Whether a name leads anywhere: it is neither empty nor a single dot. -/
def isName (n : List Char) : Bool := n ≠ [] && n ≠ ['.']

/-- How many slashes a text starts with. -/
def leadingSlashes (s : List Char) : Nat := (s.takeWhile (· = '/')).length

/-- The path a text spells. -/
def ofString (s : String) : Path :=
  let cs := s.toList
  let n := leadingSlashes cs
  { anchor := if n = 0 then .here else if n = 2 then .doubleRoot else .root
    names := ((Text.separate '/' cs).filter isName).map String.ofList }

/-- The text of an anchor. -/
def anchorText : Anchor → String
  | .here => ""
  | .root => "/"
  | .doubleRoot => "//"

/-- The text of a path; the working directory itself is a dot. -/
def text (p : Path) : String :=
  if p.anchor = .here ∧ p.names = [] then "."
  else anchorText p.anchor ++ String.intercalate "/" p.names

/-- The path of names below a path. -/
def join (p : Path) (names : List String) : Path := { p with names := p.names ++ names }

/-- The names of a path that is read hold no slash. -/
theorem slash_not_mem_of_mem_names_ofString {s n : String} (h : n ∈ (ofString s).names) :
    '/' ∉ n.toList := by
  obtain ⟨m, hm, rfl⟩ := List.mem_map.1 h
  simpa using Text.not_mem_of_mem_separate (List.mem_filter.1 hm).1

/-! ### Reading back -/

/-- Whether all names of a path can stand in a text: they lead somewhere, and hold no slash. -/
def HasNames (p : Path) : Prop := ∀ n ∈ p.names, isName n.toList ∧ '/' ∉ n.toList

theorem hasNames_ofString (s : String) : (ofString s).HasNames := by
  intro n hn
  refine ⟨?_, slash_not_mem_of_mem_names_ofString hn⟩
  obtain ⟨m, hm, rfl⟩ := List.mem_map.1 hn
  rw [String.toList_ofList]
  exact (List.mem_filter.1 hm).2

variable {ns : List String} (h : ∀ n ∈ ns, isName n.toList ∧ '/' ∉ n.toList)

include h

theorem leadingSlashes_intercalate : leadingSlashes (String.intercalate "/" ns).toList = 0 := by
  cases ns with
  | nil => rfl
  | cons n ns =>
    obtain ⟨hn, hs⟩ := h n List.mem_cons_self
    rw [String.toList_intercalate, List.map_cons]
    cases hl : n.toList with
    | nil =>
      rw [hl] at hn
      cases hn
    | cons c r =>
      rw [hl, List.mem_cons, not_or] at hs
      cases ns <;> simp [List.intercalate, leadingSlashes, Ne.symm hs.1]

/-- The names between the slashes of a text are read back. -/
theorem names_intercalate :
    ((Text.separate '/' (String.intercalate "/" ns).toList).filter isName).map String.ofList = ns := by
  by_cases hn : ns = []
  · subst hn
    rfl
  have parts : ∀ p ∈ ns.map String.toList, isName p ∧ '/' ∉ p := by
    intro p hp
    obtain ⟨n, hn, rfl⟩ := List.mem_map.1 hp
    exact h n hn
  rw [String.toList_intercalate, show "/".toList = ['/'] from rfl, ← Text.joinWith_eq_intercalate,
    Text.separate_joinWith (by simpa using hn) fun p hp => (parts p hp).2,
    List.filter_eq_self.2 fun p hp => (parts p hp).1, List.map_map]
  simp [Function.comp_def]

omit h

/-- A path is read back from its text. -/
theorem ofString_text {p : Path} (h : p.HasNames) : ofString p.text = p := by
  obtain ⟨anchor, names⟩ := p
  have hl : leadingSlashes (String.intercalate "/" names).toList = 0 := leadingSlashes_intercalate h
  have hn := names_intercalate h
  by_cases hd : anchor = .here ∧ names = []
  · obtain ⟨rfl, rfl⟩ := hd
    decide
  · have ht : text ⟨anchor, names⟩ = anchorText anchor ++ String.intercalate "/" names := if_neg hd
    rw [ht]
    clear ht hd
    unfold leadingSlashes at hl
    generalize String.intercalate "/" names = body at hl hn
    cases anchor with
    | here => simp [ofString, anchorText, leadingSlashes, hl, hn]
    | root => simp [ofString, anchorText, leadingSlashes, hl, hn, Text.separate, isName]
    | doubleRoot => simp [ofString, anchorText, leadingSlashes, hl, hn, Text.separate, isName]

end Path

end StorageKey
