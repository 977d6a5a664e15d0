/-!
# Parts between separators

* `separate`: the parts of a text between the places of a separator;
* `joinWith`: parts with a separator between them.

Separating loses nothing: `joinWith_separate` puts the text together again. No part holds the
separator (`not_mem_of_mem_separate`), and there is always a part (`separate_ne_nil`). Parts without
the separator are found again (`separate_joinWith`).
-/

namespace StorageKey.Text

variable {α : Type}

/-- Put an element before the first part. -/
def consFirst (a : α) : List (List α) → List (List α)
  | [] => [[a]]
  | p :: ps => (a :: p) :: ps

/-- Parts with a separator between them. -/
def joinWith (sep : List α) : List (List α) → List α
  | [] => []
  | [p] => p
  | p :: ps => p ++ sep ++ joinWith sep ps

/-- The parts between the places of a separator, empty ones included. -/
def separate [DecidableEq α] (sep : α) : List α → List (List α)
  | [] => [[]]
  | a :: r => if a = sep then [] :: separate sep r else consFirst a (separate sep r)

@[simp] theorem consFirst_ne_nil (a : α) (ps : List (List α)) : consFirst a ps ≠ [] := by
  cases ps <;> simp [consFirst]

theorem joinWith_cons {ps : List (List α)} (sep p : List α) (h : ps ≠ []) :
    joinWith sep (p :: ps) = p ++ sep ++ joinWith sep ps := by
  cases ps with
  | nil => contradiction
  | cons q qs => rfl

theorem joinWith_consFirst (sep : List α) (a : α) (ps : List (List α)) :
    joinWith sep (consFirst a ps) = a :: joinWith sep ps := by
  match ps with
  | [] => rfl
  | [p] => rfl
  | p :: q :: qs => rfl

theorem joinWith_eq_intercalate (sep : List α) (ps : List (List α)) :
    joinWith sep ps = sep.intercalate ps := by
  induction ps with
  | nil => rfl
  | cons p ps ih =>
    cases ps with
    | nil => simp [joinWith, List.intercalate]
    | cons q qs =>
      rw [joinWith_cons _ _ (by simp), ih]
      simp [List.intercalate]

variable [DecidableEq α] {sep : α}

theorem separate_ne_nil (s : List α) : separate sep s ≠ [] := by
  cases s with
  | nil => simp [separate]
  | cons a r =>
    simp only [separate]
    split <;> simp

/-- Separating loses nothing. -/
theorem joinWith_separate (s : List α) : joinWith [sep] (separate sep s) = s := by
  induction s with
  | nil => rfl
  | cons a r ih =>
    simp only [separate]
    split
    · rw [joinWith_cons _ _ (separate_ne_nil r), ih]
      simp_all
    · rw [joinWith_consFirst, ih]

/-- No part holds the separator. -/
theorem not_mem_of_mem_separate {s p : List α} (h : p ∈ separate sep s) : sep ∉ p := by
  induction s generalizing p with
  | nil => simp_all [separate]
  | cons a r ih =>
    simp only [separate] at h
    split at h
    · rcases List.mem_cons.1 h with rfl | h
      · simp
      · exact ih h
    · next ha =>
      cases hs : separate sep r with
      | nil => exact absurd hs (separate_ne_nil r)
      | cons q qs =>
        rw [hs] at h ih
        rcases List.mem_cons.1 h with rfl | h
        · simpa [Ne.symm ha] using ih List.mem_cons_self
        · exact ih (List.mem_cons_of_mem _ h)

/-- A part without the separator ends at the next one. -/
theorem separate_append_cons {p : List α} (h : sep ∉ p) (s : List α) :
    separate sep (p ++ sep :: s) = p :: separate sep s := by
  induction p with
  | nil => simp [separate]
  | cons a p ih =>
    rw [List.mem_cons, not_or] at h
    rw [List.cons_append, separate, if_neg (Ne.symm h.1), ih h.2]
    rfl

theorem separate_of_not_mem {p : List α} (h : sep ∉ p) : separate sep p = [p] := by
  induction p with
  | nil => rfl
  | cons a p ih =>
    rw [List.mem_cons, not_or] at h
    rw [separate, if_neg (Ne.symm h.1), ih h.2]
    rfl

/-- Parts without the separator are found again. -/
theorem separate_joinWith {ps : List (List α)} (hn : ps ≠ []) (h : ∀ p ∈ ps, sep ∉ p) :
    separate sep (joinWith [sep] ps) = ps := by
  induction ps with
  | nil => contradiction
  | cons p ps ih =>
    obtain ⟨hp, hps⟩ := List.forall_mem_cons.1 h
    cases ps with
    | nil => exact separate_of_not_mem hp
    | cons q qs =>
      rw [joinWith_cons _ _ (by simp), List.append_assoc, List.singleton_append,
        separate_append_cons hp, ih (by simp) hps]

end StorageKey.Text
