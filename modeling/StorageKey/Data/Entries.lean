/-!
# Entries

Lists of pairs are looked up by the first component, of which the first entry counts. What is
looked up after the entries of a name are dropped is stated here for all kinds of names.
-/

namespace StorageKey.Entries

variable {α β : Type} [BEq α] [LawfulBEq α] [DecidableEq α]

/-- Entries of one name do not matter for another. -/
theorem lookup_filter_of_ne (es : List (α × β)) {k x : α} (h : x ≠ k) :
    (es.filter (·.1 ≠ k)).lookup x = es.lookup x := by
  induction es with
  | nil => rfl
  | cons e es ih =>
    obtain ⟨a, b⟩ := e
    by_cases ha : a = k
    · have hx : (x == a) = false := by simpa [ha] using h
      simpa [ha, List.lookup_cons, ha ▸ hx] using ih
    · simp only [ne_eq, ha, not_false_eq_true, decide_true, List.filter_cons_of_pos,
        List.lookup_cons, ← ih]

end StorageKey.Entries
