/-!
# Texts that start with another

* `isStart`: whether one text starts another;
* `after?`: what follows a given start.
-/

namespace StorageKey.Text

/-- Whether one text starts another. -/
def isStart (start s : String) : Bool := start.toList.isPrefixOf s.toList

/-- The rest of a text after a given start. -/
def after? (start : String) (s : List Char) : Option (List Char) :=
  if start.toList.isPrefixOf s then some (s.drop start.toList.length) else none

theorem after?_eq_some_iff {start : String} {s r : List Char} :
    after? start s = some r ↔ s = start.toList ++ r := by
  unfold after?
  constructor
  · intro h
    split at h
    · next hp =>
      obtain ⟨t, rfl⟩ := List.isPrefixOf_iff_prefix.1 hp
      simp_all
    · simp at h
  · rintro rfl
    simp

@[simp] theorem after?_append (start : String) (r : List Char) :
    after? start (start.toList ++ r) = some r :=
  after?_eq_some_iff.2 rfl

theorem after?_eq_none_iff {start : String} {s : List Char} :
    after? start s = none ↔ ¬ start.toList <+: s := by
  simp [after?]

end StorageKey.Text
