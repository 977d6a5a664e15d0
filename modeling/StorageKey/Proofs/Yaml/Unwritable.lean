import Mathlib.Data.Nat.Digits.Lemmas
import StorageKey.Proofs.Yaml.KeyOrder

/-!
# Data that cannot be written

Data have no document for two reasons: an integer in them is too long, or they are nested too deeply.
Which of the two is met first depends on the order of the keys; whether there is one does not.

* `Datum.At`: what stands in data, and how deep;
* `Datum.Short`, `Datum.Nested`: data without integers that are too long, and data of some depth;
* `Unwritable`: why data cannot be written;
* `writeFault?_sorted_eq_none_iff`, `unwritable_of_writeFault?_sorted`: what is found out is this.
-/

namespace StorageKey

open Decimal Yaml

/-! ### What stands in data -/

/-- A datum stands in data, within some number of collections. -/
inductive Datum.At (x : Datum) : Nat → Datum → Prop
  | here : At x 0 x
  | item {n : Nat} {d : Datum} {ds : List Datum} (hd : d ∈ ds) (h : At x n d) :
      At x (n + 1) (.list ds)
  | value {n : Nat} {e : String × Datum} {es : List (String × Datum)} (he : e ∈ es)
      (h : At x n e.2) : At x (n + 1) (.map es)

/-- No integer in data has more digits than a text may have. -/
def Datum.Short (d : Datum) : Prop := ∀ i n, Datum.At (.int i) n d → i.natAbs < 10 ^ digitLimit

/-- Something stands in data within a number of collections. -/
def Datum.Nested (n : Nat) (d : Datum) : Prop := ∃ x, Datum.At x n d

section

variable {x y d : Datum} {n : Nat}

theorem at_zero_iff : Datum.At x 0 d ↔ x = d := by
  constructor
  · intro h
    cases h
    rfl
  · rintro rfl
    exact .here

theorem at_succ_list_iff {ds : List Datum} :
    Datum.At x (n + 1) (.list ds) ↔ ∃ d ∈ ds, Datum.At x n d := by
  constructor
  · intro h
    cases h with
    | item hd h => exact ⟨_, hd, h⟩
  · rintro ⟨d, hd, h⟩
    exact .item hd h

theorem at_succ_map_iff {es : List (String × Datum)} :
    Datum.At x (n + 1) (.map es) ↔ ∃ e ∈ es, Datum.At x n e.2 := by
  constructor
  · intro h
    cases h with
    | value he h => exact ⟨_, he, h⟩
  · rintro ⟨e, he, h⟩
    exact .value he h

theorem nested_succ_iff : d.Nested (n + 1) ↔ match d with
    | .list ds => ∃ d ∈ ds, d.Nested n
    | .map es => ∃ e ∈ es, e.2.Nested n
    | _ => False := by
  unfold Datum.Nested
  cases d with
  | list ds =>
    simp only [at_succ_list_iff]
    exact ⟨fun ⟨x, d, hd, h⟩ => ⟨d, hd, x, h⟩, fun ⟨d, hd, x, h⟩ => ⟨x, d, hd, h⟩⟩
  | map es =>
    simp only [at_succ_map_iff]
    exact ⟨fun ⟨x, e, he, h⟩ => ⟨e, he, x, h⟩, fun ⟨e, he, x, h⟩ => ⟨x, e, he, h⟩⟩
  | _ => exact iff_of_false (fun ⟨_, h⟩ => nomatch h) id

/-- Whether data hold no other data. -/
def Datum.isScalar : Datum → Bool
  | .list _ | .map _ => false
  | _ => true

theorem not_nested_of_isScalar (h : d.isScalar = true) (n : Nat) : ¬d.Nested (n + 1) := by
  rw [nested_succ_iff]
  cases d <;> simp_all [Datum.isScalar]

theorem not_nested_of_flat {es : List (String × Datum)} (h : ∀ e ∈ es, e.2.isScalar = true)
    (n : Nat) : ¬(Datum.map es).Nested (n + 2) := by
  rw [nested_succ_iff]
  rintro ⟨e, he, hn⟩
  exact not_nested_of_isScalar (h e he) n hn

theorem sortedList_eq_map (ds : List Datum) : sortedList ds = ds.map sorted := by
  induction ds with
  | nil => rfl
  | cons d ds ih => rw [sortedList, ih, List.map_cons]

theorem sortedEntries_eq_map (es : List (String × Datum)) :
    sortedEntries es = es.map fun e => (e.1, sorted e.2) := by
  induction es with
  | nil => rfl
  | cons e es ih =>
    obtain ⟨k, d⟩ := e
    rw [sortedEntries, ih, List.map_cons]

/-- Putting the keys in order moves nothing to another depth. -/
theorem at_sorted_iff : Datum.At y n (sorted d) ↔ ∃ x, Datum.At x n d ∧ y = sorted x := by
  induction n generalizing d with
  | zero => simp [at_zero_iff]
  | succ n ih =>
    cases d with
    | list ds =>
      rw [sorted, sortedList_eq_map]
      simp only [at_succ_list_iff, List.mem_map, exists_exists_and_eq_and, ih]
      exact ⟨fun ⟨d, hd, x, hx, eq⟩ => ⟨x, ⟨d, hd, hx⟩, eq⟩,
        fun ⟨x, ⟨d, hd, hx⟩, eq⟩ => ⟨d, hd, x, hx, eq⟩⟩
    | map es =>
      rw [sorted, sortedEntries_eq_map]
      simp only [at_succ_map_iff, (perm_sortEntries _).mem_iff, List.mem_map,
        exists_exists_and_eq_and, ih]
      exact ⟨fun ⟨e, he, x, hx, eq⟩ => ⟨x, ⟨e, he, hx⟩, eq⟩,
        fun ⟨x, ⟨e, he, hx⟩, eq⟩ => ⟨e, he, x, hx, eq⟩⟩
    | _ => exact iff_of_false (fun h => nomatch h) fun ⟨_, h, _⟩ => nomatch h

theorem short_sorted_iff : (sorted d).Short ↔ d.Short := by
  have int (i : Int) (x : Datum) : .int i = sorted x ↔ x = .int i := by
    cases x <;> simp [sorted, eq_comm]
  simp only [Datum.Short, at_sorted_iff, int, exists_eq_right]

theorem nested_sorted_iff : (sorted d).Nested n ↔ d.Nested n := by
  simp only [Datum.Nested, at_sorted_iff]
  exact ⟨fun ⟨_, x, hx, _⟩ => ⟨x, hx⟩, fun ⟨x, hx⟩ => ⟨_, x, hx, rfl⟩⟩

end

/-! ### Why data cannot be written -/

/-- Why data cannot be written where `room` of them may stand within one another. -/
inductive Unwritable (room : Nat) (d : Datum) : WriteFault → Prop
  | tooLarge (h : ¬d.Short) : Unwritable room d .tooLarge
  | tooDeep (h : d.Nested room) : Unwritable room d .tooDeep

section

variable {room : Nat} {d : Datum} {f : WriteFault}

theorem listFault?_eq_none_iff {ds : List Datum} :
    listFault? room ds = none ↔ ∀ d ∈ ds, writeFault? room d = none := by
  induction ds with
  | nil => simp [listFault?]
  | cons d ds ih => rw [listFault?, Option.or_eq_none_iff, ih, List.forall_mem_cons]

theorem entriesFault?_eq_none_iff {es : List (String × Datum)} :
    entriesFault? room es = none ↔ ∀ e ∈ es, writeFault? room e.2 = none := by
  induction es with
  | nil => simp [entriesFault?]
  | cons e es ih =>
    obtain ⟨k, d⟩ := e
    rw [entriesFault?, Option.or_eq_none_iff, ih, List.forall_mem_cons]

theorem exists_of_listFault? {ds : List Datum} (h : listFault? room ds = some f) :
    ∃ d ∈ ds, writeFault? room d = some f := by
  induction ds with
  | nil => cases h
  | cons d ds ih =>
    rw [listFault?, Option.or_eq_some_iff] at h
    rcases h with h | ⟨-, h⟩
    · exact ⟨d, List.mem_cons_self, h⟩
    · obtain ⟨d', hd, h⟩ := ih h
      exact ⟨d', List.mem_cons_of_mem _ hd, h⟩

theorem exists_of_entriesFault? {es : List (String × Datum)} (h : entriesFault? room es = some f) :
    ∃ e ∈ es, writeFault? room e.2 = some f := by
  induction es with
  | nil => cases h
  | cons e es ih =>
    obtain ⟨k, d⟩ := e
    rw [entriesFault?, Option.or_eq_some_iff] at h
    rcases h with h | ⟨-, h⟩
    · exact ⟨(k, d), List.mem_cons_self, h⟩
    · obtain ⟨e, he, h⟩ := ih h
      exact ⟨e, List.mem_cons_of_mem _ he, h⟩

theorem writeFault?_zero (d : Datum) : writeFault? 0 d = some .tooDeep := by
  cases d <;> rfl

/-- Why an item of a list or a value of a mapping cannot be written is why they cannot. -/
theorem Unwritable.outward {c : Datum} (h : Unwritable room d f)
    (out : ∀ x n, Datum.At x n d → Datum.At x (n + 1) c) : Unwritable (room + 1) c f := by
  cases h with
  | tooLarge h => exact .tooLarge fun short => h fun i n hi => short i (n + 1) (out _ n hi)
  | tooDeep h =>
    obtain ⟨x, hx⟩ := h
    exact .tooDeep ⟨x, out x room hx⟩

theorem short_int_iff {i : Int} :
    (Datum.int i).Short ↔ (Nat.toDigits 10 i.natAbs).length ≤ digitLimit := by
  rw [Nat.length_toDigits_le_iff (by decide) (by decide)]
  refine ⟨fun h => h i 0 .here, fun h j n hj => ?_⟩
  cases hj
  exact h

/-- The reason that is met is one. -/
theorem unwritable_of_writeFault? (h : writeFault? room d = some f) : Unwritable room d f := by
  induction room generalizing d with
  | zero =>
    rw [writeFault?_zero] at h
    cases h
    exact .tooDeep ⟨d, .here⟩
  | succ room ih =>
    cases d with
    | int i =>
      rw [writeFault?] at h
      split at h
      · cases h
      · next g hg =>
        cases h
        unfold writeInt at hg
        split at hg
        · next long =>
          cases hg
          exact .tooLarge fun short => absurd (short_int_iff.1 short) (Nat.not_le_of_lt long)
        · cases hg
    | list ds =>
      obtain ⟨d, hd, h⟩ := exists_of_listFault? h
      exact (ih h).outward fun _ _ hx => .item hd hx
    | map es =>
      obtain ⟨e, he, h⟩ := exists_of_entriesFault? h
      exact (ih h).outward fun _ _ hx => .value he hx
    | _ => cases h

/-- Where no reason is met, there is none. -/
theorem short_of_writeFault?_eq_none (h : writeFault? room d = none) :
    d.Short ∧ ¬d.Nested room := by
  induction room generalizing d with
  | zero =>
    rw [writeFault?_zero] at h
    cases h
  | succ room ih =>
    cases d with
    | int i =>
      rw [writeFault?] at h
      split at h
      · next s hs => exact ⟨short_int_iff.2 (writeInt_eq_ok_iff.1 hs).1, fun ⟨_, h⟩ => nomatch h⟩
      · cases h
    | list ds =>
      have all := listFault?_eq_none_iff.1 h
      refine ⟨fun i n hi => ?_, fun ⟨x, hx⟩ => ?_⟩
      · cases hi with
        | item hd hi => exact (ih (all _ hd)).1 i _ hi
      · cases hx with
        | item hd hx => exact (ih (all _ hd)).2 ⟨x, hx⟩
    | map es =>
      have all := entriesFault?_eq_none_iff.1 h
      refine ⟨fun i n hi => ?_, fun ⟨x, hx⟩ => ?_⟩
      · cases hi with
        | value he hi => exact (ih (all _ he)).1 i _ hi
      · cases hx with
        | value he hx => exact (ih (all _ he)).2 ⟨x, hx⟩
    | _ =>
      refine ⟨fun i n hi => ?_, fun ⟨_, h⟩ => nomatch h⟩
      cases hi

/-- Data can be written just if no integer in them is too long and they are not nested too deeply. -/
theorem writeFault?_eq_none_iff : writeFault? room d = none ↔ d.Short ∧ ¬d.Nested room := by
  refine ⟨short_of_writeFault?_eq_none, fun ⟨short, shallow⟩ => ?_⟩
  cases h : writeFault? room d with
  | none => rfl
  | some f =>
    cases unwritable_of_writeFault? h with
    | tooLarge long => exact absurd short long
    | tooDeep deep => exact absurd deep shallow

theorem writeFault?_sorted_eq_none_iff :
    writeFault? room (sorted d) = none ↔ d.Short ∧ ¬d.Nested room := by
  rw [writeFault?_eq_none_iff, short_sorted_iff, nested_sorted_iff]

theorem unwritable_of_writeFault?_sorted (h : writeFault? room (sorted d) = some f) :
    Unwritable room d f := by
  cases unwritable_of_writeFault? h with
  | tooLarge long => exact .tooLarge fun short => long (short_sorted_iff.2 short)
  | tooDeep deep => exact .tooDeep (nested_sorted_iff.1 deep)

end

end StorageKey
