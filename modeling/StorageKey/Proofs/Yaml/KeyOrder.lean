import Mathlib.Data.String.Basic
import StorageKey.Yaml.Writer

/-!
# The order of keys in a written document

Before data are written, the entries of every mapping in them are put in the order of their keys.
Nothing else changes: no entry is lost or doubled, and items of sequences stay where they are.

* `InOrder`: data in which all keys are in order;
* `Reordered`: the same data, with the entries of mappings in another order;
* `inOrder_sorted`, `reordered_sorted`: what is written is both.
-/

namespace StorageKey.Yaml

/-- Data in which the entries of every mapping stand in the order of their keys. -/
inductive InOrder : Datum → Prop
  | null : InOrder .null
  | bool (b : Bool) : InOrder (.bool b)
  | int (i : Int) : InOrder (.int i)
  | real (x : Decimal.Binary64) : InOrder (.real x)
  | text (s : String) : InOrder (.text s)
  | list {ds : List Datum} (h : ∀ d ∈ ds, InOrder d) : InOrder (.list ds)
  | map {es : List (String × Datum)} (h : ∀ e ∈ es, InOrder e.2)
      (hk : es.Pairwise fun e f => e.1 ≤ f.1) : InOrder (.map es)

mutual

/-- Data that differ only in the order of entries of mappings. -/
inductive Reordered : Datum → Datum → Prop
  | same (d : Datum) : Reordered d d
  | list {ds ds' : List Datum} (h : ReorderedList ds ds') : Reordered (.list ds) (.list ds')
  | map {es fs gs : List (String × Datum)} (h : ReorderedEntries es fs) (hp : fs.Perm gs) :
      Reordered (.map es) (.map gs)

/-- Lists whose items differ only in the order of entries. -/
inductive ReorderedList : List Datum → List Datum → Prop
  | nil : ReorderedList [] []
  | cons {d d' : Datum} {ds ds' : List Datum} (hd : Reordered d d') (h : ReorderedList ds ds') :
      ReorderedList (d :: ds) (d' :: ds')

/-- Entries of the same keys whose values differ only in the order of entries. -/
inductive ReorderedEntries : List (String × Datum) → List (String × Datum) → Prop
  | nil : ReorderedEntries [] []
  | cons {k : String} {d d' : Datum} {es fs : List (String × Datum)} (hd : Reordered d d')
      (h : ReorderedEntries es fs) : ReorderedEntries ((k, d) :: es) ((k, d') :: fs)

end

variable {es : List (String × Datum)} {e : String × Datum}

/-! ### Entries -/

theorem perm_insertEntry (e : String × Datum) (es : List (String × Datum)) :
    (insertEntry e es).Perm (e :: es) := by
  induction es with
  | nil => exact .refl _
  | cons f es ih =>
    rw [insertEntry]
    split
    · exact .refl _
    · exact (ih.cons f).trans (.swap e f es)

theorem perm_sortEntries (es : List (String × Datum)) : (sortEntries es).Perm es := by
  induction es with
  | nil => exact .refl _
  | cons e es ih => exact (perm_insertEntry e _).trans (ih.cons e)

theorem pairwise_insertEntry (h : es.Pairwise fun e f => e.1 ≤ f.1) (e : String × Datum) :
    (insertEntry e es).Pairwise fun e f => e.1 ≤ f.1 := by
  induction es with
  | nil => exact List.pairwise_singleton _ _
  | cons f es ih =>
    obtain ⟨hf, hes⟩ := List.pairwise_cons.1 h
    rw [insertEntry]
    split
    · next hlt =>
      refine List.pairwise_cons.2 ⟨List.forall_mem_cons.2 ⟨hlt.le, fun g hg => ?_⟩, h⟩
      exact hlt.le.trans (hf g hg)
    · next hge =>
      refine List.pairwise_cons.2 ⟨fun g hg => ?_, ih hes⟩
      rcases List.mem_cons.1 ((perm_insertEntry e es).mem_iff.1 hg) with rfl | hg
      · exact not_lt.1 hge
      · exact hf g hg

theorem pairwise_sortEntries (es : List (String × Datum)) :
    (sortEntries es).Pairwise fun e f => e.1 ≤ f.1 := by
  induction es with
  | nil => exact .nil
  | cons e es ih => exact pairwise_insertEntry ih e

/-! ### Data -/

mutual

theorem inOrder_sorted : ∀ d : Datum, InOrder (sorted d)
  | .null => .null
  | .bool b => .bool b
  | .int i => .int i
  | .real x => .real x
  | .text s => .text s
  | .list ds => .list (inOrder_sortedList ds)
  | .map es => .map (fun e he => inOrder_sortedEntries es e ((perm_sortEntries _).mem_iff.1 he))
      (pairwise_sortEntries _)

theorem inOrder_sortedList : ∀ ds : List Datum, ∀ d ∈ sortedList ds, InOrder d
  | [] => nofun
  | d :: ds => List.forall_mem_cons.2 ⟨inOrder_sorted d, inOrder_sortedList ds⟩

theorem inOrder_sortedEntries :
    ∀ es : List (String × Datum), ∀ e ∈ sortedEntries es, InOrder e.2
  | [] => nofun
  | (_, d) :: es => List.forall_mem_cons.2 ⟨inOrder_sorted d, inOrder_sortedEntries es⟩

end

mutual

theorem reordered_sorted : ∀ d : Datum, Reordered d (sorted d)
  | .null | .bool _ | .int _ | .real _ | .text _ => .same _
  | .list ds => .list (reordered_sortedList ds)
  | .map es => .map (reordered_sortedEntries es) (perm_sortEntries _).symm

theorem reordered_sortedList : ∀ ds : List Datum, ReorderedList ds (sortedList ds)
  | [] => .nil
  | d :: ds => .cons (reordered_sorted d) (reordered_sortedList ds)

theorem reordered_sortedEntries :
    ∀ es : List (String × Datum), ReorderedEntries es (sortedEntries es)
  | [] => .nil
  | (_, d) :: es => .cons (reordered_sorted d) (reordered_sortedEntries es)

end

end StorageKey.Yaml
