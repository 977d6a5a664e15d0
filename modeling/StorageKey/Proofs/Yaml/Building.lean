import Mathlib
import StorageKey.Yaml.Document

/-!
# Building comes to an end

Three repetitions build the values of a document, and each of them is given a bound. Each merge key
is dropped when it is resolved, and no other arises, so that the merge keys of a graph bound the first.
Each collection waits to be filled once, so that the nodes bound the second. A path through collections
ends at the first one that it meets again, so that no path is longer than what is known of the nodes.

* `Ends`: steps whose failures do not say that a bound is reached;
* `Graph.Resolved`: what becomes of a graph when merge keys are resolved;
* `ends_flatten`, `ends_fillAll`: the first two repetitions end;
* `valueOf_eq`: a larger bound makes no difference to the third.
-/

namespace StorageKey.Yaml

/-! ### Steps -/

/-- A result of a kind, or a fault other than that a bound is reached. -/
def Ends {α : Type} (P : α → Prop) : Except Fault α → Prop
  | .ok a => P a
  | .error f => f ≠ .endless

section

variable {α β : Type} {P : α → Prop} {Q : β → Prop}

theorem Ends.bind {x : Except Fault α} {f : α → Except Fault β} (hx : Ends P x)
    (hf : ∀ a, P a → Ends Q (f a)) : Ends Q (x >>= f) := by
  cases x with
  | ok a => exact hf a hx
  | error e => exact hx

theorem Ends.mono {x : Except Fault α} {Q : α → Prop} (hx : Ends P x) (h : ∀ a, P a → Q a) :
    Ends Q x := by
  cases x with
  | ok a => exact h a hx
  | error e => exact hx

theorem Ends.ite {c : Prop} [Decidable c] {x y : Except Fault α} (hx : Ends P x) (hy : Ends P y) :
    Ends P (if c then x else y) := by
  split
  · exact hx
  · exact hy

theorem ends_malformed : Ends P (.error .malformed) := nofun

theorem ends_tooDeep : Ends P (.error .tooDeep) := nofun

end

/-! ### Merge keys -/

namespace Graph

variable {g g' g'' : Graph} {id : Nat} {es : List (Nat × Nat)}

theorem size_setEntries (g : Graph) (id : Nat) (es : List (Nat × Nat)) :
    (g.setEntries id es).size = g.size := by
  unfold setEntries
  split <;> simp

theorem isMerge_setEntries (g : Graph) (id : Nat) (es : List (Nat × Nat)) :
    (g.setEntries id es).isMerge = g.isMerge := by
  funext e
  unfold setEntries
  split
  · next t old hn =>
    unfold isMerge tagOf
    rw [Array.getElem?_setIfInBounds]
    split
    · next he =>
      subst he
      obtain ⟨inside, -⟩ := Array.getElem?_eq_some_iff.1 hn
      rw [if_pos inside, hn]
      rfl
    · rfl
  · rfl

theorem entriesOf_setEntries_of_ne {other : Nat} (h : other ≠ id) (g : Graph)
    (es : List (Nat × Nat)) : (g.setEntries id es).entriesOf other = g.entriesOf other := by
  unfold setEntries
  split
  · unfold entriesOf entries?
    rw [Array.getElem?_setIfInBounds, if_neg (Ne.symm h)]
  · rfl

/-- The new entries are those of the node, unless it is no mapping. -/
theorem entriesOf_setEntries_self (g : Graph) (id : Nat) (es : List (Nat × Nat)) :
    (g.setEntries id es).entriesOf id = es ∨ (g.setEntries id es).entriesOf id = [] := by
  unfold setEntries
  split
  · next t old hn =>
    obtain ⟨inside, -⟩ := Array.getElem?_eq_some_iff.1 hn
    left
    unfold entriesOf entries?
    rw [Array.getElem?_setIfInBounds, if_pos rfl, if_pos inside]
    rfl
  · next none =>
    right
    unfold entriesOf entries?
    split
    · next t old hn => exact absurd hn (none t old)
    · rfl

theorem size_asText (g : Graph) (id : Nat) : (g.asText id).size = g.size := by
  unfold asText
  split <;> simp

/-- Taking a node for a text changes no entries. -/
theorem entriesOf_asText (g : Graph) (id other : Nat) :
    (g.asText id).entriesOf other = g.entriesOf other := by
  unfold asText
  split
  all_goals
    first
    | rfl
    | next hn =>
      obtain ⟨inside, -⟩ := Array.getElem?_eq_some_iff.1 hn
      unfold entriesOf entries?
      rw [Array.getElem?_setIfInBounds]
      by_cases he : id = other
      · rw [if_pos he, if_pos inside, ← he, hn]
      · rw [if_neg he]

/-- A value key that is taken for a text is no merge key before or after. -/
theorem isMerge_asText (h : g.tagOf id = .value) : (g.asText id).isMerge = g.isMerge := by
  have text {n n' : Node} (hn : g[id]? = some n) (ht : n'.tag = .str) (e : Nat × Nat) :
      Graph.isMerge (g.setIfInBounds id n') e = g.isMerge e := by
    obtain ⟨inside, -⟩ := Array.getElem?_eq_some_iff.1 hn
    by_cases he : id = e.1
    · have now : Graph.tagOf (g.setIfInBounds id n') e.1 = .str := by
        simp [tagOf, ← he, ht, inside]
      rw [isMerge, isMerge, now, ← he, h]
      rfl
    · rw [isMerge, isMerge, tagOf, tagOf, Array.getElem?_setIfInBounds, if_neg he]
  funext e
  unfold asText
  split
  · next hn => exact text hn rfl e
  · next hn => exact text hn rfl e
  · next hn => exact text hn rfl e
  · rfl

/-- Taking value keys for texts changes neither entries nor merge keys. -/
theorem valuesAsText_spec (g : Graph) (es : List (Nat × Nat)) :
    (g.valuesAsText es).size = g.size ∧ (g.valuesAsText es).isMerge = g.isMerge ∧
      ∀ id, (g.valuesAsText es).entriesOf id = g.entriesOf id := by
  induction es generalizing g with
  | nil => exact ⟨rfl, rfl, fun _ => rfl⟩
  | cons e es ih =>
    rw [valuesAsText, List.foldl_cons]
    split
    · next hv =>
      obtain ⟨size, merge, entries⟩ := ih (g.asText e.1)
      exact ⟨size.trans (size_asText _ _), merge.trans (isMerge_asText hv),
        fun id => (entries id).trans (entriesOf_asText _ _ _)⟩
    · exact ih g

/-- Whether none of some entries is a merge key. -/
def Plain (g : Graph) (es : List (Nat × Nat)) : Prop := ∀ e ∈ es, g.isMerge e = false

theorem plain_append {es fs : List (Nat × Nat)} : g.Plain (es ++ fs) ↔ g.Plain es ∧ g.Plain fs :=
  List.forall_mem_append

/-- What becomes of a graph when merge keys of one of its mappings are resolved: every other mapping
has the entries that it had, or no merge key any more. -/
structure ResolvedBut (id : Nat) (g g' : Graph) : Prop where
  size : g'.size = g.size
  merge : g'.isMerge = g.isMerge
  entries : ∀ other, other ≠ id → g'.entriesOf other = g.entriesOf other ∨ g.Plain (g'.entriesOf other)

/-- What becomes of a graph when a mapping's merge keys are all resolved. -/
structure Resolved (g g' : Graph) : Prop where
  size : g'.size = g.size
  merge : g'.isMerge = g.isMerge
  entries : ∀ other, g'.entriesOf other = g.entriesOf other ∨ g.Plain (g'.entriesOf other)

theorem Resolved.refl (g : Graph) : g.Resolved g := ⟨rfl, rfl, fun _ => .inl rfl⟩

theorem Resolved.plain (h : g.Resolved g') : g'.Plain es ↔ g.Plain es := by
  simp only [Plain, h.merge]

theorem Resolved.trans (h : g.Resolved g') (h' : g'.Resolved g'') : g.Resolved g'' := by
  refine ⟨h'.size.trans h.size, h'.merge.trans h.merge, fun other => ?_⟩
  rcases h'.entries other with same | plain
  · rw [same]
    exact h.entries other
  · exact .inr (h.plain.1 plain)

theorem Resolved.but (h : g.Resolved g') (id : Nat) : ResolvedBut id g g' :=
  ⟨h.size, h.merge, fun other _ => h.entries other⟩

theorem ResolvedBut.trans (h : ResolvedBut id g g') (h' : ResolvedBut id g' g'') :
    ResolvedBut id g g'' := by
  refine ⟨h'.size.trans h.size, h'.merge.trans h.merge, fun other ho => ?_⟩
  rcases h'.entries other ho with same | plain
  · rw [same]
    exact h.entries other ho
  · simp only [Plain, h.merge] at plain
    exact .inr plain

theorem ResolvedBut.resolved (h : ResolvedBut id g g') (hp : g.Plain (g'.entriesOf id)) :
    g.Resolved g' := by
  refine ⟨h.size, h.merge, fun other => ?_⟩
  by_cases ho : other = id
  · exact .inr (ho ▸ hp)
  · exact h.entries other ho

theorem resolvedBut_setEntries (g : Graph) (id : Nat) (es : List (Nat × Nat)) :
    ResolvedBut id g (g.setEntries id es) :=
  ⟨size_setEntries _ _ _, isMerge_setEntries _ _ _,
    fun _ ho => .inl (entriesOf_setEntries_of_ne ho _ _)⟩

theorem plain_setEntries_self (h : g.Plain es) (g' : Graph) (id : Nat) :
    g.Plain ((g'.setEntries id es).entriesOf id) := by
  rcases entriesOf_setEntries_self g' id es with he | he
  · rwa [he]
  · rw [he]
    nofun

theorem resolved_valuesAsText (g : Graph) (es : List (Nat × Nat)) :
    g.Resolved (g.valuesAsText es) := by
  obtain ⟨size, merge, entries⟩ := g.valuesAsText_spec es
  exact ⟨size, merge, fun id => .inl (entries id)⟩

/-- What becomes of a graph when a mapping gets other entries, and value keys are taken for texts. -/
theorem resolvedBut_replace (g : Graph) (id : Nat) (plain es : List (Nat × Nat)) :
    ResolvedBut id g ((g.valuesAsText plain).setEntries id es) :=
  ((resolved_valuesAsText g plain).but id).trans (resolvedBut_setEntries _ _ _)

/-! ### Counting merge keys -/

theorem mergeCount_eq (g : Graph) : g.mergeCount =
    ((List.range g.size).map fun id => (g.entriesOf id).countP g.isMerge).sum :=
  List.countP_flatMap

theorem countP_eq_zero_of_plain (h : g.Plain es) : es.countP g.isMerge = 0 :=
  List.countP_eq_zero.2 fun e he => by simp [h e he]

/-- Resolving makes no merge keys. -/
theorem Resolved.mergeCount_le (h : g.Resolved g') : g'.mergeCount ≤ g.mergeCount := by
  rw [mergeCount_eq, mergeCount_eq, h.size, h.merge]
  refine List.sum_le_sum fun id _ => ?_
  rcases h.entries id with same | plain
  · rw [same]
  · rw [countP_eq_zero_of_plain plain]
    exact Nat.zero_le _

/-- Dropping a merge key from a mapping leaves less of them. -/
theorem mergeCount_setEntries_lt
    (h : es.countP g.isMerge < (g.entriesOf id).countP g.isMerge) :
    (g.setEntries id es).mergeCount < g.mergeCount := by
  have inside : id < g.size := by
    by_contra outside
    have none : g.entriesOf id = [] := by
      simp [entriesOf, entries?, Nat.le_of_not_lt outside]
    simp [none] at h
  have here : ((g.setEntries id es).entriesOf id).countP g.isMerge <
      (g.entriesOf id).countP g.isMerge := by
    rcases entriesOf_setEntries_self g id es with he | he
    · rwa [he]
    · rw [he]
      exact Nat.zero_lt_of_lt h
  rw [mergeCount_eq, mergeCount_eq, size_setEntries, isMerge_setEntries]
  refine List.sum_lt_sum _ _ (fun other _ => ?_) ⟨id, List.mem_range.2 inside, here⟩
  by_cases ho : other = id
  · rw [ho]
    exact here.le
  · rw [entriesOf_setEntries_of_ne ho]

/-- Without its first merge key a mapping leaves fewer of them. -/
theorem mergeCount_drop_lt {plain others : List (Nat × Nat)} {first : Nat × Nat}
    (split : plain ++ first :: others = g.entriesOf id) (key : g.isMerge first = true) :
    ((g.valuesAsText plain).setEntries id (plain ++ others)).mergeCount < g.mergeCount := by
  obtain ⟨-, merge, entries⟩ := g.valuesAsText_spec plain
  refine Nat.lt_of_lt_of_le (mergeCount_setEntries_lt ?_) (resolved_valuesAsText g plain).mergeCount_le
  rw [entries, merge, ← split]
  simp [key]

end Graph

/-! ### Merging -/

open StorageKey.Yaml.Graph

variable {g g' : Graph}

/-- A step that resolves the merge keys of a mapping, and does not reach a bound. -/
def Resolves (inner : Graph → Nat → Except Fault Graph) : Prop :=
  ∀ g id, Ends (fun g' => g.Resolved g' ∧ g.Plain (g'.entriesOf id)) (inner g id)

section

variable {inner : Graph → Nat → Except Fault Graph} (hi : Resolves inner)
include hi

theorem ends_takeOverAll (g : Graph) (ids : List Nat) :
    Ends (fun p => g.Resolved p.1 ∧ g.Plain p.2) (takeOverAll inner g ids) := by
  induction ids generalizing g with
  | nil => exact ⟨.refl g, nofun⟩
  | cons id ids ih =>
    rw [takeOverAll]
    split
    · exact ends_malformed
    · refine (hi g id).bind fun g₁ ⟨h₁, own⟩ => (ih g₁).bind fun p ⟨hp, taken⟩ => ?_
      exact ⟨h₁.trans hp, plain_append.2 ⟨h₁.plain.1 taken, own⟩⟩

theorem ends_takeOver (g : Graph) (id : Nat) :
    Ends (fun p => g.Resolved p.1 ∧ g.Plain p.2) (takeOver inner g id) := by
  unfold takeOver
  split
  · exact (hi g id).bind fun g₁ h₁ => h₁
  · exact ends_takeOverAll hi g _
  · exact ends_malformed

/-- Less merge keys than the bound are all resolved. -/
theorem ends_flattenFrom {n : Nat} (h : g.mergeCount < n) (id : Nat) {merged : List (Nat × Nat)}
    (hm : g.Plain merged) :
    Ends (fun g' => ResolvedBut id g g' ∧ g.Plain (g'.entriesOf id))
      (flattenFrom inner n g id merged) := by
  induction n generalizing g merged with
  | zero => exact absurd h (Nat.not_lt_zero _)
  | succ n ih =>
    have split : (g.entriesOf id).takeWhile (fun e => !g.isMerge e) ++
        (g.entriesOf id).dropWhile (fun e => !g.isMerge e) = g.entriesOf id :=
      List.takeWhile_append_dropWhile
    have front : g.Plain ((g.entriesOf id).takeWhile fun e => !g.isMerge e) := fun e he => by
      simpa using List.mem_takeWhile_imp he
    rw [flattenFrom, List.span_eq_takeWhile_dropWhile]
    generalize (g.entriesOf id).takeWhile (fun e => !g.isMerge e) = plain at split front ⊢
    cases hr : (g.entriesOf id).dropWhile fun e => !g.isMerge e with
    | nil =>
      rw [hr, List.append_nil] at split
      simp only
      split
      · refine ⟨(resolved_valuesAsText g plain).but id, ?_⟩
        rwa [(g.valuesAsText_spec plain).2.2, ← split]
      · exact ⟨resolvedBut_replace g id plain _, plain_setEntries_self (plain_append.2 ⟨hm, front⟩) _ _⟩
    | cons first others =>
      obtain ⟨k, v⟩ := first
      have key : g.isMerge (k, v) = true := by
        have stop := List.head?_dropWhile_not (fun e => !g.isMerge e) (g.entriesOf id)
        simpa [hr] using stop
      rw [hr] at split
      have fewer := mergeCount_drop_lt split key
      have dropped := resolvedBut_replace g id plain (plain ++ others)
      refine (ends_takeOver hi _ v).bind fun p ⟨hp, taken⟩ => ?_
      have after := dropped.trans (hp.but id)
      have same {es : List (Nat × Nat)} : p.1.Plain es ↔ g.Plain es := by
        simp only [Plain, after.merge]
      refine (ih (Nat.lt_of_le_of_lt hp.mergeCount_le (by omega)) ?_).mono fun g₁ h₁ => ?_
      · simp only [Plain, dropped.merge] at taken
        exact same.2 (plain_append.2 ⟨hm, taken⟩)
      · exact ⟨after.trans h₁.1, same.1 h₁.2⟩

end

/-- Resolving the merge keys of a mapping ends, however deep there is room for. -/
theorem ends_flatten (room : Nat) : Resolves (flatten room) := by
  induction room with
  | zero => exact fun _ _ => ends_tooDeep
  | succ room ih =>
    intro g id
    have none : g.Plain [] := nofun
    refine (ends_flattenFrom ih (Nat.lt_succ_self _) id none).mono fun g' h => ?_
    exact ⟨h.1.resolved h.2, h.2⟩

/-! ### Scalars -/

section

variable {α β : Type}

theorem ends_map {x : Except Fault α} (h : Ends (fun _ => True) x) (f : α → β) :
    Ends (fun _ => True) (x.map f) := by
  cases x with
  | ok a => trivial
  | error e => exact h

theorem ends_mapM {f : α → Except Fault β} (h : ∀ a, Ends (fun _ => True) (f a)) (as : List α) :
    Ends (fun _ => True) (as.mapM f) := by
  induction as with
  | nil => trivial
  | cons a as ih =>
    rw [List.mapM_cons]
    exact (h a).bind fun _ _ => ih.bind fun _ _ => trivial

end

theorem ends_signed (ns : List Nat) : Ends (fun _ => True) (signed ns) := by
  unfold signed
  split
  · nofun
  all_goals trivial

theorem ends_intIn (base : Nat) (ns : List Nat) : Ends (fun _ => True) (intIn base ns) := by
  unfold intIn
  cases Decimal.readInt base ns with
  | ok n => trivial
  | error f => nofun

theorem ends_intValue (ns : List Nat) : Ends (fun _ => True) (intValue ns) := by
  refine (ends_signed ns).bind fun p _ => ?_
  dsimp only
  split
  · nofun
  · trivial
  · exact (ends_intIn _ _).bind fun _ _ => trivial
  · exact (ends_intIn _ _).bind fun _ _ => trivial
  · exact (ends_intIn _ _).bind fun _ _ => trivial
  · split
    · exact (ends_mapM (ends_intIn 10) _).bind fun _ _ => trivial
    · exact (ends_intIn _ _).bind fun _ _ => trivial

theorem ends_realIn (ns : List Nat) : Ends (fun _ => True) (realIn ns) := by
  unfold realIn
  split
  · trivial
  · nofun

theorem ends_sixtiethsSum (parts : List Decimal.Binary64) (unit : Nat) (sum : Decimal.Binary64) :
    Ends (fun _ => True) (sixtiethsSum parts unit sum) := by
  induction parts generalizing unit sum with
  | nil => trivial
  | cons p ps ih =>
    rw [sixtiethsSum]
    split
    · nofun
    · exact ih _ _

theorem ends_realValue (ns : List Nat) : Ends (fun _ => True) (realValue ns) := by
  refine (ends_signed _).bind fun p _ => ?_
  dsimp only
  split
  · trivial
  · split
    · trivial
    · split
      · exact (ends_mapM ends_realIn _).bind fun _ _ =>
          (ends_sixtiethsSum _ _ _).bind fun _ _ => trivial
      · exact (ends_realIn _).bind fun _ _ => trivial

theorem ends_dateOf (year month day : Nat) : Ends (fun _ => True) (dateOf year month day) := by
  unfold dateOf
  repeat' split
  all_goals first | trivial | nofun

theorem ends_momentOf (year month day : Nat) (t : TimeOfDay) :
    Ends (fun _ => True) (momentOf year month day t) := by
  unfold momentOf
  dsimp only
  split
  · split
    · nofun
    · refine (ends_dateOf _ _ _).bind fun _ _ => ?_
      repeat' split
      all_goals first | trivial | nofun
  · refine (ends_dateOf _ _ _).bind fun _ _ => ?_
    repeat' split
    all_goals first | trivial | nofun

theorem ends_timeValue (ns : List Nat) : Ends (fun _ => True) (timeValue ns) := by
  unfold timeValue
  split
  · nofun
  · split
    · nofun
    · split
      · exact ends_map (ends_dateOf _ _ _) _
      · split
        · nofun
        · exact ends_momentOf _ _ _ _

/-- Whatever a scalar spells, reading it reaches no bound. -/
theorem ends_scalarValue (tag : Tag) (ns : List Nat) :
    Ends (fun _ => True) (scalarValue tag ns) := by
  unfold scalarValue
  split
  · trivial
  · refine ends_map ?_ _
    unfold truthValue
    dsimp only
    split
    · trivial
    · nofun
  · exact ends_map (ends_intValue ns) _
  · exact ends_map (ends_realValue ns) _
  · unfold binaryValue
    repeat' split
    all_goals first | trivial | nofun
  · exact ends_timeValue ns
  · trivial
  · nofun

theorem ends_scalarPoints (room : Nat) (g : Graph) (id : Nat) :
    Ends (fun _ => True) (scalarPoints room g id) := by
  induction room generalizing id with
  | zero => exact ends_tooDeep
  | succ room ih =>
    rw [scalarPoints]
    split
    · trivial
    · split
      · exact ih _
      · exact ends_malformed
    · exact ends_malformed

/-! ### Filling -/

variable {limits : Limits} {b : Building}

/-- Whether a node has been met, as a number of nodes that are left to meet. -/
def unmet (built : List (Nat × Built)) (id : Nat) : Nat := if built.any (·.1 = id) then 0 else 1

/-- How many collections may still be filled: those that wait, and all nodes that are not met yet. -/
def Building.left (b : Building) : Nat :=
  b.queue.length + ((List.range b.graph.size).map (unmet b.built)).sum

theorem unmet_cons_le (id other : Nat) (x : Built) (built : List (Nat × Built)) :
    unmet ((id, x) :: built) other ≤ unmet built other := by
  unfold unmet
  rw [List.any_cons]
  cases built.any fun e => decide (e.1 = other) with
  | true => simp
  | false => split <;> simp

theorem Building.left_note_le (b : Building) (id : Nat) (x : Built) : (b.note id x).left ≤ b.left :=
  Nat.add_le_add_left (List.sum_le_sum fun other _ => unmet_cons_le id other x b.built) _

/-- A node that waits when it is met is one less to meet. -/
theorem Building.left_queue_le {id : Nat} (hm : b.built.any (·.1 = id) = false)
    (hg : id < b.graph.size) (x : Built) :
    Building.left { b.note id x with queue := b.queue ++ [id] } ≤ b.left := by
  have fewer : ((List.range b.graph.size).map (unmet ((id, x) :: b.built))).sum <
      ((List.range b.graph.size).map (unmet b.built)).sum := by
    refine List.sum_lt_sum _ _ (fun other _ => unmet_cons_le id other x b.built)
      ⟨id, List.mem_range.2 hg, ?_⟩
    simp [unmet, hm]
  show (b.queue ++ [id]).length + ((List.range b.graph.size).map (unmet ((id, x) :: b.built))).sum ≤
    b.queue.length + ((List.range b.graph.size).map (unmet b.built)).sum
  rw [List.length_append, List.length_singleton]
  omega

/-- Only nodes of the graph have the tags of collections. -/
theorem lt_size_of_tagOf {id : Nat} {t : Tag} (h : g.tagOf id = t) (ht : t ≠ .str) : id < g.size := by
  by_contra outside
  refine ht (h.symm.trans ?_)
  simp [tagOf, Nat.le_of_not_lt outside]

/-- What comes of a step after which no more is left. -/
abbrev Lowers (b : Building) : Except Fault Building → Prop := Ends fun b' => b'.left ≤ b.left

theorem lowers_meet (b : Building) (id : Nat) : Lowers b (meet limits b id) := by
  unfold meet
  split
  · exact Nat.le_refl _
  · next hm =>
    have waits (c : Collection) {t : Tag} (h : b.graph.tagOf id = t) (ht : t ≠ .str) :
        Building.left { b.note id (.empty c) with queue := b.queue ++ [id] } ≤ b.left :=
      Building.left_queue_le (Bool.eq_false_iff.2 hm) (lt_size_of_tagOf h ht) _
    simp only
    split
    case h_1 ht | h_2 ht | h_3 ht | h_4 ht | h_5 ht => exact waits _ ht nofun
    case h_6 | h_7 | h_8 => exact ends_malformed
    refine (ends_scalarPoints _ _ _).bind fun ns _ => ?_
    split
    · nofun
    · exact (ends_scalarValue _ _).bind fun v _ => Building.left_note_le _ _ _

theorem lowers_meetEntries (b : Building) (es : List (Nat × Nat)) :
    Lowers b (meetEntries limits b es) := by
  induction es generalizing b with
  | nil => exact Nat.le_refl _
  | cons e es ih =>
    refine (lowers_meet b e.1).bind fun b₁ h₁ => ?_
    split
    · exact ends_malformed
    · refine (lowers_meet b₁ e.2).bind fun b₂ h₂ => (ih b₂).mono fun b₃ h₃ => ?_
      exact h₃.trans (h₂.trans h₁)

theorem lowers_meetAll (b : Building) (ids : List Nat) : Lowers b (meetAll limits b ids) := by
  induction ids generalizing b with
  | nil => exact Nat.le_refl _
  | cons id ids ih =>
    exact (lowers_meet b id).bind fun b₁ h₁ => (ih b₁).mono fun b₂ h₂ => h₂.trans h₁

theorem ends_meetPairs (b : Building) (ids : List Nat) :
    Ends (fun p => p.1.left ≤ b.left) (meetPairs limits b ids) := by
  induction ids generalizing b with
  | nil => exact Nat.le_refl _
  | cons id ids ih =>
    rw [meetPairs]
    split
    · refine (lowers_meet b _).bind fun b₁ h₁ => (lowers_meet b₁ _).bind fun b₂ h₂ => ?_
      exact (ih b₂).bind fun p hp => Nat.le_trans hp (h₂.trans h₁)
    · exact ends_malformed

theorem ends_mappingEntries (b : Building) (id : Nat) :
    Ends (fun p => p.1.left ≤ b.left) (mappingEntries limits b id) := by
  unfold mappingEntries
  split
  · exact ends_malformed
  · refine (ends_flatten limits.merges b.graph id).bind fun g' ⟨resolved, _⟩ => ?_
    -- The nodes stay as many as they were.
    have same : Building.left { b with graph := g' } = b.left := by
      show _ + ((List.range g'.size).map _).sum = _
      rw [resolved.size]
      rfl
    exact (lowers_meetEntries { b with graph := g' } _).bind fun b₁ h₁ => same ▸ h₁

theorem lowers_fillNode (b : Building) (id : Nat) : Lowers b (fillNode limits b id) := by
  have noted {b' : Building} (h : b'.left ≤ b.left) (x : Built) : (b'.note id x).left ≤ b.left :=
    (Building.left_note_le b' id x).trans h
  unfold fillNode
  split
  · split
    · exact ends_malformed
    · exact (lowers_meetAll b _).bind fun b₁ h₁ => noted h₁ _
  case h_2 | h_3 =>
    split
    · exact ends_malformed
    · exact (ends_meetPairs b _).bind fun p hp => noted hp _
  case h_4 | h_5 => exact (ends_mappingEntries b id).bind fun p hp => noted hp _

/-- Filling the collections ends before the bound is reached. -/
theorem ends_fillAll {n : Nat} (h : b.left < n) : Ends (fun _ => True) (fillAll limits n b) := by
  induction n generalizing b with
  | zero => exact absurd h (Nat.not_lt_zero _)
  | succ n ih =>
    rw [fillAll]
    split
    · trivial
    · next id rest hq =>
      have taken : Building.left { b with queue := rest } + 1 = b.left := by
        simp only [Building.left, hq, List.length_cons]
        omega
      exact (lowers_fillNode { b with queue := rest } id).bind fun b₁ h₁ => ih (by omega)

/-! ### Reading off -/

/-- A path is no longer than what is known of the nodes, so that a larger bound on paths changes
nothing. -/
theorem valueOf_succ {b : List (Nat × Built)} {n : Nat} {path : List Nat} (hp : path.Nodup)
    (hs : path ⊆ b.map (·.1)) (h : b.length < n + path.length) (id : Nat) :
    valueOf (n + 1) b path id = valueOf n b path id := by
  induction n generalizing path id with
  | zero =>
    have short := (List.subperm_of_subset hp hs).length_le
    rw [List.length_map] at short
    omega
  | succ n ih =>
    by_cases inside : id ∈ path
    · unfold valueOf
      simp [inside]
    · cases hx : b.lookup id with
      | none => simp [valueOf, hx]
      | some x =>
        have known : id ∈ b.map (·.1) := by
          obtain ⟨l, r, hl, -⟩ := List.lookup_eq_some_iff.1 hx
          simp [hl]
        have part : valueOf (n + 1) b (id :: path) = valueOf n b (id :: path) :=
          funext fun other => ih (List.nodup_cons.2 ⟨inside, hp⟩)
            (List.cons_subset.2 ⟨known, hs⟩) (by simp only [List.length_cons]; omega) other
        rw [valueOf, valueOf, part]

/-- A value can be read off with any bound that is larger than what is known of the nodes. -/
theorem valueOf_eq {b : List (Nat × Built)} {n : Nat} (h : b.length < n) (id : Nat) :
    valueOf n b [] id = valueOf (b.length + 1) b [] id := by
  induction n, h using Nat.le_induction with
  | base => rfl
  | succ n hn ih => rw [valueOf_succ List.nodup_nil (List.nil_subset _) (Nat.lt_of_succ_le hn), ih]

end StorageKey.Yaml
