import StorageKey.Proofs.Yaml.Reading
import StorageKey.Proofs.Yaml.Scanning

/-!
# Where the faults of a document come from

A text that is no document is malformed, and one that is may lead too deep. Every other fault has its
own place in the text: the scan stops at it, or it is a scalar whose text does not spell what its tag
says.

* `Misspelt`: the faults that the graph of a document accounts for;
* `Accounted`: steps of building that fail in one of the general ways or with such a fault;
* `Document.located_of_read`, `Document.read_ne_endless`: the faults of a text;
* `located_of_load`: the faults of a file.
-/

namespace StorageKey.Yaml

/-! ### Values -/

/-- A node that another has become: the kind and the text of a scalar stay, and the tag does too or
is that of a text. -/
inductive Node.Becomes : Node → Node → Prop
  | scalar {t t' : Tag} (ns : List Nat) (h : t' = t ∨ t' = .str) :
      Becomes (.scalar t ns) (.scalar t' ns)
  | sequence {t t' : Tag} (items items' : List Nat) (h : t' = t ∨ t' = .str) :
      Becomes (.sequence t items) (.sequence t' items')
  | mapping {t t' : Tag} (es es' : List (Nat × Nat)) (h : t' = t ∨ t' = .str) :
      Becomes (.mapping t es) (.mapping t' es')

theorem Node.Becomes.refl (n : Node) : n.Becomes n := by
  cases n with
  | scalar t ns => exact .scalar ns (.inl rfl)
  | sequence t items => exact .sequence items items (.inl rfl)
  | mapping t es => exact .mapping es es (.inl rfl)

theorem Node.Becomes.tag_eq {n n' : Node} (h : n.Becomes n') : n'.tag = n.tag ∨ n'.tag = .str := by
  cases h with
  | scalar _ h => exact h
  | sequence _ _ h => exact h
  | mapping _ _ h => exact h

/-- The nodes of the second graph have become of those of the first. -/
def Graph.Becomes (g g' : Graph) : Prop :=
  ∀ (id : Nat) (n' : Node), g'[id]? = some n' → ∃ n : Node, g[id]? = some n ∧ n.Becomes n'

/-- Faults that a graph accounts for: a scalar does not spell what a tag says, or a mapping is tagged
as a time. The tag is that of the scalar, or of a mapping with the scalar as its value key. -/
inductive Misspelt (g : Graph) : Fault → Prop
  | scalar {f : Fault} {id id' : Nat} {n : Node} {t : Tag} {ns : List Nat} (h : g[id]? = some n)
      (h' : g[id']? = some (.scalar t ns)) (hv : scalarValue n.tag ns = .error f) : Misspelt g f
  | time {id : Nat} {es : List (Nat × Nat)} (h : g[id]? = some (.mapping .timestamp es)) :
      Misspelt g .noTimestampText

/-- The faults of a document that have no place in it. -/
def Fault.general : List Fault := [.malformed, .tooDeep, .endless]

/-- A result of a kind, or a fault that is general or that a graph accounts for. -/
def Accounted {α : Type} (g : Graph) (P : α → Prop) : Except Fault α → Prop
  | .ok a => P a
  | .error f => f ∈ Fault.general ∨ Misspelt g f

namespace Graph

variable {g g' : Graph}

theorem Becomes.refl (g : Graph) : g.Becomes g := fun _ n h => ⟨n, h, .refl n⟩

/-- A node may become another once more. -/
theorem Becomes.set {id : Nat} {n n' : Node} (h : g.Becomes g') (hn : g'[id]? = some n)
    (hb : ∀ m : Node, m.Becomes n → m.Becomes n') : g.Becomes (g'.setIfInBounds id n') := by
  intro other k hk
  rw [Array.getElem?_setIfInBounds] at hk
  by_cases hi : id = other
  · obtain ⟨m, hm, become⟩ := h id n hn
    obtain ⟨inside, -⟩ := Array.getElem?_eq_some_iff.1 hn
    rw [if_pos hi, if_pos inside] at hk
    cases hk
    exact ⟨m, hi ▸ hm, hb m become⟩
  · rw [if_neg hi] at hk
    exact h other k hk

theorem Becomes.setEntries (h : g.Becomes g') (id : Nat) (es : List (Nat × Nat)) :
    g.Becomes (g'.setEntries id es) := by
  unfold Graph.setEntries
  split
  · next t es' hn =>
    refine h.set hn fun m become => ?_
    cases become with
    | mapping es₀ _ ht => exact .mapping es₀ es ht
  · exact h

theorem Becomes.asText (h : g.Becomes g') (id : Nat) : g.Becomes (g'.asText id) := by
  unfold Graph.asText
  split
  · next t ns hn =>
    refine h.set hn fun m become => ?_
    cases become with
    | scalar _ _ => exact .scalar ns (.inr rfl)
  · next t items hn =>
    refine h.set hn fun m become => ?_
    cases become with
    | sequence items₀ _ _ => exact .sequence items₀ items (.inr rfl)
  · next t es hn =>
    refine h.set hn fun m become => ?_
    cases become with
    | mapping es₀ _ _ => exact .mapping es₀ es (.inr rfl)
  · exact h

theorem Becomes.valuesAsText (h : g.Becomes g') (es : List (Nat × Nat)) :
    g.Becomes (g'.valuesAsText es) := by
  induction es generalizing g' with
  | nil => exact h
  | cons e es ih =>
    refine ih ?_
    dsimp only
    split
    · exact h.asText _
    · exact h

/-- A tag is that of a node of the first graph, or that of a text. -/
theorem Becomes.tagOf (h : g.Becomes g') (id : Nat) :
    g'.tagOf id = .str ∨ ∃ n, g[id]? = some n ∧ n.tag = g'.tagOf id := by
  unfold Graph.tagOf
  cases hn : g'[id]? with
  | none => exact .inl rfl
  | some n' =>
    obtain ⟨n, hg, become⟩ := h id n' hn
    rcases become.tag_eq with ht | ht
    · exact .inr ⟨n, hg, ht.symm⟩
    · exact .inl ht

end Graph

namespace Accounted

variable {α β : Type} {g : Graph} {P : α → Prop} {Q : β → Prop}

theorem bind {x : Except Fault α} {f : α → Except Fault β} (hx : Accounted g P x)
    (hf : ∀ a, P a → Accounted g Q (f a)) : Accounted g Q (x >>= f) := by
  cases x with
  | ok a => exact hf a hx
  | error e => exact hx

theorem malformed : Accounted g P (.error .malformed) := .inl (by simp [Fault.general])

theorem tooDeep : Accounted g P (.error .tooDeep) := .inl (by simp [Fault.general])

theorem endless : Accounted g P (.error .endless) := .inl (by simp [Fault.general])

end Accounted

variable {g g' : Graph}

/-- Steps from graphs that have become of one lead to such graphs again. -/
abbrev Continues (g : Graph) (inner : Graph → Nat → Except Fault Graph) : Prop :=
  ∀ g', g.Becomes g' → ∀ id, Accounted g g.Becomes (inner g' id)

section

variable {inner : Graph → Nat → Except Fault Graph} (hi : Continues g inner)
include hi

theorem accounted_takeOverAll (ids : List Nat) (h : g.Becomes g') :
    Accounted g (fun p : Graph × List (Nat × Nat) => g.Becomes p.1) (takeOverAll inner g' ids) := by
  induction ids generalizing g' with
  | nil => exact h
  | cons id ids ih =>
    rw [takeOverAll]
    split
    · exact .malformed
    · exact (hi g' h id).bind fun g₁ h₁ => (ih h₁).bind fun p hp => hp

theorem accounted_takeOver (id : Nat) (h : g.Becomes g') :
    Accounted g (fun p : Graph × List (Nat × Nat) => g.Becomes p.1) (takeOver inner g' id) := by
  unfold takeOver
  split
  · exact (hi g' h id).bind fun g₁ h₁ => h₁
  · exact accounted_takeOverAll hi _ h
  · exact .malformed

theorem accounted_flattenFrom (n : Nat) (h : g.Becomes g') (id : Nat)
    (merged : List (Nat × Nat)) : Accounted g g.Becomes (flattenFrom inner n g' id merged) := by
  induction n generalizing g' merged with
  | zero => exact .endless
  | succ n ih =>
    have plain (es : List (Nat × Nat)) := h.valuesAsText es
    rw [flattenFrom]
    simp only
    split
    · split
      · exact plain _
      · exact (plain _).setEntries _ _
    · exact (accounted_takeOver hi _ ((plain _).setEntries _ _)).bind fun p hp => ih hp _

end

theorem accounted_flatten (room : Nat) : Continues g (flatten room) := by
  induction room with
  | zero => exact fun _ _ _ => .tooDeep
  | succ room ih => exact fun _ h id => accounted_flattenFrom ih _ h id []

/-- The text that a node is read by is that of a scalar. -/
theorem accounted_scalarPoints (room : Nat) (h : g.Becomes g') (id : Nat) :
    Accounted g (fun ns => ∃ (id' : Nat) (t : Tag), g[id']? = some (.scalar t ns))
      (scalarPoints room g' id) := by
  induction room generalizing id with
  | zero => exact .tooDeep
  | succ room ih =>
    rw [scalarPoints]
    split
    · next t ns hn =>
      obtain ⟨n, hg, become⟩ := h id _ hn
      cases become with
      | scalar _ _ => exact ⟨id, _, hg⟩
    · split
      · exact ih _
      · exact .malformed
    · exact .malformed

/-- A scalar that has no value under the tag of a node is accounted for. -/
theorem accounted_scalarValue (h : g.Becomes g') (id : Nat) {ns : List Nat}
    (hs : ∃ (id' : Nat) (t : Tag), g[id']? = some (.scalar t ns)) :
    Accounted g (fun _ => True) (scalarValue (g'.tagOf id) ns) := by
  cases hv : scalarValue (g'.tagOf id) ns with
  | ok v => trivial
  | error f =>
    obtain ⟨id', t, hs⟩ := hs
    rcases h.tagOf id with ht | ⟨n, hn, ht⟩
    · rw [ht] at hv
      cases hv
    · exact .inr (.scalar hn hs (ht ▸ hv))

variable {limits : Limits} {b : Building}

/-- Buildings of what a graph has become. -/
abbrev Builds (g : Graph) (b : Building) : Prop := g.Becomes b.graph

theorem accounted_meet (h : Builds g b) (id : Nat) : Accounted g (Builds g) (meet limits b id) := by
  unfold meet
  split
  · exact h
  · simp only
    split
    all_goals try exact h
    all_goals try exact .malformed
    refine (accounted_scalarPoints _ h id).bind fun ns hs => ?_
    split
    · next heq ht hm =>
      obtain ⟨n, hn, become⟩ := h id _ hm
      have tag : b.graph.tagOf id = .timestamp := ht
      rw [Graph.tagOf, hm] at tag
      cases become with
      | mapping es₀ _ ht₀ =>
        rcases ht₀ with rfl | rfl
        · cases tag
          exact .inr (.time hn)
        · cases tag
    · exact (accounted_scalarValue h id hs).bind fun v _ => h

theorem accounted_meetEntries (es : List (Nat × Nat)) (h : Builds g b) :
    Accounted g (Builds g) (meetEntries limits b es) := by
  induction es generalizing b with
  | nil => exact h
  | cons e es ih =>
    refine (accounted_meet h e.1).bind fun b₁ h₁ => ?_
    split
    · exact .malformed
    · exact (accounted_meet h₁ e.2).bind fun b₂ h₂ => ih h₂

theorem accounted_meetAll (ids : List Nat) (h : Builds g b) :
    Accounted g (Builds g) (meetAll limits b ids) := by
  induction ids generalizing b with
  | nil => exact h
  | cons id ids ih => exact (accounted_meet h id).bind fun b₁ h₁ => ih h₁

theorem accounted_meetPairs (ids : List Nat) (h : Builds g b) :
    Accounted g (fun p : Building × List (Nat × Nat) => Builds g p.1) (meetPairs limits b ids) := by
  induction ids generalizing b with
  | nil => exact h
  | cons id ids ih =>
    rw [meetPairs]
    split
    · refine (accounted_meet h _).bind fun b₁ h₁ => (accounted_meet h₁ _).bind fun b₂ h₂ => ?_
      exact (ih h₂).bind fun p hp => hp
    · exact .malformed

theorem accounted_mappingEntries (h : Builds g b) (id : Nat) :
    Accounted g (fun p : Building × List (Nat × Nat) => Builds g p.1) (mappingEntries limits b id) := by
  unfold mappingEntries
  split
  · exact .malformed
  · refine (accounted_flatten _ _ h _).bind fun g₁ h₁ => ?_
    exact (accounted_meetEntries (b := { b with graph := g₁ }) _ h₁).bind fun b₁ h₂ => h₂

theorem accounted_fillNode (h : Builds g b) (id : Nat) :
    Accounted g (Builds g) (fillNode limits b id) := by
  unfold fillNode
  split
  · split
    · exact .malformed
    · exact (accounted_meetAll _ h).bind fun b₁ h₁ => h₁
  case h_2 | h_3 =>
    split
    · exact .malformed
    · exact (accounted_meetPairs _ h).bind fun p hp => hp
  case h_4 | h_5 => exact (accounted_mappingEntries h id).bind fun p hp => hp

theorem accounted_fillAll (n : Nat) (h : Builds g b) :
    Accounted g (Builds g) (fillAll limits n b) := by
  induction n generalizing b with
  | zero => exact .endless
  | succ n ih =>
    rw [fillAll]
    split
    · exact h
    · next id rest _ =>
      exact (accounted_fillNode (b := { b with queue := rest }) h id).bind fun b₁ h₁ => ih h₁

/-- Where a fault of a text is: the scan stops at it, or the graph of the text accounts for it. -/
inductive Located (s : Source) (f : Fault) : Prop
  | scan (h : .fault f ∈ tokens s)
  | graph {room : Nat} {root : Option Nat} {g : Graph}
      (h : Graph.ofTokens room (tokens s) = .ok (root, g)) (hm : Misspelt g f)

/-- A text that is no document is malformed or leads too deep, or its fault has a place in it. -/
theorem Document.located_of_read {s : Source} {f : Fault}
    (h : Document.read limits s = .error f) : f ∈ Fault.general ∨ Located s f := by
  unfold Document.read at h
  cases hg : Graph.ofTokens limits.nodes (tokens s) with
  | error e =>
    rw [hg] at h
    cases h
    rcases Graph.fault_of_ofTokens hg with rfl | rfl | met
    · exact .inl (by simp [Fault.general])
    · exact .inl (by simp [Fault.general])
    · exact .inr (.scan met)
  | ok p =>
    obtain ⟨root, g⟩ := p
    rw [hg] at h
    cases root with
    | none => cases h
    | some root =>
      have accounted : Accounted g (fun _ => True) (do
          let b ← meet limits ⟨g, [], []⟩ root
          let b ← fillAll limits (g.size + 1) b
          .ok (documentOf b.built root)) :=
        (accounted_meet (b := ⟨g, [], []⟩) (Graph.Becomes.refl g) root).bind fun b₁ h₁ =>
          (accounted_fillAll _ h₁).bind fun _ _ => trivial
      change (do
          let b ← meet limits ⟨g, [], []⟩ root
          let b ← fillAll limits (g.size + 1) b
          .ok (documentOf b.built root)) = Except.error f at h
      rw [h] at accounted
      exact accounted.imp_right (.graph hg)

/-- Reading a text reaches no bound. -/
theorem Document.read_ne_endless {s : Source} (hs : (Cursor.start s).Sound) :
    Document.read limits s ≠ .error .endless := by
  have ends : Ends (fun _ => True) (Document.read limits s) := by
    unfold Document.read
    cases hg : Graph.ofTokens limits.nodes (tokens s) with
    | error e =>
      rintro rfl
      rcases Graph.fault_of_ofTokens hg with h | h | met
      · cases h
      · cases h
      · exact endless_not_mem_tokens hs met
    | ok p =>
      obtain ⟨root, g⟩ := p
      cases root with
      | none => trivial
      | some root =>
        refine (lowers_meet ⟨g, [], []⟩ root).bind fun b h => ?_
        have start : Building.left ⟨g, [], []⟩ = g.size := by
          have one : unmet [] = fun _ => 1 := rfl
          simp [Building.left, one]
        exact (ends_fillAll (Nat.lt_succ_of_le (start ▸ h))).bind fun _ _ => trivial
  intro h
  rw [h] at ends
  exact ends rfl

/-- A file without a document is malformed or leads too deep, or its fault has a place in its text. -/
theorem located_of_load {content : List UInt8} {f : Fault} (h : load limits content = .error f) :
    f = .malformed ∨ f = .tooDeep ∨ Located (Source.ofBytes content) f := by
  rcases Document.located_of_read h with general | located
  · simp only [Fault.general, List.mem_cons, List.not_mem_nil, or_false] at general
    rcases general with rfl | rfl | rfl
    · exact .inl rfl
    · exact .inr (.inl rfl)
    · exact absurd h (Document.read_ne_endless (Source.sound_ofBytes content))
  · exact .inr (.inr located)

end StorageKey.Yaml
