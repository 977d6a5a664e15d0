import StorageKey.Yaml.Document

/-!
# What a document is by its root

The tag of its root says what a document is: a mapping, or the value of a scalar, a list or a set.
A collection is empty just if its node has no parts. What is found out about the root when it is
built and filled is not changed by what is built after it.

* `Document.OfRoot`: what a document is by its root;
* `Settled`: a node of which something is known, and which is not to be filled any more;
* `Document.ofRoot_of_read`: a text holds what the root of its graph says;
* `Document.IsBlank`: the documents that count as nothing.
-/

namespace StorageKey.Yaml

/-- What is known of a node when it has been filled, and of a scalar when it has been met. -/
inductive Built.OfRoot (limits : Limits) (g : Graph) (root : Nat) : Built → Prop
  | scalar {ns : List Nat} {v : Value} (hn : scalarPoints limits.valueKeys g root = .ok ns)
      (hv : scalarValue (g.tagOf root) ns = .ok v) : OfRoot limits g root (.scalar v)
  | list {items : List Nat} (ht : g.tagOf root = .seq) (hi : g.items? root = some items) :
      OfRoot limits g root (.list items)
  | pairs {items : List Nat} {ps : List (Nat × Nat)} (ht : g.tagOf root ∈ [.omap, .pairs])
      (hi : g.items? root = some items) (hl : ps.length = items.length) :
      OfRoot limits g root (.pairs ps)
  | set {g' : Graph} (ht : g.tagOf root = .set) (hf : flatten limits.merges g root = .ok g') :
      OfRoot limits g root (.set ((g'.entriesOf root).map (·.1)))
  | map {es : List (Nat × Nat)} (ht : g.tagOf root = .map) : OfRoot limits g root (.map es)

/-- What a document is by its root: nothing if it has none, and else what the tag of the root says.
A list has as many items as its node, and a set has members just if its node has entries when the
mappings are merged. -/
inductive Document.OfRoot (limits : Limits) (g : Graph) : Option Nat → Document → Prop
  | absent : OfRoot limits g none (.other .null)
  | scalar {root : Nat} {ns : List Nat} {v : Value}
      (hn : scalarPoints limits.valueKeys g root = .ok ns)
      (hv : scalarValue (g.tagOf root) ns = .ok v) : OfRoot limits g (some root) (.other v)
  | list {root : Nat} {items : List Nat} {vs : List Value}
      (ht : g.tagOf root ∈ [.seq, .omap, .pairs]) (hi : g.items? root = some items)
      (hl : vs.length = items.length) : OfRoot limits g (some root) (.other (.list vs))
  | set {root : Nat} {g' : Graph} {vs : List Value} (ht : g.tagOf root = .set)
      (hf : flatten limits.merges g root = .ok g') (hv : vs = [] ↔ g'.entriesOf root = []) :
      OfRoot limits g (some root) (.other (.set vs))
  | mapping {root : Nat} {es : List (Value × Value)} (ht : g.tagOf root = .map) :
      OfRoot limits g (some root) (.mapping es)

/-! ### Steps that may fail -/

/-- What a step gives, if it gives anything, has a property. -/
def Ensures {α : Type} (P : α → Prop) (x : Except Fault α) : Prop := ∀ a, x = .ok a → P a

section

variable {α β : Type} {P : α → Prop} {Q : β → Prop}

theorem ensures_ok {a : α} (h : P a) : Ensures P (.ok a) := by
  rintro _ ⟨⟩
  exact h

theorem ensures_error (f : Fault) : Ensures P (.error f) := nofun

theorem Ensures.bind {x : Except Fault α} {f : α → Except Fault β} (hx : Ensures P x)
    (hf : ∀ a, P a → Ensures Q (f a)) : Ensures Q (x >>= f) := by
  cases x with
  | ok a => exact hf a (hx a rfl)
  | error e => exact ensures_error e

theorem Ensures.mono {x : Except Fault α} {Q : α → Prop} (hx : Ensures P x)
    (h : ∀ a, P a → Q a) : Ensures Q x := fun a ha => h a (hx a ha)

theorem ensures_self (x : Except Fault α) : Ensures (x = .ok ·) x := fun _ h => h

end

/-! ### Building the rest -/

/-- A node of which something with a property is known, and which is not to be filled any more. -/
structure Settled (P : Built → Prop) (root : Nat) (b : Building) : Prop where
  known : ∃ x, b.built.lookup root = some x ∧ P x
  filled : root ∉ b.queue

namespace Settled

variable {limits : Limits} {P : Built → Prop} {root : Nat} {b : Building}

theorem note_self {x : Built} (hq : root ∉ b.queue) (hx : P x) : Settled P root (b.note root x) :=
  ⟨⟨x, by simp [Building.note], hx⟩, hq⟩

theorem note_of_ne (h : Settled P root b) {id : Nat} (hi : root ≠ id) (x : Built) :
    Settled P root (b.note id x) := by
  obtain ⟨⟨y, hy, hp⟩, hq⟩ := h
  have hne : (root == id) = false := by simpa using hi
  exact ⟨⟨y, by simp [Building.note, List.lookup_cons, hne, hy], hp⟩, hq⟩

/-- A settled node is not met again. -/
theorem ne_of_not_met (h : Settled P root b) {id : Nat} (hm : ¬b.built.any (·.1 = id)) :
    root ≠ id := by
  rintro rfl
  obtain ⟨⟨x, hx, -⟩, -⟩ := h
  obtain ⟨l, r, hl, -⟩ := List.lookup_eq_some_iff.1 hx
  exact hm (by simp [hl])

theorem meet (h : Settled P root b) (id : Nat) : Ensures (Settled P root) (meet limits b id) := by
  unfold Yaml.meet
  split
  · exact ensures_ok h
  · next hm =>
    have hi := h.ne_of_not_met hm
    have collection (c : Collection) :
        Settled P root { b.note id (.empty c) with queue := b.queue ++ [id] } := by
      obtain ⟨known, filled⟩ := h.note_of_ne hi (.empty c)
      exact ⟨known, by simpa using ⟨filled, hi⟩⟩
    simp only
    split
    case h_1 | h_2 | h_3 | h_4 | h_5 => exact ensures_ok (collection _)
    case h_6 | h_7 | h_8 => exact ensures_error _
    refine (ensures_self _).bind fun ns _ => ?_
    split
    · exact ensures_error _
    · exact (ensures_self _).bind fun v _ => ensures_ok (h.note_of_ne hi _)

theorem meetEntries (h : Settled P root b) (es : List (Nat × Nat)) :
    Ensures (Settled P root) (meetEntries limits b es) := by
  induction es generalizing b with
  | nil => exact ensures_ok h
  | cons e es ih =>
    refine (h.meet e.1).bind fun b₁ h₁ => ?_
    split
    · exact ensures_error _
    · exact (h₁.meet e.2).bind fun b₂ h₂ => ih h₂

theorem meetAll (h : Settled P root b) (ids : List Nat) :
    Ensures (Settled P root) (meetAll limits b ids) := by
  induction ids generalizing b with
  | nil => exact ensures_ok h
  | cons id ids ih => exact (h.meet id).bind fun b₁ h₁ => ih h₁

/-- Each item of an ordered mapping gives one pair. -/
theorem meetPairs (h : Settled P root b) (ids : List Nat) :
    Ensures (fun p => Settled P root p.1 ∧ p.2.length = ids.length) (meetPairs limits b ids) := by
  induction ids generalizing b with
  | nil => exact ensures_ok ⟨h, rfl⟩
  | cons id ids ih =>
    rw [Yaml.meetPairs]
    split
    · refine (h.meet _).bind fun b₁ h₁ => (h₁.meet _).bind fun b₂ h₂ => (ih h₂).bind ?_
      rintro ⟨b₃, ps⟩ ⟨h₃, hl⟩
      exact ensures_ok ⟨h₃, congrArg (· + 1) hl⟩
    · exact ensures_error _

/-- The entries of a mapping are those of its node when the mappings are merged. -/
theorem mappingEntries (h : Settled P root b) (id : Nat) :
    Ensures (fun p => Settled P root p.1 ∧ ∃ g',
      flatten limits.merges b.graph id = .ok g' ∧ p.2 = g'.entriesOf id)
      (mappingEntries limits b id) := by
  unfold Yaml.mappingEntries
  split
  · exact ensures_error _
  · refine (ensures_self _).bind fun g' hf => ?_
    refine (Settled.meetEntries (b := { b with graph := g' }) ⟨h.known, h.filled⟩ _).bind ?_
    exact fun b₁ h₁ => ensures_ok ⟨h₁, g', hf, rfl⟩

/-- Filling another node leaves what is known of a settled one. -/
theorem fillNode (h : Settled P root b) {id : Nat} (hi : root ≠ id) :
    Ensures (Settled P root) (fillNode limits b id) := by
  unfold Yaml.fillNode
  split
  · split
    · exact ensures_error _
    · exact (h.meetAll _).bind fun b₁ h₁ => ensures_ok (h₁.note_of_ne hi _)
  case h_2 | h_3 =>
    split
    · exact ensures_error _
    · exact (h.meetPairs _).bind fun p hp => ensures_ok (hp.1.note_of_ne hi _)
  case h_4 | h_5 =>
    exact (h.mappingEntries id).bind fun p hp => ensures_ok (hp.1.note_of_ne hi _)

theorem fillAll (h : Settled P root b) (n : Nat) :
    Ensures (Settled P root) (fillAll limits n b) := by
  induction n generalizing b with
  | zero => exact ensures_error _
  | succ n ih =>
    rw [Yaml.fillAll]
    split
    · exact ensures_ok h
    · next id rest hq =>
      -- The settled node does not wait, so it is another one that is filled.
      obtain ⟨known, filled⟩ := h
      rw [hq, List.mem_cons, not_or] at filled
      exact (Settled.fillNode (b := { b with queue := rest }) ⟨known, filled.2⟩ filled.1).bind
        fun b₁ h₁ => ih h₁

end Settled

/-! ### The root -/

variable {limits : Limits} {g : Graph} {root : Nat}

/-- A collection that has been met, and is filled next. -/
structure Met (g : Graph) (root : Nat) (b : Building) : Prop where
  graph : b.graph = g
  tag : g.tagOf root ∈ [.seq, .omap, .pairs, .set, .map]
  met : ∃ c, b.built.lookup root = some (.empty c)
  queue : b.queue = [root]

/-- The root is a scalar and settled when it is met, or a collection and to be filled. -/
theorem ensures_meet_root (limits : Limits) (g : Graph) (root : Nat) :
    Ensures (fun b => (Settled (Built.OfRoot limits g root) root b ∧ b.queue = []) ∨ Met g root b)
      (meet limits ⟨g, [], []⟩ root) := by
  have met (c : Collection) (ht : g.tagOf root ∈ [.seq, .omap, .pairs, .set, .map]) :
      Met g root { Building.note ⟨g, [], []⟩ root (.empty c) with queue := [] ++ [root] } :=
    ⟨rfl, ht, ⟨c, by simp [Building.note]⟩, rfl⟩
  unfold meet
  rw [if_neg (by simp)]
  simp only
  split
  case h_1 ht | h_2 ht | h_3 ht | h_4 ht | h_5 ht => exact ensures_ok (.inr (met _ (by simp [ht])))
  case h_6 | h_7 | h_8 => exact ensures_error _
  refine (ensures_self _).bind fun ns hn => ?_
  split
  · exact ensures_error _
  · refine (ensures_self _).bind fun v hv => ensures_ok (.inl ⟨?_, rfl⟩)
    exact .note_self (by simp) (.scalar hn hv)

/-- The root is settled when it has been filled. -/
theorem Met.ensures_fillNode {b : Building} (h : Met g root b) :
    Ensures (Settled (Built.OfRoot limits g root) root)
      (fillNode limits { b with queue := [] } root) := by
  obtain ⟨rfl, tag, ⟨c, hc⟩, -⟩ := h
  -- The root has been met, so it does not wait again if it is one of its own parts.
  have start : Settled (fun _ => True) root { b with queue := [] } :=
    ⟨⟨_, hc, trivial⟩, by simp⟩
  unfold fillNode
  split
  · next ht =>
    split
    · exact ensures_error _
    · next items hi =>
      exact (start.meetAll items).bind fun b₁ h₁ =>
        ensures_ok (.note_self h₁.filled (.list ht hi))
  case h_2 ht | h_3 ht =>
    split
    · exact ensures_error _
    · next items hi =>
      have pairs : b.graph.tagOf root ∈ [.omap, .pairs] := by
        simp [show b.graph.tagOf root = _ from ht]
      exact (start.meetPairs items).bind fun p hp =>
        ensures_ok (.note_self hp.1.filled (.pairs pairs hi hp.2))
  case h_4 ht =>
    refine (start.mappingEntries root).bind ?_
    rintro ⟨b₁, es⟩ ⟨h₁, g', hf, rfl⟩
    exact ensures_ok (.note_self h₁.filled (.set ht hf))
  case h_5 list omap pairs set =>
    have ht : b.graph.tagOf root = .map := by
      simp only [List.mem_cons, List.not_mem_nil, or_false] at tag
      rcases tag with ht | ht | ht | ht | ht
      · exact absurd ht list
      · exact absurd ht omap
      · exact absurd ht pairs
      · exact absurd ht set
      · exact ht
    exact (start.mappingEntries root).bind fun p hp =>
      ensures_ok (.note_self hp.1.filled (.map ht))

/-- What is built of a document makes its root what it is. -/
theorem ensures_built (limits : Limits) (g : Graph) (root n : Nat) :
    Ensures (fun b => ∃ x, b.built.lookup root = some x ∧ x.OfRoot limits g root) (do
      let b ← meet limits ⟨g, [], []⟩ root
      fillAll limits (n + 1) b) := by
  refine (ensures_meet_root limits g root).bind fun b hb => Ensures.mono ?_ fun _ h => Settled.known h
  rcases hb with ⟨h, -⟩ | h
  · exact h.fillAll _
  · rw [fillAll, h.queue]
    exact h.ensures_fillNode.bind fun b₁ h₁ => h₁.fillAll _

/-! ### The document -/

theorem addMember_ne_nil (vs : List Value) (v : Value) : addMember vs v ≠ [] := by
  unfold addMember
  split
  · next h =>
    rintro rfl
    cases h
  · simp

theorem foldl_addMember_ne_nil (f : Nat → Value) (ms : List Nat) {vs : List Value}
    (hv : vs ≠ []) : ms.foldl (fun vs m => addMember vs (f m)) vs ≠ [] := by
  induction ms generalizing vs with
  | nil => exact hv
  | cons m ms ih => exact ih (addMember_ne_nil vs (f m))

/-- A set has members just if some are added. -/
theorem foldl_addMember_eq_nil_iff (f : Nat → Value) (ms : List Nat) :
    ms.foldl (fun vs m => addMember vs (f m)) [] = [] ↔ ms = [] := by
  cases ms with
  | nil => simp
  | cons m ms =>
    exact iff_of_false (foldl_addMember_ne_nil f ms (addMember_ne_nil [] (f m))) nofun

/-- The document is read off what is known of the root. -/
theorem Document.ofRoot_documentOf {b : List (Nat × Built)} {x : Built}
    (hx : b.lookup root = some x) (h : x.OfRoot limits g root) :
    Document.OfRoot limits g (some root) (documentOf b root) := by
  unfold documentOf
  rw [hx]
  cases h with
  | scalar hn hv =>
    simp only [valueOf, hx]
    exact .scalar hn hv
  | list ht hi =>
    simp only [valueOf, hx, List.contains_nil, Bool.false_eq_true, if_false]
    exact .list (by simp [ht]) hi (List.length_map _)
  | pairs ht hi hl =>
    simp only [valueOf, hx, List.contains_nil, Bool.false_eq_true, if_false]
    exact .list (List.mem_cons_of_mem _ ht) hi (by rw [List.length_map, hl])
  | set ht hf =>
    simp only [valueOf, hx, List.contains_nil, Bool.false_eq_true, if_false]
    refine .set ht hf ?_
    rw [foldl_addMember_eq_nil_iff, List.map_eq_nil_iff]
  | map ht => exact .mapping ht

/-- A text holds what the root of its graph says. -/
theorem Document.ofRoot_of_read {s : Source} {d : Document} (h : Document.read limits s = .ok d) :
    ∃ root g, Graph.ofTokens limits.nodes (tokens s) = .ok (root, g) ∧ d.OfRoot limits g root := by
  unfold Document.read at h
  cases hg : Graph.ofTokens limits.nodes (tokens s) with
  | error e =>
    rw [hg] at h
    cases h
  | ok p =>
    obtain ⟨root, g⟩ := p
    refine ⟨root, g, rfl, ?_⟩
    rw [hg] at h
    cases root with
    | none =>
      cases h
      exact .absent
    | some root =>
      have built : Ensures (Document.OfRoot limits g (some root)) (do
          let b ← (do
            let b ← meet limits ⟨g, [], []⟩ root
            fillAll limits (g.size + 1) b)
          .ok (documentOf b.built root)) :=
        (ensures_built limits g root g.size).bind fun b hb => by
          obtain ⟨x, hx, hr⟩ := hb
          exact ensures_ok (Document.ofRoot_documentOf hx hr)
      rw [bind_assoc] at built
      exact built d h

/-! ### Blank documents -/

/-- The documents that count as nothing: no document, falsehood, the zeros, and the empty texts,
lists, sets and mappings. -/
inductive Document.IsBlank : Document → Prop
  | null : IsBlank (.other .null)
  | falsehood : IsBlank (.other (.bool false))
  | zero : IsBlank (.other (.int 0))
  | realZero (negative : Bool) (exponent : Int) :
      IsBlank (.other (.real (.finite negative 0 exponent)))
  | text : IsBlank (.other (.text ""))
  | broken : IsBlank (.other (.broken []))
  | bytes : IsBlank (.other (.bytes []))
  | list : IsBlank (.other (.list []))
  | set : IsBlank (.other (.set []))
  | map : IsBlank (.other (.map []))

/-- A document that is no mapping counts as nothing just if it is blank. -/
theorem Document.isEmptyLike_iff {v : Value} :
    v.isEmptyLike = true ↔ Document.IsBlank (.other v) := by
  constructor
  · intro he
    cases v with
    | null => exact .null
    | bool b =>
      obtain rfl : b = false := by simpa [Value.isEmptyLike] using he
      exact .falsehood
    | int i =>
      obtain rfl : i = 0 := by simpa [Value.isEmptyLike] using he
      exact .zero
    | real x =>
      cases x with
      | finite negative mantissa exponent =>
        obtain rfl : mantissa = 0 := by simpa [Value.isEmptyLike] using he
        exact .realZero negative exponent
      | _ => cases he
    | text s =>
      obtain rfl : s = "" := by simpa [Value.isEmptyLike] using he
      exact .text
    | broken ns =>
      obtain rfl : ns = [] := by simpa [Value.isEmptyLike] using he
      exact .broken
    | bytes bs =>
      obtain rfl : bs = [] := by simpa [Value.isEmptyLike] using he
      exact .bytes
    | list vs =>
      obtain rfl : vs = [] := by simpa [Value.isEmptyLike] using he
      exact .list
    | set vs =>
      obtain rfl : vs = [] := by simpa [Value.isEmptyLike] using he
      exact .set
    | map es =>
      obtain rfl : es = [] := by simpa [Value.isEmptyLike] using he
      exact .map
    | _ => cases he
  · intro hb
    cases hb <;> rfl

/-- The entries of a document are those of a mapping, or none if it is blank. -/
theorem Document.entries?_eq_some_iff {d : Document} {es : List (Value × Value)} :
    d.entries? = some es ↔ d = .mapping es ∨ d.IsBlank ∧ es = [] := by
  cases d with
  | mapping es' =>
    have blank : ¬(Document.mapping es').IsBlank := nofun
    simp [Document.entries?, blank]
  | other v =>
    rw [← Document.isEmptyLike_iff, Document.entries?]
    cases v.isEmptyLike <;> simp [eq_comm]

end StorageKey.Yaml
