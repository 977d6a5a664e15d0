import StorageKey.Yaml.Graph

/-!
# Readers that make up no faults

The readers of nodes go forward in the tokens. They fail with a fault of the scan where the scan has
stopped at one, and elsewhere in two ways only: the text is no document, or its nodes lead too deep.
In particular each repetition comes to its end, since every turn takes a token.

* `Read.Forward`, `Read.Faithful`: readers that go forward and fail in these ways;
* `Read.Takes`: steps that take a token each time that they give something;
* `Read.faithful_many`: repeating such a step comes to an end;
* `faithful_readNode`, `Graph.fault_of_ofTokens`: the readers of nodes, and the faults of a graph.
-/

namespace StorageKey.Yaml

namespace Read

variable {α β : Type}

/-- What comes of a reader that goes forward in the tokens, and fails only as malformed, as too deep,
or with a fault among the tokens. -/
def Forward (r : Reading) : Except Fault (α × Reading) → Prop
  | .ok (_, r') => r'.tokens <:+ r.tokens
  | .error f => f = .malformed ∨ f = .tooDeep ∨ .fault f ∈ r.tokens

/-- What goes forward from a place goes forward from those before it. -/
theorem Forward.of_suffix {r r' : Reading} {y : Except Fault (α × Reading)} (h : Forward r' y)
    (hr : r'.tokens <:+ r.tokens) : Forward r y := by
  cases y with
  | ok p => exact List.IsSuffix.trans h hr
  | error e => exact Or.imp_right (Or.imp_right fun he => hr.subset he) h

/-- A reader that goes forward from everywhere. -/
def Faithful (x : Read α) : Prop := ∀ r, Forward r (x r)

theorem Faithful.suffix {x : Read α} (hx : Faithful x) {r r' : Reading} {a : α}
    (h : x r = .ok (a, r')) : r'.tokens <:+ r.tokens := by
  have forward := hx r
  rw [h] at forward
  exact forward

theorem faithful_pure (a : α) : Faithful (pure a) := fun _ => List.suffix_refl _

theorem faithful_malformed : Faithful (malformed : Read α) := fun _ => .inl rfl

theorem faithful_tooDeep : Faithful (tooDeep : Read α) := fun _ => .inr (.inl rfl)

theorem bind_of_ok {x : Read α} {f : α → Read β} {r r' : Reading} {a : α} (h : x r = .ok (a, r')) :
    (x >>= f) r = f a r' := by
  show (x r >>= fun p => f p.1 p.2 : Except Fault (β × Reading)) = _
  rw [h]
  rfl

theorem bind_of_error {x : Read α} {f : α → Read β} {r : Reading} {e : Fault}
    (h : x r = .error e) : (x >>= f) r = .error e := by
  show (x r >>= fun p => f p.1 p.2 : Except Fault (β × Reading)) = _
  rw [h]
  rfl

/-- What a sequence of two readers gives is given by the second one after the first one. -/
theorem exists_of_bind {x : Read α} {f : α → Read β} {r t : Reading} {b : β}
    (h : (x >>= f) r = .ok (b, t)) : ∃ a r', x r = .ok (a, r') ∧ f a r' = .ok (b, t) := by
  cases hx : x r with
  | error e =>
    rw [bind_of_error hx] at h
    cases h
  | ok p =>
    rw [bind_of_ok hx] at h
    exact ⟨p.1, p.2, rfl, h⟩

/-- What follows a step goes forward if the step does, and what follows it from where it ends. -/
theorem Forward.bind {x : Read α} {f : α → Read β} {r : Reading} (hx : Forward r (x r))
    (hf : ∀ a r', x r = .ok (a, r') → Forward r' (f a r')) : Forward r ((x >>= f) r) := by
  cases hr : x r with
  | error e =>
    rw [hr] at hx
    rw [bind_of_error hr]
    exact hx
  | ok p =>
    rw [hr] at hx
    rw [bind_of_ok hr]
    exact (hf p.1 p.2 hr).of_suffix hx

theorem Faithful.bind {x : Read α} {f : α → Read β} (hx : Faithful x)
    (hf : ∀ a, Faithful (f a)) : Faithful (x >>= f) := fun r =>
  (hx r).bind fun a r' _ => hf a r'

theorem Faithful.map {x : Read α} (hx : Faithful x) (f : α → β) : Faithful (f <$> x) := by
  rw [map_eq_pure_bind]
  exact hx.bind fun _ => faithful_pure _

theorem Faithful.ite {c : Prop} [Decidable c] {x y : Read α} (hx : Faithful x)
    (hy : Faithful y) : Faithful (if c then x else y) := by
  split
  · exact hx
  · exact hy

/-! ### Steps -/

theorem faithful_peek : Faithful peek := by
  rintro ⟨tokens, graph, anchors, handles, versioned⟩
  cases tokens with
  | nil => exact List.suffix_refl _
  | cons t rest =>
    cases t with
    | fault f => exact .inr (.inr List.mem_cons_self)
    | _ => exact List.suffix_refl _

theorem faithful_skip : Faithful skip := fun r => List.drop_suffix 1 r.tokens

theorem Faithful.afterSkip {x : Read α} (h : Faithful x) : Faithful (skip >>= fun _ => x) :=
  faithful_skip.bind fun _ => h

/-- What is seen next stands first among the tokens, unless they have ended. -/
theorem peek_eq_ok {r r' : Reading} {t : Token} (h : peek r = .ok (t, r')) :
    r' = r ∧ (t = .finish ∨ ∃ rest, r.tokens = t :: rest) := by
  unfold peek at h
  split at h
  · cases h
    exact ⟨rfl, .inl rfl⟩
  · cases h
  · next t' rest _ ht =>
    cases h
    exact ⟨rfl, .inr ⟨rest, ht⟩⟩

/-- A step that takes a token each time that it gives something. -/
def Takes (x : Read (Option α)) : Prop :=
  ∀ ⦃r r' : Reading⦄ ⦃a : α⦄, x r = .ok (some a, r') → r'.tokens.length < r.tokens.length

/-- A step takes a token if it goes past one that it has seen. -/
theorem takes_of_peek {f : Token → Read (Option α)}
    (h : ∀ t, (∃ x : Read (Option α), Faithful x ∧ t ≠ .finish ∧ f t = skip >>= fun _ => x) ∨
      ∀ r r' a, f t r ≠ .ok (some a, r')) : Takes (peek >>= f) := by
  intro r r' a hr
  obtain ⟨t, r₁, hp, hf⟩ := exists_of_bind hr
  obtain ⟨rfl, first⟩ := peek_eq_ok hp
  rcases h t with ⟨x, hx, ht, eq⟩ | never
  · obtain ⟨rest, hrest⟩ := first.resolve_left ht
    rw [eq] at hf
    have forward : r'.tokens <:+ r₁.tokens.drop 1 := hx.suffix hf
    rw [hrest] at forward ⊢
    exact Nat.lt_succ_of_le forward.length_le
  · exact absurd hf (never _ _ _)

/-- Repeating a step often enough comes to an end. -/
theorem forward_repeatFor {x : Read (Option α)} (hx : Faithful x) (ht : Takes x) {n : Nat}
    {r : Reading} (h : r.tokens.length < n) : Forward r (repeatFor x n r) := by
  induction n generalizing r with
  | zero => exact absurd h (Nat.not_lt_zero _)
  | succ n ih =>
    refine (hx r).bind fun a? r' hr => ?_
    cases a? with
    | none => exact List.suffix_refl _
    | some a =>
      have fewer := ht hr
      exact (ih (by omega)).bind fun _ _ _ => List.suffix_refl _

/-- A step that takes tokens can be repeated: this comes to its end before the tokens do. -/
theorem faithful_many {x : Read (Option α)} (hx : Faithful x) (ht : Takes x) :
    Faithful (many x) := fun r => forward_repeatFor hx ht (Nat.lt_succ_self r.tokens.length)

theorem faithful_add (n : Node) : Faithful (add n) := fun _ => List.suffix_refl _

theorem faithful_fill (id : Nat) (n : Node) : Faithful (fill id n) := fun _ => List.suffix_refl _

theorem faithful_nameNode (anchor : Option String) (id : Nat) : Faithful (nameNode anchor id) := by
  intro r
  cases anchor <;> exact List.suffix_refl _

theorem faithful_checkAnchor (anchor : Option String) : Faithful (checkAnchor anchor) := by
  intro r
  cases anchor with
  | none => exact List.suffix_refl _
  | some a =>
    unfold checkAnchor
    by_cases known : (r.anchors.any fun e => decide (e.1 = a)) = true
    · simp only [if_pos known]
      exact .inl rfl
    · simp only [if_neg known]
      exact List.suffix_refl _

theorem faithful_named (name : String) : Faithful (named name) := by
  intro r
  unfold named
  cases r.anchors.lookup name with
  | none => exact .inl rfl
  | some id => exact List.suffix_refl _

theorem faithful_expand (t : TagText) : Faithful (expand t) := by
  obtain ⟨handle, suffix⟩ := t
  intro r
  cases handle with
  | none => exact List.suffix_refl _
  | some name =>
    unfold expand
    simp only
    cases r.handles.lookup name with
    | none => exact .inl rfl
    | some e => exact List.suffix_refl _

theorem faithful_absent : Faithful absent := faithful_add _

end Read

open Read

theorem faithful_properties : Faithful properties := by
  refine faithful_peek.bind fun t => ?_
  cases t with
  | anchor a =>
    refine faithful_skip.bind fun _ => faithful_peek.bind fun t => ?_
    cases t with
    | tag t => exact faithful_skip.bind fun _ => (faithful_expand t).bind fun _ => faithful_pure _
    | _ => exact faithful_pure _
  | tag t =>
    refine faithful_skip.bind fun _ => faithful_peek.bind fun u => ?_
    cases u with
    | anchor a => exact faithful_skip.bind fun _ => (faithful_expand t).bind fun _ => faithful_pure _
    | _ => exact (faithful_expand t).bind fun _ => faithful_pure _
  | _ => exact faithful_pure _

theorem faithful_readAbsent (anchor tag : Option String) : Faithful (readAbsent anchor tag) :=
  .ite ((faithful_checkAnchor _).bind fun _ => (faithful_add _).bind fun _ =>
    (faithful_nameNode _ _).bind fun _ => faithful_pure _) faithful_malformed

theorem faithful_readSequence (anchor tag : Option String) {items : Read (List Nat)}
    (h : Faithful items) : Faithful (readSequence anchor tag items) :=
  (faithful_checkAnchor _).bind fun _ => (faithful_add _).bind fun _ =>
    (faithful_nameNode _ _).bind fun _ => h.bind fun _ => (faithful_fill _ _).bind fun _ =>
      faithful_pure _

theorem faithful_readMapping (anchor tag : Option String) {entries : Read (List (Nat × Nat))}
    (h : Faithful entries) : Faithful (readMapping anchor tag entries) :=
  (faithful_checkAnchor _).bind fun _ => (faithful_add _).bind fun _ =>
    (faithful_nameNode _ _).bind fun _ => h.bind fun _ => (faithful_fill _ _).bind fun _ =>
      faithful_pure _

/-! ### Collections -/

theorem faithful_readOrAbsent {node : Read Nat} (h : Faithful node) (stops : List Token) :
    Faithful (readOrAbsent node stops) :=
  faithful_peek.bind fun _ => .ite faithful_absent h

section

variable {node : NodeReader} (h : ∀ block indentless, Faithful (node block indentless))
include h

theorem faithful_blockItem : Faithful (blockItem node) := by
  refine faithful_peek.bind fun t => ?_
  cases t with
  | blockEntry => exact ((faithful_readOrAbsent (h _ _) _).map _).afterSkip
  | blockEnd => exact (faithful_pure _).afterSkip
  | _ => exact faithful_malformed

theorem takes_blockItem : Takes (blockItem node) := by
  refine takes_of_peek fun t => ?_
  cases t with
  | blockEntry => exact .inl ⟨_, (faithful_readOrAbsent (h _ _) _).map _, nofun, rfl⟩
  | blockEnd => exact .inl ⟨_, faithful_pure _, nofun, rfl⟩
  | _ => exact .inr nofun

theorem faithful_indentlessItem : Faithful (indentlessItem node) := by
  refine faithful_peek.bind fun t => ?_
  cases t with
  | blockEntry => exact ((faithful_readOrAbsent (h _ _) _).map _).afterSkip
  | _ => exact faithful_pure _

theorem takes_indentlessItem : Takes (indentlessItem node) := by
  refine takes_of_peek fun t => ?_
  cases t with
  | blockEntry => exact .inl ⟨_, (faithful_readOrAbsent (h _ _) _).map _, nofun, rfl⟩
  | _ => exact .inr nofun

theorem faithful_blockValue : Faithful (blockValue node) := by
  refine faithful_peek.bind fun t => ?_
  cases t with
  | value => exact (faithful_readOrAbsent (h _ _) _).afterSkip
  | _ => exact faithful_absent

/-- A key and its value in a block mapping. -/
theorem faithful_blockPair : Faithful (do
    let k ← readOrAbsent (node true true) [.key, .value, .blockEnd]
    let v ← blockValue node
    pure (some (k, v))) :=
  (faithful_readOrAbsent (h _ _) _).bind fun _ => (faithful_blockValue h).bind fun _ =>
    faithful_pure _

theorem faithful_blockEntry : Faithful (blockEntry node) := by
  refine faithful_peek.bind fun t => ?_
  cases t with
  | key => exact (faithful_blockPair h).afterSkip
  | blockEnd => exact (faithful_pure _).afterSkip
  | _ => exact faithful_malformed

theorem takes_blockEntry : Takes (blockEntry node) := by
  refine takes_of_peek fun t => ?_
  cases t with
  | key => exact .inl ⟨_, faithful_blockPair h, nofun, rfl⟩
  | blockEnd => exact .inl ⟨_, faithful_pure _, nofun, rfl⟩
  | _ => exact .inr nofun

theorem faithful_flowValue (closing : Token) : Faithful (flowValue node closing) := by
  refine faithful_peek.bind fun t => ?_
  cases t with
  | value => exact (faithful_readOrAbsent (h _ _) _).afterSkip
  | _ => exact faithful_absent

theorem faithful_flowPair (closing : Token) : Faithful (flowPair node closing) :=
  ((faithful_readOrAbsent (h _ _) _).bind fun _ => (faithful_flowValue h closing).bind fun _ =>
    faithful_pure _).afterSkip

theorem faithful_flowItem : Faithful (flowItem node) := by
  refine faithful_peek.bind fun t => ?_
  split
  · exact (faithful_add _).bind fun _ => (faithful_flowPair h _).bind fun _ =>
      (faithful_fill _ _).bind fun _ => faithful_pure _
  · exact (faithful_pure _).afterSkip
  · exact (h _ _).map _

theorem faithful_flowEntry : Faithful (flowEntry node) := by
  refine faithful_peek.bind fun t => ?_
  split
  · exact (faithful_flowPair h _).map _
  · exact (faithful_pure _).afterSkip
  · exact (h _ _).bind fun _ => faithful_absent.bind fun _ => faithful_pure _

end

section

variable {α : Type} {part : Read (Option α)} (h : Faithful part) {closing : Token}
include h

theorem faithful_afterComma : Faithful (afterComma closing part) :=
  faithful_peek.bind fun _ =>
    .ite (faithful_pure _).afterSkip (.ite h.afterSkip faithful_malformed)

/-- Each part but the first stands behind a comma. -/
theorem takes_afterComma : Takes (afterComma closing part) := by
  refine takes_of_peek fun t => ?_
  by_cases closes : t = closing
  · exact .inr fun r r' a hr => by simp [closes] at hr; cases hr
  · rw [if_neg closes]
    by_cases comma : t = .flowEntry
    · exact .inl ⟨_, h, by simp [comma], if_pos comma⟩
    · rw [if_neg comma]
      exact .inr nofun

theorem faithful_flowParts : Faithful (flowParts closing part) := by
  refine h.bind fun a? => ?_
  cases a? with
  | none => exact faithful_pure _
  | some a =>
    exact (faithful_many (faithful_afterComma h) (takes_afterComma h)).bind fun _ =>
      faithful_pure _

end

/-- A node is read faithfully if its parts are. -/
theorem faithful_nodeWith {inner : NodeReader}
    (h : ∀ block indentless, Faithful (inner block indentless)) (block indentless : Bool) :
    Faithful (nodeWith inner block indentless) := by
  refine faithful_peek.bind fun t => ?_
  split
  · exact (faithful_named _).afterSkip
  · refine faithful_properties.bind fun ⟨anchor, tag⟩ => faithful_peek.bind fun t => ?_
    refine .ite (faithful_readSequence _ _
      (faithful_many (faithful_indentlessItem h) (takes_indentlessItem h))) ?_
    split
    · exact ((faithful_checkAnchor _).bind fun _ => (faithful_add _).bind fun _ =>
        (faithful_nameNode _ _).bind fun _ => faithful_pure _).afterSkip
    · exact (faithful_readSequence _ _ (faithful_flowParts (faithful_flowItem h))).afterSkip
    · exact (faithful_readMapping _ _ (faithful_flowParts (faithful_flowEntry h))).afterSkip
    · exact .ite (faithful_readSequence _ _
        (faithful_many (faithful_blockItem h) (takes_blockItem h))).afterSkip
        (faithful_readAbsent _ _)
    · exact .ite (faithful_readMapping _ _
        (faithful_many (faithful_blockEntry h) (takes_blockEntry h))).afterSkip
        (faithful_readAbsent _ _)
    · exact faithful_readAbsent _ _

/-- The reader of nodes is faithful, however much room there is. -/
theorem faithful_readNode (room : Nat) :
    ∀ block indentless, Faithful (readNode room block indentless) := by
  induction room with
  | zero => exact fun _ _ => faithful_tooDeep
  | succ room ih => exact faithful_nodeWith ih

/-! ### Documents -/

theorem faithful_declare (d : Directive) : Faithful (declare d) := by
  intro r
  cases d with
  | version major =>
    unfold declare
    by_cases again : (r.versioned || decide (major ≠ 1)) = true
    · simp only [if_pos again]
      exact .inl rfl
    · simp only [if_neg again]
      exact List.suffix_refl _
  | tagHandle handle expansion =>
    unfold declare
    by_cases known : (r.handles.any fun e => decide (e.1 = handle)) = true
    · simp only [if_pos known]
      exact .inl rfl
    · simp only [if_neg known]
      exact List.suffix_refl _
  | other => exact List.suffix_refl _

theorem faithful_directive : Faithful directive := by
  refine faithful_peek.bind fun t => ?_
  cases t with
  | directive d => exact ((faithful_declare d).map _).afterSkip
  | _ => exact faithful_pure _

theorem takes_directive : Takes directive := by
  refine takes_of_peek fun t => ?_
  cases t with
  | directive d => exact .inl ⟨_, (faithful_declare d).map _, nofun, rfl⟩
  | _ => exact .inr nofun

theorem faithful_useDefaultHandles : Faithful useDefaultHandles := fun _ => List.suffix_refl _

theorem faithful_directives : Faithful directives := by
  have clear : Faithful clearDirectives := fun _ => List.suffix_refl _
  exact clear.bind fun _ => (faithful_many faithful_directive takes_directive).bind fun _ =>
    faithful_useDefaultHandles

theorem faithful_documentEnd : Faithful documentEnd := by
  refine faithful_peek.bind fun t => ?_
  cases t with
  | documentEnd => exact (faithful_pure _).afterSkip
  | _ => exact faithful_pure _

theorem takes_documentEnd : Takes documentEnd := by
  refine takes_of_peek fun t => ?_
  cases t with
  | documentEnd => exact .inl ⟨_, faithful_pure _, nofun, rfl⟩
  | _ => exact .inr nofun

theorem faithful_documentEnds : Faithful (many documentEnd) :=
  faithful_many faithful_documentEnd takes_documentEnd

theorem faithful_explicitDocument (room : Nat) : Faithful (explicitDocument room) := by
  refine faithful_documentEnds.bind fun _ => faithful_peek.bind fun t => ?_
  split
  · exact faithful_pure _
  · refine faithful_directives.bind fun _ => faithful_peek.bind fun t => ?_
    split
    · refine faithful_skip.bind fun _ => faithful_peek.bind fun t => ?_
      split
      · exact faithful_absent.map _
      · exact faithful_absent.map _
      · exact faithful_absent.map _
      · exact faithful_absent.map _
      · exact (faithful_readNode room _ _).map _
    · exact faithful_malformed

theorem faithful_bareDocument (room : Nat) : Faithful (bareDocument room) :=
  faithful_useDefaultHandles.bind fun _ => (faithful_readNode room _ _).map _

/-- What follows the root is read in the same way, however the document starts. -/
theorem faithful_afterRoot (root : Option Nat) : Faithful (match root with
    | none => pure none
    | some id => do
      let _ ← many documentEnd
      match ← peek with
      | .finish => pure (some id)
      | _ => do
        directives
        malformed : Read (Option Nat)) := by
  cases root with
  | none => exact faithful_pure _
  | some id =>
    refine faithful_documentEnds.bind fun _ => faithful_peek.bind fun t => ?_
    split
    · exact faithful_pure _
    · exact faithful_directives.bind fun _ => faithful_malformed

theorem faithful_singleDocument (room : Nat) : Faithful (singleDocument room) := by
  refine faithful_peek.bind fun t => ?_
  split
  · exact (faithful_explicitDocument room).bind faithful_afterRoot
  · exact (faithful_explicitDocument room).bind faithful_afterRoot
  · exact (faithful_explicitDocument room).bind faithful_afterRoot
  · exact (faithful_bareDocument room).bind faithful_afterRoot

/-- A list of tokens that has no graph is malformed or leads too deep, unless the scan has stopped
at a fault. -/
theorem Graph.fault_of_ofTokens {room : Nat} {ts : List Token} {f : Fault}
    (h : Graph.ofTokens room ts = .error f) : f = .malformed ∨ f = .tooDeep ∨ .fault f ∈ ts := by
  unfold Graph.ofTokens at h
  have forward := faithful_singleDocument room ⟨ts, #[], [], [], false⟩
  cases hr : singleDocument room ⟨ts, #[], [], [], false⟩ with
  | ok p =>
    rw [hr] at h
    cases h
  | error g =>
    rw [hr] at h forward
    cases h
    exact forward

end StorageKey.Yaml
