import StorageKey.Proofs.Usage.HelpParser

/-!
# Settings that start otherwise

A parser reads its settings only through what its options and operands do to them. So if a change of
the settings commutes with all of these, it may as well be made before parsing as after: parsing
stops for the same reason, or at the same end.

* `Parser.CommutesWith`: a change that commutes with what a parser does;
* `Parser.run_map`: parsing tokens from changed settings.
-/

namespace StorageKey.Usage

variable {σ : Type} {f : σ → σ}

/-- The effects of an option commute with a change of the settings. -/
structure Switch.CommutesWith (s : Switch σ) (f : σ → σ) : Prop where
  set : ∀ change, s.effect = .set change → ∀ x, change (f x) = f (change x)
  value : ∀ placeholder read noValue, s.effect = .value placeholder read noValue →
    (∀ x, noValue (f x) = f (noValue x)) ∧
      ∀ v change, read v = .ok change → ∀ x, change (f x) = f (change x)

/-- What a parser does to its settings commutes with a change of them. -/
structure Parser.CommutesWith (p : Parser σ) (f : σ → σ) : Prop where
  switches : ∀ s ∈ p.switches, s.CommutesWith f
  operands : ∀ o, p.operands = some o → ∀ word rest change, o.read word rest = .ok change →
    ∀ x, change (f x) = f (change x)

/-- What is parsed, with changed settings. -/
def Parsed.map (f : σ → σ) (x : Parsed σ) : Parsed σ := ⟨f x.settings, x.stop⟩

@[simp] theorem Parsed.map_mk (f : σ → σ) (x : σ) (stop : Option Stop) :
    (Parsed.mk x stop).map f = ⟨f x, stop⟩ := rfl

theorem Parsed.andThen_map {x : Parsed σ} {next : σ → Parsed σ}
    (h : ∀ y, next (f y) = (next y).map f) : (x.map f).andThen next = (x.andThen next).map f := by
  obtain ⟨y, stop⟩ := x
  cases stop with
  | none => exact h y
  | some reason => rfl

/-! ### Effects -/

theorem applyPlain_map {plain : List (Switch σ)} (h : ∀ s ∈ plain, s.CommutesWith f) (x : σ) :
    applyPlain (f x) plain = (applyPlain x plain).map f := by
  induction plain generalizing x with
  | nil => rfl
  | cons s r ih =>
    have hr := ih fun t ht => h t (List.mem_cons_of_mem s ht)
    have hs := h s List.mem_cons_self
    cases he : s.effect with
    | help => simp [applyPlain, he]
    | version text => simp [applyPlain, he]
    | set change => simp only [applyPlain, he, hs.set change he, hr]
    | value placeholder read noValue => simp only [applyPlain, he, hr]

theorem applyValue_map {s : Switch σ} (h : s.CommutesWith f) (value : String) (x : σ) :
    applyValue (f x) s value = (applyValue x s value).map f := by
  cases he : s.effect with
  | value placeholder read noValue =>
    obtain ⟨hn, hr⟩ := h.value placeholder read noValue he
    simp only [applyValue, he]
    split
    · rw [hn, Parsed.map_mk]
    · cases hv : read value with
      | ok change => simp only [hr value change hv, Parsed.map_mk]
      | error cause => rfl
  | _ => simp [applyValue, he]

/-! ### The options of one token -/

/-- The options of a cluster are options of the parser. -/
def Cluster.Within (k : Cluster σ) (p : Parser σ) : Prop :=
  (∀ s ∈ k.plain, s ∈ p.switches) ∧ ∀ s v, k.valued = some (s, v) → s ∈ p.switches

theorem Cluster.within_valued {p : Parser σ} {s : Switch σ} (h : s ∈ p.switches)
    (value : Option String) : (Cluster.mk [] (some (s, value))).Within p := by
  constructor
  · simp
  · rintro t v ht
    cases ht
    exact h

theorem Cluster.within_single {p : Parser σ} {s : Switch σ} (h : s ∈ p.switches) :
    (Cluster.single s).Within p := by
  unfold Cluster.single
  split
  · exact within_valued h none
  · exact ⟨by simpa using h, fun t v ht => by cases ht⟩

theorem Parser.within_clusterWith {p : Parser σ} {isShort : Bool} {text : List Char} {s : Switch σ}
    (h : s ∈ p.switches) {k : Cluster σ} (hk : p.clusterWith s isShort text = .ok k) :
    k.Within p := by
  induction text generalizing s isShort k with
  | nil =>
    rw [Parser.clusterWith] at hk
    split at hk
    · cases hk
      exact Cluster.within_valued h _
    · cases hk
  | cons c r ih =>
    simp only [Parser.clusterWith] at hk
    split at hk
    · cases hk
      exact Cluster.within_valued h _
    split at hk
    · cases hk
    split at hk
    · cases hk
    · next t ht =>
      have found := mem_switches_of_switch? ht
      -- The options behind this one are those of another cluster.
      cases hj : (if r.isEmpty then Except.ok (Cluster.single t)
          else p.clusterWith t true r : Except UsageError (Cluster σ)) with
      | error e =>
        rw [hj] at hk
        cases hk
      | ok j =>
        rw [hj] at hk
        cases hk
        have inner : j.Within p := by
          split at hj
          · cases hj
            exact Cluster.within_single found
          · exact ih found hj
        exact ⟨List.forall_mem_cons.2 ⟨h, inner.1⟩, inner.2⟩

theorem Parser.within_cluster {p : Parser σ} {s : Switch σ} (h : s ∈ p.switches) {name : String}
    {value : Option String} {k : Cluster σ} (hk : p.cluster s name value = .ok k) : k.Within p := by
  cases value with
  | none =>
    cases hk
    exact Cluster.within_single h
  | some v => exact Parser.within_clusterWith h hk

/-! ### Command lines -/

namespace Parser

variable {p : Parser σ}

theorem finish_map (x : σ) (left : List String) :
    p.finish (f x) left = (p.finish x left).map f := by
  unfold Parser.finish
  split <;> rfl

theorem takeOperands_map (h : p.CommutesWith f) {o : Operands σ} (ho : p.operands = some o) (x : σ)
    (left : List String) (word : String) (rest : List String) :
    takeOperands o (f x) left word rest = (takeOperands o x left word rest).map f := by
  unfold takeOperands
  cases hr : o.read word rest with
  | error cause => rfl
  | ok change => simp only [h.operands o ho word rest change hr, Parsed.map_mk]

/-- Parsing from changed settings comes to the changed settings, for the same reason. -/
theorem run_map (h : p.CommutesWith f) {ts : Tokens σ}
    (ht : ∀ t s n v, (t, .option s n v) ∈ ts → s ∈ p.switches) (x : σ) (left : List String) :
    p.run (f x) left ts = (p.run x left ts).map f := by
  have tail {e : String × Token σ} {r : Tokens σ}
      (hr : ∀ t s n v, (t, .option s n v) ∈ e :: r → s ∈ p.switches) :
      ∀ t s n v, (t, .option s n v) ∈ r → s ∈ p.switches :=
    fun t s n v hm => hr t s n v (List.mem_cons_of_mem e hm)
  have within {text name : String} {u : Switch σ} {value : Option String} {r : Tokens σ}
      (hr : ∀ t s n v, (t, .option s n v) ∈ (text, .option u name value) :: r → s ∈ p.switches)
      {k : Cluster σ} (hk : p.cluster u name value = .ok k) : k.Within p :=
    within_cluster (hr text u name value List.mem_cons_self) hk
  fun_induction Parser.run p x left ts with
  | case1 x left => rw [Parser.run, finish_map]
  | case2 x left text r ih => rw [Parser.run, ih (tail ht)]
  | case3 x left text r o ho => simp only [Parser.run, ho, takeOperands_map h ho]
  | case4 x left text r ho ih => simp only [Parser.run, ho, ih (tail ht)]
  | case5 x left text o word token r ho => simp only [Parser.run, ho, takeOperands_map h ho]
  | case6 x left text r hn =>
    rw [Parser.run, finish_map]
    exact hn
  | case7 x left text s name v r e he => simp only [Parser.run, he, Parsed.map_mk]
  | case8 x left text s name v r plain hk ih =>
    obtain ⟨hp, -⟩ := within ht hk
    simp only [Parser.run, hk, applyPlain_map fun s hs => h.switches s (hp s hs)]
    exact Parsed.andThen_map fun y => ih y (tail ht)
  | case9 x left text s name v r plain t value hk ih =>
    obtain ⟨hp, hv⟩ := within ht hk
    simp only [Parser.run, hk, applyPlain_map fun s hs => h.switches s (hp s hs)]
    rw [Parsed.andThen_map fun y => applyValue_map (h.switches t (hv t _ rfl)) value y]
    exact Parsed.andThen_map fun y => ih y (tail ht)
  | case10 x left text s name v plain t hk value r ih =>
    obtain ⟨hp, hv⟩ := within ht hk
    simp only [Parser.run, hk, applyPlain_map fun s hs => h.switches s (hp s hs)]
    rw [Parsed.andThen_map fun y => applyValue_map (h.switches t (hv t _ rfl)) value y]
    exact Parsed.andThen_map fun y => ih y (tail (tail ht))
  | case11 x left text s name v r plain t hk hn =>
    simp only [Parser.run, hk, Parsed.map_mk]

end Parser

end StorageKey.Usage
