import StorageKey.Log.Detail

/-!
# What verbose output shows of the data

In verbose output the entries of a context lose their prefixes. Entries whose names become the same
are one entry then, of which the last value counts.

* `Context.get?_verbose`: the value under a name in verbose output;
* `Context.ShowsAll`, `Context.Agreeing`: all entries are shown; no two entries are at odds;
* `Context.verbose_shows`: all entries are shown just if no two of them are at odds.
-/

namespace StorageKey

namespace Context

/-- All entries are shown in verbose output: those of quiet output as they are, and the others under
their names without the prefix. -/
structure ShowsAll (c : Context) : Prop where
  plain : ∀ e ∈ c.quiet, c.verbose.get? e.1 = some e.2
  prefixed : ∀ e ∈ c, isVerboseName e.1 = true → c.verbose.get? (bareName e.1) = some e.2

/-- Entries whose names are the same without prefixes have the same value. -/
def Agreeing (c : Context) : Prop :=
  ∀ e ∈ c, ∀ f ∈ c, bareName e.1 = bareName f.1 → e.2 = f.2

/-- The entries with their names without prefixes. -/
def bared (c : Context) : Context := c.map fun e => (bareName e.1, e.2)

variable {c : Context} {name : String} {d : Datum}

/-- A context with one more entry put into it. -/
theorem get?_put (c : Context) (e : String × Datum) (name : String) :
    (c.put e.1 e.2).get? name = (get? [e] name).or (c.get? name) := by
  obtain ⟨a, d⟩ := e
  by_cases ha : name = a
  · subst ha
    rw [get?_put_self]
    simp [get?]
  · have hne : (name == a) = false := by simpa using ha
    rw [get?_put_of_ne c d ha]
    simp [get?, List.lookup_cons, hne]

/-- Where entries have replaced or followed others, the last one of a name counts. -/
theorem get?_update (c d : Context) (name : String) :
    (c.update d).get? name = (get? d.reverse name).or (c.get? name) := by
  induction d generalizing c with
  | nil => rfl
  | cons e d ih =>
    have step : c.update (e :: d) = (c.put e.1 e.2).update d := rfl
    have last : get? (e :: d).reverse name = (get? d.reverse name).or (get? [e] name) := by
      rw [get?, List.reverse_cons, List.lookup_append]
      rfl
    rw [step, ih, get?_put, last, Option.or_assoc]

theorem verbose_eq_update (c : Context) : c.verbose = update [] c.bared := by
  rw [verbose, update, bared, List.foldl_map]

/-- Verbose output shows under a name the last value whose name this is without a prefix. -/
theorem get?_verbose (c : Context) (name : String) :
    c.verbose.get? name = get? c.bared.reverse name := by
  rw [verbose_eq_update, get?_update]
  simp [get?]

/-- A value in verbose output is that of an entry. -/
theorem exists_of_get?_verbose (h : c.verbose.get? name = some d) :
    ∃ e ∈ c, bareName e.1 = name ∧ e.2 = d := by
  rw [get?_verbose] at h
  obtain ⟨l, r, hl, -⟩ := List.lookup_eq_some_iff.1 h
  have found : (name, d) ∈ c.bared := List.mem_reverse.1 (hl ▸ by simp)
  obtain ⟨e, he, eq⟩ := List.mem_map.1 found
  cases eq
  exact ⟨e, he, rfl, rfl⟩

/-- Verbose output shows something under the name of every entry. -/
theorem exists_get?_verbose {e : String × Datum} (he : e ∈ c) :
    ∃ d, c.verbose.get? (bareName e.1) = some d := by
  rw [get?_verbose, ← Option.isSome_iff_exists, get?, List.lookup_isSome_iff]
  exact ⟨_, List.mem_reverse.2 (List.mem_map.2 ⟨e, he, rfl⟩), BEq.rfl⟩

theorem showsAll_iff :
    c.ShowsAll ↔ ∀ e ∈ c, c.verbose.get? (bareName e.1) = some e.2 := by
  constructor
  · intro h e he
    cases hv : isVerboseName e.1 with
    | true => exact h.prefixed e he hv
    | false =>
      rw [bareName_of_not_isVerboseName hv]
      exact h.plain e (List.mem_filter.2 ⟨he, by rw [hv]; rfl⟩)
  · intro h
    refine ⟨fun e he => ?_, fun e he _ => h e he⟩
    obtain ⟨hm, hv⟩ := List.mem_filter.1 he
    rw [Bool.not_eq_true'] at hv
    have := h e hm
    rwa [bareName_of_not_isVerboseName hv] at this

/-- Under a name verbose output shows the last value that has this name without a prefix. So all
entries are shown just if no two of them are at odds. -/
theorem verbose_shows (c : Context) :
    (∀ name, c.verbose.get? name = get? c.bared.reverse name) ∧ (c.ShowsAll ↔ c.Agreeing) := by
  refine ⟨get?_verbose c, showsAll_iff.trans ⟨fun h e he f hf same => ?_, fun h e he => ?_⟩⟩
  · have first := h e he
    rw [same, h f hf] at first
    exact (Option.some.inj first).symm
  · obtain ⟨d, hd⟩ := exists_get?_verbose he
    obtain ⟨f, hf, same, rfl⟩ := exists_of_get?_verbose hd
    rw [hd, h f hf e he same]

/-- An entry in verbose output takes the place of the one that quiet output shows. -/
example : verbose [("a", .int 1), ("_debug_a", .int 2)] = [("a", .int 2)] := by rfl

end Context

end StorageKey
