import StorageKey.Proofs.Invocation.Reading

/-!
# Lines of options

A command line that the parser accepts is a line of options, perhaps a double hyphen, and then the
word for a command.

* `Options`: lines of options, with the settings before and after them;
* `Options.run`: how the parser goes through them;
* `exists_options_of_run`: the shape of a line that the parser accepts.
-/

namespace StorageKey

open Text Usage

/-- A token that the parser takes for a word. -/
def IsWord (t : String) : Prop := topParser.token t = .ok .word

/-- The settings after an option whose path, if it has one, is in its token. -/
def Settings.spelled (s : Settings) (sp : Spelling) : Settings :=
  match sp.config with
  | .given path => (s.addVerbose sp.verbose).setConfig path
  | _ => s.addVerbose sp.verbose

/-- Lines of options, from the settings before them to the settings after them. -/
inductive Options : List String → Settings → Settings → Prop
  | nil (s : Settings) : Options [] s s
  | plain {t : String} {sp : Spelling} {r : List String} {s s' : Settings}
      (ht : spelling? t = some sp) (hc : sp.config ≠ .next) (h : Options r (s.spelled sp) s') :
      Options (t :: r) s s'
  | valued {t v : String} {verbose : Bool} {r : List String} {s s' : Settings}
      (ht : spelling? t = some ⟨verbose, .next⟩) (hv : IsWord v)
      (h : Options r ((s.addVerbose verbose).setConfig v) s') : Options (t :: v :: r) s s'

/-! ### Tokens -/

theorem ne_dashes_of_spelling {t : String} {sp : Spelling} (h : spelling? t = some sp) :
    t ≠ "--" := by
  rintro rfl
  cases h

theorem ne_dashes_of_isWord {t : String} (h : IsWord t) : t ≠ "--" := by
  rintro rfl
  cases h

theorem token_ne_dashes (t : String) : topParser.token t ≠ .ok .dashes := by
  intro h
  simp only [Parser.token] at h
  repeat' split at h
  all_goals cases h

/-- A spelled option is found by the parser. -/
theorem exists_option_of_spelling {t : String} {sp : Spelling} (h : spelling? t = some sp) :
    ∃ w n v k, topParser.token t = .ok (.option w n v) ∧ topParser.cluster w n v = .ok k ∧
      Applies k sp := by
  have := readsAs_spelling t
  rw [h] at this
  unfold ReadsAs at this
  split at this
  · next w n v ht =>
    obtain ⟨k, hk, ha⟩ := this
    exact ⟨w, n, v, k, ht, hk, ha⟩
  · cases this

theorem spelling?_of_isWord {t : String} (h : IsWord t) : spelling? t = none := by
  have := readsAs_spelling t
  rw [h] at this
  exact this

theorem tokens_cons {t : String} (ht : t ≠ "--") {first : Token Settings}
    (hf : topParser.token t = .ok first) {r : List String} {ts : Tokens Settings}
    (hr : topParser.tokens r = .ok ts) : topParser.tokens (t :: r) = .ok ((t, first) :: ts) := by
  simp [Parser.tokens, ht, hf, hr, bind, Except.bind]

theorem exists_of_tokens_cons {t : String} (ht : t ≠ "--") {r : List String}
    {ts : Tokens Settings} (h : topParser.tokens (t :: r) = .ok ts) :
    ∃ first us, topParser.token t = .ok first ∧ topParser.tokens r = .ok us ∧
      ts = (t, first) :: us := by
  simp only [Parser.tokens, ht, if_false, bind, Except.bind] at h
  cases hf : topParser.token t with
  | error e => rw [hf] at h; cases h
  | ok first =>
    cases hr : topParser.tokens r with
    | error e => rw [hf, hr] at h; cases h
    | ok us =>
      rw [hf, hr] at h
      cases h
      exact ⟨first, us, rfl, rfl, rfl⟩

/-- A word among the tokens of a line that comes before any double hyphen. -/
theorem exists_of_tokens_word {r : List String} {v : String} {us : Tokens Settings}
    (h : topParser.tokens r = .ok ((v, .word) :: us)) :
    ∃ r', r = v :: r' ∧ IsWord v ∧ topParser.tokens r' = .ok us := by
  cases r with
  | nil => cases h
  | cons u r =>
    by_cases hd : u = "--"
    · subst hd
      cases h
    · obtain ⟨first, vs, hf, hr, heq⟩ := exists_of_tokens_cons hd h
      cases heq
      exact ⟨r, rfl, hf, hr⟩

/-! ### Runs of the parser -/

/-- What the parser does at an option that is spelled. -/
theorem run_option {w : Switch Settings} {n : String} {v : Option String} {k : Cluster Settings}
    {sp : Spelling} (hk : topParser.cluster w n v = .ok k) (ha : Applies k sp) (t : String)
    (s : Settings) (left : List String) (ts : Tokens Settings) :
    topParser.run s left ((t, .option w n v) :: ts) =
      if sp.config = .next then
        match ts with
        | (v, .word) :: ts => topParser.run ((s.addVerbose sp.verbose).setConfig v) left ts
        | _ => ⟨s, some (.failure (.argument configSwitch.title .missingValue))⟩
      else topParser.run (s.spelled sp) left ts := by
  obtain ⟨plain, valued⟩ := k
  have hv := ha.valued
  have hp := ha.plain s
  simp only at hv hp
  rw [Parser.run, hk]
  simp only [Settings.spelled]
  cases hc : sp.config with
  | absent =>
    rw [hc] at hv
    subst hv
    simp [hp, Parsed.andThen]
  | given path =>
    rw [hc] at hv
    subst hv
    simp [hp, Parsed.andThen, applyValue_configSwitch]
  | next =>
    rw [hc] at hv
    subst hv
    simp only [hp, Parsed.andThen, applyValue_configSwitch, if_true]
    rcases ts with _ | ⟨⟨u, _ | _ | _ | _⟩, ts⟩ <;> rfl

/-- The parser does not go on past an option that does not let it. -/
theorem stop_run_option {w : Switch Settings} {n : String} {v : Option String}
    (h : Stops (topParser.cluster w n v)) (t : String) (s : Settings) (left : List String)
    (ts : Tokens Settings) : (topParser.run s left ((t, .option w n v) :: ts)).stop ≠ none := by
  rw [Parser.run]
  cases hk : topParser.cluster w n v with
  | error e => simp
  | ok k =>
    obtain ⟨plain, valued⟩ := k
    have hp := h _ hk s
    have go (f : Settings → Parsed Settings) : ((applyPlain s plain).andThen f).stop ≠ none := by
      rw [Parsed.andThen_of_stop_ne_none _ hp]
      exact hp
    have go₂ (f g : Settings → Parsed Settings) :
        (((applyPlain s plain).andThen f).andThen g).stop ≠ none := by
      rw [Parsed.andThen_of_stop_ne_none _ (go f)]
      exact go f
    rcases valued with _ | ⟨u, _ | value⟩
    · exact go _
    · simp only
      split
      · exact go₂ _ _
      · simp
    · exact go₂ _ _

theorem exists_tokens_of_parse {args : List String} {s s' : Settings}
    (h : topParser.parse s args = ⟨s', none⟩) :
    ∃ ts, topParser.tokens args = .ok ts ∧ topParser.run s [] ts = ⟨s', none⟩ := by
  unfold Parser.parse at h
  split at h
  · cases h
  · next ts ht => exact ⟨ts, ht, h⟩

/-! ### Lines of options -/

/-- The parser goes through a line of options to the settings after it. -/
theorem Options.run {opts : List String} {s s' : Settings} (h : Options opts s s')
    {args : List String} {ts : Tokens Settings} (ha : topParser.tokens args = .ok ts) :
    ∃ us, topParser.tokens (opts ++ args) = .ok us ∧
      ∀ left, topParser.run s left us = topParser.run s' left ts := by
  induction h with
  | nil s => exact ⟨ts, ha, fun _ => rfl⟩
  | @plain t sp r s s' ht hc h ih =>
    obtain ⟨us, hu, hr⟩ := ih
    obtain ⟨w, n, v, k, hw, hk, hap⟩ := exists_option_of_spelling ht
    refine ⟨_, tokens_cons (ne_dashes_of_spelling ht) hw hu, fun left => ?_⟩
    rw [run_option hk hap, if_neg hc, hr]
  | @valued t v b r s s' ht hv h ih =>
    obtain ⟨us, hu, hr⟩ := ih
    obtain ⟨w, n, _, k, hw, hk, hap⟩ := exists_option_of_spelling ht
    refine ⟨_, tokens_cons (ne_dashes_of_spelling ht) hw
      (tokens_cons (ne_dashes_of_isWord hv) hv hu), fun left => ?_⟩
    rw [run_option hk hap, if_pos rfl]
    exact hr left

/-- A line of options alone lacks its command. -/
theorem Options.parse_eq_missing {opts : List String} {s s' : Settings} (h : Options opts s s') :
    topParser.parse s opts = ⟨s', some (.failure (.missing ["command", "arguments"]))⟩ := by
  have nothing : topParser.tokens [] = .ok [] := rfl
  obtain ⟨us, hu, hr⟩ := h.run nothing
  rw [List.append_nil] at hu
  rw [Parser.parse, hu]
  exact hr []

/-- A line of options and the word for a command make the settings after the options and the
command; a double hyphen may stand between them. -/
theorem Options.parse_word {opts mid : List String} {s s' : Settings} (h : Options opts s s')
    (hm : mid = [] ∨ mid = ["--"]) (c : Command) :
    topParser.parse s (opts ++ mid ++ [c.word]) =
      ⟨{ s' with command := some c, rest := [] }, none⟩ := by
  have last : ∃ ts, topParser.tokens (mid ++ [c.word]) = .ok ts ∧
      ∀ s, topParser.run s [] ts = ⟨{ s with command := some c, rest := [] }, none⟩ := by
    rcases hm with rfl | rfl <;> cases c <;> exact ⟨_, rfl, fun _ => rfl⟩
  obtain ⟨ts, ht, hl⟩ := last
  obtain ⟨us, hu, hr⟩ := h.run ht
  rw [List.append_assoc, Parser.parse, hu]
  exact (hr []).trans (hl s')

/-- An operand is taken as a command only if it is the word for one and nothing is left over. -/
theorem exists_command_of_takeOperands {o : Operands Settings} (ho : topParser.operands = some o)
    {s s' : Settings} {left rest : List String} {word : String}
    (h : takeOperands o s left word rest = ⟨s', none⟩) :
    left = [] ∧ ∃ c : Command, word = c.word ∧ s' = { s with command := some c, rest := rest } := by
  cases ho
  simp only [takeOperands, readCommand] at h
  cases hc : Command.ofString? word with
  | none =>
    rw [hc] at h
    cases h
  | some c =>
    rw [hc] at h
    simp only [Except.map, Parsed.mk.injEq, ite_eq_left_iff, reduceCtorEq, imp_false, not_not,
      List.isEmpty_iff] at h
    exact ⟨h.2, c, Command.eq_word_of_ofString? hc, h.1.symm⟩

/-- A line that the parser accepts has options first, and then the word for a command. -/
theorem exists_options_of_run {args : List String} {ts : Tokens Settings} {s s' : Settings}
    {left : List String} (ht : topParser.tokens args = .ok ts)
    (hr : topParser.run s left ts = ⟨s', none⟩) :
    left = [] ∧ ∃ opts mid c rest s₁ taken, args = opts ++ mid ++ Command.word c :: rest ∧
      (mid = [] ∨ mid = ["--"]) ∧ Options opts s s₁ ∧
      s' = { s₁ with command := some c, rest := taken } := by
  -- An option takes one token or two, so the recursion is on the rest of the line, not on its tail.
  match args with
  | [] =>
    cases ht
    cases hr
  | t :: r =>
    by_cases hd : t = "--"
    · subst hd
      cases ht
      cases r with
      | nil => cases hr
      | cons w rest =>
        obtain ⟨hl, c, rfl, hs⟩ := exists_command_of_takeOperands rfl hr
        exact ⟨hl, [], ["--"], c, rest, s, _, rfl, .inr rfl, .nil s, hs⟩
    obtain ⟨first, us, hf, hu, rfl⟩ := exists_of_tokens_cons hd ht
    have reads := readsAs_spelling t
    rw [hf] at reads
    cases first with
    | dashes => exact absurd hf (token_ne_dashes t)
    | word =>
      obtain ⟨hl, c, rfl, hs⟩ := exists_command_of_takeOperands rfl hr
      exact ⟨hl, [], [], c, r, s, _, rfl, .inl rfl, .nil s, hs⟩
    | unknown =>
      -- An unknown option is left over, and stays so to the end of the line.
      obtain ⟨hl, -⟩ := exists_options_of_run hu hr
      exact absurd hl (by simp)
    | option w n v =>
      cases hsp : spelling? t with
      | none =>
        rw [hsp] at reads
        exact absurd (by rw [hr]) (stop_run_option reads t s left us)
      | some sp =>
        rw [hsp] at reads
        obtain ⟨k, hk, ha⟩ := reads
        rw [run_option hk ha] at hr
        by_cases hc : sp.config = .next
        · rw [if_pos hc] at hr
          split at hr
          · next v us =>
            obtain ⟨r, rfl, hv, hu⟩ := exists_of_tokens_word hu
            obtain ⟨hl, opts, mid, c, rest, s₁, taken, rfl, hm, ho, hs⟩ :=
              exists_options_of_run hu hr
            obtain ⟨verbose, config⟩ := sp
            cases hc
            exact ⟨hl, t :: v :: opts, mid, c, rest, s₁, taken, rfl, hm, .valued hsp hv ho, hs⟩
          · cases hr
        · rw [if_neg hc] at hr
          obtain ⟨hl, opts, mid, c, rest, s₁, taken, rfl, hm, ho, hs⟩ := exists_options_of_run hu hr
          exact ⟨hl, t :: opts, mid, c, rest, s₁, taken, rfl, hm, .plain hsp hc ho, hs⟩
termination_by args.length

end StorageKey
