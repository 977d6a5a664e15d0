import StorageKey.Proofs.Invocation.Line

/-!
# The scan for the command's word

The scan passes over the options of a command line by a rule of its own for which of them take the
next token. The rule knows every spelling but two kinds of them (`Missed`).

* `Missed`: the spellings that the scan does not know;
* `takesNext_or_missed`: it knows all others;
* `Options.commandIndex_append`: where the scan leaves a line of options.
-/

namespace StorageKey

open Text Usage

/-! ### Spellings that the scan knows -/

/-- The scan takes the next token for a value after the long name for the configuration, and after
short names that end with its short one. -/
theorem takesNext_iff {t : String} : takesNext t = true ↔
    t = "--config" ∨ ∃ l, t.toList = '-' :: (l ++ ['c']) ∧ ∀ x ∈ l, x = 'v' ∨ x = 'V' := by
  rw [takesNext, Bool.or_eq_true, decide_eq_true_iff]
  refine or_congr Iff.rfl ?_
  split
  · next r ht =>
    rcases List.eq_nil_or_concat r with rfl | ⟨l, b, rfl⟩
    · simp [ht]
    · simp [ht]
  · next h =>
    refine ⟨fun h => absurd h Bool.false_ne_true, ?_⟩
    rintro ⟨l, hl, -⟩
    exact absurd hl (h _)

/-- Where the letters leave the path of the configuration. -/
theorem config_ofLetters_verbose (l : List Char) :
    (Spelling.ofLetters ('v' :: l)).map Spelling.config =
      if l = [] then some .absent else (Spelling.ofLetters l).map Spelling.config := by
  by_cases hl : l = []
  · subst hl
    rfl
  · rw [Spelling.ofLetters_verbose hl, Option.map_map, if_neg hl]
    rfl

theorem config_ofLetters_eq_next {l : List Char} (hl : ∀ x ∈ l, x = 'v' ∨ x = 'V') {sp : Spelling}
    (h : Spelling.ofLetters (l ++ ['c']) = some sp) : sp.config = .next := by
  induction l generalizing sp with
  | nil =>
    cases h
    rfl
  | cons a l ih =>
    obtain ⟨ha, hr⟩ := List.forall_mem_cons.1 hl
    rcases ha with rfl | rfl
    · rw [List.cons_append, Spelling.ofLetters_verbose (by simp), Option.map_eq_some_iff] at h
      obtain ⟨sp', h', rfl⟩ := h
      have : sp'.config = .next := ih hr h'
      exact this
    · simp [Spelling.ofLetters] at h

/-- Letters leave a path to the next token if the last of them is the only one for the
configuration. -/
theorem config_ofLetters_eq_next_iff {l : List Char} :
    (Spelling.ofLetters l).map Spelling.config = some .next ↔
      ∃ n, l = List.replicate n 'v' ++ ['c'] := by
  induction l with
  | nil => simp [Spelling.ofLetters]
  | cons a l ih =>
    by_cases hv : a = 'v'
    · subst hv
      rw [config_ofLetters_verbose]
      by_cases hl : l = []
      · subst hl
        rw [if_pos rfl]
        refine ⟨fun h => absurd h (by decide), ?_⟩
        rintro ⟨_ | n, h⟩
        · cases h
        · exact absurd (List.tail_eq_of_cons_eq h) (by simp)
      · rw [if_neg hl, ih]
        constructor
        · rintro ⟨n, rfl⟩
          exact ⟨n + 1, rfl⟩
        · rintro ⟨n | n, h⟩
          · cases h
          · exact ⟨n, List.tail_eq_of_cons_eq h⟩
    · have start : (∃ n, a :: l = List.replicate n 'v' ++ ['c']) ↔ a = 'c' ∧ l = [] := by
        constructor
        · rintro ⟨n | n, h⟩
          · cases h
            exact ⟨rfl, rfl⟩
          · exact absurd (List.head_eq_of_cons_eq h) hv
        · rintro ⟨rfl, rfl⟩
          exact ⟨0, rfl⟩
      rw [start]
      by_cases hc : a = 'c' <;> by_cases hl : l = [] <;> simp [Spelling.ofLetters, hv, hc, hl]

/-- Short names that end with the one for the configuration are read letter by letter. -/
theorem spelling?_of_letters {t : String} {l : List Char} (ht : t.toList = '-' :: (l ++ ['c']))
    (hl : ∀ x ∈ l, x = 'v' ∨ x = 'V') : spelling? t = Spelling.ofLetters (l ++ ['c']) := by
  unfold spelling?
  rw [ht]
  rcases l with _ | ⟨a, _ | ⟨b, l⟩⟩
  · rfl
  · rcases hl a List.mem_cons_self with rfl | rfl <;> rfl
  · obtain ⟨ha, hb, -⟩ : (a = 'v' ∨ a = 'V') ∧ (b = 'v' ∨ b = 'V') ∧ _ := by simpa using hl
    rcases ha with rfl | rfl <;> rcases hb with rfl | rfl <;> rfl

theorem config_eq_next_of_takesNext {t : String} (h : takesNext t = true) {sp : Spelling}
    (hs : spelling? t = some sp) : sp.config = .next := by
  rcases takesNext_iff.1 h with rfl | ⟨l, ht, hl⟩
  · cases hs
    rfl
  · rw [spelling?_of_letters ht hl] at hs
    exact config_ofLetters_eq_next hl hs

theorem takesNext_of_isWord {t : String} (h : IsWord t) : takesNext t = false := by
  rw [Bool.eq_false_iff]
  intro hn
  unfold IsWord at h
  rcases takesNext_iff.1 hn with rfl | ⟨l, ht, hl⟩
  · cases h
  · rcases l with _ | ⟨a, l⟩
    · rw [token_short ht (by decide), switch?_short] at h
      cases h
    · have ha := hl a List.mem_cons_self
      rw [token_short ht (by rcases ha with rfl | rfl <;> decide), switch?_short] at h
      rcases ha with rfl | rfl <;> cases h

/-- The spellings of the option for the configuration that leave its path to the next token without
the scan knowing it: shortened long names, and short names behind an equals sign. -/
def Missed (t : String) : Prop :=
  t ∈ ["--c", "--co", "--con", "--conf", "--confi"] ∨
    ∃ n, t.toList = '-' :: 'v' :: '=' :: (List.replicate n 'v' ++ ['c'])

theorem takeWhile_of_splitEquals {t : String} {x : List Char} (ht : t.toList = '-' :: '-' :: x)
    (hv : (splitEquals t).2 = none) : x.takeWhile (· ≠ '=') = x := by
  have whole := List.takeWhile_append_dropWhile (p := (· ≠ '=')) (l := x)
  rw [snd_splitEquals, ht, Option.map_eq_none_iff] at hv
  have tail : (x.dropWhile (· ≠ '=')).tail? = none := hv
  cases hd : x.dropWhile (· ≠ '=') with
  | nil => rwa [hd, List.append_nil] at whole
  | cons c r =>
    rw [hd] at tail
    cases tail

/-- The long name for the configuration and its shortened forms. -/
theorem eq_of_prefix_config {x : List Char} (hn : x ≠ []) (hp : x <+: "config".toList)
    {t : String} (ht : t.toList = '-' :: '-' :: x) :
    t = "--config" ∨ t ∈ ["--c", "--co", "--con", "--conf", "--confi"] := by
  have all : ∀ x ∈ "config".toList.inits, x ≠ [] → String.ofList ('-' :: '-' :: x) = "--config" ∨
      String.ofList ('-' :: '-' :: x) ∈ ["--c", "--co", "--con", "--conf", "--confi"] := by decide
  have := all x ((List.mem_inits _ _).2 hp) hn
  rwa [← ht, String.ofList_toList] at this

theorem takesNext_or_missed_long {t : String} {x : List Char} (ht : t.toList = '-' :: '-' :: x)
    {b : Bool}
    (h : Spelling.ofLong (x.takeWhile (· ≠ '=')) (splitEquals t).2 = some ⟨b, .next⟩) :
    takesNext t = true ∨ Missed t := by
  unfold Spelling.ofLong at h
  split at h
  · next hx =>
    obtain ⟨hn, hp⟩ := hx
    have hv : (splitEquals t).2 = none := by
      cases hv : (splitEquals t).2 with
      | none => rfl
      | some v => rw [hv] at h; cases h
    have whole : x.takeWhile (· ≠ '=') = x := takeWhile_of_splitEquals ht hv
    rw [whole] at hn hp
    rcases eq_of_prefix_config hn hp ht with ht | ht
    · exact .inl (takesNext_iff.2 (.inl ht))
    · exact .inr (.inl ht)
  · split at h <;> cases h

theorem takesNext_or_missed_short {t : String} {a : Char} {r : List Char}
    (ht : t.toList = '-' :: a :: r) {b : Bool} (h : Spelling.ofShort a r = some ⟨b, .next⟩) :
    takesNext t = true ∨ Missed t := by
  have hc : (Spelling.ofShort a r).map Spelling.config = some .next := by rw [h]; rfl
  unfold Spelling.ofShort at hc
  split at hc
  · next value =>
    split at hc
    · cases hc
    split at hc
    · next hv =>
      subst hv
      rw [Option.map_map] at hc
      obtain ⟨n, rfl⟩ := config_ofLetters_eq_next_iff.1 hc
      exact .inr (.inr ⟨n, ht⟩)
    · cases hc
  · obtain ⟨n, hn⟩ := config_ofLetters_eq_next_iff.1 hc
    refine .inl (takesNext_iff.2 (.inr ⟨List.replicate n 'v', by rw [ht, hn], ?_⟩))
    intro x hx
    exact .inl (List.eq_of_mem_replicate hx)

/-- The scan knows the spellings that leave a path to the next token, except those that it
misses. -/
theorem takesNext_or_missed {t : String} {b : Bool} (h : spelling? t = some ⟨b, .next⟩) :
    takesNext t = true ∨ Missed t := by
  unfold spelling? at h
  split at h
  · next a r ht =>
    split at h
    · next ha =>
      subst ha
      exact takesNext_or_missed_long ht h
    · next ha => exact takesNext_or_missed_short ht h
  · cases h

theorem config_eq_next_of_missed {t : String} (h : Missed t) :
    (spelling? t).map Spelling.config = some .next := by
  rcases h with h | ⟨n, ht⟩
  · have : ∀ t ∈ ["--c", "--co", "--con", "--conf", "--confi"],
        (spelling? t).map Spelling.config = some .next := by decide
    exact this t h
  · have hs : spelling? t =
        (Spelling.ofLetters (List.replicate n 'v' ++ ['c'])).map .andVerbose := by
      unfold spelling?
      rw [ht]
      rfl
    rw [hs, Option.map_map]
    exact config_ofLetters_eq_next_iff.2 ⟨n, rfl⟩

/-! ### The scan -/

/-- Whether the scan passes over a token: it starts with a hyphen and is not one alone. -/
theorem isStart_of_spelling {t : String} {sp : Spelling} (h : spelling? t = some sp) :
    isStart "-" t ∧ t ≠ "-" := by
  unfold spelling? at h
  split at h
  · next a r ht =>
    refine ⟨by simp [isStart, ht], ?_⟩
    rintro rfl
    cases ht
  · cases h

theorem commandIndex_cons_of_next {t : String} (hd : t ≠ "--") (hs : isStart "-" t ∧ t ≠ "-")
    (hn : takesNext t = true) (v : String) (r : List String) :
    commandIndex (t :: v :: r) = 2 + commandIndex r := by
  rw [commandIndex, if_neg hd, if_pos hs, if_pos hn]

theorem commandIndex_cons_of_plain {t : String} (hd : t ≠ "--") (hs : isStart "-" t ∧ t ≠ "-")
    (hn : takesNext t = false) (r : List String) : commandIndex (t :: r) = 1 + commandIndex r := by
  rw [commandIndex.eq_def]
  exact (if_neg hd).trans ((if_pos hs).trans (if_neg (by rw [hn]; exact Bool.false_ne_true)))

theorem commandIndex_cons_of_word {t : String} (hd : t ≠ "--") (hs : ¬(isStart "-" t ∧ t ≠ "-"))
    (r : List String) : commandIndex (t :: r) = 0 := by
  rw [commandIndex.eq_def]
  exact (if_neg hd).trans (if_neg hs)

/-- The scan passes over a line of options whatever follows it, unless it takes for the command a
path behind a spelling that it misses. -/
theorem Options.commandIndex_append {opts : List String} {s s' : Settings}
    (h : Options opts s s') :
    (∀ args, commandIndex (opts ++ args) = opts.length + commandIndex args) ∨
      ∃ pre t v post s₁, opts = pre ++ t :: v :: post ∧ Missed t ∧
        Options (pre ++ [t, v]) s s₁ ∧
        ∀ args, commandIndex (opts ++ args) = pre.length + 1 := by
  induction h with
  | nil s => exact .inl fun args => by simp
  | @plain t sp r s s' ht hc h ih =>
    have hn : takesNext t = false := by
      rw [Bool.eq_false_iff]
      exact fun hn => hc (config_eq_next_of_takesNext hn ht)
    have step (args : List String) : commandIndex (t :: r ++ args) = 1 + commandIndex (r ++ args) :=
      commandIndex_cons_of_plain (ne_dashes_of_spelling ht) (isStart_of_spelling ht) hn _
    rcases ih with ih | ⟨pre, u, v, post, s₁, rfl, hu, ho, hi⟩
    · refine .inl fun args => ?_
      rw [step, ih, List.length_cons]
      omega
    · refine .inr ⟨t :: pre, u, v, post, s₁, rfl, hu, .plain ht hc ho, fun args => ?_⟩
      rw [step, hi, List.length_cons]
      omega
  | @valued t v b r s s' ht hv h ih =>
    have start := isStart_of_spelling ht
    have hd := ne_dashes_of_spelling ht
    -- A path behind a missed spelling is passed over all the same if it starts with a hyphen.
    by_cases seen : takesNext t = true ∨ (isStart "-" v ∧ v ≠ "-")
    · have step (args : List String) :
          commandIndex (t :: v :: r ++ args) = 2 + commandIndex (r ++ args) := by
        by_cases hn : takesNext t = true
        · exact commandIndex_cons_of_next hd start hn v _
        · rw [List.cons_append, List.cons_append,
            commandIndex_cons_of_plain hd start (Bool.eq_false_iff.2 hn),
            commandIndex_cons_of_plain (ne_dashes_of_isWord hv) (seen.resolve_left hn)
              (takesNext_of_isWord hv)]
          omega
      rcases ih with ih | ⟨pre, u, w, post, s₁, rfl, hu, ho, hi⟩
      · refine .inl fun args => ?_
        rw [step, ih, List.length_cons, List.length_cons]
        omega
      · refine .inr ⟨t :: v :: pre, u, w, post, s₁, rfl, hu, .valued ht hv ho, fun args => ?_⟩
        rw [step, hi, List.length_cons, List.length_cons]
        omega
    · rw [not_or] at seen
      refine .inr ⟨[], t, v, r, _, rfl, (takesNext_or_missed ht).resolve_left seen.1,
        .valued ht hv (.nil _), fun args => ?_⟩
      rw [List.cons_append, List.cons_append,
        commandIndex_cons_of_plain hd start (Bool.eq_false_iff.2 seen.1),
        commandIndex_cons_of_word (ne_dashes_of_isWord hv) seen.2]
      rfl

/-- The scan stops at the word for a command, and right behind a double hyphen. -/
theorem commandIndex_word {mid : List String} (hm : mid = [] ∨ mid = ["--"]) (c : Command)
    (rest : List String) : commandIndex (mid ++ c.word :: rest) = mid.length := by
  rcases hm with rfl | rfl
  · exact commandIndex_cons_of_word (by cases c <;> decide) (by cases c <;> decide) rest
  · rfl

end StorageKey
