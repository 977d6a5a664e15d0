import StorageKey.Usage.Subcommand

/-!
# Asking a command for help

A parser that has the help option only leaves all other tokens over. The first token before a double
hyphen that is an option decides: it asks for help, or is misspelt. Without one, tokens that are left
over are an error.

* `Parser.HelpOnly`, `touchesHelp`: such a parser, and the tokens that may be its option;
* `Parser.firstVerdict?`, `Parser.HelpOnly.parse_eq`: what the tokens say, and what this comes to;
* `Parser.after`: a parser that has been used before;
* `answer_helpParser`: the reply to the arguments of a command.
-/

namespace StorageKey.Usage

open StorageKey.Text

variable {σ : Type} {p : Parser σ}

/-- A parser that has the help option and nothing else. -/
structure Parser.HelpOnly (p : Parser σ) : Prop where
  switches : p.switches = [helpSwitch σ]
  operands : p.operands = none

theorem helpOnly_helpParser (program description : String) :
    (helpParser σ program description).HelpOnly := ⟨rfl, rfl⟩

/-! ### Tokens that are no help option -/

/-- Whether a token may be meant for the help option: it starts with the short name, with the first
letter of the long one, or with two hyphens and an equals sign. -/
def touchesHelp (token : String) : Bool :=
  isStart "-h" token || isStart "--h" token || isStart "--=" token

/-- A token that starts with a hyphen and is not the help option. -/
inductive Foreign : List Char → Prop
  | short {c : Char} (r : List Char) (hc : c ≠ '-') (hh : c ≠ 'h') : Foreign ('-' :: c :: r)
  | long {c : Char} (r : List Char) (hc : c ≠ '=') (hh : c ≠ 'h') : Foreign ('-' :: '-' :: c :: r)

theorem foreign_of_not_touchesHelp {t : String} (h : touchesHelp t = false)
    (hyphen : isStart "-" t = true) (single : t ≠ "-") (double : t ≠ "--") : Foreign t.toList := by
  unfold touchesHelp isStart at h
  unfold isStart at hyphen
  rw [ne_eq, ← String.toList_inj] at single double
  generalize t.toList = s at h hyphen single double
  -- The first three characters tell.
  match s with
  | [] => cases hyphen
  | [c] =>
    obtain rfl : '-' = c := by simpa using hyphen
    exact absurd rfl single
  | c :: d :: r =>
    obtain rfl : '-' = c := by simpa using hyphen
    by_cases hd : d = '-'
    · subst hd
      match r with
      | [] => exact absurd rfl double
      | e :: r =>
        have he : e ≠ 'h' ∧ e ≠ '=' := by
          constructor <;> rintro rfl <;> simp at h
        exact .long r he.2 he.1
    · refine .short r hd ?_
      rintro rfl
      simp at h

/-- A foreign token starts neither name of the help option. -/
theorem Foreign.not_isStart {t : String} (h : Foreign t.toList) :
    isStart t "-h" = false ∧ isStart t "--help" = false := by
  unfold isStart
  generalize t.toList = s at h ⊢
  cases h with
  | short r hc hh => simp [List.isPrefixOf_cons_cons, hc, hh]
  | long r hc hh => simp [List.isPrefixOf_cons_cons, hh]

/-! ### What a token says -/

/-- A token that a parser leaves over: a word, or an option that is none of its own. -/
def Parser.LeavesOver (p : Parser σ) (t : String) : Prop :=
  p.token t = .ok .word ∨ p.token t = .ok .unknown

/-- What a token says to a parser: nothing if it is left over, else whether the options that it joins
are found. -/
def Parser.verdict? (p : Parser σ) (t : String) : Option (Except UsageError Unit) :=
  match p.token t with
  | .ok (.option s name value) => some ((p.cluster s name value).map fun _ => ())
  | _ => none

/-- The first verdict before a double hyphen. -/
def Parser.firstVerdict? (p : Parser σ) (tokens : List String) : Option (Except UsageError Unit) :=
  (tokens.takeWhile (· ≠ "--")).findSome? p.verdict?

/-- What parsing comes to by the first verdict, and the tokens that are left over without any. -/
def parsedBy (settings : σ) (left : List String) : Option (Except UsageError Unit) → Parsed σ
  | some (.ok ()) => ⟨settings, some .help⟩
  | some (.error e) => ⟨settings, some (.failure e)⟩
  | none => ⟨settings, if left.isEmpty then none else some (.failure (.unrecognized left))⟩

theorem Parser.LeavesOver.verdict?_eq {t : String} (h : p.LeavesOver t) : p.verdict? t = none := by
  rcases h with h | h <;> rw [verdict?, h]

theorem Parser.firstVerdict?_dashes (r : List String) : p.firstVerdict? ("--" :: r) = none := rfl

theorem Parser.firstVerdict?_cons {t : String} (h : t ≠ "--") (r : List String) :
    p.firstVerdict? (t :: r) = (p.verdict? t).or (p.firstVerdict? r) := by
  rw [firstVerdict?, List.takeWhile_cons_of_pos (by simpa using h), List.findSome?_cons]
  cases p.verdict? t <;> rfl

namespace Parser.HelpOnly

variable (h : p.HelpOnly)
include h

theorem switch?_eq (name : String) : p.switch? name =
    if name = "-h" ∨ name = "--help" then some (helpSwitch σ) else none := by
  have named : (helpSwitch σ).names.contains name = decide (name = "-h" ∨ name = "--help") := by
    simp [helpSwitch]
  rw [Parser.switch?, h.switches, List.find?_cons, named]
  by_cases hn : name = "-h" ∨ name = "--help" <;> simp [hn]

theorem eq_of_switch? {name : String} {s : Switch σ} (hs : p.switch? name = some s) :
    s = helpSwitch σ := by
  rw [h.switch?_eq] at hs
  split at hs
  · exact (Option.some.inj hs).symm
  · cases hs

theorem names_eq : p.names = [("-h", helpSwitch σ), ("--help", helpSwitch σ)] := by
  rw [Parser.names, h.switches]
  rfl

theorem switch?_foreign {name : String} (hn : Foreign name.toList) : p.switch? name = none := by
  obtain ⟨short, long⟩ := hn.not_isStart
  rw [h.switch?_eq, if_neg]
  rintro (rfl | rfl)
  · cases short
  · cases long

/-- What stands before the equals sign of a foreign token is no name of the help option. -/
theorem switch?_splitEquals_foreign {t : String} (ht : Foreign t.toList) :
    p.switch? (splitEquals t).1 = none := by
  have name := toList_fst_splitEquals t
  generalize t.toList = s at ht name
  cases ht with
  | @short c r hc hh =>
    by_cases he : c = '='
    · have hyphen : (splitEquals t).1 = "-" := by
        rw [← String.toList_inj, name]
        simp [he]
      rw [hyphen, h.switch?_eq]
      rfl
    · refine h.switch?_foreign ?_
      rw [name]
      simpa [he] using Foreign.short _ hc hh
  | @long c r hc hh =>
    refine h.switch?_foreign ?_
    rw [name]
    simpa [hc] using Foreign.long _ hc hh

theorem candidates_foreign {t : String} (ht : Foreign t.toList) : p.candidates t = [] := by
  have start := toList_fst_splitEquals t
  obtain ⟨short, long⟩ := ht.not_isStart
  unfold Parser.candidates
  rw [h.names_eq]
  generalize hs : t.toList = s at ht start
  cases ht with
  | @short c r hc hh =>
    have one : isStart "--" t = false := by
      simp [isStart, hs, List.isPrefixOf_cons_cons, hc.symm]
    have other : "-h" ≠ String.ofList ['-', c] ∧ "--help" ≠ String.ofList ['-', c] := by
      constructor <;> rw [ne_eq, ← String.toList_inj] <;> simp [hh.symm]
    simp only [one, List.take_succ_cons, List.take_zero, List.filterMap_cons, List.filterMap_nil,
      other, short, long, Bool.false_eq_true, if_false]
  | @long c r hc hh =>
    have two : isStart "--" t = true := by simp [isStart, hs]
    have name : Foreign (splitEquals t).1.toList := by
      rw [start]
      simpa [hc] using Foreign.long _ hc hh
    obtain ⟨short, long⟩ := name.not_isStart
    simp only [two, if_true, List.filter_cons, short, long, Bool.false_eq_true, if_false,
      List.filter_nil, List.map_nil]

/-- A token that is not meant for the help option is left over. -/
theorem leavesOver_of_not_touchesHelp {t : String} (ht : touchesHelp t = false)
    (double : t ≠ "--") : p.LeavesOver t := by
  unfold Parser.LeavesOver Parser.token
  cases hyphen : isStart "-" t with
  | false => exact .inl rfl
  | true =>
    by_cases single : t = "-"
    · subst single
      left
      rw [h.switch?_eq]
      rfl
    have foreign := foreign_of_not_touchesHelp ht hyphen single double
    have valueless : ((splitEquals t).2.bind fun v =>
        (p.switch? (splitEquals t).1).map fun s => (s, v)) = none := by
      rw [h.switch?_splitEquals_foreign foreign]
      cases (splitEquals t).2 <;> rfl
    simp only [h.switch?_foreign foreign, if_neg single, valueless, h.candidates_foreign foreign]
    by_cases word : (isNegativeNumber t || t.toList.contains ' ') = true
    · exact .inl (if_pos word)
    · exact .inr (if_neg word)

/-- The help option under its own names asks for help. -/
theorem verdict?_help {t : String} (ht : t = "-h" ∨ t = "--help") :
    p.verdict? t = some (.ok ()) := by
  have hyphen : isStart "-" t = true := by rcases ht with rfl | rfl <;> decide
  have token : p.token t = .ok (.option (helpSwitch σ) t none) := by
    rw [Parser.token, hyphen, h.switch?_eq, if_pos ht]
    rfl
  rw [Parser.verdict?, token]
  rfl

/-- A token is short for the help option in one way at most. -/
theorem candidates_cases {t : String} (hyphen : isStart "-" t = true) (single : t ≠ "-") :
    p.candidates t = [] ∨ ∃ n v, p.candidates t = [(helpSwitch σ, n, v)] := by
  unfold Parser.candidates
  rw [h.names_eq]
  split
  · next long =>
    -- Two hyphens start the long name only.
    have short : isStart (splitEquals t).1 "-h" = false := by
      obtain ⟨r, hr⟩ := List.isPrefixOf_iff_prefix.1 long
      rw [isStart, toList_fst_splitEquals, ← hr]
      rfl
    simp only [List.filter_cons, short, Bool.false_eq_true, if_false, List.filter_nil]
    split
    · exact .inr ⟨_, _, rfl⟩
    · exact .inl rfl
  · next one =>
    obtain ⟨r, hr⟩ := List.isPrefixOf_iff_prefix.1 hyphen
    rw [isStart, ← hr] at one
    cases r with
    | nil => exact absurd (String.toList_inj.1 hr.symm) single
    | cons c r =>
      have hc : c ≠ '-' := by
        rintro rfl
        exact one rfl
      have long : isStart t "--help" = false := by
        rw [isStart, ← hr]
        simp [List.isPrefixOf_cons_cons, hc]
      have other : "--help" ≠ String.ofList (t.toList.take 2) := by
        rw [← hr, ne_eq, ← String.toList_inj]
        simp
      simp only [List.filterMap_cons, List.filterMap_nil, other, long, Bool.false_eq_true, if_false]
      split
      · exact .inl rfl
      · next k hk =>
        split at hk
        · cases hk
          exact .inr ⟨_, _, rfl⟩
        split at hk
        · cases hk
          exact .inr ⟨_, _, rfl⟩
        · cases hk

/-- A token is left over, or it is the help option. -/
theorem token_cases (t : String) :
    p.LeavesOver t ∨ ∃ n v, p.token t = .ok (.option (helpSwitch σ) n v) := by
  unfold Parser.LeavesOver Parser.token
  cases hyphen : isStart "-" t with
  | false => exact .inl (.inl rfl)
  | true =>
    simp only [Bool.not_true, Bool.false_eq_true, if_false]
    split
    · next s hs =>
      obtain rfl := h.eq_of_switch? hs
      exact .inr ⟨_, _, rfl⟩
    by_cases single : t = "-"
    · exact .inl (.inl (if_pos single))
    simp only [if_neg single]
    split
    · next s v hs =>
      obtain ⟨w, -, hw⟩ := Option.bind_eq_some_iff.1 hs
      obtain ⟨u, hu, he⟩ := Option.map_eq_some_iff.1 hw
      cases he
      obtain rfl := h.eq_of_switch? hu
      exact .inr ⟨_, _, rfl⟩
    · rcases h.candidates_cases hyphen single with none | ⟨n, v, one⟩
      · rw [none]
        by_cases word : (isNegativeNumber t || t.toList.contains ' ') = true
        · exact .inl (.inl (if_pos word))
        · exact .inl (.inr (if_neg word))
      · rw [one]
        exact .inr ⟨n, v, rfl⟩

/-! ### Command lines -/

/-- Every command line has its tokens, as nothing is short for two options. -/
theorem exists_tokens (tokens : List String) : ∃ ts, p.tokens tokens = .ok ts := by
  induction tokens with
  | nil => exact ⟨[], rfl⟩
  | cons t r ih =>
    obtain ⟨ts, hts⟩ := ih
    rw [Parser.tokens]
    by_cases double : t = "--"
    · exact ⟨_, if_pos double⟩
    obtain ⟨k, hk⟩ : ∃ k, p.token t = .ok k := by
      rcases h.token_cases t with (hk | hk) | ⟨n, v, hk⟩
      · exact ⟨_, hk⟩
      · exact ⟨_, hk⟩
      · exact ⟨_, hk⟩
    refine ⟨(t, k) :: ts, ?_⟩
    rw [if_neg double, hk, hts]
    rfl

/-- What is joined behind the help option is the help option again, or wrong. -/
theorem clusterWith_cases (isShort : Bool) (s : List Char) :
    (∃ e, p.clusterWith (helpSwitch σ) isShort s = .error e) ∨
      ∃ plain, p.clusterWith (helpSwitch σ) isShort s = .ok ⟨helpSwitch σ :: plain, none⟩ := by
  have plain : (helpSwitch σ).takesValue = false := rfl
  induction s generalizing isShort with
  | nil => exact .inl ⟨_, rfl⟩
  | cons c r ih =>
    simp only [Parser.clusterWith, plain, Bool.false_eq_true, if_false]
    split
    · exact .inl ⟨_, rfl⟩
    split
    · exact .inl ⟨_, rfl⟩
    · next t ht =>
      obtain rfl := h.eq_of_switch? ht
      split
      · exact .inr ⟨[helpSwitch σ], rfl⟩
      · rcases ih true with ⟨e, he⟩ | ⟨plain, hp⟩
        · rw [he]
          exact .inl ⟨e, rfl⟩
        · rw [hp]
          exact .inr ⟨_, rfl⟩

theorem cluster_cases (name : String) (value : Option String) :
    (∃ e, p.cluster (helpSwitch σ) name value = .error e) ∨
      ∃ plain, p.cluster (helpSwitch σ) name value = .ok ⟨helpSwitch σ :: plain, none⟩ := by
  cases value with
  | none => exact .inr ⟨[], rfl⟩
  | some v => exact h.clusterWith_cases _ _

theorem finish_eq (settings : σ) (left : List String) :
    p.finish settings left = parsedBy settings left none := by
  rw [Parser.finish, h.operands]
  rfl

/-- Parsing goes on behind a token that is left over. -/
theorem exists_run_of_leavesOver {t : String} (ht : p.LeavesOver t) : ∃ k, p.token t = .ok k ∧
    ∀ settings left us, p.run settings left ((t, k) :: us) = p.run settings (left ++ [t]) us := by
  rcases ht with hk | hk
  · refine ⟨_, hk, fun settings left us => ?_⟩
    rw [Parser.run, h.operands]
  · exact ⟨_, hk, fun _ _ _ => rfl⟩

/-- The first verdict ends parsing. Without any, all tokens are left over. -/
theorem run_eq {tokens : List String} {ts : Tokens σ} (ht : p.tokens tokens = .ok ts)
    (settings : σ) (left : List String) :
    p.run settings left ts = parsedBy settings (left ++ tokens) (p.firstVerdict? tokens) := by
  -- What is left over is never taken up again, so that it is carried along behind `left`.
  induction tokens generalizing ts left with
  | nil =>
    cases ht
    rw [List.append_nil]
    exact h.finish_eq _ _
  | cons t r ih =>
    obtain ⟨us, hus⟩ := h.exists_tokens r
    rw [Parser.tokens, hus] at ht
    by_cases double : t = "--"
    · subst double
      rw [if_pos rfl] at ht
      cases ht
      rw [Parser.run, h.finish_eq, Parser.firstVerdict?_dashes]
      · simp [Function.comp_def]
      · intro o w k more ho
        cases h.operands.symm.trans ho
    rw [if_neg double] at ht
    rw [Parser.firstVerdict?_cons double]
    rcases h.token_cases t with passed | ⟨n, v, hk⟩
    · obtain ⟨k, hk, run⟩ := h.exists_run_of_leavesOver passed
      rw [hk] at ht
      cases ht
      rw [passed.verdict?_eq, Option.none_or, run, ih hus, List.append_assoc]
      rfl
    · rw [hk] at ht
      cases ht
      show p.run settings left ((t, .option (helpSwitch σ) n v) :: us) = _
      rw [Parser.run, Parser.verdict?, hk]
      rcases h.cluster_cases n v with ⟨e, he⟩ | ⟨plain, hp⟩
      · simp only [he]
        rfl
      · simp only [hp]
        rfl

theorem parse_eq (settings : σ) (tokens : List String) :
    p.parse settings tokens = parsedBy settings tokens (p.firstVerdict? tokens) := by
  obtain ⟨ts, hts⟩ := h.exists_tokens tokens
  rw [Parser.parse, hts]
  exact h.run_eq hts settings []

/-! ### The first token that may be the help option -/

theorem verdict?_of_not_touchesHelp {tokens : List String} {t : String}
    (hm : t ∈ tokens.takeWhile (· ≠ "--")) (ht : touchesHelp t = false) : p.verdict? t = none := by
  have double : t ≠ "--" := by simpa using List.all_eq_true.1 List.all_takeWhile t hm
  exact (h.leavesOver_of_not_touchesHelp ht double).verdict?_eq

/-- Nothing is said by tokens of which none may be the help option. -/
theorem firstVerdict?_of_untouched {tokens : List String}
    (ht : (tokens.takeWhile (· ≠ "--")).find? touchesHelp = none) :
    p.firstVerdict? tokens = none := by
  refine List.findSome?_eq_none_iff.2 fun t hm => h.verdict?_of_not_touchesHelp hm ?_
  exact Bool.eq_false_iff.2 (List.find?_eq_none.1 ht t hm)

/-- The help option under its own names asks for help, if no token before it may be the help
option. -/
theorem firstVerdict?_of_help {tokens : List String} {t : String} (hn : t = "-h" ∨ t = "--help")
    (ht : (tokens.takeWhile (· ≠ "--")).find? touchesHelp = some t) :
    p.firstVerdict? tokens = some (.ok ()) := by
  obtain ⟨-, before, after, split, untouched⟩ := List.find?_eq_some_iff_append.1 ht
  have silent : before.findSome? p.verdict? = none := by
    refine List.findSome?_eq_none_iff.2 fun u hu => ?_
    have hm : u ∈ tokens.takeWhile (· ≠ "--") := split ▸ List.mem_append_left _ hu
    exact h.verdict?_of_not_touchesHelp hm (by simpa using untouched u hu)
  rw [Parser.firstVerdict?, split, List.findSome?_append, silent, Option.none_or,
    List.findSome?_cons, h.verdict?_help hn]

example : (helpParser Unit "nitrocli open" "").firstVerdict? ["file", "-x", "--help", "-h2"] =
    some (.ok ()) := by rfl

end Parser.HelpOnly

/-! ### Replies -/

/-- A parser after it has parsed arguments. It keeps the name that they give it. -/
def Parser.after (p : Parser σ) (history : List (List String)) : Parser σ :=
  history.foldl Parser.named p

theorem Parser.named_after (p : Parser σ) (history : List (List String)) (name : String)
    (tokens : List String) :
    (p.after history).named (name :: tokens) = { p with program := name } := by
  induction history generalizing p with
  | nil => rfl
  | cons args history ih =>
    show ((p.named args).after history).named (name :: tokens) = _
    rw [ih]
    cases args <;> rfl

/-- There is no help text just if the description cannot be filled in. -/
theorem help_eq_error_iff {f : Template.Fault} :
    p.help = .error f ↔ p.descriptionText = .error f := by
  cases hd : p.descriptionText with
  | error g =>
    have fault : p.help = .error g := by
      rw [Parser.help, hd]
      rfl
    simp [fault]
  | ok text =>
    obtain ⟨help, hh⟩ := exists_help_of_description hd
    rw [hh]
    constructor
    · intro hf
      cases hf
    · intro hf
      cases hf

/-- A description that does not name the program is no template. -/
theorem descriptionText_of_plain (h : isInside "%(prog)".toList p.description.toList = false) :
    p.descriptionText = .ok p.description.toList := by
  rw [Parser.descriptionText, h]
  rfl

/-- The reply to the arguments is what the first verdict says, under the name that they give. -/
theorem Parser.HelpOnly.answer_eq {args : List String} (h : (p.named args).HelpOnly)
    (settings : σ) : p.answer settings args =
      match (p.named args).firstVerdict? args.tail with
      | some (.ok ()) => (p.named args).help.map fun text => ⟨.helpRequested, settings, text, ""⟩
      | some (.error e) => .ok ⟨.failure, settings, "", (p.named args).complaint e.message⟩
      | none =>
        if args.tail = [] then .ok ⟨.success, settings, "", ""⟩
        else .ok ⟨.failure, settings, "",
          (p.named args).complaint (UsageError.unrecognized args.tail).message⟩ := by
  rw [Parser.answer, h.parse_eq]
  rcases (p.named args).firstVerdict? args.tail with _ | e | ⟨⟩
  · cases args.tail <;> rfl
  · rfl
  · rfl

/-- The reply of a command's parser to a name and tokens, whatever it has parsed before. Without
tokens there is nothing to say. With tokens it is the help text, or the usage with an error. It is an
error, which names all tokens, if none before a double hyphen may be the help option; it is the help
text if the first that may be is that option under one of its names. There is a help text unless the
description names the program and cannot be filled in. -/
theorem answer_helpParser (program description name : String) (history : List (List String))
    (tokens : List String) (settings : σ) :
    let p := helpParser σ name description
    let reply := ((helpParser σ program description).after history).answer settings (name :: tokens)
    let help := p.help.map fun text => Reply.mk .helpRequested settings text ""
    let complaint (e : UsageError) :=
      Reply.mk .failure settings "" (p.usage ++ name ++ ": error: " ++ e.message ++ "\n")
    let asks := (tokens.takeWhile (· ≠ "--")).find? touchesHelp
    (tokens = [] → reply = .ok ⟨.success, settings, "", ""⟩) ∧
    (tokens ≠ [] → reply = help ∨ ∃ e, reply = .ok (complaint e)) ∧
    (tokens ≠ [] → asks = none → reply = .ok (complaint (.unrecognized tokens))) ∧
    (∀ t, asks = some t → t = "-h" ∨ t = "--help" → reply = help) ∧
    (∀ f, p.help = .error f ↔ p.descriptionText = .error f) ∧
    (isInside "%(prog)".toList description.toList = false → ∃ text, p.help = .ok text) := by
  intro p reply help complaint asks
  have named : ((helpParser σ program description).after history).named (name :: tokens) = p :=
    Parser.named_after _ history name tokens
  have only : p.HelpOnly := helpOnly_helpParser name description
  have answer := Parser.HelpOnly.answer_eq (named.symm ▸ only) settings
  rw [named, List.tail_cons] at answer
  refine ⟨?_, ?_, ?_, ?_, fun f => help_eq_error_iff, fun plain => ?_⟩
  · rintro rfl
    exact answer
  · intro ht
    rcases hv : p.firstVerdict? tokens with _ | e | ⟨⟩
    · rw [hv] at answer
      exact .inr ⟨_, answer.trans (if_neg ht)⟩
    · rw [hv] at answer
      exact .inr ⟨e, answer⟩
    · rw [hv] at answer
      exact .inl answer
  · intro ht untouched
    rw [only.firstVerdict?_of_untouched untouched] at answer
    exact answer.trans (if_neg ht)
  · intro t ht hn
    rw [only.firstVerdict?_of_help hn ht] at answer
    exact answer
  · exact exists_help_of_description (descriptionText_of_plain plain)

/-- Not every description is a template that can be filled in: a percent sign may stand at the end of one
that names the program. -/
theorem not_forall_exists_answer : ¬∀ description name tokens, ∃ r,
    (helpParser Unit "nitrocli" description).answer () (name :: tokens) = .ok r := by
  intro h
  obtain ⟨r, hr⟩ := h "%(prog)s does 100%" "nitrocli open" ["-h"]
  have fails : (helpParser Unit "nitrocli" "%(prog)s does 100%").answer () ["nitrocli open", "-h"] =
      .error .incomplete := by rfl
  cases fails.symm.trans hr

end StorageKey.Usage
