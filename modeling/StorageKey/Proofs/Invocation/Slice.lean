import StorageKey.Program
import StorageKey.Proofs.Invocation.Record
import StorageKey.Proofs.Invocation.Scan

/-!
# The start of a command line

The program parses a command line up to the word for the command only. What follows that word is
kept as it is and changes nothing.

* `exists_of_parse_take`: an accepted start ends with the word for a command;
* `parse_of_options`: the invocation of such a line;
* `PathLost`: the last path in the options is a double hyphen, which counts as none;
* `parseInvocation_cases`: every command line is an invocation, leaves the program, or loses its
  path.
-/

namespace StorageKey

open Record Text Usage

/-- The start of a command line that is parsed is accepted only if it ends with the word for a
command. -/
theorem exists_of_parse_take {args : List String} {s : Settings}
    (h : topParser.parse Settings.initial (args.take (commandIndex args + 1)) = ⟨s, none⟩) :
    ∃ opts mid c s₁, args = opts ++ mid ++ Command.word c :: args.drop (commandIndex args + 1) ∧
      commandIndex args = (opts ++ mid).length ∧ (mid = [] ∨ mid = ["--"]) ∧
      Options opts Settings.initial s₁ ∧ s = { s₁ with command := some c, rest := [] } := by
  obtain ⟨ts, ht, hr⟩ := exists_tokens_of_parse h
  obtain ⟨-, opts, mid, c, rest, s₁, taken, hs, hm, ho, rfl⟩ := exists_options_of_run ht hr
  have whole : args = opts ++ (mid ++ c.word :: (rest ++ args.drop (commandIndex args + 1))) := by
    rw [← List.cons_append, ← List.append_assoc, ← List.append_assoc, ← hs, List.take_append_drop]
  -- The scan cannot stop before the word, for then the word would not be in the start.
  have length : (opts ++ mid).length + 1 + rest.length ≤ commandIndex args + 1 := by
    have := congrArg List.length hs
    have := List.length_take_le (commandIndex args + 1) args
    simp only [List.length_append, List.length_cons] at *
    omega
  have index : commandIndex args = (opts ++ mid).length := by
    rcases ho.commandIndex_append with hi | ⟨pre, t, v, post, -, rfl, -, -, hi⟩
    · conv_lhs => rw [whole]
      rw [hi, commandIndex_word hm, List.length_append]
    · have : commandIndex args = pre.length + 1 := by
        conv_lhs => rw [whole]
        exact hi _
      simp only [List.length_append, List.length_cons] at length
      omega
  have nothing : rest = [] := by
    rw [index] at length
    exact List.length_eq_zero_iff.1 (by omega)
  subst nothing
  rw [hs, ho.parse_word hm c] at h
  cases h
  exact ⟨opts, mid, c, s₁, by simpa using whole, index, hm, ho, rfl⟩

theorem take_length_succ (l : List String) (t : String) (r : List String) :
    (l ++ t :: r).take (l.length + 1) = l ++ [t] := by
  rw [List.take_length_add_append]
  rfl

theorem drop_length_succ (l : List String) (t : String) (r : List String) :
    (l ++ t :: r).drop (l.length + 1) = r := by
  rw [List.drop_length_add_append]
  rfl

/-- The invocation of a line of options and the word for a command, if the scan finds that word. -/
theorem parse_of_options {opts mid : List String} {s : Settings}
    (ho : Options opts Settings.initial s) (hm : mid = [] ∨ mid = ["--"]) (c : Command)
    (rest : List String)
    (hi : commandIndex (opts ++ mid ++ c.word :: rest) = (opts ++ mid).length) :
    Invocation.parse (opts ++ mid ++ c.word :: rest) =
      if s.config = some none then .error (.invalid [noPathIssue])
      else .ok ⟨c, (programName ++ " " ++ c.word) :: rest, s.verbose, s.config.join⟩ := by
  have entries : Settings.entries { s with command := some c, rest := [] } c rest =
      s.entries c rest := rfl
  simp only [Invocation.parse, hi, take_length_succ, drop_length_succ, ho.parse_word hm c, entries,
    ofEntries_entries (ho.hasPath hasPath_initial)]
  split <;> rfl

/-- The scan finds the word for a command behind options whatever follows it, if it finds it once. -/
theorem Options.commandIndex_eq {opts mid : List String} {s s' : Settings}
    (ho : Options opts s s') (hm : mid = [] ∨ mid = ["--"]) (c : Command) {rest : List String}
    (hi : commandIndex (opts ++ mid ++ c.word :: rest) = (opts ++ mid).length)
    (tail : List String) :
    commandIndex (opts ++ mid ++ c.word :: tail) = (opts ++ mid).length := by
  rcases ho.commandIndex_append with h | ⟨pre, t, v, post, -, rfl, -, -, h⟩
  · rw [List.append_assoc, h, commandIndex_word hm, List.length_append]
  · rw [List.append_assoc, h] at hi
    simp only [List.length_append, List.length_cons] at hi
    omega

/-- The arguments of an invocation are the tokens after the word for its command, behind a name. -/
theorem arguments_of_parse {args : List String} {m : Invocation}
    (h : Invocation.parse args = .ok m) :
    m.arguments = (programName ++ " " ++ m.command.word) :: args.drop (commandIndex args + 1) := by
  cases hp : topParser.parse Settings.initial (args.take (commandIndex args + 1)) with
  | mk s stop =>
    cases stop with
    | some reason =>
      simp only [Invocation.parse, hp] at h
      cases h
    | none =>
      obtain ⟨opts, mid, c, s₁, ha, hi, hm, ho, rfl⟩ := exists_of_parse_take hp
      generalize args.drop (commandIndex args + 1) = rest at ha ⊢
      subst ha
      rw [parse_of_options ho hm c rest hi] at h
      split at h
      · cases h
      · cases h
        rfl

/-! ### Lost paths -/

/-- Whether options hold no path. -/
def Pathless (opts : List String) : Prop :=
  ∀ t ∈ opts, t = "--" ∨ ∃ verbose, spelling? t = some ⟨verbose, .absent⟩

/-- Whether the last path in options is a double hyphen behind its option in the same token. -/
def PathLost (opts : List String) : Prop :=
  ∃ pre t post verbose, opts = pre ++ t :: post ∧ spelling? t = some ⟨verbose, .given "--"⟩ ∧
    Pathless post

theorem pathless_cons {t : String} {r : List String} : Pathless (t :: r) ↔
    (t = "--" ∨ ∃ verbose, spelling? t = some ⟨verbose, .absent⟩) ∧ Pathless r :=
  List.forall_mem_cons

theorem pathLost_cons {t : String} {r : List String} : PathLost (t :: r) ↔
    PathLost r ∨ ((∃ verbose, spelling? t = some ⟨verbose, .given "--"⟩) ∧ Pathless r) := by
  constructor
  · rintro ⟨_ | ⟨u, pre⟩, v, post, verbose, h, hv, hp⟩
    · cases h
      exact .inr ⟨⟨verbose, hv⟩, hp⟩
    · cases h
      exact .inl ⟨pre, v, post, verbose, rfl, hv, hp⟩
  · rintro (⟨pre, v, post, verbose, rfl, hv, hp⟩ | ⟨⟨verbose, hv⟩, hp⟩)
    · exact ⟨t :: pre, v, post, verbose, rfl, hv, hp⟩
    · exact ⟨[], t, r, verbose, rfl, hv, hp⟩

theorem setConfig_config_eq_iff (s : Settings) (path : String) :
    (s.setConfig path).config = some none ↔ path = "--" := by
  simp [Settings.setConfig]

/-- The path of the settings counts as none just if the last path in the options does. -/
theorem Options.config_eq_iff {opts mid : List String} {s s' : Settings} (ho : Options opts s s')
    (hm : mid = [] ∨ mid = ["--"]) : s'.config = some none ↔
      PathLost (opts ++ mid) ∨ (s.config = some none ∧ Pathless (opts ++ mid)) := by
  induction ho with
  | nil s =>
    have pathless : Pathless mid := by rcases hm with rfl | rfl <;> simp [Pathless]
    have lost : ¬PathLost mid := by
      rcases hm with rfl | rfl
      · rintro ⟨_ | _, _, _, _, h, -⟩ <;> cases h
      · rw [pathLost_cons]
        rintro (⟨_ | _, _, _, _, h, -⟩ | ⟨⟨_, h⟩, -⟩) <;> cases h
    simp [pathless, lost]
  | @plain t sp r s s' ht hc h ih =>
    rw [ih, List.cons_append, pathLost_cons, pathless_cons, ht]
    have hd := ne_dashes_of_spelling ht
    obtain ⟨b, config⟩ := sp
    cases config with
    | absent => simp [Settings.spelled, Settings.addVerbose]
    | next => contradiction
    | given path => simp [Settings.spelled, setConfig_config_eq_iff, hd]
  | @valued t v b r s s' ht hv h ih =>
    have hn := ne_dashes_of_isWord hv
    have hd := ne_dashes_of_spelling ht
    rw [ih, List.cons_append, List.cons_append, pathLost_cons, pathLost_cons,
      pathless_cons (t := t), ht, spelling?_of_isWord hv]
    simp [setConfig_config_eq_iff, hn, hd]

/-! ### All command lines -/

theorem exists_help_topParser : ∃ help, topParser.help = .ok help := by
  have fixed : isInside "%(prog)".toList topParser.description.toList = false := by decide
  have text : topParser.descriptionText = .ok topParser.description.toList := by
    rw [Parser.descriptionText, fixed]
    rfl
  exact exists_help_of_description text

/-- Saying why parsing stopped prints a text, and does nothing else. -/
theorem exists_explain (reason : Stop) : ∃ code out err, (code = 0 ∨ code = 2) ∧
    ∀ s : State, Act.explain reason s =
      .ok code { s with out := s.out ++ out, err := s.err ++ err } := by
  cases reason with
  | help =>
    obtain ⟨text, ht⟩ := exists_help_topParser
    refine ⟨0, text, "", .inl rfl, fun s => ?_⟩
    rw [Act.explain, ht, String.append_empty]
    rfl
  | version text =>
    refine ⟨0, text ++ "\n", "", .inl rfl, fun s => ?_⟩
    rw [Act.explain, String.append_empty]
    rfl
  | failure e =>
    refine ⟨2, "", topParser.complaint e.message, .inr rfl, fun s => ?_⟩
    rw [Act.explain, String.append_empty]
    rfl

theorem parseInvocation_of_ok {args : List String} {m : Invocation}
    (h : Invocation.parse args = .ok m) (s : State) :
    Act.parseInvocation args s = .ok (.inr m) s := by
  rw [Act.parseInvocation, h]
  rfl

theorem parseInvocation_of_invalid {args : List String} {issues : List Issue}
    (h : Invocation.parse args = .error (.invalid issues)) (s : State) :
    Act.parseInvocation args s = .error (.invalid Invocation.recordName issues) s := by
  rw [Act.parseInvocation, h]
  rfl

/-- A line that stops the parser prints why, and leaves the program. -/
theorem exists_parseInvocation_of_stop {args : List String} {reason : Stop}
    (h : Invocation.parse args = .error (.stop reason)) :
    ∃ code out err, (code = 0 ∨ code = 2) ∧ ∀ s : State, Act.parseInvocation args s =
      .ok (.inl code) { s with out := s.out ++ out, err := s.err ++ err } := by
  obtain ⟨code, out, err, hc, he⟩ := exists_explain reason
  refine ⟨code, out, err, hc, fun s => ?_⟩
  rw [Act.parseInvocation, h]
  exact Act.bind_of_ok (he s)

/-- The start of a command line is accepted, but the last path in its options is a double hyphen. -/
def StartLosesPath (args : List String) : Prop :=
  (topParser.parse Settings.initial (args.take (commandIndex args + 1))).stop = none ∧
    PathLost (args.take (commandIndex args))

/-- A command line whose start loses its path is not accepted as a record. Every other one leaves
the program, or is an invocation whose arguments are the tokens after the word for the command as
they are; no other tokens after that word change the invocation further. -/
theorem parseInvocation_cases (args : List String) :
    (StartLosesPath args → ∀ s, Act.parseInvocation args s =
      .error (.invalid Invocation.recordName [noPathIssue]) s) ∧
    (¬StartLosesPath args →
      (∃ m : Invocation, commandIndex args < args.length ∧
        args[commandIndex args]? = some m.command.word ∧
        m.arguments =
          (programName ++ " " ++ m.command.word) :: args.drop (commandIndex args + 1) ∧
        (∀ s, Act.parseInvocation args s = .ok (.inr m) s) ∧
        ∀ tail s, Act.parseInvocation (args.take (commandIndex args + 1) ++ tail) s =
          .ok (.inr { m with arguments := (programName ++ " " ++ m.command.word) :: tail }) s) ∨
      ∃ code out err, (code = 0 ∨ code = 2) ∧ ∀ s : State, Act.parseInvocation args s =
        .ok (.inl code) { s with out := s.out ++ out, err := s.err ++ err }) := by
  cases hp : topParser.parse Settings.initial (args.take (commandIndex args + 1)) with
  | mk s stop =>
    cases stop with
    | some reason =>
      have stops : Invocation.parse args = .error (.stop reason) := by
        simp only [Invocation.parse, hp]
      refine ⟨fun h => ?_, fun _ => .inr (exists_parseInvocation_of_stop stops)⟩
      rw [StartLosesPath, hp] at h
      cases h.1
    | none =>
      obtain ⟨opts, mid, c, s₁, ha, hi, hm, ho, rfl⟩ := exists_of_parse_take hp
      generalize args.drop (commandIndex args + 1) = rest at ha ⊢
      subst ha
      have before : (opts ++ mid ++ c.word :: rest).take (opts ++ mid).length = opts ++ mid :=
        List.take_left
      have lost : StartLosesPath (opts ++ mid ++ c.word :: rest) ↔ s₁.config = some none := by
        rw [StartLosesPath, hp, hi, before, ho.config_eq_iff hm]
        simp [Settings.initial]
      have parse (tail : List String) :=
        parse_of_options ho hm c tail (ho.commandIndex_eq hm c hi tail)
      rw [lost, hi, take_length_succ]
      constructor
      · intro hc s
        have := parse rest
        rw [if_pos hc] at this
        exact parseInvocation_of_invalid this s
      · intro hc
        simp only [if_neg hc] at parse
        refine .inl ⟨_, ?_, ?_, rfl, parseInvocation_of_ok (parse rest), fun tail s => ?_⟩
        · simp only [List.length_append, List.length_cons]
          omega
        · rw [List.getElem?_append_right (Nat.le_refl _), Nat.sub_self]
          rfl
        · rw [List.append_assoc]
          exact parseInvocation_of_ok (parse tail) s

end StorageKey
