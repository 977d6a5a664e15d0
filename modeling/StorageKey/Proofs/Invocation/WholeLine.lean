import StorageKey.Proofs.Invocation.Slice

/-!
# Whole command lines

The parser also reads a command line as a whole, with its last operand taking all that follows. What
it accepts there the program accepts as well, with the same settings, but for two kinds of lines:
those where the scan for the command's word stops at a path, and those that lose their path.

* `ScanMisses`: the scan stops right behind a spelling that it misses;
* `parseInvocation_of_whole_line`: what the program makes of a line that is accepted as a whole.
-/

namespace StorageKey

open Record Text Usage

/-- The scan stops right behind a spelling that it misses. -/
def ScanMisses (args : List String) : Prop :=
  ∃ t, (args.take (commandIndex args)).getLast? = some t ∧ Missed t

theorem not_missed_of_isWord {t : String} (h : IsWord t) : ¬Missed t := by
  intro hm
  have := config_eq_next_of_missed hm
  rw [spelling?_of_isWord h] at this
  cases this

theorem not_missed_of_plain {t : String} {sp : Spelling} (h : spelling? t = some sp)
    (hc : sp.config ≠ .next) : ¬Missed t := by
  intro hm
  have := config_eq_next_of_missed hm
  rw [h] at this
  exact hc (Option.some.inj this)

theorem not_missed_dashes : ¬Missed "--" := by
  intro hm
  cases config_eq_next_of_missed hm

/-- No line of options ends with a spelling that lacks its path. -/
theorem Options.not_missed_last {opts mid : List String} {s s' : Settings} (ho : Options opts s s')
    (hm : mid = [] ∨ mid = ["--"]) {pre : List String} {t : String}
    (h : opts ++ mid = pre ++ [t]) : ¬Missed t := by
  induction ho generalizing pre with
  | nil s =>
    rcases hm with rfl | rfl
    · exact absurd h (by simp)
    · have last : "--" = t := by simpa using congrArg List.getLast? h
      exact last ▸ not_missed_dashes
  | @plain u sp r s s' hu hc _ ih =>
    cases pre with
    | nil =>
      obtain rfl := List.head_eq_of_cons_eq h
      exact not_missed_of_plain hu hc
    | cons w pre => exact ih (List.tail_eq_of_cons_eq h)
  | @valued u v b r s s' hu hv _ ih =>
    rcases pre with _ | ⟨w, _ | ⟨w', pre⟩⟩
    · cases h
    · obtain rfl := List.head_eq_of_cons_eq (List.tail_eq_of_cons_eq h)
      exact not_missed_of_isWord hv
    · exact ih (List.tail_eq_of_cons_eq (List.tail_eq_of_cons_eq h))

/-- The complaint about a command line without a command. -/
def missingComplaint : String :=
  topParser.complaint (UsageError.missing ["command", "arguments"]).message

/-- A command line that is accepted as a whole is an invocation with the same command, verbosity and
path, unless the scan misses a spelling, so that the command is found to be missing, or the path is
lost. -/
theorem parseInvocation_of_whole_line {args : List String} {s : Settings}
    (h : topParser.parse Settings.initial args = ⟨s, none⟩) :
    ∃ c, s.command = some c ∧
      (ScanMisses args → ∀ st : State, Act.parseInvocation args st =
        .ok (.inl 2) { st with err := st.err ++ missingComplaint }) ∧
      (¬ScanMisses args → s.config = some none → ∀ st : State, Act.parseInvocation args st =
        .error (.invalid Invocation.recordName [noPathIssue]) st) ∧
      (¬ScanMisses args → s.config ≠ some none → ∀ st : State, Act.parseInvocation args st =
        .ok (.inr ⟨c, (programName ++ " " ++ c.word) :: args.drop (commandIndex args + 1),
          s.verbose, s.config.join⟩) st) := by
  obtain ⟨ts, ht, hr⟩ := exists_tokens_of_parse h
  obtain ⟨-, opts, mid, c, rest, s₁, taken, rfl, hm, ho, rfl⟩ := exists_options_of_run ht hr
  refine ⟨c, rfl, ?_⟩
  rcases ho.commandIndex_append with hi | ⟨pre, t, v, post, s₂, rfl, ht, ho', hi⟩
  · have index : commandIndex (opts ++ mid ++ c.word :: rest) = (opts ++ mid).length := by
      rw [List.append_assoc, hi, commandIndex_word hm, List.length_append]
    have found : ¬ScanMisses (opts ++ mid ++ c.word :: rest) := by
      rintro ⟨t, hl, ht⟩
      rw [index, List.take_left, List.getLast?_eq_some_iff] at hl
      obtain ⟨pre, hl⟩ := hl
      exact ho.not_missed_last hm hl ht
    have parse := parse_of_options ho hm c rest index
    refine ⟨fun h => absurd h found, fun _ hc => ?_, fun _ hc => ?_⟩
    · rw [if_pos hc] at parse
      exact parseInvocation_of_invalid parse
    · rw [if_neg hc] at parse
      rw [index, drop_length_succ]
      exact parseInvocation_of_ok parse
  · have take (n : Nat) : (pre ++ t :: v :: post ++ mid ++ c.word :: rest).take (pre.length + n) =
        pre ++ (t :: v :: (post ++ mid ++ c.word :: rest)).take n := by
      rw [List.append_assoc, List.append_assoc, List.take_length_add_append]
      simp
    have missed : ScanMisses (pre ++ t :: v :: post ++ mid ++ c.word :: rest) := by
      refine ⟨t, ?_, ht⟩
      rw [List.append_assoc, hi, ← List.append_assoc, take 1]
      exact List.getLast?_concat
    have stops : Invocation.parse (pre ++ t :: v :: post ++ mid ++ c.word :: rest) =
        .error (.stop (.failure (.missing ["command", "arguments"]))) := by
      have slice : (pre ++ t :: v :: post ++ mid ++ c.word :: rest).take
          (commandIndex (pre ++ t :: v :: post ++ mid ++ c.word :: rest) + 1) = pre ++ [t, v] := by
        rw [List.append_assoc, hi, ← List.append_assoc, Nat.add_assoc, take 2]
        rfl
      simp only [Invocation.parse, slice, ho'.parse_eq_missing]
    refine ⟨fun _ st => ?_, fun h => absurd missed h, fun h => absurd missed h⟩
    rw [Act.parseInvocation, stops]
    rfl

/-- A shortened name with its path is accepted as a whole, but the scan takes the path for the
command. -/
theorem parseInvocation_shortened_name :
    topParser.parse Settings.initial ["--conf", "a.yaml", "status"] =
        ⟨⟨false, some (some (Path.ofString "a.yaml")), some .showStatus, []⟩, none⟩ ∧
      ∀ st : State, Act.parseInvocation ["--conf", "a.yaml", "status"] st =
        .ok (.inl 2) { st with err := st.err ++ missingComplaint } := by
  have whole : topParser.parse Settings.initial ["--conf", "a.yaml", "status"] =
      ⟨⟨false, some (some (Path.ofString "a.yaml")), some .showStatus, []⟩, none⟩ := rfl
  have misses : ScanMisses ["--conf", "a.yaml", "status"] := ⟨"--conf", rfl, .inl (by decide)⟩
  obtain ⟨c, -, missing, -⟩ := parseInvocation_of_whole_line whole
  exact ⟨whole, missing misses⟩

end StorageKey
