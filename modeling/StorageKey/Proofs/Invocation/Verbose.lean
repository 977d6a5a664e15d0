import StorageKey.Proofs.Invocation.Slice
import StorageKey.Proofs.Usage.Transport

/-!
# Verbose output, asked for first

The option for verbose output at the start of a command line makes the invocation verbose, and
changes nothing else about how the line is parsed.

* `Settings.loud`, `Invocation.loud`: with verbose output;
* `Invocation.parse_verbose`: a command line behind the option.
-/

namespace StorageKey

open Usage

/-- Settings with verbose output. -/
def Settings.loud (s : Settings) : Settings := { s with verbose := true }

/-- An invocation with verbose output. -/
def Invocation.loud (i : Invocation) : Invocation := { i with verbose := true }

theorem commutesWith_loud : topParser.CommutesWith Settings.loud where
  switches := by
    intro s hs
    rw [show topParser.switches = [helpSwitch Settings, verboseSwitch, configSwitch, versionSwitch]
      from rfl] at hs
    simp only [List.mem_cons, List.not_mem_nil, or_false] at hs
    constructor
    · intro change he x
      rcases hs with rfl | rfl | rfl | rfl <;> cases he
      rfl
    · intro placeholder read noValue he
      rcases hs with rfl | rfl | rfl | rfl <;> cases he
      constructor
      · intro x
        rfl
      · intro v change hv x
        cases hv
        rfl
  operands := by
    intro o ho word rest change hr x
    cases ho
    simp only [readCommand] at hr
    cases hc : Command.ofString? word with
    | none =>
      rw [hc] at hr
      cases hr
    | some c =>
      rw [hc] at hr
      cases hr
      rfl

/-- Parsing behind the option stops for the same reason, or ends with verbose settings. -/
theorem parse_verbose_cons (args : List String) :
    (topParser.parse Settings.initial ("-v" :: args)).stop =
        (topParser.parse Settings.initial args).stop ∧
      ((topParser.parse Settings.initial args).stop = none →
        (topParser.parse Settings.initial ("-v" :: args)).settings =
          (topParser.parse Settings.initial args).settings.loud) := by
  have first : topParser.token "-v" = .ok (.option verboseSwitch "-v" none) := rfl
  cases ht : topParser.tokens args with
  | error e =>
    have fails : topParser.tokens ("-v" :: args) = .error e := by
      rw [Parser.tokens, if_neg (by decide), first, ht]
      rfl
    simp [Parser.parse, ht, fails]
  | ok ts =>
    have tokens := tokens_cons (by decide) first ht
    have run : topParser.run Settings.initial [] (("-v", .option verboseSwitch "-v" none) :: ts) =
        topParser.run Settings.initial.loud [] ts := rfl
    have moved := Parser.run_map commutesWith_loud (fun t s n v => mem_switches_of_tokens ht)
      Settings.initial []
    simp [Parser.parse, ht, tokens, run, moved, Parsed.map]

/-- A command line behind the option makes the invocation that it makes without, with verbose
output, or none for the same reason. -/
theorem Invocation.parse_verbose (args : List String) :
    Invocation.parse ("-v" :: args) = (Invocation.parse args).map Invocation.loud := by
  have index : commandIndex ("-v" :: args) = commandIndex args + 1 := by
    rw [commandIndex_cons_of_plain (by decide) (by decide) (by decide), Nat.add_comm]
  obtain ⟨stop, settings⟩ := parse_verbose_cons (args.take (commandIndex args + 1))
  rw [Invocation.parse, index, List.take_succ_cons, List.drop_succ_cons]
  cases hp : topParser.parse Settings.initial (args.take (commandIndex args + 1)) with
  | mk s reason =>
    rw [hp] at stop settings
    cases reason with
    | some reason =>
      simp only [Invocation.parse, stop, hp]
      rfl
    | none =>
      obtain ⟨opts, mid, c, s₁, -, -, -, ho, rfl⟩ := exists_of_parse_take hp
      have path := ho.hasPath hasPath_initial
      have entries (rest : List String) :
          (Invocation.ofEntries (Settings.entries
              (Settings.loud { s₁ with command := some c, rest := [] }) c rest)).toExcept =
            (Invocation.ofEntries (Settings.entries
              { s₁ with command := some c, rest := [] } c rest)).toExcept.map Invocation.loud := by
        have quiet : Settings.entries { s₁ with command := some c, rest := [] } c rest =
            s₁.entries c rest := rfl
        have loud : Settings.entries (Settings.loud { s₁ with command := some c, rest := [] }) c
            rest = s₁.loud.entries c rest := rfl
        rw [quiet, loud, ofEntries_entries path, ofEntries_entries (s := s₁.loud) path]
        show (if s₁.config = some none then _ else _) = _
        split <;> rfl
      have command : (Settings.loud { s₁ with command := some c, rest := [] }).command = some c :=
        rfl
      simp only [Invocation.parse, stop, settings rfl, hp, command, entries]
      cases (Invocation.ofEntries (Settings.entries { s₁ with command := some c, rest := [] } c
        (args.drop (commandIndex args + 1)))).toExcept <;> rfl

end StorageKey
