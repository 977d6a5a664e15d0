import StorageKey.Proofs.Invocation.Line

/-!
# The record of an accepted command line

The settings of a command line that the parser accepts go through the checks of a record. Only one
of them can fail: an option for the configuration whose value counts as none has no path.

* `ofEntries_entries`: what the checks come to;
* `Settings.HasPath`: the settings hold paths as they are read.
-/

namespace StorageKey

open Record Text Usage

theorem checkTexts_map_text (name : String) (n : Nat) (ts : List String) :
    checkTexts name n (ts.map .text) = .ok ts := by
  induction ts generalizing n with
  | nil => rfl
  | cons t ts ih =>
    rw [List.map_cons, checkTexts, ih]
    rfl

/-- Whether the path of the configuration, if there is one, is as it is read. -/
def Settings.HasPath (s : Settings) : Prop := ∀ p, s.config = some (some p) → p.HasNames

theorem hasPath_initial : Settings.initial.HasPath := by
  intro p hp
  cases hp

theorem Settings.HasPath.addVerbose {s : Settings} (h : s.HasPath) (b : Bool) :
    (s.addVerbose b).HasPath := h

theorem hasPath_setConfig (s : Settings) (path : String) : (s.setConfig path).HasPath := by
  intro p hp
  simp only [Settings.setConfig] at hp
  split at hp
  · cases hp
  · cases hp
    exact Path.hasNames_ofString path

theorem Settings.HasPath.spelled {s : Settings} (h : s.HasPath) (sp : Spelling) :
    (s.spelled sp).HasPath := by
  unfold Settings.spelled
  split
  · exact hasPath_setConfig _ _
  · exact h.addVerbose _

theorem Options.hasPath {opts : List String} {s s' : Settings} (h : Options opts s s')
    (hs : s.HasPath) : s'.HasPath := by
  induction h with
  | nil s => exact hs
  | plain _ _ _ ih => exact ih (hs.spelled _)
  | valued _ _ _ ih => exact ih (hasPath_setConfig _ _)

/-- The issue of an option for the configuration without a path. -/
def noPathIssue : Issue := ⟨["config"], .notPath, .list []⟩

theorem argumentsOf_entries (s : Settings) (c : Command) (rest : List String) :
    Invocation.argumentsOf (s.entries c rest) = .ok ((programName ++ " " ++ c.word) :: rest) := by
  have texts : requiredTexts (s.entries c rest) "arguments" =
      checkTexts "arguments" 0 (((programName ++ " " ++ c.word) :: rest).map .text) := rfl
  rw [Invocation.argumentsOf, texts, checkTexts_map_text]
  cases c <;> rfl

theorem command_entries (s : Settings) (c : Command) (rest : List String) :
    required (s.entries c rest) "command" (asWord Invocation.commandWords .noneOfChoices) =
      .ok c := by
  cases c <;> rfl

theorem verbose_entries (s : Settings) (c : Command) (rest : List String) :
    optional (s.entries c rest) "verbose" false asTruth = .ok s.verbose := rfl

theorem config_entries {s : Settings} (h : s.HasPath) (c : Command) (rest : List String) :
    optional (s.entries c rest) "config" none (orNothing asPath) =
      if s.config = some none then .bad [noPathIssue] else .ok s.config.join := by
  obtain ⟨verbose, config, command, args⟩ := s
  rcases config with _ | _ | p
  · rfl
  · rfl
  · show check ["config"] (orNothing asPath) (.text p.text) = _
    have path : orNothing asPath (.text p.text) = .ok (some p) := by
      show (Except.ok (Path.ofString p.text)).map some = _
      rw [Path.ofString_text (h p rfl)]
      rfl
    rw [check, path]
    rfl

/-- The record of settings and a command is an invocation, unless the path counts as none. -/
theorem ofEntries_entries {s : Settings} (h : s.HasPath) (c : Command) (rest : List String) :
    (Invocation.ofEntries (s.entries c rest)).toExcept =
      if s.config = some none then .error [noPathIssue]
      else .ok ⟨c, (programName ++ " " ++ c.word) :: rest, s.verbose, s.config.join⟩ := by
  rw [Invocation.ofEntries, command_entries, argumentsOf_entries, verbose_entries, config_entries h]
  split <;> rfl

end StorageKey
