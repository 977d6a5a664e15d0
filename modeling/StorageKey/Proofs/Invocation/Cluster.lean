import StorageKey.Proofs.Invocation.Spelling

/-!
# The options of one token

The parser finds the options of a token by its table of names and applies them one after another.
Joined short names do what their letters spell, or do not let the program go on.

* `Applies`, `Stops`, `Decides`: what the options of one token come to;
* `decides_clusterWith_verbose`, `decides_cluster_config`, `stops_cluster`: the options of the table.
-/

namespace StorageKey

open Text Usage

/-- The options do what is spelled. -/
structure Applies (k : Cluster Settings) (sp : Spelling) : Prop where
  plain : ∀ s : Settings, applyPlain s k.plain = ⟨s.addVerbose sp.verbose, none⟩
  valued : k.valued = match sp.config with
    | .absent => none
    | .next => some (configSwitch, none)
    | .given path => some (configSwitch, some path)

/-- The options do not let the program go on. -/
def Stops (x : Except UsageError (Cluster Settings)) : Prop :=
  ∀ k, x = .ok k → ∀ s, (applyPlain s k.plain).stop ≠ none

/-- The options do what is spelled, or do not let the program go on if nothing is. -/
def Decides (x : Except UsageError (Cluster Settings)) : Option Spelling → Prop
  | some sp => ∃ k, x = .ok k ∧ Applies k sp
  | none => Stops x

theorem stops_error (e : UsageError) : Stops (.error e) := by
  intro k hk
  cases hk

/-- Options that start with one that shows something stop there. -/
theorem stops_map {s : Switch Settings} (hs : ∀ change, s.effect ≠ .set change)
    (hv : s.takesValue = false) (x : Except UsageError (Cluster Settings)) :
    Stops (x.map fun k => { k with plain := s :: k.plain }) := by
  intro k hk settings
  cases x with
  | error e => cases hk
  | ok j =>
    cases hk
    simp only [applyPlain]
    cases he : s.effect with
    | set change => exact absurd he (hs change)
    | value w read noValue => simp [Switch.takesValue, he] at hv
    | help => simp
    | version text => simp

theorem applies_verbose : Applies ⟨[verboseSwitch], none⟩ ⟨true, .absent⟩ where
  plain s := by simp [applyPlain, verboseSwitch, Settings.addVerbose]
  valued := rfl

theorem applies_config (path : Option String) :
    Applies ⟨[], some (configSwitch, path)⟩ ⟨false, path.elim .next .given⟩ where
  plain s := by simp [applyPlain, Settings.addVerbose]
  valued := by cases path <;> rfl

theorem Applies.cons_verbose {k : Cluster Settings} {sp : Spelling} (h : Applies k sp) :
    Applies { k with plain := verboseSwitch :: k.plain } sp.andVerbose where
  plain s := by
    show applyPlain { s with verbose := true } k.plain = _
    rw [h.plain]
    simp [Settings.addVerbose, Spelling.andVerbose]
  valued := h.valued

/-- A verbose option before options that are decided. -/
theorem Decides.cons_verbose {x : Except UsageError (Cluster Settings)} {o : Option Spelling}
    (h : Decides x o) :
    Decides (x.map fun k => { k with plain := verboseSwitch :: k.plain }) (o.map .andVerbose) := by
  cases o with
  | some sp =>
    obtain ⟨k, rfl, hk⟩ := h
    exact ⟨_, rfl, hk.cons_verbose⟩
  | none =>
    intro k hk s
    cases x with
    | error e => cases hk
    | ok j =>
      cases hk
      exact h j rfl _

/-! ### The parser's table -/

/-- The option of a name. -/
theorem switch?_topParser (name : String) :
    topParser.switch? name =
      if name = "-h" ∨ name = "--help" then some (helpSwitch Settings)
      else if name = "-v" ∨ name = "--verbose" then some verboseSwitch
      else if name = "-c" ∨ name = "--config" then some configSwitch
      else if name = "-V" ∨ name = "--version" then some versionSwitch
      else none := by
  simp only [Parser.switch?, topParser, helpSwitch, verboseSwitch, configSwitch, versionSwitch,
    List.find?]
  grind

theorem names_topParser : topParser.names =
    [("-h", helpSwitch Settings), ("--help", helpSwitch Settings), ("-v", verboseSwitch),
      ("--verbose", verboseSwitch), ("-c", configSwitch), ("--config", configSwitch),
      ("-V", versionSwitch), ("--version", versionSwitch)] := rfl

/-- An option that shows something does not let the program go on, whatever stands behind it. -/
theorem stops_cluster {s : Switch Settings} (hs : ∀ change, s.effect ≠ .set change)
    (hv : s.takesValue = false) (name : String) (value : Option String) :
    Stops (topParser.cluster s name value) := by
  have single : Stops (.ok (.single s)) := by
    have := stops_map hs hv (.ok ⟨[], none⟩)
    simpa [Except.map, Cluster.single, hv] using this
  cases value with
  | none => exact single
  | some v =>
    simp only [Parser.cluster]
    cases v.toList with
    | nil => simpa [Parser.clusterWith, hv] using stops_error _
    | cons c r =>
      simp only [Parser.clusterWith, hv, Bool.false_eq_true, if_false]
      split
      · exact stops_error _
      split
      · exact stops_error _
      · exact stops_map hs hv _

theorem decides_cluster_config (name : String) (value : Option String) :
    Decides (topParser.cluster configSwitch name value) (some ⟨false, value.elim .next .given⟩) := by
  refine ⟨⟨[], some (configSwitch, value)⟩, ?_, applies_config value⟩
  cases value with
  | none => rfl
  | some v =>
    show topParser.clusterWith configSwitch _ v.toList = _
    cases hv : v.toList with
    | nil =>
      obtain rfl : v = "" := String.toList_inj.1 hv
      rfl
    | cons c r =>
      obtain rfl : v = String.ofList (c :: r) := by rw [← hv, String.ofList_toList]
      rfl

/-- The option of a short name. -/
theorem switch?_short (a : Char) :
    topParser.switch? (String.ofList ['-', a]) =
      if a = 'h' then some (helpSwitch Settings)
      else if a = 'v' then some verboseSwitch
      else if a = 'c' then some configSwitch
      else if a = 'V' then some versionSwitch
      else none := by
  rw [switch?_topParser]
  simp only [← String.toList_inj, String.toList_ofList]
  simp

/-- Short names behind the verbose one: the first of them and what follows it. -/
theorem clusterWith_verbose_cons (a : Char) (r : List Char) :
    topParser.clusterWith verboseSwitch true (a :: r) =
      match topParser.switch? (String.ofList ['-', a]) with
      | none => .error (.argument verboseSwitch.title (.unusedValue (String.ofList (a :: r))))
      | some t =>
        (topParser.cluster t "-" (if r = [] then none else some (String.ofList r))).map fun k =>
          { k with plain := verboseSwitch :: k.plain } := by
  have hv : verboseSwitch.takesValue = false := rfl
  have hb : (!isStart "--" "-") = true := rfl
  simp only [Parser.clusterWith, hv, Bool.not_true, Bool.false_eq_true, if_false]
  cases topParser.switch? (String.ofList ['-', a]) with
  | none => rfl
  | some t =>
    cases r with
    | nil => rfl
    | cons c r => simp only [Parser.cluster, hb, String.toList_ofList, List.isEmpty_cons,
        Bool.false_eq_true, if_false, reduceCtorEq]

/-- Short names behind the verbose one do what their letters spell. -/
theorem decides_clusterWith_verbose (r : List Char) :
    Decides (topParser.clusterWith verboseSwitch true r)
      ((Spelling.ofLetters r).map .andVerbose) := by
  induction r with
  | nil => exact stops_error _
  | cons a r ih =>
    -- Only another verbose name leads on to the letters behind it.
    rw [clusterWith_verbose_cons, switch?_short]
    by_cases hh : a = 'h'
    · subst hh
      exact Decides.cons_verbose (o := none) (stops_cluster (by simp [helpSwitch]) rfl _ _)
    by_cases hv : a = 'v'
    · subst hv
      refine Decides.cons_verbose (o := Spelling.ofLetters ('v' :: r)) ?_
      by_cases hr : r = []
      · subst hr
        exact ⟨_, rfl, applies_verbose⟩
      · have hl := Spelling.ofLetters_verbose hr
        have hk : topParser.cluster verboseSwitch "-" (some (String.ofList r)) =
            topParser.clusterWith verboseSwitch true r := by
          simp only [Parser.cluster, String.toList_ofList]
          rfl
        simpa only [hr, if_false, hl, hk] using ih
    by_cases hc : a = 'c'
    · subst hc
      refine Decides.cons_verbose (o := Spelling.ofLetters ('c' :: r)) ?_
      have := decides_cluster_config "-" (if r = [] then none else some (String.ofList r))
      by_cases hr : r = [] <;> simpa [Spelling.ofLetters, hr] using this
    by_cases hV : a = 'V'
    · subst hV
      exact Decides.cons_verbose (o := none) (stops_cluster (by simp [versionSwitch]) rfl _ _)
    · have hl : Spelling.ofLetters (a :: r) = none := by simp [Spelling.ofLetters, hc, hv]
      simp only [hh, hv, hc, hV, if_false, hl]
      exact stops_error _

/-- The long name for verbose output takes no value. -/
theorem stops_long_verbose (value : String) :
    Stops (topParser.cluster verboseSwitch "--verbose" (some value)) := by
  show Stops (topParser.clusterWith verboseSwitch false value.toList)
  cases value.toList <;> exact stops_error _

end StorageKey
