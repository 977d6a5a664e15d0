import Mathlib.Data.List.DropRight
import StorageKey.Proofs.Program
import StorageKey.Proofs.Session.History
import StorageKey.Proofs.Yaml.Faults

/-!
# How loading the configuration fails

A configuration that is absent, cannot be read, is no document or is not accepted makes an error
that is reported to the user. Other failures are not: there is no home to look in, the path is too
long or leads through a directory that may not be searched, the document is nested too deeply, the
scan of the text stops at an escape that names no character or at the number of a version, a scalar
does not spell what its tag says, or the settings cannot be written to the log.

* `Files.exists?_eq_error`, `World.home_eq_error_iff`: the failures of single steps;
* `World.Unreported`, `Escapes`: the failures that are not reported;
* `configuration_failures`: these are all of them, and what becomes of a command line.
-/

namespace StorageKey

open Yaml

/-! ### Paths -/

namespace Files

variable {fs : Files} {f : SystemFault} {path : String}

theorem step_ne_isDirectory (p : Place) (name : String) : fs.step p name ≠ .error .isDirectory := by
  unfold step
  split
  · nofun
  · simp only
    repeat' split
    all_goals nofun
  · nofun

theorem walk_ne_isDirectory (p : Place) (names : List String) :
    fs.walk p names ≠ .error .isDirectory := by
  induction names generalizing p with
  | nil => nofun
  | cons name names ih =>
    rw [walk]
    have first := fs.step_ne_isDirectory p name
    cases hs : fs.step p name with
    | ok q => exact ih q
    | error g =>
      rintro ⟨⟩
      exact first hs

theorem reach_ne_isDirectory (path : String) : fs.reach path ≠ .error .isDirectory := by
  unfold reach
  split
  · nofun
  · split
    · nofun
    · exact fs.walk_ne_isDirectory _ _

/-- A path leads nowhere as there is nothing, as there is a file on the way, as it is too long, or as
it leads through a directory that may not be searched. -/
theorem find_eq_error (h : fs.find path = .error f) :
    f = .notFound ∨ f = .permission ∨ f = .notDirectory ∨ f = .nameTooLong := by
  have reaches := fs.reach_ne_isDirectory path
  unfold find at h
  split at h
  · next g hg =>
    cases h
    cases f with
    | isDirectory => exact absurd hg reaches
    | _ => decide
  · split at h
    · cases h
    · cases h
      exact .inl rfl

/-- Only a path that is too long, or leads through a directory that may not be searched, can be
neither there nor absent. -/
theorem exists?_eq_error (h : fs.exists? path = .error f) : f = .permission ∨ f = .nameTooLong := by
  unfold exists? at h
  split at h
  · cases h
  · split at h
    · cases h
    · cases h
    · cases h
    · next absent elsewhere hf =>
      cases h
      rcases find_eq_error hf with rfl | rfl | rfl | rfl
      · exact absurd rfl absent
      · exact .inl rfl
      · exact absurd rfl elsewhere
      · exact .inr rfl

end Files

namespace World

variable {w : World} {given : Option Path} {f : Failure}

/-- Dropping slashes from the end of a text keeps its start, if this is no slash. -/
theorem head?_rdropWhile_slash {c : Char} (h : c ≠ '/') (s : List Char) :
    (s.rdropWhile (· = '/')).head? = some c ↔ s.head? = some c := by
  have start : s.rdropWhile (· = '/') <+: s := List.rdropWhile_prefix _ _
  cases ht : s.rdropWhile (· = '/') with
  | nil =>
    have slashes := List.rdropWhile_eq_nil_iff.1 ht
    constructor
    · intro hc
      cases hc
    · intro hc
      have hc := slashes c (List.mem_of_head? hc)
      exact absurd (of_decide_eq_true hc) h
  | cons d rest =>
    rw [ht] at start
    obtain ⟨more, rfl⟩ := start
    rfl

/-- There is no home just if none is named, or what names it starts with a tilde. -/
theorem home_eq_error_iff : w.home = .error f ↔ f = .noHome ∧
    ∀ v, (w.valueOf? "HOME").or w.host.home = some v → v.toList.head? = some '~' := by
  unfold home
  cases hv : (w.valueOf? "HOME").or w.host.home with
  | none => simp [eq_comm]
  | some v =>
    have start := head?_rdropWhile_slash (c := '~') (by decide) v.toList
    rw [List.rdropWhile] at start
    simp only [Option.some.injEq, forall_eq', ← start]
    split
    · next hs => simp [hs]
    · next rest hs =>
      rw [hs]
      simp [eq_comm]
    · next empty tilde =>
      constructor
      · intro hf
        cases hf
      · rintro ⟨-, hs⟩
        obtain ⟨rest, hr⟩ := List.head?_eq_some_iff.1 hs
        exact absurd hr (tilde rest)

/-- It is unknown where the configuration is just if no path and no variable says so, and there is
no home. -/
theorem configSource_eq_error_iff : w.configSource given = .error f ↔
    given = none ∧ w.setVariable? configVariable = none ∧
      w.setVariable? configHomeVariable = none ∧ w.home = .error f := by
  unfold configSource
  cases given with
  | some p => simp
  | none =>
    cases w.setVariable? configVariable with
    | some v => simp
    | none =>
      unfold ownConfigPath configHome
      cases w.setVariable? configHomeVariable with
      | some d => simp [Except.map]
      | none => cases w.home <;> simp [Except.map]

/-- Why there is no configuration, where this is not reported. -/
inductive Unreported (w : World) (given : Option Path) : Failure → Prop
  /-- The configuration is looked for in the home, and there is none: no variable names it and it is
  not on record, or a tilde starts the name. -/
  | noHome (hg : given = none) (hc : w.setVariable? configVariable = none)
      (hd : w.setVariable? configHomeVariable = none)
      (hh : ∀ v, (w.valueOf? "HOME").or w.host.home = some v → v.toList.head? = some '~') :
      Unreported w given .noHome
  /-- The path is too long, or a name on it is, or it leads through a directory that may not be
  searched. -/
  | unclear {source : ConfigSource} {f : SystemFault} (hs : w.configSource given = .ok source)
      (he : w.files.exists? source.path.text = .error f) :
      Unreported w given (.system f source.path.text)
  /-- The file can be read, and its document has another fault than that the text is none or cannot
  be read on. -/
  | document {source : ConfigSource} {content : List UInt8} {f : Yaml.Fault}
      (hs : w.configSource given = .ok source)
      (he : w.files.exists? source.path.text = .ok true)
      (hr : w.files.read source.path.text = .ok content) (hd : w.loadDocument content = .error f)
      (hm : f ≠ .malformed) (hu : ∀ e, f ≠ .unread e) : Unreported w given (.document f)

theorem Unreported.kind? (h : w.Unreported given f) : f.kind? = none := by
  cases h <;> rfl

theorem documentAt_of_unreadable {path : String} {e : SystemFault}
    (hr : w.files.read path = .error e) :
    w.documentAt path = .error (.config (.unreadable path (.system e path))) := by
  unfold documentAt
  -- How a document is loaded plays no part.
  generalize w.loadDocument = load
  rw [hr]
  rfl

theorem documentAt_of_read {path : String} {content : List UInt8}
    (hr : w.files.read path = .ok content) :
    w.documentAt path = (w.loadDocument content).mapError (documentFailure path) := by
  unfold documentAt
  generalize w.loadDocument = load
  rw [hr]
  rfl

theorem documentAt_of_error {path : String} {content : List UInt8} {f : Yaml.Fault}
    (hr : w.files.read path = .ok content) (hd : w.loadDocument content = .error f) :
    w.documentAt path = .error (documentFailure path f) := by
  rw [documentAt_of_read hr, hd]
  rfl

theorem configAt_of_documentAt_error {path : String} (h : w.documentAt path = .error f) :
    w.configAt path = .error f := by
  rw [configAt, entriesAt, h]
  rfl

theorem documentFailure_eq_document {f : Yaml.Fault} (hm : f ≠ .malformed)
    (hu : ∀ e, f ≠ .unread e) (path : String) : documentFailure path f = .document f := by
  cases f with
  | malformed => exact absurd rfl hm
  | unread e => exact absurd rfl (hu e)
  | _ => rfl

/-- A failure that is not reported is one of finding the configuration. -/
theorem Unreported.config_eq (h : w.Unreported given f) : w.config given = .error f := by
  cases h with
  | noHome hg hc hd hh =>
    have home : w.home = .error .noHome := home_eq_error_iff.2 ⟨rfl, hh⟩
    exact config_of_source_error (configSource_eq_error_iff.2 ⟨hg, hc, hd, home⟩)
  | unclear hs he =>
    rw [config_of_source hs, he]
    rfl
  | document hs he hr hd hm hu =>
    rw [config_of_source hs, he, ← documentFailure_eq_document hm hu]
    exact configAt_of_documentAt_error (documentAt_of_error hr hd)

/-- A file in which there is no document makes a reported error, or its document has a fault. -/
theorem documentAt_eq_error {path : String} (h : w.documentAt path = .error f) :
    (∃ fault, f = .config fault) ∨ ∃ content e, w.files.read path = .ok content ∧
      w.loadDocument content = .error e ∧ e ≠ .malformed ∧ (∀ u, e ≠ .unread u) ∧
      f = .document e := by
  cases hr : w.files.read path with
  | error e =>
    rw [documentAt_of_unreadable hr] at h
    exact .inl ⟨_, (Except.error.inj h).symm⟩
  | ok content =>
    cases hd : w.loadDocument content with
    | ok d =>
      rw [documentAt_of_read hr, hd] at h
      cases h
    | error e =>
      rw [documentAt_of_error hr hd] at h
      obtain rfl := Except.error.inj h
      cases e with
      | malformed => exact .inl ⟨_, rfl⟩
      | unread u => exact .inl ⟨_, rfl⟩
      | _ => exact .inr ⟨content, _, rfl, hd, nofun, nofun, rfl⟩

/-- A file in which there is no configuration makes a reported error, or its document has a
fault. -/
theorem entriesAt_of_entries {path : String} {d : Document} {es : List (Value × Value)}
    (hd : w.documentAt path = .ok d) (he : d.entries? = some es) : w.entriesAt path = .ok es := by
  simp only [entriesAt, hd, bind, Except.bind, he]

theorem entriesAt_of_no_entries {path : String} {d : Document} (hd : w.documentAt path = .ok d)
    (he : d.entries? = none) : w.entriesAt path = .error (.config (.noMapping path)) := by
  simp only [entriesAt, hd, bind, Except.bind, he]

theorem configAt_eq_error {path : String} (h : w.configAt path = .error f) :
    (∃ fault, f = .config fault) ∨ ∃ content e, w.files.read path = .ok content ∧
      w.loadDocument content = .error e ∧ e ≠ .malformed ∧ (∀ u, e ≠ .unread u) ∧
      f = .document e := by
  rw [configAt] at h
  cases hd : w.documentAt path with
  | error e =>
    rw [entriesAt, hd] at h
    obtain rfl : e = f := Except.error.inj h
    exact documentAt_eq_error hd
  | ok d =>
    cases he : d.entries? with
    | none =>
      rw [entriesAt_of_no_entries hd he] at h
      exact .inl ⟨_, (Except.error.inj h).symm⟩
    | some es =>
      rw [entriesAt_of_entries hd he] at h
      change (Config.ofEntries es).toExcept.mapError _ = _ at h
      cases hc : (Config.ofEntries es).toExcept with
      | ok c =>
        rw [hc] at h
        cases h
      | error issues =>
        rw [hc] at h
        exact .inl ⟨_, (Except.error.inj h).symm⟩

/-- Why there is no configuration is reported, or is one of the failures that are not. -/
theorem config_eq_error (h : w.config given = .error f) :
    (∃ fault, f = .config fault) ∨ w.Unreported given f := by
  cases hs : w.configSource given with
  | error e =>
    rw [config_of_source_error hs] at h
    obtain rfl : e = f := Except.error.inj h
    obtain ⟨hg, hc, hd, home⟩ := configSource_eq_error_iff.1 hs
    obtain ⟨rfl, hh⟩ := home_eq_error_iff.1 home
    exact .inr (.noHome hg hc hd hh)
  | ok source =>
    rw [config_of_source hs] at h
    cases he : w.files.exists? source.path.text with
    | error e =>
      rw [he] at h
      obtain rfl := Except.error.inj h
      exact .inr (.unclear hs he)
    | ok found =>
      rw [he] at h
      cases found with
      | true =>
        rcases configAt_eq_error h with reported | ⟨content, e, hr, hd, hm, hu, rfl⟩
        · exact .inl reported
        · exact .inr (.document hs he hr hd hm hu)
      | false =>
        change (if source.required then _ else _) = _ at h
        split at h
        · exact .inl ⟨_, (Except.error.inj h).symm⟩
        · cases h

end World

/-! ### Loading -/

/-- The failures of loading a configuration that are not reported. -/
inductive Escapes (given : Option Path) (s : State) : Failure → Prop
  | unreported {f : Failure} (h : s.world.Unreported given f) : Escapes given s f
  /-- A configuration is found, and the number of attempts is too long to be written to the log. -/
  | untold {c : Config} (hc : s.world.config given = .ok c)
      (ht : s.logging.canTell (.int c.attempts) = false) :
      Escapes given s (.log (.integer .tooLarge))

namespace Act

variable {s : State} {given : Option Path} {f : Failure}

/-- What is told of a configuration fails as there is none, or in a way that is not reported. -/
theorem told_eq_error (h : s.logging.told (s.world.config given) = .error f) :
    (∃ fault, f = .config fault) ∨ Escapes given s f := by
  cases hc : s.world.config given with
  | error e =>
    rw [hc] at h
    obtain rfl : e = f := Except.error.inj h
    exact (World.config_eq_error hc).imp_right .unreported
  | ok c =>
    rw [hc, Logging.told] at h
    split at h
    · cases h
    · next ht =>
      cases h
      exact .inr (.untold hc (Bool.eq_false_iff.2 ht))

theorem told_of_escapes (h : Escapes given s f) :
    s.logging.told (s.world.config given) = .error f ∧ f.kind? = none := by
  cases h with
  | unreported h =>
    rw [h.config_eq]
    exact ⟨rfl, h.kind?⟩
  | untold hc ht =>
    rw [hc, Logging.told, ht]
    exact ⟨rfl, rfl⟩

/-- The failures of loading that are not reported are those, and no others. -/
theorem escapes_iff : Escapes given s f ↔ ∃ u, loadConfig given s = .error f u ∧ f.kind? = none := by
  obtain ⟨u, hu, -⟩ := loadConfig_apply given s
  constructor
  · intro h
    obtain ⟨told, kind⟩ := told_of_escapes h
    rw [told] at hu
    exact ⟨u, hu, kind⟩
  · rintro ⟨v, hv, kind⟩
    rw [hv] at hu
    cases ht : s.logging.told (s.world.config given) with
    | ok c =>
      rw [ht] at hu
      cases hu
    | error e =>
      rw [ht] at hu
      cases hu
      rcases told_eq_error ht with ⟨fault, rfl⟩ | h
      · cases kind
      · exact h

theorem told_of_loadConfig_error {u : State} (h : loadConfig given s = .error f u) :
    s.logging.told (s.world.config given) = .error f :=
  exists_loadConfig_iff.1 ⟨u, h⟩

/-- Loading gives a configuration, or fails in a way that is reported, or in one that is not. -/
theorem loadConfig_cases (given : Option Path) (s : State) :
    (∃ c u, loadConfig given s = .ok c u) ∨ (∃ fault u, loadConfig given s = .error (.config fault) u) ∨
      ∃ f u, loadConfig given s = .error f u ∧ Escapes given s f := by
  cases h : loadConfig given s with
  | ok c u => exact .inl ⟨c, u, rfl⟩
  | error f u =>
    rcases told_eq_error (told_of_loadConfig_error h) with ⟨fault, rfl⟩ | escapes
    · exact .inr (.inl ⟨fault, u, rfl⟩)
    · exact .inr (.inr ⟨f, u, rfl, escapes⟩)

/-! ### Command lines -/

variable {args : List String} {i : Invocation}

/-- A command without arguments that gets no configuration ends with the report of the reason. -/
theorem runInvocation_of_told_error (hp : Invocation.parse args = .ok i)
    (hd : args.drop (commandIndex args + 1) = [])
    (ht : (operationStart i s).logging.told (s.world.config i.config) = .error f) :
    ∃ u, OnlyPrints ((operationStart i s).begun i.command.operation) u ∧
      runInvocation i s = report i.command f u := by
  have single := arguments_of_parse hp
  rw [hd] at single
  obtain ⟨u, prints, ⟨e, he, run⟩ | ⟨c, hc, -⟩⟩ := proceed_fresh_cases
    (s := (operationStart i s).begun i.command.operation) rfl i.command.operation
  · obtain rfl : f = e := Except.error.inj (ht.symm.trans he)
    refine ⟨u, prints, ?_⟩
    rw [runInvocation_of_name single, perform_apply, run]
    rfl
  · cases ht.symm.trans hc

/-- A reported reason is printed, and the code is one. -/
theorem runProgram_of_config_error (hp : Invocation.parse args = .ok i)
    (hd : args.drop (commandIndex args + 1) = []) {fault : ConfigFault} {t : State}
    (h : loadConfig i.config (operationStart i s) = .error (.config fault) t) :
    ∃ u err, runProgram args s = .ok (.returned 1) u ∧ u.out = s.out ∧ u.world = s.world ∧
      u.err = err ++ ("Error: " ++ fault.message ++ "\n") := by
  obtain ⟨u, ⟨err, rfl⟩, run⟩ := runInvocation_of_told_error hp hd (told_of_loadConfig_error h)
  rw [report_of_some (k := .configuration) rfl] at run
  exact ⟨_, _, runProgram_of_parse hp run, rfl, rfl, rfl⟩

/-- Any other reason ends the program. -/
theorem runProgram_of_escapes (hp : Invocation.parse args = .ok i)
    (hd : args.drop (commandIndex args + 1) = []) (h : Escapes i.config (operationStart i s) f) :
    ∃ u, runProgram args s = .error f u := by
  obtain ⟨told, kind⟩ := told_of_escapes h
  obtain ⟨u, -, run⟩ := runInvocation_of_told_error hp hd told
  rw [report_of_none kind] at run
  exact ⟨u, (runProgram_of_invocation hp s).trans (bind_of_error run)⟩

example : (match load .usual "backend: 2001-13-01\n".toUTF8.toList with
    | .ok _ => none
    | .error f => some f) = some (.calendar .month) := by decide +kernel

end Act

end StorageKey
