import StorageKey.Proofs.ConfigurationDocument
import StorageKey.Proofs.Session.Respects

/-!
# What the configuration is looked up by

A path that is given hides the variables and all other files, the variable of the configuration hides
the directories, and the directory of the configurations hides the home. Of what is hidden, nothing
can be seen in how loading ends or in what it prints. Nor is anything else taken where the selected
file makes no configuration: this is an error, unless the file is the user's own and absent.

* `AgreeOnLookup`: worlds that agree on what is selected and on the file there;
* `Act.loadConfig_of_agree`: loading in such worlds;
* `Act.configuration_lookup`: what is hidden, and when there is no configuration.
-/

namespace StorageKey

open World Yaml

/-! ### What is selected -/

namespace World

variable {w : World} {given : Option Path} {source : ConfigSource}

theorem configSource_of_variable {v : String} (hv : w.setVariable? configVariable = some v) :
    w.configSource none = .ok ⟨Path.ofString v, true⟩ := by
  unfold configSource
  rw [hv]

theorem configSource_of_no_variable (hv : w.setVariable? configVariable = none) :
    w.configSource none = w.ownConfigPath.map fun p => ⟨p, false⟩ := by
  unfold configSource
  rw [hv]

/-- Where nothing else is selected, the user's own file is, and may be absent. -/
theorem configSource_eq_ok_iff_of_no_variable (hv : w.setVariable? configVariable = none) :
    w.configSource none = .ok source ↔
      w.ownConfigPath = .ok source.path ∧ source.required = false := by
  obtain ⟨path, required⟩ := source
  rw [configSource_of_no_variable hv]
  cases w.ownConfigPath <;> simp [Except.map, eq_comm]

/-- The selected file must exist just if a path is given or a variable names one. -/
theorem required_iff (hs : w.configSource given = .ok source) :
    source.required = true ↔ given ≠ none ∨ w.setVariable? configVariable ≠ none := by
  cases given with
  | some p =>
    cases hs
    simp
  | none =>
    cases hv : w.setVariable? configVariable with
    | some v =>
      rw [configSource_of_variable hv] at hs
      cases hs
      simp
    | none =>
      rw [configSource_eq_ok_iff_of_no_variable hv] at hs
      simp [hs.2]

end World

/-! ### Worlds that agree -/

/-- Worlds that agree on the file at a path: on whether it is there, on what is read of it, and on
the document that this is. -/
structure World.AgreeAt (w w' : World) (path : String) : Prop where
  there : w.files.exists? path = w'.files.exists? path
  content : w.files.read path = w'.files.read path
  document : ∀ content, w.files.read path = .ok content →
    w.loadDocument content = w'.loadDocument content

/-- Worlds that agree on the first thing that says where the configuration is, on the absence of
what would come before it, and on what is found at the place that it says. -/
inductive AgreeOnLookup (w w' : World) : Option Path → Prop
  | given {p : Path} (hf : w.AgreeAt w' p.text) : AgreeOnLookup w w' (some p)
  | named {v : String} (hv : w.setVariable? configVariable = some v)
      (hv' : w'.setVariable? configVariable = some v) (hf : w.AgreeAt w' (Path.ofString v).text) :
      AgreeOnLookup w w' none
  | inDirectory {d : String} (hv : w.setVariable? configVariable = none)
      (hv' : w'.setVariable? configVariable = none)
      (hd : w.setVariable? configHomeVariable = some d)
      (hd' : w'.setVariable? configHomeVariable = some d)
      (hf : ∀ p, w.ownConfigPath = .ok p → w.AgreeAt w' p.text) : AgreeOnLookup w w' none
  | inHome (hv : w.setVariable? configVariable = none) (hv' : w'.setVariable? configVariable = none)
      (hd : w.setVariable? configHomeVariable = none)
      (hd' : w'.setVariable? configHomeVariable = none)
      (hh : (w.valueOf? "HOME").or w.host.home = (w'.valueOf? "HOME").or w'.host.home)
      (hf : ∀ p, w.ownConfigPath = .ok p → w.AgreeAt w' p.text) : AgreeOnLookup w w' none

theorem World.AgreeAt.refl (w : World) (path : String) : w.AgreeAt w path :=
  ⟨rfl, rfl, fun _ _ => rfl⟩

theorem World.AgreeAt.entriesAt_eq {w w' : World} {path : String} (h : w.AgreeAt w' path) :
    w.entriesAt path = w'.entriesAt path := by
  have documents : w.documentAt path = w'.documentAt path := by
    cases hr : w.files.read path with
    | error f => rw [documentAt_of_unreadable hr, documentAt_of_unreadable (h.content ▸ hr)]
    | ok content =>
      rw [documentAt_of_read hr, documentAt_of_read (h.content ▸ hr), h.document content hr]
  rw [entriesAt, entriesAt, documents]

namespace AgreeOnLookup

variable {w w' : World} {given : Option Path}

/-- The cases are all that there are: every world agrees with itself. -/
theorem refl (w : World) (given : Option Path) : AgreeOnLookup w w given := by
  cases given with
  | some p => exact .given (.refl w _)
  | none =>
    cases hv : w.setVariable? configVariable with
    | some v => exact .named hv hv (.refl w _)
    | none =>
      cases hd : w.setVariable? configHomeVariable with
      | some d => exact .inDirectory hv hv hd hd fun _ _ => .refl w _
      | none => exact .inHome hv hv hd hd rfl fun _ _ => .refl w _

theorem configSource_eq (h : AgreeOnLookup w w' given) :
    w.configSource given = w'.configSource given := by
  cases h with
  | given hf => rfl
  | named hv hv' hf => rw [configSource_of_variable hv, configSource_of_variable hv']
  | inDirectory hv hv' hd hd' hf =>
    rw [configSource_of_no_variable hv, configSource_of_no_variable hv']
    simp only [ownConfigPath, configHome, hd, hd']
  | inHome hv hv' hd hd' hh hf =>
    rw [configSource_of_no_variable hv, configSource_of_no_variable hv']
    simp only [ownConfigPath, configHome, hd, hd', home, hh]

theorem agreeAt (h : AgreeOnLookup w w' given) {source : ConfigSource}
    (hs : w.configSource given = .ok source) : w.AgreeAt w' source.path.text := by
  cases h with
  | given hf =>
    cases hs
    exact hf
  | named hv hv' hf =>
    rw [configSource_of_variable hv] at hs
    cases hs
    exact hf
  | inDirectory hv hv' hd hd' hf | inHome hv hv' hd hd' hh hf =>
    exact hf _ ((configSource_eq_ok_iff_of_no_variable hv).1 hs).1

end AgreeOnLookup

/-! ### Loading in another world -/

/-- The same state in two worlds. -/
def InWorlds (w w' : World) (s t : State) : Prop := s.world = w ∧ t = { s with world := w' }

namespace Act

variable {w w' : World} {given : Option Path} {s : State} {source : ConfigSource} {c : Config}

/-- What follows a look at the world, if it looks only at what is the same in both. -/
theorem respects_world_inWorlds {α : Type} {f : World → Act α} (same : f w = f w')
    (hf : Respects (InWorlds w w') (f w)) : Respects (InWorlds w w') (world >>= f) := by
  rintro s t ⟨rfl, rfl⟩
  rw [bind_of_ok (world_apply s), bind_of_ok (world_apply _)]
  show SameEnd _ (f s.world s) (f w' _)
  rw [← same]
  exact hf s _ ⟨rfl, rfl⟩

theorem respects_log_inWorlds (level : Level) (event : String) (c : Context) :
    Respects (InWorlds w w') (log level event c) := by
  refine respects_log_of ?_ ?_ level event c
  · rintro s t ⟨-, rfl⟩
    rfl
  · rintro s t ⟨rfl, rfl⟩ text
    exact ⟨rfl, rfl⟩

theorem respects_readConfig_inWorlds {path : String} (h : w.AgreeAt w' path) :
    Respects (InWorlds w w') (readConfig path) := by
  refine (respects_log_inWorlds _ _ _).bind fun _ => respects_world_inWorlds ?_ ?_
  · rw [h.entriesAt_eq]
  · refine (respects_ofExcept _ _).bind fun es => (respects_ofExcept _ _).bind fun c => ?_
    exact (respects_log_inWorlds _ _ _).bind fun _ => respects_pure c

theorem respects_loadConfig_inWorlds (h : AgreeOnLookup w w' given) :
    Respects (InWorlds w w') (loadConfig given) := by
  refine respects_world_inWorlds (by rw [h.configSource_eq]) ?_
  cases hs : w.configSource given with
  | error f => exact respects_throw f
  | ok source =>
    -- From here on, all that is looked at in the world is this file.
    have file := h.agreeAt hs
    show Respects (InWorlds w w') (do
      if ← ofExcept (fun f => .system f source.path.text)
          ((← world).files.exists? source.path.text) then readConfig source.path.text
      else if source.required then throw (Failure.config (.notFound source.path.text))
      else do
        log .debug "using_default_config" [("config", .text source.path.text)]
        return Config.usual)
    refine respects_world_inWorlds (by rw [file.there]) ?_
    refine (respects_ofExcept _ _).bind fun found => ?_
    refine .ite (respects_readConfig_inWorlds file) (.ite (respects_throw _) ?_)
    exact (respects_log_inWorlds _ _ _).bind fun _ => respects_pure _

/-- In worlds that agree on the selected file, loading ends with the same configuration or failure,
and does not differ in anything that it leaves. -/
theorem loadConfig_of_agree (h : AgreeOnLookup s.world w' given) : ∃ r u,
    loadConfig given s = ended r u ∧
      loadConfig given { s with world := w' } = ended r { u with world := w' } := by
  have same := respects_loadConfig_inWorlds h s { s with world := w' } ⟨rfl, rfl⟩
  cases hs : loadConfig given s <;> cases ht : loadConfig given { s with world := w' } <;>
    rw [hs, ht] at same
  · obtain ⟨rfl, -, rfl⟩ := same
    exact ⟨.ok _, _, rfl, rfl⟩
  · exact same.elim
  · exact same.elim
  · obtain ⟨rfl, -, rfl⟩ := same
    exact ⟨.error _, _, rfl, rfl⟩

/-- No variable says anything about a path that is given. -/
example (w : World) (name : String) (value : Option String) (p : Path) :
    AgreeOnLookup w (w.setVariable name value) (some p) :=
  .given ⟨rfl, rfl, fun _ _ => rfl⟩

/-- A selected file that is there makes a configuration only if its document does. -/
theorem exists_loadConfig_error (hs : s.world.configSource given = .ok source)
    (he : s.world.files.exists? source.path.text ≠ .ok false)
    (hd : ∀ d c, s.world.HoldsDocument given source d → ¬Config.MadeOf d c) :
    ∃ f u, loadConfig given s = .error f u := by
  cases h : loadConfig given s with
  | error f u => exact ⟨f, u, rfl⟩
  | ok c u =>
    cases (loadConfig_eq_ok_iff.1 ⟨u, h⟩).1 with
    | absent lacks =>
      obtain rfl := Except.ok.inj (hs.symm.trans lacks.selected)
      exact absurd lacks.absent he
    | document holds hc =>
      obtain ⟨content, found, hr⟩ := holds
      obtain rfl := Except.ok.inj (hs.symm.trans found.selected)
      exact absurd hc (hd _ c ⟨content, found, hr⟩)

/-- How loading ends and what it leaves rests on the selected file and on what selects it. A file
that must exist and does not, or that cannot be read, makes an error, and so does any other that is
there and makes no configuration. There is a configuration just if the user's own file is absent, or
if the selected file makes it. -/
theorem configuration_lookup (given : Option Path) (s : State) :
    (∀ w', AgreeOnLookup s.world w' given → ∃ r u, loadConfig given s = ended r u ∧
      loadConfig given { s with world := w' } = ended r { u with world := w' }) ∧
    (∀ source, s.world.configSource given = .ok source →
      (source.required = true ↔ given ≠ none ∨ s.world.setVariable? configVariable ≠ none) ∧
      (source.required = true → s.world.files.exists? source.path.text = .ok false →
        ∃ u, loadConfig given s = .error (.config (.notFound source.path.text)) u) ∧
      (∀ f, s.world.files.exists? source.path.text = .ok true →
        s.world.files.read source.path.text = .error f →
        ∃ u, loadConfig given s =
          .error (.config (.unreadable source.path.text (.system f source.path.text))) u) ∧
      (∀ content f, s.world.HoldsContent given source content →
        s.world.loadDocument content = .error (.unread f) →
        ∃ u, loadConfig given s = .error (.config (.unreadable source.path.text (.text f))) u) ∧
      (s.world.files.exists? source.path.text ≠ .ok false →
        (∀ d c, s.world.HoldsDocument given source d → ¬Config.MadeOf d c) →
        ∃ f u, loadConfig given s = .error f u)) ∧
    ∀ c, (∃ u, loadConfig given s = .ok c u) ↔ s.logging.canTell (.int c.attempts) = true ∧
      ((∃ source, s.world.LacksFile given source ∧ c = Config.usual) ∨
        ∃ source d, s.world.HoldsDocument given source d ∧ Config.MadeOf d c) := by
  refine ⟨fun w' => loadConfig_of_agree, fun source hs => ⟨required_iff hs, fun hr he => ?_,
    fun f he hr => ?_, fun content f holds hd => ?_, exists_loadConfig_error hs⟩, fun c => ?_⟩
  · exact loadConfig_eq_config_iff.2 (.missing hs hr he)
  · exact loadConfig_eq_config_iff.2 (.unreadable hs he hr)
  · exact loadConfig_eq_config_iff.2 (.unread holds hd)
  · rw [loadConfig_eq_ok_iff, and_comm]
    refine and_congr_right fun _ => ⟨fun found => ?_, ?_⟩
    · cases found with
      | absent h => exact .inl ⟨_, h, rfl⟩
      | document h hc => exact .inr ⟨_, _, h, hc⟩
    · rintro (⟨source, h, rfl⟩ | ⟨source, d, h, hc⟩)
      · exact .absent h
      · exact .document h hc

end Act

end StorageKey
