import StorageKey.Proofs.Session.Connection

/-!
# One setting of a configuration

Two configurations may differ in one field, whatever is accepted for it. They are valid or not
alike, and have the same issues. So two worlds whose configurations differ in one field let a
session find the same configuration, up to this setting.

* `DifferInField`: entries that differ in one accepted field;
* `Setting`: a field of the configuration, and a configuration without it;
* `World.SameBut`: worlds whose configurations differ in one setting;
* `World.erase_config`: the configurations that are found in such worlds.
-/

namespace StorageKey

open Record

/-! ### Entries -/

namespace Record

/-- Whether an entry belongs to a field. -/
def isNamed (name : String) (e : Value × Value) : Bool :=
  match e.1 with
  | .text s => s = name
  | _ => false

/-- The entries that do not belong to a field. -/
def otherEntries (name : String) (es : List (Value × Value)) : List (Value × Value) :=
  es.filter fun e => !isNamed name e

/-- A field is not given, or what is given for it is accepted. -/
def Accepted {α : Type} (r : Reader α) (name : String) (es : List (Value × Value)) : Prop :=
  ∀ v, field? es name = some v → ∃ a, r v = .ok a

/-- Entries that differ at most in one field, for which both have what is accepted. -/
structure DifferInField {α : Type} (r : Reader α) (name : String) (es es' : List (Value × Value)) :
    Prop where
  others : otherEntries name es = otherEntries name es'
  left : Accepted r name es
  right : Accepted r name es'

example : DifferInField asText "gpg_connect_agent" [(.text "backend", .null)]
    [(.text "gpg_connect_agent", .text "./agent"), (.text "backend", .null)] where
  others := rfl
  left v h := nomatch h
  right v h := ⟨"./agent", by cases h; rfl⟩

theorem field?_otherEntries {name other : String} (h : other ≠ name) (es : List (Value × Value)) :
    field? (otherEntries name es) other = field? es other := by
  have distinct (e : Value × Value) :
      decide ((!isNamed name e) = true ∧ isNamed other e = true) = isNamed other e := by
    obtain ⟨k, v⟩ := e
    cases k <;> simp_all [isNamed]
  show ((otherEntries name es).find? (isNamed other)).map _ = (es.find? (isNamed other)).map _
  rw [otherEntries, List.find?_filter, funext distinct]

/-- The entries of a field of the record are never unknown. -/
theorem unknownFields_otherEntries {name : String} {names : List String} (h : name ∈ names)
    (es : List (Value × Value)) :
    unknownFields (otherEntries name es) names = unknownFields es names := by
  induction es with
  | nil => rfl
  | cons e es ih =>
    have step : unknownFields (e :: es) names = unknownFields [e] names ++ unknownFields es names :=
      by simp [unknownFields]
    obtain ⟨k, v⟩ := e
    rw [otherEntries, List.filter_cons, step, ← ih]
    cases hn : isNamed name (k, v) with
    | false => simp [unknownFields, otherEntries]
    | true =>
      have known : unknownFields [(k, v)] names = [] := by
        cases k with
        | text s =>
          obtain rfl : s = name := by simpa [isNamed] using hn
          simp [unknownFields, h]
        | _ => cases hn
      rw [known]
      rfl

variable {α β : Type} {r : Reader α} {name : String} {es es' : List (Value × Value)}

theorem Accepted.exists_optional (h : Accepted r name es) (default : α) :
    ∃ a, optional es name default r = .ok a := by
  unfold optional
  cases hf : field? es name with
  | none => exact ⟨default, rfl⟩
  | some v =>
    obtain ⟨a, ha⟩ := h v hf
    refine ⟨a, ?_⟩
    show check [name] r v = .ok a
    rw [check, ha]

theorem DifferInField.optional_eq (h : DifferInField r name es es') (other : String)
    (ho : other ≠ name) (default : β) (q : Reader β) :
    optional es other default q = optional es' other default q := by
  simp only [optional, ← field?_otherEntries ho es, ← field?_otherEntries ho es', h.others]

theorem DifferInField.unknownFields_eq (h : DifferInField r name es es') {names : List String}
    (hn : name ∈ names) : unknownFields es names = unknownFields es' names := by
  rw [← unknownFields_otherEntries hn es, ← unknownFields_otherEntries hn es', h.others]

end Record

/-! ### Settings -/

/-- A field of the configuration, with the values that it takes, and a configuration with it
erased. -/
structure Setting where
  {Content : Type}
  name : String
  reader : Reader Content
  erase : Config → Config
  attempts : ∀ c, (erase c).attempts = c.attempts
  /-- Entries that differ in the field make configurations that differ in it, or the same issues. -/
  erase_ofEntries : ∀ {es es'}, DifferInField reader name es es' →
    (Config.ofEntries es).toExcept.map erase = (Config.ofEntries es').toExcept.map erase

/-- The agent program as a setting. -/
def agentSetting : Setting where
  name := "gpg_connect_agent"
  reader := asText
  erase c := { c with agentProgram := "" }
  attempts _ := rfl
  erase_ofEntries {es es'} h := by
    obtain ⟨a, ha⟩ := h.left.exists_optional Config.usual.agentProgram
    obtain ⟨b, hb⟩ := h.right.exists_optional Config.usual.agentProgram
    unfold Config.ofEntries
    rw [ha, hb, h.optional_eq "backend" (by decide),
      h.optional_eq "open_retries" (by decide), h.unknownFields_eq (by decide)]
    generalize optional es' "backend" _ _ = x
    generalize optional es' "open_retries" _ _ = y
    generalize unknownFields es' _ = more
    cases x <;> cases y <;> cases more <;> rfl

/-- The backend as a setting. -/
def backendSetting : Setting where
  name := "backend"
  reader := orNothing asText
  erase c := { c with backend := none }
  attempts _ := rfl
  erase_ofEntries {es es'} h := by
    obtain ⟨a, ha⟩ := h.left.exists_optional Config.usual.backend
    obtain ⟨b, hb⟩ := h.right.exists_optional Config.usual.backend
    unfold Config.ofEntries
    rw [ha, hb, h.optional_eq "gpg_connect_agent" (by decide),
      h.optional_eq "open_retries" (by decide), h.unknownFields_eq (by decide)]
    generalize optional es' "gpg_connect_agent" _ _ = x
    generalize optional es' "open_retries" _ _ = y
    generalize unknownFields es' _ = more
    cases x <;> cases y <;> cases more <;> rfl

/-! ### Worlds -/

/-- An error and a value are mapped independently. -/
theorem map_mapError {ε ε' α β : Type} (r : Except ε α) (f : ε → ε') (g : α → β) :
    (r.mapError f).map g = (r.map g).mapError f := by
  cases r <;> rfl

namespace World

/-- The entries of a file, if it has any, are the same as others, or differ from them in one
accepted field. -/
inductive SameButIn (σ : Setting) : Except Failure (List (Value × Value)) →
    Except Failure (List (Value × Value)) → Prop
  | same (r : Except Failure (List (Value × Value))) : SameButIn σ r r
  | differ {es es' : List (Value × Value)} (h : DifferInField σ.reader σ.name es es') :
      SameButIn σ (.ok es) (.ok es')

/-- Where the configuration is looked for, there is a file in both worlds or in neither, and its
entries are the same, or differ in one accepted field. -/
def SameBut (σ : Setting) (given : Option Path) (w w' : World) : Prop :=
  ∀ source, w.configSource given = .ok source →
    w.files.exists? source.path.text = w'.files.exists? source.path.text ∧
      SameButIn σ (w.entriesAt source.path.text) (w'.entriesAt source.path.text)

variable {σ : Setting} {w w' : World} {given : Option Path}

theorem erase_configAt {path : String} (h : SameButIn σ (w.entriesAt path) (w'.entriesAt path)) :
    (w.configAt path).map σ.erase = (w'.configAt path).map σ.erase := by
  unfold configAt
  generalize w.entriesAt path = r at h ⊢
  generalize w'.entriesAt path = r' at h ⊢
  cases h with
  | same => rfl
  | differ h =>
    show ((Config.ofEntries _).toExcept.mapError _).map σ.erase =
      ((Config.ofEntries _).toExcept.mapError _).map σ.erase
    rw [map_mapError, map_mapError, σ.erase_ofEntries h]

/-- The variables that say where the configuration is. -/
def sourceVariables : List String := [configVariable, configHomeVariable, "HOME"]

theorem configSource_of_variables (h : ∀ name ∈ sourceVariables, w.valueOf? name = w'.valueOf? name)
    (hh : w.host.home = w'.host.home) (given : Option Path) :
    w.configSource given = w'.configSource given := by
  have first := h configVariable (by decide)
  have second := h configHomeVariable (by decide)
  have third := h "HOME" (by decide)
  simp only [configSource, ownConfigPath, configHome, home, setVariable?, first, second, third, hh]

/-- The configurations that are found in such worlds differ in the setting, or there is none in
either, for the same reason. -/
theorem erase_config (hs : w.configSource given = w'.configSource given)
    (h : SameBut σ given w w') :
    (w.config given).map σ.erase = (w'.config given).map σ.erase := by
  cases hw : w.configSource given with
  | error f => rw [config_of_source_error hw, config_of_source_error (hs.symm.trans hw)]
  | ok source =>
    obtain ⟨found, entries⟩ := h source hw
    have read := erase_configAt entries
    rw [config_of_source hw, config_of_source (hs.symm.trans hw), ← found]
    -- What is in the files plays no further part.
    generalize w.configAt source.path.text = r at read ⊢
    generalize w'.configAt source.path.text = r' at read ⊢
    cases w.files.exists? source.path.text with
    | error f => exact Eq.refl (Except.error _)
    | ok there =>
      show (if there then r else _ : Except Failure Config).map σ.erase =
        (if there then r' else _ : Except Failure Config).map σ.erase
      split
      · exact read
      · rfl

end World

/-! ### Sessions -/

/-- Whether a configuration can be told does not rest on one of the settings. -/
theorem Logging.erase_told (l : Logging) (σ : Setting) {r r' : Except Failure Config}
    (h : r.map σ.erase = r'.map σ.erase) : (l.told r).map σ.erase = (l.told r').map σ.erase := by
  cases r with
  | error f =>
    cases r' with
    | error f' => exact h
    | ok c' => cases h
  | ok c =>
    cases r' with
    | error f' => cases h
    | ok c' =>
      have same : σ.erase c = σ.erase c' := Except.ok.inj h
      have attempts : c.attempts = c'.attempts := by rw [← σ.attempts c, same, σ.attempts c']
      rw [told, told, attempts]
      split
      · exact h
      · rfl

/-- Sessions that know the same configuration but for a setting, or look for it in worlds where it
is the same but for this setting. -/
structure FindSameBut (σ : Setting) (s t : State) : Prop where
  logging : s.logging = t.logging
  config : s.session.config.map σ.erase = t.session.config.map σ.erase
  path : s.session.configPath = t.session.configPath
  source : s.world.configSource s.session.configPath = t.world.configSource s.session.configPath
  found : s.world.SameBut σ s.session.configPath t.world

theorem FindSameBut.erase_configFound {σ : Setting} {s t : State} (h : FindSameBut σ s t) :
    s.configFound.map σ.erase = t.configFound.map σ.erase := by
  have known := h.config
  unfold State.configFound
  cases hs : s.session.config with
  | some c =>
    cases ht : t.session.config with
    | some d =>
      rw [hs, ht] at known
      exact congrArg Except.ok (Option.some.inj known)
    | none =>
      rw [hs, ht] at known
      cases known
  | none =>
    cases ht : t.session.config with
    | some d =>
      rw [hs, ht] at known
      cases known
    | none =>
      rw [← h.logging, ← h.path]
      exact s.logging.erase_told σ (World.erase_config h.source h.found)

/-- Such sessions find no configuration, for the same reason, or the same one up to the setting. -/
theorem FindSameBut.configFound_cases {σ : Setting} {s t : State} (h : FindSameBut σ s t) :
    (∃ f, s.configFound = .error f ∧ t.configFound = .error f) ∨
      ∃ c d, s.configFound = .ok c ∧ t.configFound = .ok d ∧ σ.erase c = σ.erase d := by
  have same := h.erase_configFound
  cases hs : s.configFound with
  | error f =>
    cases ht : t.configFound with
    | error g =>
      rw [hs, ht] at same
      obtain rfl : f = g := Except.error.inj same
      exact .inl ⟨f, rfl, rfl⟩
    | ok d =>
      rw [hs, ht] at same
      cases same
  | ok c =>
    cases ht : t.configFound with
    | error g =>
      rw [hs, ht] at same
      cases same
    | ok d =>
      rw [hs, ht] at same
      exact .inr ⟨c, d, rfl, rfl, Except.ok.inj same⟩

end StorageKey
