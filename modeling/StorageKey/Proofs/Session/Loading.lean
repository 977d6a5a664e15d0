import StorageKey.Proofs.Session.Steps

/-!
# Finding the configuration

What the configuration of a world is does not depend on what is logged about it. Only the entry with
its settings can keep a session from getting it. An operation of a session that knows nothing finds
the configuration first, and then does what it does in a session that knows it.

* `World.config`: the configuration of a world, or why there is none;
* `Act.loadConfig_apply`: loading it;
* `Act.perform_apply`, `Act.proceed_of_fresh`: what an operation does before it needs the
  configuration, and after it has found it.
-/

namespace StorageKey

open Yaml

namespace World

/-- The configuration in a file. -/
def configAt (w : World) (path : String) : Except Failure Config := do
  let es ← w.entriesAt path
  (Config.ofEntries es).toExcept.mapError fun is => .config (.invalid path is)

/-- The configuration of a world, or why there is none. -/
def config (w : World) (given : Option Path) : Except Failure Config := do
  let source ← w.configSource given
  let path := source.path.text
  let found ← (w.files.exists? path).mapError fun f => .system f path
  if found then w.configAt path
  else if source.required then .error (.config (.notFound path))
  else .ok Config.usual

variable {w : World} {given : Option Path}

theorem config_of_source {source : ConfigSource} (hs : w.configSource given = .ok source) :
    w.config given = (w.files.exists? source.path.text).mapError (.system · source.path.text) >>=
      fun found => if found then w.configAt source.path.text
        else if source.required then .error (.config (.notFound source.path.text))
        else .ok Config.usual := by
  rw [config, hs]
  rfl

theorem config_of_source_error {f : Failure} (hs : w.configSource given = .error f) :
    w.config given = .error f := by
  rw [config, hs]
  rfl

end World

/-- Whether data for verbose output can be printed in a debug entry: they are not shown at all, or
can be written. -/
def Logging.canTell (l : Logging) (d : Datum) : Bool :=
  !(l.shows .debug && l.isVerbose) || isWritable d

/-- What becomes of a configuration that is told in an entry: it is lost if the entry cannot be
printed. -/
def Logging.told (l : Logging) : Except Failure Config → Except Failure Config
  | .error f => .error f
  | .ok c => if l.canTell (.int c.attempts) then .ok c else .error (.log (.integer .tooLarge))

/-- A configuration that is told is the one that is found, and can be. -/
theorem Logging.eq_ok_of_told {l : Logging} {r : Except Failure Config} {c : Config}
    (h : l.told r = .ok c) : r = .ok c ∧ l.canTell (.int c.attempts) = true := by
  cases r with
  | error f => cases h
  | ok d =>
    rw [Logging.told] at h
    split at h
    · next hd =>
      cases h
      exact ⟨rfl, hd⟩
    · cases h

theorem isWritable_context (c : Config) :
    isWritable (.map c.context) = isWritable (.int c.attempts) := by
  have same : writeFault? entryDepth (.map c.context) =
      (writeFault? entryDepth (.int c.attempts)).or none := by
    unfold Config.context
    cases c.backend <;> rfl
  rw [isWritable, same, Option.or_none, isWritable]

namespace Act

/-- The entry about a configuration that is loaded. -/
def settingsContext (path : String) (c : Config) : Context :=
  [("config", .text path), ("_verbose_settings", .map c.context)]

theorem shallow_settings (path : String) (c : Config) : (settingsContext path c).Shallow := by
  have flat : ∀ e ∈ c.context, e.2.isScalar = true := by
    unfold Config.context
    cases c.backend <;> simp [Datum.isScalar]
  exact (Context.all_nil.cons _ (not_nested_of_flat flat 322)).cons _
    (not_nested_of_isScalar rfl 323)

theorem canPrint_settings (l : Logging) (path : String) (c : Config) :
    l.canPrint .debug "loaded_config" (settingsContext path c) =
      l.canTell (.int c.attempts) := by
  have details : (Entry.ofEvent .debug (.text "loaded_config") (settingsContext path c)).details =
      settingsContext path c := rfl
  have plain : isVerboseName "config" = false := by decide
  have hidden : isVerboseName "_verbose_settings" = true := by decide
  have bare : bareName "_verbose_settings" = "settings" := by decide
  have quiet : (settingsContext path c).quiet = [("config", .text path)] := by
    simp [settingsContext, Context.quiet, plain, hidden]
  have verbose : (settingsContext path c).verbose =
      [("config", .text path), ("settings", .map c.context)] := by
    simp [settingsContext, Context.verbose, Context.put, bare, bareName_of_not_isVerboseName plain]
  rw [Logging.canPrint, Logging.shown, details, Logging.canTell, ← isWritable_context]
  cases l.isVerbose <;> cases l.shows .debug <;> simp [quiet, verbose]

/-- Telling a configuration prints the entry, or fails as the entry cannot be printed. -/
theorem log_settings_apply (path : String) (c : Config) (s : State) :
    ∃ u, (log .debug "loaded_config" (settingsContext path c) >>= fun _ => pure c) s =
      ended (s.logging.told (.ok c)) u ∧ OnlyPrints s u := by
  rw [Logging.told, ← canPrint_settings s.logging path c]
  cases hc : s.logging.canPrint .debug "loaded_config" (settingsContext path c) with
  | true => exact ⟨_, bind_of_ok (log_of_canPrint (by decide +kernel) hc), _, rfl⟩
  | false =>
    exact ⟨s, bind_of_error (log_of_not_canPrint (shallow_settings path c) hc), OnlyPrints.refl s⟩

theorem readConfig_apply (path : String) (s : State) :
    ∃ u, readConfig path s = ended (s.logging.told (s.world.configAt path)) u ∧ OnlyPrints s u := by
  obtain ⟨t, ht, prints⟩ := log_onlyPrints
    (by decide +kernel : Showable .debug "loading_config")
    (Context.writable_nil.cons "config" (d := .text path) rfl) s
  obtain ⟨world, logging⟩ : t.world = s.world ∧ t.logging = s.logging := by
    obtain ⟨err, rfl⟩ := prints
    exact ⟨rfl, rfl⟩
  have run : readConfig path s = (do
      let es ← ofExcept id (s.world.entriesAt path)
      let config ← ofExcept (fun is => .config (.invalid path is)) (Config.ofEntries es).toExcept
      log .debug "loaded_config" (settingsContext path config)
      return config) t := by
    rw [← world]
    exact (bind_of_ok ht).trans (bind_of_ok (world_apply t))
  rw [run, World.configAt]
  cases s.world.entriesAt path with
  | error f => exact ⟨t, rfl, prints⟩
  | ok es =>
    show ∃ u, (ofExcept _ (Config.ofEntries es).toExcept >>= _) t =
      ended (s.logging.told ((Config.ofEntries es).toExcept.mapError _)) u ∧ _
    cases (Config.ofEntries es).toExcept with
    | error is => exact ⟨t, rfl, prints⟩
    | ok c =>
      obtain ⟨u, hu, hp⟩ := log_settings_apply path c t
      rw [logging] at hu
      exact ⟨u, hu, prints.trans hp⟩

theorem told_usual (l : Logging) : l.told (.ok Config.usual) = .ok Config.usual := by
  have short : isWritable (.int Config.usual.attempts) = true := by decide +kernel
  rw [Logging.told, Logging.canTell, short, Bool.or_true]
  rfl

/-- Loading gives the configuration of the world, if it can be told. -/
theorem loadConfig_apply (given : Option Path) (s : State) :
    ∃ u, loadConfig given s = ended (s.logging.told (s.world.config given)) u ∧ OnlyPrints s u := by
  unfold World.config
  cases hs : s.world.configSource given with
  | error f =>
    refine ⟨s, (bind_of_ok (world_apply s)).trans ?_, OnlyPrints.refl s⟩
    rw [hs]
    rfl
  | ok source =>
    have run : loadConfig given s = (do
        if ← ofExcept (fun f => .system f source.path.text)
            (s.world.files.exists? source.path.text) then readConfig source.path.text
        else if source.required then throw (Failure.config (.notFound source.path.text))
        else do
          log .debug "using_default_config" [("config", .text source.path.text)]
          return Config.usual) s := by
      refine (bind_of_ok (world_apply s)).trans ?_
      rw [hs]
      rfl
    rw [run]
    show ∃ u, (ofExcept _ (s.world.files.exists? source.path.text) >>= _) s =
      ended (s.logging.told ((s.world.files.exists? source.path.text).mapError _ >>= _)) u ∧ _
    cases s.world.files.exists? source.path.text with
    | error f => exact ⟨s, rfl, OnlyPrints.refl s⟩
    | ok found =>
      cases found with
      | true => exact readConfig_apply source.path.text s
      | false =>
        cases source.required with
        | true => exact ⟨s, rfl, OnlyPrints.refl s⟩
        | false =>
          obtain ⟨t, ht, hp⟩ := log_onlyPrints
            (by decide +kernel : Showable .debug "using_default_config")
            (Context.writable_nil.cons "config" (d := .text source.path.text) rfl) s
          refine ⟨t, ?_, hp⟩
          show _ = ended (s.logging.told (.ok Config.usual)) _
          rw [told_usual]
          exact bind_of_ok ht

/-- What loading ends with is what is told of the configuration of the world. -/
theorem exists_loadConfig_iff {given : Option Path} {s : State} {r : Except Failure Config} :
    (∃ u, loadConfig given s = ended r u) ↔ s.logging.told (s.world.config given) = r := by
  obtain ⟨u, hu, -⟩ := loadConfig_apply given s
  generalize s.logging.told (s.world.config given) = t at hu
  constructor
  · rintro ⟨v, hv⟩
    rw [hu] at hv
    cases t <;> cases r <;> cases hv <;> rfl
  · rintro rfl
    exact ⟨u, hu⟩

/-! ### What a session knows -/

/-- A session names the agent program that its configuration names, and remembers it. -/
theorem sessionAgent_apply {s : State} {c : Config} (h : s.session.config = some c) :
    sessionAgent s = .ok (agentOf s c)
      { s with session := { s.session with agentProgram := some (agentOf s c) } } := by
  unfold agentOf
  cases ha : s.session.agentProgram with
  | some a =>
    rw [sessionAgent_of_some ha, Option.getD_some, ← ha]
  | none =>
    rw [sessionAgent_of_unknown ha]
    exact bind_of_ok (sessionConfig_of_some h)

theorem config_of_sessionConfig {s t : State} {c : Config} (h : sessionConfig s = .ok c t) :
    t.session.config = some c := by
  obtain ⟨err, rfl⟩ := eq_of_sessionConfig h
  rfl

/-- A session that names no agent program finds its configuration first. -/
theorem sessionAgent_of_none {s : State} (h : s.session.agentProgram = none) :
    sessionAgent s = (sessionConfig >>= fun _ => sessionAgent) s := by
  rw [sessionAgent_of_unknown h]
  cases hc : sessionConfig s with
  | error f t => rw [bind_of_error hc, bind_of_error hc]
  | ok c t =>
    obtain ⟨err, rfl⟩ := eq_of_sessionConfig hc
    rw [bind_of_ok hc, bind_of_ok hc, sessionAgent_apply rfl]
    simp only [agentOf, h, Option.getD_none]
    rfl

/-- A session that knows no way to reach the key finds its configuration first. -/
theorem sessionFactory_of_none {s : State} (h : s.session.factory = none) :
    sessionFactory s = (sessionConfig >>= fun _ => sessionFactory) s := by
  rw [sessionFactory_of_unknown h]
  cases hc : sessionConfig s with
  | error f t => rw [bind_of_error hc, bind_of_error hc]
  | ok c t =>
    have known := config_of_sessionConfig hc
    have factory : t.session.factory = none := by
      obtain ⟨err, rfl⟩ := eq_of_sessionConfig hc
      exact h
    rw [bind_of_ok hc, bind_of_ok hc, sessionFactory_of_unknown factory,
      bind_of_ok (sessionConfig_of_some known)]

theorem bind_congr_left {α β : Type} {x y : Act α} {s : State} (h : x s = y s) (f : α → Act β) :
    (x >>= f) s = (y >>= f) s := by
  simp only [bind, EStateM.bind, h]

/-- An action that finds the configuration before anything else. -/
def FindsConfig {α : Type} (x : Act α) (s : State) : Prop :=
  x s = (sessionConfig >>= fun _ => x) s

theorem FindsConfig.bind {α β : Type} {x : Act α} {s : State} (h : FindsConfig x s)
    (f : α → Act β) : FindsConfig (x >>= f) s := by
  rw [FindsConfig, bind_congr_left h f, bind_assoc]

/-! ### Operations -/

end Act

/-- What an operation does without a configuration: closing the volume writes what is pending. -/
def Operation.opening : Operation → List Event
  | .closeVolume => [.flush]
  | _ => []

/-- A state in which an operation has begun. -/
def State.begun (s : State) (o : Operation) : State := { s with events := s.events ++ o.opening }

namespace Act

/-- What an operation does after it has begun. -/
def proceed : Operation → Act Unit
  | .closeVolume => do
    connect
    lock
    log .info "volume_closed" []
  | o => perform o

theorem perform_apply (o : Operation) (s : State) : perform o s = proceed o (s.begun o) := by
  have silent : { s with events := s.events ++ [] } = s := by rw [List.append_nil]
  cases o with
  | closeVolume => exact bind_of_ok (emit_apply .flush s)
  | _ => exact congrArg _ silent.symm

theorem findsConfig_connect {s : State} (h : s.session.factory = none) : FindsConfig connect s :=
  FindsConfig.bind (sessionFactory_of_none h) _

/-- An operation of a session that knows nothing finds the configuration, and goes on as in a
session that knows it. -/
theorem proceed_of_fresh {s : State} (hf : s.session.factory = none)
    (ha : s.session.agentProgram = none) (o : Operation) : FindsConfig (proceed o) s := by
  cases o with
  | clearPassphrase => exact FindsConfig.bind (sessionAgent_of_none ha) _
  | _ => exact (findsConfig_connect hf).bind _

end Act

end StorageKey
