import StorageKey.Proofs.Session.Emission
import StorageKey.Proofs.Session.Respects
import StorageKey.Proofs.Session.Settings

/-!
# The key and the agent program apart

Of the four operations only opening the volume needs both the key and the agent program. The status
and the closing of the volume come to the same whatever becomes of the agent program, and clearing
the passphrase comes to the same whatever becomes of the key.

* `SameButAgent`, `SameButKey`: states that differ only in what has to do with the one or the other;
* `Act.respects_connect_sameButAgent`, `Act.respects_clearPassphrase_sameButKey`: what is the same in
  such states;
* `Act.key_agent_separation`: which operation rests on what.
-/

namespace StorageKey

/-! ### What may differ -/

/-- A node without its content. -/
def Node.emptied : Node → Node
  | .directory => .directory
  | .file _ => .file []
  | .program runs _ => .program runs

namespace World

/-- Worlds that differ only in what has to do with the agent program: the program, its answers, the
directories in which it is looked for, and the setting that names it. -/
structure SameButAgent (given : Option Path) (w w' : World) : Prop where
  device : w.device = w'.device
  modules : w.modules = w'.modules
  host : w.host = w'.host
  environment : ∀ name, name ≠ "PATH" → w.valueOf? name = w'.valueOf? name
  config : SameBut agentSetting given w w'

/-- Worlds that differ only in what has to do with the key: the key, the modules, and the setting
that says how the key is reached. This setting is part of a file, so that the contents of files may
differ as well. -/
structure SameButKey (given : Option Path) (w w' : World) : Prop where
  agent : w.agent = w'.agent
  host : w.host = w'.host
  environment : ∀ name, w.valueOf? name = w'.valueOf? name
  nodes : ∀ path, (w.files.find path).map Node.emptied = (w'.files.find path).map Node.emptied
  config : SameBut backendSetting given w w'

end World

/-- States that differ only in what has to do with the agent program. What the sessions know of it
may differ too. -/
structure SameButAgent (s t : State) : Prop where
  world : s.world.SameButAgent s.session.configPath t.world
  logging : s.logging = t.logging
  path : s.session.configPath = t.session.configPath
  config : s.session.config.map agentSetting.erase = t.session.config.map agentSetting.erase
  factory : s.session.factory = t.session.factory
  out : s.out = t.out
  events : s.events = t.events

/-- States that differ only in what has to do with the key. What the sessions know of it may differ
too. -/
structure SameButKey (s t : State) : Prop where
  world : s.world.SameButKey s.session.configPath t.world
  logging : s.logging = t.logging
  path : s.session.configPath = t.session.configPath
  config : s.session.config.map backendSetting.erase = t.session.config.map backendSetting.erase
  agentProgram : s.session.agentProgram = t.session.agentProgram
  out : s.out = t.out
  events : s.events = t.events

theorem SameButAgent.find {s t : State} (h : SameButAgent s t) :
    FindSameBut agentSetting s t where
  logging := h.logging
  config := h.config
  path := h.path
  source := World.configSource_of_variables
    (fun name hn => h.world.environment name (by rintro rfl; revert hn; decide))
    (congrArg Host.home h.world.host) _
  found := h.world.config

theorem SameButKey.find {s t : State} (h : SameButKey s t) : FindSameBut backendSetting s t where
  logging := h.logging
  config := h.config
  path := h.path
  source := World.configSource_of_variables (fun name _ => h.world.environment name)
    (congrArg Host.home h.world.host) _
  found := h.world.config

/-! ### Without the agent program -/

/-- The key is reached alike whatever the agent program is. -/
theorem SameButAgent.factoryOf_eq {s t : State} (h : SameButAgent s t) {c d : Config}
    (same : agentSetting.erase c = agentSetting.erase d) :
    Act.factoryOf s c = Act.factoryOf t d := by
  have backend : c.backend = d.backend :=
    show (agentSetting.erase c).backend = (agentSetting.erase d).backend by rw [same]
  rw [Act.factoryOf, Act.factoryOf, h.factory, backend,
    World.backend_congr (World.loadModule_congr h.world.modules h.world.host)]

/-- Connecting comes to the same whatever the agent program is. -/
theorem Connects.exists_sameButAgent {s t : State} (h : SameButAgent s t)
    {r : Except Failure Unit} {k : Session} {es : List Event} (hs : Connects s r k es) :
    ∃ k', Connects t r k' es ∧ SameButAgent { s with session := k } { t with session := k' } := by
  rcases h.find.configFound_cases with ⟨f, hf, hf'⟩ | ⟨c, d, hc, hd, same⟩
  · cases hs with
    | unconfigured hc =>
      obtain rfl := Except.error.inj (hf.symm.trans hc)
      exact ⟨_, .unconfigured hf', h⟩
    | unreached hc => cases hf.symm.trans hc
    | called hc => cases hf.symm.trans hc
  · have reached := h.factoryOf_eq same
    cases hs with
    | unconfigured hc' => cases hc.symm.trans hc'
    | unreached hc' hf =>
      obtain rfl := Except.ok.inj (hc.symm.trans hc')
      exact ⟨_, .unreached hd (reached.symm.trans hf),
        h.world, h.logging, h.path, congrArg some same, h.factory, h.out, h.events⟩
    | called hc' hf =>
      obtain rfl := Except.ok.inj (hc.symm.trans hc')
      rw [h.world.device]
      exact ⟨_, .called hd (reached.symm.trans hf),
        h.world, h.logging, h.path, congrArg some same, rfl, h.out, h.events⟩

theorem sharesKey_sameButAgent : SharesKey SameButAgent where
  logging := SameButAgent.logging
  device h := h.world.device
  printError h _ := ⟨h.world, h.logging, h.path, h.config, h.factory, h.out, h.events⟩
  print h text :=
    ⟨h.world, h.logging, h.path, h.config, h.factory, congrArg (· ++ text) h.out, h.events⟩
  emit h e := ⟨h.world, h.logging, h.path, h.config, h.factory, h.out, congrArg (· ++ [e]) h.events⟩
  setDevice h _ :=
    ⟨⟨rfl, h.world.modules, h.world.host, h.world.environment, h.world.config⟩, h.logging, h.path,
      h.config, h.factory, h.out, h.events⟩

namespace Act

theorem respects_connect_sameButAgent : Respects SameButAgent connect := by
  intro s t h
  obtain ⟨r, k, es, err, hs, run⟩ := connect_cases s
  obtain ⟨known, hk, same⟩ := hs.exists_sameButAgent h
  obtain ⟨err', run'⟩ := connect_of_connects hk
  rw [run, run']
  have events : s.events ++ es = t.events ++ es := by rw [h.events]
  exact .ended r ⟨same.world, h.logging, same.path, same.config, same.factory, h.out, events⟩

end Act

/-! ### Without the key -/

/-- Whether a file can be run does not rest on its content. -/
theorem Files.run_of_emptied {fs fs' : Files} {path : String}
    (h : (fs.find path).map Node.emptied = (fs'.find path).map Node.emptied) :
    fs.run path = fs'.run path := by
  unfold run
  revert h
  rcases fs.find path with f | (_ | _ | (_ | _)) <;>
    rcases fs'.find path with f' | (_ | _ | (_ | _)) <;> simp [Except.map, Node.emptied]

theorem Files.runFirst_congr {fs fs' : Files} (h : ∀ path, fs.run path = fs'.run path)
    (found : Option SystemFault) (last : SystemFault) (paths : List String) :
    fs.runFirst found last paths = fs'.runFirst found last paths := by
  induction paths generalizing found last with
  | nil => rfl
  | cons p ps ih =>
    rw [runFirst, runFirst, h p]
    cases fs'.run p with
    | ok _ => rfl
    | error f => exact ih _ _

/-- Whether the agent program can be started has nothing to do with the key. -/
theorem World.SameButKey.startFault?_eq {given : Option Path} {w w' : World}
    (h : w.SameButKey given w') (program : String) :
    w.startFault? program = w'.startFault? program := by
  have candidates : w.candidates program = w'.candidates program := by
    rw [World.candidates, World.candidates, h.environment]
  have locate : w.locate program = w'.locate program := by
    rw [World.locate, World.locate, candidates]
    exact Files.runFirst_congr (fun path => Files.run_of_emptied (h.nodes path)) _ _ _
  rw [startFault?, startFault?, locate]

namespace Act

theorem respects_log_sameButKey (level : Level) (event : String) (c : Context) :
    Respects SameButKey (log level event c) :=
  respects_log_of SameButKey.logging
    (fun k _ => ⟨k.world, k.logging, k.path, k.config, k.agentProgram, k.out, k.events⟩)
    level event c

/-- The agent program is named alike whatever the key is. -/
theorem respects_sessionAgent_sameButKey : Respects SameButKey sessionAgent := by
  intro s t h
  cases ha : s.session.agentProgram with
  | some a =>
    rw [sessionAgent_of_some ha, sessionAgent_of_some (h.agentProgram.symm.trans ha)]
    exact ⟨rfl, h⟩
  | none =>
    rw [sessionAgent_of_unknown ha, sessionAgent_of_unknown (h.agentProgram.symm.trans ha)]
    obtain ⟨err, found⟩ := sessionConfig_apply s
    obtain ⟨err', found'⟩ := sessionConfig_apply t
    rcases h.find.configFound_cases with ⟨f, hf, hf'⟩ | ⟨c, d, hc, hd, same⟩
    · rw [hf] at found
      rw [hf'] at found'
      rw [bind_of_error found, bind_of_error found']
      exact ⟨rfl, h.world, h.logging, h.path, h.config, h.agentProgram, h.out, h.events⟩
    · have program : c.agentProgram = d.agentProgram :=
        show (backendSetting.erase c).agentProgram = (backendSetting.erase d).agentProgram by
          rw [same]
      rw [hc] at found
      rw [hd] at found'
      rw [bind_of_ok found, bind_of_ok found']
      exact ⟨program, h.world, h.logging, h.path, congrArg some same, congrArg some program,
        h.out, h.events⟩

theorem respects_askAgent_sameButKey (program verb arguments : String) :
    Respects SameButKey (askAgent program verb arguments) := by
  intro s t h
  have answer : s.world.answer program = t.world.answer program := by
    rw [World.answer, World.answer, h.world.agent]
  have asked : s.world.asked.SameButKey s.session.configPath t.world.asked :=
    ⟨congrArg (fun a : Agent => a.next.2) h.world.agent, h.world.host, h.world.environment,
      h.world.nodes, h.world.config⟩
  rw [askAgent_apply, askAgent_apply, h.world.startFault?_eq, answer]
  cases t.world.startFault? program with
  | some f =>
    exact ⟨rfl, h.world, h.logging, h.path, h.config, h.agentProgram, h.out, h.events⟩
  | none =>
    refine .ended _ ⟨asked, h.logging, h.path, h.config, h.agentProgram, h.out, ?_⟩
    show s.events ++ _ = t.events ++ _
    rw [h.events]

theorem respects_clearPassphrase_sameButKey (program : String) :
    Respects SameButKey (clearPassphrase program) :=
  (respects_askAgent_sameButKey _ _ _).bind fun _ => (respects_ofExcept _ _).bind fun _ =>
    respects_log_sameButKey _ _ _

/-- Clearing the passphrase leaves the session as it is. -/
theorem session_clearPassphrase (program : String) (s : State) :
    (endState (clearPassphrase program s)).session = s.session := by
  have ask := askAgent_apply program "CLEAR_PASSPHRASE" cacheName s
  cases hs : s.world.startFault? program with
  | some f =>
    rw [hs] at ask
    rw [clearPassphrase, bind_of_error ask]
    rfl
  | none =>
    rw [hs] at ask
    cases ha : s.world.answer program with
    | error f =>
      rw [ha] at ask
      rw [clearPassphrase, bind_of_error ask]
      rfl
    | ok response =>
      rw [ha] at ask
      rw [clearPassphrase, bind_of_ok ask]
      cases checkSuccess response with
      | error f => rfl
      | ok _ =>
        obtain ⟨u, hu, err, rfl⟩ := log_onlyPrints
          (by decide +kernel : Showable .info "passphrase_cleared")
          (Context.writable_nil.cons "cache_id" (d := .text cacheName) rfl)
          (asked "CLEAR_PASSPHRASE" cacheName s)
        show (endState (log .info "passphrase_cleared" _ _)).session = s.session
        rw [hu]
        rfl

theorem factory_sessionAgent (s : State) :
    (endState (sessionAgent s)).session.factory = s.session.factory := by
  cases ha : s.session.agentProgram with
  | some a =>
    rw [sessionAgent_of_some ha]
    rfl
  | none =>
    rw [sessionAgent_of_unknown ha]
    obtain ⟨err, found⟩ := sessionConfig_apply s
    cases hc : s.configFound with
    | error f =>
      rw [hc] at found
      rw [bind_of_error found]
      rfl
    | ok c =>
      rw [hc] at found
      rw [bind_of_ok found]
      rfl

/-- To clear the passphrase, no way to reach the key is looked for. -/
theorem factory_clearPassphrase (s : State) :
    (endState (perform .clearPassphrase s)).session.factory = s.session.factory := by
  have agent := factory_sessionAgent s
  show (endState ((sessionAgent >>= clearPassphrase) s)).session.factory = _
  cases h : sessionAgent s with
  | error f t =>
    rw [h] at agent
    rw [bind_of_error h]
    exact agent
  | ok program t =>
    rw [h] at agent
    rw [bind_of_ok h, session_clearPassphrase]
    exact agent

end Act

/-! ### With both -/

/-- Whether an event belongs to an attempt to open the volume. -/
def Event.isAttempt : Event → Bool
  | .agent _ | .unlock _ => true
  | _ => false

/-- Opening the volume asks for nothing before it is connected, and nothing else is done after
that. -/
theorem Act.openVolume_after_connect (s : State) : ∃ r u cs, connect s = ended r u ∧
    (cs = [] ∨ cs = [.connect]) ∧ u.events = s.events ++ cs ∧
    match r with
    | .error f => perform .openVolume s = .error f u
    | .ok _ => Adds Event.isAttempt u (endState (perform .openVolume s)) := by
  obtain ⟨r, k, cs, err, connects, run⟩ := connect_cases s
  refine ⟨r, _, cs, run, connects.events_cases, rfl, ?_⟩
  cases r with
  | error f => exact bind_of_error run
  | ok _ =>
    show Adds _ _ (endState (openVolume s))
    rw [openVolume, bind_of_ok run]
    exact emits_sessionConfig.bind
      (fun _ => emits_unlockAttempts (fun _ => rfl) (fun _ => rfl) _) _

/-- The same session in two worlds. -/
theorem SameButAgent.of_world {s : State} {w w' : World}
    (h : w.SameButAgent s.session.configPath w') :
    SameButAgent { s with world := w } { s with world := w' } :=
  ⟨h, rfl, rfl, rfl, rfl, rfl, rfl⟩

theorem SameButKey.of_world {s : State} {w w' : World}
    (h : w.SameButKey s.session.configPath w') :
    SameButKey { s with world := w } { s with world := w' } :=
  ⟨h, rfl, rfl, rfl, rfl, rfl, rfl⟩

namespace Act

/-- Neither the status nor the closing of the volume has anything to do with the agent program. -/
theorem perform_without_agent {o : Operation} (h : o = .showStatus ∨ o = .closeVolume) :
    (∀ s, ∃ es, (endState (perform o s)).events = s.events ++ es ∧
      ∀ arguments, .agent arguments ∉ es) ∧ Respects SameButAgent (perform o) := by
  refine ⟨fun s => ?_, ?_⟩
  · obtain ⟨es, events, caused⟩ := emits_perform o s
    refine ⟨es, events, fun arguments he => ?_⟩
    have own := caused _ he
    rcases h with rfl | rfl <;> cases own
  · rcases h with rfl | rfl
    · exact respects_showStatus sharesKey_sameButAgent respects_connect_sameButAgent
    · exact respects_closeVolume sharesKey_sameButAgent respects_connect_sameButAgent

/-- To clear the passphrase has nothing to do with the key. -/
theorem clearPassphrase_without_key :
    (∀ s, ∃ es, (endState (perform .clearPassphrase s)).events = s.events ++ es ∧
      (∀ e ∈ es, ∃ arguments, e = .agent arguments) ∧
      (endState (perform .clearPassphrase s)).session.factory = s.session.factory) ∧
    Respects SameButKey (perform .clearPassphrase) := by
  refine ⟨fun s => ?_, respects_sessionAgent_sameButKey.bind respects_clearPassphrase_sameButKey⟩
  obtain ⟨es, events, caused⟩ := emits_perform .clearPassphrase s
  refine ⟨es, events, fun e he => ?_, factory_clearPassphrase s⟩
  have own := caused e he
  cases e with
  | agent arguments => exact ⟨arguments, rfl⟩
  | _ => cases own

/-- A run that succeeds does not end like one that does not. -/
theorem not_sameEnd_of_success {α : Type} {R : State → State → Prop}
    {x y : EStateM.Result Failure State α} (hx : (eventsOfSuccess x).isSome = true)
    (hy : eventsOfSuccess y = none) : ¬ SameEnd R x y := by
  intro h
  cases x with
  | error f s => cases hx
  | ok a s =>
    cases y with
    | error g t => exact h
    | ok b t => cases hy

/-- Opening the volume rests on the agent program: it fails where the program fails. -/
theorem openVolume_needs_agent : ¬ ∀ s t, SameButAgent s t →
    SameEnd SameButAgent (perform .openVolume s) (perform .openVolume t) := by
  intro same
  let w : World := { sampleSession.world with agent := ⟨[], ⟨[], [], 1⟩⟩ }
  have differ : sampleSession.world.SameButAgent none w :=
    ⟨rfl, rfl, rfl, fun _ _ => rfl, fun _ _ => ⟨rfl, .same _⟩⟩
  exact not_sameEnd_of_success (by decide +kernel) (by decide +kernel)
    (same _ _ (SameButAgent.of_world (s := sampleSession) differ))

/-- Opening the volume rests on the key: it fails where the key cannot be reached. -/
theorem openVolume_needs_key : ¬ ∀ s t, SameButKey s t →
    SameEnd SameButKey (perform .openVolume s) (perform .openVolume t) := by
  intro same
  let w : World := { sampleSession.world with
    device := { sampleSession.world.device with connectError := some ⟨.runtime, "unplugged"⟩ } }
  have differ : sampleSession.world.SameButKey none w :=
    ⟨rfl, rfl, fun _ => rfl, fun _ => rfl, fun _ _ => ⟨rfl, .same _⟩⟩
  exact not_sameEnd_of_success (by decide +kernel) (by decide +kernel)
    (same _ _ (SameButKey.of_world (s := sampleSession) differ))

/-- Showing the status and closing the volume do not run the agent program, and end, print and do
the same in all sessions that differ only in what has to do with it. Clearing the passphrase does
nothing but run the agent program and does not look for a way to reach the key, and it ends, prints
and does the same in all sessions that differ only in what has to do with the key. Opening the volume
rests on both, and asks for a passphrase only once it is connected. -/
theorem key_agent_separation :
    (∀ o, o = .showStatus ∨ o = .closeVolume →
      (∀ s, ∃ es, (endState (perform o s)).events = s.events ++ es ∧
        ∀ arguments, .agent arguments ∉ es) ∧
      ∀ s t, SameButAgent s t → SameEnd SameButAgent (perform o s) (perform o t)) ∧
    ((∀ s, ∃ es, (endState (perform .clearPassphrase s)).events = s.events ++ es ∧
        (∀ e ∈ es, ∃ arguments, e = .agent arguments) ∧
        (endState (perform .clearPassphrase s)).session.factory = s.session.factory) ∧
      ∀ s t, SameButKey s t →
        SameEnd SameButKey (perform .clearPassphrase s) (perform .clearPassphrase t)) ∧
    (∀ s, ∃ r u cs, connect s = ended r u ∧ (cs = [] ∨ cs = [.connect]) ∧
      u.events = s.events ++ cs ∧
      match r with
      | .error f => perform .openVolume s = .error f u
      | .ok _ => Adds Event.isAttempt u (endState (perform .openVolume s))) ∧
    (¬ ∀ s t, SameButAgent s t →
      SameEnd SameButAgent (perform .openVolume s) (perform .openVolume t)) ∧
    ¬ ∀ s t, SameButKey s t →
      SameEnd SameButKey (perform .openVolume s) (perform .openVolume t) :=
  ⟨fun _ ho => perform_without_agent ho, clearPassphrase_without_key,
    openVolume_after_connect, openVolume_needs_agent, openVolume_needs_key⟩

end Act

end StorageKey
