import StorageKey.Proofs.Configuration
import StorageKey.Proofs.Session.Separation

/-!
# A session that is given the way to reach the key

Such a session needs no setting to show the status or to close the volume. It looks for its
configuration all the same, as the log entry about connecting names the backend, and does not call
the key if there is none. Where it finds one, nothing else rests on it.

* `State.configFault?`: why a session finds no configuration;
* `SameButConfig`: states that differ only in what has to do with the configuration;
* `Act.connect_of_given`: how such a session connects;
* `Act.given_factory_operations`: what the status and the closing of the volume rest on.
-/

namespace StorageKey

/-- Why a session finds no configuration, if it finds none. -/
def State.configFault? (s : State) : Option Failure :=
  match s.configFound with
  | .ok _ => none
  | .error f => some f

namespace State

variable {s : State} {f : Failure}

theorem configFault?_eq_none_iff : s.configFault? = none ↔ ∃ c, s.configFound = .ok c := by
  unfold configFault?
  cases s.configFound <;> simp

theorem configFault?_eq_some_iff : s.configFault? = some f ↔ s.configFound = .error f := by
  unfold configFault?
  cases s.configFound <;> simp

/-- What keeps a session from its configuration is never raised by a backend's code. -/
theorem configFault?_ne_raised (h : s.configFault? = some f) (e : Raised) : f ≠ .raised e := by
  rintro rfl
  have found := configFault?_eq_some_iff.1 h
  unfold configFound at found
  split at found
  · cases found
  · rcases Act.told_eq_error found with ⟨fault, hf⟩ | escapes
    · cases hf
    · rcases escapes with ⟨⟨⟩⟩

end State

/-- States that differ only in what has to do with the configuration: the files, the machine that reads
them, the variables that say where it is, its path, and what the session knows of it. What has been
logged may differ, too. -/
structure SameButConfig (s t : State) : Prop where
  environment : ∀ name, name ∉ World.sourceVariables → s.world.valueOf? name = t.world.valueOf? name
  agent : s.world.agent = t.world.agent
  device : s.world.device = t.world.device
  modules : s.world.modules = t.world.modules
  logging : s.logging = t.logging
  factory : s.session.factory = t.session.factory
  agentProgram : s.session.agentProgram = t.session.agentProgram
  out : s.out = t.out
  events : s.events = t.events

namespace SameButConfig

variable {s t : State}

/-- The configurations that sessions know and what they log may be anything. -/
theorem of_known (h : SameButConfig s t) (c d : Option Config) (e e' : String) :
    SameButConfig { s with session := { s.session with config := c }, err := e }
      { t with session := { t.session with config := d }, err := e' } :=
  ⟨h.environment, h.agent, h.device, h.modules, h.logging, h.factory, h.agentProgram, h.out,
    h.events⟩

theorem symm (h : SameButConfig s t) : SameButConfig t s :=
  ⟨fun name hn => (h.environment name hn).symm, h.agent.symm, h.device.symm, h.modules.symm,
    h.logging.symm, h.factory.symm, h.agentProgram.symm, h.out.symm, h.events.symm⟩

theorem of_events (h : SameButConfig s t) (es : List Event) :
    SameButConfig { s with events := s.events ++ es } { t with events := t.events ++ es } :=
  ⟨h.environment, h.agent, h.device, h.modules, h.logging, h.factory, h.agentProgram, h.out,
    congrArg (· ++ es) h.events⟩

end SameButConfig

theorem sharesKey_sameButConfig : SharesKey SameButConfig where
  logging h := h.logging
  device h := h.device
  printError h _ := h.of_known _ _ _ _
  print h text := ⟨h.environment, h.agent, h.device, h.modules, h.logging, h.factory,
    h.agentProgram, congrArg (· ++ text) h.out, h.events⟩
  emit h e := h.of_events [e]
  setDevice h _ := ⟨h.environment, h.agent, rfl, h.modules, h.logging, h.factory, h.agentProgram,
    h.out, h.events⟩

theorem SameEnd.endState {α : Type} {R : State → State → Prop}
    {x y : EStateM.Result Failure State α} (h : SameEnd R x y) :
    R (StorageKey.endState x) (StorageKey.endState y) := by
  cases x <;> cases y
  · exact h.2
  · exact h.elim
  · exact h.elim
  · exact h.2

namespace Act

variable {s t : State} {a : Attribute}

/-- A session that is given the way to reach the key looks for its configuration first. -/
theorem connect_of_given (ha : s.session.factory = some a) : ∃ err, connect s =
    match s.configFound with
    | .error f => .error f { s with err }
    | .ok c => ended (unlessRaised (a.callError? s.world.device))
        { s.knowing c with events := s.events ++ a.callEvents, err } := by
  cases hc : s.configFound with
  | error f =>
    obtain ⟨err, run⟩ := connect_of_connects (.unconfigured hc)
    rw [List.append_nil] at run
    exact ⟨err, run⟩
  | ok c =>
    have given : factoryOf s c = .ok a := by rw [factoryOf, ha]
    obtain ⟨err, run⟩ := connect_of_connects (.called hc given)
    have known : { s.session with config := some c, factory := some a } =
        { s.session with config := some c } := by rw [← ha]
    rw [known] at run
    exact ⟨err, run⟩

/-- Connecting ends alike in sessions that find their configurations, whatever these are. -/
theorem connect_sameButConfig (h : SameButConfig s t) (ha : s.session.factory = some a)
    (hs : s.configFault? = none) (ht : t.configFault? = none) :
    SameEnd SameButConfig (connect s) (connect t) := by
  obtain ⟨c, hc⟩ := State.configFault?_eq_none_iff.1 hs
  obtain ⟨d, hd⟩ := State.configFault?_eq_none_iff.1 ht
  obtain ⟨err, run⟩ := connect_of_given ha
  obtain ⟨err', run'⟩ := connect_of_given (h.factory.symm.trans ha)
  rw [hc] at run
  rw [hd, ← h.device] at run'
  rw [run, run']
  exact .ended _ ((h.of_known (some c) (some d) err err').of_events a.callEvents)

/-- An operation that connects and goes on with the key alone, and always does something to it. -/
structure UsesKey (o : Operation) (x : Act Unit) : Prop where
  apply : ∀ s, perform o s = (connect >>= fun _ => x) (s.begun o)
  same : Respects SameButConfig x
  acts : ∀ s, s.events.length < (endState (x s)).events.length

theorem lt_length_events_bind {α β : Type} {x : Act α} {f : α → Act β} {r : Except Failure α}
    {u : State} {e : Event} (hx : x s = ended r u) (hu : u.events = s.events ++ [e])
    (hf : ∀ b, Emits (fun _ => true) (f b)) :
    s.events.length < (endState ((x >>= f) s)).events.length := by
  cases r with
  | error g =>
    rw [bind_of_error hx]
    show _ < u.events.length
    rw [hu]
    simp
  | ok b =>
    rw [bind_of_ok hx]
    obtain ⟨es, events, -⟩ := hf b u
    rw [events, hu]
    simp

theorem usesKey_showStatus : UsesKey .showStatus tellStatus where
  apply s := perform_apply .showStatus s
  same := respects_tellStatus sharesKey_sameButConfig
  acts s := lt_length_events_bind (deviceStatus_apply s) rfl fun _ =>
    (emits_log _ _ _).bind fun _ => (emits_ofExcept _ _).bind fun _ _ => .of_events rfl

theorem usesKey_closeVolume : UsesKey .closeVolume closeConnected where
  apply s := perform_apply .closeVolume s
  same := respects_closeConnected sharesKey_sameButConfig
  acts s := lt_length_events_bind (lock_apply s) rfl fun _ => emits_log _ _ _

namespace UsesKey

variable {o : Operation} {x : Act Unit}

/-- Without a configuration the key is not called. -/
theorem perform_of_fault (hx : UsesKey o x) (ha : s.session.factory = some a) {f : Failure}
    (hf : s.configFault? = some f) : ∃ err, perform o s = .error f { s.begun o with err } := by
  obtain ⟨err, run⟩ := connect_of_given (s := s.begun o) ha
  have none : (s.begun o).configFound = .error f := State.configFault?_eq_some_iff.1 hf
  rw [none] at run
  exact ⟨err, (hx.apply s).trans (bind_of_error run)⟩

theorem sameEnd_of_found (hx : UsesKey o x) (h : SameButConfig s t)
    (ha : s.session.factory = some a) (hs : s.configFault? = none) (ht : t.configFault? = none) :
    SameEnd SameButConfig (perform o s) (perform o t) := by
  rw [hx.apply, hx.apply]
  exact EndsAlike.bind (connect_sameButConfig (h.of_events o.opening) ha hs ht)
    fun _ s' t' _ h' => hx.same s' t' h'

/-- A session that finds a configuration does not end like one that finds none: the failure is
another, or the key is called. -/
theorem not_sameEnd (hx : UsesKey o x) (h : SameButConfig s t) (ha : s.session.factory = some a)
    {f : Failure} (hs : s.configFault? = some f) (ht : t.configFault? = none) :
    ¬SameEnd SameButConfig (perform o s) (perform o t) := by
  intro same
  obtain ⟨err, run⟩ := hx.perform_of_fault ha hs
  obtain ⟨c, hc⟩ := State.configFault?_eq_none_iff.1 ht
  obtain ⟨err', call⟩ := connect_of_given (s := t.begun o) (h.factory.symm.trans ha)
  have found : (t.begun o).configFound = .ok c := hc
  rw [found] at call
  rw [run, hx.apply] at same
  -- Calling the key raises an error of the backend's code, or is followed by an event.
  cases he : a.callError? (t.begun o).world.device with
  | some e =>
    rw [he] at call
    rw [bind_of_error call] at same
    exact State.configFault?_ne_raised hs e same.1
  | none =>
    rw [he] at call
    rw [bind_of_ok call] at same
    have events := congrArg List.length same.endState.events
    have more := hx.acts { (t.begun o).knowing c with
      events := (t.begun o).events ++ a.callEvents, err := err' }
    have begun : (s.begun o).events = (t.begun o).events := congrArg (· ++ o.opening) h.events
    simp only [endState, begun, List.length_append] at events more
    omega

theorem sameEnd_iff (hx : UsesKey o x) (h : SameButConfig s t) (ha : s.session.factory = some a) :
    SameEnd SameButConfig (perform o s) (perform o t) ↔ s.configFault? = t.configFault? := by
  have ha' := h.factory.symm.trans ha
  cases hs : s.configFault? with
  | none =>
    cases ht : t.configFault? with
    | none => exact iff_of_true (hx.sameEnd_of_found h ha hs ht) rfl
    | some g =>
      refine iff_of_false (fun same => ?_) nofun
      exact hx.not_sameEnd h.symm ha' ht hs (same.symm fun _ _ k => k.symm)
  | some f =>
    cases ht : t.configFault? with
    | none => exact iff_of_false (hx.not_sameEnd h ha hs ht) nofun
    | some g =>
      obtain ⟨err, run⟩ := hx.perform_of_fault ha hs
      obtain ⟨err', run'⟩ := hx.perform_of_fault ha' ht
      rw [run, run']
      constructor
      · intro same
        rw [same.1]
      · intro hfg
        obtain rfl := Option.some.inj hfg
        exact ⟨rfl, (h.of_events o.opening).of_known _ _ _ _⟩

end UsesKey

/-- Sessions that are given the way to reach the key and differ only in what has to do with the
configuration show the same status, and close the volume alike, just if they find a configuration
both or fail to for the same reason. A session that finds none fails for this reason, and the key is
not called. -/
theorem given_factory_operations {o : Operation} (ho : o = .showStatus ∨ o = .closeVolume)
    (h : SameButConfig s t) (ha : s.session.factory = some a) :
    (∀ f, s.configFault? = some f → ∃ err, perform o s = .error f { s.begun o with err }) ∧
    (SameEnd SameButConfig (perform o s) (perform o t) ↔ s.configFault? = t.configFault?) := by
  obtain ⟨x, hx⟩ : ∃ x, UsesKey o x := by
    rcases ho with rfl | rfl
    · exact ⟨_, usesKey_showStatus⟩
    · exact ⟨_, usesKey_closeVolume⟩
  exact ⟨fun f hf => hx.perform_of_fault ha hf, hx.sameEnd_iff h ha⟩

/-- A session that is given the way to reach the key, with the variable that names a configuration
set or not. -/
def givenSession (path : Option String) : State :=
  { sampleSession with
    world := sampleSession.world.setVariable World.configVariable path
    session := { Session.fresh none with factory := some (.factory true) } }

/-- The variable names a file that is not there, and the status is not shown. -/
theorem showStatus_givenSession :
    SameButConfig (givenSession (some "missing.yaml")) (givenSession none) ∧
      (∃ err, perform .showStatus (givenSession (some "missing.yaml")) =
        .error (.config (.notFound "missing.yaml"))
          { givenSession (some "missing.yaml") with err }) ∧
      ¬SameEnd SameButConfig (perform .showStatus (givenSession (some "missing.yaml")))
        (perform .showStatus (givenSession none)) := by
  have differ : SameButConfig (givenSession (some "missing.yaml")) (givenSession none) := by
    refine ⟨fun name hn => ?_, rfl, rfl, rfl, rfl, rfl, rfl, rfl, rfl⟩
    have other : name ≠ World.configVariable := by
      rintro rfl
      exact hn (by decide)
    exact (World.valueOf?_setVariable_of_ne _ _ other).trans
      (World.valueOf?_setVariable_of_ne _ _ other).symm
  have absent : (givenSession (some "missing.yaml")).configFault? =
      some (.config (.notFound "missing.yaml")) := by rfl
  have usual : (givenSession none).configFault? = none := by rfl
  obtain ⟨fails, alike⟩ := given_factory_operations (.inl rfl) differ (a := .factory true) rfl
  refine ⟨differ, fails _ absent, fun same => ?_⟩
  have same := alike.1 same
  rw [absent, usual] at same
  cases same

end Act

end StorageKey
