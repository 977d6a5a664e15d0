import StorageKey.Proofs.Session.Frame

/-!
# Connecting to the key

A session connects in three steps: it finds its configuration, then the way to reach the key, and
calls it. The first step that fails ends the connecting, and what the earlier ones have found is
remembered.

* `State.configFound`, `Act.sessionConfig_apply`: the configuration of a session;
* `Act.sessionFactory_apply`: the way to reach the key;
* `Connects`, `Act.connect_cases`, `Act.connect_of_connects`: how connecting ends, what the session
  knows then, and the events.
-/

namespace StorageKey

/-- The configuration that a session finds: the one that it knows, or the one of the world, if it
can be told. -/
def State.configFound (s : State) : Except Failure Config :=
  match s.session.config with
  | some c => .ok c
  | none => s.logging.told (s.world.config s.session.configPath)

/-- The state after the configuration of a session is found, but for what is printed. -/
def State.knowing (s : State) (c : Config) : State :=
  { s with session := { s.session with config := some c } }

/-- How connecting ends, what the session knows then, and the events of it. -/
inductive Connects (s : State) : Except Failure Unit → Session → List Event → Prop
  /-- There is no configuration. -/
  | unconfigured {f : Failure} (hc : s.configFound = .error f) :
      Connects s (.error f) s.session []
  /-- The configuration names no way to reach the key. -/
  | unreached {c : Config} {f : Failure} (hc : s.configFound = .ok c)
      (hf : Act.factoryOf s c = .error f) :
      Connects s (.error f) { s.session with config := some c } []
  /-- The key is called. -/
  | called {c : Config} {a : Attribute} (hc : s.configFound = .ok c)
      (hf : Act.factoryOf s c = .ok a) :
      Connects s (unlessRaised (a.callError? s.world.device))
        { s.session with config := some c, factory := some a } a.callEvents

/-- The key is called once, if this is an event at all. -/
theorem Attribute.callEvents_cases (a : Attribute) :
    a.callEvents = [] ∨ a.callEvents = [.connect] := by
  rcases a with (_ | _) | _ | _
  · exact .inl rfl
  · exact .inr rfl
  · exact .inl rfl
  · exact .inl rfl

theorem Connects.events_cases {s : State} {r : Except Failure Unit} {k : Session}
    {es : List Event} (h : Connects s r k es) : es = [] ∨ es = [.connect] := by
  cases h with
  | unconfigured => exact .inl rfl
  | unreached => exact .inl rfl
  | called => exact Attribute.callEvents_cases _

/-- There is only one way in which connecting ends. -/
theorem Connects.unique {s : State} {r r' : Except Failure Unit} {k k' : Session}
    {es es' : List Event} (h : Connects s r k es) (h' : Connects s r' k' es') :
    r = r' ∧ k = k' ∧ es = es' := by
  cases h <;> cases h' <;> simp_all

/-- A session that is connected knows its configuration. -/
theorem Connects.exists_config {s : State} {r : Except Failure Unit} {k : Session}
    {es : List Event} (h : Connects s r k es) (hr : r = .ok ()) : ∃ c, k.config = some c := by
  cases h with
  | unconfigured => cases hr
  | unreached => cases hr
  | @called c _ _ _ => exact ⟨c, rfl⟩

namespace Act

variable {s : State} {c : Config}

/-- A session finds its configuration and remembers it. -/
theorem sessionConfig_apply (s : State) : ∃ err, sessionConfig s =
    match s.configFound with
    | .ok c => .ok c { s.knowing c with err }
    | .error f => .error f { s with err } := by
  unfold State.configFound State.knowing
  cases hc : s.session.config with
  | some c =>
    refine ⟨s.err, (sessionConfig_of_some hc).trans ?_⟩
    obtain ⟨world, logging, ⟨path, config, factory, program⟩, out, err, events⟩ := s
    cases hc
    rfl
  | none =>
    obtain ⟨u, hu, err, rfl⟩ := loadConfig_apply s.session.configPath s
    refine ⟨err, ?_⟩
    rw [sessionConfig_of_none hc]
    cases ht : s.logging.told (s.world.config s.session.configPath) with
    | error f =>
      rw [ht] at hu
      exact bind_of_error hu
    | ok c =>
      rw [ht] at hu
      exact bind_of_ok hu

/-- A session that knows its configuration finds the way to reach the key and remembers it. -/
theorem sessionFactory_apply (hc : s.session.config = some c) : ∃ err, sessionFactory s =
    match factoryOf s c with
    | .ok a => .ok a { s with session := { s.session with factory := some a }, err }
    | .error f => .error f { s with err } := by
  unfold factoryOf
  cases hf : s.session.factory with
  | some a =>
    refine ⟨s.err, (sessionFactory_of_some hf).trans ?_⟩
    obtain ⟨world, logging, ⟨path, config, factory, program⟩, out, err, events⟩ := s
    cases hf
    rfl
  | none =>
    obtain ⟨u, hu, err, rfl⟩ := loadBackend_apply c.backend s
    refine ⟨err, ?_⟩
    rw [sessionFactory_of_unknown hf, bind_of_ok (sessionConfig_of_some hc)]
    simp only
    cases hb : s.world.backend c.backend with
    | error f =>
      rw [hb] at hu
      exact bind_of_error hu
    | ok a =>
      rw [hb] at hu
      exact bind_of_ok hu

theorem configFound_of_sessionConfig {t : State} (h : sessionConfig s = .ok c t) :
    s.configFound = .ok c := by
  obtain ⟨err, found⟩ := sessionConfig_apply s
  rw [h] at found
  cases hc : s.configFound with
  | error f =>
    rw [hc] at found
    cases found
  | ok d =>
    rw [hc] at found
    cases found
    rfl

/-- Connecting to a key that the session knows how to reach. -/
theorem call_apply (a : Attribute) (hc : s.session.config = some c) : ∃ err,
    (sessionConfig >>= fun d => log .debug "connecting_device" [("backend", backendDatum d)] >>=
      fun _ => callFactory a) s = ended (unlessRaised (a.callError? s.world.device))
        { s with events := s.events ++ a.callEvents, err } := by
  have writable : Context.Writable [("backend", backendDatum c)] :=
    Context.writable_nil.cons _ (isWritable_backendDatum c)
  obtain ⟨t, ht, err, rfl⟩ :=
    log_onlyPrints (by decide +kernel : Showable .debug "connecting_device") writable s
  refine ⟨err, (bind_of_ok (sessionConfig_of_some hc)).trans ((bind_of_ok ht).trans ?_)⟩
  rw [callFactory_apply]

theorem connect_of_factory {a : Attribute} (ha : s.session.factory = some a) :
    connect s = (sessionConfig >>= fun d =>
      log .debug "connecting_device" [("backend", backendDatum d)] >>= fun _ => callFactory a) s :=
  bind_of_ok (sessionFactory_of_some ha)

/-- Connecting ends in one of three ways, and does nothing else. -/
theorem connect_cases (s : State) : ∃ r k es err, Connects s r k es ∧
    connect s = ended r { s with session := k, events := s.events ++ es, err } := by
  obtain ⟨err, found⟩ := sessionConfig_apply s
  have silent : s.events ++ [] = s.events := List.append_nil _
  cases hc : s.configFound with
  | error f =>
    rw [hc] at found
    refine ⟨.error f, s.session, [], err, .unconfigured hc, ?_⟩
    rw [silent]
    -- Whether or not the way to reach the key is known, the configuration is looked for next.
    cases hf : s.session.factory with
    | some a => exact (connect_of_factory hf).trans (bind_of_error found)
    | none =>
      refine bind_of_error ?_
      rw [sessionFactory_of_unknown hf]
      exact bind_of_error found
  | ok c =>
    rw [hc] at found
    rw [connect_of_sessionConfig found]
    have same : factoryOf { s.knowing c with err } c = factoryOf s c := rfl
    obtain ⟨err', look⟩ := sessionFactory_apply (s := { s.knowing c with err }) (c := c) rfl
    rw [same] at look
    cases hf : factoryOf s c with
    | error f =>
      rw [hf] at look
      refine ⟨.error f, _, [], err', .unreached hc hf, ?_⟩
      rw [silent]
      exact bind_of_error look
    | ok a =>
      rw [hf] at look
      obtain ⟨err'', run⟩ := call_apply (s := { s.knowing c with
        err := err', session := { (s.knowing c).session with factory := some a } }) a rfl
      exact ⟨_, _, _, err'', .called hc hf, (bind_of_ok look).trans run⟩

/-- Connecting ends in the way that is told. -/
theorem connect_of_connects {r : Except Failure Unit} {k : Session} {es : List Event}
    (h : Connects s r k es) : ∃ err,
      connect s = ended r { s with session := k, events := s.events ++ es, err } := by
  obtain ⟨r', k', es', err, h', run⟩ := connect_cases s
  obtain ⟨rfl, rfl, rfl⟩ := h.unique h'
  exact ⟨err, run⟩

end Act

end StorageKey
