import StorageKey.Proofs.Session.Loading

/-!
# What the steps of a session keep

No step prints to the standard output, changes how much is logged, or loses what the session knows;
what is printed besides are log entries. Each action of a session is made of such steps, whatever
the end of the action is.

* `Remembers`: a session knows a configuration;
* `Keeps`, `Act.Discreet`: what an action keeps, and how loud its log entries are;
* `Act.discreet_attemptUnlock`, `Act.discreet_connect`: the parts of operations are discreet.
-/

namespace StorageKey

/-- The state in which an action ends, with a result or a failure. -/
def endState {α : Type} : EStateM.Result Failure State α → State
  | .ok _ t => t
  | .error _ t => t

@[simp] theorem endState_ended {α : Type} (r : Except Failure α) (t : State) :
    endState (ended r t) = t := by
  cases r <;> rfl

/-! ### What is kept -/

/-- The backend of a configuration rests on the modules alone. -/
theorem World.backend_congr {w w' : World} (h : w'.loadModule = w.loadModule) (spec : Option String) :
    w'.backend spec = w.backend spec := by
  simp only [World.backend, h]

/-- A session knows a configuration, and what else it remembers belongs to that configuration. -/
structure Remembers (c : Config) (s : State) : Prop where
  config : s.session.config = some c
  factory : ∀ a, s.session.factory = some a → s.world.backend c.backend = .ok a
  program : ∀ p, s.session.agentProgram = some p → p = c.agentProgram

/-- The second state comes after the first by discreet steps: nothing is printed but log entries up
to a level, and what the session knows is not lost. -/
structure Keeps (level : Level) (s t : State) : Prop where
  out : t.out = s.out
  logging : t.logging = s.logging
  err : ∃ text, t.err = s.err ++ text ∧ (s.logging.shows level = false → text = "")
  modules : t.world.loadModule = s.world.loadModule
  remembers : ∀ c, Remembers c s → Remembers c t

namespace Keeps

variable {level : Level} {s t u : State}

theorem refl (level : Level) (s : State) : Keeps level s s :=
  ⟨rfl, rfl, ⟨"", by simp⟩, rfl, fun _ h => h⟩

theorem trans (h : Keeps level s t) (k : Keeps level t u) : Keeps level s u where
  out := k.out.trans h.out
  logging := k.logging.trans h.logging
  err := by
    obtain ⟨text, ht, hq⟩ := h.err
    obtain ⟨text', ht', hq'⟩ := k.err
    refine ⟨text ++ text', by rw [ht', ht, String.append_assoc], fun quiet => ?_⟩
    rw [hq quiet, hq' (h.logging ▸ quiet), String.append_empty]
  modules := k.modules.trans h.modules
  remembers c hc := k.remembers c (h.remembers c hc)

/-- Entries up to a level that is not shown leave nothing on the standard error output. -/
theorem err_of_quiet (h : Keeps level s t) (quiet : s.logging.shows level = false) :
    t.err = s.err := by
  obtain ⟨text, ht, hq⟩ := h.err
  rw [ht, hq quiet, String.append_empty]

/-- A step that leaves the modules and the session as they are. -/
theorem of_session (ho : t.out = s.out) (hl : t.logging = s.logging) (he : t.err = s.err)
    (hm : t.world.loadModule = s.world.loadModule) (hs : t.session = s.session) : Keeps level s t where
  out := ho
  logging := hl
  err := ⟨"", by simp [he]⟩
  modules := hm
  remembers c hc := by
    refine ⟨hs ▸ hc.config, fun a ha => ?_, fun p hp => hc.program p (hs ▸ hp)⟩
    rw [World.backend_congr hm]
    exact hc.factory a (hs ▸ ha)

end Keeps

namespace Act

variable {α β ε : Type} {level : Level}

/-- An action that keeps what operations rest on, however it ends. -/
def Discreet (level : Level) (x : Act α) : Prop := ∀ s, Keeps level s (endState (x s))

theorem discreet_pure (a : α) : Discreet level (pure a) := Keeps.refl level

theorem discreet_throw (f : Failure) : Discreet level (throw f : Act α) := Keeps.refl level

theorem Discreet.bind {x : Act α} {f : α → Act β} (hx : Discreet level x)
    (hf : ∀ a, Discreet level (f a)) : Discreet level (x >>= f) := by
  intro s
  have first := hx s
  cases h : x s with
  | ok a t =>
    rw [h] at first
    rw [bind_of_ok h]
    exact first.trans (hf a t)
  | error e t =>
    rw [h] at first
    rw [bind_of_error h]
    exact first

theorem Discreet.ite {c : Prop} [Decidable c] {x y : Act α} (hx : Discreet level x)
    (hy : Discreet level y) : Discreet level (if c then x else y) := by
  split
  · exact hx
  · exact hy

theorem discreet_ofExcept (failure : ε → Failure) (r : Except ε α) :
    Discreet level (ofExcept failure r) := by
  cases r with
  | ok a => exact discreet_pure a
  | error e => exact discreet_throw _

theorem discreet_raise? (e : Option Raised) : Discreet level (raise? e) := by
  cases e with
  | none => exact discreet_pure ()
  | some e => exact discreet_throw _

theorem discreet_world : Discreet level world := Keeps.refl level

theorem discreet_emit (e : Event) : Discreet level (emit e) := fun _ =>
  .of_session rfl rfl rfl rfl rfl

/-- Changing the world is discreet if its modules stay. -/
theorem discreet_modifyWorld {f : World → World} (h : ∀ w, (f w).loadModule = w.loadModule) :
    Discreet level (modifyWorld f) := fun s =>
  .of_session rfl rfl rfl (h s.world) rfl

theorem shows_mono {l : Logging} {level level' : Level} (h : level.weight ≤ level'.weight)
    (hs : l.shows level' = false) : l.shows level = false := by
  simp only [Logging.shows, decide_eq_false_iff_not] at hs ⊢
  omega

/-- An entry up to the level is discreet. -/
theorem discreet_log {level' : Level} (h : level'.weight ≤ level.weight) (event : String)
    (c : Context) : Discreet level (log level' event c) := by
  intro s
  cases ht : s.logging.entryText level' (.text event) c with
  | error f =>
    rw [log_of_error ht]
    exact Keeps.refl level s
  | ok text =>
    refine ⟨?_, ?_, ⟨String.ofList text, ?_, fun quiet => ?_⟩, ?_, fun d hd => ?_⟩
    all_goals try rw [log_of_ok ht]
    · rfl
    · rfl
    · rfl
    · rw [Logging.entryText, shows_mono h quiet] at ht
      cases ht
      rfl
    · rfl
    · exact ⟨hd.config, hd.factory, hd.program⟩

/-! ### The parts of operations -/

theorem debug_weight_le (level : Level) : Level.debug.weight ≤ level.weight := by
  cases level <;> decide

theorem discreet_debug (event : String) (c : Context) : Discreet level (log .debug event c) :=
  discreet_log (debug_weight_le level) event c

theorem discreet_readConfig (path : String) : Discreet level (readConfig path) := by
  refine (discreet_debug _ _).bind fun _ => discreet_world.bind fun w => ?_
  refine (discreet_ofExcept _ _).bind fun es => (discreet_ofExcept _ _).bind fun config => ?_
  exact (discreet_debug _ _).bind fun _ => discreet_pure config

theorem discreet_loadConfig (given : Option Path) : Discreet level (loadConfig given) := by
  refine discreet_world.bind fun w => (discreet_ofExcept _ _).bind fun source => ?_
  refine discreet_world.bind fun w' => (discreet_ofExcept _ _).bind fun found => ?_
  refine .ite (discreet_readConfig _) (.ite (discreet_throw _) ?_)
  exact (discreet_debug _ _).bind fun _ => discreet_pure _

theorem discreet_loadBackend (spec : Option String) : Discreet level (loadBackend spec) := by
  unfold loadBackend
  refine .ite (discreet_throw _) ?_
  split
  · exact discreet_throw _
  · refine (discreet_debug _ _).bind fun _ => .ite (discreet_throw _) ?_
    refine discreet_world.bind fun w => ?_
    split
    · exact discreet_throw _
    · split
      · exact discreet_throw _
      · exact discreet_throw _
      · exact .ite (discreet_pure _) (discreet_throw _)

theorem discreet_callFactory (a : Attribute) : Discreet level (callFactory a) := by
  intro s
  rw [callFactory_apply, endState_ended]
  exact .of_session rfl rfl rfl rfl rfl

theorem discreet_deviceStatus : Discreet level deviceStatus :=
  (discreet_emit _).bind fun _ => discreet_world.bind fun _ => (discreet_raise? _).bind fun _ =>
    discreet_ofExcept _ _

theorem discreet_unlock (passphrase : String) : Discreet level (unlock passphrase) := by
  intro s
  rw [unlock_apply, endState_ended]
  exact .of_session rfl rfl rfl rfl rfl

theorem discreet_tryUnlock (passphrase : String) : Discreet level (tryUnlock passphrase) := by
  intro s
  have kept : Keeps level s (endState (unlock passphrase s)) := discreet_unlock _ s
  unfold tryUnlock
  cases h : unlock passphrase s with
  | ok _ t =>
    rw [h] at kept
    exact kept
  | error f t =>
    rw [h] at kept
    simp only
    split <;> exact kept

theorem discreet_lock : Discreet level lock :=
  (discreet_emit _).bind fun _ => discreet_world.bind fun _ => (discreet_raise? _).bind fun _ =>
    discreet_modifyWorld fun _ => rfl

theorem discreet_askAgent (program verb arguments : String) :
    Discreet level (askAgent program verb arguments) := by
  refine (discreet_debug _ _).bind fun _ => Discreet.bind ?_ fun _ => ?_
  · intro s
    rw [startAgent_apply]
    split <;> exact Keeps.refl level s
  · refine (discreet_emit _).bind fun _ => discreet_world.bind fun w => ?_
    have asked : Discreet level (modifyWorld fun w' => { w' with agent := w.agent.next.2 }) :=
      discreet_modifyWorld fun _ => rfl
    exact asked.bind fun _ => discreet_ofExcept _ _

theorem discreet_inquirePassphrase (program : String) :
    Discreet level (inquirePassphrase program) :=
  (discreet_askAgent _ _ _).bind fun _ => (discreet_ofExcept _ _).bind fun _ => discreet_pure _

end Act

/-! ### What the session remembers -/

theorem Remembers.agentOf_eq {c : Config} {s : State} (h : Remembers c s) :
    Act.agentOf s c = c.agentProgram := by
  unfold Act.agentOf
  cases ha : s.session.agentProgram with
  | none => rfl
  | some p => exact h.program p ha

/-- A session knows one configuration. -/
theorem Remembers.eq {c d : Config} {s : State} (h : Remembers d s)
    (hc : s.session.config = some c) : d = c :=
  Option.some.inj (h.config.symm.trans hc)

namespace Act

variable {α : Type} {level : Level}

theorem discreet_sessionConfig : Discreet level sessionConfig := by
  intro s
  cases hc : s.session.config with
  | some c =>
    rw [sessionConfig_of_some hc]
    exact Keeps.refl level s
  | none =>
    rw [sessionConfig_of_none hc]
    have kept : Keeps level s (endState (loadConfig s.session.configPath s)) :=
      discreet_loadConfig _ s
    cases h : loadConfig s.session.configPath s with
    | error f t =>
      rw [h] at kept
      rw [bind_of_error h]
      exact kept
    | ok c t =>
      rw [h] at kept
      rw [bind_of_ok h]
      -- Nothing is lost, as nothing was known.
      refine ⟨kept.out, kept.logging, kept.err, kept.modules, fun d hd => ?_⟩
      have known := hd.config
      rw [hc] at known
      cases known

/-- The agent program of the configuration belongs to it. -/
theorem keeps_agentProgram {s : State} {c : Config} (h : s.session.config = some c) :
    Keeps level s
      { s with session := { s.session with agentProgram := some (agentOf s c) } } where
  out := rfl
  logging := rfl
  err := ⟨"", by simp⟩
  modules := rfl
  remembers d hd := by
    obtain rfl := hd.eq h
    refine ⟨hd.config, hd.factory, fun p hp => ?_⟩
    rw [hd.agentOf_eq] at hp
    exact (Option.some.inj hp).symm

/-- The backend of the configuration belongs to it. -/
theorem keeps_factory {s : State} {c : Config} (h : s.session.config = some c) {a : Attribute}
    (ha : s.world.backend c.backend = .ok a) :
    Keeps level s { s with session := { s.session with factory := some a } } where
  out := rfl
  logging := rfl
  err := ⟨"", by simp⟩
  modules := rfl
  remembers d hd := by
    obtain rfl := hd.eq h
    refine ⟨hd.config, fun b hb => ?_, hd.program⟩
    cases hb
    exact ha

/-- An action that is discreet once the configuration is known is so after finding it. -/
theorem discreet_of_config {x : Act α}
    (h : ∀ s c, s.session.config = some c → Keeps level s (endState (x s))) :
    Discreet level (sessionConfig >>= fun _ => x) := by
  intro s
  have kept : Keeps level s (endState (sessionConfig s)) := discreet_sessionConfig s
  cases hc : sessionConfig s with
  | error f t =>
    rw [hc] at kept
    rw [bind_of_error hc]
    exact kept
  | ok c t =>
    rw [hc] at kept
    rw [bind_of_ok hc]
    exact kept.trans (h t c (config_of_sessionConfig hc))

theorem discreet_sessionAgent : Discreet level sessionAgent := by
  intro s
  cases ha : s.session.agentProgram with
  | some a =>
    rw [sessionAgent_of_some ha]
    exact Keeps.refl level s
  | none =>
    rw [sessionAgent_of_none ha]
    refine discreet_of_config (fun t c hc => ?_) s
    rw [sessionAgent_apply hc]
    exact keeps_agentProgram hc

theorem discreet_sessionFactory : Discreet level sessionFactory := by
  intro s
  cases ha : s.session.factory with
  | some a =>
    rw [sessionFactory_of_some ha]
    exact Keeps.refl level s
  | none =>
    rw [sessionFactory_of_none ha]
    refine discreet_of_config (fun t c hc => ?_) s
    cases hf : t.session.factory with
    | some a =>
      rw [sessionFactory_of_some hf]
      exact Keeps.refl level t
    | none =>
      have kept : Keeps level t (endState (loadBackend c.backend t)) := discreet_loadBackend _ t
      obtain ⟨u, hu, hp⟩ := loadBackend_apply c.backend t
      have hr := hp.reaches
      rw [hu, endState_ended] at kept
      rw [sessionFactory_of_unknown hf, bind_of_ok (sessionConfig_of_some hc)]
      cases hb : t.world.backend c.backend with
      | error f =>
        rw [hb] at hu
        rw [bind_of_error hu]
        exact kept
      | ok a =>
        rw [hb] at hu
        rw [bind_of_ok hu]
        exact kept.trans (keeps_factory (hr.config.trans hc) (hr.world ▸ hb))

theorem discreet_connect : Discreet level connect :=
  discreet_sessionFactory.bind fun _ => discreet_sessionConfig.bind fun _ =>
    (discreet_debug _ _).bind fun _ => discreet_callFactory _

section

variable (h : Level.info.weight ≤ level.weight)
include h

theorem discreet_clearPassphrase (program : String) : Discreet level (clearPassphrase program) :=
  (discreet_askAgent _ _ _).bind fun _ => (discreet_ofExcept _ _).bind fun _ => discreet_log h _ _

/-- An attempt to open the volume is discreet if what follows a rejection is. -/
theorem discreet_attemptUnlock {onRejection : Failure → Act Unit}
    (hr : ∀ f, Discreet level (onRejection f)) : Discreet level (attemptUnlock onRejection) := by
  refine discreet_sessionAgent.bind fun agent => (discreet_inquirePassphrase _).bind fun p => ?_
  refine (discreet_tryUnlock p).bind fun outcome => ?_
  cases outcome with
  | none => exact discreet_log h _ _
  | some rejection =>
    exact discreet_sessionAgent.bind fun _ => (discreet_clearPassphrase h _).bind fun _ =>
      hr rejection

end

/-! ### Operations -/

/-- The text of the status that the key answers. -/
def readStatus : Act (List Char) := do
  connect
  let status ← deviceStatus
  log .debug "status_received" [("_verbose_status", .map status.context)]
  ofExcept .integer status.text

theorem showStatus_eq : showStatus = readStatus >>= fun text => print (String.ofList text) := by
  simp only [showStatus, readStatus, bind_assoc]

theorem discreet_readStatus : Discreet level readStatus :=
  discreet_connect.bind fun _ => discreet_deviceStatus.bind fun _ =>
    (discreet_debug _ _).bind fun _ => discreet_ofExcept _ _

theorem discreet_unlockAttempts (h : Level.warning.weight ≤ level.weight) (more : Nat) :
    Discreet level (unlockAttempts more) := by
  have info : Level.info.weight ≤ level.weight := Nat.le_trans (by decide) h
  induction more with
  | zero => exact discreet_attemptUnlock info fun f => discreet_throw f
  | succ more ih => exact discreet_attemptUnlock info fun f => (discreet_log h _ _).bind fun _ => ih

/-- All operations but showing the status print nothing but log entries, and warnings only if the
volume is opened. -/
theorem discreet_proceed (h : Level.info.weight ≤ level.weight) {o : Operation}
    (ho : o ≠ .showStatus) (hw : o = .openVolume → Level.warning.weight ≤ level.weight) :
    Discreet level (proceed o) := by
  cases o with
  | showStatus => contradiction
  | openVolume =>
    exact discreet_connect.bind fun _ => discreet_sessionConfig.bind fun _ =>
      discreet_unlockAttempts (hw rfl) _
  | closeVolume =>
    exact discreet_connect.bind fun _ => discreet_lock.bind fun _ => discreet_log h _ _
  | clearPassphrase =>
    exact discreet_sessionAgent.bind fun _ => discreet_clearPassphrase h _

/-- An operation does not lose what the session knows. -/
theorem remembers_proceed {c : Config} {s : State} (h : Remembers c s) (o : Operation) :
    Remembers c (endState (proceed o s)) := by
  by_cases ho : o = .showStatus
  · subst ho
    have kept : Keeps .debug s (endState (readStatus s)) := discreet_readStatus s
    show Remembers c (endState (showStatus s))
    rw [showStatus_eq]
    cases hs : readStatus s with
    | error f t =>
      rw [hs] at kept
      rw [bind_of_error hs]
      exact kept.remembers c h
    | ok text t =>
      rw [hs] at kept
      rw [bind_of_ok hs]
      have known := kept.remembers c h
      exact ⟨known.config, known.factory, known.program⟩
  · have kept : Keeps .warning s (endState (proceed o s)) :=
      discreet_proceed (by decide) ho (fun _ => Nat.le_refl _) s
    exact kept.remembers c h

theorem remembers_perform {c : Config} {s : State} (h : Remembers c s) (o : Operation) :
    Remembers c (endState (perform o s)) := by
  have begun : Remembers c (s.begun o) := ⟨h.config, h.factory, h.program⟩
  rw [perform_apply]
  exact remembers_proceed begun o

end Act

end StorageKey
