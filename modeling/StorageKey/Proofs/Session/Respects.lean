import StorageKey.Proofs.Session.Alike

/-!
# Differences that a session does not see

Two states may differ in ways that a session does not see while it finds its configuration and
connects: in what is not read there, as the answers of the agent program. Whatever such a difference
is, the session does the same in both states, up to what is logged, and the difference stays.

* `Act.Respects`: actions that end alike in related states, in related states;
* `Unseen`, `SharesKey`, `Unread`: relations between states that a session does not see while it
  connects, while it uses the key, and at all;
* `Act.respects_connect`, `Act.respects_showStatus`, `Act.respects_perform`: the actions of a
  session.
-/

namespace StorageKey

/-- Related states are read alike while a session connects, and what it does there keeps them
related. -/
structure Unseen (R : State → State → Prop) : Prop where
  logging : ∀ {s t}, R s t → s.logging = t.logging
  files : ∀ {s t}, R s t → s.world.files = t.world.files
  environment : ∀ {s t}, R s t → s.world.environment = t.world.environment
  modules : ∀ {s t}, R s t → s.world.modules = t.world.modules
  host : ∀ {s t}, R s t → s.world.host = t.world.host
  connectError : ∀ {s t}, R s t → s.world.device.connectError = t.world.device.connectError
  config : ∀ {s t}, R s t → s.session.config = t.session.config
  factory : ∀ {s t}, R s t → s.session.factory = t.session.factory
  agentProgram : ∀ {s t}, R s t → s.session.agentProgram = t.session.agentProgram
  configPath : ∀ {s t}, R s t → s.session.config = none →
    s.session.configPath = t.session.configPath
  printError : ∀ {s t}, R s t → ∀ text, R { s with err := s.err ++ text }
    { t with err := t.err ++ text }
  emit : ∀ {s t}, R s t → ∀ e, R { s with events := s.events ++ [e] }
    { t with events := t.events ++ [e] }
  setConfig : ∀ {s t}, R s t → ∀ c, R { s with session := { s.session with config := some c } }
    { t with session := { t.session with config := some c } }
  setFactory : ∀ {s t}, R s t → ∀ a, R { s with session := { s.session with factory := some a } }
    { t with session := { t.session with factory := some a } }
  setAgentProgram : ∀ {s t}, R s t → ∀ p,
    R { s with session := { s.session with agentProgram := some p } }
      { t with session := { t.session with agentProgram := some p } }

/-- Where a configuration is found rests on the variables and the machine alone. -/
theorem World.configSource_congr {w w' : World} (h : w.environment = w'.environment)
    (hh : w.host = w'.host) (given : Option Path) :
    w.configSource given = w'.configSource given := by
  simp only [configSource, ownConfigPath, configHome, home, setVariable?, valueOf?, h, hh]

/-- What a file says rests on the files and the machine alone. -/
theorem World.entriesAt_congr {w w' : World} (hf : w.files = w'.files) (hh : w.host = w'.host)
    (path : String) : w.entriesAt path = w'.entriesAt path := by
  simp only [entriesAt, documentAt, loadDocument, hf, hh]

/-- What becomes of a module rests on the modules and the machine alone. -/
theorem World.loadModule_congr {w w' : World} (hm : w.modules = w'.modules) (hh : w.host = w'.host) :
    w.loadModule = w'.loadModule := by
  funext name
  simp only [loadModule, hm, hh]

/-- Whether the agent program can be started rests on the files and the variables alone. -/
theorem World.startFault?_congr {w w' : World} (hf : w.files = w'.files)
    (he : w.environment = w'.environment) (program : String) :
    w.startFault? program = w'.startFault? program := by
  simp only [startFault?, locate, candidates, valueOf?, hf, he]

namespace Act

variable {α β ε : Type} {R : State → State → Prop}

/-- An action that ends alike in related states, in related states. -/
def Respects (R : State → State → Prop) (x : Act α) : Prop :=
  ∀ s t, R s t → SameEnd R (x s) (x t)

theorem respects_pure (a : α) : Respects R (pure a) := fun _ _ h => ⟨rfl, h⟩

theorem respects_throw (f : Failure) : Respects R (throw f : Act α) := fun _ _ h => ⟨rfl, h⟩

theorem Respects.bind {x : Act α} {f : α → Act β} (hx : Respects R x)
    (hf : ∀ a, Respects R (f a)) : Respects R (x >>= f) := fun s t h =>
  EndsAlike.bind (hx s t h) fun a s' t' _ h' => hf a s' t' h'

theorem Respects.ite {c : Prop} [Decidable c] {x y : Act α} (hx : Respects R x)
    (hy : Respects R y) : Respects R (if c then x else y) := by
  split
  · exact hx
  · exact hy

theorem respects_ofExcept (failure : ε → Failure) (r : Except ε α) :
    Respects R (ofExcept failure r) := by
  cases r with
  | ok a => exact respects_pure a
  | error e => exact respects_throw _

theorem respects_raise? (e : Option Raised) : Respects R (raise? e) := by
  cases e with
  | none => exact respects_pure ()
  | some e => exact respects_throw _

/-- What follows a look at the world, if it looks only at what is the same in related states. -/
theorem respects_world {f : World → Act α} (hf : ∀ w, Respects R (f w))
    (same : ∀ s t, R s t → f s.world = f t.world) : Respects R (world >>= f) := by
  intro s t h
  rw [bind_of_ok (world_apply s), bind_of_ok (world_apply t), ← same s t h]
  exact hf s.world s t h

/-- What is logged makes no difference where the logging is the same. -/
theorem respects_log_of (hl : ∀ {s t}, R s t → s.logging = t.logging)
    (hp : ∀ {s t}, R s t → ∀ text, R { s with err := s.err ++ text } { t with err := t.err ++ text })
    (level : Level) (event : String) (c : Context) : Respects R (log level event c) := by
  intro s t k
  rw [log_eq, log_eq, hl k]
  refine ((respects_ofExcept _ _).bind fun text => ?_) s t k
  exact fun _ _ k => ⟨rfl, hp k _⟩

section

variable (h : Unseen R)
include h

theorem respects_emit (e : Event) : Respects R (emit e) := fun _ _ k => ⟨rfl, h.emit k e⟩

theorem respects_log (level : Level) (event : String) (c : Context) :
    Respects R (log level event c) :=
  respects_log_of h.logging h.printError level event c

/-! ### The configuration -/

theorem respects_readConfig (path : String) : Respects R (readConfig path) := by
  refine (respects_log h _ _ _).bind fun _ => respects_world (fun w => ?_) fun s t k => ?_
  · refine (respects_ofExcept _ _).bind fun es => (respects_ofExcept _ _).bind fun c => ?_
    exact (respects_log h _ _ _).bind fun _ => respects_pure c
  · simp only [World.entriesAt_congr (h.files k) (h.host k)]

theorem respects_loadConfig (given : Option Path) : Respects R (loadConfig given) := by
  refine respects_world (fun w => (respects_ofExcept _ _).bind fun source => ?_) fun s t k => ?_
  · refine respects_world (fun w' => (respects_ofExcept _ _).bind fun found => ?_) fun s t k => ?_
    · refine .ite (respects_readConfig h _) (.ite (respects_throw _) ?_)
      exact (respects_log h _ _ _).bind fun _ => respects_pure _
    · simp only [h.files k]
  · simp only [World.configSource_congr (h.environment k) (h.host k)]

theorem respects_sessionConfig : Respects R sessionConfig := by
  intro s t k
  cases hc : s.session.config with
  | some c =>
    rw [sessionConfig_of_some hc, sessionConfig_of_some ((h.config k).symm.trans hc)]
    exact ⟨rfl, k⟩
  | none =>
    rw [sessionConfig_of_none hc, sessionConfig_of_none ((h.config k).symm.trans hc),
      ← h.configPath k hc]
    refine ((respects_loadConfig h _).bind fun c => ?_) s t k
    exact fun s t k => ⟨rfl, h.setConfig k c⟩

theorem respects_sessionAgent : Respects R sessionAgent := by
  intro s t k
  cases ha : s.session.agentProgram with
  | some a =>
    rw [sessionAgent_of_some ha, sessionAgent_of_some ((h.agentProgram k).symm.trans ha)]
    exact ⟨rfl, k⟩
  | none =>
    rw [sessionAgent_of_unknown ha, sessionAgent_of_unknown ((h.agentProgram k).symm.trans ha)]
    refine ((respects_sessionConfig h).bind fun c => ?_) s t k
    exact fun s t k => ⟨rfl, h.setAgentProgram k _⟩

/-! ### The key -/

theorem respects_loadBackend (spec : Option String) : Respects R (loadBackend spec) := by
  unfold loadBackend
  refine .ite (respects_throw _) ?_
  split
  · exact respects_throw _
  · refine (respects_log h _ _ _).bind fun _ => .ite (respects_throw _) ?_
    refine respects_world (fun w => ?_) fun s t k => by
      simp only [World.loadModule_congr (h.modules k) (h.host k)]
    split
    · exact respects_throw _
    · split
      · exact respects_throw _
      · exact respects_throw _
      · exact .ite (respects_pure _) (respects_throw _)

theorem respects_sessionFactory : Respects R sessionFactory := by
  intro s t k
  cases ha : s.session.factory with
  | some a =>
    rw [sessionFactory_of_some ha, sessionFactory_of_some ((h.factory k).symm.trans ha)]
    exact ⟨rfl, k⟩
  | none =>
    rw [sessionFactory_of_unknown ha, sessionFactory_of_unknown ((h.factory k).symm.trans ha)]
    refine ((respects_sessionConfig h).bind fun _ => (respects_loadBackend h _).bind fun a => ?_)
      s t k
    exact fun s t k => ⟨rfl, h.setFactory k a⟩

theorem respects_callFactory (a : Attribute) : Respects R (callFactory a) := by
  rcases a with (_ | _) | e | _
  · exact respects_pure ()
  · refine (respects_emit h _).bind fun _ => respects_world (fun w => respects_raise? _) ?_
    intro s t k
    simp only [h.connectError k]
  · exact respects_throw _
  · exact respects_throw _

theorem respects_connect : Respects R connect :=
  (respects_sessionFactory h).bind fun a => (respects_sessionConfig h).bind fun _ =>
    (respects_log h _ _ _).bind fun _ => respects_callFactory h a

/-! ### The agent program -/

theorem respects_startAgent (program : String) : Respects R (startAgent program) := by
  intro s t k
  rw [startAgent_apply, startAgent_apply, World.startFault?_congr (h.files k) (h.environment k)]
  cases t.world.startFault? program with
  | none => exact ⟨rfl, k⟩
  | some f => exact ⟨rfl, k⟩

end

end Act

/-- Related states have the same key, and what is done with it keeps them related. -/
structure SharesKey (R : State → State → Prop) : Prop where
  logging : ∀ {s t}, R s t → s.logging = t.logging
  device : ∀ {s t}, R s t → s.world.device = t.world.device
  printError : ∀ {s t}, R s t → ∀ text, R { s with err := s.err ++ text }
    { t with err := t.err ++ text }
  print : ∀ {s t}, R s t → ∀ text, R { s with out := s.out ++ text } { t with out := t.out ++ text }
  emit : ∀ {s t}, R s t → ∀ e, R { s with events := s.events ++ [e] }
    { t with events := t.events ++ [e] }
  setDevice : ∀ {s t}, R s t → ∀ d, R { s with world := { s.world with device := d } }
    { t with world := { t.world with device := d } }

namespace Act

/-- What is done with the status of a key that is connected. -/
def tellStatus : Act Unit := do
  let status ← deviceStatus
  log .debug "status_received" [("_verbose_status", .map status.context)]
  print (String.ofList (← ofExcept .integer status.text))

/-- The closing of a volume whose key is connected. -/
def closeConnected : Act Unit := do
  lock
  log .info "volume_closed" []

/-! ### A connected key -/

section

variable {R : State → State → Prop} (h : SharesKey R)
include h

theorem respects_deviceStatus : Respects R deviceStatus := by
  refine Respects.bind (fun _ _ k => ⟨rfl, h.emit k _⟩) fun _ => ?_
  refine respects_world (fun w => ?_) fun s t k => by simp only [h.device k]
  exact (respects_raise? _).bind fun _ => respects_ofExcept _ _

theorem respects_lock : Respects R lock := by
  refine Respects.bind (fun _ _ k => ⟨rfl, h.emit k _⟩) fun _ => ?_
  refine respects_world (fun w => ?_) fun s t k => by simp only [h.device k]
  refine (respects_raise? _).bind fun _ s t k => ?_
  rw [modifyWorld_apply, modifyWorld_apply, h.device k]
  exact ⟨rfl, h.setDevice k _⟩

theorem respects_tellStatus : Respects R tellStatus :=
  (respects_deviceStatus h).bind fun _ =>
    (respects_log_of h.logging h.printError _ _ _).bind fun _ =>
      (respects_ofExcept _ _).bind fun _ _ _ k => ⟨rfl, h.print k _⟩

theorem respects_closeConnected : Respects R closeConnected :=
  (respects_lock h).bind fun _ => respects_log_of h.logging h.printError _ _ _

theorem respects_showStatus (hc : Respects R connect) : Respects R showStatus :=
  hc.bind fun _ => respects_tellStatus h

theorem respects_closeVolume (hc : Respects R connect) : Respects R closeVolume :=
  Respects.bind (fun _ _ k => ⟨rfl, h.emit k _⟩) fun _ => hc.bind fun _ => respects_closeConnected h

end

end Act

/-- Related states have the same world, and nothing that operations do lets them differ more. -/
structure Unread (R : State → State → Prop) : Prop extends Unseen R where
  world : ∀ {s t}, R s t → s.world = t.world
  setWorld : ∀ {s t}, R s t → ∀ w, R { s with world := w } { t with world := w }
  print : ∀ {s t}, R s t → ∀ text, R { s with out := s.out ++ text } { t with out := t.out ++ text }

theorem Unread.sharesKey {R : State → State → Prop} (h : Unread R) : SharesKey R where
  logging := h.logging
  device k := by rw [h.world k]
  printError := h.printError
  print := h.print
  emit := h.emit
  setDevice {s t} k d := by
    rw [← h.world k]
    exact h.setWorld k { s.world with device := d }

namespace Act

variable {α : Type} {R : State → State → Prop}

section

variable (h : Unread R)
include h

theorem respects_sameWorld {f : World → Act α} (hf : ∀ w, Respects R (f w)) :
    Respects R (Act.world >>= f) :=
  respects_world hf fun s t k => by rw [h.world k]

theorem respects_modifyWorld (f : World → World) : Respects R (modifyWorld f) := by
  intro s t k
  rw [modifyWorld_apply, modifyWorld_apply, ← h.world k]
  exact ⟨rfl, h.setWorld k _⟩

theorem respects_askAgent (program verb arguments : String) :
    Respects R (askAgent program verb arguments) := by
  refine (respects_log h.toUnseen _ _ _).bind fun _ => ?_
  refine (respects_startAgent h.toUnseen _).bind fun _ => ?_
  refine (respects_emit h.toUnseen _).bind fun _ => ?_
  refine respects_sameWorld h fun w => ?_
  exact (respects_modifyWorld h fun w' => { w' with agent := w.agent.next.2 }).bind fun _ =>
    respects_ofExcept _ _

theorem respects_inquirePassphrase (program : String) : Respects R (inquirePassphrase program) :=
  (respects_askAgent h _ _ _).bind fun _ => (respects_ofExcept _ _).bind fun _ => respects_pure _

theorem respects_clearPassphrase (program : String) : Respects R (clearPassphrase program) :=
  (respects_askAgent h _ _ _).bind fun _ => (respects_ofExcept _ _).bind fun _ =>
    respects_log h.toUnseen _ _ _

theorem respects_unlock (passphrase : String) : Respects R (unlock passphrase) :=
  (respects_emit h.toUnseen _).bind fun _ => respects_sameWorld h fun _ =>
    (respects_modifyWorld h _).bind fun _ => (respects_raise? _).bind fun _ =>
      (respects_raise? _).bind fun _ => respects_modifyWorld h _

theorem respects_tryUnlock (passphrase : String) : Respects R (tryUnlock passphrase) := by
  intro s t k
  have same := respects_unlock h passphrase s t k
  unfold tryUnlock
  cases hs : unlock passphrase s <;> cases ht : unlock passphrase t <;> rw [hs, ht] at same
  · exact ⟨rfl, same.2⟩
  · exact same.elim
  · exact same.elim
  · obtain ⟨rfl, k⟩ := same
    simp only
    split <;> exact ⟨rfl, k⟩

theorem respects_attemptUnlock {onRejection : Failure → Act Unit}
    (hr : ∀ f, Respects R (onRejection f)) : Respects R (attemptUnlock onRejection) := by
  refine (respects_sessionAgent h.toUnseen).bind fun _ => ?_
  refine (respects_inquirePassphrase h _).bind fun p => ?_
  refine (respects_tryUnlock h p).bind fun outcome => ?_
  cases outcome with
  | none => exact respects_log h.toUnseen _ _ _
  | some rejection =>
    exact (respects_sessionAgent h.toUnseen).bind fun _ =>
      (respects_clearPassphrase h _).bind fun _ => hr rejection

theorem respects_unlockAttempts (more : Nat) : Respects R (unlockAttempts more) := by
  induction more with
  | zero => exact respects_attemptUnlock h fun f => respects_throw f
  | succ more ih =>
    exact respects_attemptUnlock h fun f => (respects_log h.toUnseen _ _ _).bind fun _ => ih

theorem respects_perform (o : Operation) : Respects R (perform o) := by
  have connect := respects_connect h.toUnseen
  cases o with
  | showStatus => exact respects_showStatus h.sharesKey connect
  | openVolume =>
    exact connect.bind fun _ => (respects_sessionConfig h.toUnseen).bind fun _ =>
      respects_unlockAttempts h _
  | closeVolume => exact respects_closeVolume h.sharesKey connect
  | clearPassphrase =>
    exact (respects_sessionAgent h.toUnseen).bind fun _ => respects_clearPassphrase h _

end

end Act

/-! ### The path of a known configuration -/

/-- States that know a configuration and differ at most in the path that it is looked for at. -/
def DifferInPath (s t : State) : Prop :=
  s.session.config ≠ none ∧ ∃ q, t = { s with session := { s.session with configPath := q } }

theorem unread_differInPath : Unread DifferInPath where
  logging h := by obtain ⟨-, q, rfl⟩ := h; rfl
  files h := by obtain ⟨-, q, rfl⟩ := h; rfl
  environment h := by obtain ⟨-, q, rfl⟩ := h; rfl
  modules h := by obtain ⟨-, q, rfl⟩ := h; rfl
  host h := by obtain ⟨-, q, rfl⟩ := h; rfl
  connectError h := by obtain ⟨-, q, rfl⟩ := h; rfl
  config h := by obtain ⟨-, q, rfl⟩ := h; rfl
  factory h := by obtain ⟨-, q, rfl⟩ := h; rfl
  agentProgram h := by obtain ⟨-, q, rfl⟩ := h; rfl
  configPath h hn := absurd hn h.1
  printError h text := by obtain ⟨hk, q, rfl⟩ := h; exact ⟨hk, q, rfl⟩
  emit h e := by obtain ⟨hk, q, rfl⟩ := h; exact ⟨hk, q, rfl⟩
  setConfig h c := by
    obtain ⟨-, q, rfl⟩ := h
    exact ⟨fun hn => (nomatch hn), q, rfl⟩
  setFactory h a := by obtain ⟨hk, q, rfl⟩ := h; exact ⟨hk, q, rfl⟩
  setAgentProgram h p := by obtain ⟨hk, q, rfl⟩ := h; exact ⟨hk, q, rfl⟩
  world h := by obtain ⟨-, q, rfl⟩ := h; rfl
  setWorld h w := by obtain ⟨hk, q, rfl⟩ := h; exact ⟨hk, q, rfl⟩
  print h text := by obtain ⟨hk, q, rfl⟩ := h; exact ⟨hk, q, rfl⟩

end StorageKey
