import StorageKey.Proofs.Log
import StorageKey.Session

/-!
# The steps of a session

Operations are made of a few steps: the agent program is asked, the key is called, an entry is
logged. Each of them is described by how it ends, the events it adds and the world it leaves; what
it prints besides is not followed here.

* `ended`, `Reaches`: how an action ends, and what lies between two states;
* `Act.unlock_apply`, `Act.callFactory_apply`: calls of the key;
* `Act.inquirePassphrase_of_start`, `Act.clearPassphrase_of_start`: requests to the agent program;
* `Act.eq_of_sessionConfig`, `Act.connect_of_ok`: what a session knows when it connects.
-/

namespace StorageKey

/-- The end of an action: a result or a failure, and the state. -/
def ended {α : Type} (r : Except Failure α) (t : State) : EStateM.Result Failure State α :=
  match r with
  | .ok a => .ok a t
  | .error f => .error f t

/-- The second state comes after the first by steps that add the events and leave the world. Nothing
that the next steps rest on has changed. -/
structure Reaches (s t : State) (es : List Event) (w : World) : Prop where
  events : t.events = s.events ++ es
  world : t.world = w
  logging : t.logging = s.logging
  out : t.out = s.out
  config : t.session.config = s.session.config
  program : ∀ c, s.session.config = some c →
    t.session.agentProgram.getD c.agentProgram = s.session.agentProgram.getD c.agentProgram

theorem Reaches.refl (s : State) : Reaches s s [] s.world :=
  ⟨by simp, rfl, rfl, rfl, rfl, fun _ _ => rfl⟩

theorem Reaches.trans {s t u : State} {es fs : List Event} {w w' : World} (h : Reaches s t es w)
    (k : Reaches t u fs w') : Reaches s u (es ++ fs) w' where
  events := by rw [k.events, h.events, List.append_assoc]
  world := k.world
  logging := k.logging.trans h.logging
  out := k.out.trans h.out
  config := k.config.trans h.config
  program c hc := (k.program c (h.config.trans hc)).trans (h.program c hc)

/-- A step without events before others. -/
theorem Reaches.silent {s t u : State} {es : List Event} {w : World} (h : Reaches s t [] s.world)
    (k : Reaches t u es w) : Reaches s u es w :=
  h.trans k

/-- Only the standard error output differs. -/
def OnlyPrints (s t : State) : Prop := ∃ err, t = { s with err := err }

theorem OnlyPrints.refl (s : State) : OnlyPrints s s := ⟨s.err, rfl⟩

theorem OnlyPrints.trans {s t u : State} (h : OnlyPrints s t) (k : OnlyPrints t u) :
    OnlyPrints s u := by
  obtain ⟨err, rfl⟩ := h
  obtain ⟨err', rfl⟩ := k
  exact ⟨err', rfl⟩

theorem OnlyPrints.reaches {s t : State} (h : OnlyPrints s t) : Reaches s t [] s.world := by
  obtain ⟨err, rfl⟩ := h
  exact ⟨by simp, rfl, rfl, rfl, rfl, fun _ _ => rfl⟩

/-! ### The world -/

namespace World

/-- Why the agent program cannot be started, if it cannot. -/
def startFault? (w : World) (program : String) : Option Failure :=
  if hasNull program then some .nullByte
  else
    match w.locate program with
    | .ok () => none
    | .error .notFound => some (.agent (.notFound program))
    | .error f => some (.system f program)

/-- What the agent program answers next. -/
def answer (w : World) (program : String) : Except Failure (List Char) :=
  w.agent.next.1.answer program

/-- The passphrase in the next answer. -/
def passphrase (w : World) (program : String) : Except Failure String := do
  let response ← w.answer program
  let passphrase ← (passphraseOf response).mapError .agent
  return String.ofList passphrase

/-- Whether the next answer says that the passphrase is cleared. -/
def clearance (w : World) (program : String) : Except Failure Unit := do
  let response ← w.answer program
  (checkSuccess response).mapError .agent

/-- The world after the agent program is asked. -/
def asked (w : World) : World := { w with agent := w.agent.next.2 }

end World

namespace Device

/-- The error that a key raises for a passphrase, if it does. -/
def unlockError? (d : Device) (passphrase : String) : Option Raised :=
  d.unlockErrors.head?.join.or (d.verdict passphrase)

/-- A key after a passphrase is tried. -/
def tried (d : Device) (passphrase : String) : Device :=
  let d' := { d with unlockErrors := d.unlockErrors.tail }
  if d.unlockError? passphrase = none then d'.setVolume .active else d'

end Device

/-- The world after a passphrase is tried. -/
def World.tried (w : World) (passphrase : String) : World :=
  { w with device := w.device.tried passphrase }

namespace Attribute

/-- The events of a call of an attribute. -/
def callEvents : Attribute → List Event
  | .factory true => [.connect]
  | _ => []

/-- The error of a call of an attribute, if there is one. -/
def callError? (d : Device) : Attribute → Option Raised
  | .factory true => d.connectError
  | .factory false => none
  | .raises e => some e
  | .value => some ⟨.type, "object is not callable"⟩

end Attribute

/-- A result, unless there is an error. -/
def unlessRaised : Option Raised → Except Failure Unit
  | none => .ok ()
  | some e => .error (.raised e)

namespace Act

/-! ### Calls of the key -/

theorem raise?_apply (e : Option Raised) (s : State) :
    raise? e s = ended (unlessRaised e) s := by
  cases e <;> rfl

theorem callFactory_apply (a : Attribute) (s : State) :
    callFactory a s = ended (unlessRaised (a.callError? s.world.device))
      { s with events := s.events ++ a.callEvents } := by
  have silent : { s with events := s.events ++ [] } = s := by rw [List.append_nil]
  rcases a with (_ | _) | e | _
  · exact congrArg _ silent.symm
  · exact (bind_of_ok (emit_apply .connect s)).trans (raise?_apply _ _)
  · exact congrArg _ silent.symm
  · exact congrArg _ silent.symm

theorem unlock_apply (passphrase : String) (s : State) :
    unlock passphrase s = ended (unlessRaised (s.world.device.unlockError? passphrase))
      { s with world := s.world.tried passphrase, events := s.events ++ [.unlock passphrase] } := by
  refine (bind_of_ok (emit_apply _ s)).trans ((bind_of_ok (world_apply _)).trans
    ((bind_of_ok (modifyWorld_apply _ _)).trans ?_))
  unfold World.tried Device.tried Device.unlockError?
  cases h : s.world.device.unlockErrors.head?.join with
  | some e => rfl
  | none =>
    cases hv : s.world.device.verdict passphrase with
    | some e => rfl
    | none => rfl

/-! ### Requests to the agent program -/

theorem startAgent_apply (program : String) (s : State) :
    startAgent program s = match s.world.startFault? program with
      | none => .ok () s
      | some f => .error f s := by
  unfold startAgent World.startFault?
  by_cases hn : hasNull program = true
  · rw [if_pos hn, if_pos hn]
    rfl
  · rw [if_neg hn, if_neg hn]
    refine (bind_of_ok (world_apply s)).trans ?_
    rcases s.world.locate program with f | ⟨⟩
    · cases f <;> rfl
    · rfl

theorem log_onlyPrints {level : Level} {event : String} (h : Showable level event = true)
    {c : Context} (hc : c.Writable) (s : State) :
    ∃ t, log level event c s = .ok () t ∧ OnlyPrints s t :=
  ⟨_, log_apply h hc s, _, rfl⟩

theorem log_reaches {level : Level} {event : String} (h : Showable level event = true) {c : Context}
    (hc : c.Writable) (s : State) :
    ∃ t, log level event c s = .ok () t ∧ Reaches s t [] s.world := by
  obtain ⟨t, ht, hp⟩ := log_onlyPrints h hc s
  exact ⟨t, ht, hp.reaches⟩

theorem ofExcept_id_apply {α : Type} (r : Except Failure α) (s : State) :
    ofExcept id r s = ended r s := by
  cases r <;> rfl

/-- The state after the entry about a request. -/
def requested (verb : String) (s : State) : State :=
  { s with err := s.err ++
    s.logging.printed .debug "running_gpg_connect_agent" [("request", .text verb)] }

/-- The state after a request is made. -/
def asked (verb arguments : String) (s : State) : State :=
  { requested verb s with
    events := s.events ++ [.agent [verb ++ " " ++ arguments, "/bye"]]
    world := s.world.asked }

theorem requested_reaches (verb : String) (s : State) :
    Reaches s (requested verb s) [] s.world :=
  ⟨by simp [requested], rfl, rfl, rfl, rfl, fun _ _ => rfl⟩

theorem asked_reaches (verb arguments : String) (s : State) : Reaches s (asked verb arguments s)
    [.agent [verb ++ " " ++ arguments, "/bye"]] s.world.asked :=
  ⟨rfl, rfl, rfl, rfl, rfl, fun _ _ => rfl⟩

/-- A program that cannot be started gets no request; one that can gets one and gives one answer. -/
theorem askAgent_apply (program verb arguments : String) (s : State) :
    askAgent program verb arguments s = match s.world.startFault? program with
      | some f => .error f (requested verb s)
      | none => ended (s.world.answer program) (asked verb arguments s) := by
  have tell : log .debug "running_gpg_connect_agent" [("request", .text verb)] s =
      .ok () (requested verb s) :=
    log_apply (by decide +kernel) (Context.writable_nil.cons _ rfl) s
  have start := startAgent_apply program (requested verb s)
  rw [show (requested verb s).world = s.world from rfl] at start
  cases hs : s.world.startFault? program with
  | some f =>
    rw [hs] at start
    exact (bind_of_ok tell).trans (bind_of_error start)
  | none =>
    rw [hs] at start
    exact (bind_of_ok tell).trans ((bind_of_ok start).trans ((bind_of_ok (emit_apply _ _)).trans
      ((bind_of_ok (world_apply _)).trans ((bind_of_ok (modifyWorld_apply _ _)).trans
        (ofExcept_id_apply _ _)))))

/-- The events of asking for the passphrase. -/
def inquiryEvent : Event :=
  .agent ["GET_PASSPHRASE --data nitrocli:user + PIN Please+enter+user+PIN", "/bye"]

/-- The events of clearing the passphrase. -/
def clearanceEvent : Event := .agent ["CLEAR_PASSPHRASE nitrocli:user", "/bye"]

/-- The arguments of the request for the passphrase. -/
def inquiryArguments : String := "--data " ++ cacheName ++ " + PIN Please+enter+user+PIN"

/-- One request is made for the passphrase, and the answer gives it or is an error. -/
theorem inquirePassphrase_apply (program : String) (s : State) :
    inquirePassphrase program s = match s.world.startFault? program with
      | some f => .error f (requested "GET_PASSPHRASE" s)
      | none => ended (s.world.passphrase program) (asked "GET_PASSPHRASE" inquiryArguments s) := by
  have ask := askAgent_apply program "GET_PASSPHRASE" inquiryArguments s
  cases hs : s.world.startFault? program with
  | some f =>
    rw [hs] at ask
    exact bind_of_error ask
  | none =>
    rw [hs] at ask
    unfold World.passphrase
    cases ha : s.world.answer program with
    | error f =>
      rw [ha] at ask
      exact bind_of_error ask
    | ok response =>
      rw [ha] at ask
      refine (bind_of_ok ask).trans ?_
      show (ofExcept Failure.agent (passphraseOf response) >>= _) _ =
        ended (((passphraseOf response).mapError .agent) >>= _) _
      cases passphraseOf response <;> rfl

variable {program : String} {s : State}

theorem inquirePassphrase_of_fault {f : Failure} (h : s.world.startFault? program = some f) :
    ∃ t, inquirePassphrase program s = .error f t ∧ Reaches s t [] s.world :=
  ⟨_, by rw [inquirePassphrase_apply, h], requested_reaches _ s⟩

theorem inquirePassphrase_of_start (h : s.world.startFault? program = none) :
    ∃ t, inquirePassphrase program s = ended (s.world.passphrase program) t ∧
      Reaches s t [inquiryEvent] s.world.asked :=
  ⟨_, by rw [inquirePassphrase_apply, h], asked_reaches _ _ s⟩

theorem clearPassphrase_of_fault {f : Failure} (h : s.world.startFault? program = some f) :
    ∃ t, clearPassphrase program s = .error f t ∧ Reaches s t [] s.world := by
  have ask := askAgent_apply program "CLEAR_PASSPHRASE" cacheName s
  rw [h] at ask
  exact ⟨_, bind_of_error ask, requested_reaches _ s⟩

/-- One request is made to clear the passphrase, and the answer says so or is an error. -/
theorem clearPassphrase_of_start (h : s.world.startFault? program = none) :
    ∃ t, clearPassphrase program s = ended (s.world.clearance program) t ∧
      Reaches s t [clearanceEvent] s.world.asked := by
  have ht := askAgent_apply program "CLEAR_PASSPHRASE" cacheName s
  have hr := asked_reaches "CLEAR_PASSPHRASE" cacheName s
  rw [h] at ht
  generalize asked "CLEAR_PASSPHRASE" cacheName s = t at ht hr
  unfold World.clearance
  cases ha : s.world.answer program with
  | error f =>
    rw [ha] at ht
    exact ⟨t, bind_of_error ht, hr⟩
  | ok response =>
    rw [ha] at ht
    show ∃ t, _ = ended ((checkSuccess response).mapError .agent) t ∧ _
    cases hc : checkSuccess response with
    | error f =>
      refine ⟨t, (bind_of_ok ht).trans ?_, hr⟩
      rw [hc]
      rfl
    | ok _ =>
      obtain ⟨u, hu, hr'⟩ := log_reaches (by decide +kernel : Showable .info "passphrase_cleared")
        (Context.writable_nil.cons "cache_id" (d := .text cacheName) rfl) t
      rw [hr.world] at hr'
      refine ⟨u, (bind_of_ok ht).trans ?_, hr.trans hr'⟩
      rw [hc]
      exact hu

/-! ### What a session knows -/

/-- A session without a configuration loads it, and remembers it. -/
theorem sessionConfig_of_none (h : s.session.config = none) :
    sessionConfig s = (loadConfig s.session.configPath >>= fun c => do
      modifySession fun s => { s with config := some c }
      return c) s := by
  refine (bind_of_ok (session_apply s)).trans ?_
  rw [h]
  rfl

/-- An agent program that is known is not named again. -/
theorem sessionAgent_of_some {a : String} (h : s.session.agentProgram = some a) :
    sessionAgent s = .ok a s := by
  refine (bind_of_ok (session_apply s)).trans ?_
  rw [h]
  rfl

/-- A session that knows no agent program takes that of its configuration, and remembers it. -/
theorem sessionAgent_of_unknown (h : s.session.agentProgram = none) :
    sessionAgent s = (sessionConfig >>= fun c => do
      modifySession fun s => { s with agentProgram := some c.agentProgram }
      return c.agentProgram) s := by
  refine (bind_of_ok (session_apply s)).trans ?_
  rw [h]

/-- A way to reach the key that is known is not looked for again. -/
theorem sessionFactory_of_some {a : Attribute} (h : s.session.factory = some a) :
    sessionFactory s = .ok a s := by
  refine (bind_of_ok (session_apply s)).trans ?_
  rw [h]
  rfl

/-- A session that knows no way to reach the key takes that of its configuration, and remembers
it. -/
theorem sessionFactory_of_unknown (h : s.session.factory = none) :
    sessionFactory s = (sessionConfig >>= fun c => loadBackend c.backend >>= fun f => do
      modifySession fun s => { s with factory := some f }
      return f) s := by
  refine (bind_of_ok (session_apply s)).trans ?_
  rw [h]

/-- The agent program of a session with a configuration. -/
def agentOf (s : State) (c : Config) : String := s.session.agentProgram.getD c.agentProgram

theorem sessionAgent_of_config {c : Config} (h : s.session.config = some c) :
    ∃ t, sessionAgent s = .ok (agentOf s c) t ∧ Reaches s t [] s.world := by
  unfold agentOf
  cases ha : s.session.agentProgram with
  | some a => exact ⟨s, sessionAgent_of_some ha, Reaches.refl s⟩
  | none =>
    refine ⟨{ s with session := { s.session with agentProgram := some c.agentProgram } },
      (sessionAgent_of_unknown ha).trans ?_, by simp, rfl, rfl, rfl, rfl, fun d hd => ?_⟩
    · exact bind_of_ok (sessionConfig_of_some h)
    · rw [h] at hd
      cases hd
      rw [ha]
      rfl

end Act

/-- The attribute that a specification names, or why there is none. -/
def World.backend (w : World) (spec : Option String) : Except Failure Attribute :=
  let text := spec.getD ""
  if text = "" then .error (.backend .notConfigured)
  else
    match splitSpecification text with
    | none => .error (.backend (.badSpecification text))
    | some (module, name) =>
      if module.toList.head? = some '.' then .error (.relativeModule module)
      else
        match w.loadModule module with
        | .error e => .error (if e.isImport then .backend (.notImported module e) else .raised e)
        | .ok m =>
          match m.attribute? name with
          | .error e => .error (.raised e)
          | .ok none => .error (.backend (.notCallable text))
          | .ok (some a) => if a.isCallable then .ok a else .error (.backend (.notCallable text))

/-- The way to reach the key in a session with a configuration, or why there is none. -/
def Act.factoryOf (s : State) (c : Config) : Except Failure Attribute :=
  match s.session.factory with
  | some a => .ok a
  | none => s.world.backend c.backend

namespace Act

variable {s : State} {c : Config}

theorem loadBackend_apply (spec : Option String) (s : State) :
    ∃ t, loadBackend spec s = ended (s.world.backend spec) t ∧ OnlyPrints s t := by
  unfold loadBackend World.backend
  simp only
  by_cases he : spec.getD "" = ""
  · rw [if_pos he, if_pos he]
    exact ⟨s, rfl, OnlyPrints.refl s⟩
  rw [if_neg he, if_neg he]
  cases hs : splitSpecification (spec.getD "") with
  | none => exact ⟨s, rfl, OnlyPrints.refl s⟩
  | some parts =>
    obtain ⟨module, name⟩ := parts
    obtain ⟨t, ht, hr⟩ := log_onlyPrints (by decide +kernel : Showable .debug "loading_device_backend")
      ((Context.writable_nil.cons "attribute" (d := .text name) rfl).cons "module"
        (d := .text module) rfl) s
    refine ⟨t, (bind_of_ok ht).trans ?_, hr⟩
    show _ = ended (if module.toList.head? = some '.' then _ else _) t
    by_cases hd : module.toList.head? = some '.'
    · rw [if_pos hd, if_pos hd]
      rfl
    rw [if_neg hd, if_neg hd]
    refine (bind_of_ok (world_apply t)).trans ?_
    rw [hr.reaches.world]
    cases s.world.loadModule module with
    | error e => rfl
    | ok m =>
      simp only
      cases m.attribute? name with
      | error e => rfl
      | ok found =>
        cases found with
        | none => rfl
        | some a => cases hc : a.isCallable <;> simp [hc] <;> rfl

theorem sessionFactory_of_config (h : s.session.config = some c) :
    ∃ t, sessionFactory s = ended (factoryOf s c) t ∧ Reaches s t [] s.world := by
  unfold factoryOf
  cases hf : s.session.factory with
  | some a => exact ⟨s, sessionFactory_of_some hf, Reaches.refl s⟩
  | none =>
    obtain ⟨t, ht, hp⟩ := loadBackend_apply c.backend s
    have hr := hp.reaches
    rw [sessionFactory_of_unknown hf, bind_of_ok (sessionConfig_of_some h)]
    show ∃ t, _ = ended (s.world.backend c.backend) t ∧ _
    cases hb : s.world.backend c.backend with
    | error f =>
      rw [hb] at ht
      exact ⟨t, bind_of_error ht, hr⟩
    | ok a =>
      rw [hb] at ht
      refine ⟨{ t with session := { t.session with factory := some a } }, bind_of_ok ht, ?_⟩
      exact hr.silent ⟨by simp, hr.world, rfl, rfl, rfl, fun _ _ => rfl⟩

/-! ### Loading the configuration -/

theorem exists_of_bind_ok {α β : Type} {x : Act α} {f : α → Act β} {s u : State} {b : β}
    (h : (x >>= f) s = .ok b u) : ∃ a t, x s = .ok a t ∧ f a t = .ok b u := by
  cases hx : x s with
  | error e t =>
    rw [bind_of_error hx] at h
    cases h
  | ok a t =>
    rw [bind_of_ok hx] at h
    exact ⟨a, t, rfl, h⟩

theorem onlyPrints_of_log {level : Level} {event : String} {d : Context} {s t : State}
    (h : log level event d s = .ok () t) : OnlyPrints s t := by
  cases ht : s.logging.entryText level (.text event) d with
  | error f =>
    rw [log_of_error ht] at h
    cases h
  | ok text =>
    rw [log_of_ok ht] at h
    cases h
    exact ⟨_, rfl⟩

theorem onlyPrints_of_ofExcept {α ε : Type} {failure : ε → Failure} {r : Except ε α} {a : α}
    {s t : State} (h : ofExcept failure r s = .ok a t) : OnlyPrints s t := by
  cases r with
  | error e => cases h
  | ok b =>
    cases h
    exact OnlyPrints.refl s

theorem onlyPrints_of_readConfig {path : String} {s t : State}
    (h : readConfig path s = .ok c t) : OnlyPrints s t := by
  obtain ⟨_, t₁, h₁, h⟩ := exists_of_bind_ok h
  obtain ⟨_, t₂, h₂, h⟩ := exists_of_bind_ok h
  cases h₂
  obtain ⟨_, t₃, h₃, h⟩ := exists_of_bind_ok h
  obtain ⟨_, t₄, h₄, h⟩ := exists_of_bind_ok h
  obtain ⟨_, t₅, h₅, h⟩ := exists_of_bind_ok h
  cases h
  exact (onlyPrints_of_log h₁).trans ((onlyPrints_of_ofExcept h₃).trans
    ((onlyPrints_of_ofExcept h₄).trans (onlyPrints_of_log h₅)))

theorem onlyPrints_of_loadConfig {path : Option Path} {s t : State}
    (h : loadConfig path s = .ok c t) : OnlyPrints s t := by
  obtain ⟨_, t₁, h₁, h⟩ := exists_of_bind_ok h
  cases h₁
  obtain ⟨source, t₂, h₂, h⟩ := exists_of_bind_ok h
  obtain ⟨_, t₃, h₃, h⟩ := exists_of_bind_ok h
  cases h₃
  obtain ⟨found, t₄, h₄, h⟩ := exists_of_bind_ok h
  have prints := (onlyPrints_of_ofExcept h₂).trans (onlyPrints_of_ofExcept h₄)
  refine prints.trans ?_
  split at h
  · exact onlyPrints_of_readConfig h
  split at h
  · cases h
  · obtain ⟨_, t₅, h₅, h⟩ := exists_of_bind_ok h
    cases h
    exact onlyPrints_of_log h₅

/-- The session remembers the configuration that it finds. -/
theorem eq_of_sessionConfig {s t : State} (h : sessionConfig s = .ok c t) :
    ∃ err, t = { s with err := err, session := { s.session with config := some c } } := by
  cases hc : s.session.config with
  | some d =>
    rw [sessionConfig_of_some hc] at h
    cases h
    refine ⟨s.err, ?_⟩
    rw [← hc]
  | none =>
    rw [sessionConfig_of_none hc] at h
    obtain ⟨d, u, hu, h⟩ := exists_of_bind_ok h
    obtain ⟨err, rfl⟩ := onlyPrints_of_loadConfig hu
    cases h
    exact ⟨err, rfl⟩

theorem bind_congr_apply {α β : Type} {x : Act α} {s t : State} (h : x s = x t) (f : α → Act β) :
    (x >>= f) s = (x >>= f) t := by
  simp only [bind, EStateM.bind, h]

/-- Connecting finds the configuration first. -/
theorem connect_of_sessionConfig {s t : State} (h : sessionConfig s = .ok c t) :
    connect s = connect t := by
  obtain ⟨err, ht⟩ := eq_of_sessionConfig h
  have known : t.session.config = some c := by rw [ht]
  have factory : t.session.factory = s.session.factory := by rw [ht]
  -- Either way the first thing that may differ between the two states is this step.
  have same : sessionConfig s = sessionConfig t := by rw [h, sessionConfig_of_some known]
  cases hf : s.session.factory with
  | some a =>
    unfold connect
    rw [bind_of_ok (sessionFactory_of_some hf), bind_of_ok (sessionFactory_of_some (factory.trans hf))]
    exact bind_congr_apply same _
  | none =>
    refine bind_congr_apply ?_ _
    rw [sessionFactory_of_unknown hf, sessionFactory_of_unknown (factory.trans hf)]
    exact bind_congr_apply same _

/-- Connecting without a way to reach the key fails before anything is done. -/
theorem connect_of_error (h : s.session.config = some c) {f : Failure}
    (hf : factoryOf s c = .error f) : ∃ t, connect s = .error f t ∧ Reaches s t [] s.world := by
  obtain ⟨t, ht, hr⟩ := sessionFactory_of_config h
  rw [hf] at ht
  exact ⟨t, bind_of_error ht, hr⟩

theorem isWritable_backendDatum (c : Config) : Yaml.isWritable (backendDatum c) = true := by
  unfold backendDatum
  split <;> rfl

/-- Connecting calls the way to reach the key once. -/
theorem connect_of_ok (h : s.session.config = some c) {a : Attribute}
    (hf : factoryOf s c = .ok a) :
    ∃ t, connect s = ended (unlessRaised (a.callError? s.world.device)) t ∧
      Reaches s t a.callEvents s.world := by
  obtain ⟨t, ht, hr⟩ := sessionFactory_of_config h
  rw [hf] at ht
  have writable : Context.Writable [("backend", backendDatum c)] :=
    Context.writable_nil.cons _ (isWritable_backendDatum c)
  obtain ⟨u, hu, hr'⟩ := log_reaches (by decide +kernel : Showable .debug "connecting_device")
    writable t
  rw [hr.world] at hr'
  have known : t.session.config = some c := hr.config.trans h
  refine ⟨{ u with events := u.events ++ a.callEvents }, (bind_of_ok ht).trans
    ((bind_of_ok (sessionConfig_of_some known)).trans ((bind_of_ok hu).trans ?_)), ?_⟩
  · rw [callFactory_apply, hr'.world]
  · exact (hr.trans hr').trans ⟨rfl, hr'.world, rfl, rfl, rfl, fun _ _ => rfl⟩

end Act

end StorageKey
