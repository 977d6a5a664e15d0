import StorageKey.Proofs.Session.Attempts
import StorageKey.Proofs.Session.Loading

/-!
# Sessions that act alike

Two sessions that know the same configuration, reach the key in the same way and ask the same agent
program do the same in the same world: they end alike, print the same, and have the same effects.
What is logged does not matter, as long as the same entries can be printed.

* `EndsAlike`, `SameEnd`: two runs end alike;
* `Alike`, `SameKnowledge`: states that show no difference, and sessions that know the same;
* `Act.proceed_alike`: operations of such sessions end alike.
-/

namespace StorageKey

open Yaml

/-! ### Two runs -/

/-- Two runs end alike: with the same result or the same failure, in states that are related by `R`
after a result, and by `E` after a failure. -/
def EndsAlike {α : Type} (E R : State → State → Prop) :
    EStateM.Result Failure State α → EStateM.Result Failure State α → Prop
  | .ok a s, .ok b t => a = b ∧ R s t
  | .error e s, .error f t => e = f ∧ E s t
  | _, _ => False

/-- Two runs end alike, in related states. -/
abbrev SameEnd {α : Type} (R : State → State → Prop)
    (x y : EStateM.Result Failure State α) : Prop :=
  EndsAlike R R x y

namespace EndsAlike

variable {α β : Type} {E E' R R' : State → State → Prop} {s t : State}

theorem ended (r : Except Failure α) (h : R s t) (h' : E s t) :
    EndsAlike E R (StorageKey.ended r s) (StorageKey.ended r t) := by
  cases r with
  | ok a => exact ⟨rfl, h⟩
  | error f => exact ⟨rfl, h'⟩

theorem mono {x y : EStateM.Result Failure State α} (h : EndsAlike E R x y)
    (hE : ∀ s t, E s t → E' s t) (hR : ∀ s t, R s t → R' s t) : EndsAlike E' R' x y := by
  cases x <;> cases y
  · exact ⟨h.1, hR _ _ h.2⟩
  · exact h
  · exact h
  · exact ⟨h.1, hE _ _ h.2⟩

/-- Runs whose first actions end alike end alike if what follows does. -/
theorem bind {x y : Act α} {f g : α → Act β} (h : EndsAlike E R (x s) (y t))
    (hf : ∀ a s' t', x s = .ok a s' → R s' t' → EndsAlike E R' (f a s') (g a t')) :
    EndsAlike E R' ((x >>= f) s) ((y >>= g) t) := by
  cases hx : x s <;> cases hy : y t <;> rw [hx, hy] at h
  · obtain ⟨rfl, h⟩ := h
    rw [Act.bind_of_ok hx, Act.bind_of_ok hy]
    exact hf _ _ _ hx h
  · exact h.elim
  · exact h.elim
  · obtain ⟨rfl, h⟩ := h
    rw [Act.bind_of_error hx, Act.bind_of_error hy]
    exact ⟨rfl, h⟩

end EndsAlike

theorem SameEnd.ended {α : Type} {R : State → State → Prop} {s t : State} (r : Except Failure α)
    (h : R s t) : SameEnd R (StorageKey.ended r s) (StorageKey.ended r t) :=
  EndsAlike.ended r h h

theorem SameEnd.mono {α : Type} {R R' : State → State → Prop}
    {x y : EStateM.Result Failure State α} (h : SameEnd R x y) (hR : ∀ s t, R s t → R' s t) :
    SameEnd R' x y :=
  EndsAlike.mono h hR hR

theorem SameEnd.symm {α : Type} {R : State → State → Prop} {x y : EStateM.Result Failure State α}
    (h : SameEnd R x y) (hR : ∀ s t, R s t → R t s) : SameEnd R y x := by
  cases x <;> cases y
  · exact ⟨h.1.symm, hR _ _ h.2⟩
  · exact h
  · exact h
  · exact ⟨h.1.symm, hR _ _ h.2⟩

/-- The states show no difference but for the standard error output. -/
structure Alike (s t : State) : Prop where
  world : s.world = t.world
  out : s.out = t.out
  events : s.events = t.events

/-- The states are alike, their sessions know the same configuration and ask the same agent program,
and entries are logged in the one way or the other. -/
structure SameKnowledge (c : Config) (l l' : Logging) (s t : State) : Prop extends Alike s t where
  left : s.session.config = some c
  right : t.session.config = some c
  program : Act.agentOf s c = Act.agentOf t c
  loggingLeft : s.logging = l
  loggingRight : t.logging = l'

section

variable {c : Config} {l l' : Logging} {s t u v : State}

/-- The same steps keep the same knowledge. -/
theorem SameKnowledge.step (h : SameKnowledge c l l' s t) {es : List Event} {w : World}
    (hu : Reaches s u es w) (hv : Reaches t v es w) : SameKnowledge c l l' u v where
  world := hu.world.trans hv.world.symm
  out := by rw [hu.out, hv.out, h.out]
  events := by rw [hu.events, hv.events, h.events]
  left := hu.config.trans h.left
  right := hv.config.trans h.right
  program := (hu.program c h.left).trans (h.program.trans (hv.program c h.right).symm)
  loggingLeft := hu.logging.trans h.loggingLeft
  loggingRight := hv.logging.trans h.loggingRight

/-- Steps that leave sessions and logging as they are keep the same knowledge. -/
theorem SameKnowledge.of_eq {u v : State} (h : SameKnowledge c l l' s t)
    (hu : u.session = s.session ∧ u.logging = s.logging)
    (hv : v.session = t.session ∧ v.logging = t.logging) (k : Alike u v) :
    SameKnowledge c l l' u v := by
  obtain ⟨hu, hu'⟩ := hu
  obtain ⟨hv, hv'⟩ := hv
  refine ⟨k, hu ▸ h.left, hv ▸ h.right, ?_, hu' ▸ h.loggingLeft, hv' ▸ h.loggingRight⟩
  simp only [Act.agentOf, hu, hv]
  exact h.program

/-- An attempt comes to one end. -/
theorem Tries.unique {program : String} {w w₁ w₂ : World} {a b : Attempt}
    (h : Tries program w a w₁) (k : Tries program w b w₂) : a = b ∧ w₁ = w₂ := by
  cases h <;> cases k <;> simp_all

theorem Attempt.resume_of_not_isRejected {a : Attempt} (h : a.isRejected = false)
    (onRejection : Failure → Act Unit) (t : State) : a.resume onRejection t = ended a.ending t := by
  cases a with
  | rejected => cases h
  | _ => rfl

theorem Attempt.exists_of_isRejected {a : Attempt} (h : a.isRejected = true) :
    ∃ p e, a = .rejected p e := by
  cases a with
  | rejected p e => exact ⟨p, e, rfl⟩
  | _ => cases h

/-- What the key answers to a call for its status. -/
def Device.answer (d : Device) : Except Failure Status := do
  unlessRaised d.statusError
  (Status.ofValue (.map d.status)).mapError (.invalid Status.recordName)

/-- A key after a call to close the volume. -/
def Device.locked (d : Device) : Device :=
  if d.lockError = none then d.setVolume .inactive else d

namespace Act

/-! ### Steps of operations -/

theorem eq_of_ended {α : Type} {r : Except Failure α} {a : α} {s t : State}
    (h : ended r s = .ok a t) : r = .ok a ∧ s = t := by
  cases r with
  | error f => cases h
  | ok b =>
    cases h
    exact ⟨rfl, rfl⟩

theorem reaches_of_connect (hc : s.session.config = some c) (h : connect s = .ok () u) :
    ∃ es, Reaches s u es s.world := by
  cases hf : factoryOf s c with
  | error f =>
    obtain ⟨v, hv, hr⟩ := connect_of_error hc hf
    rw [hv] at h
    cases h
  | ok a =>
    obtain ⟨v, hv, hr⟩ := connect_of_ok hc hf
    rw [hv] at h
    obtain ⟨-, rfl⟩ := eq_of_ended h
    exact ⟨_, hr⟩

theorem deviceStatus_apply (s : State) : deviceStatus s =
    ended s.world.device.answer { s with events := s.events ++ [.status] } := by
  refine (bind_of_ok (emit_apply _ s)).trans ((bind_of_ok (world_apply _)).trans ?_)
  unfold Device.answer
  cases s.world.device.statusError with
  | some e => rfl
  | none =>
    show ofExcept _ (Status.ofValue (.map s.world.device.status)) _ =
      ended ((Status.ofValue _).mapError _) _
    cases Status.ofValue (.map s.world.device.status) <;> rfl

theorem lock_apply (s : State) : lock s = ended (unlessRaised s.world.device.lockError)
    { s with
      world := { s.world with device := s.world.device.locked }
      events := s.events ++ [.lock] } := by
  refine (bind_of_ok (emit_apply _ s)).trans ((bind_of_ok (world_apply _)).trans ?_)
  unfold Device.locked
  cases h : s.world.device.lockError with
  | some e => rfl
  | none => rfl

/-- The entry about a status. -/
def statusContext (status : Status) : Context := [("_verbose_status", .map status.context)]

theorem shallow_status (status : Status) : (statusContext status).Shallow := by
  have flat : ∀ e ∈ status.context, e.2.isScalar = true := by
    simp [Status.context, Datum.isScalar]
  exact Context.all_nil.cons _ (not_nested_of_flat flat 322)

theorem canPrint_status (l : Logging) (status : Status) :
    l.canPrint .debug "status_received" (statusContext status) =
      l.canTell (.map status.context) := by
  have details : (Entry.ofEvent .debug (.text "status_received") (statusContext status)).details =
      statusContext status := rfl
  have hidden : isVerboseName "_verbose_status" = true := by decide
  have bare : bareName "_verbose_status" = "status" := by decide
  have quiet : (statusContext status).quiet = [] := by
    simp [statusContext, Context.quiet, hidden]
  have verbose : (statusContext status).verbose = [("status", .map status.context)] := by
    simp [statusContext, Context.verbose, Context.put, bare]
  rw [Logging.canPrint, Logging.shown, details, Logging.canTell]
  cases l.isVerbose <;> cases l.shows .debug <;> simp [quiet, verbose]

/-- An entry that can be printed makes no difference. -/
theorem log_alike {level : Level} {event : String} (he : Showable level event = true) {d : Context}
    (hd : d.Writable) (h : SameKnowledge c l l' s t) :
    SameEnd (SameKnowledge c l l') (log level event d s) (log level event d t) := by
  obtain ⟨u, hu, hr⟩ := log_reaches he hd s
  obtain ⟨v, hv, hr'⟩ := log_reaches he hd t
  rw [hu, hv]
  exact ⟨rfl, h.step hr (h.world ▸ hr')⟩

theorem connect_alike (h : SameKnowledge c l l' s t) (hf : factoryOf s c = factoryOf t c) :
    SameEnd (SameKnowledge c l l') (connect s) (connect t) := by
  cases hs : factoryOf s c with
  | error f =>
    obtain ⟨u, hu, hr⟩ := connect_of_error h.left hs
    obtain ⟨v, hv, hr'⟩ := connect_of_error h.right (hf.symm.trans hs)
    rw [hu, hv]
    exact ⟨rfl, h.step hr (h.world ▸ hr')⟩
  | ok a =>
    obtain ⟨u, hu, hr⟩ := connect_of_ok h.left hs
    obtain ⟨v, hv, hr'⟩ := connect_of_ok h.right (hf.symm.trans hs)
    rw [hu, hv, h.world]
    exact .ended _ (h.step hr (h.world ▸ hr'))

/-- A warning that can be printed in one way of logging just if it can be in the other makes no
difference. -/
theorem log_warning_alike {left : Nat} (hw : CanWarn l left ↔ CanWarn l' left)
    (h : SameKnowledge c l l' s t) :
    SameEnd (SameKnowledge c l l') (log .warning "wrong_passphrase" (warningContext left) s)
      (log .warning "wrong_passphrase" (warningContext left) t) := by
  by_cases hl : CanWarn l left
  · obtain ⟨u, hu, hr⟩ := log_warning_reaches (h.loggingLeft.symm ▸ hl)
    obtain ⟨v, hv, hr'⟩ := log_warning_reaches (h.loggingRight.symm ▸ hw.1 hl)
    rw [hu, hv]
    exact ⟨rfl, h.step hr (h.world ▸ hr')⟩
  · rw [log_warning_error (h.loggingLeft.symm ▸ hl),
      log_warning_error (h.loggingRight.symm ▸ fun hr => hl (hw.2 hr))]
    exact ⟨rfl, h⟩

/-- Attempts end alike if what follows a rejection does. -/
theorem attemptUnlock_alike {onRejection : Failure → Act Unit} (h : SameKnowledge c l l' s t)
    (hr : ∀ f u v, SameKnowledge c l l' u v →
      SameEnd (SameKnowledge c l l') (onRejection f u) (onRejection f v)) :
    SameEnd (SameKnowledge c l l') (attemptUnlock onRejection s) (attemptUnlock onRejection t) := by
  obtain ⟨a, w, u, ha, hu, run⟩ := attemptUnlock_cases h.left
  obtain ⟨b, w', v, hb, hv, run'⟩ := attemptUnlock_cases h.right
  rw [h.world, h.program] at ha
  obtain ⟨rfl, rfl⟩ := ha.unique hb
  have known := h.step hu hv
  rw [run, run']
  cases hj : a.isRejected with
  | true =>
    obtain ⟨p, e, rfl⟩ := Attempt.exists_of_isRejected hj
    exact hr _ u v known
  | false =>
    rw [Attempt.resume_of_not_isRejected hj, Attempt.resume_of_not_isRejected hj]
    exact .ended _ known

theorem unlockAttempts_alike (more : Nat)
    (hw : ∀ left, left ≤ more → (CanWarn l left ↔ CanWarn l' left))
    (h : SameKnowledge c l l' s t) :
    SameEnd (SameKnowledge c l l') (unlockAttempts more s) (unlockAttempts more t) := by
  induction more generalizing s t with
  | zero =>
    rw [unlockAttempts_zero]
    exact attemptUnlock_alike h fun f u v known => ⟨rfl, known⟩
  | succ more ih =>
    rw [unlockAttempts_succ]
    refine attemptUnlock_alike h fun f u v known => ?_
    refine EndsAlike.bind (log_warning_alike (hw _ (Nat.le_refl _)) known) fun _ u v _ known => ?_
    exact ih (fun left hl => hw left (by omega)) known

/-! ### Operations -/

theorem openVolume_alike (h : SameKnowledge c l l' s t) (hf : factoryOf s c = factoryOf t c)
    (hw : ∀ left, left ≤ c.attempts → (CanWarn l left ↔ CanWarn l' left)) :
    SameEnd (SameKnowledge c l l') (openVolume s) (openVolume t) := by
  refine EndsAlike.bind (connect_alike h hf) fun _ u v _ known => ?_
  rw [bind_of_ok (sessionConfig_of_some known.left), bind_of_ok (sessionConfig_of_some known.right)]
  exact unlockAttempts_alike _ (fun left hl => hw left (by omega)) known

/-- The call for the status of the key makes no difference. -/
theorem deviceStatus_alike (h : SameKnowledge c l l' s t) :
    SameEnd (SameKnowledge c l l') (deviceStatus s) (deviceStatus t) := by
  rw [deviceStatus_apply, deviceStatus_apply, h.world]
  refine .ended _ (h.of_eq ⟨rfl, rfl⟩ ⟨rfl, rfl⟩ ⟨rfl, h.out, ?_⟩)
  rw [h.events]

theorem lock_alike (h : SameKnowledge c l l' s t) :
    SameEnd (SameKnowledge c l l') (lock s) (lock t) := by
  rw [lock_apply, lock_apply, h.world]
  refine .ended _ (h.of_eq ⟨rfl, rfl⟩ ⟨rfl, rfl⟩ ⟨rfl, h.out, ?_⟩)
  rw [h.events]

/-- The entry with a status makes no difference if it can be printed in both ways of logging or in
none. -/
theorem log_status_alike (h : SameKnowledge c l l' s t) {status : Status}
    (ht : l.canTell (.map status.context) = l'.canTell (.map status.context)) :
    SameEnd (SameKnowledge c l l') (log .debug "status_received" (statusContext status) s)
      (log .debug "status_received" (statusContext status) t) := by
  have left : s.logging.canPrint .debug "status_received" (statusContext status) =
      l.canTell (.map status.context) := by rw [h.loggingLeft, canPrint_status]
  have right : t.logging.canPrint .debug "status_received" (statusContext status) =
      l.canTell (.map status.context) := by rw [h.loggingRight, canPrint_status, ht]
  cases hc : l.canTell (.map status.context) with
  | true =>
    rw [log_of_canPrint (by decide +kernel) (left.trans hc),
      log_of_canPrint (by decide +kernel) (right.trans hc)]
    exact ⟨rfl, h.of_eq ⟨rfl, rfl⟩ ⟨rfl, rfl⟩ ⟨h.world, h.out, h.events⟩⟩
  | false =>
    rw [log_of_not_canPrint (shallow_status status) (left.trans hc),
      log_of_not_canPrint (shallow_status status) (right.trans hc)]
    exact ⟨rfl, h⟩

theorem showStatus_alike (h : SameKnowledge c l l' s t) (hf : factoryOf s c = factoryOf t c)
    (ht : ∀ u, connect s = .ok () u → ∀ status, s.world.device.answer = .ok status →
      l.canTell (.map status.context) = l'.canTell (.map status.context)) :
    SameEnd (SameKnowledge c l l') (showStatus s) (showStatus t) := by
  refine EndsAlike.bind (connect_alike h hf) fun _ u v hu known => ?_
  refine EndsAlike.bind (deviceStatus_alike known) fun status u' v' hu' known => ?_
  have told : l.canTell (.map status.context) = l'.canTell (.map status.context) := by
    obtain ⟨es, hr⟩ := reaches_of_connect h.left hu
    refine ht u hu status ?_
    rw [← hr.world]
    rw [deviceStatus_apply] at hu'
    exact (eq_of_ended hu').1
  refine EndsAlike.bind (log_status_alike known told) fun _ u v _ known => ?_
  cases status.text with
  | error f => exact ⟨rfl, known⟩
  | ok text =>
    refine ⟨rfl, known.of_eq ⟨rfl, rfl⟩ ⟨rfl, rfl⟩ ⟨known.world, ?_, known.events⟩⟩
    show u.out ++ _ = v.out ++ _
    rw [known.out]

/-- Closing the volume once what is pending is written. -/
theorem proceed_closeVolume_alike (h : SameKnowledge c l l' s t)
    (hf : factoryOf s c = factoryOf t c) :
    SameEnd (SameKnowledge c l l') (proceed .closeVolume s) (proceed .closeVolume t) := by
  refine EndsAlike.bind (connect_alike h hf) fun _ u v _ known => ?_
  refine EndsAlike.bind (lock_alike known) fun _ u v _ known => ?_
  exact log_alike (by decide +kernel) Context.writable_nil known

/-- An agent program that cannot be started is not asked to clear the passphrase. -/
theorem clear_of_fault (h : s.session.config = some c) {f : Failure}
    (hs : s.world.startFault? (agentOf s c) = some f) :
    ∃ t, (sessionAgent >>= clearPassphrase) s = .error f t ∧ Reaches s t [] s.world := by
  obtain ⟨t, ht, hr⟩ := sessionAgent_of_config h
  obtain ⟨u, hu, hr'⟩ := clearPassphrase_of_fault (hr.world.symm ▸ hs)
  rw [hr.world] at hr'
  exact ⟨u, (bind_of_ok ht).trans hu, hr.trans hr'⟩

theorem clearPassphrase_alike (h : SameKnowledge c l l' s t) :
    SameEnd (SameKnowledge c l l') (perform .clearPassphrase s) (perform .clearPassphrase t) := by
  show SameEnd _ ((sessionAgent >>= clearPassphrase) s) ((sessionAgent >>= clearPassphrase) t)
  have same : s.world.startFault? (agentOf s c) = t.world.startFault? (agentOf t c) := by
    rw [h.world, h.program]
  cases hs : s.world.startFault? (agentOf s c) with
  | some f =>
    obtain ⟨u, hu, hr⟩ := clear_of_fault h.left hs
    obtain ⟨v, hv, hr'⟩ := clear_of_fault h.right (same.symm.trans hs)
    rw [hu, hv]
    exact ⟨rfl, h.step hr (h.world ▸ hr')⟩
  | none =>
    obtain ⟨u, hu, hr⟩ := clear_of_start h.left hs
    obtain ⟨v, hv, hr'⟩ := clear_of_start h.right (same.symm.trans hs)
    rw [hu, hv, h.world, h.program]
    exact .ended _ (h.step hr (h.world ▸ hr'))

/-- Operations of sessions that know the same end alike, if the same entries can be printed: the
warnings about rejections, and the status that the key answers. -/
theorem proceed_alike (h : SameKnowledge c l l' s t) (hf : factoryOf s c = factoryOf t c)
    (hw : ∀ left, left ≤ c.attempts → (CanWarn l left ↔ CanWarn l' left)) (o : Operation)
    (ht : o = .showStatus → ∀ u, connect s = .ok () u → ∀ status,
      s.world.device.answer = .ok status →
      l.canTell (.map status.context) = l'.canTell (.map status.context)) :
    SameEnd (SameKnowledge c l l') (proceed o s) (proceed o t) := by
  cases o with
  | showStatus => exact showStatus_alike h hf (ht rfl)
  | openVolume => exact openVolume_alike h hf hw
  | closeVolume => exact proceed_closeVolume_alike h hf
  | clearPassphrase => exact clearPassphrase_alike h

end Act

end

end StorageKey
