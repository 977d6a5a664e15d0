import StorageKey.Proofs.Session.Alike
import StorageKey.Proofs.Session.Connection

/-!
# The events of an operation

Nothing that is done is undone: an operation adds events to those before it, however it ends. Which
events these may be is said by the operation alone, whatever the world is and the session knows.

* `Adds`, `Act.Emits`: states and actions that add events of a kind;
* `Operation.mayCause`, `Act.emits_perform`: the events of each operation.
-/

namespace StorageKey

/-- The second state has the events of the first, and after them only events of a kind. -/
def Adds (kind : Event → Bool) (s t : State) : Prop :=
  ∃ es, t.events = s.events ++ es ∧ ∀ e ∈ es, kind e = true

namespace Adds

variable {kind kind' : Event → Bool} {s t u : State}

theorem of_events (h : t.events = s.events) : Adds kind s t :=
  ⟨[], by rw [h, List.append_nil], nofun⟩

theorem of_event {e : Event} (h : t.events = s.events ++ [e]) (he : kind e = true) :
    Adds kind s t :=
  ⟨[e], h, List.forall_mem_singleton.2 he⟩

theorem trans (h : Adds kind s t) (k : Adds kind t u) : Adds kind s u := by
  obtain ⟨es, hes, hk⟩ := h
  obtain ⟨fs, hfs, hk'⟩ := k
  refine ⟨es ++ fs, by rw [hfs, hes, List.append_assoc], fun e he => ?_⟩
  rcases List.mem_append.1 he with he | he
  · exact hk e he
  · exact hk' e he

end Adds

namespace Act

variable {α β ε : Type} {kind : Event → Bool}

/-- An action that adds only events of a kind, however it ends. -/
def Emits (kind : Event → Bool) (x : Act α) : Prop := ∀ s, Adds kind s (endState (x s))

theorem emits_pure (a : α) : Emits kind (pure a) := fun _ => .of_events rfl

theorem emits_throw (f : Failure) : Emits kind (throw f : Act α) := fun _ => .of_events rfl

theorem Emits.bind {x : Act α} {f : α → Act β} (hx : Emits kind x) (hf : ∀ a, Emits kind (f a)) :
    Emits kind (x >>= f) := by
  intro s
  have first := hx s
  cases h : x s with
  | ok a t =>
    rw [h] at first
    rw [bind_of_ok h]
    exact first.trans (hf a t)
  | error e t =>
    rw [h] at first
    rw [bind_of_error h]
    exact first

theorem emits_ofExcept (failure : ε → Failure) (r : Except ε α) :
    Emits kind (ofExcept failure r) := by
  cases r with
  | ok a => exact emits_pure a
  | error e => exact emits_throw _

theorem emits_log (level : Level) (event : String) (c : Context) :
    Emits kind (log level event c) := by
  intro s
  cases ht : s.logging.entryText level (.text event) c with
  | error f =>
    rw [log_of_error ht]
    exact .of_events rfl
  | ok text =>
    rw [log_of_ok ht]
    exact .of_events rfl

theorem emits_emit {e : Event} (h : kind e = true) : Emits kind (emit e) := fun _ =>
  .of_event rfl h

/-! ### The parts of operations -/

theorem emits_sessionConfig : Emits kind sessionConfig := by
  intro s
  obtain ⟨err, found⟩ := sessionConfig_apply s
  rw [found]
  cases s.configFound <;> exact .of_events rfl

theorem emits_sessionAgent : Emits kind sessionAgent := by
  intro s
  cases ha : s.session.agentProgram with
  | some a =>
    rw [sessionAgent_of_some ha]
    exact .of_events rfl
  | none =>
    rw [sessionAgent_of_unknown ha]
    exact emits_sessionConfig.bind (fun c _ => .of_events rfl) s

theorem emits_connect (h : kind .connect = true) : Emits kind connect := by
  intro s
  obtain ⟨r, k, es, err, hc, run⟩ := connect_cases s
  rw [run, endState_ended]
  rcases hc.events_cases with rfl | rfl
  · exact .of_events (List.append_nil _)
  · exact .of_event rfl h

theorem emits_deviceStatus (h : kind .status = true) : Emits kind deviceStatus := by
  intro s
  rw [deviceStatus_apply, endState_ended]
  exact .of_event rfl h

theorem emits_lock (h : kind .lock = true) : Emits kind lock := by
  intro s
  rw [lock_apply, endState_ended]
  exact .of_event rfl h

theorem emits_tryUnlock (h : ∀ p, kind (.unlock p) = true) (passphrase : String) :
    Emits kind (tryUnlock passphrase) := by
  intro s
  have last (r : Option Raised) (t : State) : endState (tried t r) = t := by
    cases r with
    | none => rfl
    | some e =>
      rw [tried]
      split <;> rfl
  rw [tryUnlock_apply, last]
  exact .of_event rfl (h passphrase)

section

variable (h : ∀ arguments, kind (.agent arguments) = true)
include h

theorem emits_askAgent (program verb arguments : String) :
    Emits kind (askAgent program verb arguments) := by
  intro s
  rw [askAgent_apply]
  cases s.world.startFault? program with
  | some f => exact .of_events rfl
  | none =>
    rw [endState_ended]
    exact .of_event rfl (h _)

theorem emits_inquirePassphrase (program : String) : Emits kind (inquirePassphrase program) :=
  (emits_askAgent h _ _ _).bind fun _ => (emits_ofExcept _ _).bind fun _ => emits_pure _

theorem emits_clearPassphrase (program : String) : Emits kind (clearPassphrase program) :=
  (emits_askAgent h _ _ _).bind fun _ => (emits_ofExcept _ _).bind fun _ => emits_log _ _ _

theorem emits_attemptUnlock (hu : ∀ p, kind (.unlock p) = true) {onRejection : Failure → Act Unit}
    (hr : ∀ f, Emits kind (onRejection f)) : Emits kind (attemptUnlock onRejection) := by
  refine emits_sessionAgent.bind fun agent => (emits_inquirePassphrase h _).bind fun p => ?_
  refine (emits_tryUnlock hu p).bind fun outcome => ?_
  cases outcome with
  | none => exact emits_log _ _ _
  | some rejection =>
    exact emits_sessionAgent.bind fun _ => (emits_clearPassphrase h _).bind fun _ => hr rejection

theorem emits_unlockAttempts (hu : ∀ p, kind (.unlock p) = true) (more : Nat) :
    Emits kind (unlockAttempts more) := by
  induction more with
  | zero => exact emits_attemptUnlock h hu fun f => emits_throw f
  | succ more ih => exact emits_attemptUnlock h hu fun f => (emits_log _ _ _).bind fun _ => ih

end

end Act

/-! ### Operations -/

/-- Whether an event may be one of an operation. -/
def Operation.mayCause : Operation → Event → Bool
  | .showStatus, .connect | .showStatus, .status => true
  | .openVolume, .connect | .openVolume, .agent _ | .openVolume, .unlock _ => true
  | .closeVolume, .flush | .closeVolume, .connect | .closeVolume, .lock => true
  | .clearPassphrase, .agent _ => true
  | _, _ => false

/-- An operation adds only its own events, however it ends. -/
theorem Act.emits_perform (o : Operation) : Emits o.mayCause (perform o) := by
  cases o with
  | showStatus =>
    exact (emits_connect rfl).bind fun _ => (emits_deviceStatus rfl).bind fun _ =>
      (emits_log _ _ _).bind fun _ => (emits_ofExcept _ _).bind fun _ _ => .of_events rfl
  | openVolume =>
    exact (emits_connect rfl).bind fun _ => emits_sessionConfig.bind fun _ =>
      emits_unlockAttempts (fun _ => rfl) (fun _ => rfl) _
  | closeVolume =>
    exact (emits_emit rfl).bind fun _ => (emits_connect rfl).bind fun _ =>
      (emits_lock rfl).bind fun _ => emits_log _ _ _
  | clearPassphrase =>
    exact emits_sessionAgent.bind fun _ => emits_clearPassphrase (fun _ => rfl) _

end StorageKey
