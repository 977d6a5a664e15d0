import StorageKey.Proofs.Program
import StorageKey.Proofs.Session.Emission

/-!
# What is pending is written before the volume is closed

Closing the volume writes what is pending, connects to the key and locks it. It does not lock if it
cannot connect. No other operation writes what is pending or locks, so whatever is done, by whoever
and while the world changes, each lock directly follows the writing and the connecting of its own
closing.

* `Closes`, `Act.closeVolume_cases`: how closing the volume ends, and its events;
* `Deed`, `Deed.Causes`, `Chronicle`: what is done, one deed after the other, and the events of each;
* `flush_before_lock`: in every chronicle, what is pending is written right before each lock.
-/

namespace StorageKey

open Act

/-! ### Closing the volume -/

/-- How closing the volume ends, and its events. -/
inductive Closes (s : State) : Except Failure Unit → List Event → Prop
  /-- There is no configuration or no way to reach the key, or the key raises an error when it is
  called. -/
  | unconnected {f : Failure} {k : Session} {es : List Event} (h : Connects s (.error f) k es) :
      Closes s (.error f) (.flush :: es)
  /-- The key is locked, if it raises no error then. -/
  | connected {k : Session} {es : List Event} (h : Connects s (.ok ()) k es) :
      Closes s (unlessRaised s.world.device.lockError) (.flush :: (es ++ [.lock]))

/-- Connecting does not look at what has been done before. -/
theorem Connects.of_emit {s : State} {e : Event} {r : Except Failure Unit} {k : Session}
    {es : List Event} (h : Connects { s with events := s.events ++ [e] } r k es) :
    Connects s r k es := by
  cases h with
  | unconfigured hc => exact .unconfigured hc
  | unreached hc hf => exact .unreached hc hf
  | called hc hf => exact .called hc hf

/-- The key is locked, and this is said if it raises no error. -/
theorem Act.lock_log_apply (s : State) : ∃ u, (lock >>= fun _ => log .info "volume_closed" []) s =
    ended (unlessRaised s.world.device.lockError) u ∧ u.events = s.events ++ [.lock] := by
  have locks := lock_apply s
  cases hl : s.world.device.lockError with
  | some e =>
    rw [hl] at locks
    exact ⟨_, bind_of_error locks, rfl⟩
  | none =>
    rw [hl] at locks
    obtain ⟨u, hu, err, rfl⟩ :=
      log_onlyPrints (by decide +kernel : Showable .info "volume_closed") Context.writable_nil
        { s with
          world := { s.world with device := s.world.device.locked }
          events := s.events ++ [.lock] }
    exact ⟨_, (bind_of_ok locks).trans hu, rfl⟩

theorem Act.closeVolume_cases (s : State) : ∃ r es u, Closes s r es ∧
    closeVolume s = ended r u ∧ u.events = s.events ++ es := by
  obtain ⟨r, k, es, err, connects, run⟩ := connect_cases { s with events := s.events ++ [.flush] }
  have first : closeVolume s = (connect >>= fun _ => lock >>= fun _ =>
      log .info "volume_closed" []) { s with events := s.events ++ [.flush] } :=
    bind_of_ok (emit_apply .flush s)
  cases r with
  | error f =>
    refine ⟨_, _, _, .unconnected connects.of_emit, first.trans (bind_of_error run), ?_⟩
    exact List.append_assoc s.events [.flush] es
  | ok _ =>
    obtain ⟨u, locks, events⟩ := lock_log_apply { s with
      session := k, events := s.events ++ [.flush] ++ es, err }
    refine ⟨_, _, u, .connected connects.of_emit, first.trans ((bind_of_ok run).trans locks), ?_⟩
    rw [events, List.append_assoc, List.append_assoc]
    rfl

theorem Closes.events_cases {s : State} {r : Except Failure Unit} {es : List Event}
    (h : Closes s r es) : ∃ cs, (cs = [] ∨ cs = [.connect]) ∧
      (es = .flush :: cs ∨ es = .flush :: (cs ++ [.lock])) := by
  cases h with
  | unconnected h => exact ⟨_, h.events_cases, .inl rfl⟩
  | connected h => exact ⟨_, h.events_cases, .inr rfl⟩

/-- Without a connection, what is pending is written and the key is not locked. -/
theorem Act.closeVolume_of_connect_error {s t : State} {f : Failure}
    (h : connect s = .error f t) : ∃ u cs, closeVolume s = .error f u ∧
      (cs = [] ∨ cs = [.connect]) ∧ u.events = s.events ++ .flush :: cs := by
  obtain ⟨r, k, cs, err, connects, run⟩ := connect_cases s
  cases r with
  | ok _ => cases h.symm.trans run
  | error g =>
    obtain ⟨rfl, -⟩ := EStateM.Result.error.inj (h.symm.trans run)
    obtain ⟨r, es, u, closes, closed, events⟩ := closeVolume_cases s
    cases closes with
    | unconnected connects' =>
      obtain ⟨hr, -, -⟩ := connects.unique connects'
      obtain rfl := Except.error.inj hr
      exact ⟨u, _, closed, connects'.events_cases, events⟩
    | connected connects' => cases (connects.unique connects').1

/-! ### One deed after the other -/

/-- What is done: something changes the world, the way of logging and the session as it likes, an
operation is performed in the session, or a whole command line is run. -/
inductive Deed
  | change (world : World → World) (logging : Logging → Logging) (session : Session → Session)
  | operation (o : Operation)
  | program (args : List String)

namespace Deed

/-- The state after a deed, however it ends. -/
def after : Deed → State → State
  | change world logging session, s => { s with
      world := world s.world, logging := logging s.logging, session := session s.session }
  | operation o, s => endState (perform o s)
  | program args, s => endState (runProgram args s)

/-- The operation that is performed in a deed, if there is one, and the state in which it starts. -/
def operation? : Deed → State → Option (Operation × State)
  | change _ _ _, _ => none
  | operation o, s => some (o, s)
  | program args, s =>
    match Invocation.parse args with
    | .error _ => none
    | .ok i =>
      match i.arguments with
      | [_] => some (i.command.operation, operationStart i s)
      | _ => none

/-- Events that a deed can have: those of its operation, if there is one. -/
def Causes (d : Deed) (s : State) (es : List Event) : Prop :=
  match d.operation? s with
  | none => es = []
  | some (.closeVolume, t) => ∃ r u, perform .closeVolume t = ended r u ∧ Closes t r es
  | some (o, _) => ∀ e ∈ es, o.mayCause e = true

end Deed

/-- The state after deeds. -/
def State.afterDeeds (s : State) (ds : List Deed) : State := ds.foldl (fun s d => d.after s) s

/-- The events of deeds that follow one another, one list for each deed. -/
inductive Chronicle : State → List Deed → List (List Event) → Prop
  | nil (s : State) : Chronicle s [] []
  | cons {s : State} {d : Deed} {ds : List Deed} {es : List Event} {ess : List (List Event)}
      (h : d.Causes s es) (hs : Chronicle (d.after s) ds ess) : Chronicle s (d :: ds) (es :: ess)

/-- What an operation causes. -/
theorem Operation.exists_causes (o : Operation) (s : State) : ∃ es,
    (endState (perform o s)).events = s.events ++ es ∧
      match o with
      | .closeVolume => ∃ r u, perform .closeVolume s = ended r u ∧ Closes s r es
      | o => ∀ e ∈ es, o.mayCause e = true := by
  cases o with
  | closeVolume =>
    obtain ⟨r, es, u, closes, run, events⟩ := closeVolume_cases s
    refine ⟨es, ?_, r, u, run, closes⟩
    rw [show perform .closeVolume s = _ from run, endState_ended]
    exact events
  | showStatus => exact emits_perform .showStatus s
  | openVolume => exact emits_perform .openVolume s
  | clearPassphrase => exact emits_perform .clearPassphrase s

/-- The end of a command after its operation has the events of the operation. -/
theorem events_conclude (c : Command) (x : EStateM.Result Failure State Unit) :
    (endState (conclude c x)).events = (endState x).events := by
  cases x with
  | ok _ t => rfl
  | error f t =>
    show (endState (report c f t)).events = t.events
    cases hk : f.kind? with
    | none =>
      rw [report_of_none hk]
      rfl
    | some k =>
      rw [report_of_some hk]
      rfl

/-- A command line has the events of its invocation. -/
theorem events_runProgram {args : List String} {i : Invocation}
    (h : Invocation.parse args = .ok i) (s : State) :
    (endState (runProgram args s)).events = (endState (runInvocation i s)).events := by
  rw [runProgram_of_invocation h]
  cases hr : runInvocation i s with
  | ok code t =>
    rw [bind_of_ok hr]
    rfl
  | error f t =>
    rw [bind_of_error hr]
    rfl

/-- A command line adds events that it can have: none if it is not accepted or its command has
arguments, and those of its operation otherwise. -/
theorem Deed.exists_causes_program (args : List String) (s : State) : ∃ es,
    (Deed.program args).Causes s es ∧ (endState (runProgram args s)).events = s.events ++ es := by
  have silent : s.events = s.events ++ [] := (List.append_nil _).symm
  cases hp : Invocation.parse args with
  | error f =>
    obtain ⟨r, out, err, -, -, run⟩ := runProgram_of_error hp
    refine ⟨[], ?_, ?_⟩
    · rw [Causes, operation?, hp]
    · rw [run, endState_ended]
      exact silent
  | ok i =>
    have tail := arguments_of_parse hp
    rw [events_runProgram hp]
    by_cases hd : args.drop (commandIndex args + 1) = []
    · rw [hd] at tail
      obtain ⟨es, events, causes⟩ := i.command.operation.exists_causes (operationStart i s)
      refine ⟨es, ?_, ?_⟩
      · rw [Causes, operation?, hp]
        simp only [tail]
        revert causes
        cases i.command.operation <;> exact id
      · rw [runInvocation_of_name tail, events_conclude, events]
        rfl
    · have idle : (Deed.program args).operation? s = none := by
        rw [operation?, hp]
        simp only [tail]
        cases ht : args.drop (commandIndex args + 1) with
        | nil => exact absurd ht hd
        | cons _ _ => rfl
      refine ⟨[], by rw [Causes, idle], ?_⟩
      rcases runInvocation_of_tail tail hd with ⟨help, -, run⟩ | ⟨e, run⟩
      · rw [run]
        exact silent
      · rw [run]
        exact silent

/-- A deed adds events that it can have. -/
theorem Deed.exists_causes (d : Deed) (s : State) :
    ∃ es, d.Causes s es ∧ (d.after s).events = s.events ++ es := by
  cases d with
  | change world logging session => exact ⟨[], rfl, (List.append_nil _).symm⟩
  | operation o =>
    obtain ⟨es, events, causes⟩ := o.exists_causes s
    refine ⟨es, ?_, events⟩
    cases o <;> exact causes
  | program args => exact exists_causes_program args s

/-- Deeds have a chronicle, and its events are those that they add. -/
theorem exists_chronicle (s : State) (ds : List Deed) :
    ∃ ess, Chronicle s ds ess ∧ (s.afterDeeds ds).events = s.events ++ ess.flatten := by
  induction ds generalizing s with
  | nil => exact ⟨[], .nil s, (List.append_nil _).symm⟩
  | cons d ds ih =>
    obtain ⟨es, causes, events⟩ := d.exists_causes s
    obtain ⟨ess, chronicle, rest⟩ := ih (d.after s)
    refine ⟨es :: ess, .cons causes chronicle, ?_⟩
    show (State.afterDeeds (d.after s) ds).events = _
    rw [rest, events, List.append_assoc, List.flatten_cons]

/-! ### Writing before locking -/

/-- What is pending is written before each lock, with nothing but a connecting between. -/
def FlushesFirst (es : List Event) : Prop :=
  ∀ before after, es = before ++ .lock :: after →
    ∃ earlier, before = earlier ++ [.flush] ∨ before = earlier ++ [.flush, .connect]

theorem FlushesFirst.of_not_mem {es : List Event} (h : .lock ∉ es) : FlushesFirst es := by
  rintro before after rfl
  exact absurd (List.mem_append_right before List.mem_cons_self) h

theorem FlushesFirst.append {es fs : List Event} (h : FlushesFirst es) (k : FlushesFirst fs) :
    FlushesFirst (es ++ fs) := by
  intro before after he
  rcases List.append_eq_append_iff.1 he with ⟨mid, rfl, hf⟩ | ⟨mid, rfl, hf⟩
  · obtain ⟨earlier, rfl | rfl⟩ := k mid after hf
    · exact ⟨es ++ earlier, .inl (List.append_assoc _ _ _).symm⟩
    · exact ⟨es ++ earlier, .inr (List.append_assoc _ _ _).symm⟩
  · cases mid with
    | nil =>
      -- The lock is the first of the later events, so that nothing has been written before it.
      obtain ⟨earlier, none | none⟩ := k [] after hf.symm <;>
        exact absurd none.symm (List.append_ne_nil_of_right_ne_nil _ (List.cons_ne_nil _ _))
    | cons e rest =>
      obtain ⟨rfl, -⟩ := List.cons.inj hf
      exact h before rest rfl

theorem FlushesFirst.flatten {ess : List (List Event)} (h : ∀ es ∈ ess, FlushesFirst es) :
    FlushesFirst ess.flatten := by
  induction ess with
  | nil => exact .of_not_mem (List.not_mem_nil)
  | cons es ess ih =>
    rw [List.flatten_cons]
    exact (h es List.mem_cons_self).append (ih fun fs hf => h fs (List.mem_cons_of_mem _ hf))

/-- What is pending is written first when the volume is closed. -/
theorem Closes.flushesFirst {s : State} {r : Except Failure Unit} {es : List Event}
    (h : Closes s r es) : FlushesFirst es := by
  obtain ⟨cs, hc, rfl | rfl⟩ := h.events_cases
  · refine .of_not_mem ?_
    rcases hc with rfl | rfl <;> decide
  · intro before after he
    -- The lock that is looked at is the last event, since no other event is one.
    have last : after = [] ∧ before = .flush :: cs := by
      rcases hc with rfl | rfl <;>
        rcases before with _ | ⟨_, _ | ⟨_, _ | ⟨_, before⟩⟩⟩ <;> simp_all
    obtain ⟨-, rfl⟩ := last
    refine ⟨[], ?_⟩
    rcases hc with rfl | rfl
    · exact .inl rfl
    · exact .inr rfl

/-- A deed that writes what is pending or locks the key closes the volume. -/
theorem Deed.Causes.closes {d : Deed} {s : State} {es : List Event} (h : d.Causes s es)
    (he : .flush ∈ es ∨ .lock ∈ es) :
    ∃ t r, d.operation? s = some (.closeVolume, t) ∧ Closes t r es := by
  unfold Deed.Causes at h
  cases ho : d.operation? s with
  | none =>
    rw [ho] at h
    cases h
    rcases he with he | he <;> cases he
  | some p =>
    obtain ⟨o, t⟩ := p
    rw [ho] at h
    cases o with
    | closeVolume =>
      obtain ⟨r, u, -, closes⟩ := h
      exact ⟨t, r, rfl, closes⟩
    | showStatus => rcases he with he | he <;> cases h _ he
    | openVolume => rcases he with he | he <;> cases h _ he
    | clearPassphrase => rcases he with he | he <;> cases h _ he

theorem Deed.Causes.flushesFirst {d : Deed} {s : State} {es : List Event} (h : d.Causes s es) :
    FlushesFirst es := by
  by_cases he : .lock ∈ es
  · obtain ⟨t, r, -, closes⟩ := h.closes (.inr he)
    exact closes.flushesFirst
  · exact .of_not_mem he

namespace Chronicle

variable {s : State} {ds : List Deed} {ess : List (List Event)}

theorem flushesFirst (h : Chronicle s ds ess) : ∀ es ∈ ess, FlushesFirst es := by
  induction h with
  | nil s => exact nofun
  | cons causes _ ih => exact List.forall_mem_cons.2 ⟨causes.flushesFirst, ih⟩

/-- The events of a chronicle belong to its deeds. -/
theorem causes (h : Chronicle s ds ess) {n : Nat} {d : Deed} {es : List Event}
    (hd : ds[n]? = some d) (he : ess[n]? = some es) : d.Causes (s.afterDeeds (ds.take n)) es := by
  induction h generalizing n with
  | nil s => cases hd
  | cons causes _ ih =>
    cases n with
    | zero =>
      cases hd
      cases he
      exact causes
    | succ n => exact ih hd he

end Chronicle

/-- Whatever is done, one deed after the other, what is pending is written before each lock, with
nothing but a connecting between. Both are done by closing the volume alone, each at most once and
in this order; and a closing that cannot connect to the key writes what is pending, and does not
lock. -/
theorem flush_before_lock :
    (∀ (s : State) (ds : List Deed), ∃ ess, Chronicle s ds ess ∧
      (s.afterDeeds ds).events = s.events ++ ess.flatten ∧ FlushesFirst ess.flatten ∧
      ∀ (n : Nat) (d : Deed) (es : List Event), ds[n]? = some d → ess[n]? = some es →
        .flush ∈ es ∨ .lock ∈ es →
        ∃ t r, d.operation? (s.afterDeeds (ds.take n)) = some (.closeVolume, t) ∧ Closes t r es ∧
          ∃ cs, (cs = [] ∨ cs = [.connect]) ∧
            (es = .flush :: cs ∨ es = .flush :: (cs ++ [.lock]))) ∧
    ∀ (s : State) f t, connect s = .error f t → ∃ u cs, perform .closeVolume s = .error f u ∧
      (cs = [] ∨ cs = [.connect]) ∧ u.events = s.events ++ .flush :: cs := by
  refine ⟨fun s ds => ?_, fun s f t h => closeVolume_of_connect_error h⟩
  obtain ⟨ess, chronicle, events⟩ := exists_chronicle s ds
  refine ⟨ess, chronicle, events, .flatten chronicle.flushesFirst, fun n d es hd hes he => ?_⟩
  obtain ⟨t, r, ho, closes⟩ := (chronicle.causes hd hes).closes he
  exact ⟨t, r, ho, closes, closes.events_cases⟩

end StorageKey
