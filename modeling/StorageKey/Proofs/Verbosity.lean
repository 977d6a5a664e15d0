import StorageKey.Proofs.Invocation.Verbose
import StorageKey.Proofs.Program
import StorageKey.Proofs.Session.History
import StorageKey.Proofs.Session.Unlogged

/-!
# Verbose output changes nothing else

A command line does the same with verbose output as without, up to the standard error output, unless
an integer that only verbose entries tell is too long to be written. Then the verbose run fails.

* `World.TooLong`, `Unspeakable`: when there is such an integer;
* `Act.perform_alike`: operations of sessions that start in the same world;
* `Act.runProgram_verbose`: whole command lines.
-/

namespace StorageKey

open Decimal Usage Yaml

/-! ### Operations -/

/-- Whether the key is reached with a configuration. -/
def World.Reaches (w : World) (c : Config) : Prop :=
  ∃ a, w.backend c.backend = .ok a ∧ a.callError? w.device = none

/-- Whether an integer that an operation tells in verbose entries is too long to be written: the
number of attempts in the configuration, or an integer of the status that the key answers. -/
def World.TooLong (w : World) (path : Option Path) (o : Operation) : Prop :=
  ∃ c, w.config path = .ok c ∧ (isWritable (.int c.attempts) = false ∨
    o = .showStatus ∧ w.Reaches c ∧
      ∃ status, w.device.answer = .ok status ∧ isWritable (.map status.context) = false)

theorem World.isWritable_attempts {w : World} {path : Option Path} {o : Operation} {c : Config}
    (hl : ¬w.TooLong path o) (hc : w.config path = .ok c) :
    isWritable (.int c.attempts) = true := by
  by_contra hn
  exact hl ⟨c, hc, .inl (Bool.eq_false_iff.2 hn)⟩

theorem World.isWritable_status {w : World} {path : Option Path} {c : Config}
    (hl : ¬w.TooLong path .showStatus) (hc : w.config path = .ok c) (hr : w.Reaches c)
    {status : Status} (hs : w.device.answer = .ok status) :
    isWritable (.map status.context) = true := by
  by_contra hn
  exact hl ⟨c, hc, .inr ⟨rfl, hr, status, hs, Bool.eq_false_iff.2 hn⟩⟩

/-- Numbers up to one that can be written can be told in warnings. -/
theorem canWarn_of_isWritable {n left : Nat} (h : isWritable (.int n) = true) (hl : left ≤ n)
    (l : Logging) : CanWarn l left := by
  intro _
  rw [Act.isWritable_int_iff, Nat.length_toDigits_le_iff (by decide) (by decide)] at h
  exact (Nat.length_toDigits_le_iff (by decide) (by decide)).2 (Nat.lt_of_le_of_lt hl h)

theorem Logging.canTell_of_isWritable (l : Logging) {d : Datum} (h : isWritable d = true) :
    l.canTell d = true := by
  rw [canTell, h, Bool.or_true]

/-- States that differ only in what is printed on the standard error output stay alike. -/
theorem Alike.prints {s t u v : State} (h : Alike s t) (hu : OnlyPrints s u) (hv : OnlyPrints t v) :
    Alike u v := by
  obtain ⟨err, rfl⟩ := hu
  obtain ⟨err', rfl⟩ := hv
  exact ⟨h.world, h.out, h.events⟩

/-- States with fresh sessions that are alike. -/
structure FreshAlike (path : Option Path) (s t : State) : Prop extends Alike s t where
  left : s.session = .fresh path
  right : t.session = .fresh path

namespace Act

variable {path : Option Path} {s t : State} {o : Operation} {c : Config}

/-- A fresh session connects in a world only if the key is reached there. -/
theorem reaches_of_connect_given {u : State} (h : connect (s.given path c) = .ok () u) :
    s.world.Reaches c := by
  have factory : factoryOf (s.given path c) c = s.world.backend c.backend := rfl
  cases hb : s.world.backend c.backend with
  | error f =>
    obtain ⟨v, hv, -⟩ := connect_of_error (s := s.given path c) rfl (factory.trans hb)
    rw [hv] at h
    cases h
  | ok a =>
    obtain ⟨v, hv, -⟩ := connect_of_ok (s := s.given path c) rfl (factory.trans hb)
    rw [hv] at h
    cases he : a.callError? s.world.device with
    | none => exact ⟨a, hb, he⟩
    | some e =>
      rw [show (s.given path c).world = s.world from rfl, he] at h
      cases h

theorem begun_alike (h : FreshAlike path s t) (o : Operation) :
    FreshAlike path (s.begun o) (t.begun o) :=
  ⟨⟨h.world, h.out, congrArg (· ++ o.opening) h.events⟩, h.left, h.right⟩

/-- A configuration that a session finds is told alike, if it can be written or if logging is the
same. -/
theorem told_alike (h : FreshAlike path s t) (o : Operation)
    (hl : s.logging = t.logging ∨ ¬s.world.TooLong path o) :
    s.logging.told (s.world.config path) = t.logging.told (t.world.config path) := by
  rw [← h.world]
  rcases hl with hl | hl
  · rw [hl]
  · cases hc : s.world.config path with
    | error f => rfl
    | ok c =>
      have writable := World.isWritable_attempts hl hc
      simp only [Logging.told, Logging.canTell_of_isWritable _ writable]

/-- Entries of a session that was given the configuration that is found can be printed in the one
way of logging just if they can in the other. -/
theorem given_alike (h : Alike s t) (hc : s.world.config path = .ok c) (o : Operation)
    (hl : s.logging = t.logging ∨ ¬s.world.TooLong path o) :
    SameEnd Alike (proceed o (s.given path c)) (proceed o (t.given path c)) := by
  have known : SameKnowledge c s.logging t.logging (s.given path c) (t.given path c) :=
    ⟨⟨h.world, h.out, h.events⟩, rfl, rfl, rfl, rfl, rfl⟩
  have factory : factoryOf (s.given path c) c = factoryOf (t.given path c) c := by
    show s.world.backend c.backend = t.world.backend c.backend
    rw [h.world]
  have warn : ∀ left, left ≤ c.attempts → (CanWarn s.logging left ↔ CanWarn t.logging left) := by
    intro left hle
    rcases hl with hl | hl
    · rw [hl]
    · have writable := World.isWritable_attempts hl hc
      have warns (l : Logging) : CanWarn l left := canWarn_of_isWritable writable hle l
      exact iff_of_true (warns _) (warns _)
  have tell : o = .showStatus → ∀ u, connect (s.given path c) = .ok () u → ∀ status,
      s.world.device.answer = .ok status →
        s.logging.canTell (.map status.context) = t.logging.canTell (.map status.context) := by
    rintro rfl u hu status hs
    rcases hl with hl | hl
    · rw [hl]
    · have writable := World.isWritable_status hl hc (reaches_of_connect_given hu) hs
      rw [Logging.canTell_of_isWritable _ writable, Logging.canTell_of_isWritable _ writable]
  refine (proceed_alike known factory warn o tell).mono ?_
  intro u v k
  exact k.toAlike

/-- Operations in the same world end alike if what they tell can be written, or if logging is the
same. -/
theorem perform_alike (h : FreshAlike path s t) (o : Operation)
    (hl : s.logging = t.logging ∨ ¬s.world.TooLong path o) :
    SameEnd Alike (perform o s) (perform o t) := by
  rw [perform_apply, perform_apply]
  have begun := begun_alike h o
  obtain ⟨u, hu, hs⟩ := proceed_fresh_cases begun.left o
  obtain ⟨v, hv, ht⟩ := proceed_fresh_cases begun.right o
  have alike : Alike u v := begun.toAlike.prints hu hv
  have told : s.logging.told (s.world.config path) = t.logging.told (t.world.config path) :=
    told_alike h o hl
  rcases hs with ⟨f, hf, hs⟩ | ⟨c, hc, hs⟩ <;> rcases ht with ⟨g, hg, ht⟩ | ⟨d, hd, ht⟩
  · obtain rfl : f = g := Except.error.inj (hf.symm.trans (told.trans hg))
    rw [hs, ht]
    exact ⟨rfl, alike⟩
  · cases hf.symm.trans (told.trans hd)
  · cases hc.symm.trans (told.trans hg)
  · obtain rfl : c = d := Except.ok.inj (hc.symm.trans (told.trans hd))
    obtain ⟨found, -⟩ := Logging.eq_ok_of_told hc
    obtain ⟨err, rfl⟩ := hu
    obtain ⟨err', rfl⟩ := hv
    rw [hs, ht]
    exact given_alike alike found o hl

/-- An operation of a fresh session does not fail for the sake of logging if what it tells can be
written. -/
theorem noLogFault_perform (h : s.session = .fresh path) (o : Operation)
    (hl : ¬s.world.TooLong path o) : NoLogFault (perform o s) := by
  rw [perform_apply]
  have fresh : (s.begun o).session = .fresh path := h
  obtain ⟨u, ⟨err, rfl⟩, run⟩ := proceed_fresh_cases fresh o
  rcases run with ⟨f, hf, run⟩ | ⟨c, hc, run⟩
  · rw [run]
    rintro e t he
    cases he
    have told : s.logging.told (s.world.config path) = .error (.log e) := hf
    cases hc : s.world.config path with
    | error g =>
      rw [hc] at told
      exact s.world.unlogged_config path e (hc.trans told)
    | ok c =>
      have writable := World.isWritable_attempts hl hc
      rw [hc, Logging.told, Logging.canTell_of_isWritable _ writable] at told
      cases told
  · obtain ⟨found, -⟩ := Logging.eq_ok_of_told hc
    have writable := World.isWritable_attempts hl found
    rw [run]
    refine noLogFault_proceed rfl (fun left hle => canWarn_of_isWritable writable hle _) o ?_
    rintro rfl u hu status hs
    have reached : s.world.Reaches c :=
      reaches_of_connect_given (s := { s.begun .showStatus with err }) hu
    exact Logging.canTell_of_isWritable _ (World.isWritable_status hl found reached hs)

/-- A status that cannot be told is not shown. -/
theorem showStatus_of_not_canTell (h : s.session.config = some c) (hf : s.session.factory = none)
    (hr : s.world.Reaches c) {status : Status} (hs : s.world.device.answer = .ok status)
    (ht : s.logging.canTell (.map status.context) = false) :
    ∃ u, showStatus s = .error (.log (.integer .tooLarge)) u := by
  obtain ⟨a, ha, he⟩ := hr
  have factory : factoryOf s c = .ok a := by
    rw [factoryOf, hf]
    exact ha
  obtain ⟨u, hu, hr⟩ := connect_of_ok h factory
  rw [he] at hu
  have answered : deviceStatus u = .ok status { u with events := u.events ++ [.status] } := by
    rw [deviceStatus_apply, hr.world, hs]
    rfl
  have lost : u.logging.canPrint .debug "status_received" (statusContext status) = false := by
    rw [canPrint_status, hr.logging, ht]
  exact ⟨_, (bind_of_ok hu).trans ((bind_of_ok answered).trans
    (bind_of_error (log_of_not_canPrint (shallow_status status) lost)))⟩

/-- An operation of a fresh session fails in verbose output if what it tells is too long to be
written. -/
theorem perform_of_tooLong (h : s.session = .fresh path) (hv : s.logging = .ofVerbose true)
    (hl : s.world.TooLong path o) : ∃ u, perform o s = .error (.log (.integer .tooLarge)) u := by
  have cannot (d : Datum) (hd : isWritable d = false) : s.logging.canTell d = false := by
    rw [hv, Logging.canTell, hd, Logging.shows_ofVerbose_true, Logging.isVerbose_ofVerbose]
    rfl
  obtain ⟨c, hc, long⟩ := hl
  rw [perform_apply]
  have fresh : (s.begun o).session = .fresh path := h
  obtain ⟨u, ⟨err, rfl⟩, run⟩ := proceed_fresh_cases fresh o
  have told : s.logging.told (s.world.config path) =
      if s.logging.canTell (.int c.attempts) then .ok c
      else .error (.log (.integer .tooLarge)) := by
    rw [hc]
    rfl
  rcases run with ⟨f, hf, run⟩ | ⟨d, hd, run⟩
  · obtain rfl : f = .log (.integer .tooLarge) := by
      have := told.symm.trans hf
      split at this
      · cases this
      · exact (Except.error.inj this).symm
    exact ⟨_, run⟩
  · obtain ⟨found, can⟩ := Logging.eq_ok_of_told hd
    obtain rfl : c = d := Except.ok.inj (hc.symm.trans found)
    rcases long with hw | ⟨rfl, reached, status, hs, hw⟩
    · cases can.symm.trans (cannot _ hw)
    · rw [run]
      exact showStatus_of_not_canTell rfl rfl reached hs (cannot _ hw)

/-! ### Whole command lines -/

theorem noLogFault_conclude (command : Command) {x : EStateM.Result Failure State Unit}
    (h : NoLogFault x) : NoLogFault (conclude command x) := by
  cases x with
  | ok _ t => exact noLogFault_of_ok rfl
  | error f t =>
    show NoLogFault (report command f t)
    cases hk : f.kind? with
    | none =>
      rw [report_of_none hk]
      intro e u he
      cases he
      exact h e _ rfl
    | some k => exact noLogFault_of_ok (report_of_some hk command t)

/-- An invocation with arguments comes to the same with verbose output. -/
theorem runInvocation_loud_of_tail {i : Invocation} {name : String} {tail : List String}
    (hi : i.arguments = name :: tail) (h : tail ≠ []) (hs : Alike s t) :
    SameEnd Alike (runInvocation i.loud s) (runInvocation i t) ∧
      NoLogFault (runInvocation i.loud s) := by
  have loud (u : State) : dispatch Act.perform i.loud u = execute Act.perform i.command
      (name :: tail) { u with
        err := u.err ++
          u.logging.printed .debug "dispatching_command" (dispatchContext i.loud) } := by
    rw [dispatch_apply, show i.loud.arguments = i.arguments from rfl, hi]
    rfl
  have plain (u : State) : dispatch Act.perform i u = execute Act.perform i.command
      (name :: tail) { u with
        err := u.err ++ u.logging.printed .debug "dispatching_command" (dispatchContext i) } := by
    rw [dispatch_apply, hi]
  rcases execute_of_tail Act.perform i.command name h with ⟨help, -, run⟩ | ⟨e, run⟩
  · have left := runInvocation_of_ok ((loud (startOf i.loud s)).trans (run _))
    have right := runInvocation_of_ok ((plain (startOf i t)).trans (run _))
    rw [right, left]
    exact ⟨⟨rfl, hs.world, congrArg (· ++ help) hs.out, hs.events⟩, noLogFault_of_ok rfl⟩
  · have left := runInvocation_of_error ((loud (startOf i.loud s)).trans (run _))
    have right := runInvocation_of_error ((plain (startOf i t)).trans (run _))
    rw [report_arguments] at left right
    rw [right, left]
    exact ⟨⟨rfl, hs.world, hs.out, hs.events⟩, noLogFault_of_ok rfl⟩

/-- The operation of an invocation starts alike with verbose output. -/
theorem operationStart_alike (i : Invocation) (hs : Alike s t) :
    FreshAlike i.config (operationStart i.loud s) (operationStart i t) :=
  ⟨⟨hs.world, hs.out, hs.events⟩, rfl, rfl⟩

/-- An invocation comes to the same with verbose output if its operation, if it has one, does. -/
theorem runInvocation_loud {i : Invocation} {name : String} (hi : i.arguments.head? = some name)
    (hs : Alike s t) (hl : i.arguments.tail = [] → i.verbose = true ∨
      ¬s.world.TooLong i.config i.command.operation) :
    SameEnd Alike (runInvocation i.loud s) (runInvocation i t) := by
  obtain ⟨tail, ha⟩ : ∃ tail, i.arguments = name :: tail := List.head?_eq_some_iff.1 hi
  by_cases ht : tail = []
  · subst ht
    rw [runInvocation_of_name (i := i.loud) ha, runInvocation_of_name ha]
    have reports (f : Failure) (u v : State) (k : Alike u v) :
        Alike (afterReport i.command f u) (afterReport i.command f v) :=
      ⟨k.world, k.out, k.events⟩
    refine conclude_sameEnd i.command reports (perform_alike (operationStart_alike i hs) _ ?_)
    refine (hl (by rw [ha]; rfl)).imp ?_ id
    intro hv
    show Logging.ofVerbose true = Logging.ofVerbose i.verbose
    rw [hv]
  · exact (runInvocation_loud_of_tail ha ht hs).1

/-- Nothing that an invocation does in verbose output fails for the sake of logging, if what its
operation tells can be written. -/
theorem noLogFault_runInvocation_loud {i : Invocation} {name : String}
    (hi : i.arguments.head? = some name) (s : State)
    (hl : i.arguments.tail = [] → ¬s.world.TooLong i.config i.command.operation) :
    NoLogFault (runInvocation i.loud s) := by
  obtain ⟨tail, ha⟩ : ∃ tail, i.arguments = name :: tail := List.head?_eq_some_iff.1 hi
  by_cases ht : tail = []
  · subst ht
    rw [runInvocation_of_name (i := i.loud) ha]
    exact noLogFault_conclude i.command
      (noLogFault_perform (s := operationStart i.loud s) rfl _ (hl (by rw [ha]; rfl)))
  · exact (runInvocation_loud_of_tail ha ht ⟨rfl, rfl, rfl⟩).2

theorem runInvocation_of_tooLong {i : Invocation} {name : String} (hi : i.arguments = [name])
    (hl : s.world.TooLong i.config i.command.operation) :
    ∃ u, runInvocation i.loud s = .error (.log (.integer .tooLarge)) u := by
  obtain ⟨u, hu⟩ := perform_of_tooLong (s := operationStart i.loud s) rfl rfl hl
  refine ⟨u, ?_⟩
  rw [runInvocation_of_name (i := i.loud) hi, show i.loud.command = i.command from rfl, hu]
  exact report_of_none (f := .log (.integer .tooLarge)) rfl i.command u

end Act

/-- Whether a command line carries out an operation that tells, in verbose output, an integer that
is too long to be written. -/
def Unspeakable (args : List String) (w : World) : Prop :=
  ∃ i, Invocation.parse args = .ok i ∧ i.arguments.tail = [] ∧
    w.TooLong i.config i.command.operation

namespace Act

/-- A command line that is no invocation stays none behind the option for verbose output. -/
theorem runProgram_verbose_of_error {args : List String} {f : InvocationFault}
    (h : Invocation.parse args = .error f) (hs : Alike s t) :
    SameEnd Alike (runProgram ("-v" :: args) s) (runProgram args t) ∧
      NoLogFault (runProgram ("-v" :: args) s) := by
  have same : parseInvocation ("-v" :: args) = parseInvocation args := by
    rw [parseInvocation, parseInvocation, Invocation.parse_verbose, h]
    rfl
  have run : runProgram ("-v" :: args) = runProgram args := by
    rw [runProgram, runProgram, same]
  obtain ⟨r, out, err, -, unlogged, ends⟩ := runProgram_of_error h
  rw [run, ends, ends]
  refine ⟨.ended r ⟨hs.world, ?_, hs.events⟩, noLogFault_ended unlogged _⟩
  exact congrArg (· ++ out) hs.out

/-- The option for verbose output in front of a command line changes nothing but the standard error
output, and no entry keeps the run from its end, unless it has to tell an integer that is too long
to be written. Then the run fails with verbose output. A line that asks for verbose output itself is
not changed at all. -/
theorem runProgram_verbose (args : List String) (s : State) (logging : Logging) (session : Session)
    (err : String) :
    let t : State := { s with logging, session, err }
    (¬Unspeakable args s.world →
      SameEnd Alike (runProgram ("-v" :: args) s) (runProgram args t) ∧
        NoLogFault (runProgram ("-v" :: args) s)) ∧
    (Unspeakable args s.world →
      ∃ u, runProgram ("-v" :: args) s = .error (.log (.integer .tooLarge)) u) ∧
    ∀ i, Invocation.parse args = .ok i → i.verbose = true →
      SameEnd Alike (runProgram ("-v" :: args) s) (runProgram args t) := by
  intro t
  have alike : Alike s t := ⟨rfl, rfl, rfl⟩
  cases hp : Invocation.parse args with
  | error f =>
    refine ⟨fun _ => runProgram_verbose_of_error hp alike, ?_, ?_⟩
    · rintro ⟨i, hi, -⟩
      cases hp.symm.trans hi
    · intro i hi
      cases hi
  | ok i =>
    have loud : Invocation.parse ("-v" :: args) = .ok i.loud := by
      rw [Invocation.parse_verbose, hp]
      rfl
    have arguments := arguments_of_parse hp
    have head : i.arguments.head? = some (programName ++ " " ++ i.command.word) := by
      rw [arguments]
      rfl
    have sameEnd (hl : i.arguments.tail = [] → i.verbose = true ∨
        ¬s.world.TooLong i.config i.command.operation) :
        SameEnd Alike (runProgram ("-v" :: args) s) (runProgram args t) := by
      rw [runProgram_of_invocation loud, runProgram_of_invocation hp]
      exact EndsAlike.bind (runInvocation_loud head alike hl) fun _ _ _ _ k => ⟨rfl, k⟩
    refine ⟨?_, ?_, ?_⟩
    · intro hu
      have fits (ht : i.arguments.tail = []) : ¬s.world.TooLong i.config i.command.operation :=
        fun hl => hu ⟨i, hp, ht, hl⟩
      refine ⟨sameEnd fun ht => .inr (fits ht), ?_⟩
      rw [runProgram_of_invocation loud]
      exact NoLogFault.bind (noLogFault_runInvocation_loud head s fits) fun _ _ _ =>
        noLogFault_of_ok rfl
    · rintro ⟨j, hj, ht, hl⟩
      obtain rfl : i = j := Except.ok.inj (hp.symm.trans hj)
      have single : i.arguments = [programName ++ " " ++ i.command.word] := by
        rw [arguments] at ht ⊢
        rw [List.tail_cons] at ht
        rw [ht]
      obtain ⟨u, hu⟩ := runInvocation_of_tooLong single hl
      refine ⟨u, ?_⟩
      rw [runProgram_of_invocation loud]
      exact bind_of_error hu
    · intro j hj hv
      obtain rfl : i = j := Except.ok.inj hj
      exact sameEnd fun _ => .inl hv

end Act

end StorageKey
