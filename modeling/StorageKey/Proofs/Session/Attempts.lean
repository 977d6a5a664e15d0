import StorageKey.Proofs.Session.Steps

/-!
# Attempts to open the volume

An attempt asks the agent program for a passphrase, tries it on the key, and has it cleared if the
key rejects it. Only after that may another attempt follow, and only as often as the configuration
says.

* `Attempt`, `Tries`: what one attempt comes to, and the world it meets and leaves;
* `Attempts`: attempts one after another;
* `openVolume_cases`: what opening the volume does and how it ends.
-/

namespace StorageKey

open Decimal

/-- What one attempt to open the volume comes to. -/
inductive Attempt
  /-- The agent program cannot be started. -/
  | unasked (failure : Failure)
  /-- The agent program gives no passphrase. -/
  | unanswered (failure : Failure)
  | opened (passphrase : String)
  /-- The key fails otherwise than by rejecting the passphrase. -/
  | failed (passphrase : String) (error : Raised)
  /-- The passphrase is rejected, but not cleared. -/
  | uncleared (passphrase : String) (error : Raised) (failure : Failure)
  /-- The passphrase is rejected and cleared. -/
  | rejected (passphrase : String) (error : Raised)

/-- Whether an error is that the key rejects the passphrase. -/
def Raised.isRejection (e : Raised) : Bool := (Failure.raised e).isWrongPassphrase

namespace Attempt

/-- The events of an attempt. -/
def events : Attempt → List Event
  | unasked _ => []
  | unanswered _ => [Act.inquiryEvent]
  | opened p | failed p _ => [Act.inquiryEvent, .unlock p]
  | uncleared p _ _ | rejected p _ => [Act.inquiryEvent, .unlock p, Act.clearanceEvent]

/-- How an attempt ends if nothing follows it. -/
def ending : Attempt → Except Failure Unit
  | unasked f | unanswered f | uncleared _ _ f => .error f
  | opened _ => .ok ()
  | failed _ e | rejected _ e => .error (.raised e)

/-- Whether the passphrase is rejected and cleared. -/
def isRejected : Attempt → Bool
  | rejected _ _ => true
  | _ => false

/-- The end of an attempt, with what is done after a rejection. -/
def resume (onRejection : Failure → Act Unit) (t : State) :
    Attempt → EStateM.Result Failure State Unit
  | rejected _ e => onRejection (.raised e) t
  | a => ended a.ending t

end Attempt

/-- An attempt in a world, and the world after it. Each of its steps is taken only if the one before
it went well: the passphrase that is tried is the one in the answer, and it is cleared only if the
key rejects it. -/
inductive Tries (program : String) (w : World) : Attempt → World → Prop
  | unasked {f : Failure} (hs : w.startFault? program = some f) : Tries program w (.unasked f) w
  | unanswered {f : Failure} (hs : w.startFault? program = none)
      (hp : w.passphrase program = .error f) : Tries program w (.unanswered f) w.asked
  | opened {p : String} (hs : w.startFault? program = none) (hp : w.passphrase program = .ok p)
      (hu : w.asked.device.unlockError? p = none) : Tries program w (.opened p) (w.asked.tried p)
  | failed {p : String} {e : Raised} (hs : w.startFault? program = none)
      (hp : w.passphrase program = .ok p) (hu : w.asked.device.unlockError? p = some e)
      (he : e.isRejection = false) : Tries program w (.failed p e) (w.asked.tried p)
  | uncleared {p : String} {e : Raised} {f : Failure} (hs : w.startFault? program = none)
      (hp : w.passphrase program = .ok p) (hu : w.asked.device.unlockError? p = some e)
      (he : e.isRejection = true) (hc : (w.asked.tried p).clearance program = .error f) :
      Tries program w (.uncleared p e f) (w.asked.tried p).asked
  | rejected {p : String} {e : Raised} (hs : w.startFault? program = none)
      (hp : w.passphrase program = .ok p) (hu : w.asked.device.unlockError? p = some e)
      (he : e.isRejection = true) (hc : (w.asked.tried p).clearance program = .ok ()) :
      Tries program w (.rejected p e) (w.asked.tried p).asked

/-! ### Attempts one after another -/

/-- Whether the warning that a number of attempts is left can be shown: it is not shown at all, or
the number is not too long to be written. -/
def CanWarn (l : Logging) (left : Nat) : Prop :=
  l.shows .warning = true → (Nat.toDigits 10 left).length ≤ digitLimit

/-- The data of the warning. -/
def warningContext (left : Nat) : Context := [("retries_left", .int left)]

/-- Attempts of which `more` may follow the first, from a world to another. Each but the last is
rejected, and the warning about it can be shown; the last is not, or nothing may follow it. -/
inductive Attempts (program : String) (l : Logging) : Nat → World → List Attempt → World → Prop
  | last {more : Nat} {w w' : World} {a : Attempt} (h : Tries program w a w')
      (hl : a.isRejected = true → more = 0 ∨ ¬CanWarn l more) : Attempts program l more w [a] w'
  | next {more : Nat} {w w' w'' : World} {p : String} {e : Raised} {as : List Attempt}
      (h : Tries program w (.rejected p e) w') (hw : CanWarn l (more + 1))
      (hr : Attempts program l more w' as w'') :
      Attempts program l (more + 1) w (.rejected p e :: as) w''

/-- How attempts end with this one while a number of attempts is left. A rejection is the error if
none is left; else the warning about it is. -/
def Attempt.endingWith (left : Nat) : Attempt → Except Failure Unit
  | rejected _ e => if left = 0 then .error (.raised e) else .error (.log (.integer .tooLarge))
  | a => a.ending

namespace Attempts

variable {program : String} {l : Logging} {more : Nat} {w w' : World} {as : List Attempt}

theorem length_le (h : Attempts program l more w as w') : as.length ≤ more + 1 := by
  induction h with
  | last _ _ => simp
  | next _ _ _ ih => simpa using ih

theorem length_pos (h : Attempts program l more w as w') : 1 ≤ as.length := by
  cases h <;> simp

/-- Another attempt follows just if this one is rejected and cleared, one is left, and the warning
about it can be shown. -/
theorem lt_length_iff (h : Attempts program l more w as w') {j : Nat} (hj : j < as.length) :
    j + 1 < as.length ↔ as[j].isRejected = true ∧ j < more ∧ CanWarn l (more - j) := by
  induction h generalizing j with
  | @last more w w' a h hl =>
    obtain rfl : j = 0 := by simpa using hj
    refine ⟨fun h => absurd h (by simp), ?_⟩
    rintro ⟨hr, hm, hw⟩
    rcases hl hr with rfl | hn
    · omega
    · exact absurd hw hn
  | @next more w w' w'' p e as h hw hr ih =>
    cases j with
    | zero =>
      have pos := hr.length_pos
      refine ⟨fun _ => ⟨rfl, by omega, hw⟩, fun _ => ?_⟩
      rw [List.length_cons]
      omega
    | succ j =>
      rw [List.length_cons] at hj ⊢
      have := ih (j := j) (by omega)
      rw [List.getElem_cons_succ, Nat.add_lt_add_iff_right, Nat.add_lt_add_iff_right,
        Nat.add_sub_add_right]
      exact this

end Attempts

namespace Act

/-! ### One attempt -/

/-- The end of trying a passphrase on the key. -/
def tried (t : State) : Option Raised → EStateM.Result Failure State (Option Failure)
  | none => .ok none t
  | some e => if e.isRejection then .ok (some (.raised e)) t else .error (.raised e) t

theorem tryUnlock_apply (passphrase : String) (s : State) : tryUnlock passphrase s =
    tried { s with
      world := s.world.tried passphrase
      events := s.events ++ [.unlock passphrase] } (s.world.device.unlockError? passphrase) := by
  unfold tryUnlock
  rw [unlock_apply]
  cases s.world.device.unlockError? passphrase <;> rfl

theorem tryUnlock_reaches (passphrase : String) (s : State) :
    ∃ t, tryUnlock passphrase s = tried t (s.world.device.unlockError? passphrase) ∧
      Reaches s t [.unlock passphrase] (s.world.tried passphrase) :=
  ⟨_, tryUnlock_apply passphrase s, rfl, rfl, rfl, rfl, rfl, fun _ _ => rfl⟩

/-- What follows the trial of a passphrase. -/
def afterUnlock (onRejection : Failure → Act Unit) : Option Failure → Act Unit
  | none => log .info "volume_opened" []
  | some rejection => (sessionAgent >>= clearPassphrase) >>= fun _ => onRejection rejection

theorem attemptUnlock_eq (onRejection : Failure → Act Unit) : attemptUnlock onRejection =
    (sessionAgent >>= inquirePassphrase) >>= fun passphrase =>
      tryUnlock passphrase >>= afterUnlock onRejection := by
  rw [attemptUnlock, bind_assoc]
  refine bind_congr fun agent => bind_congr fun passphrase => bind_congr fun r => ?_
  cases r with
  | none => rfl
  | some rejection => exact (bind_assoc _ _ _).symm

section

variable {s : State} {c : Config}

/-- An agent program that cannot be started gets no request. -/
theorem inquire_of_fault (h : s.session.config = some c) {f : Failure}
    (hs : s.world.startFault? (agentOf s c) = some f) :
    ∃ t, (sessionAgent >>= inquirePassphrase) s = .error f t ∧ Reaches s t [] s.world := by
  obtain ⟨t, ht, hr⟩ := sessionAgent_of_config h
  obtain ⟨u, hu, hr'⟩ := inquirePassphrase_of_fault (hr.world.symm ▸ hs)
  rw [hr.world] at hr'
  exact ⟨u, (bind_of_ok ht).trans hu, hr.trans hr'⟩

/-- The session makes one request for the passphrase. -/
theorem inquire_of_start (h : s.session.config = some c)
    (hs : s.world.startFault? (agentOf s c) = none) :
    ∃ t, (sessionAgent >>= inquirePassphrase) s = ended (s.world.passphrase (agentOf s c)) t ∧
      Reaches s t [inquiryEvent] s.world.asked := by
  obtain ⟨t, ht, hr⟩ := sessionAgent_of_config h
  obtain ⟨u, hu, hr'⟩ := inquirePassphrase_of_start (hr.world.symm ▸ hs)
  rw [hr.world] at hu hr'
  exact ⟨u, (bind_of_ok ht).trans hu, hr.silent hr'⟩

/-- The session makes one request to clear the passphrase. -/
theorem clear_of_start (h : s.session.config = some c)
    (hs : s.world.startFault? (agentOf s c) = none) :
    ∃ t, (sessionAgent >>= clearPassphrase) s = ended (s.world.clearance (agentOf s c)) t ∧
      Reaches s t [clearanceEvent] s.world.asked := by
  obtain ⟨t, ht, hr⟩ := sessionAgent_of_config h
  obtain ⟨u, hu, hr'⟩ := clearPassphrase_of_start (hr.world.symm ▸ hs)
  rw [hr.world] at hu hr'
  exact ⟨u, (bind_of_ok ht).trans hu, hr.silent hr'⟩

/-- An attempt adds its events, and goes on only after a rejection. -/
theorem attemptUnlock_cases (h : s.session.config = some c) :
    ∃ a w t, Tries (agentOf s c) s.world a w ∧ Reaches s t a.events w ∧
      ∀ onRejection, attemptUnlock onRejection s = a.resume onRejection t := by
  simp only [attemptUnlock_eq]
  -- Each step ends the attempt or is followed by the next one, so the cases are nested.
  cases hs : s.world.startFault? (agentOf s c) with
  | some f =>
    obtain ⟨t, ht, hr⟩ := inquire_of_fault h hs
    exact ⟨.unasked f, _, t, .unasked hs, hr, fun onRejection => bind_of_error ht⟩
  | none =>
    obtain ⟨t, ht, hr⟩ := inquire_of_start h hs
    cases hp : s.world.passphrase (agentOf s c) with
    | error f =>
      rw [hp] at ht
      exact ⟨.unanswered f, _, t, .unanswered hs hp, hr, fun onRejection => bind_of_error ht⟩
    | ok p =>
      rw [hp] at ht
      obtain ⟨u, hu, hr'⟩ := tryUnlock_reaches p t
      rw [hr.world] at hu hr'
      replace hr := hr.trans hr'
      cases hd : s.world.asked.device.unlockError? p with
      | none =>
        rw [hd] at hu
        obtain ⟨v, hv, hr'⟩ := log_reaches (by decide +kernel : Showable .info "volume_opened")
          Context.writable_nil u
        rw [hr.world] at hr'
        exact ⟨.opened p, _, v, .opened hs hp hd, hr.trans hr',
          fun onRejection => (bind_of_ok ht).trans ((bind_of_ok hu).trans hv)⟩
      | some e =>
        rw [hd] at hu
        cases he : e.isRejection with
        | false =>
          rw [tried, he] at hu
          exact ⟨.failed p e, _, u, .failed hs hp hd he, hr,
            fun onRejection => (bind_of_ok ht).trans (bind_of_error hu)⟩
        | true =>
          rw [tried, he] at hu
          have agent : agentOf u c = agentOf s c := hr.program c h
          have start : u.world.startFault? (agentOf u c) = none := by
            rw [hr.world, agent]
            exact hs
          obtain ⟨v, hv, hr'⟩ := clear_of_start (hr.config.trans h) start
          rw [hr.world, agent] at hv
          rw [hr.world] at hr'
          cases hc : (s.world.asked.tried p).clearance (agentOf s c) with
          | error f =>
            rw [hc] at hv
            exact ⟨.uncleared p e f, _, v, .uncleared hs hp hd he hc, hr.trans hr',
              fun onRejection =>
                (bind_of_ok ht).trans ((bind_of_ok hu).trans (bind_of_error hv))⟩
          | ok _ =>
            rw [hc] at hv
            exact ⟨.rejected p e, _, v, .rejected hs hp hd he hc, hr.trans hr',
              fun onRejection => (bind_of_ok ht).trans ((bind_of_ok hu).trans (bind_of_ok hv))⟩

end

/-! ### The warning about a rejection -/

theorem isWritable_int_iff (n : Nat) :
    Yaml.isWritable (.int n) = true ↔ (Nat.toDigits 10 n).length ≤ digitLimit := by
  rw [Yaml.isWritable_int, isOk_writeInt_iff, Int.natAbs_natCast]

theorem log_warning_reaches {s : State} {left : Nat} (h : CanWarn s.logging left) :
    ∃ t, log .warning "wrong_passphrase" (warningContext left) s = .ok () t ∧
      Reaches s t [] s.world := by
  by_cases hs : s.logging.shows .warning = true
  · exact log_reaches (by decide +kernel)
      (Context.writable_nil.cons _ ((isWritable_int_iff left).2 (h hs))) s
  · exact ⟨s, log_of_not_shows (Bool.eq_false_iff.2 hs) _ _, Reaches.refl s⟩

/-- A warning that cannot be shown is an error. -/
theorem log_warning_error {s : State} {left : Nat} (h : ¬CanWarn s.logging left) :
    log .warning "wrong_passphrase" (warningContext left) s =
      .error (.log (.integer .tooLarge)) s := by
  unfold CanWarn at h
  rw [Classical.not_imp] at h
  obtain ⟨hs, hl⟩ := h
  have plain : isVerboseName "retries_left" = false := by decide
  have shown : s.logging.shown .warning "wrong_passphrase" (warningContext left) =
      warningContext left := by
    have details : (Entry.ofEvent .warning (.text "wrong_passphrase") (warningContext left)).details =
        warningContext left := rfl
    rw [Logging.shown, details]
    split <;> simp [warningContext, Context.quiet, Context.verbose, Context.put, plain,
      bareName_of_not_isVerboseName plain]
  have long : Yaml.isWritableEntries (warningContext left) = false := by
    rw [← Bool.not_eq_true, Yaml.isWritableEntries_iff, warningContext, List.forall_mem_singleton,
      isWritable_int_iff]
    exact hl
  refine log_of_not_canPrint (Context.all_nil.cons _ (not_nested_of_isScalar rfl 323)) ?_
  rw [Logging.canPrint, hs, shown, long]
  rfl

/-! ### All attempts -/

/-- The attempts of a session end with the last of them. -/
theorem unlockAttempts_cases (more : Nat) {s : State} {c : Config} (h : s.session.config = some c) :
    ∃ as a w t, Attempts (agentOf s c) s.logging more s.world as w ∧ as.getLast? = some a ∧
      Reaches s t (as.flatMap Attempt.events) w ∧
      unlockAttempts more s = ended (a.endingWith (more + 1 - as.length)) t := by
  -- The next attempt starts in the world that a rejection leaves, with the same agent program.
  induction more generalizing s with
  | zero =>
    obtain ⟨a, w, t, ht, hr, run⟩ := attemptUnlock_cases h
    refine ⟨[a], a, w, t, .last ht fun _ => .inl rfl, rfl, by simpa using hr, ?_⟩
    rw [unlockAttempts_zero, run]
    cases a <;> rfl
  | succ more ih =>
    obtain ⟨a, w, t, ht, hr, run⟩ := attemptUnlock_cases h
    rw [unlockAttempts_succ, run]
    by_cases ha : a.isRejected = true
    · obtain ⟨p, e, rfl⟩ : ∃ p e, a = .rejected p e := by
        cases a <;> first | exact ⟨_, _, rfl⟩ | cases ha
      by_cases hw : CanWarn s.logging (more + 1)
      · obtain ⟨u, hu, hr'⟩ := log_warning_reaches (hr.logging.symm ▸ hw)
        rw [hr.world] at hr'
        replace hr' := hr.trans hr'
        obtain ⟨as, b, w', v, hs, hb, hv, run'⟩ := ih (hr'.config.trans h)
        have agent : agentOf u c = agentOf s c := hr'.program c h
        rw [agent, hr'.logging, hr'.world] at hs
        refine ⟨.rejected p e :: as, b, w', v, .next ht hw hs, ?_, hr'.trans hv, ?_⟩
        · rw [List.getLast?_cons, hb]
          rfl
        · rw [List.length_cons, Nat.add_sub_add_right, ← run']
          exact bind_of_ok hu
      · refine ⟨[.rejected p e], .rejected p e, w, t, .last ht fun _ => .inr hw, rfl,
          by simpa using hr, ?_⟩
        exact bind_of_error (log_warning_error (hr.logging.symm ▸ hw))
    · refine ⟨[a], a, w, t, .last ht fun h => absurd h ha, rfl, by simpa using hr, ?_⟩
      cases a <;> first | rfl | exact absurd rfl ha

/-! ### Opening the volume -/

theorem openVolume_of_connect_error {s t : State} {f : Failure} (h : connect s = .error f t) :
    openVolume s = .error f t :=
  bind_of_error h

theorem openVolume_of_connect {s t : State} {c : Config} (h : connect s = .ok () t)
    (hc : t.session.config = some c) : openVolume s = unlockAttempts (c.attempts - 1) t :=
  (bind_of_ok h).trans (bind_of_ok (sessionConfig_of_some hc))

end Act

/-- Whether an event is that a passphrase is tried. -/
def Event.isUnlock : Event → Bool
  | .unlock _ => true
  | _ => false

theorem Attempt.countP_events_le (a : Attempt) : a.events.countP Event.isUnlock ≤ 1 := by
  cases a <;> simp [Attempt.events, Act.inquiryEvent, Act.clearanceEvent, Event.isUnlock,
    List.countP_cons]

theorem countP_flatMap_events_le (as : List Attempt) :
    (as.flatMap Attempt.events).countP Event.isUnlock ≤ as.length := by
  induction as with
  | nil => simp
  | cons a as ih =>
    have := a.countP_events_le
    rw [List.flatMap_cons, List.countP_append, List.length_cons]
    omega

theorem Attempt.endingWith_eq_ok_iff (left : Nat) (a : Attempt) :
    a.endingWith left = .ok () ↔ ∃ p, a = .opened p := by
  cases a with
  | rejected p e =>
    rw [Attempt.endingWith]
    split <;> simp
  | _ => simp [Attempt.endingWith, Attempt.ending]

theorem exists_ended_eq_ok_iff {r : Except Failure Unit} {t : State} :
    (∃ u, ended r t = .ok () u) ↔ r = .ok () := by
  cases r <;> simp [ended]

/-- Attempts that a session makes once the key is reached, the last of them, and the world they
leave. Another attempt follows just if this one is rejected and cleared, one is left, and the
warning about it can be shown; so no more passphrases are tried than the configuration says. -/
structure Attempted (s : State) (c : Config) (as : List Attempt) (b : Attempt) (w : World) :
    Prop where
  attempts : Attempts (Act.agentOf s c) s.logging (c.attempts - 1) s.world as w
  last : as.getLast? = some b
  pos : 1 ≤ as.length
  bounded : as.length ≤ c.attempts
  next : ∀ j (hj : j < as.length), j + 1 < as.length ↔
    as[j].isRejected = true ∧ j + 1 < c.attempts ∧ CanWarn s.logging (c.attempts - (j + 1))
  tried : (as.flatMap Attempt.events).countP Event.isUnlock ≤ c.attempts

theorem Attempts.attempted {s : State} {c : Config} {as : List Attempt} {b : Attempt} {w : World}
    (h : Attempts (Act.agentOf s c) s.logging (c.attempts - 1) s.world as w)
    (hb : as.getLast? = some b) (hn : 1 ≤ c.attempts) : Attempted s c as b w where
  attempts := h
  last := hb
  pos := h.length_pos
  bounded := by
    have := h.length_le
    omega
  next j hj := by
    rw [h.lt_length_iff hj, show c.attempts - 1 - j = c.attempts - (j + 1) by omega,
      show (j < c.attempts - 1) = (j + 1 < c.attempts) by apply propext; omega]
  tried := by
    have := h.length_le
    have := countP_flatMap_events_le as
    omega

namespace Act

/-- Opening the volume runs in one of three ways. If the key cannot be reached, nothing is done; if
the one call to reach it fails, nothing follows. Otherwise attempts are made, and the last of them
says how the run ends: well just if the volume was opened. -/
theorem openVolume_cases {s t : State} {c : Config} (hc : sessionConfig s = .ok c t)
    (hn : 1 ≤ c.attempts) :
    (∃ f u, factoryOf s c = .error f ∧ openVolume s = .error f u ∧
      u.events = s.events ∧ u.world = s.world) ∨
    (∃ a e u, factoryOf s c = .ok a ∧ a.callError? s.world.device = some e ∧
      openVolume s = .error (.raised e) u ∧
      u.events = s.events ++ a.callEvents ∧ u.world = s.world) ∨
    ∃ a as b u, factoryOf s c = .ok a ∧ a.callError? s.world.device = none ∧
      Attempted s c as b u.world ∧
      openVolume s = ended (b.endingWith (c.attempts - as.length)) u ∧
      ((∃ v, openVolume s = .ok () v) ↔ ∃ p, b = .opened p) ∧
      u.events = s.events ++ a.callEvents ++ as.flatMap Attempt.events := by
  have same := connect_of_sessionConfig hc
  obtain ⟨err, ht⟩ := eq_of_sessionConfig hc
  have known : t.session.config = some c := by rw [ht]
  have factory : factoryOf t c = factoryOf s c := by rw [ht]; rfl
  have agent : agentOf t c = agentOf s c := by rw [ht]; rfl
  have logging : t.logging = s.logging := by rw [ht]
  have world : t.world = s.world := by rw [ht]
  have events : t.events = s.events := by rw [ht]
  cases hf : factoryOf s c with
  | error f =>
    obtain ⟨u, hu, hr⟩ := connect_of_error known (factory.trans hf)
    rw [← same] at hu
    exact .inl ⟨f, u, rfl, openVolume_of_connect_error hu, by rw [hr.events, events]; simp,
      hr.world.trans world⟩
  | ok a =>
    obtain ⟨u, hu, hr⟩ := connect_of_ok known (factory.trans hf)
    rw [← same, world] at hu
    cases he : a.callError? s.world.device with
    | some e =>
      rw [he] at hu
      exact .inr (.inl ⟨a, e, u, rfl, he, openVolume_of_connect_error hu,
        by rw [hr.events, events], hr.world.trans world⟩)
    | none =>
      rw [he] at hu
      have known' := hr.config.trans known
      obtain ⟨as, b, w, v, hs, hb, hv, run⟩ := unlockAttempts_cases (c.attempts - 1) known'
      rw [show agentOf u c = agentOf s c from (hr.program c known).trans agent, hr.logging, logging,
        hr.world, world] at hs
      have run' : openVolume s = ended (b.endingWith (c.attempts - as.length)) v := by
        rw [openVolume_of_connect hu known', run, Nat.sub_add_cancel hn]
      refine .inr (.inr ⟨a, as, b, v, rfl, he, ?_, run', ?_, ?_⟩)
      · rw [hv.world]
        exact hs.attempted hb hn
      · rw [run', exists_ended_eq_ok_iff, Attempt.endingWith_eq_ok_iff]
      · rw [hv.events, hr.events, events]

/-- A session with three attempts. The agent program gives another passphrase once the first is
cleared, and the key takes only that one. -/
def sampleSession : State where
  world :=
    { files := Files.empty.write "./agent" (.program true)
      environment := []
      agent :=
        ⟨[⟨"D 000000\nOK\n".toUTF8.toList, [], 0⟩, ⟨"OK\n".toUTF8.toList, [], 0⟩],
          ⟨"D 123456\nOK\n".toUTF8.toList, [], 0⟩⟩
      device :=
        { status := []
          verdict := fun passphrase =>
            if passphrase = "123456" then none else some ⟨.reported .wrongPassphrase, "rejected"⟩
          connectError := none
          statusError := none
          lockError := none
          unlockErrors := [] }
      modules := [] }
  logging := .ofVerbose false
  session := ⟨none, some ⟨none, "./agent", 3⟩, some (.factory true), none⟩
  out := ""
  err := ""
  events := []

/-- The events up to the end of an action that succeeds. -/
def eventsOfSuccess {α : Type} : EStateM.Result Failure State α → Option (List Event)
  | .ok _ t => some t.events
  | .error _ _ => none

/-- The sample session opens the volume at its second attempt. -/
theorem openVolume_sampleSession :
    sessionConfig sampleSession = .ok ⟨none, "./agent", 3⟩ sampleSession ∧ 1 ≤ 3 ∧
      ∃ as b u, Attempted sampleSession ⟨none, "./agent", 3⟩ as b u.world ∧
        openVolume sampleSession = .ok () u ∧ (∃ p, b = .opened p) ∧
        u.events = .connect :: as.flatMap Attempt.events ∧
        u.events = [.connect, inquiryEvent, .unlock "000000", clearanceEvent, inquiryEvent,
          .unlock "123456"] := by
  have known : sessionConfig sampleSession = .ok ⟨none, "./agent", 3⟩ sampleSession := rfl
  have outcome : eventsOfSuccess (openVolume sampleSession) = some [.connect, inquiryEvent,
      .unlock "000000", clearanceEvent, inquiryEvent, .unlock "123456"] := by decide +kernel
  refine ⟨known, by decide, ?_⟩
  rcases openVolume_cases known (by decide) with
    ⟨f, u, hf, -⟩ | ⟨a, e, u, hf, he, -⟩ | ⟨a, as, b, u, hf, he, hs, run, opened, events⟩
  · cases hf
  · cases hf
    cases he
  · cases hf
    cases hb : b.endingWith (3 - as.length) with
    | error f =>
      rw [run, hb] at outcome
      cases outcome
    | ok _ =>
      rw [hb] at run
      rw [run] at outcome
      exact ⟨as, b, u, hs, run, opened.1 ⟨u, run⟩, events, Option.some.inj outcome⟩

end Act

end StorageKey
