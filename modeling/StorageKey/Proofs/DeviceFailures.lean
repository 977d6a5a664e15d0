import StorageKey.Proofs.Secrecy
import StorageKey.Proofs.Session.Connection

/-!
# How opening the volume ends when the key fails

An attempt to open the volume takes up to two answers of the agent program and one of the key. An
error of the key is the error of the whole run, unless it is a rejection. After the last rejection
the passphrase is cleared as after any other; the rejection is the error of the run if this goes
well, and else the failure of the clearing is.

* `Scripted`, `Attempts.scripted`: what each attempt comes to, by what the agent program and the key
  answer in the first world;
* `Attempt.keyError?`: the error of the key in an attempt;
* `Act.openVolume_key_failures`: which error is the one of the run.
-/

namespace StorageKey

open Text

/-- The error that the key raises in an attempt, if it does. -/
def Attempt.keyError? : Attempt → Option Raised
  | failed _ e | uncleared _ e _ | rejected _ e => some e
  | unasked _ | unanswered _ | opened _ => none

/-- Whether an answer says that the passphrase is cleared. -/
def Response.clearance (program : String) (r : Response) : Except Failure Unit := do
  let response ← r.answer program
  (checkSuccess response).mapError .agent

/-! ### What an attempt rests on -/

/-- What the attempt after `k` others comes to. It asks for a passphrase with the answer at twice
their number, tries it on the key, and has it cleared with the next answer. -/
inductive Scripted (program : String) (w : World) (k : Nat) : Attempt → Prop
  | unasked {f : Failure} (hs : w.startFault? program = some f) : Scripted program w k (.unasked f)
  | unanswered {f : Failure} (hs : w.startFault? program = none)
      (hp : (w.agent.answerAt (2 * k)).passphrase program = .error f) :
      Scripted program w k (.unanswered f)
  | opened {p : String} (hs : w.startFault? program = none)
      (hp : (w.agent.answerAt (2 * k)).passphrase program = .ok p)
      (hu : w.device.errorAt k p = none) : Scripted program w k (.opened p)
  | failed {p : String} {e : Raised} (hs : w.startFault? program = none)
      (hp : (w.agent.answerAt (2 * k)).passphrase program = .ok p)
      (hu : w.device.errorAt k p = some e) (he : e.isRejection = false) :
      Scripted program w k (.failed p e)
  | uncleared {p : String} {e : Raised} {f : Failure} (hs : w.startFault? program = none)
      (hp : (w.agent.answerAt (2 * k)).passphrase program = .ok p)
      (hu : w.device.errorAt k p = some e) (he : e.isRejection = true)
      (hc : (w.agent.answerAt (2 * k + 1)).clearance program = .error f) :
      Scripted program w k (.uncleared p e f)
  | rejected {p : String} {e : Raised} (hs : w.startFault? program = none)
      (hp : (w.agent.answerAt (2 * k)).passphrase program = .ok p)
      (hu : w.device.errorAt k p = some e) (he : e.isRejection = true)
      (hc : (w.agent.answerAt (2 * k + 1)).clearance program = .ok ()) :
      Scripted program w k (.rejected p e)

variable {program : String} {w w' : World} {a : Attempt}

/-- A world that is left by an attempt with two answers, and in which the same programs can be
started. -/
structure World.LeftBy (w w' : World) : Prop where
  start : ∀ program, w'.startFault? program = w.startFault? program
  answers : ∀ n, w'.agent.answerAt n = w.agent.answerAt (n + 2)
  errors : ∀ k p, w'.device.errorAt k p = w.device.errorAt (k + 1) p

theorem Tries.leftBy {p : String} {e : Raised} (h : Tries program w (.rejected p e) w') :
    w.LeftBy w' := by
  cases h
  refine ⟨fun _ => World.startFault?_congr rfl rfl _, fun n => ?_, fun k q => ?_⟩
  · show w.agent.next.2.next.2.answerAt n = _
    rw [Agent.answerAt_next, Agent.answerAt_next]
  · exact w.device.errorAt_tried p q k

theorem Scripted.shift {k : Nat} (h : w.LeftBy w') (hs : Scripted program w' k a) :
    Scripted program w (k + 1) a := by
  have start := h.start program
  have first := h.answers (2 * k)
  have second := h.answers (2 * k + 1)
  cases hs with
  | unasked hs => exact .unasked (start ▸ hs)
  | unanswered hs hp => exact .unanswered (start ▸ hs) (first ▸ hp)
  | opened hs hp hu => exact .opened (start ▸ hs) (first ▸ hp) (h.errors _ _ ▸ hu)
  | failed hs hp hu he => exact .failed (start ▸ hs) (first ▸ hp) (h.errors _ _ ▸ hu) he
  | uncleared hs hp hu he hc =>
    exact .uncleared (start ▸ hs) (first ▸ hp) (h.errors _ _ ▸ hu) he (second ▸ hc)
  | rejected hs hp hu he hc =>
    exact .rejected (start ▸ hs) (first ▸ hp) (h.errors _ _ ▸ hu) he (second ▸ hc)

/-- The first attempt takes the first answers. -/
theorem Tries.scripted (h : Tries program w a w') : Scripted program w 0 a := by
  have passphrase : w.passphrase program = (w.agent.answerAt 0).passphrase program := by
    rw [← Agent.next_fst]
    rfl
  have clearance (p : String) : (w.asked.tried p).clearance program =
      (w.agent.answerAt 1).clearance program := by
    rw [← Agent.answerAt_next, ← Agent.next_fst]
    rfl
  have error (p : String) : w.asked.device.unlockError? p = w.device.errorAt 0 p :=
    Device.unlockError?_eq _ _
  cases h with
  | unasked hs => exact .unasked hs
  | unanswered hs hp => exact .unanswered hs (passphrase ▸ hp)
  | opened hs hp hu => exact .opened hs (passphrase ▸ hp) (error _ ▸ hu)
  | failed hs hp hu he => exact .failed hs (passphrase ▸ hp) (error _ ▸ hu) he
  | uncleared hs hp hu he hc =>
    exact .uncleared hs (passphrase ▸ hp) (error _ ▸ hu) he (clearance _ ▸ hc)
  | rejected hs hp hu he hc =>
    exact .rejected hs (passphrase ▸ hp) (error _ ▸ hu) he (clearance _ ▸ hc)

/-- Each attempt of a run takes the answers that the ones before it have left. -/
theorem Attempts.scripted {l : Logging} {more : Nat} {as : List Attempt}
    (h : Attempts program l more w as w') :
    ∀ k (hk : k < as.length), Scripted program w k as[k] := by
  -- The attempts after the first are those of a run in the world that it leaves.
  induction h with
  | last h _ =>
    intro k hk
    obtain rfl : k = 0 := by simpa using hk
    exact h.scripted
  | next h _ _ ih =>
    intro k hk
    cases k with
    | zero => exact h.scripted
    | succ k => exact (ih k (by simpa using hk)).shift h.leftBy

/-- The last attempt of a run is the one after all others. -/
theorem Attempted.scripted_last {s : State} {c : Config} {as : List Attempt} {b : Attempt}
    {w : World} (h : Attempted s c as b w) :
    Scripted (Act.agentOf s c) s.world (as.length - 1) b := by
  have pos := h.pos
  have last := h.last
  rw [List.getLast?_eq_getElem?, List.getElem?_eq_getElem (by omega)] at last
  rw [← Option.some.inj last]
  exact h.attempts.scripted _ _

/-! ### The error of the run -/

/-- An error of the key that is no rejection ends the run. A rejection does so only if the passphrase
is cleared. -/
theorem Scripted.ending_of_keyError {k : Nat} {e : Raised} (h : Scripted program w k a)
    (ha : a.keyError? = some e) (left : Nat) :
    (e.isRejection = false → a.endingWith left = .error (.raised e)) ∧
    (e.isRejection = true → left = 0 → a.endingWith left =
      match (w.agent.answerAt (2 * k + 1)).clearance program with
      | .ok _ => .error (.raised e)
      | .error f => .error f) := by
  cases h with
  | unasked => cases ha
  | unanswered => cases ha
  | opened => cases ha
  | failed _ _ _ he =>
    cases ha
    refine ⟨fun _ => rfl, fun hr => ?_⟩
    cases he.symm.trans hr
  | uncleared _ _ _ he hc =>
    cases ha
    refine ⟨fun hr => ?_, fun _ _ => ?_⟩
    · cases he.symm.trans hr
    · rw [hc]
      rfl
  | rejected _ _ _ he hc =>
    cases ha
    refine ⟨fun hr => ?_, fun _ hl => ?_⟩
    · cases he.symm.trans hr
    · rw [hc, Attempt.endingWith, if_pos hl]

namespace Act

section

variable {s t : State} {c : Config} {a : Attribute}

theorem openVolume_of_factory_error (hc : sessionConfig s = .ok c t) {f : Failure}
    (hf : factoryOf s c = .error f) : ∃ u, openVolume s = .error f u := by
  obtain ⟨err, run⟩ := connect_of_connects (.unreached (configFound_of_sessionConfig hc) hf)
  exact ⟨_, openVolume_of_connect_error run⟩

theorem openVolume_of_call_error (hc : sessionConfig s = .ok c t) (ha : factoryOf s c = .ok a)
    {e : Raised} (he : a.callError? s.world.device = some e) :
    ∃ u, openVolume s = .error (.raised e) u := by
  obtain ⟨err, run⟩ := connect_of_connects (.called (configFound_of_sessionConfig hc) ha)
  rw [he] at run
  exact ⟨_, openVolume_of_connect_error run⟩

/-- Once the key is called, the attempts decide. -/
theorem openVolume_of_called (hc : sessionConfig s = .ok c t) (hn : 1 ≤ c.attempts)
    (ha : factoryOf s c = .ok a) (he : a.callError? s.world.device = none) :
    ∃ as b u, Attempted s c as b u.world ∧
      openVolume s = ended (b.endingWith (c.attempts - as.length)) u ∧
      u.events = s.events ++ a.callEvents ++ as.flatMap Attempt.events := by
  obtain ⟨err, run⟩ := connect_of_connects (.called (configFound_of_sessionConfig hc) ha)
  rw [he] at run
  obtain ⟨as, b, w, u, hs, hb, hr, more⟩ := unlockAttempts_cases (c.attempts - 1) (c := c)
    (s := { s with
      session := { s.session with config := some c, factory := some a }
      events := s.events ++ a.callEvents, err }) rfl
  refine ⟨as, b, u, ?_, ?_, hr.events⟩
  · rw [hr.world]
    exact Attempts.attempted hs hb hn
  · rw [openVolume_of_connect run rfl, more, Nat.sub_add_cancel hn]

end

/-- A key that cannot be reached, or fails when it is called, ends the run with this error. So does
an error in an attempt that is no rejection. A rejection in the last attempt that the configuration
allows is the error of the run if the passphrase is cleared after it; else the failure of the
clearing is. -/
theorem openVolume_key_failures {s t : State} {c : Config} (hc : sessionConfig s = .ok c t)
    (hn : 1 ≤ c.attempts) :
    (∀ f, factoryOf s c = .error f → ∃ u, openVolume s = .error f u) ∧
    (∀ a e, factoryOf s c = .ok a → a.callError? s.world.device = some e →
      ∃ u, openVolume s = .error (.raised e) u) ∧
    ∀ a, factoryOf s c = .ok a → a.callError? s.world.device = none →
      ∃ as b u r, Attempted s c as b u.world ∧ openVolume s = ended r u ∧
        u.events = s.events ++ a.callEvents ++ as.flatMap Attempt.events ∧
        (∀ k (hk : k < as.length), Scripted (agentOf s c) s.world k as[k]) ∧
        ∀ e, b.keyError? = some e →
          (e.isRejection = false → r = .error (.raised e)) ∧
          (e.isRejection = true → as.length = c.attempts → r =
            match (s.world.agent.answerAt (2 * c.attempts - 1)).clearance (agentOf s c) with
            | .ok _ => .error (.raised e)
            | .error f => .error f) := by
  refine ⟨fun f hf => openVolume_of_factory_error hc hf,
    fun a e ha he => openVolume_of_call_error hc ha he, fun a ha he => ?_⟩
  obtain ⟨as, b, u, hs, run, events⟩ := openVolume_of_called hc hn ha he
  refine ⟨as, b, u, _, hs, run, events, hs.attempts.scripted, fun e hb => ?_⟩
  obtain ⟨other, rejection⟩ :=
    hs.scripted_last.ending_of_keyError hb (c.attempts - as.length)
  refine ⟨other, fun hr hl => ?_⟩
  rw [rejection hr (by omega), hl, show 2 * (c.attempts - 1) + 1 = 2 * c.attempts - 1 by omega]

/-- A session with one attempt. The key rejects the passphrase, and the agent program does not clear
it. -/
def exhaustedSession : State :=
  { sampleSession with
    world := { sampleSession.world with
      agent := ⟨[⟨"D 000000\nOK\n".toUTF8.toList, [], 0⟩], ⟨"ERR 1 busy\n".toUTF8.toList, [], 0⟩⟩ }
    session := ⟨none, some ⟨none, "./agent", 1⟩, some (.factory true), none⟩ }

/-- The kind of the failure of an action, and the events up to it. -/
def kindAndEvents {α : Type} :
    EStateM.Result Failure State α → Option (Option ErrorKind × List Event)
  | .ok _ _ => none
  | .error f t => some (f.kind?, t.events)

/-- The key rejects the passphrase in the only attempt, and the run ends with the failure of the
agent program. -/
theorem openVolume_exhaustedSession :
    sessionConfig exhaustedSession = .ok ⟨none, "./agent", 1⟩ exhaustedSession ∧ 1 ≤ 1 ∧
      ∃ as b u e f, Attempted exhaustedSession ⟨none, "./agent", 1⟩ as b u.world ∧ as.length = 1 ∧
        b.keyError? = some e ∧ e.isRejection = true ∧
        openVolume exhaustedSession = .error f u ∧ f.kind? = some .passphraseAgent ∧
        u.events = [.connect, inquiryEvent, .unlock "000000", clearanceEvent] := by
  have known : sessionConfig exhaustedSession = .ok ⟨none, "./agent", 1⟩ exhaustedSession := rfl
  have outcome : kindAndEvents (openVolume exhaustedSession) = some (some .passphraseAgent,
      [.connect, inquiryEvent, .unlock "000000", clearanceEvent]) := by decide +kernel
  refine ⟨known, Nat.le_refl 1, ?_⟩
  obtain ⟨as, b, u, r, hs, run, events, scripted, -⟩ :=
    (openVolume_key_failures known (Nat.le_refl 1)).2.2 (.factory true) rfl rfl
  have single : as.length = 1 := Nat.le_antisymm hs.bounded hs.pos
  obtain ⟨d, rfl⟩ := List.length_eq_one_iff.1 single
  obtain rfl : d = b := Option.some.inj hs.last
  rw [run] at outcome
  cases r with
  | ok _ => cases outcome
  | error f =>
    obtain ⟨kind, told⟩ := Prod.mk.inj (Option.some.inj outcome)
    rw [told] at events
    have script := scripted 0 Nat.zero_lt_one
    refine ⟨[d], d, u, ?_⟩
    cases script with
    | uncleared _ _ _ he _ => exact ⟨_, f, hs, rfl, rfl, he, run, kind, told⟩
    | rejected _ _ _ he _ => exact ⟨_, f, hs, rfl, rfl, he, run, kind, told⟩
    | _ => cases congrArg List.length events

end Act

end StorageKey
