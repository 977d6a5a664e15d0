import StorageKey.Proofs.Program
import StorageKey.Proofs.Session.Respects
import StorageKey.Proofs.Text.Utf8

/-!
# Passphrases stay secret

Nothing that is printed, logged or asked of the agent program tells a passphrase: two runs that open
the volume in worlds whose agent programs answer with different passphrases, which the key treats
alike, show no difference.

* `Event.veiled`, `Veiled`: what is seen of a run without the passphrases tried on the key;
* `DifferInPassphrases`: worlds that differ in the passphrases alone;
* `Act.openVolume_secret`, `Act.runProgram_secret`: opening the volume, and whole command lines.
-/

namespace StorageKey

open Text Usage

/-! ### What is seen -/

/-- An event without the passphrase that is tried on the key. -/
def Event.veiled : Event → Event
  | .unlock _ => .unlock ""
  | e => e

/-- Worlds that are the same but for the answers of the agent program and for the key once it is
reached. -/
structure SameSurroundings (w w' : World) : Prop where
  files : w.files = w'.files
  environment : w.environment = w'.environment
  modules : w.modules = w'.modules
  host : w.host = w'.host
  connectError : w.device.connectError = w'.device.connectError

/-- States that show no difference but for the passphrases tried on the key. -/
structure Veiled (s t : State) : Prop where
  logging : s.logging = t.logging
  session : s.session = t.session
  out : s.out = t.out
  err : s.err = t.err
  events : s.events.map Event.veiled = t.events.map Event.veiled
  surroundings : SameSurroundings s.world t.world

/-- States that show no difference, in related worlds. -/
structure VeiledBy (D : World → World → Prop) (s t : State) : Prop extends Veiled s t where
  worlds : D s.world t.world

theorem unseen_veiledBy (D : World → World → Prop) : Unseen (VeiledBy D) where
  logging h := h.logging
  files h := h.surroundings.files
  environment h := h.surroundings.environment
  modules h := h.surroundings.modules
  host h := h.surroundings.host
  connectError h := h.surroundings.connectError
  config h := congrArg Session.config h.session
  factory h := congrArg Session.factory h.session
  agentProgram h := congrArg Session.agentProgram h.session
  configPath h _ := congrArg Session.configPath h.session
  printError h text := { h with err := congrArg (· ++ text) h.err }
  emit h e :=
    { h with events := by simp only [List.map_append, h.events] }
  setConfig h c := { h with session := by simp only [h.session] }
  setFactory h a := { h with session := by simp only [h.session] }
  setAgentProgram h p := { h with session := by simp only [h.session] }

/-! ### Answers of the agent program -/

/-- The answer to a run of the agent program, by the number of runs before it. -/
def Agent.answerAt (a : Agent) (n : Nat) : Response := a.answers[n]?.getD a.afterwards

theorem Agent.next_fst (a : Agent) : a.next.1 = a.answerAt 0 := by
  obtain ⟨answers, afterwards⟩ := a
  cases answers <;> rfl

theorem Agent.answerAt_next (a : Agent) (n : Nat) : a.next.2.answerAt n = a.answerAt (n + 1) := by
  obtain ⟨answers, afterwards⟩ := a
  cases answers <;> rfl

/-- The error of an attempt to open the volume, by the number of attempts before it. -/
def Device.errorAt (d : Device) (k : Nat) (passphrase : String) : Option Raised :=
  d.unlockErrors[k]?.join.or (d.verdict passphrase)

theorem Device.unlockError?_eq (d : Device) (p : String) : d.unlockError? p = d.errorAt 0 p := by
  rw [unlockError?, errorAt, List.head?_eq_getElem?]

theorem Device.errorAt_tried (d : Device) (p q : String) (k : Nat) :
    (d.tried p).errorAt k q = d.errorAt (k + 1) q := by
  have errors : (d.tried p).unlockErrors = d.unlockErrors.tail := by
    unfold Device.tried
    simp only
    split <;> rfl
  have verdict : (d.tried p).verdict = d.verdict := by
    unfold Device.tried
    simp only
    split <;> rfl
  rw [errorAt, errorAt, errors, verdict, List.getElem?_tail]

theorem Device.connectError_tried (d : Device) (p : String) :
    (d.tried p).connectError = d.connectError := by
  unfold Device.tried
  simp only
  split <;> rfl

/-- The answer that gives a passphrase. -/
def Response.ofPassphrase (passphrase : String) : Response where
  out := Utf8.encode ("D ".toList ++ passphrase.toList ++ "\nOK\n".toList)
  err := []
  code := 0

/-- The passphrase in an answer, or why there is none. -/
def Response.passphrase (program : String) (r : Response) : Except Failure String := do
  let response ← r.answer program
  let passphrase ← (passphraseOf response).mapError .agent
  return String.ofList passphrase

/-- Whether a text is free of characters that end a line. -/
def IsOneLine (text : String) : Prop := ∀ c ∈ text.toList, isLineBoundary c = false

theorem passphraseOf_data {p : List Char} (hp : ∀ c ∈ p, isLineBoundary c = false) :
    passphraseOf ("D ".toList ++ p ++ "\nOK\n".toList) = .ok p := by
  have data : ∀ c ∈ "D ".toList ++ p, isLineBoundary c = false := by
    intro c hc
    rcases List.mem_append.1 hc with hc | hc
    · have : ∀ c ∈ "D ".toList, isLineBoundary c = false := by
        simp [isLineBoundary]
      exact this c hc
    · exact hp c hc
  have lines : splitLines ("D ".toList ++ p ++ "\nOK\n".toList) = ["D ".toList ++ p, "OK".toList] :=
    splitLines_append_cons data (by decide) (by decide)
  rw [passphraseOf, lines]
  simp only [after?_append, if_true]

/-- An answer that gives a passphrase is understood. -/
theorem Response.passphrase_ofPassphrase {p : String} (hp : IsOneLine p) (program : String) :
    (Response.ofPassphrase p).passphrase program = .ok p := by
  have unbroken : '\r' ∉ "D ".toList ++ p.toList ++ "\nOK\n".toList := by
    intro h
    simp only [List.mem_append] at h
    rcases h with (h | h) | h
    · revert h
      decide
    · have := hp _ h
      revert this
      decide
    · revert h
      decide
  have answer : (Response.ofPassphrase p).answer program =
      .ok ("D ".toList ++ p.toList ++ "\nOK\n".toList) := by
    rw [Response.answer, Response.ofPassphrase]
    simp only [printedText, Utf8.decode_encode, Utf8.decode_nil, Except.map, Except.mapError,
      unifyNewlines_of_not_mem unbroken]
    rfl
  rw [Response.passphrase, answer]
  show ((passphraseOf _).mapError Failure.agent >>= _) = _
  rw [passphraseOf_data hp]
  show Except.ok (String.ofList p.toList) = _
  rw [String.ofList_toList]

/-- Two answers to a request for the passphrase, with the errors of the key for passphrases in
either world: they give passphrases that the key treats alike, or are the same. -/
inductive SameReply (error error' : String → Option Raised) : Response → Response → Prop
  | passphrases {p q : String} (hp : IsOneLine p) (hq : IsOneLine q) (h : error p = error' q) :
      SameReply error error' (.ofPassphrase p) (.ofPassphrase q)
  | same (r : Response) (h : ∀ program p, r.passphrase program = .ok p → error p = error' p) :
      SameReply error error' r r

theorem SameReply.passphrase {error error' : String → Option Raised} {r r' : Response}
    (h : SameReply error error' r r') (program : String) :
    (∃ f, r.passphrase program = .error f ∧ r'.passphrase program = .error f) ∨
      ∃ p q, r.passphrase program = .ok p ∧ r'.passphrase program = .ok q ∧ error p = error' q := by
  cases h with
  | @passphrases p q hp hq h =>
    exact .inr ⟨p, q, Response.passphrase_ofPassphrase hp program,
      Response.passphrase_ofPassphrase hq program, h⟩
  | same _ h =>
    cases hr : r.passphrase program with
    | error f => exact .inl ⟨f, rfl, rfl⟩
    | ok p => exact .inr ⟨p, p, rfl, rfl, h program p hr⟩

/-- Worlds that differ in the passphrases that the agent program gives, and in nothing else that
opening the volume meets. Each attempt asks for the passphrase once, and once to clear it; the key
treats the passphrases of the same attempt alike. -/
structure DifferInPassphrases (w w' : World) : Prop extends SameSurroundings w w' where
  replies : ∀ k, SameReply (w.device.errorAt k) (w'.device.errorAt k) (w.agent.answerAt (2 * k))
    (w'.agent.answerAt (2 * k))
  clearances : ∀ k, w.agent.answerAt (2 * k + 1) = w'.agent.answerAt (2 * k + 1)

/-- Worlds in which a passphrase may be cleared next. -/
structure AwaitClearance (w w' : World) : Prop where
  answer : w.agent.next.1 = w'.agent.next.1
  afterwards : DifferInPassphrases w.asked w'.asked

theorem SameSurroundings.asked {w w' : World} (h : SameSurroundings w w') :
    SameSurroundings w.asked w'.asked :=
  ⟨h.files, h.environment, h.modules, h.host, h.connectError⟩

theorem SameSurroundings.tried {w w' : World} (h : SameSurroundings w w') (p q : String) :
    SameSurroundings (w.tried p) (w'.tried q) := by
  refine ⟨h.files, h.environment, h.modules, h.host, ?_⟩
  show (w.device.tried p).connectError = (w'.device.tried q).connectError
  rw [Device.connectError_tried, Device.connectError_tried, h.connectError]

/-- Once the passphrases of an attempt are tried, the next request clears them, and what follows is
the next attempt. -/
theorem DifferInPassphrases.tried {w w' : World} (h : DifferInPassphrases w w') (p q : String) :
    AwaitClearance (w.asked.tried p) (w'.asked.tried q) where
  answer := by
    show w.agent.next.2.next.1 = w'.agent.next.2.next.1
    rw [Agent.next_fst, Agent.next_fst, Agent.answerAt_next, Agent.answerAt_next]
    exact h.clearances 0
  afterwards := by
    refine ⟨(h.asked.tried p q).asked, ?_, ?_⟩
    · intro k
      show SameReply ((w.device.tried p).errorAt k) ((w'.device.tried q).errorAt k)
        (w.agent.next.2.next.2.answerAt (2 * k)) (w'.agent.next.2.next.2.answerAt (2 * k))
      rw [funext fun r => w.device.errorAt_tried p r k,
        funext fun r => w'.device.errorAt_tried q r k]
      simp only [Agent.answerAt_next]
      exact h.replies (k + 1)
    · intro k
      show w.agent.next.2.next.2.answerAt (2 * k + 1) = w'.agent.next.2.next.2.answerAt (2 * k + 1)
      simp only [Agent.answerAt_next]
      exact h.clearances (k + 1)

/-! ### Attempts -/

section

variable {s t : State}

/-- A request changes what is seen of veiled states alike. -/
theorem Veiled.requested (h : Veiled s t) (verb : String) :
    Veiled (Act.requested verb s) (Act.requested verb t) where
  logging := h.logging
  session := h.session
  out := h.out
  err := by simp only [Act.requested, h.err, h.logging]
  events := h.events
  surroundings := h.surroundings

theorem Veiled.asked (h : Veiled s t) (verb arguments : String) :
    Veiled (Act.asked verb arguments s) (Act.asked verb arguments t) where
  logging := h.logging
  session := h.session
  out := h.out
  err := (h.requested verb).err
  events := by simp only [Act.asked, List.map_append, h.events]
  surroundings := h.surroundings.asked

/-- What is reported about a failure is seen alike. -/
theorem Veiled.afterReport (c : Command) (f : Failure) (s t : State) (h : Veiled s t) :
    Veiled (Act.afterReport c f s) (Act.afterReport c f t) :=
  { h with err := by simp only [Act.afterReport, h.err, h.logging] }

/-- Which passphrase is tried is not seen. -/
theorem Veiled.tried (h : Veiled s t) (p q : String) :
    Veiled { s with world := s.world.tried p, events := s.events ++ [.unlock p] }
      { t with world := t.world.tried q, events := t.events ++ [.unlock q] } where
  logging := h.logging
  session := h.session
  out := h.out
  err := h.err
  events := by simp only [List.map_append, h.events, List.map_cons, Event.veiled]
  surroundings := h.surroundings.tried p q

end

namespace Act

variable {s t : State}

/-- An action that respects veiled states in related worlds leaves them veiled. -/
theorem Respects.veiled {α : Type} {D : World → World → Prop} {x : Act α}
    (hx : Respects (VeiledBy D) x) (h : VeiledBy D s t) :
    EndsAlike Veiled (VeiledBy D) (x s) (x t) :=
  EndsAlike.mono (hx s t h) (fun _ _ k => k.toVeiled) fun _ _ k => k

/-- Asking for a passphrase and trying it comes to the same. -/
theorem tryPassphrase_secret (program : String) (h : VeiledBy DifferInPassphrases s t) :
    EndsAlike Veiled (VeiledBy AwaitClearance) ((inquirePassphrase program >>= tryUnlock) s)
      ((inquirePassphrase program >>= tryUnlock) t) := by
  have ask := inquirePassphrase_apply program s
  have ask' := inquirePassphrase_apply program t
  rw [← World.startFault?_congr h.surroundings.files h.surroundings.environment] at ask'
  cases hs : s.world.startFault? program with
  | some f =>
    rw [hs] at ask ask'
    rw [bind_of_error ask, bind_of_error ask']
    exact ⟨rfl, h.toVeiled.requested _⟩
  | none =>
    rw [hs] at ask ask'
    have veiled := h.toVeiled.asked "GET_PASSPHRASE" inquiryArguments
    have reply := h.worlds.replies 0
    rw [Nat.mul_zero, ← Agent.next_fst, ← Agent.next_fst] at reply
    rcases reply.passphrase program with ⟨f, hf, hf'⟩ | ⟨p, q, hp, hq, he⟩
    · rw [show s.world.passphrase program = .error f from hf] at ask
      rw [show t.world.passphrase program = .error f from hf'] at ask'
      rw [bind_of_error ask, bind_of_error ask']
      exact ⟨rfl, veiled⟩
    · rw [show s.world.passphrase program = .ok p from hp] at ask
      rw [show t.world.passphrase program = .ok q from hq] at ask'
      rw [bind_of_ok ask, bind_of_ok ask', tryUnlock_apply, tryUnlock_apply]
      have error : (asked "GET_PASSPHRASE" inquiryArguments s).world.device.unlockError? p =
          (asked "GET_PASSPHRASE" inquiryArguments t).world.device.unlockError? q := by
        rw [Device.unlockError?_eq, Device.unlockError?_eq]
        exact he
      have after := veiled.tried p q
      rw [error]
      cases (asked "GET_PASSPHRASE" inquiryArguments t).world.device.unlockError? q with
      | none => exact ⟨rfl, after, h.worlds.tried p q⟩
      | some e =>
        rw [tried, tried]
        split
        · exact ⟨rfl, after, h.worlds.tried p q⟩
        · exact ⟨rfl, after⟩

/-- Clearing the passphrase comes to the same. -/
theorem clearPassphrase_secret (program : String) (h : VeiledBy AwaitClearance s t) :
    EndsAlike Veiled (VeiledBy DifferInPassphrases) (clearPassphrase program s)
      (clearPassphrase program t) := by
  have ask : EndsAlike Veiled (VeiledBy DifferInPassphrases)
      (askAgent program "CLEAR_PASSPHRASE" cacheName s)
      (askAgent program "CLEAR_PASSPHRASE" cacheName t) := by
    rw [askAgent_apply, askAgent_apply,
      ← World.startFault?_congr h.surroundings.files h.surroundings.environment]
    cases s.world.startFault? program with
    | some f => exact ⟨rfl, h.toVeiled.requested _⟩
    | none =>
      have veiled := h.toVeiled.asked "CLEAR_PASSPHRASE" cacheName
      have answer : s.world.answer program = t.world.answer program := by
        rw [World.answer, World.answer, h.worlds.answer]
      rw [answer]
      exact .ended _ ⟨veiled, h.worlds.afterwards⟩ veiled
  refine EndsAlike.bind ask fun response u v _ k => ?_
  refine EndsAlike.bind ((respects_ofExcept _ _).veiled k) fun _ u v _ k => ?_
  exact (respects_log (unseen_veiledBy _) _ _ _).veiled k

/-- An attempt to open the volume comes to the same if what follows a rejection does. -/
theorem attemptUnlock_secret {onRejection : Failure → Act Unit}
    (hr : ∀ f u v, VeiledBy DifferInPassphrases u v →
      SameEnd Veiled (onRejection f u) (onRejection f v))
    (h : VeiledBy DifferInPassphrases s t) :
    SameEnd Veiled (attemptUnlock onRejection s) (attemptUnlock onRejection t) := by
  have steps : attemptUnlock onRejection = sessionAgent >>= fun program =>
      (inquirePassphrase program >>= tryUnlock) >>= afterUnlock onRejection := by
    simp only [attemptUnlock_eq, bind_assoc]
  rw [steps]
  refine EndsAlike.bind ((respects_sessionAgent (unseen_veiledBy _)).veiled h)
    fun program u v _ k => ?_
  refine EndsAlike.bind (tryPassphrase_secret program k) fun outcome u v _ k => ?_
  cases outcome with
  | none =>
    exact EndsAlike.mono (respects_log (unseen_veiledBy _) _ _ _ u v k)
      (fun _ _ k => k.toVeiled) fun _ _ k => k.toVeiled
  | some rejection =>
    have cleared : EndsAlike Veiled (VeiledBy DifferInPassphrases)
        ((sessionAgent >>= clearPassphrase) u) ((sessionAgent >>= clearPassphrase) v) := by
      refine EndsAlike.bind ((respects_sessionAgent (unseen_veiledBy _)).veiled k)
        fun program u v _ k => ?_
      exact clearPassphrase_secret program k
    exact EndsAlike.bind cleared fun _ u v _ k => hr rejection u v k

theorem unlockAttempts_secret (more : Nat) (h : VeiledBy DifferInPassphrases s t) :
    SameEnd Veiled (unlockAttempts more s) (unlockAttempts more t) := by
  induction more generalizing s t with
  | zero =>
    rw [unlockAttempts_zero]
    exact attemptUnlock_secret (fun f u v k => ⟨rfl, k.toVeiled⟩) h
  | succ more ih =>
    rw [unlockAttempts_succ]
    refine attemptUnlock_secret (fun f u v k => ?_) h
    exact EndsAlike.bind ((respects_log (unseen_veiledBy _) _ _ _).veiled k) fun _ u v _ k => ih k

/-! ### Whole runs -/

/-- Opening the volume comes to the same, whatever the passphrases are. -/
theorem openVolume_secret (h : VeiledBy DifferInPassphrases s t) :
    SameEnd Veiled (openVolume s) (openVolume t) := by
  refine EndsAlike.bind ((respects_connect (unseen_veiledBy _)).veiled h) fun _ u v _ k => ?_
  refine EndsAlike.bind ((respects_sessionConfig (unseen_veiledBy _)).veiled k) fun c u v _ k => ?_
  exact unlockAttempts_secret _ k

/-- An invocation to open the volume comes to the same, whatever the passphrases are. -/
theorem runInvocation_secret {i : Invocation} {name : String} (hi : i.arguments.head? = some name)
    (ho : i.command = .openVolume) {w : World} (hw : DifferInPassphrases s.world w) :
    SameEnd Veiled (runInvocation i s) (runInvocation i { s with world := w }) := by
  obtain ⟨tail, ha⟩ : ∃ tail, i.arguments = name :: tail := List.head?_eq_some_iff.1 hi
  by_cases ht : tail = []
  · subst ht
    rw [runInvocation_of_name ha, runInvocation_of_name ha, ho]
    refine conclude_sameEnd _ (Veiled.afterReport _) (openVolume_secret ?_)
    exact ⟨⟨rfl, rfl, rfl, rfl, rfl, hw.toSameSurroundings⟩, hw⟩
  · have surroundings := hw.toSameSurroundings
    rcases runInvocation_of_tail ha ht with ⟨help, -, run⟩ | ⟨e, run⟩
    · rw [run, run]
      exact ⟨rfl, rfl, rfl, rfl, rfl, rfl, surroundings⟩
    · rw [run, run]
      exact ⟨rfl, rfl, rfl, rfl, rfl, rfl, surroundings⟩

/-- A command line to open the volume, with verbose output or not, comes to the same in worlds that
differ in the passphrases alone: it ends with the same code or the same failure, prints the same on
both outputs, and makes the same requests to the agent program. -/
theorem runProgram_secret {args : List String}
    (ho : ∀ i, Invocation.parse args = .ok i → i.command = .openVolume) {w : World}
    (hw : DifferInPassphrases s.world w) :
    SameEnd Veiled (runProgram args s) (runProgram args { s with world := w }) := by
  cases hp : Invocation.parse args with
  | ok i =>
    rw [runProgram_of_invocation hp, runProgram_of_invocation hp]
    have head : i.arguments.head? = some (programName ++ " " ++ i.command.word) := by
      rw [arguments_of_parse hp]
      rfl
    exact EndsAlike.bind (runInvocation_secret head (ho i hp) hw) fun _ _ _ _ k => ⟨rfl, k⟩
  | error f =>
    obtain ⟨r, out, err, -, -, run⟩ := runProgram_of_error hp
    rw [run, run]
    exact .ended r ⟨rfl, rfl, rfl, rfl, rfl, hw.toSameSurroundings⟩

/-- A world whose agent program gives one passphrase and, once it is cleared, another, which is the
only one that the key takes. -/
def guessedWorld (wrong right : String) : World where
  files := (Files.empty.write "./agent" (.program true)).write "c.yaml"
    (.file "backend: m:open\ngpg_connect_agent: ./agent\n".toUTF8.toList)
  environment := []
  agent := ⟨[.ofPassphrase wrong, ⟨"OK\n".toUTF8.toList, [], 0⟩, .ofPassphrase right], ⟨[], [], 1⟩⟩
  device :=
    { status := []
      verdict := fun passphrase =>
        if passphrase = right then none else some ⟨.reported .wrongPassphrase, "rejected"⟩
      connectError := none
      statusError := none
      lockError := none
      unlockErrors := [] }
  modules := [("m", .loads false [("open", .factory true)])]

/-- Worlds of such passphrases differ in nothing else. -/
theorem differInPassphrases_guessedWorld {p q p' q' : String} (hp : IsOneLine p)
    (hq : IsOneLine q) (hp' : IsOneLine p') (hq' : IsOneLine q') (h : p ≠ q) (h' : p' ≠ q') :
    DifferInPassphrases (guessedWorld p q) (guessedWorld p' q') where
  files := rfl
  environment := rfl
  modules := rfl
  host := rfl
  connectError := rfl
  replies k := by
    have verdict (k : Nat) (w r a : String) :
        (guessedWorld w r).device.errorAt k a =
          if a = r then none else some ⟨.reported .wrongPassphrase, "rejected"⟩ := rfl
    match k with
    | 0 =>
      refine .passphrases hp hp' ?_
      rw [verdict, verdict, if_neg h, if_neg h']
    | 1 =>
      refine .passphrases hq hq' ?_
      rw [verdict, verdict, if_pos rfl, if_pos rfl]
    | _ + 2 =>
      refine .same ⟨[], [], 1⟩ fun program p hp => ?_
      cases hp
  clearances k := by
    match k with
    | 0 => rfl
    | _ + 1 => rfl

/-- The start of a run in a world. -/
def startIn (w : World) : State where
  world := w
  logging := .ofVerbose false
  session := .fresh none
  out := ""
  err := ""
  events := []

/-- The events of a run that is over with success. -/
def eventsOfReturn : EStateM.Result Failure State Ending → Option (List Event)
  | .ok (.returned 0) t => some t.events
  | _ => none

/-- Both passphrases are tried in either run, and nothing else tells the runs apart. -/
theorem runProgram_secret_guessedWorld :
    let args := ["-c", "c.yaml", "open"]
    let w := guessedWorld "0000" "1234"
    let w' := guessedWorld "9876 5" ""
    (∀ i, Invocation.parse args = .ok i → i.command = .openVolume) ∧ DifferInPassphrases w w' ∧
      SameEnd Veiled (runProgram args (startIn w)) (runProgram args (startIn w')) ∧
      eventsOfReturn (runProgram args (startIn w)) = some [.connect, inquiryEvent, .unlock "0000",
        clearanceEvent, inquiryEvent, .unlock "1234"] ∧
      eventsOfReturn (runProgram args (startIn w')) = some [.connect, inquiryEvent,
        .unlock "9876 5", clearanceEvent, inquiryEvent, .unlock ""] := by
  intro args w w'
  have opens : ∀ i, Invocation.parse args = .ok i → i.command = .openVolume := by
    intro i hi
    have parsed : (Invocation.parse args).toOption.map Invocation.command = some .openVolume := by
      decide +kernel
    rw [hi] at parsed
    exact Option.some.inj parsed
  have differ : DifferInPassphrases w w' := by
    refine differInPassphrases_guessedWorld ?_ ?_ ?_ ?_ (by decide) (by decide)
    all_goals simp [IsOneLine, isLineBoundary]
  refine ⟨opens, differ, ?_, by decide +kernel, by decide +kernel⟩
  have start : startIn w' = { startIn w with world := w' } := rfl
  rw [start]
  exact runProgram_secret (s := startIn w) opens differ

end Act

end StorageKey
