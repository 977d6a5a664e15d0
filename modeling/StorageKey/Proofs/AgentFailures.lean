import StorageKey.Proofs.Configuration
import StorageKey.Proofs.Session.Connection

/-!
# How asking the agent program fails

A request to the agent program is answered, or fails with an error that is reported to the user: the
program is not there, it complains, it refuses, or it answers something unexpected. Other failures
are not reported: the name of the program holds a null character, the program cannot be run although
something is there, or what it prints is no text.

* `World.reply`, `Act.inquirePassphrase_reply`, `Act.clearPassphrase_reply`: what a request comes to;
* `World.AgentEscapes`: the failures that are not reported;
* `Act.agent_failures`: these are all of them, and what becomes of a command line.
-/

namespace StorageKey

open Act Text

namespace World

variable {α : Type} {w : World} {program : String} {f : Failure}

/-- What a request to the agent program comes to, if its answer is read in the given way. -/
def reply (w : World) (program : String) (read : List Char → Except AgentFault α) :
    Except Failure α :=
  match w.startFault? program with
  | some f => .error f
  | none => w.answer program >>= fun response => (read response).mapError .agent

/-- Failures of a request to the agent program that are not reported. -/
inductive AgentEscapes (w : World) (program : String) : Failure → Prop
  | nullByte (h : hasNull program = true) : AgentEscapes w program .nullByte
  /-- The program cannot be run, and the system says something else than that it is not there. -/
  | system {e : SystemFault} (hn : hasNull program = false) (hl : w.locate program = .error e)
      (he : e ≠ .notFound) : AgentEscapes w program (.system e program)
  | undecodableOutput {e : Utf8.Fault} (hs : w.startFault? program = none)
      (ho : printedText w.agent.next.1.out = .error e) : AgentEscapes w program (.undecodable e)
  | undecodableComplaint {out : List Char} {e : Utf8.Fault} (hs : w.startFault? program = none)
      (ho : printedText w.agent.next.1.out = .ok out)
      (he : printedText w.agent.next.1.err = .error e) : AgentEscapes w program (.undecodable e)

theorem AgentEscapes.kind? (h : w.AgentEscapes program f) : f.kind? = none := by
  cases h <;> rfl

/-- A program that cannot be started is not there, or the failure is not reported. -/
theorem startFault?_cases (h : w.startFault? program = some f) :
    f = .agent (.notFound program) ∨ w.AgentEscapes program f := by
  unfold startFault? at h
  split at h
  · next hn =>
    cases h
    exact .inr (.nullByte hn)
  · next hn =>
    split at h
    · cases h
    · cases h
      exact .inl rfl
    · next e he hl =>
      cases h
      refine .inr (.system (Bool.eq_false_iff.2 hn) hl ?_)
      rintro rfl
      exact he rfl

/-- A program that gives no answer complains, or what it prints is no text. -/
theorem answer_eq_error (hs : w.startFault? program = none) (h : w.answer program = .error f) :
    (∃ fault, f = .agent fault) ∨ w.AgentEscapes program f := by
  unfold answer Response.answer at h
  cases ho : printedText w.agent.next.1.out with
  | error e =>
    rw [ho] at h
    cases h
    exact .inr (.undecodableOutput hs ho)
  | ok out =>
    rw [ho] at h
    cases he : printedText w.agent.next.1.err with
    | error e =>
      rw [he] at h
      cases h
      exact .inr (.undecodableComplaint hs ho he)
    | ok err =>
      rw [he] at h
      change (if w.agent.next.1.code = 0 then _ else _) = _ at h
      split at h
      · cases h
      · cases h
        exact .inl ⟨_, rfl⟩

/-- A request fails in a way that is reported, or in one of those that are not. -/
theorem reply_eq_error {read : List Char → Except AgentFault α}
    (h : w.reply program read = .error f) :
    (∃ fault, f = .agent fault) ∨ w.AgentEscapes program f := by
  unfold reply at h
  cases hs : w.startFault? program with
  | some e =>
    rw [hs] at h
    cases h
    exact (startFault?_cases hs).imp_left fun he => ⟨_, he⟩
  | none =>
    rw [hs] at h
    change w.answer program >>= _ = _ at h
    cases ha : w.answer program with
    | error e =>
      rw [ha] at h
      cases h
      exact answer_eq_error hs ha
    | ok response =>
      rw [ha] at h
      change (read response).mapError _ = _ at h
      cases hr : read response with
      | ok a =>
        rw [hr] at h
        cases h
      | error e =>
        rw [hr] at h
        cases h
        exact .inl ⟨e, rfl⟩

/-- However the answer would be read, a request fails in these ways. -/
theorem AgentEscapes.reply_eq (h : w.AgentEscapes program f)
    (read : List Char → Except AgentFault α) : w.reply program read = .error f := by
  unfold reply
  cases h with
  | nullByte h =>
    rw [startFault?, if_pos h]
  | @system e hn hl he =>
    have start : w.startFault? program = some (.system e program) := by
      rw [startFault?, if_neg (by rw [hn]; exact Bool.false_ne_true), hl]
      split
      · next ho => cases ho
      · next ho =>
        cases ho
        exact absurd rfl he
      · next ho =>
        cases ho
        rfl
    rw [start]
  | undecodableOutput hs ho =>
    rw [hs, answer, Response.answer, ho]
    rfl
  | undecodableComplaint hs ho he =>
    rw [hs, answer, Response.answer, ho, he]
    rfl

/-! ### Programs -/

/-- A file that cannot be run is not there, is no program, or cannot be reached. -/
theorem run_eq_error {fs : Files} {path : String} {e : SystemFault} (h : fs.run path = .error e) :
    e = .notFound ∨ e = .permission ∨ e = .notDirectory ∨ e = .nameTooLong := by
  unfold Files.run at h
  split at h
  · next g hf =>
    cases h
    exact Files.find_eq_error hf
  · cases h
  · cases h
    decide

theorem runFirst_eq_error {fs : Files} {paths : List String} {found : Option SystemFault}
    {last e : SystemFault} {P : SystemFault → Prop} (run : ∀ p e, fs.run p = .error e → P e)
    (hf : ∀ e, found = some e → P e) (hl : P last)
    (h : fs.runFirst found last paths = .error e) : P e := by
  induction paths generalizing found last with
  | nil =>
    obtain rfl : found.getD last = e := Except.error.inj h
    cases hs : found with
    | none => exact hl
    | some f => exact hf f hs
  | cons p ps ih =>
    rw [Files.runFirst] at h
    cases hr : fs.run p with
    | ok _ =>
      rw [hr] at h
      cases h
    | error f =>
      rw [hr] at h
      refine ih (fun g hg => ?_) (run p f hr) h
      cases found with
      | some k =>
        cases hg
        exact hf _ rfl
      | none =>
        change (if f.isAbsence then none else some f) = some g at hg
        split at hg
        · cases hg
        · cases hg
          exact run p f hr

/-- Why a program cannot be run: it is not there, or nothing that is there can be run, or there is a
file on the way, or a path is too long. -/
theorem locate_eq_error {e : SystemFault} (h : w.locate program = .error e) :
    e = .notFound ∨ e = .permission ∨ e = .notDirectory ∨ e = .nameTooLong :=
  runFirst_eq_error (P := fun e => e = .notFound ∨ e = .permission ∨ e = .notDirectory ∨
    e = .nameTooLong) (fun _ _ => run_eq_error) (fun _ hs => by cases hs) (.inl rfl) h

/-- A program that is named by a path is looked for nowhere else. -/
theorem locate_of_path (h : program.toList.contains '/' = true) :
    w.locate program = w.files.run program := by
  rw [locate, candidates, if_pos h, Files.runFirst]
  cases w.files.run program with
  | ok _ => rfl
  | error e => cases e <;> rfl

/-- A program that is named by a path is run, is not there, or fails in a way that is not reported:
there is a file on the way, the path is too long, or what is there cannot be run. -/
theorem startFault?_of_path (h : program.toList.contains '/' = true)
    (hn : hasNull program = false) : w.startFault? program =
      match w.files.find program with
      | .ok (.program true _) => none
      | .ok _ => some (.system .permission program)
      | .error .notFound => some (.agent (.notFound program))
      | .error e => some (.system e program) := by
  rw [startFault?, if_neg (by rw [hn]; exact Bool.false_ne_true), locate_of_path h, Files.run]
  rcases w.files.find program with e | (_ | _ | (_ | _))
  · cases e <;> rfl
  all_goals rfl

end World

namespace Act

variable {s t : State} {f : Failure} {args : List String} {i : Invocation}

/-! ### Requests -/

/-- How the answer to a request for the passphrase is read. -/
def readPassphrase (response : List Char) : Except AgentFault String :=
  (passphraseOf response).map String.ofList

/-- Asking for the passphrase comes to the reply of the program. -/
theorem inquirePassphrase_reply (program : String) (s : State) :
    ∃ u, inquirePassphrase program s = ended (s.world.reply program readPassphrase) u ∧
      ∃ es w, Reaches s u es w := by
  unfold World.reply
  cases hs : s.world.startFault? program with
  | some e =>
    obtain ⟨u, hu, reaches⟩ := inquirePassphrase_of_fault hs
    exact ⟨u, hu, _, _, reaches⟩
  | none =>
    obtain ⟨u, hu, reaches⟩ := inquirePassphrase_of_start hs
    refine ⟨u, hu.trans ?_, _, _, reaches⟩
    have same : s.world.passphrase program =
        s.world.answer program >>= fun response => (readPassphrase response).mapError .agent := by
      rw [World.passphrase]
      cases s.world.answer program with
      | error e => rfl
      | ok response =>
        show ((passphraseOf response).mapError Failure.agent >>= _) =
          ((passphraseOf response).map String.ofList).mapError Failure.agent
        cases passphraseOf response <;> rfl
    rw [same]

/-- Clearing the passphrase comes to the reply of the program. -/
theorem clearPassphrase_reply (program : String) (s : State) :
    ∃ u, clearPassphrase program s = ended (s.world.reply program checkSuccess) u ∧
      ∃ es w, Reaches s u es w := by
  unfold World.reply
  cases hs : s.world.startFault? program with
  | some e =>
    obtain ⟨u, hu, reaches⟩ := clearPassphrase_of_fault hs
    exact ⟨u, hu, _, _, reaches⟩
  | none =>
    obtain ⟨u, hu, reaches⟩ := clearPassphrase_of_start hs
    exact ⟨u, hu, _, _, reaches⟩

/-- What comes to a reply succeeds, or fails in a way that is reported, or in one that is not. -/
theorem cases_of_reply {α : Type} {x : Act α} {program : String}
    {read : List Char → Except AgentFault α}
    (h : ∃ u, x s = ended (s.world.reply program read) u ∧ ∃ es w, Reaches s u es w) :
    (∃ a u, x s = .ok a u) ∨ (∃ fault u, x s = .error (.agent fault) u) ∨
      ∃ f u, x s = .error f u ∧ s.world.AgentEscapes program f := by
  obtain ⟨u, hu, -⟩ := h
  cases hr : s.world.reply program read with
  | ok a =>
    rw [hr] at hu
    exact .inl ⟨a, u, hu⟩
  | error f =>
    rw [hr] at hu
    rcases World.reply_eq_error hr with ⟨fault, rfl⟩ | escapes
    · exact .inr (.inl ⟨fault, u, hu⟩)
    · exact .inr (.inr ⟨f, u, hu, escapes⟩)

/-- The failures that are not reported are those, and no others. -/
theorem agentEscapes_iff_of_reply {α : Type} {x : Act α} {program : String}
    {read : List Char → Except AgentFault α}
    (h : ∃ u, x s = ended (s.world.reply program read) u ∧ ∃ es w, Reaches s u es w) :
    s.world.AgentEscapes program f ↔ ∃ u, x s = .error f u ∧ f.kind? = none := by
  constructor
  · intro escapes
    obtain ⟨u, hu, -⟩ := h
    rw [escapes.reply_eq] at hu
    exact ⟨u, hu, escapes.kind?⟩
  · rintro ⟨u, hu, kind⟩
    rcases cases_of_reply h with ⟨a, v, hv⟩ | ⟨fault, v, hv⟩ | ⟨g, v, hv, escapes⟩
    · cases hu.symm.trans hv
    · obtain ⟨rfl, -⟩ := EStateM.Result.error.inj (hu.symm.trans hv)
      cases kind
    · obtain ⟨rfl, -⟩ := EStateM.Result.error.inj (hu.symm.trans hv)
      exact escapes

/-! ### Operations -/

/-- Clearing the passphrase in a session that finds its configuration is one request. -/
theorem perform_clearPassphrase_fresh {path : Option Path} {c : Config}
    (h : s.session = .fresh path) (hc : s.logging.told (s.world.config path) = .ok c) :
    ∃ u, perform .clearPassphrase s = ended (s.world.reply c.agentProgram checkSuccess) u ∧
      u.out = s.out := by
  have begun : (s.begun .clearPassphrase).session = .fresh path := h
  obtain ⟨u, ⟨err, rfl⟩, ⟨f, hf, -⟩ | ⟨d, hd, run⟩⟩ := proceed_fresh_cases begun .clearPassphrase
  · cases hc.symm.trans hf
  · obtain rfl : c = d := Except.ok.inj (hc.symm.trans hd)
    generalize hv : State.given { s.begun .clearPassphrase with err } path c = v at run
    have known : v.session.config = some c := by rw [← hv]; rfl
    have program : agentOf v c = c.agentProgram := by rw [← hv]; rfl
    have world : v.world = s.world := by rw [← hv]; rfl
    have out : v.out = s.out := by rw [← hv]; rfl
    obtain ⟨u, hu, es, w, reaches⟩ := clearPassphrase_reply (agentOf v c)
      { v with session := { v.session with agentProgram := some (agentOf v c) } }
    refine ⟨u, ?_, reaches.out.trans out⟩
    rw [perform_apply, run]
    refine (bind_of_ok (sessionAgent_apply known)).trans (hu.trans ?_)
    show ended (v.world.reply (agentOf v c) checkSuccess) u = _
    rw [program, world]

/-- Opening the volume asks for the passphrase once it is connected, and ends as this fails. -/
theorem openVolume_of_reply_error (h : connect s = .ok () t) :
    ∃ c, t.session.config = some c ∧
      ∀ f, t.world.reply (agentOf t c) readPassphrase = .error f →
        ∃ u, perform .openVolume s = .error f u := by
  obtain ⟨r, k, es, err, connects, run⟩ := connect_cases s
  obtain ⟨rfl, ht⟩ := eq_of_ended (run.symm.trans h)
  obtain ⟨c, hk⟩ := connects.exists_config rfl
  have hc : t.session.config = some c := by
    rw [← ht]
    exact hk
  refine ⟨c, hc, fun f hf => ?_⟩
  obtain ⟨u, hu, -⟩ := inquirePassphrase_reply (agentOf t c)
    { t with session := { t.session with agentProgram := some (agentOf t c) } }
  have asks : inquirePassphrase (agentOf t c)
      { t with session := { t.session with agentProgram := some (agentOf t c) } } =
        .error f u := by
    refine hu.trans ?_
    show ended (t.world.reply (agentOf t c) readPassphrase) u = _
    rw [hf]
    rfl
  have attempt (onRejection : Failure → Act Unit) : attemptUnlock onRejection t = .error f u :=
    (bind_of_ok (sessionAgent_apply hc)).trans (bind_of_error asks)
  refine ⟨u, (bind_of_ok h).trans ((bind_of_ok (sessionConfig_of_some hc)).trans ?_)⟩
  cases c.attempts - 1 with
  | zero => exact attempt _
  | succ more => exact attempt _

/-! ### Command lines -/

/-- A command without arguments ends as its operation fails: with the report of the failure, if it
is one that is reported. -/
theorem runProgram_of_perform_error (hp : Invocation.parse args = .ok i)
    (hd : args.drop (commandIndex args + 1) = [])
    (h : perform i.command.operation (operationStart i s) = .error f t) :
    (∀ k, f.kind? = some k →
      runProgram args s = .ok (.returned 1) (afterReport i.command f t)) ∧
    (f.kind? = none → runProgram args s = .error f t) := by
  have single := arguments_of_parse hp
  rw [hd] at single
  have run : runInvocation i s = report i.command f t := by
    rw [runInvocation_of_name single, h]
    rfl
  refine ⟨fun k hk => ?_, fun hk => ?_⟩
  · rw [report_of_some hk] at run
    exact runProgram_of_parse hp run
  · rw [report_of_none hk] at run
    exact (runProgram_of_invocation hp s).trans (bind_of_error run)

/-- A command line that clears the passphrase returns zero if the program says so, and one with a
message if the failure is reported. Any other failure ends the program. -/
theorem runProgram_clear (hp : Invocation.parse args = .ok i)
    (hd : args.drop (commandIndex args + 1) = []) (hi : i.command = .clearPassphrase) {c : Config}
    (hc : (operationStart i s).logging.told (s.world.config i.config) = .ok c) :
    (s.world.reply c.agentProgram checkSuccess = .ok () →
      ∃ u, runProgram args s = .ok (.returned 0) u ∧ u.out = s.out) ∧
    (∀ fault, s.world.reply c.agentProgram checkSuccess = .error (.agent fault) →
      ∃ u err, runProgram args s = .ok (.returned 1) u ∧ u.out = s.out ∧
        u.err = err ++ ("Error: " ++ fault.message ++ "\n")) ∧
    ∀ f, s.world.AgentEscapes c.agentProgram f → ∃ u, runProgram args s = .error f u := by
  have operation : i.command.operation = .clearPassphrase := by rw [hi]; rfl
  obtain ⟨u, performed, out⟩ := perform_clearPassphrase_fresh (s := operationStart i s) rfl hc
  rw [← operation] at performed
  refine ⟨fun hr => ?_, fun fault hr => ?_, fun f hf => ?_⟩
  · have single := arguments_of_parse hp
    rw [hd] at single
    have run : runInvocation i s = .ok 0 u := by
      rw [runInvocation_of_name single, performed,
        show (operationStart i s).world.reply c.agentProgram checkSuccess = .ok () from hr]
      rfl
    exact ⟨u, runProgram_of_parse hp run, out⟩
  · have failed : perform i.command.operation (operationStart i s) = .error (.agent fault) u := by
      rw [performed,
        show (operationStart i s).world.reply c.agentProgram checkSuccess = _ from hr]
      rfl
    have reported := (runProgram_of_perform_error hp hd failed).1 .passphraseAgent rfl
    exact ⟨_, _, reported, out, rfl⟩
  · have failed : perform i.command.operation (operationStart i s) = .error f u := by
      rw [performed,
        show (operationStart i s).world.reply c.agentProgram checkSuccess = _ from
          hf.reply_eq checkSuccess]
      rfl
    exact ⟨u, (runProgram_of_perform_error hp hd failed).2 hf.kind?⟩

/-- A command line that opens the volume and connects to the key ends as asking for the passphrase
fails: with the code one and a message if the failure is reported, and with the failure itself if it
is not. -/
theorem runProgram_open (hp : Invocation.parse args = .ok i)
    (hd : args.drop (commandIndex args + 1) = []) (hi : i.command = .openVolume)
    (h : connect (operationStart i s) = .ok () t) :
    ∃ c, t.session.config = some c ∧
      (∀ fault, t.world.reply (agentOf t c) readPassphrase = .error (.agent fault) →
        ∃ u err, runProgram args s = .ok (.returned 1) u ∧
          u.err = err ++ ("Error: " ++ fault.message ++ "\n")) ∧
      ∀ f, t.world.AgentEscapes (agentOf t c) f → ∃ u, runProgram args s = .error f u := by
  have operation : i.command.operation = .openVolume := by rw [hi]; rfl
  obtain ⟨c, hc, fails⟩ := openVolume_of_reply_error h
  rw [← operation] at fails
  refine ⟨c, hc, fun fault hr => ?_, fun f hf => ?_⟩
  · obtain ⟨u, failed⟩ := fails _ hr
    exact ⟨_, _, (runProgram_of_perform_error hp hd failed).1 .passphraseAgent rfl, rfl⟩
  · obtain ⟨u, failed⟩ := fails f (hf.reply_eq readPassphrase)
    exact ⟨u, (runProgram_of_perform_error hp hd failed).2 hf.kind?⟩

/-- Either request to the agent program succeeds, or fails with an error that is reported, or in one
of the ways that are not reported, and it does fail in each of these. A program that is named by a
path is run, is not there, or makes a failure that is not reported. A command line that clears the
passphrase, or connects to open the volume and asks for it, returns the code one with the error in
the second case, and ends with the failure in the third. -/
theorem agent_failures (s : State) :
    (∀ program, (∃ p u, inquirePassphrase program s = .ok p u) ∨
      (∃ fault u, inquirePassphrase program s = .error (.agent fault) u) ∨
      ∃ f u, inquirePassphrase program s = .error f u ∧ s.world.AgentEscapes program f) ∧
    (∀ program, (∃ a u, clearPassphrase program s = .ok a u) ∨
      (∃ fault u, clearPassphrase program s = .error (.agent fault) u) ∨
      ∃ f u, clearPassphrase program s = .error f u ∧ s.world.AgentEscapes program f) ∧
    (∀ program f,
      (s.world.AgentEscapes program f ↔
        ∃ u, inquirePassphrase program s = .error f u ∧ f.kind? = none) ∧
      (s.world.AgentEscapes program f ↔
        ∃ u, clearPassphrase program s = .error f u ∧ f.kind? = none)) ∧
    (∀ program e, s.world.locate program = .error e →
      e = .notFound ∨ e = .permission ∨ e = .notDirectory ∨ e = .nameTooLong) ∧
    (∀ program, program.toList.contains '/' = true → hasNull program = false →
      s.world.startFault? program =
        match s.world.files.find program with
        | .ok (.program true _) => none
        | .ok _ => some (.system .permission program)
        | .error .notFound => some (.agent (.notFound program))
        | .error e => some (.system e program)) ∧
    (∀ args i, Invocation.parse args = .ok i → args.drop (commandIndex args + 1) = [] →
      i.command = .clearPassphrase →
      ∀ c, (operationStart i s).logging.told (s.world.config i.config) = .ok c →
        (s.world.reply c.agentProgram checkSuccess = .ok () →
          ∃ u, runProgram args s = .ok (.returned 0) u ∧ u.out = s.out) ∧
        (∀ fault, s.world.reply c.agentProgram checkSuccess = .error (.agent fault) →
          ∃ u err, runProgram args s = .ok (.returned 1) u ∧ u.out = s.out ∧
            u.err = err ++ ("Error: " ++ fault.message ++ "\n")) ∧
        ∀ f, s.world.AgentEscapes c.agentProgram f → ∃ u, runProgram args s = .error f u) ∧
    ∀ args i, Invocation.parse args = .ok i → args.drop (commandIndex args + 1) = [] →
      i.command = .openVolume → ∀ t, connect (operationStart i s) = .ok () t →
        ∃ c, t.session.config = some c ∧
          (∀ fault, t.world.reply (agentOf t c) readPassphrase = .error (.agent fault) →
            ∃ u err, runProgram args s = .ok (.returned 1) u ∧
              u.err = err ++ ("Error: " ++ fault.message ++ "\n")) ∧
          ∀ f, t.world.AgentEscapes (agentOf t c) f → ∃ u, runProgram args s = .error f u :=
  ⟨fun program => cases_of_reply (inquirePassphrase_reply program s),
    fun program => cases_of_reply (clearPassphrase_reply program s),
    fun program _ => ⟨agentEscapes_iff_of_reply (inquirePassphrase_reply program s),
      agentEscapes_iff_of_reply (clearPassphrase_reply program s)⟩,
    fun _ _ => World.locate_eq_error, fun _ => World.startFault?_of_path,
    fun _ _ hp hd hi _ hc => runProgram_clear hp hd hi hc,
    fun _ _ hp hd hi _ h => runProgram_open hp hd hi h⟩

example : (Files.empty.write "./agent" (.program true)).find "./agent/x" = .error .notDirectory := by
  decide +kernel

end Act

end StorageKey
