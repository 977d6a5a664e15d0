import StorageKey.Proofs.AgentFailures
import StorageKey.Proofs.Answers
import StorageKey.Proofs.Outcome
import StorageKey.Proofs.Text.Quoted

/-!
# What is told of rejected data

An answer may start with a data line and still give no passphrase, since more or less follows than
a line that says `OK`. What follows alone decides that. The error tells the literal of the whole
answer, and so it tells the data: the errors of two such answers are the same just if their data
are, and a command line that gets one of them prints it.

* `dataAnswer`, `passphraseOf_dataAnswer`: answers that start with a data line;
* `Attempts.unique`: the world determines the attempts that are made in it;
* `IsAnswered`, `EndsWithError`: command lines that get an answer, and what they print last;
* `rejected_data`: two answers that start with a data line.
-/

namespace StorageKey

open Text

/-! ### Answers that start with a data line -/

/-- An answer that starts with a data line. -/
def dataAnswer (p s : List Char) : List Char := "D ".toList ++ p ++ s

variable {p q r s : List Char} {e f : AgentFault}

/-- What follows the data line decides whether the answer gives the data or is unexpected. -/
theorem passphraseOf_dataAnswer (hp : Unbroken p) (hs : GoesOn s) :
    passphraseOf (dataAnswer p s) =
      if (splitLines s).tail = ["OK".toList] then .ok p
      else .error (.unexpected (dataAnswer p s)) := by
  have lines : splitLines (dataAnswer p s) = ("D ".toList ++ p) :: (splitLines s).tail :=
    splitLines_append_goesOn (by simp) (unbroken_data.2 hp) hs
  split
  · next h => rw [passphraseOf_eq_ok_iff_lines, lines, h]
  · next h =>
    have rejected : ∀ q, ¬GivesPassphrase (dataAnswer p s) q := by
      intro q hq
      rw [givesPassphrase_iff_lines, lines] at hq
      exact h (List.tail_eq_of_cons_eq hq)
    rw [passphraseOf_of_not_gives rejected, dataAnswer, List.append_assoc, rejectionOf_data]

/-- Data are in the literal of their answer. -/
theorem quote_dataAnswer_inj : quote (dataAnswer p s) = quote (dataAnswer q s) ↔ p = q := by
  rw [quote_injective.eq_iff, dataAnswer, dataAnswer, List.append_cancel_right_eq,
    List.append_cancel_left_eq]

/-! ### Attempts -/

section

variable {program : String} {l : Logging} {more left : Nat} {w w₁ w₂ : World}

/-- The world determines the attempts that are made in it. -/
theorem Attempts.unique {as bs : List Attempt} (h : Attempts program l more w as w₁)
    (h' : Attempts program l more w bs w₂) : as = bs ∧ w₁ = w₂ := by
  -- Where one list ends with a rejection and the other goes on, the warning about it decides.
  induction h generalizing bs with
  | last h hl =>
    cases h' with
    | last h' =>
      obtain ⟨rfl, rfl⟩ := h.unique h'
      exact ⟨rfl, rfl⟩
    | next h' hw =>
      obtain ⟨rfl, -⟩ := h.unique h'
      exact absurd hw ((hl rfl).resolve_left (Nat.succ_ne_zero _))
  | next h hw _ ih =>
    cases h' with
    | last h' hl =>
      obtain ⟨rfl, -⟩ := h.unique h'
      exact absurd hw ((hl rfl).resolve_left (Nat.succ_ne_zero _))
    | next h' _ hr =>
      obtain ⟨same, rfl⟩ := h.unique h'
      obtain ⟨rfl, rfl⟩ := ih hr
      exact ⟨by rw [same], rfl⟩

/-- Rejected attempts, from a world to the one that the last of them leaves. The numbers say how
many attempts may follow the next one in either world. -/
inductive RejectedUntil (program : String) (l : Logging) : Nat → World → Nat → World → Prop
  | refl {more : Nat} {w : World} : RejectedUntil program l more w more w
  | step {more left : Nat} {w w' v : World} {p : String} {e : Raised}
      (h : Tries program w (.rejected p e) w') (hw : CanWarn l (more + 1))
      (hr : RejectedUntil program l more w' left v) : RejectedUntil program l (more + 1) w left v

/-- An attempt that is not rejected is the last. -/
theorem RejectedUntil.attempts {v v' : World} {b : Attempt}
    (h : RejectedUntil program l more w left v) (hb : Tries program v b v')
    (hn : b.isRejected = false) : ∃ as, Attempts program l more w as v' ∧ as.getLast? = some b := by
  induction h with
  | refl => exact ⟨[b], .last hb fun hr => absurd hr (by simp [hn]), rfl⟩
  | step h hw _ ih =>
    obtain ⟨as, hs, last⟩ := ih hb
    exact ⟨_, .next h hw hs, by rw [List.getLast?_cons, last]; rfl⟩

end

namespace Act

/-! ### Command lines -/

/-- A command line opens the volume, and gets an answer when it asks for the passphrase, at first or
after passphrases that the key has rejected. -/
inductive IsAnswered (args : List String) (s : State) (r : List Char) : Prop
  | intro {i : Invocation} {t : State} {c : Config} {left : Nat} {w : World}
      (hp : Invocation.parse args = .ok i) (hd : args.drop (commandIndex args + 1) = [])
      (hi : i.command = .openVolume) (ht : connect (operationStart i s) = .ok () t)
      (hc : t.session.config = some c)
      (hr : RejectedUntil (agentOf t c) t.logging (c.attempts - 1) t.world left w)
      (hs : w.startFault? (agentOf t c) = none) (ha : w.answer (agentOf t c) = .ok r) :
      IsAnswered args s r

/-- The answer that a connected session gets when it first asks for the passphrase. -/
def firstAnswer? : EStateM.Result Failure State Unit → Option (List Char)
  | .ok _ t =>
    match t.session.config with
    | some c =>
      if (t.world.startFault? (agentOf t c)).isSome then none
      else (t.world.answer (agentOf t c)).toOption
    | none => none
  | .error _ _ => none

/-- Whether a command line gets an answer at first can be computed. -/
theorem isAnswered_of_firstAnswer {args : List String} {i : Invocation} {s : State}
    (hp : Invocation.parse args = .ok i) (hd : args.drop (commandIndex args + 1) = [])
    (hi : i.command = .openVolume) (h : firstAnswer? (connect (operationStart i s)) = some r) :
    IsAnswered args s r := by
  unfold firstAnswer? at h
  split at h
  · next t ht =>
    split at h
    · next c hc =>
      split at h
      · cases h
      · next hs =>
        refine .intro hp hd hi ht hc .refl (Option.not_isSome_iff_eq_none.1 hs) ?_
        cases ha : t.world.answer (agentOf t c) with
        | error f =>
          rw [ha] at h
          cases h
        | ok r' =>
          rw [ha] at h
          rw [Option.some.inj h]
    · cases h
  · cases h

/-- A command line returns the code one, and an error with a message is the last that it prints. -/
def EndsWithError (args : List String) (s : State) (message : String) : Prop :=
  ∃ u before, runProgram args s = .ok (.returned 1) u ∧
    u.err = before ++ ("Error: " ++ message ++ "\n")

/-- An answer that is rejected ends the command line that gets it. -/
theorem IsAnswered.endsWithError {args : List String} {s : State} (h : IsAnswered args s r)
    (he : passphraseOf r = .error e) : EndsWithError args s e.message := by
  obtain @⟨i, t, c, left, w, hp, hd, hi, ht, hc, hr, hs, ha⟩ := h
  have refused : w.passphrase (agentOf t c) = .error (.agent e) := by
    rw [World.passphrase, ha]
    show ((passphraseOf r).mapError Failure.agent >>= _) = _
    rw [he]
    rfl
  obtain ⟨as, hs', last⟩ := hr.attempts (.unanswered hs refused) rfl
  obtain ⟨bs, b, v, u, ht', last', -, run⟩ := unlockAttempts_cases (c.attempts - 1) hc
  obtain ⟨rfl, -⟩ := hs'.unique ht'
  obtain rfl : b = .unanswered (.agent e) := Option.some.inj (last'.symm.trans last)
  have failed : perform i.command.operation (operationStart i s) = .error (.agent e) u := by
    rw [hi]
    exact (openVolume_of_connect ht hc).trans run
  exact ⟨_, _, (runProgram_of_perform_error hp hd failed).1 .passphraseAgent rfl, rfl⟩

/-- How a rejected answer is reported: as an error of the agent program whose message is the literal
of the answer, which a command line that gets the answer prints. -/
structure TellsAnswer (r : List Char) (e : AgentFault) : Prop where
  kind : (Failure.agent e).kind? = some .passphraseAgent
  message : e.message = "Unexpected response: " ++ String.ofList (quote r)
  printed : ∀ args s, IsAnswered args s r → EndsWithError args s e.message

theorem tellsAnswer_dataAnswer (hp : Unbroken p) (hs : GoesOn s)
    (he : passphraseOf (dataAnswer p s) = .error e) : TellsAnswer (dataAnswer p s) e where
  kind := rfl
  message := by
    rw [passphraseOf_dataAnswer hp hs] at he
    split at he
    · cases he
    · cases he
      rfl
  printed _ _ h := h.endsWithError he

/-- Two answers that start with data lines, and go on alike, are rejected with errors of the same
kind. But each tells its own answer, so their messages are the same just if the data are. -/
theorem rejected_data (hp : Unbroken p) (hq : Unbroken q) (hs : GoesOn s)
    (he : passphraseOf (dataAnswer p s) = .error e)
    (hf : passphraseOf (dataAnswer q s) = .error f) :
    TellsAnswer (dataAnswer p s) e ∧ TellsAnswer (dataAnswer q s) f ∧
      (e.message = f.message ↔ p = q) := by
  have first := tellsAnswer_dataAnswer hp hs he
  have second := tellsAnswer_dataAnswer hq hs hf
  refine ⟨first, second, ?_⟩
  rw [first.message, second.message, String.append_right_inj, String.ofList_inj,
    quote_dataAnswer_inj]

/-- Errors of two answers that go on alike may differ. -/
theorem rejected_data_not_same : ¬∀ (p q s : List Char) (e f : AgentFault), Unbroken p →
    Unbroken q → GoesOn s → passphraseOf (dataAnswer p s) = .error e →
    passphraseOf (dataAnswer q s) = .error f → e.message = f.message := by
  intro same
  have messages := same "1234".toList "9876".toList ['\n'] _ _ (by decide) (by decide) (by decide)
    rfl rfl
  revert messages
  decide +kernel

/-- A world whose agent program answers every request alike, to which the key is connected. -/
def answeringWorld (answer : String) : World :=
  { guessedWorld "0000" "1234" with agent := ⟨[], ⟨answer.toUTF8.toList, [], 0⟩⟩ }

/-- Both command lines print what the agent program has sent. -/
theorem rejected_data_answeringWorld :
    let args := ["-c", "c.yaml", "open"]
    let p := "1234".toList
    let q := "9876".toList
    let s := ['\n']
    let e := AgentFault.unexpected (dataAnswer p s)
    let f := AgentFault.unexpected (dataAnswer q s)
    Unbroken p ∧ Unbroken q ∧ GoesOn s ∧ passphraseOf (dataAnswer p s) = .error e ∧
      passphraseOf (dataAnswer q s) = .error f ∧
      (TellsAnswer (dataAnswer p s) e ∧ TellsAnswer (dataAnswer q s) f ∧
        (e.message = f.message ↔ p = q)) ∧
      IsAnswered args (startIn (answeringWorld "D 1234\n")) (dataAnswer p s) ∧
      textsOfReturn (runProgram args (startIn (answeringWorld "D 1234\n"))) =
        some (1, "", "Error: Unexpected response: 'D 1234\\n'\n") ∧
      textsOfReturn (runProgram args (startIn (answeringWorld "D 9876\n"))) =
        some (1, "", "Error: Unexpected response: 'D 9876\\n'\n") := by
  intro args p q s e f
  have hp : Unbroken p := by decide
  have hq : Unbroken q := by decide
  have hs : GoesOn s := by decide
  have he : passphraseOf (dataAnswer p s) = .error e := by decide +kernel
  have hf : passphraseOf (dataAnswer q s) = .error f := by decide +kernel
  have parsed : Invocation.parse args =
      .ok ⟨.openVolume, ["nitrocli open"], false, some ⟨.here, ["c.yaml"]⟩⟩ := rfl
  exact ⟨hp, hq, hs, he, hf, rejected_data hp hq hs he hf,
    isAnswered_of_firstAnswer parsed (by decide) rfl (by decide +kernel), by decide +kernel,
    by decide +kernel⟩

end Act

end StorageKey
