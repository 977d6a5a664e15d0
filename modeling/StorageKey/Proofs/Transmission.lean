import StorageKey.Proofs.Answers
import StorageKey.Proofs.Secrecy

/-!
# Passphrases on their way through the agent program

The agent program writes a passphrase on one line and ends its lines by line feeds. An answer is cut
into lines at more characters than that, so a passphrase that holds one of these other characters
is not understood, and the error tells the whole answer. Every other passphrase arrives as it is.

* `strayBoundaries`: the characters that end a line here but not where the answer is written;
* `passphraseAnswer`, `World.PrintsPassphrase`: the answer, and worlds in which it comes next;
* `transmitted_passphrase`: which passphrases arrive, and what becomes of the others.
-/

namespace StorageKey

open Text

/-- The characters that end a line of a text, other than the line feed and the carriage return. -/
def strayBoundaries : List Char :=
  ['\x0b', '\x0c', '\x1c', '\x1d', '\x1e', '\u0085', '\u2028', '\u2029']

/-- A text that the agent program can write on one line. -/
def IsSingleLine (p : List Char) : Prop := '\n' ∉ p ∧ '\r' ∉ p

/-- The answer that gives a passphrase, as the agent program writes it. -/
def passphraseAnswer (p : List Char) : List Char := "D ".toList ++ p ++ "\nOK\n".toList

/-- Worlds in which the agent program runs and writes the answer that gives a passphrase; what it
complains of besides is a text. -/
structure World.PrintsPassphrase (w : World) (program : String) (p : List Char) : Prop where
  start : w.startFault? program = none
  out : w.agent.next.1.out = Utf8.encode (passphraseAnswer p)
  err : ∃ complaint, printedText w.agent.next.1.err = .ok complaint
  code : w.agent.next.1.code = 0

variable {p : List Char}

/-! ### Lines -/

theorem isLineBoundary_iff_stray {c : Char} (hn : c ≠ '\n') (hr : c ≠ '\r') :
    isLineBoundary c = true ↔ c ∈ strayBoundaries := by
  simp only [isLineBoundary, strayBoundaries, hn, hr, decide_false, Bool.false_or, Bool.or_eq_true,
    decide_eq_true_eq, List.mem_cons, List.not_mem_nil, or_false, or_assoc]

/-- A text on one line is unbroken here too, if it holds none of the other characters. -/
theorem IsSingleLine.unbroken_iff (h : IsSingleLine p) :
    Unbroken p ↔ ∀ c ∈ p, c ∉ strayBoundaries := by
  have same : ∀ c ∈ p, (isLineBoundary c = true ↔ c ∈ strayBoundaries) := by
    intro c hc
    refine isLineBoundary_iff_stray ?_ ?_
    · rintro rfl
      exact h.1 hc
    · rintro rfl
      exact h.2 hc
  constructor
  · intro hu c hc hs
    have hb := (same c hc).2 hs
    rw [hu c hc] at hb
    cases hb
  · intro hs c hc
    exact Bool.eq_false_iff.2 fun hb => hs c hc ((same c hc).1 hb)

theorem IsSingleLine.return_not_mem_answer (h : IsSingleLine p) : '\r' ∉ passphraseAnswer p := by
  have start : '\r' ∉ "D ".toList := by decide
  have stop : '\r' ∉ "\nOK\n".toList := by decide
  simp only [passphraseAnswer, List.mem_append, not_or]
  exact ⟨⟨start, h.2⟩, stop⟩

/-! ### Answers -/

/-- More than a line that says `OK` is left where a line of its own goes before. -/
theorem not_saysSuccess_append (s : List Char) : ¬SaysSuccess (s ++ "\nOK\n".toList) := by
  rintro ⟨b, h, hb⟩
  have short : b.length ≤ 2 := by
    rcases hb with rfl | hb
    · exact Nat.zero_le 2
    · exact (by decide : ∀ b ∈ lineBoundaries, b.length ≤ 2) b hb
  have length := congrArg List.length h
  simp only [List.length_append, show "\nOK\n".toList.length = 4 from rfl,
    show "OK".toList.length = 2 from rfl] at length
  obtain rfl : s = [] := List.eq_nil_of_length_eq_zero (by omega)
  exact absurd (List.head_eq_of_cons_eq h) (by decide)

/-- An unbroken passphrase is given by its answer. -/
theorem givesPassphrase_answer (h : Unbroken p) : GivesPassphrase (passphraseAnswer p) p := by
  refine ⟨['\n'], ['\n'], ?_, h, by decide, .inr (by decide)⟩
  rw [passphraseAnswer, List.append_assoc _ _ "OK".toList, List.append_assoc _ _ ['\n']]
  rfl

/-- The answer with a broken passphrase gives none, as the passphrase takes two lines or more. -/
theorem not_givesPassphrase_answer (h : IsSingleLine p) (hb : ¬Unbroken p) (q : List Char) :
    ¬GivesPassphrase (passphraseAnswer p) q := by
  intro hq
  obtain ⟨l, c, r, rfl, hl, hc⟩ := exists_of_not_unbroken hb
  have feed : c = '\r' → (r ++ "\nOK\n".toList).head? ≠ some '\n' := by
    rintro rfl
    exact absurd (List.mem_append_right l List.mem_cons_self) h.2
  have lines : splitLines (passphraseAnswer (l ++ c :: r)) =
      ("D ".toList ++ l) :: splitLines (r ++ "\nOK\n".toList) := by
    rw [passphraseAnswer, ← List.append_assoc "D ".toList, List.append_assoc _ (c :: r),
      List.cons_append, splitLines_append_cons (unbroken_data.2 hl) hc feed]
  rw [givesPassphrase_iff_lines, lines] at hq
  exact not_saysSuccess_append r (saysSuccess_iff_lines.2 (List.tail_eq_of_cons_eq hq))

/-- What comes of the answer that gives a passphrase. -/
theorem passphraseOf_answer_of_unbroken (h : Unbroken p) :
    passphraseOf (passphraseAnswer p) = .ok p :=
  passphraseOf_eq_ok_iff.2 (givesPassphrase_answer h)

theorem passphraseOf_answer_of_broken (h : IsSingleLine p) (hb : ¬Unbroken p) :
    passphraseOf (passphraseAnswer p) = .error (.unexpected (passphraseAnswer p)) := by
  rw [passphraseOf_of_not_gives (not_givesPassphrase_answer h hb), passphraseAnswer,
    List.append_assoc, rejectionOf_data]

/-! ### Requests -/

namespace World.PrintsPassphrase

variable {w : World} {program : String}

/-- The answer is read as it is written. -/
theorem answer_eq (hw : w.PrintsPassphrase program p) (h : IsSingleLine p) :
    w.answer program = .ok (passphraseAnswer p) := by
  obtain ⟨complaint, he⟩ := hw.err
  have out : printedText w.agent.next.1.out = .ok (passphraseAnswer p) := by
    rw [hw.out, printedText, Utf8.decode_encode]
    exact congrArg Except.ok (unifyNewlines_of_not_mem h.return_not_mem_answer)
  rw [World.answer, Response.answer, out, he]
  exact if_pos hw.code

/-- A request gives what is taken from the answer. -/
theorem inquirePassphrase_eq {s : State} (hw : s.world.PrintsPassphrase program p)
    (h : IsSingleLine p) : ∃ u, Act.inquirePassphrase program s =
      ended (((passphraseOf (passphraseAnswer p)).mapError .agent).map String.ofList) u := by
  obtain ⟨u, ask, -⟩ := Act.inquirePassphrase_of_start hw.start
  refine ⟨u, ask.trans ?_⟩
  rw [World.passphrase, hw.answer_eq h]
  show ended ((passphraseOf (passphraseAnswer p)).mapError Failure.agent >>= _) u = _
  cases passphraseOf (passphraseAnswer p) <;> rfl

end World.PrintsPassphrase

/-- A passphrase that the agent program writes on one line arrives just if it holds no other
character that ends a line here. Then a request for it gives it; else the answer is unexpected, and
the error tells it. -/
theorem transmitted_passphrase (h : IsSingleLine p) :
    (passphraseOf (passphraseAnswer p) = .ok p ↔ ∀ c ∈ p, c ∉ strayBoundaries) ∧
    ((∃ c ∈ p, c ∈ strayBoundaries) →
      passphraseOf (passphraseAnswer p) = .error (.unexpected (passphraseAnswer p))) ∧
    ∀ s program, s.world.PrintsPassphrase program p →
      ((∀ c ∈ p, c ∉ strayBoundaries) →
        ∃ u, Act.inquirePassphrase program s = .ok (String.ofList p) u) ∧
      ((∃ c ∈ p, c ∈ strayBoundaries) →
        ∃ f u, Act.inquirePassphrase program s = .error f u ∧ f.kind? = some .passphraseAgent ∧
          f.message = "Unexpected response: " ++ String.ofList (quote (passphraseAnswer p))) := by
  have broken (hs : ∃ c ∈ p, c ∈ strayBoundaries) : ¬Unbroken p := by
    obtain ⟨c, hc, hs⟩ := hs
    exact fun hu => h.unbroken_iff.1 hu c hc hs
  refine ⟨?_, fun hs => passphraseOf_answer_of_broken h (broken hs), fun s program hw => ?_⟩
  · rw [← h.unbroken_iff]
    refine ⟨fun ho => ?_, passphraseOf_answer_of_unbroken⟩
    by_contra hb
    rw [passphraseOf_answer_of_broken h hb] at ho
    cases ho
  · obtain ⟨u, ask⟩ := hw.inquirePassphrase_eq h
    refine ⟨fun hs => ?_, fun hs => ?_⟩
    · rw [passphraseOf_answer_of_unbroken (h.unbroken_iff.2 hs)] at ask
      exact ⟨u, ask⟩
    · rw [passphraseOf_answer_of_broken h (broken hs)] at ask
      exact ⟨_, u, ask, rfl, rfl⟩

/-- A next-line character ends a line, so a passphrase that holds one is told and not taken. -/
theorem transmitted_passphrase_nextLine :
    let p := "12\u008534".toList
    let s := Act.startIn (Act.guessedWorld "12\u008534" "")
    IsSingleLine p ∧ passphraseOf (passphraseAnswer p) ≠ .ok p ∧
      ∃ f u, Act.inquirePassphrase "./agent" s = .error f u ∧
        f.message = "Unexpected response: 'D 12\\x8534\\nOK\\n'" := by
  intro p s
  have single : IsSingleLine p := by
    unfold IsSingleLine
    decide
  have stray : ∃ c ∈ p, c ∈ strayBoundaries := ⟨'\u0085', by decide, by decide⟩
  have prints : s.world.PrintsPassphrase "./agent" p :=
    ⟨by decide +kernel, rfl, ⟨[], rfl⟩, rfl⟩
  obtain ⟨arrives, -, asks⟩ := transmitted_passphrase single
  obtain ⟨f, u, run, -, message⟩ := (asks s "./agent" prints).2 stray
  refine ⟨single, fun ho => ?_, f, u, run, message.trans (by decide +kernel)⟩
  obtain ⟨c, hc, hs⟩ := stray
  exact arrives.1 ho c hc hs

end StorageKey
