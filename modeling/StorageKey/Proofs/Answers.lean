import StorageKey.Agent.Response
import StorageKey.Proofs.Text.Lines

/-!
# Which answers of the agent program are accepted

An answer gives a passphrase if it is a data line and a line that says `OK`, and says that all is
well if it is a line that says `OK`. The last line of either may lack its boundary. Every other
answer is a refusal, if its first line is an error line, or unexpected.

* `GivesPassphrase`, `SaysSuccess`: the answers that are accepted, as texts;
* `passphraseOf_eq_ok_iff`, `checkSuccess_eq_ok_iff`: they are those;
* `IsRejection`: what is reported of any other answer;
* `accepted_answers`: how every answer is taken.
-/

namespace StorageKey

open Text

/-- An answer that gives a passphrase: a data line that holds it, and a line that says `OK`. -/
def GivesPassphrase (r p : List Char) : Prop :=
  ∃ b b', r = "D ".toList ++ p ++ b ++ "OK".toList ++ b' ∧ Unbroken p ∧ b ∈ lineBoundaries ∧
    IsLastEnd b'

/-- An answer that says that all is well: a line that says `OK`. -/
def SaysSuccess (r : List Char) : Prop := ∃ b, r = "OK".toList ++ b ∧ IsLastEnd b

/-- What is reported of an answer that is not accepted: the reason that its first line gives, if
this is an error line, else the literal of the whole answer. -/
structure IsRejection (r : List Char) (f : Failure) : Prop where
  kind : f.kind? = some .passphraseAgent
  refused : ∀ reason, firstLine r = "ERR ".toList ++ reason → f.message = String.ofList reason
  unexpected : (∀ reason, firstLine r ≠ "ERR ".toList ++ reason) →
    f.message = "Unexpected response: " ++ String.ofList (quote r)

variable {r p q : List Char}

/-! ### The lines of an answer -/

theorem unbroken_data : Unbroken ("D ".toList ++ p) ↔ Unbroken p := by
  have start : Unbroken ['D', ' '] := unbroken_cons.2 ⟨rfl, unbroken_cons.2 ⟨rfl, unbroken_nil⟩⟩
  rw [unbroken_append]
  exact and_iff_right start

theorem unbroken_ok : Unbroken ['O', 'K'] :=
  unbroken_cons.2 ⟨rfl, unbroken_cons.2 ⟨rfl, unbroken_nil⟩⟩

theorem givesPassphrase_iff_lines :
    GivesPassphrase r p ↔ splitLines r = ["D ".toList ++ p, "OK".toList] := by
  rw [splitLines_eq_iff, lines_pair_iff (by decide)]
  constructor
  · rintro ⟨b, b', rfl, hp, hb, hb'⟩
    exact ⟨b, b', rfl, unbroken_data.2 hp, unbroken_ok, hb, hb'⟩
  · rintro ⟨b, b', rfl, hp, -, hb, hb'⟩
    exact ⟨b, b', rfl, unbroken_data.1 hp, hb, hb'⟩

theorem saysSuccess_iff_lines : SaysSuccess r ↔ splitLines r = ["OK".toList] := by
  rw [splitLines_eq_iff, lines_singleton_iff (by decide)]
  constructor
  · rintro ⟨b, rfl, hb⟩
    exact ⟨b, rfl, unbroken_ok, hb⟩
  · rintro ⟨b, rfl, -, hb⟩
    exact ⟨b, rfl, hb⟩

/-- An answer gives one passphrase at most. -/
theorem GivesPassphrase.unique (hp : GivesPassphrase r p) (hq : GivesPassphrase r q) : p = q := by
  have lines := (givesPassphrase_iff_lines.1 hp).symm.trans (givesPassphrase_iff_lines.1 hq)
  exact List.append_cancel_left (List.head_eq_of_cons_eq lines)

/-! ### Accepted answers -/

/-- A passphrase is taken from the lines of its answer. -/
theorem passphraseOf_eq_ok_iff_lines :
    passphraseOf r = .ok p ↔ splitLines r = ["D ".toList ++ p, "OK".toList] := by
  unfold passphraseOf
  constructor
  · intro h
    split at h
    · next data last hs =>
      split at h
      · next passphrase hd =>
        split at h
        · next ho =>
          obtain rfl : passphrase = p := Except.ok.inj h
          rw [hs, after?_eq_some_iff.1 hd, ho]
        · cases h
      · cases h
    · cases h
  · intro h
    rw [h]
    simp only [after?_append, if_true]

theorem passphraseOf_eq_ok_iff : passphraseOf r = .ok p ↔ GivesPassphrase r p :=
  passphraseOf_eq_ok_iff_lines.trans givesPassphrase_iff_lines.symm

theorem checkSuccess_eq_ok_iff : checkSuccess r = .ok () ↔ SaysSuccess r := by
  rw [saysSuccess_iff_lines, checkSuccess]
  split
  · next h => exact iff_of_true rfl h
  · next h => exact iff_of_false nofun h

/-! ### Other answers -/

/-- An answer that gives no passphrase is rejected as a whole. -/
theorem passphraseOf_of_not_gives (h : ∀ p, ¬GivesPassphrase r p) :
    passphraseOf r = .error (rejectionOf r) := by
  cases hr : passphraseOf r with
  | ok p => exact absurd (passphraseOf_eq_ok_iff.1 hr) (h p)
  | error e =>
    unfold passphraseOf at hr
    repeat' split at hr
    all_goals first | cases hr; rfl | cases hr

theorem checkSuccess_of_not_says (h : ¬SaysSuccess r) :
    checkSuccess r = .error (rejectionOf r) := by
  rw [saysSuccess_iff_lines] at h
  rw [checkSuccess, if_neg h]

/-- The error line that an answer starts with is the start of its first line. -/
theorem rejectionOf_eq (r : List Char) : rejectionOf r =
    match after? "ERR " (firstLine r) with
    | some reason => .refused reason
    | none => .unexpected r := by
  by_cases hr : r = []
  · subst hr
    rfl
  · rw [rejectionOf, head?_splitLines hr]
    rfl

/-- An answer that starts with a data line is no refusal. -/
theorem rejectionOf_data (r : List Char) :
    rejectionOf ("D ".toList ++ r) = .unexpected ("D ".toList ++ r) := by
  have data : after? "ERR " (firstLine ("D ".toList ++ r)) = none := by
    rw [after?_eq_none_iff]
    rintro ⟨reason, hr⟩
    exact absurd (List.head_eq_of_cons_eq hr) (by decide)
  rw [rejectionOf_eq, data]

theorem isRejection_rejectionOf (r : List Char) : IsRejection r (.agent (rejectionOf r)) where
  kind := rfl
  refused reason h := by
    rw [rejectionOf_eq, after?_eq_some_iff.2 h]
    rfl
  unexpected h := by
    have none : after? "ERR " (firstLine r) = none := by
      cases ha : after? "ERR " (firstLine r) with
      | none => rfl
      | some reason => exact absurd (after?_eq_some_iff.1 ha) (h reason)
    rw [rejectionOf_eq, none]
    rfl

/-- Every answer to a request for the passphrase gives one, which it alone determines, or is
rejected, and every answer to a request to clear it says that all is well, or is rejected. -/
theorem accepted_answers (r : List Char) :
    (∀ p, passphraseOf r = .ok p ↔ GivesPassphrase r p) ∧
    (∀ p q, GivesPassphrase r p → GivesPassphrase r q → p = q) ∧
    ((∀ p, ¬GivesPassphrase r p) → ∃ e, passphraseOf r = .error e ∧ IsRejection r (.agent e)) ∧
    (checkSuccess r = .ok () ↔ SaysSuccess r) ∧
    (¬SaysSuccess r → ∃ e, checkSuccess r = .error e ∧ IsRejection r (.agent e)) :=
  ⟨fun _ => passphraseOf_eq_ok_iff, fun _ _ => GivesPassphrase.unique,
    fun h => ⟨_, passphraseOf_of_not_gives h, isRejection_rejectionOf r⟩,
    checkSuccess_eq_ok_iff, fun h => ⟨_, checkSuccess_of_not_says h, isRejection_rejectionOf r⟩⟩

example : passphraseOf "D a b \r\nOK".toList = .ok "a b ".toList := by decide

end StorageKey
