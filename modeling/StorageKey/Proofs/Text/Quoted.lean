import Mathlib.Data.Nat.Digits.Lemmas
import StorageKey.Proofs.Decimal.Digits

/-!
# Literals tell texts apart

A character is read back from what stands for it in a literal, whatever follows. So different texts
have different literals, and who sees the literal of a text knows the text.

* `readPoint`, `readPoint_quotePoint`: reading the first character of a literal;
* `quote_injective`: different texts have different literals.
-/

namespace StorageKey.Text

open Decimal

variable {n width : Nat} {q c : Char}

/-! ### Hexadecimal digits -/

theorem valueOf_zeros (base k : Nat) (ds : List Char) :
    valueOf base (List.replicate k '0' ++ ds) = valueOf base ds := by
  induction k with
  | zero => rfl
  | succ k ih =>
    rw [List.replicate_succ, List.cons_append, ← ih, valueOf, List.foldl_cons, Nat.zero_mul,
      Nat.zero_add]
    rfl

/-- A number is read back from its hexadecimal digits. -/
theorem valueOf_hexDigits (width n : Nat) : valueOf 16 (hexDigits width n) = n := by
  rw [hexDigits, valueOf_zeros, valueOf_toDigits (by decide) (by decide)]

/-- A number that fits has as many digits as it is given. -/
theorem length_hexDigits (hw : 0 < width) (h : n < 16 ^ width) :
    (hexDigits width n).length = width := by
  have digits : (Nat.toDigits 16 n).length ≤ width :=
    (Nat.length_toDigits_le_iff (by decide) hw).2 h
  rw [hexDigits, List.length_append, List.length_replicate]
  omega

/-! ### Reading a literal -/

/-- The first code point of a literal without its quotes, and the rest of the literal. -/
def readPoint : List Char → Option (Nat × List Char)
  | '\\' :: 'x' :: r => some (valueOf 16 (r.take 2), r.drop 2)
  | '\\' :: 'u' :: r => some (valueOf 16 (r.take 4), r.drop 4)
  | '\\' :: 'U' :: r => some (valueOf 16 (r.take 8), r.drop 8)
  | '\\' :: 't' :: r => some (9, r)
  | '\\' :: 'n' :: r => some (10, r)
  | '\\' :: 'r' :: r => some (13, r)
  | '\\' :: c :: r => some (c.toNat, r)
  | c :: r => some (c.toNat, r)
  | [] => none

theorem readPoint_cons (h : c ≠ '\\') (r : List Char) : readPoint (c :: r) = some (c.toNat, r) := by
  unfold readPoint
  split <;> simp_all

/-- The digits of an escape are read back as its code point. -/
theorem value_take_hexDigits (hw : 0 < width) (h : n < 16 ^ width) (r : List Char) :
    (valueOf 16 ((hexDigits width n ++ r).take width), (hexDigits width n ++ r).drop width) =
      (n, r) := by
  have length := length_hexDigits hw h
  rw [List.take_left' length, List.drop_left' length, valueOf_hexDigits]

theorem readPoint_escapePoint (h : n < 16 ^ 8) (r : List Char) :
    readPoint (escapePoint n ++ r) = some (n, r) := by
  unfold escapePoint
  split_ifs with two four
  · exact congrArg some (value_take_hexDigits (by decide) (Nat.lt_succ_of_le two) r)
  · exact congrArg some (value_take_hexDigits (by decide) (Nat.lt_succ_of_le four) r)
  · exact congrArg some (value_take_hexDigits (by decide) h r)

/-- A character is read back from what stands for it between quotes. -/
theorem readPoint_quotePoint (hq : q = '\'' ∨ q = '"') (c : Char) (r : List Char) :
    readPoint (quotePoint q c.toNat ++ r) = some (c.toNat, r) := by
  unfold quotePoint
  rw [Char.ofNat_toNat]
  split_ifs with escaped tab feed back printable
  · -- Neither quote, nor the backslash, stands for another character after a backslash.
    simp only [Bool.or_eq_true, decide_eq_true_eq, Char.toNat_inj] at escaped
    rcases hq with rfl | rfl <;> rcases escaped with rfl | rfl <;> rfl
  · rw [tab]
    rfl
  · rw [feed]
    rfl
  · rw [back]
    rfl
  · refine readPoint_cons ?_ r
    rintro rfl
    exact escaped (by simp)
  · exact readPoint_escapePoint c.val.toNat_lt r

/-! ### Literals -/

theorem quoteFor_eq (ns : List Nat) : quoteFor ns = '\'' ∨ quoteFor ns = '"' := by
  unfold quoteFor
  split
  · exact .inr rfl
  · exact .inl rfl

theorem flatMap_quotePoint_injective (hq : q = '\'' ∨ q = '"') :
    Function.Injective fun s : List Char => (s.map Char.toNat).flatMap (quotePoint q) := by
  intro s t h
  dsimp only at h
  induction s generalizing t with
  | nil =>
    cases t with
    | nil => rfl
    | cons d t =>
      have read := congrArg readPoint h
      rw [List.map_cons, List.flatMap_cons, readPoint_quotePoint hq] at read
      cases read
  | cons c s ih =>
    have read := congrArg readPoint h
    rw [List.map_cons, List.flatMap_cons, readPoint_quotePoint hq] at read
    cases t with
    | nil => cases read
    | cons d t =>
      rw [List.map_cons, List.flatMap_cons, readPoint_quotePoint hq, Option.some.injEq,
        Prod.mk.injEq, Char.toNat_inj] at read
      rw [read.1, ih read.2]

/-- Different texts have different literals. -/
theorem quote_injective : Function.Injective quote := by
  intro s t h
  obtain ⟨same, rest⟩ := List.cons.inj h
  rw [same] at rest
  exact flatMap_quotePoint_injective (quoteFor_eq _) (List.append_cancel_right rest)

end StorageKey.Text
