import StorageKey.Decimal.Integer

/-!
# Digits of integers

A natural number is read back from its digits, so different numbers have different digits; and so do
different integers, which have a sign before the digits.

* `valueOf_toDigits`, `toDigits_injective`: natural numbers in bases up to sixteen;
* `signed_injective`: integers, with the digits of any notation;
* `intText_injective`: integers in decimal.
-/

namespace StorageKey.Decimal

variable {base n : Nat} {c : Char}

theorem digitValue?_digitChar : ∀ d < 16, digitValue? (Nat.digitChar d) = some d := by decide

/-- A number is read back from its digits. -/
theorem valueOf_toDigits (h₁ : 1 < base) (h₂ : base ≤ 16) (n : Nat) :
    valueOf base (Nat.toDigits base n) = n := by
  induction n using Nat.strongRecOn with
  | ind n ih =>
    rw [Nat.toDigits_eq_if h₁]
    split
    · next hn =>
      show 0 * base + (digitValue? n.digitChar).getD 0 = n
      rw [digitValue?_digitChar n (by omega), Nat.zero_mul, Nat.zero_add, Option.getD_some]
    · next hn =>
      have less : n % base < 16 := Nat.lt_of_lt_of_le (Nat.mod_lt n (by omega)) h₂
      rw [valueOf_append, ih (n / base) (Nat.div_lt_self (by omega) h₁),
        digitValue?_digitChar _ less, Option.getD_some, Nat.div_add_mod']

theorem toDigits_injective (h₁ : 1 < base) (h₂ : base ≤ 16) :
    Function.Injective (Nat.toDigits base) :=
  Function.LeftInverse.injective (valueOf_toDigits h₁ h₂)

/-- The digits of a number are among the digits of the base. -/
theorem exists_of_mem_toDigits (h₁ : 1 < base) (h : c ∈ Nat.toDigits base n) :
    ∃ d < base, c = Nat.digitChar d := by
  induction n using Nat.strongRecOn with
  | ind n ih =>
    rw [Nat.toDigits_eq_if h₁] at h
    split at h
    · next hn => exact ⟨n, hn, List.mem_singleton.1 h⟩
    · next hn =>
      rcases List.mem_append.1 h with h | h
      · exact ih (n / base) (Nat.div_lt_self (by omega) h₁) h
      · exact ⟨n % base, Nat.mod_lt n (by omega), List.mem_singleton.1 h⟩

/-- A character that is no digit of a base up to sixteen stands in no number. -/
theorem not_mem_toDigits (h₁ : 1 < base) (h₂ : base ≤ 16) (hc : ∀ d < 16, c ≠ Nat.digitChar d) :
    c ∉ Nat.toDigits base n := by
  intro h
  obtain ⟨d, hd, eq⟩ := exists_of_mem_toDigits h₁ h
  exact hc d (by omega) eq

/-- With a sign before what stands for natural numbers, and is never a sign itself, different
integers have different texts. -/
theorem signed_injective {f : Nat → List Char} (hf : Function.Injective f)
    (unsigned : ∀ n, (f n).head? ≠ some '-') :
    Function.Injective fun i : Int => if i < 0 then '-' :: f i.natAbs else f i.natAbs := by
  intro i j h
  dsimp only at h
  split at h <;> split at h
  · next hi hj =>
    have := hf (List.cons.inj h).2
    omega
  · exact absurd (congrArg List.head? h).symm (unsigned _)
  · exact absurd (congrArg List.head? h) (unsigned _)
  · next hi hj =>
    have := hf h
    omega

theorem head?_toDigits_ne (h₁ : 1 < base) (h₂ : base ≤ 16) (n : Nat) :
    (Nat.toDigits base n).head? ≠ some '-' := fun h =>
  not_mem_toDigits h₁ h₂ (by decide) (List.mem_of_mem_head? h)

theorem intText_injective : Function.Injective intText :=
  signed_injective (toDigits_injective (by decide) (by decide))
    (head?_toDigits_ne (by decide) (by decide))

/-- A character that is neither a sign nor a digit stands in no integer. -/
theorem not_mem_intText {i : Int} (hs : c ≠ '-') (hc : ∀ d < 16, c ≠ Nat.digitChar d) :
    c ∉ intText i := by
  have digits : c ∉ Nat.toDigits 10 i.natAbs := not_mem_toDigits (by decide) (by decide) hc
  unfold intText
  split
  · simp [hs, digits]
  · exact digits

end StorageKey.Decimal
