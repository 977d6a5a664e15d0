import StorageKey.Text.Utf8

/-!
# UTF-8 is read as it is written

The decoder reads back the characters whose bytes are written one after another.

* `next_utf8EncodeChar`: the first character;
* `decode_encode`: all of them.
-/

namespace StorageKey.Text.Utf8

theorem toNat_ofNat_of_lt {n : Nat} (h : n < 256) : (UInt8.ofNat n).toNat = n := by
  rw [UInt8.toNat_ofNat']
  omega

/-- A character's number is no surrogate. -/
theorem toNat_val_valid (c : Char) :
    c.val.toNat < 0xd800 ∨ (0xdfff < c.val.toNat ∧ c.val.toNat < 0x110000) :=
  c.valid

theorem continuation?_of_le {low high n : Nat} (hl : low ≤ n) (hh : n ≤ high) (h : n < 256) :
    continuation? low high (UInt8.ofNat n) = some (n - 0x80) := by
  rw [continuation?, toNat_ofNat_of_lt h, if_pos ⟨hl, hh⟩]

/-- A continuation byte that is owed is read. -/
theorem tail_succ {value present owed v : Nat} (hv : v < 64) (rest : List UInt8) :
    tail value present (owed + 1) (UInt8.ofNat (v + 128) :: rest) =
      tail (value * 64 + v) (present + 1) owed rest := by
  rw [tail, continuation?_of_le (by omega) (by omega) (by omega), Nat.add_sub_cancel]

/-- The range of a second byte, by the number that the byte carries. -/
theorem mem_secondRange {a v : Nat} (hv : v < 64) (he0 : a = 0xe0 → 0x20 ≤ v)
    (hed : a = 0xed → v < 0x20) (hf0 : a = 0xf0 → 0x10 ≤ v) (hf4 : a = 0xf4 → v < 0x10) :
    (secondRange a).1 ≤ v + 128 ∧ v + 128 ≤ (secondRange a).2 := by
  unfold secondRange
  repeat' split
  all_goals
    dsimp only
    omega

/-- A first byte that announces `owed + 1` more, and the first of these. -/
theorem next_of_first {a v owed lead : Nat} (hn : length? a = some (owed + 2))
    (he : lead = if owed + 2 = 2 then a - 0xc0 else if owed + 2 = 3 then a - 0xe0 else a - 0xf0)
    (ha : a < 256) (hr : (secondRange a).1 ≤ v + 128 ∧ v + 128 ≤ (secondRange a).2) (hv : v < 64)
    (rest : List UInt8) :
    next (UInt8.ofNat a :: UInt8.ofNat (v + 128) :: rest) = tail (lead * 64 + v) 2 owed rest := by
  simp only [next, toNat_ofNat_of_lt ha, hn, continuation?_of_le hr.1 hr.2 (by omega), he,
    Nat.add_sub_cancel]

/-- How many bytes follow a first one. -/
theorem length?_eq {a : Nat} (h : 0xc2 ≤ a ∧ a < 0xf5) :
    length? a = some (if a < 0xe0 then 2 else if a < 0xf0 then 3 else 4) := by
  unfold length?
  repeat' split
  all_goals first | rfl | omega

/-- The bytes of a character are read as this character. -/
theorem next_utf8EncodeChar (c : Char) (rest : List UInt8) :
    next (String.utf8EncodeChar c ++ rest) = .char c rest := by
  have valid := toNat_val_valid c
  have whole : Char.ofNat c.val.toNat = c := Char.ofNat_toNat c
  rw [String.utf8EncodeChar]
  generalize c.val.toNat = v at valid whole
  -- One case for each number of bytes; the bounds of the second byte leave out the surrogates.
  split
  · have one : length? v = some 1 := by rw [length?, if_pos (by omega)]
    simp only [List.singleton_append, next, toNat_ofNat_of_lt (show v < 256 by omega), one, whole]
  split
  · have two : length? (v / 64 % 32 + 192) = some (0 + 2) := by
      rw [length?_eq (by omega), if_pos (by omega)]
    have range := mem_secondRange (a := v / 64 % 32 + 192) (v := v % 64)
      (by omega) (by omega) (by omega) (by omega) (by omega)
    rw [List.cons_append, List.cons_append, List.nil_append,
      next_of_first two rfl (by omega) range (by omega), tail, if_pos rfl,
      show (v / 64 % 32 + 192 - 0xc0) * 64 + v % 64 = v by omega, whole]
  split
  · have three : length? (v / 4096 % 16 + 224) = some (1 + 2) := by
      rw [length?_eq (by omega), if_neg (by omega), if_pos (by omega)]
    have range := mem_secondRange (a := v / 4096 % 16 + 224) (v := v / 64 % 64)
      (by omega) (by omega) (by omega) (by omega) (by omega)
    rw [List.cons_append, List.cons_append, List.cons_append, List.nil_append,
      next_of_first three rfl (by omega) range (by omega), tail_succ (by omega), tail,
      if_neg (by omega), if_pos rfl,
      show ((v / 4096 % 16 + 224 - 0xe0) * 64 + v / 64 % 64) * 64 + v % 64 = v by omega, whole]
  · have four : length? (v / 262144 % 8 + 240) = some (2 + 2) := by
      rw [length?_eq (by omega), if_neg (by omega), if_neg (by omega)]
    have range := mem_secondRange (a := v / 262144 % 8 + 240) (v := v / 4096 % 64)
      (by omega) (by omega) (by omega) (by omega) (by omega)
    rw [List.cons_append, List.cons_append, List.cons_append, List.cons_append, List.nil_append,
      next_of_first four rfl (by omega) range (by omega), tail_succ (by omega), tail_succ (by omega),
      tail, if_neg (by omega), if_neg (by omega),
      show (((v / 262144 % 8 + 240 - 0xf0) * 64 + v / 4096 % 64) * 64 + v / 64 % 64) * 64 + v % 64 = v
        by omega, whole]

/-- The bytes of characters are read as these characters, from any place on. -/
theorem run_encode (cs : List Char) {fuel : Nat} (h : cs.length < fuel) (place : Nat) :
    run fuel place (encode cs) = (cs, [], none) := by
  induction cs generalizing fuel place with
  | nil =>
    obtain ⟨fuel, rfl⟩ : ∃ n, fuel = n + 1 := ⟨fuel - 1, by simp at h; omega⟩
    rfl
  | cons c cs ih =>
    rw [List.length_cons] at h
    obtain ⟨fuel, rfl⟩ : ∃ n, fuel = n + 1 := ⟨fuel - 1, by omega⟩
    have first : next (encode (c :: cs)) = .char c (encode cs) := next_utf8EncodeChar c (encode cs)
    rw [run, first]
    simp only [ih (show cs.length < fuel by omega)]

theorem length_le_length_encode (cs : List Char) : cs.length ≤ (encode cs).length := by
  induction cs with
  | nil => exact Nat.le_refl 0
  | cons c cs ih =>
    have := length_lt_of_next (next_utf8EncodeChar c (encode cs))
    have whole : encode (c :: cs) = String.utf8EncodeChar c ++ encode cs := rfl
    rw [whole, List.length_cons]
    omega

/-- A text is read back from its bytes. -/
theorem decode_encode (cs : List Char) : decode (encode cs) = .ok cs := by
  have enough : cs.length < (encode cs).length + 1 := Nat.lt_succ_of_le (length_le_length_encode cs)
  rw [decode, run_encode cs enough]

end StorageKey.Text.Utf8
