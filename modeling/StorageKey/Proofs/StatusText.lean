import StorageKey.Proofs.Decimal.Digits
import StorageKey.Proofs.Outcome
import StorageKey.Status

/-!
# The text of a status

The text of a status holds all of it: a line for each value, and in the line for the version a point
between its two numbers. No value holds a line feed and no number a point, so each is found again.

* `Status.rows`: the lines of the text, as headings and values;
* `Status.text_eq_ok_iff`: a status has a text if its numbers are not too long, and which;
* `rows_of_lines`: lines with the same headings have the same values;
* `Status.text_lossless`: statuses with the same text are the same.
-/

namespace StorageKey

open Decimal Text

/-- Whether a decimal text is not too long. -/
def IsShort (i : Int) : Prop := (Nat.toDigits 10 i.natAbs).length ≤ digitLimit

theorem writeInt_of_isShort {i : Int} (h : IsShort i) : writeInt i = .ok (intText i) :=
  writeInt_eq_ok_iff.2 ⟨h, rfl⟩

namespace Status

/-! ### Lines -/

theorem line_append (heading : String) (v r : List Char) :
    line heading v ++ r = heading.toList ++ (v ++ '\n' :: r) := by
  simp [line]

/-- Lines with the same headings have the same values, if no value holds a line feed. -/
theorem rows_of_lines {rs ts : List (String × List Char)}
    (headings : rs.map Prod.fst = ts.map Prod.fst) (hr : ∀ r ∈ rs, '\n' ∉ r.2)
    (ht : ∀ t ∈ ts, '\n' ∉ t.2)
    (h : rs.flatMap (fun r => line r.1 r.2) = ts.flatMap fun t => line t.1 t.2) : rs = ts := by
  induction rs generalizing ts with
  | nil =>
    cases ts with
    | nil => rfl
    | cons t ts => cases headings
  | cons r rs ih =>
    cases ts with
    | nil => cases headings
    | cons t ts =>
      obtain ⟨heading, v⟩ := r
      obtain ⟨heading', w⟩ := t
      obtain ⟨hv, freeLeft⟩ := List.forall_mem_cons.1 hr
      obtain ⟨hw, freeRight⟩ := List.forall_mem_cons.1 ht
      obtain ⟨same, later⟩ := List.cons.inj headings
      obtain rfl : heading = heading' := same
      rw [List.flatMap_cons, List.flatMap_cons, line_append, line_append] at h
      have h := List.append_cancel_left h
      -- The first line ends at the first line feed, so the rest of the text is the rest of the lines.
      have cut := congrArg (separate '\n') h
      rw [separate_append_cons hv, separate_append_cons hw] at cut
      obtain rfl : v = w := (List.cons.inj cut).1
      rw [ih later freeLeft freeRight (List.cons.inj (List.append_cancel_left h)).2]

/-! ### Values -/

theorem hexText_injective : Function.Injective hexText := by
  have digits (n : Nat) : hexDigits 1 n = Nat.toDigits 16 n := by
    have : 1 - (Nat.toDigits 16 n).length = 0 := by
      have := Nat.length_toDigits_pos (b := 16) (n := n)
      omega
    rw [hexDigits, this]
    rfl
  have signed : hexText = fun i : Int => if i < 0 then '-' :: '0' :: 'x' :: Nat.toDigits 16 i.natAbs
      else '0' :: 'x' :: Nat.toDigits 16 i.natAbs := by
    funext i
    rw [hexText, digits]
    split <;> rfl
  rw [signed]
  refine signed_injective (f := fun n => '0' :: 'x' :: Nat.toDigits 16 n) (fun m n h => ?_) (by simp)
  exact toDigits_injective (by decide) (by decide) (List.cons.inj (List.cons.inj h).2).2

theorem newline_not_mem_hexText (i : Int) : '\n' ∉ hexText i := by
  have digits : '\n' ∉ Nat.toDigits 16 i.natAbs :=
    not_mem_toDigits (by decide) (by decide) (by decide)
  unfold hexText hexDigits
  split <;> simp [digits]

theorem newline_not_mem_intText (i : Int) : '\n' ∉ intText i :=
  not_mem_intText (by decide) (by decide)

/-- The two numbers of a version. -/
def versionText (major minor : Int) : List Char := intText major ++ '.' :: intText minor

theorem newline_not_mem_versionText (major minor : Int) : '\n' ∉ versionText major minor := by
  simp [versionText, newline_not_mem_intText]

/-- The numbers of a version are the parts around the point. -/
theorem versionText_inj {i j k l : Int} (h : versionText i j = versionText k l) :
    i = k ∧ j = l := by
  have point (i : Int) : '.' ∉ intText i := not_mem_intText (by decide) (by decide)
  have cut := congrArg (separate '.') h
  rw [versionText, versionText, separate_append_cons (point i), separate_append_cons (point k),
    separate_of_not_mem (point j), separate_of_not_mem (point l)] at cut
  obtain ⟨major, rest⟩ := List.cons.inj cut
  exact ⟨intText_injective major, intText_injective (List.cons.inj rest).1⟩

/-- The word for a truth value. -/
def choose (b : Bool) (yes no : String) : List Char := (if b then yes else no).toList

theorem choose_inj {b c : Bool} {yes no : String} (hn : yes ≠ no)
    (h : choose b yes no = choose c yes no) : b = c := by
  have same := String.toList_inj.1 h
  cases b <;> cases c <;> simp_all [eq_comm]

theorem word_injective : Function.Injective fun v : VolumeState => v.word.toList := by
  intro v w
  cases v <;> cases w <;> decide

theorem newline_not_mem_word (v : VolumeState) : '\n' ∉ v.word.toList := by
  cases v <;> decide

/-! ### Texts -/

/-- Whether a status has a text: its numbers in decimal are not too long. -/
structure HasText (s : Status) : Prop where
  major : IsShort s.firmwareMajor
  minor : IsShort s.firmwareMinor
  user : IsShort s.userRetries
  admin : IsShort s.adminRetries

/-- The lines of the text: their headings and values. -/
def rows (s : Status) : List (String × List Char) := [
  ("Status:", []),
  ("  SD card ID:        ", hexText s.cardId),
  ("  firmware version:  ", versionText s.firmwareMajor s.firmwareMinor),
  ("  firmware:          ", choose s.firmwareLocked "locked" "unlocked"),
  ("  storage keys:      ", choose s.keysCreated "created" "not created"),
  ("  user retry count:  ", intText s.userRetries),
  ("  admin retry count: ", intText s.adminRetries),
  ("  volumes:", []),
  ("    unencrypted:     ", s.unencrypted.word.toList),
  ("    encrypted:       ", s.encrypted.word.toList),
  ("    hidden:          ", s.hidden.word.toList)]

variable {s t : Status} {x : List Char}

/-- A status has a text just if its numbers are not too long, and the text is its lines. -/
theorem text_eq_ok_iff :
    s.text = .ok x ↔ s.HasText ∧ x = s.rows.flatMap fun r => line r.1 r.2 := by
  constructor
  · intro h
    obtain ⟨version, hv, h⟩ := exists_of_except_bind h
    obtain ⟨user, hu, h⟩ := exists_of_except_bind h
    obtain ⟨admin, ha, h⟩ := exists_of_except_bind h
    obtain ⟨major, hj, hv⟩ := exists_of_except_bind hv
    obtain ⟨minor, hn, hv⟩ := exists_of_except_bind hv
    obtain ⟨shortMajor, rfl⟩ := writeInt_eq_ok_iff.1 hj
    obtain ⟨shortMinor, rfl⟩ := writeInt_eq_ok_iff.1 hn
    obtain ⟨shortUser, rfl⟩ := writeInt_eq_ok_iff.1 hu
    obtain ⟨shortAdmin, rfl⟩ := writeInt_eq_ok_iff.1 ha
    cases hv
    cases h
    exact ⟨⟨shortMajor, shortMinor, shortUser, shortAdmin⟩, by simp [rows, versionText, choose]⟩
  · rintro ⟨⟨hj, hn, hu, ha⟩, rfl⟩
    rw [text, firmwareVersion, writeInt_of_isShort hj, writeInt_of_isShort hn,
      writeInt_of_isShort hu, writeInt_of_isShort ha]
    simp [rows, versionText, choose, bind, Except.bind]

theorem newline_not_mem_rows (s : Status) : ∀ r ∈ s.rows, '\n' ∉ r.2 := by
  have chosen (b : Bool) : '\n' ∉ choose b "locked" "unlocked" ∧
      '\n' ∉ choose b "created" "not created" := by
    cases b <;> decide
  simp [rows, newline_not_mem_hexText, newline_not_mem_versionText, newline_not_mem_intText,
    newline_not_mem_word, chosen]

/-- A status is found again in its lines. -/
theorem rows_injective : Function.Injective rows := by
  intro s t h
  simp only [rows, List.cons.injEq, Prod.mk.injEq, true_and, and_true] at h
  obtain ⟨card, version, locked, keys, user, admin, unencrypted, encrypted, hidden⟩ := h
  obtain ⟨major, minor⟩ := versionText_inj version
  cases s
  cases t
  congr
  · exact hexText_injective card
  · exact choose_inj (by decide) locked
  · exact choose_inj (by decide) keys
  · exact Int.ofNat.inj (intText_injective user)
  · exact Int.ofNat.inj (intText_injective admin)
  · exact word_injective unencrypted
  · exact word_injective encrypted
  · exact word_injective hidden

/-- A status has a text just if its numbers are not too long, and statuses with the same text are the
same. -/
theorem text_lossless :
    (∀ s : Status, (∃ x, s.text = .ok x) ↔ s.HasText) ∧
      ∀ (s t : Status) (x : List Char), s.text = .ok x → t.text = .ok x → s = t := by
  constructor
  · intro s
    constructor
    · rintro ⟨x, hx⟩
      exact (text_eq_ok_iff.1 hx).1
    · intro h
      exact ⟨_, text_eq_ok_iff.2 ⟨h, rfl⟩⟩
  · intro s t x hs ht
    have same := (text_eq_ok_iff.1 hs).2.symm.trans (text_eq_ok_iff.1 ht).2
    exact rows_injective (rows_of_lines rfl (newline_not_mem_rows s) (newline_not_mem_rows t) same)

/-- A status with a negative number, and numbers that are the same but for their places. -/
def sampleStatus : Status := ⟨-4096, 0, 49, false, true, 3, 2, .active, .readOnly, .inactive⟩

/-- The entries of the sample status, spelled in other ways. -/
def spelledEntries : List (Value × Value) := [
  (.text "hidden_volume", .text "inactive"), (.text "sd_card_id", .text " -4096"),
  (.text "firmware_version_major", .bool false), (.text "firmware_version_minor", .text "+49.0"),
  (.text "firmware_locked", .text "Off"), (.text "stored_keys", .int 1),
  (.text "user_retry_count", .text "0_3"), (.text "admin_retry_count", .int 2),
  (.text "unencrypted_volume", .text "active"), (.text "encrypted_volume", .text "read-only")]

/-- A status that is read from other spellings has the text of the sample, and is the sample. -/
theorem text_lossless_spelled :
    ∃ s, ofValue (.map spelledEntries) = .ok s ∧
      ∃ x, s.text = .ok x ∧ sampleStatus.text = .ok x ∧ s = sampleStatus :=
  ⟨_, rfl, _, rfl, rfl, text_lossless.2 _ _ _ rfl rfl⟩

end Status

end StorageKey
