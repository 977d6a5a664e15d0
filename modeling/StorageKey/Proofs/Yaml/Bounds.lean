import StorageKey.Proofs.Yaml.Scanning

/-!
# Readers of scalars and tags have enough steps

The readers of scalars, of what stands between tokens and of tags stop after a number of steps. Each
step takes a character, so that no step is left to take when they stop: where there are no more
characters than steps, one step more makes no difference.

* `plainBreaks_succ`, `plainRuns_succ`: plain scalars;
* `quotedBreaks_succ`: quoted scalars;
* `blockIndentation_succ`, `blockBreaks_succ`, `blockLines_succ`: block scalars;
* `Scan.skipBetween_succ`: what stands between tokens;
* `Scan.escapedBytes_succ`, `Scan.tagChars_succ`: tags.
-/

namespace StorageKey.Yaml

open Cursor

variable {c c' : Cursor} {n : Nat}

/-! ### The end of a text -/

namespace Cursor

theorem rest_of_zero (h : c.rest.length ≤ 0) : c.rest = [] :=
  List.length_eq_zero_iff.1 (Nat.le_zero.1 h)

theorem peek_of_end (h : c.rest = []) : c.peek = '\x00' := by simp [peek, h]

theorem lineBreak?_of_end (h : c.rest = []) : c.lineBreak? = none := by
  simp [lineBreak?, peek_of_end h]

theorem advance_of_end (h : c.rest = []) (k : Nat) : c.advance k = c := by
  induction k with
  | zero => rfl
  | succ k ih =>
    have same : c.next = c := by simp [next, h]
    rw [advance, same, ih]

theorem skip_of_end (h : c.rest = []) (p : Char → Bool) : c.skip p = c := advance_of_end h _

theorem length_rest_of_peek {a : Char} (ha : a ≠ '\x00') (hp : c.peek = a) (hf : c.next.Follows c')
    (h : c.rest.length ≤ n + 1) : c'.rest.length ≤ n :=
  Nat.le_of_lt_succ ((length_rest_lt (rest_ne_nil_of_peek (hp ▸ ha)) hf).trans_le h)

theorem length_rest_of_lineBreak {b : Char} (hb : c.lineBreak? = some (b, c'))
    (h : c.rest.length ≤ n + 1) : c'.rest.length ≤ n :=
  have ⟨hf, hr⟩ := next_follows_lineBreak hb
  Nat.le_of_lt_succ ((length_rest_lt hr hf).trans_le h)

end Cursor

/-! ### Plain and quoted scalars -/

theorem plainBreaks_succ (h : c.rest.length ≤ n) : plainBreaks (n + 1) c = plainBreaks n c := by
  induction n generalizing c with
  | zero =>
    have ended := rest_of_zero h
    simp [plainBreaks, peek_of_end ended, lineBreak?_of_end ended]
  | succ n ih =>
    unfold plainBreaks
    by_cases hp : c.peek = ' '
    · rw [if_pos hp, if_pos hp, ih (length_rest_of_peek (by decide) hp (.refl _) h)]
    · rw [if_neg hp, if_neg hp]
      cases hb : c.lineBreak? with
      | none => rfl
      | some p => simp only [ih (length_rest_of_lineBreak hb h)]

theorem plainRuns_succ {flow : Bool} {indent : Int} {spaces : List Char} {allowed : Bool}
    (h : c.rest.length ≤ n) : plainRuns (n + 1) flow indent spaces allowed c =
      plainRuns n flow indent spaces allowed c := by
  induction n generalizing spaces allowed c with
  | zero =>
    have ended := rest_of_zero h
    simp [plainRuns, peek_of_end ended, ended, plainLength]
  | succ n ih =>
    unfold plainRuns
    by_cases hp : c.peek = '#'
    · rw [if_pos hp, if_pos hp]
    · rw [if_neg hp, if_neg hp]
      by_cases hl : plainLength flow c.rest = 0
      · simp only [if_pos hl]
      · have less : (plainSpaces (c.advance (plainLength flow c.rest))).2.1.rest.length ≤ n := by
          have follows := (next_follows_advance hl c).trans (follows_plainSpaces _)
          have some : c.rest ≠ [] := fun none => hl (by rw [none]; rfl)
          exact Nat.le_of_lt_succ ((length_rest_lt some follows).trans_le h)
        simp only [if_neg hl, ih less]

theorem quotedBreaks_succ (h : c.rest.length ≤ n) : quotedBreaks (n + 1) c = quotedBreaks n c := by
  induction n generalizing c with
  | zero =>
    have ended := rest_of_zero h
    have marker : c.atMarker = false := by simp [atMarker, ended]
    simp only [quotedBreaks, marker, skip_of_end ended, lineBreak?_of_end ended]
    rfl
  | succ n ih =>
    unfold quotedBreaks
    by_cases hm : c.atMarker = true
    · rw [if_pos hm, if_pos hm]
    · rw [if_neg hm, if_neg hm]
      cases hb : (c.skip fun x => x = ' ' || x = '\t').lineBreak? with
      | none => simp only [hb]
      | some p =>
        have shorter : (c.skip fun x => x = ' ' || x = '\t').rest.length ≤ n + 1 :=
          (follows_skip c _).rest.length_le.trans h
        simp only [hb, ih (length_rest_of_lineBreak hb shorter)]

/-! ### Block scalars -/

theorem blockIndentation_succ {deepest : Nat} (h : c.rest.length ≤ n) :
    blockIndentation (n + 1) deepest c = blockIndentation n deepest c := by
  induction n generalizing deepest c with
  | zero =>
    have ended := rest_of_zero h
    simp [blockIndentation, peek_of_end ended, lineBreak?_of_end ended]
  | succ n ih =>
    unfold blockIndentation
    by_cases hp : c.peek = ' '
    · simp only [if_pos hp, ih (length_rest_of_peek (by decide) hp (.refl _) h)]
    · rw [if_neg hp, if_neg hp]
      cases hb : c.lineBreak? with
      | none => rfl
      | some p => simp only [ih (length_rest_of_lineBreak hb h)]

theorem skipIndent_succ {indent : Nat} (h : c.rest.length ≤ n) :
    skipIndent (n + 1) indent c = skipIndent n indent c := by
  induction n generalizing c with
  | zero => simp [skipIndent, peek_of_end (rest_of_zero h)]
  | succ n ih =>
    unfold skipIndent
    by_cases hp : c.column < indent ∧ c.peek = ' '
    · rw [if_pos hp, if_pos hp, ih (length_rest_of_peek (by decide) hp.2 (.refl _) h)]
    · rw [if_neg hp, if_neg hp]

theorem blockBreaks_succ {indent : Nat} (h : c.rest.length ≤ n) :
    blockBreaks (n + 1) indent c = blockBreaks n indent c := by
  induction n generalizing c with
  | zero =>
    have ended := rest_of_zero h
    have there : skipIndent c.rest.length indent c = c := by
      rw [ended]
      rfl
    simp only [blockBreaks, there, lineBreak?_of_end ended]
  | succ n ih =>
    unfold blockBreaks
    cases hb : (skipIndent c.rest.length indent c).lineBreak? with
    | none => simp only [hb]
    | some p =>
      have shorter : (skipIndent c.rest.length indent c).rest.length ≤ n + 1 :=
        (follows_skipIndent _ _ c).rest.length_le.trans h
      simp only [hb, ih (length_rest_of_lineBreak hb shorter)]

/-- A line of a block scalar without a break takes a character. -/
theorem next_follows_line (hc : c.Sound) (hr : c.rest ≠ [])
    (hb : (c.take fun x => !isBreakOrEnd x).2.lineBreak? = none) :
    c.next.Follows (c.take fun x => !isBreakOrEnd x).2 := by
  by_cases hp : isBreakOrEnd c.peek = false
  · exact next_follows_take (by simp [hp]) hr
  · -- The line is empty, so that its break stands here, unless this is a NUL.
    obtain ⟨a, r, ha⟩ := List.exists_cons_of_ne_nil hr
    have empty : (c.take fun x => !isBreakOrEnd x).2 = c := by
      have first : isBreakOrEnd a = true := by simpa [peek, ha] using hp
      simp [take, ha, first, advance]
    rw [empty] at hb
    have nul : c.peek = '\x00' := by simpa [isBreakOrEnd, isBreak_of_no_lineBreak hb] using hp
    exact absurd (nul ▸ peek_mem hr) hc.text

theorem blockLines_succ {folded : Bool} {indent : Nat} {breaks : List Char} (hc : c.Sound)
    (h : c.rest.length ≤ n) :
    blockLines (n + 1) folded indent breaks c = blockLines n folded indent breaks c := by
  induction n generalizing breaks c with
  | zero => simp [blockLines, rest_of_zero h]
  | succ n ih =>
    unfold blockLines
    by_cases hp : c.column = indent ∧ !c.rest.isEmpty
    · have hr : c.rest ≠ [] := by simpa using hp.2
      rw [if_pos hp, if_pos hp]
      -- What is left after a line and the empty lines behind it.
      have later {d : Cursor} (hd : c.next.Follows d) {breaks : List Char} :=
        have all := hd.trans (follows_blockBreaks d.rest.length indent d)
        have less := (length_rest_lt hr all).trans_le h
        @ih _ breaks (((follows_next c).trans all).sound hc) (Nat.le_of_lt_succ less)
      cases hb : (c.take fun x => !isBreakOrEnd x).2.lineBreak? with
      | none => simp only [hb, later (next_follows_line hc hr hb)]
      | some p => simp only [hb, later (next_follows_of_take (next_follows_lineBreak hb).1)]
    · rw [if_neg hp, if_neg hp]

/-! ### Between tokens, and tags -/

namespace Scan

theorem skipBetween_succ {s : Scan} (h : s.cursor.rest.length ≤ n) :
    skipBetween (n + 1) s = skipBetween n s := by
  induction n generalizing s with
  | zero =>
    have ended := rest_of_zero h
    have comment : s.cursor.skipComment = s.cursor := by simp [skipComment, peek_of_end ended]
    simp only [skipBetween, skip_of_end ended, comment, lineBreak?_of_end ended]
    rfl
  | succ n ih =>
    unfold skipBetween
    cases hb : (s.cursor.skip (· = ' ')).skipComment.lineBreak? with
    | none => simp only [hb]
    | some p =>
      have shorter : (s.cursor.skip (· = ' ')).skipComment.rest.length ≤ n + 1 :=
        ((follows_skip s.cursor _).trans (follows_skipComment _)).rest.length_le.trans h
      obtain ⟨b, c⟩ := p
      simp only [hb]
      exact ih (length_rest_of_lineBreak hb shorter)

theorem escapedBytes_succ (h : c.rest.length ≤ n) : escapedBytes (n + 1) c = escapedBytes n c := by
  induction n generalizing c with
  | zero => simp [escapedBytes, peek_of_end (rest_of_zero h)]
  | succ n ih =>
    unfold escapedBytes
    by_cases hp : c.peek = '%'
    · rw [if_neg (not_not.2 hp), if_neg (not_not.2 hp),
        ih (length_rest_of_peek (by decide) hp (next_follows_advance (by decide) c) h)]
    · rw [if_pos hp, if_pos hp]

/-- The reading of escaped bytes goes on from a percent sign, if it is allowed a step. -/
theorem follows_escapedBytes {bs : List UInt8} (h : escapedBytes n c = .ok (bs, c')) :
    c.Follows c' ∧ (n ≠ 0 → c.peek = '%' → c.next.Follows c') := by
  induction n generalizing c bs with
  | zero =>
    cases h
    exact ⟨.refl _, fun hn => absurd rfl hn⟩
  | succ n ih =>
    rw [escapedBytes] at h
    split at h
    · next plain =>
      cases h
      exact ⟨.refl _, fun _ hp => absurd hp plain⟩
    · simp only at h
      split at h
      · cases h
      · cases he : escapedBytes n (c.advance 3) with
        | error f =>
          rw [he] at h
          cases h
        | ok p =>
          rw [he] at h
          cases h
          have behind := (ih he).1
          exact ⟨(follows_advance 3 c).trans behind,
            fun _ _ => (next_follows_advance (by decide) c).trans behind⟩

theorem tagChars_succ (h : c.rest.length ≤ n) : tagChars (n + 1) c = tagChars n c := by
  induction n generalizing c with
  | zero =>
    have plain : isTagChar '\x00' = false := by decide
    simp [tagChars, peek_of_end (rest_of_zero h), plain]
  | succ n ih =>
    unfold tagChars
    by_cases hp : c.peek = '%'
    · rw [if_pos hp, if_pos hp]
      cases he : escapedBytes (c.rest.length + 1) c with
      | error f => rfl
      | ok p =>
        have behind := (follows_escapedBytes he).2 (Nat.succ_ne_zero _) hp
        simp only [bind, Except.bind, ih (length_rest_of_peek (by decide) hp behind h)]
    · rw [if_neg hp, if_neg hp]
      by_cases ht : isTagChar c.peek = true
      · have hr : c.rest ≠ [] := rest_ne_nil_of_peek fun nul => by
          rw [nul] at ht
          exact absurd ht (by decide)
        have less : (c.take isTagChar).2.rest.length ≤ n :=
          Nat.le_of_lt_succ ((length_rest_lt hr (next_follows_take ht hr)).trans_le h)
        rw [if_pos ht, if_pos ht]
        generalize c.take isTagChar = p at less ⊢
        simp only [ih less]
      · rw [if_neg ht, if_neg ht]

end Scan

end StorageKey.Yaml
