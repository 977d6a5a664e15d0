import Mathlib.Data.List.TakeWhile
import StorageKey.Proofs.Yaml.Building
import StorageKey.Yaml.Scan

/-!
# Scanning comes to an end

Every reader of a part of the text ends at or behind the place where it starts, and what makes a token
or a run of a scalar takes a character. The text that is left is therefore a bound on the repetitions
of the scan, which none of them reaches.

* `Cursor.Follows`: a place at or behind another;
* `Scan.Goes`: what becomes of a scan in a step;
* `goes_dispatch`, `goes_step`: a step of the scan takes a character or ends the scan;
* `endless_not_mem_tokens`: no list of tokens stops as a bound is reached.
-/

namespace StorageKey.Yaml

/-- A text without NUL, of which more may follow that cannot be read. -/
structure Cursor.Sound (c : Cursor) : Prop where
  cut : c.cut ≠ some .endless
  text : '\x00' ∉ c.rest

/-- A place at or behind another in the same text. -/
structure Cursor.Follows (c c' : Cursor) : Prop where
  rest : c'.rest <:+ c.rest
  cut : c'.cut = c.cut

namespace Cursor

variable {c c' c'' : Cursor}

theorem Follows.refl (c : Cursor) : c.Follows c := ⟨List.suffix_refl _, rfl⟩

theorem Follows.trans (h : c.Follows c') (h' : c'.Follows c'') : c.Follows c'' :=
  ⟨h'.rest.trans h.rest, h'.cut.trans h.cut⟩

theorem Follows.sound (h : c.Follows c') (hc : c.Sound) : c'.Sound :=
  ⟨h.cut ▸ hc.cut, fun nul => hc.text (h.rest.subset nul)⟩

@[simp] theorem cut_next (c : Cursor) : c.next.cut = c.cut := by
  unfold next
  split
  · rfl
  · split <;> rfl

@[simp] theorem cut_advance (n : Nat) (c : Cursor) : (c.advance n).cut = c.cut := by
  induction n generalizing c with
  | zero => rfl
  | succ n ih => rw [advance, ih, cut_next]

theorem follows_advance (n : Nat) (c : Cursor) : c.Follows (c.advance n) :=
  ⟨rest_advance n c ▸ List.drop_suffix _ _, cut_advance n c⟩

theorem follows_next (c : Cursor) : c.Follows c.next := follows_advance 1 c

/-- Moving on by a character at least leads behind the next place. -/
theorem next_follows_advance {n : Nat} (h : n ≠ 0) (c : Cursor) : c.next.Follows (c.advance n) := by
  obtain ⟨n, rfl⟩ := Nat.exists_eq_succ_of_ne_zero h
  exact follows_advance n c.next

theorem follows_take (c : Cursor) (p : Char → Bool) : c.Follows (c.take p).2 := follows_advance _ c

theorem follows_skip (c : Cursor) (p : Char → Bool) : c.Follows (c.skip p) := follows_advance _ c

theorem follows_skipComment (c : Cursor) : c.Follows c.skipComment := by
  unfold skipComment
  split
  · exact follows_skip c _
  · exact .refl c

/-- A character other than NUL is one of the text. -/
theorem rest_ne_nil_of_peek (h : c.peek ≠ '\x00') : c.rest ≠ [] := fun none => h (by simp [peek, none])

theorem peek_mem (h : c.rest ≠ []) : c.peek ∈ c.rest := by
  unfold peek
  cases hr : c.rest with
  | nil => exact absurd hr h
  | cons a r => exact List.mem_cons_self

/-- The next place leaves less of the text. -/
theorem length_rest_lt (h : c.rest ≠ []) (hf : c.next.Follows c') :
    c'.rest.length < c.rest.length := by
  have short := hf.rest.length_le
  have some := List.length_pos_iff.2 h
  rw [rest_next, List.length_drop] at short
  omega

/-- What is taken from a text that starts in a class is not nothing. -/
theorem next_follows_take {p : Char → Bool} (h : p c.peek = true) (hr : c.rest ≠ []) :
    c.next.Follows (c.take p).2 := by
  refine next_follows_advance ?_ c
  obtain ⟨a, r, ha⟩ := List.exists_cons_of_ne_nil hr
  have first : p a = true := by simpa [peek, ha] using h
  simp [ha, first]

/-- A line break is a character. -/
theorem next_follows_lineBreak {b : Char} (h : c.lineBreak? = some (b, c')) :
    c.next.Follows c' ∧ c.rest ≠ [] := by
  unfold lineBreak? at h
  simp only at h
  split at h
  · next hp =>
    cases h
    exact ⟨next_follows_advance (by decide) c, rest_ne_nil_of_peek (by rw [hp.1]; decide)⟩
  · split at h
    · next hp =>
      cases h
      refine ⟨.refl _, rest_ne_nil_of_peek ?_⟩
      rcases hp with hp | hp | hp <;> rw [hp] <;> decide
    · split at h
      · next hp =>
        cases h
        refine ⟨.refl _, rest_ne_nil_of_peek ?_⟩
        rcases hp with hp | hp <;> rw [hp] <;> decide
      · cases h

theorem follows_lineBreak {b : Char} (h : c.lineBreak? = some (b, c')) : c.Follows c' :=
  (follows_next c).trans (next_follows_lineBreak h).1

theorem isBreak_of_no_lineBreak (h : c.lineBreak? = none) : isBreak c.peek = false := by
  unfold lineBreak? at h
  simp only at h
  split at h
  · cases h
  · split at h
    · cases h
    · split at h
      · cases h
      · next usual separators =>
        simp only [not_or] at usual separators
        simp [isBreak, usual, separators]

theorem next_advance (n : Nat) (c : Cursor) : (c.advance n).next = c.next.advance n := by
  induction n generalizing c with
  | zero => rfl
  | succ n ih => exact ih c.next

/-- What is behind the next place after some characters is behind the next one before them. -/
theorem next_follows_of_take {p : Char → Bool} (h : (c.take p).2.next.Follows c') :
    c.next.Follows c' := by
  rw [take, next_advance] at h
  exact (follows_advance _ c.next).trans h

/-- A fault at a place is not that a bound is reached, unless it is this fault. -/
theorem fault_ne_endless (hc : c.Sound) (ahead : Nat) {f : Fault} (hf : f ≠ .endless) :
    c.fault ahead f ≠ .endless := by
  unfold fault cutWithin?
  split
  · cases h : c.cut with
    | none => exact hf
    | some e =>
      rintro rfl
      exact hc.cut h
  · exact hf

theorem ends_reject {α : Type} {P : α → Prop} (hc : c.Sound) : Ends P c.reject :=
  fault_ne_endless hc 1 nofun

end Cursor

open Cursor

variable {c c' : Cursor}

/-- What comes of a reader that ends at or behind a place. -/
abbrev Reads {α : Type} (c : Cursor) : Except Fault (α × Cursor) → Prop := Ends fun p => c.Follows p.2

/-! ### Scalars -/

theorem follows_plainBreaks (n : Nat) (c : Cursor) : c.Follows (plainBreaks n c).2.1 := by
  induction n generalizing c with
  | zero => exact .refl c
  | succ n ih =>
    rw [plainBreaks]
    split
    · exact (follows_next c).trans (ih _)
    · split
      · exact .refl c
      · next b c' hb =>
        split
        · exact follows_lineBreak hb
        · exact (follows_lineBreak hb).trans (ih c')

theorem follows_plainSpaces (c : Cursor) : c.Follows (plainSpaces c).2.1 := by
  have spaces := follows_take c (· = ' ')
  unfold plainSpaces
  simp only
  split
  · next b c' hb =>
    have line := spaces.trans (follows_lineBreak hb)
    split
    · exact line
    · split
      · exact line.trans (follows_plainBreaks _ c')
      · exact line.trans (follows_plainBreaks _ c')
  · exact spaces

theorem follows_plainRuns (n : Nat) (flow : Bool) (indent : Int) (spaces : List Char)
    (allowed : Bool) (c : Cursor) : c.Follows (plainRuns n flow indent spaces allowed c).2.1 := by
  induction n generalizing spaces allowed c with
  | zero => exact .refl c
  | succ n ih =>
    have run := (follows_advance (plainLength flow c.rest) c).trans (follows_plainSpaces _)
    rw [plainRuns]
    split
    · exact .refl c
    · simp only
      split
      · exact .refl c
      · split
        · exact run
        · exact run.trans (ih _ _ _)

/-- A plain scalar with a first run takes a character. -/
theorem next_follows_plainScalar {flow : Bool} (indent : Int) (hp : c.peek ≠ '#')
    (hl : plainLength flow c.rest ≠ 0) : c.next.Follows (plainScalar flow indent c).2.1 := by
  have run := (next_follows_advance hl c).trans (follows_plainSpaces _)
  rw [plainScalar, plainRuns, if_neg hp]
  simp only
  rw [if_neg hl]
  split
  · exact run
  · exact run.trans (follows_plainRuns _ _ _ _ _ _)

theorem reads_quotedBreaks (n : Nat) (hc : c.Sound) : Reads c (quotedBreaks n c) := by
  induction n generalizing c with
  | zero => exact .refl c
  | succ n ih =>
    rw [quotedBreaks]
    split
    · exact fault_ne_endless hc 3 nofun
    · have blanks := follows_skip c fun x => x = ' ' || x = '\t'
      simp only
      split
      · exact blanks
      · next b c' hb =>
        have line := blanks.trans (follows_lineBreak hb)
        exact (ih (line.sound hc)).bind fun p hp => line.trans hp

/-- The blanks inside a quoted scalar are some, where one stands. -/
theorem ends_quotedSpaces (hc : c.Sound) (hp : isBlankOrEnd c.peek = true) :
    Ends (fun p => c.next.Follows p.2 ∧ c.rest ≠ []) (quotedSpaces c) := by
  have spaces := follows_take c fun x => x = ' ' || x = '\t'
  have nonempty (h : (c.take fun x => x = ' ' || x = '\t').2.rest ≠ []) : c.rest ≠ [] :=
    fun none => h (List.suffix_nil.1 (none ▸ spaces.rest))
  unfold quotedSpaces
  simp only
  split
  · next b c' hb =>
    obtain ⟨line, there⟩ := next_follows_lineBreak hb
    have sound := (spaces.trans (follows_lineBreak hb)).sound hc
    exact (reads_quotedBreaks _ sound).bind fun p hp =>
      ⟨(next_follows_of_take line).trans hp, nonempty there⟩
  · next hb =>
    split
    · exact ends_reject (spaces.sound hc)
    · next there =>
      have there : c.rest ≠ [] := nonempty (by simpa using there)
      refine ⟨?_, there⟩
      by_cases blank : (c.peek = ' ' || c.peek = '\t') = true
      · exact next_follows_take blank there
      · -- Neither a space nor a tab stands here, and so a break does, which there is none.
        have still : (c.take fun x => x = ' ' || x = '\t').2 = c := by
          obtain ⟨a, r, ha⟩ := List.exists_cons_of_ne_nil there
          have first : (a = ' ' || a = '\t') = false := by simpa [peek, ha] using blank
          simp [take, ha, first, advance]
        rw [still] at hb
        have ends : isBreakOrEnd c.peek = true := by
          simp only [isBlankOrEnd, isSpaceOrEnd] at hp
          simp at blank hp ⊢
          tauto
        have nul : c.peek ≠ '\x00' := fun h => hc.text (h ▸ peek_mem there)
        simp [isBreakOrEnd, nul, isBreak_of_no_lineBreak hb] at ends

theorem reads_escape (hc : c.Sound) : Reads c (escape c) := by
  have sound := (follows_next c).sound hc
  unfold escape
  split
  · exact follows_next c
  · next n _ _ =>
    simp only
    split
    · exact ends_reject sound
    · split
      · exact fault_ne_endless sound n nofun
      · split
        · exact fault_ne_endless sound n nofun
        · split
          · exact fault_ne_endless sound n nofun
          · exact follows_advance _ c
  · split
    · next b c' hb =>
      have line := follows_lineBreak hb
      exact (reads_quotedBreaks _ (line.sound hc)).bind fun p hp => line.trans hp
    · exact ends_reject hc

/-- The rest of a quoted scalar is read before the bound is reached, since each turn takes a
character. -/
theorem reads_quotedRest {n : Nat} (double : Bool) (hc : c.Sound) (hn : c.rest.length < n) :
    Reads c (quotedRest n double c) := by
  induction n generalizing c with
  | zero => exact absurd hn (Nat.not_lt_zero _)
  | succ n ih =>
    -- A turn that takes a character leaves less for the next one.
    have turn {c' : Cursor} (hr : c.rest ≠ []) (hf : c.next.Follows c') :
        Reads c (quotedRest n double c') := by
      have later := (follows_next c).trans hf
      have fewer := length_rest_lt hr hf
      exact (ih (later.sound hc) (by omega)).mono fun p hp => later.trans hp
    have there {x : Char} (hx : c.peek = x) (nul : x ≠ '\x00') : c.rest ≠ [] :=
      rest_ne_nil_of_peek (hx ▸ nul)
    rw [quotedRest]
    dsimp only
    split
    · next hp =>
      have met : c.rest ≠ [] := rest_ne_nil_of_peek fun nul => by
        simp [nul, isBlankOrEnd, isSpaceOrEnd, isBreakOrEnd] at hp
      exact (turn met (next_follows_take hp met)).bind fun p hp => hp
    · split
      · next hq =>
        simp only [Bool.and_eq_true, decide_eq_true_eq] at hq
        exact (turn (there hq.1.2 nofun) (next_follows_advance (by decide) c)).bind fun p hp => hp
      · split
        · next hx =>
          have met : c.rest ≠ [] := rest_ne_nil_of_peek fun nul => by simp [nul] at hx
          exact (turn met (.refl _)).bind fun p hp => hp
        · split
          · next hx =>
            simp only [Bool.and_eq_true, decide_eq_true_eq] at hx
            refine (reads_escape ((follows_next c).sound hc)).bind fun p hp => ?_
            exact (turn (there hx.2 nofun) hp).bind fun q hq => hq
          · split
            · exact follows_next c
            · next plain _ marks escape closing =>
              have blank : isBlankOrEnd c.peek = true := by
                cases double <;> simp_all
              refine (ends_quotedSpaces hc blank).bind fun p ⟨hp, met⟩ => ?_
              exact (turn met hp).bind fun q hq => hq

/-- A quoted scalar takes its opening quote. -/
theorem ends_quotedScalar (double : Bool) (hc : c.Sound) (hr : c.rest ≠ []) :
    Ends (fun p => c.next.Follows p.2) (quotedScalar double c) := by
  refine reads_quotedRest double ((follows_next c).sound hc) ?_
  have fewer := length_rest_lt hr (.refl c.next)
  omega

theorem ends_increment? (hc : c.Sound) : Ends (fun _ => True) (increment? c) := by
  unfold increment?
  split
  · split
    · exact ends_reject hc
    · trivial
  · trivial

/-- What follows the indicators of a block, wherever they end. -/
theorem ends_headerLine (hc : c.Sound) {c' : Cursor} (hf : c.Follows c') (chomping : Chomping)
    (increment : Option Nat) :
    Ends (fun p => c.Follows p.2.2) (if (!isSpaceOrEnd c'.peek) = true then c'.reject
      else
        if (!isBreakOrEnd ((c'.skip (· = ' ')).skipComment).peek) = true then
          ((c'.skip (· = ' ')).skipComment).reject
        else match ((c'.skip (· = ' ')).skipComment).lineBreak? with
          | some (_, c) => .ok (chomping, increment, c)
          | none => .ok (chomping, increment, (c'.skip (· = ' ')).skipComment)) := by
  have comment := hf.trans ((follows_skip c' (· = ' ')).trans (follows_skipComment _))
  split
  · exact ends_reject (hf.sound hc)
  · split
    · exact ends_reject (comment.sound hc)
    · split
      · next hb => exact comment.trans (follows_lineBreak hb)
      · exact comment

theorem ends_blockHeader (hc : c.Sound) :
    Ends (fun p => c.Follows p.2.2) (blockHeader c) := by
  have line {chomping : Chomping} {increment : Option Nat} {c' : Cursor} (hf : c.Follows c') :=
    ends_headerLine hc hf chomping increment
  have one := follows_next c
  have two := one.trans (follows_next c.next)
  unfold blockHeader
  simp only
  split
  · refine (ends_increment? (one.sound hc)).bind fun n _ => ?_
    split
    · exact line two
    · exact line one
  · refine (ends_increment? hc).bind fun n _ => ?_
    split
    · split
      · exact line two
      · exact line one
    · exact line (.refl c)

theorem follows_blockIndentation (n deepest : Nat) (c : Cursor) :
    c.Follows (blockIndentation n deepest c).2.2 := by
  induction n generalizing deepest c with
  | zero => exact .refl c
  | succ n ih =>
    rw [blockIndentation]
    split
    · exact (follows_next c).trans (ih _ _)
    · split
      · exact .refl c
      · next b c' hb => exact (follows_lineBreak hb).trans (ih _ c')

theorem follows_skipIndent (n indent : Nat) (c : Cursor) : c.Follows (skipIndent n indent c) := by
  induction n generalizing c with
  | zero => exact .refl c
  | succ n ih =>
    rw [skipIndent]
    split
    · exact (follows_next c).trans (ih _)
    · exact .refl c

theorem follows_blockBreaks (n indent : Nat) (c : Cursor) :
    c.Follows (blockBreaks n indent c).2 := by
  induction n generalizing c with
  | zero => exact follows_skipIndent _ _ c
  | succ n ih =>
    rw [blockBreaks]
    simp only
    split
    · exact follows_skipIndent _ _ c
    · next b c' hb =>
      exact (follows_skipIndent _ _ c).trans ((follows_lineBreak hb).trans (ih c'))

theorem follows_blockLines (n : Nat) (folded : Bool) (indent : Nat) (breaks : List Char)
    (c : Cursor) : c.Follows (blockLines n folded indent breaks c).2.2.2 := by
  induction n generalizing breaks c with
  | zero => exact .refl c
  | succ n ih =>
    have line := follows_take c fun x => !isBreakOrEnd x
    have empty {d : Cursor} (h : c.Follows d) : c.Follows (blockBreaks d.rest.length indent d).2 :=
      h.trans (follows_blockBreaks _ indent d)
    rw [blockLines]
    split
    · cases hb : (c.take fun x => !isBreakOrEnd x).2.lineBreak? with
      | none =>
        simp only [hb]
        split
        · exact (empty line).trans (ih _ _)
        · exact empty line
      | some p =>
        have later := line.trans (follows_lineBreak hb)
        simp only [hb]
        split
        · exact (empty later).trans (ih _ _)
        · exact empty later
    · exact .refl c

/-- A block scalar takes its indicator. -/
theorem ends_blockScalar (folded : Bool) (indent : Int) (hc : c.Sound) :
    Ends (fun p => c.next.Follows p.2) (blockScalar folded indent c) := by
  refine (ends_blockHeader ((follows_next c).sound hc)).bind fun p hp => ?_
  simp only
  split
  · exact hp.trans ((follows_blockIndentation _ _ _).trans (follows_blockLines _ _ _ _ _))
  · exact hp.trans ((follows_blockBreaks _ _ _).trans (follows_blockLines _ _ _ _ _))

/-! ### Directives, tags and names -/

namespace Scan

theorem reads_directiveEnd (hc : c.Sound) : Ends (c.Follows ·) (directiveEnd c) := by
  have comment := (follows_skip c (· = ' ')).trans (follows_skipComment _)
  unfold directiveEnd
  simp only
  split
  · exact ends_reject (comment.sound hc)
  · split
    · next hb => exact comment.trans (follows_lineBreak hb)
    · exact comment

theorem reads_versionNumber (hc : c.Sound) : Reads c (versionNumber c) := by
  have digits := follows_take c Char.isDigit
  unfold versionNumber
  simp only
  split
  · exact ends_reject (digits.sound hc)
  · split
    · exact digits
    · exact fault_ne_endless (digits.sound hc) 0 nofun

theorem reads_versionValue (hc : c.Sound) : Reads c (versionValue c) := by
  have spaces := follows_skip c (· = ' ')
  refine (reads_versionNumber (spaces.sound hc)).bind fun p hp => ?_
  have major := spaces.trans hp
  dsimp only
  split
  · exact ends_reject (major.sound hc)
  · have dot := major.trans (follows_next _)
    refine (reads_versionNumber (dot.sound hc)).bind fun q hq => ?_
    have minor := dot.trans hq
    split
    · exact ends_reject (minor.sound hc)
    · exact minor

/-- A tag handle takes its exclamation mark. -/
theorem ends_tagHandle (hc : c.Sound) : Ends (fun p => c.next.Follows p.2) (tagHandle c) := by
  unfold tagHandle
  split
  · exact ends_reject hc
  · split
    · exact .refl _
    · simp only
      split
      · exact next_follows_advance (Nat.succ_ne_zero _) c
      · exact ends_reject ((follows_advance _ c).sound hc)

theorem reads_escapedBytes (n : Nat) (hc : c.Sound) : Reads c (escapedBytes n c) := by
  induction n generalizing c with
  | zero => exact .refl c
  | succ n ih =>
    rw [escapedBytes]
    split
    · exact .refl c
    · simp only
      split
      · exact ends_reject ((follows_next c).sound hc)
      · have three := follows_advance 3 c
        exact (ih (three.sound hc)).bind fun p hp => three.trans hp

theorem reads_tagChars (n : Nat) (hc : c.Sound) : Reads c (tagChars n c) := by
  induction n generalizing c with
  | zero => exact .refl c
  | succ n ih =>
    rw [tagChars]
    split
    · refine (reads_escapedBytes _ hc).bind fun p hp => ?_
      dsimp only
      split
      · exact ends_reject (hp.sound hc)
      · exact (ih (hp.sound hc)).bind fun q hq => hp.trans hq
    · split
      · have chars := follows_take c isTagChar
        exact (ih (chars.sound hc)).bind fun q hq => chars.trans hq
      · exact .refl c

theorem reads_tagBody (hc : c.Sound) : Reads c (tagBody c) := by
  unfold tagBody
  split
  · exact (reads_tagChars _ hc).bind fun p hp => hp
  · exact ends_reject hc

theorem reads_handleValue (hc : c.Sound) : Reads c (handleValue c) := by
  have spaces := follows_skip c (· = ' ')
  refine (ends_tagHandle (spaces.sound hc)).bind fun p hp => ?_
  have handle := spaces.trans ((follows_next _).trans hp)
  dsimp only
  split
  · exact ends_reject (handle.sound hc)
  · have apart := handle.trans (follows_skip p.2 (· = ' '))
    refine (reads_tagBody (apart.sound hc)).bind fun q hq => ?_
    have body := apart.trans hq
    split
    · exact ends_reject (body.sound hc)
    · exact body

/-- A tag takes its exclamation mark. -/
theorem ends_tagText (hc : c.Sound) : Ends (fun p => c.next.Follows p.2) (tagText c) := by
  have mark := follows_next c
  -- What follows the tag, wherever it ends.
  have ends (p : TagText × Cursor) (hp : c.next.Follows p.2) :
      Ends (fun p => c.next.Follows p.2)
        (if (!isSpaceOrEnd p.2.peek) = true then p.2.reject else .ok (p.1, p.2)) := by
    split
    · exact ends_reject ((mark.trans hp).sound hc)
    · exact hp
  unfold tagText
  simp only
  split
  · have angle := next_follows_advance (n := 2) (by decide) c
    refine (reads_tagBody ((mark.trans angle).sound hc)).bind fun p hp => ?_
    have body := angle.trans hp
    split
    · exact ends_reject ((mark.trans body).sound hc)
    · exact ends _ (body.trans (follows_next _))
  · split
    · exact ends _ (.refl _)
    · split
      · refine (ends_tagHandle hc).bind fun p hp => ?_
        exact (reads_tagBody ((mark.trans hp).sound hc)).bind fun q hq => ends _ (hp.trans hq)
      · exact (reads_tagBody (mark.sound hc)).bind fun p hp => ends _ hp

/-- A name takes the mark before it. -/
theorem ends_nameAfter (hc : c.Sound) : Ends (fun p => c.next.Follows p.2) (nameAfter c) := by
  have name := follows_take c.next isNameChar
  have sound := ((follows_next c).trans name).sound hc
  unfold nameAfter
  simp only
  split
  · exact ends_reject sound
  · split
    · exact name
    · exact ends_reject sound

/-! ### States of the scan -/

/-- What becomes of a scan that stays at its place: as many flow collections are open as before, and no
fault is among its tokens that was not. -/
structure Keeps (s s' : Scan) : Prop where
  cursor : s'.cursor = s.cursor
  flow : s'.flow = s.flow
  tokens : ∀ f, .fault f ∈ s'.tokens → .fault f ∈ s.tokens

/-- What becomes of a scan in a step: it ends, or it is behind the next place. -/
structure Goes (s s' : Scan) : Prop where
  sound : s.cursor.Sound → s'.cursor.Sound
  tokens : ∀ f, .fault f ∈ s'.tokens → .fault f ∈ s.tokens
  progress : s'.finished = true ∨ s'.cursor.rest.length < s.cursor.rest.length

variable {s s' s'' : Scan}

theorem Keeps.refl (s : Scan) : s.Keeps s := ⟨rfl, rfl, fun _ h => h⟩

theorem Keeps.trans (h : s.Keeps s') (h' : s'.Keeps s'') : s.Keeps s'' :=
  ⟨h'.cursor.trans h.cursor, h'.flow.trans h.flow, fun f hf => h.tokens f (h'.tokens f hf)⟩

theorem Keeps.sound (h : s.Keeps s') (hs : s.cursor.Sound) : s'.cursor.Sound := h.cursor ▸ hs

/-- A token that is no fault adds none. -/
theorem fault_mem_of_push {ts : Array Token} {t : Token} {f : Fault} (ht : t ≠ .fault f)
    (h : .fault f ∈ ts.push t) : .fault f ∈ ts :=
  (Array.mem_push.1 h).resolve_right ht.symm

theorem fault_mem_of_insert {ts : Array Token} {t : Token} {f : Fault} {place : Nat}
    (ht : t ≠ .fault f) (h : .fault f ∈ ts.insertIdxIfInBounds place t) : .fault f ∈ ts := by
  unfold Array.insertIdxIfInBounds at h
  split at h
  · exact (Array.mem_insertIdx.1 h).resolve_left ht.symm
  · exact h

theorem keeps_emit (s : Scan) {t : Token} (ht : ∀ f, t ≠ .fault f) : s.Keeps (s.emit t) :=
  ⟨rfl, rfl, fun f hf => fault_mem_of_push (ht f) hf⟩

theorem keeps_closeTo (column : Int) (outer : List Int) (s : Scan) :
    s.Keeps (closeTo column outer s) := by
  induction outer generalizing s with
  | nil => exact .refl s
  | cons o os ih =>
    rw [closeTo]
    split
    · have closed : s.Keeps { s.emit .blockEnd with indent := o, outer := os } :=
        ⟨rfl, rfl, (keeps_emit s (t := .blockEnd) nofun).tokens⟩
      exact closed.trans (ih _)
    · exact .refl s

theorem keeps_unwind (s : Scan) (column : Int) : s.Keeps (s.unwind column) := by
  unfold unwind
  split
  · exact .refl s
  · exact keeps_closeTo _ _ s

theorem ends_dropStale (hs : s.cursor.Sound) : Ends s.Keeps s.dropStale := by
  unfold dropStale
  split
  · exact ends_reject hs
  · exact ⟨rfl, rfl, fun _ h => h⟩

theorem ends_dropPending (hs : s.cursor.Sound) : Ends s.Keeps s.dropPending := by
  unfold dropPending
  split
  · split
    · exact ends_reject hs
    · exact ⟨rfl, rfl, fun _ h => h⟩
  · exact .refl s

theorem ends_notePending (hs : s.cursor.Sound) : Ends s.Keeps s.notePending := by
  unfold notePending
  split
  · exact (ends_dropPending hs).bind fun s₁ h₁ => ⟨h₁.cursor, h₁.flow, h₁.tokens⟩
  · exact .refl s

theorem keeps_deepen {column : Int} (h : s.deepen column = some s') : s.Keeps s' := by
  unfold deepen at h
  split at h
  · cases h
    exact ⟨rfl, rfl, fun _ h => h⟩
  · cases h

theorem ends_openBlock {t : Token} (ht : ∀ f, t ≠ .fault f) (hs : s.cursor.Sound) :
    Ends s.Keeps (s.openBlock t) := by
  unfold openBlock
  split
  · exact .refl s
  · split
    · exact ends_reject hs
    · split
      · next hd => exact (keeps_deepen hd).trans (keeps_emit _ ht)
      · exact .refl s

/-- Moving behind the next place is a step. -/
theorem Keeps.goes (h : s.Keeps s') (hr : s.cursor.rest ≠ [])
    (hc : s.cursor.next.Follows s''.cursor)
    (hf : ∀ f, .fault f ∈ s''.tokens → .fault f ∈ s'.tokens) : s.Goes s'' :=
  ⟨((follows_next _).trans hc).sound, fun f hm => h.tokens f (hf f hm), .inr (length_rest_lt hr hc)⟩

theorem Keeps.allow (h : s.Keeps s') (b : Bool) : s.Keeps (s'.allow b) :=
  ⟨h.cursor, h.flow, h.tokens⟩

/-- Moving behind the next place and adding a token is a step. -/
theorem Keeps.goes_emit (h : s.Keeps s') (hr : s.cursor.rest ≠ []) {c : Cursor}
    (hc : s.cursor.next.Follows c) {t : Token} (ht : ∀ f, t ≠ .fault f) :
    s.Goes ((s'.moveTo c).emit t) :=
  h.goes hr hc fun f hf => fault_mem_of_push (ht f) hf

theorem goes_finish (hs : s.cursor.Sound) : Ends s.Goes s.finish := by
  have closed := keeps_unwind s (-1)
  refine (ends_dropPending (closed.sound hs)).bind fun s₁ h₁ => ?_
  have all := closed.trans h₁
  exact ⟨all.sound, (all.trans (keeps_emit s₁ (t := .finish) nofun)).tokens, .inl rfl⟩

section

variable (hs : s.cursor.Sound) (hr : s.cursor.rest ≠ [])
include hs hr

theorem goes_directive : Ends s.Goes s.directive := by
  have closed := keeps_unwind s (-1)
  refine (ends_dropPending (closed.sound hs)).bind fun s₁ h₁ => ?_
  have all := closed.trans h₁
  have name : s.cursor.next.Follows (s₁.cursor.next.take isNameChar).2 :=
    all.cursor ▸ follows_take _ _
  have sound : (s₁.cursor.next.take isNameChar).2.Sound := ((follows_next _).trans name).sound hs
  -- What follows the directive, wherever it ends.
  have rest (p : Directive × Cursor) (hp : (s₁.cursor.next.take isNameChar).2.Follows p.2) :
      Ends s.Goes (do
        let c ← directiveEnd p.2
        .ok (((s₁.allow false).moveTo c).emit (.directive p.1))) :=
    (reads_directiveEnd (hp.sound sound)).bind fun c hc =>
      (all.allow false).goes_emit (t := .directive p.1) hr (name.trans (hp.trans hc)) nofun
  dsimp only
  split
  · exact ends_reject sound
  · refine .ite ?_ (.ite ?_ ?_)
    · exact (reads_versionValue sound).bind rest
    · exact (reads_handleValue sound).bind rest
    · have other : Reads (s₁.cursor.next.take isNameChar).2
          (.ok (Directive.other, (s₁.cursor.next.take isNameChar).2.skip fun x => !isBreakOrEnd x)) :=
        follows_skip _ _
      exact other.bind rest

theorem goes_marker {t : Token} (ht : ∀ f, t ≠ .fault f) : Ends s.Goes (s.marker t) := by
  have closed := keeps_unwind s (-1)
  refine (ends_dropPending (closed.sound hs)).bind fun s₁ h₁ => ?_
  have all := closed.trans h₁
  refine (all.allow false).goes_emit hr ?_ ht
  exact all.cursor ▸ next_follows_advance (by decide) _

theorem goes_openFlow {t : Token} (ht : ∀ f, t ≠ .fault f) : Ends s.Goes (s.openFlow t) :=
  (ends_notePending hs).bind fun _ h₁ =>
    h₁.goes hr (h₁.cursor ▸ .refl _) fun f hf => fault_mem_of_push (ht f) hf

theorem goes_closeFlow {t : Token} (ht : ∀ f, t ≠ .fault f) : Ends s.Goes (s.closeFlow t) :=
  (ends_dropPending hs).bind fun _ h₁ =>
    h₁.goes hr (h₁.cursor ▸ .refl _) fun f hf => fault_mem_of_push (ht f) hf

theorem goes_flowEntry : Ends s.Goes s.flowEntry :=
  (ends_dropPending (s := s.allow true) hs).bind fun _ h₁ =>
    Keeps.goes_emit (s := s) ⟨h₁.cursor, h₁.flow, h₁.tokens⟩ hr (h₁.cursor ▸ .refl _) nofun

theorem goes_blockEntry : Ends s.Goes s.blockEntry := by
  refine (ends_openBlock (t := .blockSequenceStart) nofun hs).bind fun s₁ h₁ => ?_
  refine (ends_dropPending (s := s₁.allow true) (h₁.sound hs)).bind fun s₂ h₂ => ?_
  have all : s.Keeps s₂ := h₁.trans ⟨h₂.cursor, h₂.flow, h₂.tokens⟩
  exact all.goes_emit hr (all.cursor ▸ .refl _) nofun

theorem goes_keyMark : Ends s.Goes s.keyMark := by
  refine (ends_openBlock (t := .blockMappingStart) nofun hs).bind fun s₁ h₁ => ?_
  refine (ends_dropPending (s := s₁.allow !s₁.inFlow) (h₁.sound hs)).bind fun s₂ h₂ => ?_
  have all : s.Keeps s₂ := h₁.trans ⟨h₂.cursor, h₂.flow, h₂.tokens⟩
  exact all.goes_emit hr (all.cursor ▸ .refl _) nofun

theorem goes_valueMark : Ends s.Goes s.valueMark := by
  -- The colon follows what the pending key, if there is one, has become.
  have mark (s₁ : Scan) (h₁ : s.Keeps s₁) :
      Ends s.Goes (.ok ((s₁.moveTo s₁.cursor.next).emit .value)) :=
    h₁.goes_emit (t := .value) hr (h₁.cursor ▸ .refl _) nofun
  unfold valueMark
  cases hk : s.pending.lookup s.flow with
  | none =>
    refine (ends_openBlock (t := .blockMappingStart) nofun hs).bind fun s₁ h₁ => ?_
    refine (ends_dropPending (s := s₁.allow !s₁.inFlow) (h₁.sound hs)).bind fun s₂ h₂ => ?_
    exact mark s₂ (h₁.trans ⟨h₂.cursor, h₂.flow, h₂.tokens⟩)
  | some k =>
    have key : s.Keeps { s with
        pending := s.pending.filter (·.1 ≠ s.flow)
        tokens := s.tokens.insertIdxIfInBounds k.place .key
        keyAllowed := false } := ⟨rfl, rfl, fun f hf => fault_mem_of_insert (t := .key) nofun hf⟩
    refine .ite (mark _ key) ?_
    split
    · next s₁ hd =>
      have deeper := key.trans (keeps_deepen hd)
      exact mark _ (deeper.trans ⟨rfl, rfl, fun f hf =>
        fault_mem_of_insert (t := .blockMappingStart) nofun hf⟩)
    · exact mark _ key

theorem goes_named {token : String → Token} (ht : ∀ name f, token name ≠ .fault f) :
    Ends s.Goes (s.named token) := by
  refine (ends_notePending hs).bind fun s₁ h₁ => ?_
  refine (ends_nameAfter (h₁.sound hs)).bind fun p hp => ?_
  exact (h₁.allow false).goes_emit hr (h₁.cursor ▸ hp) (ht p.1)

theorem goes_tagged : Ends s.Goes s.tagged := by
  refine (ends_notePending hs).bind fun s₁ h₁ => ?_
  refine (ends_tagText (h₁.sound hs)).bind fun p hp => ?_
  exact (h₁.allow false).goes_emit (t := .tag p.1) hr (h₁.cursor ▸ hp) nofun

theorem goes_block (folded : Bool) : Ends s.Goes (s.block folded) := by
  refine (ends_dropPending (s := s.allow true) hs).bind fun s₁ h₁ => ?_
  have keeps : s.Keeps s₁ := ⟨h₁.cursor, h₁.flow, h₁.tokens⟩
  refine (ends_blockScalar folded s₁.indent (keeps.sound hs)).bind fun p hp => ?_
  exact keeps.goes_emit (t := .scalar (p.1.map Char.toNat) false) hr (keeps.cursor ▸ hp) nofun

theorem goes_quoted (double : Bool) : Ends s.Goes (s.quoted double) := by
  refine (ends_notePending hs).bind fun s₁ h₁ => ?_
  refine (ends_quotedScalar double (h₁.sound hs) (h₁.cursor ▸ hr)).bind fun p hp => ?_
  exact (h₁.allow false).goes_emit (t := .scalar p.1 false) hr (h₁.cursor ▸ hp) nofun

omit hs in
/-- Where a plain scalar starts, it has a first run. -/
theorem plainLength_ne_zero (hp : s.startsPlain = true) :
    s.cursor.peek ≠ '#' ∧ plainLength s.inFlow s.cursor.rest ≠ 0 := by
  obtain ⟨x, r, hx⟩ := List.exists_cons_of_ne_nil hr
  have following : s.cursor.peekAt 1 = r.headD '\x00' := by simp [peekAt, hx]
  unfold startsPlain at hp
  rw [following] at hp
  rw [hx, plainLength]
  simp only [peek, hx, List.headD_cons] at hp ⊢
  rw [Bool.or_eq_true] at hp
  rcases hp with hp | hp
  · simp only [Bool.not_eq_true', Bool.or_eq_false_iff] at hp
    obtain ⟨blank, marks⟩ := hp
    simp at marks
    simp [blank, marks]
  · simp only [Bool.and_eq_true, Bool.or_eq_true, Bool.not_eq_true', decide_eq_true_eq] at hp
    obtain ⟨blank, rfl | ⟨block, rfl | rfl⟩⟩ := hp
    · simp [isBlankOrEnd, isSpaceOrEnd, isBreakOrEnd, isBreak]
    · simp [block, isBlankOrEnd, isSpaceOrEnd, isBreakOrEnd, isBreak]
    · rw [blank, block]
      simp [isBlankOrEnd, isSpaceOrEnd, isBreakOrEnd, isBreak]

theorem goes_plain (hp : s.startsPlain = true) : Ends s.Goes s.plain := by
  obtain ⟨hash, run⟩ := plainLength_ne_zero hr hp
  refine (ends_notePending hs).bind fun s₁ h₁ => ?_
  have flow : s₁.inFlow = s.inFlow := by rw [inFlow, inFlow, h₁.flow]
  have moved : s.cursor.next.Follows (plainScalar s.inFlow s₁.indent s.cursor).2.1 :=
    next_follows_plainScalar s₁.indent hash run
  rw [← flow] at moved
  rw [h₁.cursor]
  generalize plainScalar s₁.inFlow s₁.indent s.cursor = p at moved ⊢
  exact (h₁.allow p.2.2).goes_emit (t := .scalar (p.1.map Char.toNat) true) hr moved nofun

/-- A token takes a character, unless it ends the scan. -/
theorem goes_dispatch_of_ne_nil : Ends s.Goes s.dispatch := by
  unfold dispatch
  simp only
  refine .ite (goes_finish hs) <| .ite (goes_directive hs hr) <|
    .ite (goes_marker hs hr nofun) <| .ite (goes_marker hs hr nofun) <|
    .ite (goes_openFlow hs hr nofun) <| .ite (goes_openFlow hs hr nofun) <|
    .ite (goes_closeFlow hs hr nofun) <| .ite (goes_closeFlow hs hr nofun) <|
    .ite (goes_flowEntry hs hr) <| .ite (goes_blockEntry hs hr) <| .ite (goes_keyMark hs hr) <|
    .ite (goes_valueMark hs hr) <| .ite (goes_named hs hr nofun) <| .ite (goes_named hs hr nofun) <|
    .ite (goes_tagged hs hr) <| .ite (goes_block hs hr _) <| .ite (goes_block hs hr _) <|
    .ite (goes_quoted hs hr _) <| .ite (goes_quoted hs hr _) ?_
  split
  · next hp => exact goes_plain hs hr hp
  · exact ends_reject hs

end

theorem goes_dispatch (hs : s.cursor.Sound) : Ends s.Goes s.dispatch := by
  by_cases hr : s.cursor.rest = []
  · unfold dispatch
    simp only [hr, List.isEmpty_nil, if_true]
    exact goes_finish hs
  · exact goes_dispatch_of_ne_nil hs hr

theorem follows_skipBetween (n : Nat) (s : Scan) : s.cursor.Follows (skipBetween n s).cursor ∧
    (skipBetween n s).tokens = s.tokens := by
  induction n generalizing s with
  | zero => exact ⟨.refl _, rfl⟩
  | succ n ih =>
    have comment := (follows_skip s.cursor (· = ' ')).trans (follows_skipComment _)
    rw [skipBetween]
    split
    · next b c hb =>
      obtain ⟨cursor, tokens⟩ := ih { s with cursor := c, keyAllowed := s.keyAllowed || !s.inFlow }
      exact ⟨(comment.trans (follows_lineBreak hb)).trans cursor, tokens⟩
    · exact ⟨comment, rfl⟩

theorem follows_toNext (s : Scan) : s.cursor.Follows s.toNext.cursor ∧ s.toNext.tokens = s.tokens := by
  unfold toNext
  split
  · obtain ⟨cursor, tokens⟩ := follows_skipBetween
      ((s.moveTo s.cursor.next).cursor.rest.length + 1) (s.moveTo s.cursor.next)
    exact ⟨(follows_next _).trans cursor, tokens⟩
  · exact follows_skipBetween _ s

/-- A step of the scan takes a character or ends the scan. -/
theorem goes_step (hs : s.cursor.Sound) : Ends s.Goes s.step := by
  obtain ⟨cursor, tokens⟩ := follows_toNext s
  refine (ends_dropStale (cursor.sound hs)).bind fun s₁ h₁ => ?_
  have keeps := h₁.trans (keeps_unwind s₁ s₁.cursor.column)
  refine (goes_dispatch (keeps.sound (cursor.sound hs))).bind fun s₂ h₂ => ?_
  have goes : s.Goes s₂ := by
    refine ⟨fun hs => h₂.sound (keeps.sound (cursor.sound hs)),
      fun f hf => tokens ▸ keeps.tokens f (h₂.tokens f hf), h₂.progress.imp_right fun less => ?_⟩
    rw [keeps.cursor] at less
    exact Nat.lt_of_lt_of_le less cursor.rest.length_le
  split
  · next f hf =>
    -- What ends the text is not that a bound is reached.
    rintro rfl
    refine (goes.sound hs).cut ?_
    unfold cutWithin? at hf
    split at hf
    · exact hf
    · cases hf
  · exact goes

/-! ### Tokens -/

/-- When a scan stops, its last token is the fault, and the others are some that it has. -/
theorem fault_of_mem_failed {f g : Fault} (h : .fault g ∈ s.failed f) :
    g = f ∨ .fault g ∈ s.tokens := by
  unfold failed at h
  rcases List.mem_append.1 h with h | h
  · exact .inr (Array.mem_toList_iff.1 (List.mem_of_mem_take h))
  · cases List.mem_singleton.1 h
    exact .inl rfl

/-- How many steps there may still be. -/
def stepsLeft (s : Scan) : Nat := if s.finished then 0 else s.cursor.rest.length + 1

/-- A scan ends before the bound is reached. -/
theorem endless_not_mem_run {n : Nat} (hs : s.cursor.Sound) (ht : .fault .endless ∉ s.tokens)
    (h : s.stepsLeft < n) : .fault .endless ∉ s.run n := by
  induction n generalizing s with
  | zero => exact absurd h (Nat.not_lt_zero _)
  | succ n ih =>
    rw [run_succ]
    split
    · simpa using ht
    · next going =>
      have step := goes_step hs
      cases hr : s.step with
      | ok s' =>
        rw [hr] at step
        obtain ⟨sound, tokens, progress⟩ := step
        refine ih (sound hs) (fun hf => ht (tokens _ hf)) ?_
        rw [stepsLeft, if_neg going] at h
        unfold stepsLeft
        split
        · omega
        · next more =>
          have less := progress.resolve_left more
          omega
      | error f =>
        rw [hr] at step
        intro hf
        rcases fault_of_mem_failed hf with rfl | hf
        · exact step rfl
        · exact ht hf

end Scan

/-- No list of tokens stops as a bound is reached. -/
theorem endless_not_mem_tokens {s : Source} (h : (Cursor.start s).Sound) :
    .fault .endless ∉ tokens s :=
  Scan.endless_not_mem_run (s := Scan.start s) h (by simp [Scan.start])
    (by simp [Scan.stepsLeft, Scan.start, Cursor.start])

namespace Source

theorem sizeBefore_le (place : Nat) : sizeBefore place ≤ place := by
  unfold sizeBefore
  split
  · exact Nat.zero_le _
  · exact Nat.div_mul_le_self _ _

/-- What can be read of a text holds characters of documents only. -/
theorem sound_ofText (s : List Char) {cut : Option Fault} (hc : cut ≠ some .endless) :
    (Cursor.start (ofText s cut)).Sound := by
  have good : '\x00' ∉ s.takeWhile isDocumentChar := fun h =>
    absurd (List.mem_takeWhile_imp h) (by decide)
  unfold ofText
  dsimp only
  split
  · refine ⟨nofun, fun h => good ?_⟩
    have start : s.take (sizeBefore (s.takeWhile isDocumentChar).length) <+:
        s.takeWhile isDocumentChar :=
      List.prefix_of_prefix_length_le (List.take_prefix _ _) (List.takeWhile_prefix _)
        ((List.length_take_le _ _).trans (sizeBefore_le _))
    exact start.subset h
  · next all =>
    refine ⟨hc, fun h => good ?_⟩
    rwa [(List.takeWhile_prefix isDocumentChar).eq_of_length_le (Nat.le_of_not_lt all)]

theorem sound_ofBytes (bs : List UInt8) : (Cursor.start (ofBytes bs)).Sound := by
  unfold ofBytes
  split
  · exact sound_ofText _ nofun
  · exact sound_ofText _ nofun

end Source

end StorageKey.Yaml
