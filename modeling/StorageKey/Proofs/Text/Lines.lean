import Mathlib.Data.List.TakeWhile
import StorageKey.Text.Lines

/-!
# Texts and their lines

A text is a run of lines, each with the boundary that ends it; the last one may lack its boundary. A
boundary is one character, but for a carriage return and the line feed after it.

* `lineBoundaries`, `Unbroken`: the boundaries, and the texts without a character of one;
* `Lines`: a text and its lines;
* `splitLines_eq_iff`: these are the lines that are found;
* `splitLines_append_newline`: those of a text that only line feeds cut;
* `GoesOn`, `splitLines_append_goesOn`: those of a line and of what goes on after it;
* `lines_singleton_iff`, `lines_pair_iff`: texts of one line, and of two;
* `firstLine`, `head?_splitLines`: the first line of a text.
-/

namespace StorageKey.Text

/-- What ends a line. -/
def lineBoundaries : List (List Char) :=
  [['\n'], ['\r'], ['\r', '\n'], ['\x0b'], ['\x0c'], ['\x1c'], ['\x1d'], ['\x1e'], ['\u0085'],
    ['\u2028'], ['\u2029']]

/-- Whether a text holds no character that ends a line. -/
def Unbroken (s : List Char) : Prop := ∀ c ∈ s, isLineBoundary c = false

instance (s : List Char) : Decidable (Unbroken s) :=
  List.decidableBAll (fun c => isLineBoundary c = false) s

/-- A text that goes on after a line: it is empty, or starts with a boundary. -/
def GoesOn (s : List Char) : Prop := ∀ c ∈ s.head?, isLineBoundary c = true

instance (s : List Char) : Decidable (GoesOn s) :=
  Option.decidableForallMem (p := fun c => isLineBoundary c = true) s.head?

/-- What stands at the end of the last line: a boundary, or nothing. -/
def IsLastEnd (b : List Char) : Prop := b = [] ∨ b ∈ lineBoundaries

/-- A text and its lines. A carriage return does not end a line by itself if a line feed follows. -/
inductive Lines : List Char → List (List Char) → Prop
  | nil : Lines [] []
  | last {l : List Char} (hn : l ≠ []) (hl : Unbroken l) : Lines l [l]
  | cons {l b r : List Char} {ls : List (List Char)} (hl : Unbroken l) (hb : b ∈ lineBoundaries)
      (hr : b = ['\r'] → r.head? ≠ some '\n') (h : Lines r ls) : Lines (l ++ b ++ r) (l :: ls)

variable {s l m : List Char} {ls : List (List Char)}

theorem unbroken_nil : Unbroken [] := fun _ h => nomatch h

theorem unbroken_cons {c : Char} : Unbroken (c :: s) ↔ isLineBoundary c = false ∧ Unbroken s :=
  List.forall_mem_cons

theorem unbroken_append : Unbroken (l ++ m) ↔ Unbroken l ∧ Unbroken m := by
  simp only [Unbroken, List.mem_append, or_imp, forall_and]

/-- A boundary is a character that ends a line, or the two that do so together. -/
theorem mem_lineBoundaries_iff {b : List Char} :
    b ∈ lineBoundaries ↔ (∃ c, isLineBoundary c = true ∧ b = [c]) ∨ b = ['\r', '\n'] := by
  simp only [lineBoundaries, isLineBoundary, List.mem_cons, List.not_mem_nil, or_false,
    Bool.or_eq_true, decide_eq_true_eq]
  constructor
  · rintro (rfl | rfl | rfl | rfl | rfl | rfl | rfl | rfl | rfl | rfl | rfl) <;> simp
  · rintro (⟨c, h, rfl⟩ | rfl)
    · rcases h with ((((((((rfl | rfl) | rfl) | rfl) | rfl) | rfl) | rfl) | rfl) | rfl) | rfl <;> simp
    · simp

/-- A boundary starts with a character that ends a line. -/
theorem exists_of_mem_lineBoundaries {b : List Char} (h : b ∈ lineBoundaries) :
    ∃ c r, isLineBoundary c = true ∧ b = c :: r := by
  rcases mem_lineBoundaries_iff.1 h with ⟨c, hc, rfl⟩ | rfl
  · exact ⟨c, [], hc, rfl⟩
  · exact ⟨'\r', ['\n'], by decide, rfl⟩

/-- A text that is broken is so at a first place. -/
theorem exists_of_not_unbroken (h : ¬Unbroken s) :
    ∃ l c r, s = l ++ c :: r ∧ Unbroken l ∧ isLineBoundary c = true := by
  induction s with
  | nil => exact absurd (fun _ hc => nomatch hc) h
  | cons c s ih =>
    cases hc : isLineBoundary c with
    | true => exact ⟨[], c, s, rfl, (fun _ hd => nomatch hd), hc⟩
    | false =>
      obtain ⟨l, d, r, rfl, hl, hd⟩ := ih fun hu => h (unbroken_cons.2 ⟨hc, hu⟩)
      exact ⟨c :: l, d, r, rfl, unbroken_cons.2 ⟨hc, hl⟩, hd⟩

/-! ### The lines that are found -/

/-- A carriage return and the line feed after it end a line together. -/
theorem splitLines_append_return (hl : Unbroken l) (r : List Char) :
    splitLines (l ++ '\r' :: '\n' :: r) = l :: splitLines r := by
  induction l with
  | nil => simp [splitLines]
  | cons c l ih =>
    obtain ⟨hc, hl⟩ := unbroken_cons.1 hl
    have ih := ih hl
    have hne : c ≠ '\r' := by
      rintro rfl
      exact absurd hc (by decide)
    cases l with
    | nil => simp_all [splitLines, consFirst]
    | cons d l =>
      rw [List.cons_append, List.cons_append, splitLines, if_neg fun h => hne h.1,
        if_neg (by simp [hc]), ← List.cons_append, ih]
      rfl

theorem splitLines_append_boundary {b r : List Char} (hl : Unbroken l) (hb : b ∈ lineBoundaries)
    (hr : b = ['\r'] → r.head? ≠ some '\n') : splitLines (l ++ b ++ r) = l :: splitLines r := by
  rw [List.append_assoc]
  rcases mem_lineBoundaries_iff.1 hb with ⟨c, hc, rfl⟩ | rfl
  · exact splitLines_append_cons hl hc fun h => hr (by rw [h])
  · exact splitLines_append_return hl r

theorem splitLines_of_lines (h : Lines s ls) : splitLines s = ls := by
  induction h with
  | nil => rfl
  | last hn hl => exact splitLines_of_noBoundary hn hl
  | cons hl hb hr _ ih => rw [splitLines_append_boundary hl hb hr, ih]

/-- A character that ends no line goes to the first line. -/
theorem Lines.consFirst {c : Char} (h : Lines s ls) (hc : isLineBoundary c = false) :
    Lines (c :: s) (consFirst c ls) := by
  cases h with
  | nil => exact .last (by simp) (unbroken_cons.2 ⟨hc, unbroken_nil⟩)
  | last hn hl => exact .last (by simp) (unbroken_cons.2 ⟨hc, hl⟩)
  | cons hl hb hr h => exact .cons (unbroken_cons.2 ⟨hc, hl⟩) hb hr h

theorem lines_splitLines (s : List Char) : Lines s (splitLines s) := by
  fun_induction splitLines s with
  | case1 => exact .nil
  | case2 c hc =>
    exact .cons (b := [c]) unbroken_nil (mem_lineBoundaries_iff.2 (.inl ⟨c, hc, rfl⟩)) (by simp) .nil
  | case3 c hc => exact Lines.nil.consFirst (Bool.eq_false_iff.2 hc)
  | case4 c d r h ih =>
    obtain ⟨rfl, rfl⟩ := h
    exact .cons (b := ['\r', '\n']) unbroken_nil (by decide) (by simp) ih
  | case5 c d r h hc ih =>
    refine .cons (b := [c]) unbroken_nil (mem_lineBoundaries_iff.2 (.inl ⟨c, hc, rfl⟩)) ?_ ih
    rintro hr hd
    exact h ⟨List.head_eq_of_cons_eq hr, Option.some.inj hd⟩
  | case6 c d r h hc ih => exact ih.consFirst (Bool.eq_false_iff.2 hc)

/-- The lines of a text are those that are found. -/
theorem splitLines_eq_iff : splitLines s = ls ↔ Lines s ls := by
  constructor
  · rintro rfl
    exact lines_splitLines s
  · exact splitLines_of_lines

/-- A text in which nothing but line feeds ends a line, with one at its end, is cut where the line
feeds are. -/
theorem splitLines_append_newline (h : ∀ c ∈ s, isLineBoundary c = true → c = '\n') :
    splitLines (s ++ ['\n']) = separate '\n' s := by
  induction s with
  | nil => rfl
  | cons c s ih =>
    rw [List.forall_mem_cons] at h
    have ih := ih h.2
    by_cases hc : c = '\n'
    · subst hc
      rw [List.cons_append, ← List.nil_append ('\n' :: _),
        splitLines_append_cons unbroken_nil (by decide) fun h => absurd h (by decide), ih]
      rfl
    · have free : isLineBoundary c = false := Bool.eq_false_iff.2 fun hb => hc (h.1 hb)
      rw [separate, if_neg hc, ← ih, List.cons_append]
      exact splitLines_of_lines ((lines_splitLines _).consFirst free)

/-- What goes on after a line adds its lines after the first, which is the end of that line. -/
theorem splitLines_append_goesOn (hn : l ≠ []) (hl : Unbroken l) (hs : GoesOn s) :
    splitLines (l ++ s) = l :: (splitLines s).tail := by
  cases s with
  | nil =>
    rw [List.append_nil]
    exact splitLines_of_noBoundary hn hl
  | cons c r =>
    have hc := hs c rfl
    by_cases hr : c = '\r' → r.head? ≠ some '\n'
    · rw [splitLines_append_cons hl hc hr, ← List.nil_append (c :: r),
        splitLines_append_cons unbroken_nil hc hr, List.tail_cons]
    · obtain ⟨rfl, h⟩ := Classical.not_imp.1 hr
      obtain ⟨m, rfl⟩ := List.head?_eq_some_iff.1 (Classical.not_not.1 h)
      rw [splitLines_append_return hl, ← List.nil_append ('\r' :: _),
        splitLines_append_return unbroken_nil, List.tail_cons]

/-! ### Texts of few lines -/

theorem lines_nil_iff : Lines s [] ↔ s = [] := by
  constructor
  · rintro ⟨⟩
    rfl
  · rintro rfl
    exact .nil

/-- A text is one line just if nothing but a boundary stands after the line. -/
theorem lines_singleton_iff (hn : l ≠ []) :
    Lines s [l] ↔ ∃ b, s = l ++ b ∧ Unbroken l ∧ IsLastEnd b := by
  constructor
  · intro h
    cases h with
    | last _ hl => exact ⟨[], (List.append_nil _).symm, hl, .inl rfl⟩
    | @cons _ b _ _ hl hb _ h =>
      obtain rfl := lines_nil_iff.1 h
      exact ⟨b, List.append_nil _, hl, .inr hb⟩
  · rintro ⟨b, rfl, hl, rfl | hb⟩
    · rw [List.append_nil]
      exact .last hn hl
    · rw [← List.append_nil (l ++ b)]
      exact .cons hl hb (by simp) .nil

/-- A text is two lines, of which the second holds something, just if a boundary stands between
them, and nothing but a boundary after them. -/
theorem lines_pair_iff (hn : m ≠ []) : Lines s [l, m] ↔
    ∃ b b', s = l ++ b ++ m ++ b' ∧ Unbroken l ∧ Unbroken m ∧ b ∈ lineBoundaries ∧ IsLastEnd b' := by
  constructor
  · intro h
    cases h with
    | @cons _ b _ _ hl hb _ h =>
      obtain ⟨b', rfl, hm, hb'⟩ := (lines_singleton_iff hn).1 h
      exact ⟨b, b', (List.append_assoc _ _ _).symm, hl, hm, hb, hb'⟩
  · rintro ⟨b, b', rfl, hl, hm, hb, hb'⟩
    rw [List.append_assoc]
    refine .cons hl hb (fun _ hr => ?_) ((lines_singleton_iff hn).2 ⟨b', rfl, hm, hb'⟩)
    -- The second line does not start with a line feed, as it holds no boundary.
    obtain ⟨c, m', rfl⟩ := List.exists_cons_of_ne_nil hn
    obtain rfl : c = '\n' := Option.some.inj hr
    exact absurd (hm '\n' List.mem_cons_self) (by decide)

/-! ### The first line -/

/-- The first line of a text: everything before its first boundary. -/
def firstLine (s : List Char) : List Char := s.takeWhile fun c => !isLineBoundary c

theorem firstLine_of_unbroken (hl : Unbroken l) : firstLine l = l := by
  refine List.takeWhile_eq_self_iff.2 fun c hc => ?_
  rw [hl c hc]
  rfl

theorem firstLine_append_boundary {b : List Char} (hl : Unbroken l) (hb : b ∈ lineBoundaries)
    (r : List Char) : firstLine (l ++ b ++ r) = l := by
  obtain ⟨c, b', hc, rfl⟩ := exists_of_mem_lineBoundaries hb
  have all : ∀ d ∈ l, (!isLineBoundary d) = true := by
    intro d hd
    rw [hl d hd]
    rfl
  rw [List.append_assoc, firstLine, List.takeWhile_append_of_pos all, List.cons_append,
    List.takeWhile_cons_of_neg (by simp [hc]), List.append_nil]

/-- A text that is not empty has a first line. -/
theorem head?_splitLines (hs : s ≠ []) : (splitLines s).head? = some (firstLine s) := by
  have h := lines_splitLines s
  generalize splitLines s = ls at h
  cases h with
  | nil => exact absurd rfl hs
  | last _ hl => rw [firstLine_of_unbroken hl]; rfl
  | cons hl hb _ _ => rw [firstLine_append_boundary hl hb]; rfl

example : splitLines "a\r\n\rb\n".toList = ["a".toList, [], "b".toList] := by decide

end StorageKey.Text
