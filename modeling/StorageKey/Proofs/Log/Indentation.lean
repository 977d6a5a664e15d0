import StorageKey.Log.Detail
import StorageKey.Proofs.Text.Lines
import StorageKey.Proofs.Yaml.Unwritable
import StorageKey.Proofs.Yaml.Writing

/-!
# Indented data

The data of a log entry are shown as a document whose lines are indented. A document is cut into
lines wherever a line may end, at more characters than the line feed, but none of the others stands
in it. So nothing that belongs to a key or a text is taken for the end of a line, and without the
indentation the document is there again.

* `IsDocument`: the document of data, by the order of its entries and by its lines;
* `Indents`, `indents_iff`: a text is a document with its lines indented;
* `Context.indented_cases`: what becomes of data that are not empty.
-/

namespace StorageKey

open Decimal Text Yaml

/-! ### Documents -/

/-- The text of entries, each at the start of a line, in the order in which they are given. -/
def blockText (es : List (String × Datum)) : List Char :=
  ((writeEntries 0 es Page.empty).indentTo 0).text

/-- The document of data: their entries, and those of every mapping in them, stand in the order of
their keys, and line feeds alone end its lines. -/
structure IsDocument (c : Context) (document : List Char) : Prop where
  ordered : ∃ fs, Reordered (.map c) (.map fs) ∧ InOrder (.map fs) ∧ document = blockText fs
  legible : Legible document
  lines : separate '\n' document = splitLines document ++ [[]]

/-- A printable character of ASCII does not end a line. -/
theorem isLineBoundary_of_isPrintableAscii {c : Char} (h : isPrintableAscii c = true) :
    isLineBoundary c = false := by
  refine Bool.eq_false_iff.2 fun hb => ?_
  have found : [c] ∈ lineBoundaries := mem_lineBoundaries_iff.2 (.inl ⟨c, hb, rfl⟩)
  have unprintable : [c].all (fun c => !isPrintableAscii c) = true :=
    (by decide : ∀ b ∈ lineBoundaries, b.all (fun c => !isPrintableAscii c) = true) [c] found
  simp [h] at unprintable

theorem splitLines_of_legible {s : List Char} (h : Legible s) :
    splitLines (s ++ ['\n']) = separate '\n' s :=
  splitLines_append_newline fun c hc hb => (h c hc).resolve_right fun hp => by
    rw [isLineBoundary_of_isPrintableAscii hp] at hb
    cases hb

theorem separate_append_newline (s : List Char) :
    separate '\n' (s ++ ['\n']) = separate '\n' s ++ [[]] := by
  induction s with
  | nil => rfl
  | cons c s ih =>
    have some : separate '\n' s ≠ [] := separate_ne_nil s
    obtain ⟨l, ls, hs⟩ := List.exists_cons_of_ne_nil some
    rw [hs] at ih
    rw [List.cons_append, separate, separate, hs, ih]
    split <;> rfl

theorem isDocument_documentText {c : Context} (h : c ≠ []) : IsDocument c (documentText c) := by
  obtain ⟨s, hs, hd⟩ := exists_documentText h
  refine ⟨⟨sortEntries (sortedEntries c), reordered_sorted (.map c), inOrder_sorted (.map c), rfl⟩,
    ?_, ?_⟩
  · rw [hd]
    exact legible_append.2 ⟨hs, by simp⟩
  · rw [hd, separate_append_newline, splitLines_of_legible hs]

/-! ### Indentation -/

/-- A text is a document with its lines indented: every line of it starts with the blanks, and
without them, and with a line feed at the end, it is the document. -/
structure Indents (n : Nat) (document text : List Char) : Prop where
  padded : ∀ l ∈ separate '\n' text, List.replicate n ' ' <+: l
  restored : joinWith ['\n'] ((separate '\n' text).map (·.drop n)) ++ ['\n'] = document

/-- The lines of a text, each after some blanks. -/
def padLines (n : Nat) (ls : List (List Char)) : List (List Char) :=
  ls.map (List.replicate n ' ' ++ ·)

theorem map_drop_padLines (n : Nat) (ls : List (List Char)) :
    (padLines n ls).map (·.drop n) = ls := by
  rw [padLines, List.map_map]
  refine List.map_id'' (fun l => ?_) ls
  exact List.drop_left' List.length_replicate

theorem padLines_map_drop {n : Nat} {ls : List (List Char)}
    (h : ∀ l ∈ ls, List.replicate n ' ' <+: l) : padLines n (ls.map (·.drop n)) = ls := by
  rw [padLines, List.map_map]
  refine (List.map_congr_left fun l hl => ?_).trans (List.map_id ls)
  obtain ⟨r, rfl⟩ := h l hl
  rw [Function.comp_apply, List.drop_left' List.length_replicate]
  rfl

/-- A document has exactly one text with its lines indented. -/
theorem indents_iff {n : Nat} {s text : List Char} : Indents n (s ++ ['\n']) text ↔
    text = joinWith ['\n'] (padLines n (separate '\n' s)) := by
  constructor
  · rintro ⟨padded, restored⟩
    have lines : separate '\n' s = (separate '\n' text).map (·.drop n) := by
      rw [← List.append_cancel_right restored]
      refine separate_joinWith (by simp [separate_ne_nil]) fun l hl => ?_
      obtain ⟨m, hm, rfl⟩ := List.mem_map.1 hl
      exact fun h => not_mem_of_mem_separate hm (List.mem_of_mem_drop h)
    rw [lines, padLines_map_drop padded, joinWith_separate]
  · rintro rfl
    have lines : separate '\n' (joinWith ['\n'] (padLines n (separate '\n' s))) =
        padLines n (separate '\n' s) := by
      refine separate_joinWith (by simp [padLines, separate_ne_nil]) fun l hl => ?_
      obtain ⟨m, hm, rfl⟩ := List.mem_map.1 hl
      rw [List.mem_append, List.mem_replicate, not_or]
      exact ⟨fun h => absurd h.2 (by decide), not_mem_of_mem_separate hm⟩
    refine ⟨fun l hl => ?_, ?_⟩
    · rw [lines] at hl
      obtain ⟨m, -, rfl⟩ := List.mem_map.1 hl
      exact List.prefix_append _ _
    · rw [lines, map_drop_padLines, joinWith_separate]

/-- Data that are not empty have a document if no integer in them is too long and they are not nested
too deeply, and their indented text is the one text that has its lines, each after the blanks.
Otherwise there is neither a document nor a text, for one of these reasons. -/
theorem Context.indented_cases (e : String × Datum) (es : Context) (room n : Nat) :
    (Datum.Short (.map (e :: es)) ∧ ¬Datum.Nested room (.map (e :: es)) ∧
      ∃ document text, writeDocument room (e :: es) = .ok document ∧
        IsDocument (e :: es) document ∧ Context.indentedWithin room (e :: es) n = .ok text ∧
        ∀ t, Indents n document t ↔ t = text) ∨
    ∃ f, Unwritable room (.map (e :: es)) f ∧ writeDocument room (e :: es) = .error f ∧
      Context.indentedWithin room (e :: es) n = .error f := by
  have some : (e :: es).isEmpty = false := rfl
  rw [Context.indentedWithin, Context.indentedLinesWithin, some, writeDocument]
  cases hw : writeFault? room (sorted (.map (e :: es))) with
  | some f => exact .inr ⟨f, unwritable_of_writeFault?_sorted hw, rfl, rfl⟩
  | none =>
    obtain ⟨short, shallow⟩ := writeFault?_sorted_eq_none_iff.1 hw
    obtain ⟨s, hs, hd⟩ := exists_documentText (List.cons_ne_nil e es)
    refine .inl ⟨short, shallow, _, _, rfl, isDocument_documentText (List.cons_ne_nil e es), rfl,
      fun t => ?_⟩
    show Indents n _ t ↔ t = joinWith ['\n'] (padLines n (splitLines _))
    rw [hd, splitLines_of_legible hs]
    exact indents_iff

-- A line separator in a text is written as an escape, so it does not end a line.
example : Context.indented [("b", .text "x\u2028y"), ("a", .list [.int 1])] 2 =
    .ok "  a:\n  - 1\n  b: \"x\\Ly\"".toList := by
  decide +kernel

end StorageKey
