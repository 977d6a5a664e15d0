import Mathlib.Data.List.TakeWhile
import StorageKey.Markup.Marked
import StorageKey.Text.Fill
import StorageKey.Text.Template
import StorageKey.Text.Utf8

/-!
# Readers of texts have enough steps

The readers of bytes, templates, paragraphs and marks take a bounded number of steps. Each step takes
something from the text, so that from some number on, more steps make no difference.

* `Utf8.run_succ`, `Utf8.decodeChunks_succ`: bytes;
* `Template.fillFrom_succ`: templates;
* `chunksFrom_succ`, `fillFrom_succ`: paragraphs;
* `Markup.piecesFrom_succ`: marks.
-/

/-! ### Bytes -/

namespace StorageKey.Text.Utf8

variable {n : Nat} {bs : List UInt8}

/-- A character takes a byte. -/
theorem run_succ (h : bs.length ≤ n) (place : Nat) : run (n + 1) place bs = run n place bs := by
  induction n generalizing place bs with
  | zero =>
    obtain rfl := List.length_eq_zero_iff.1 (Nat.le_zero.1 h)
    rfl
  | succ n ih =>
    unfold run
    cases hn : next bs with
    | char c rest =>
      have less := length_lt_of_next hn
      simp only [ih (show rest.length ≤ n by omega)]
    | _ => rfl

/-- A chunk takes a byte, and the end is a step of its own. -/
theorem decodeChunks_succ {size : Nat} (hs : 0 < size) (h : bs.length < n) (left : List UInt8) :
    decodeChunks size left bs (n + 1) = decodeChunks size left bs n := by
  induction n generalizing left bs with
  | zero => exact absurd h (Nat.not_lt_zero _)
  | succ n ih =>
    unfold decodeChunks
    by_cases hb : bs.isEmpty = true
    · rw [if_pos hb, if_pos hb]
    · have some : 0 < bs.length := List.length_pos_iff.2 (by simpa using hb)
      have less : (bs.drop size).length < n := by
        rw [List.length_drop]
        omega
      rw [if_neg hb, if_neg hb]
      simp only [ih less]

end StorageKey.Text.Utf8

/-! ### Templates -/

namespace StorageKey.Text.Template

variable {total : Nat} {name value text rest s : List Char} {supply supply' : Supply}

theorem length_le_of_splitName {depth : Nat} (h : splitName depth s = some (name, rest)) :
    rest.length ≤ s.length := by
  induction s generalizing depth name with
  | nil => cases h
  | cons c r ih =>
    have inner {d : Nat} (h : (splitName d r).map (fun e => (c :: e.1, e.2)) = some (name, rest)) :
        rest.length ≤ r.length := by
      obtain ⟨e, he, hc⟩ := Option.map_eq_some_iff.1 h
      cases hc
      exact ih he
    rw [List.length_cons]
    unfold splitName at h
    split at h
    · split at h
      · cases h
        exact Nat.le_succ _
      · exact Nat.le_succ_of_le (inner h)
    · exact Nat.le_succ_of_le (inner h)

theorem length_le_of_readNumber {limit n : Nat} {fault : Fault}
    (h : readNumber limit fault s = .ok (n, rest)) : rest.length ≤ s.length := by
  unfold readNumber at h
  split at h
  · cases h
    exact (List.dropWhile_suffix _).length_le
  · cases h

theorem length_le_of_takeName (h : takeName name value supply s = .ok (supply', rest)) :
    rest.length ≤ s.length := by
  unfold takeName at h
  split at h
  · split at h
    · cases h
    · next hn =>
      split at h
      · cases h
        exact Nat.le_succ_of_le (length_le_of_splitName hn)
      · cases h
  · cases h
    exact Nat.le_refl _

theorem length_le_of_takeWidth {n : Nat} (h : takeWidth supply s = .ok (n, rest)) :
    rest.length ≤ s.length := by
  unfold takeWidth at h
  split at h
  · cases ht : supply.take <;> rw [ht] at h <;> cases h
  · exact length_le_of_readNumber h

theorem length_le_of_takePrecision {n : Option Nat} (h : takePrecision supply s = .ok (n, rest)) :
    rest.length ≤ s.length := by
  unfold takePrecision at h
  split at h
  · cases ht : supply.take <;> rw [ht] at h <;> cases h
  · next r _ =>
    cases hr : readNumber precisionLimit .precisionSize r with
    | error f =>
      rw [hr] at h
      cases h
    | ok e =>
      rw [hr] at h
      cases h
      exact Nat.le_succ_of_le (length_le_of_readNumber hr)
  · cases h
    exact Nat.le_refl _

theorem length_dropSize_le (s : List Char) : (dropSize s).length ≤ s.length := by
  unfold dropSize
  split
  · split
    · exact Nat.le_succ _
    · exact Nat.le_refl _
  · exact Nat.le_refl _

theorem length_lt_of_takeLetter {p : Placing}
    (h : takeLetter p total supply s = .ok (text, supply', rest)) : rest.length < s.length := by
  unfold takeLetter at h
  split at h
  · cases h
  · obtain ⟨v, -, h⟩ := exists_of_except_bind h
    obtain ⟨t, -, h⟩ := exists_of_except_bind h
    cases h
    exact Nat.lt_succ_self _

/-- A place takes a character at least, its letter. -/
theorem length_lt_of_fillPlace
    (h : fillPlace total name value supply s = .ok (text, supply', rest)) :
    rest.length < s.length := by
  obtain ⟨⟨supply, s₁⟩, hn, h⟩ := exists_of_except_bind h
  obtain ⟨⟨width, s₂⟩, hw, h⟩ := exists_of_except_bind h
  obtain ⟨⟨precision, s₃⟩, hp, h⟩ := exists_of_except_bind h
  have short := length_lt_of_takeLetter h
  have size := length_dropSize_le s₃
  have precise := length_le_of_takePrecision hp
  have wide := length_le_of_takeWidth hw
  have named := length_le_of_takeName hn
  rw [List.length_drop] at wide
  omega

/-- More steps than there are characters make no difference. -/
theorem fillFrom_succ {n : Nat} (h : s.length ≤ n) (total : Nat) (name value : List Char)
    (supply : Supply) :
    fillFrom (n + 1) total name value supply s = fillFrom n total name value supply s := by
  induction n generalizing s supply with
  | zero =>
    obtain rfl := List.length_eq_zero_iff.1 (Nat.le_zero.1 h)
    rfl
  | succ n ih =>
    unfold fillFrom
    split
    · rfl
    · next r =>
      have less : r.length ≤ n := by
        simp only [List.length_cons] at h
        omega
      rw [ih less]
    · next r other =>
      cases hf : fillPlace total name value supply r with
      | error f => rfl
      | ok p =>
        have less := length_lt_of_fillPlace hf
        simp only [bind, Except.bind, ih (less.le.trans (Nat.le_of_succ_le_succ h))]
    · next c r other place => rw [ih (Nat.le_of_succ_le_succ h)]

end StorageKey.Text.Template

/-! ### Paragraphs -/

namespace StorageKey.Text

/-- What chunks leave to do: to take each of them and each of their characters. -/
def fillSize (cs : List (List Char)) : Nat := cs.flatten.length + cs.length

theorem fillSize_append (cs ds : List (List Char)) :
    fillSize (cs ++ ds) = fillSize cs + fillSize ds := by
  simp only [fillSize, List.flatten_append, List.length_append]
  omega

theorem fillSize_cons (c : List Char) (cs : List (List Char)) :
    fillSize (c :: cs) = c.length + 1 + fillSize cs := by
  simp only [fillSize, List.flatten_cons, List.length_append, List.length_cons]
  omega

theorem chunksFrom_succ {n : Nat} {before s : List Char} (h : s.length ≤ n) :
    chunksFrom (n + 1) before s = chunksFrom n before s := by
  induction n generalizing before s with
  | zero =>
    obtain rfl := List.length_eq_zero_iff.1 (Nat.le_zero.1 h)
    rfl
  | succ n ih =>
    unfold chunksFrom
    by_cases hs : s.isEmpty = true
    · rw [if_pos hs, if_pos hs]
    · have less : (s.drop (max 1 (chunkLength before s))).length ≤ n := by
        rw [List.length_drop]
        omega
      rw [if_neg hs, if_neg hs]
      simp only [ih less]

/-- The chunks of a text leave as much to do as it has characters, and once more for each of them. -/
theorem fillSize_chunksFrom_le (n : Nat) (before s : List Char) :
    fillSize (chunksFrom n before s) ≤ 2 * s.length := by
  induction n generalizing before s with
  | zero => exact Nat.zero_le _
  | succ n ih =>
    unfold chunksFrom
    split
    · exact Nat.zero_le _
    · next hs =>
      have some : 0 < s.length := List.length_pos_iff.2 (by simpa using hs)
      have rest := ih ((s.take (max 1 (chunkLength before s))).reverse ++ before)
        (s.drop (max 1 (chunkLength before s)))
      rw [List.length_drop] at rest
      simp only [fillSize_cons, List.length_take]
      omega

theorem fillSize_dropFirstBlank_le (first : Bool) (cs : List (List Char)) :
    fillSize (dropFirstBlank first cs) ≤ fillSize cs := by
  unfold dropFirstBlank
  split
  · next c r =>
    split
    · rw [fillSize_cons]
      omega
    · exact Nat.le_refl _
  · exact Nat.le_refl _

theorem longPart_pos {room : Nat} (h : 0 < room) (c : List Char) : 0 < longPart room c := by
  unfold longPart
  simp only
  split
  · exact Nat.succ_pos _
  · exact h

/-- Filling a line drops no chunk. -/
theorem takeFitting_append (width : Nat) (cs : List (List Char)) :
    (takeFitting width cs).1 ++ (takeFitting width cs).2 = cs := by
  induction cs generalizing width with
  | nil => rfl
  | cons c r ih =>
    simp only [takeFitting]
    split
    · simp [ih]
    · rfl

/-- A chunk that fits in the line is taken. -/
theorem takeFitting_cons_ne_nil {width : Nat} {c : List Char} (h : c.length ≤ width)
    (cs : List (List Char)) : (takeFitting width (c :: cs)).1 ≠ [] := by
  rw [takeFitting, if_pos h]
  nofun

/-- A line takes a chunk, or a part of one. -/
theorem fillSize_takeLine_lt {width : Nat} (hw : 0 < width) {cs : List (List Char)} (h : cs ≠ []) :
    fillSize (takeLine width cs).2 < fillSize cs := by
  have whole := takeFitting_append width cs
  unfold takeLine
  split
  · next line c r ht =>
    rw [ht] at whole
    have size := fillSize_append line (c :: r)
    rw [whole, fillSize_cons] at size
    cases line with
    | nil =>
      have long : c.length > width := by
        by_contra fits
        refine takeFitting_cons_ne_nil (Nat.le_of_not_lt fits) r ?_
        rw [show c :: r = cs from whole, ht]
      have part := longPart_pos hw c
      rw [if_pos long]
      simp only [List.flatten_nil, List.length_nil, Nat.sub_zero, fillSize_cons, List.length_drop]
      omega
    | cons d l =>
      rw [fillSize_cons] at size
      split
      · simp only [fillSize_cons, List.length_drop]
        omega
      · simp only [fillSize_cons]
        omega
  · next line ht =>
    obtain ⟨c, r, rfl⟩ := List.exists_cons_of_ne_nil h
    rw [fillSize_cons]
    exact Nat.lt_of_lt_of_le (Nat.succ_pos _) (Nat.le_add_right _ _)

/-- More steps than the chunks leave to do make no difference. -/
theorem fillFrom_succ {n width : Nat} (hw : 0 < width) {cs : List (List Char)}
    (h : fillSize cs ≤ n) (first : Bool) :
    fillFrom (n + 1) width first cs = fillFrom n width first cs := by
  induction n generalizing first cs with
  | zero =>
    have none : cs = [] := List.length_eq_zero_iff.1 (by unfold fillSize at h; omega)
    rw [none]
    rfl
  | succ n ih =>
    have start := fillSize_dropFirstBlank_le first cs
    unfold fillFrom
    simp only
    by_cases hc : (dropFirstBlank first cs).isEmpty = true
    · rw [if_pos hc, if_pos hc]
    · have some : dropFirstBlank first cs ≠ [] := by simpa using hc
      have less := fillSize_takeLine_lt hw some
      rw [if_neg hc, if_neg hc, ih (by omega), ih (by omega)]

end StorageKey.Text

/-! ### Marks -/

namespace StorageKey.Markup

theorem length_le_of_tagBody? {s body rest : List Char} (h : tagBody? s = some (body, rest)) :
    rest.length ≤ s.length := by
  unfold tagBody? at h
  split at h
  · cases h
  · next c r =>
    split at h
    · cases h
    · simp only at h
      split at h
      · next hd =>
        cases h
        have less := congrArg List.length hd
        simp only [List.length_drop, List.length_cons] at less ⊢
        omega
      · cases h

/-- More steps than there are characters make no difference. -/
theorem piecesFrom_succ {n : Nat} {s : List Char} (h : s.length ≤ n) (place : Nat)
    (pending : List Char) : piecesFrom (n + 1) place pending s = piecesFrom n place pending s := by
  induction n generalizing place pending s with
  | zero =>
    obtain rfl := List.length_eq_zero_iff.1 (Nat.le_zero.1 h)
    rfl
  | succ n ih =>
    unfold piecesFrom
    cases s with
    | nil => rfl
    | cons c r =>
      by_cases hc : c ≠ '\\' ∧ c ≠ '['
      · simp only [if_pos hc, ih (Nat.le_of_succ_le_succ h)]
      · simp only [if_neg hc]
        -- What follows the backslashes is shorter, as there is one of them, or else a bracket.
        cases hd : (c :: r).drop ((c :: r).takeWhile (· = '\\')).length with
        | nil => simp only [ih (show ([] : List Char).length ≤ n from Nat.zero_le n)]
        | cons d t =>
          have size := congrArg List.length hd
          simp only [List.length_drop, List.length_cons] at size h
          by_cases hb : d = '['
          · subst hb
            cases ht : tagBody? t with
            | none => simp only [ht, ih (show t.length ≤ n by omega)]
            | some p =>
              have less := length_le_of_tagBody? ht
              simp only [ht, ih (show p.2.length ≤ n by omega)]
          · have slash : 0 < ((c :: r).takeWhile (· = '\\')).length := by
              by_cases hs : c = '\\'
              · simp [hs]
              · have bracket : c = '[' := by simpa [hs] using hc
                simp only [bracket, List.takeWhile_cons] at hd
                exact absurd (List.cons.inj hd).1.symm hb
            have less : (d :: t).length ≤ n := by
              rw [List.length_cons]
              omega
            simp [hb, ih less]

end StorageKey.Markup
