import StorageKey.Proofs.Decimal.Digits
import StorageKey.Yaml.Writer

/-!
# The characters of a written document

Whatever the data are, their document is made of printable characters of ASCII and of line feeds,
and it ends with a line feed: every other character of a key or of a text stands as an escape in
double quotes. So the lines of a document are where its writer has ended them.

* `Legible`, `Page.Legible`: texts and pages of such characters;
* `Page.Settled`: legible pages on whose line more stands than indentation;
* `settled_writeDatum`: data leave such a page;
* `exists_documentText`: the characters of a document, and its end.
-/

namespace StorageKey.Yaml

open Decimal

/-- Whether a text is made of printable characters of ASCII and of line feeds. -/
def Legible (s : List Char) : Prop := ∀ c ∈ s, c = '\n' ∨ isPrintableAscii c = true

variable {s r : List Char} {c : Char} {p : Page} {d : Datum}

@[simp] theorem legible_nil : Legible [] := fun _ h => nomatch h

@[simp] theorem legible_cons :
    Legible (c :: s) ↔ (c = '\n' ∨ isPrintableAscii c = true) ∧ Legible s :=
  List.forall_mem_cons

@[simp] theorem legible_append : Legible (s ++ r) ↔ Legible s ∧ Legible r := by
  simp only [Legible, List.mem_append, or_imp, forall_and]

@[simp] theorem legible_reverse : Legible s.reverse ↔ Legible s := by
  simp only [Legible, List.mem_reverse]

theorem legible_replicate (n : Nat) (h : isPrintableAscii c = true) :
    Legible (List.replicate n c) := by
  intro d hd
  rw [List.eq_of_mem_replicate hd]
  exact .inr h

theorem legible_of_not_hasSpecial (h : hasSpecial s = false) : Legible s := by
  intro c hc
  have := List.any_eq_false.1 h c hc
  rwa [Bool.not_eq_true, Bool.not_eq_false', Bool.or_eq_true, decide_eq_true_eq] at this

/-! ### Pages -/

/-- Whether what stands on a page is legible. -/
def Page.Legible (p : Page) : Prop := Yaml.Legible p.reversed

/-- A legible page on whose line more stands than indentation. -/
structure Page.Settled (p : Page) : Prop where
  legible : p.Legible
  indentation : p.indentation = false

namespace Page

theorem legible_empty : empty.Legible := legible_nil

theorem Legible.put (hp : p.Legible) (hs : Yaml.Legible s) : (p.put s).Legible :=
  legible_append.2 ⟨legible_reverse.2 hs, hp⟩

theorem Legible.newLine (hp : p.Legible) : p.newLine.Legible :=
  legible_cons.2 ⟨.inl rfl, hp⟩

theorem Legible.settled (hp : p.Legible) : p.settled.Legible := hp

theorem Legible.indentTo (hp : p.Legible) (indent : Nat) : (p.indentTo indent).Legible := by
  have moved {q : Page} (hq : q.Legible) :
      (if q.column < indent then
        { q.put (List.replicate (indent - q.column) ' ') with blank := true } else q).Legible := by
    split
    · exact hq.put (legible_replicate _ (by decide))
    · exact hq
  unfold Page.indentTo
  split
  · exact moved hp.newLine
  · exact moved hp

theorem Legible.separate (hp : p.Legible) : p.separate.Legible := by
  unfold Page.separate
  split
  · exact hp
  · exact hp.put (by simp [isPrintableAscii])

theorem Legible.mark (hp : p.Legible) (hc : isPrintableAscii c = true) (apart opening indents : Bool) :
    (p.mark c apart opening indents).Legible := by
  have start : (if apart then p.separate else p).Legible := by
    split
    · exact hp.separate
    · exact hp
  exact start.put (legible_cons.2 ⟨.inr hc, legible_nil⟩)

/-- A mark that is no indentation settles the page. -/
theorem Legible.settled_mark (hp : p.Legible) (hc : isPrintableAscii c = true)
    (apart opening : Bool) : (p.mark c apart opening false).Settled :=
  ⟨hp.mark hc apart opening false, Bool.and_false _⟩

end Page

/-! ### Texts -/

/-- The runs of a text are all of it. -/
theorem flatten_consRun (c : Char) (ws : List (List Char)) :
    (consRun c ws).flatten = c :: ws.flatten := by
  unfold consRun
  split
  · split <;> rfl
  · rfl

theorem flatten_runs (s : List Char) : (runs s).flatten = s := by
  induction s with
  | nil => rfl
  | cons c s ih => rw [runs, flatten_consRun, ih]

theorem legible_of_mem_runs (hs : Legible s) (hr : r ∈ runs s) : Legible r := by
  intro c hc
  refine hs c ?_
  rw [← flatten_runs s]
  exact List.mem_flatten.2 ⟨r, hr, hc⟩

theorem settled_writePlain (split : Bool) (indent : Nat) (hs : Legible s) (hp : p.Legible) :
    (writePlain split indent s p).Settled := by
  -- What is kept along the runs, whichever of them are still to be written.
  have fold (rs : List (List Char)) (hr : ∀ r ∈ rs, Legible r) {q : Page} (hq : q.Settled) :
      (rs.foldl (fun p run =>
        if split && run = [' '] && p.column > pageWidth then (p.indentTo indent).settled
        else p.put run) q).Settled := by
    induction rs generalizing q with
    | nil => exact hq
    | cons r rs ih =>
      rw [List.forall_mem_cons] at hr
      rw [List.foldl_cons]
      refine ih hr.2 ?_
      split
      · exact ⟨(hq.legible.indentTo indent).settled, rfl⟩
      · exact ⟨hq.legible.put hr.1, hq.indentation⟩
  exact fold (runs s) (fun r hr => legible_of_mem_runs hs hr) ⟨hp.separate.settled, rfl⟩

theorem legible_doubleQuotes (hs : Legible s) : Legible (doubleQuotes s) := by
  intro c hc
  obtain ⟨d, hd, hc⟩ := List.mem_flatMap.1 hc
  split at hc
  · next hq =>
    have : c = '\'' := by simpa using hc
    exact .inr (this ▸ by decide)
  · rw [List.mem_singleton.1 hc]
    exact hs d hd

theorem legible_writeBreaks (indent n : Nat) (hp : p.Legible) :
    (writeBreaks indent n p).Legible := by
  have fold (ns : List Nat) {q : Page} (hq : q.Legible) :
      (ns.foldl (fun p _ => p.newLine) q).Legible := by
    induction ns generalizing q with
    | nil => exact hq
    | cons n ns ih => exact ih hq.newLine
  exact (fold _ hp).indentTo indent

theorem legible_writeSingleRuns (split : Bool) (indent : Nat) (first : Bool)
    {rs : List (List Char)} (hr : ∀ r ∈ rs, Legible r) (hp : p.Legible) :
    (writeSingleRuns split indent first rs p).Legible := by
  induction rs generalizing first p with
  | nil => exact hp
  | cons run rs ih =>
    rw [List.forall_mem_cons] at hr
    rw [writeSingleRuns]
    refine ih false hr.2 ?_
    split
    · split
      · exact hp.indentTo indent
      · exact hp.put hr.1
    · exact legible_writeBreaks indent _ hp
    · exact hp.put (legible_doubleQuotes hr.1)

theorem settled_writeSingle (split : Bool) (indent : Nat) (hs : Legible s) (hp : p.Legible) :
    (writeSingle split indent s p).Settled := by
  have opened : (p.mark '\'' true false false).Legible := hp.mark (by decide) _ _ _
  have written := legible_writeSingleRuns split indent true
    (fun r hr => legible_of_mem_runs hs hr) opened
  exact written.settled_mark (by decide) _ _

/-! ### Escapes -/

theorem legible_upperHex (width n : Nat) : Legible (upperHex width n) := by
  refine legible_append.2 ⟨legible_replicate _ (by decide), fun c hc => .inr ?_⟩
  obtain ⟨e, he, rfl⟩ := List.mem_map.1 hc
  obtain ⟨d, hd, rfl⟩ := exists_of_mem_toDigits (by decide) he
  exact (by decide : ∀ d < 16, isPrintableAscii d.digitChar.toUpper = true) d hd

theorem isPrintableAscii_of_escapeLetterOf? (c : Char) :
    ∀ l, escapeLetterOf? c = some l → isPrintableAscii l = true := by
  have step {q : Prop} [Decidable q] {l : Char} {o : Option Char} (hl : isPrintableAscii l = true)
      (ho : ∀ l, o = some l → isPrintableAscii l = true) :
      ∀ m, (if q then some l else o) = some m → isPrintableAscii m = true := by
    intro m h
    split at h
    · exact Option.some.inj h ▸ hl
    · exact ho m h
  simp only [escapeLetterOf?]
  repeat refine step (by decide) ?_
  exact nofun

/-- Whatever a character is, its escape is legible. -/
theorem legible_escapeOf (c : Char) : Legible (escapeOf c) := by
  have backslash : isPrintableAscii '\\' = true := by decide
  unfold escapeOf
  split
  · next l hl =>
    exact legible_cons.2 ⟨.inr backslash,
      legible_cons.2 ⟨.inr (isPrintableAscii_of_escapeLetterOf? c l hl), legible_nil⟩⟩
  · have letter {l : Char} (hl : isPrintableAscii l = true) (width : Nat) :
        Legible ('\\' :: l :: upperHex width c.toNat) :=
      legible_cons.2 ⟨.inr backslash, legible_cons.2 ⟨.inr hl, legible_upperHex _ _⟩⟩
    dsimp only
    split
    · exact letter (by decide) 2
    · split
      · exact letter (by decide) 4
      · exact letter (by decide) 8

theorem legible_foldDouble (indent : Nat) (spaceNext : Bool) (hp : p.Legible) :
    (foldDouble indent spaceNext p).Legible := by
  have backslash : Legible ['\\'] := by simp [isPrintableAscii]
  have folded := ((hp.put backslash).indentTo indent).settled
  unfold foldDouble
  dsimp only
  split
  · exact folded.put backslash
  · exact folded

/-- Any text can be written in double quotes. -/
theorem legible_writeDoubleRest (split : Bool) (indent : Nat) (first afterEscape : Bool)
    (s : List Char) (hp : p.Legible) :
    (writeDoubleRest split indent first afterEscape s p).Legible := by
  induction s generalizing first afterEscape p with
  | nil => exact hp
  | cons c s ih =>
    rw [writeDoubleRest]
    dsimp only
    split
    · refine ih false true ?_
      have written := hp.put (legible_escapeOf c)
      split
      · exact legible_foldDouble indent _ written
      · exact written
    · next he =>
      have single : Legible [c] := by
        simp only [isEscaped, Bool.or_eq_true, Bool.not_eq_true', not_or] at he
        exact legible_cons.2 ⟨.inr (by simpa using he.2), legible_nil⟩
      refine ih false false (Page.Legible.put ?_ single)
      split
      · exact legible_foldDouble indent _ hp
      · exact hp

theorem settled_writeDouble (split : Bool) (indent : Nat) (s : List Char) (hp : p.Legible) :
    (writeDouble split indent s p).Settled := by
  have opened : (p.mark '"' true false false).Legible := hp.mark (by decide) _ _ _
  exact (legible_writeDoubleRest split indent true true s opened).settled_mark (by decide) _ _

/-- A text that is not written in double quotes is legible. -/
theorem legible_of_styleOf {suggestive key : Bool} (h : styleOf suggestive key s ≠ .double) :
    Legible s := by
  refine legible_of_not_hasSpecial ?_
  unfold styleOf at h
  split at h
  · next ha =>
    simp only [allowsPlain, Bool.and_eq_true, Bool.not_eq_true'] at ha
    exact ha.2.1.1.1
  · split at h
    · next he =>
      rw [List.isEmpty_iff.1 he]
      rfl
    · split at h
      · next ha =>
        simp only [allowsSingle, Bool.and_eq_true, Bool.not_eq_true'] at ha
        exact ha.1.1.1
      · exact absurd rfl h

theorem settled_writeText (key : Bool) (indent : Nat) (s : List Char) (hp : p.Legible) :
    (writeText key indent s p).Settled := by
  unfold writeText
  split
  · next hs => exact settled_writePlain _ indent (legible_of_styleOf (by rw [hs]; decide)) hp
  · next hs => exact settled_writeSingle _ indent (legible_of_styleOf (by rw [hs]; decide)) hp
  · exact settled_writeDouble _ indent s hp

/-! ### Other scalars -/

theorem legible_toDigits (n : Nat) : Legible (Nat.toDigits 10 n) := by
  intro c hc
  obtain ⟨d, hd, rfl⟩ := exists_of_mem_toDigits (by decide) hc
  exact .inr ((by decide : ∀ d < 10, isPrintableAscii d.digitChar = true) d hd)

theorem legible_intText (i : Int) : Legible (intText i) := by
  have minus : isPrintableAscii '-' = true := by decide
  unfold intText
  split
  · exact legible_cons.2 ⟨.inr minus, legible_toDigits _⟩
  · exact legible_toDigits _

theorem legible_exponentText (x : Int) : Legible (exponentText x) := by
  have sign : isPrintableAscii (if x < 0 then '-' else '+') = true := by
    split <;> decide
  refine legible_cons.2 ⟨.inr sign, ?_⟩
  split
  · exact legible_cons.2 ⟨.inr (by decide), legible_toDigits _⟩
  · exact legible_toDigits _

/-- A number in positional form, or with an exponent, is legible if its digits are. -/
theorem legible_place {l : Layout} (hl : Legible l.loneDigit.toList) {ds : List Char}
    (hd : Legible ds) (point : Int) : Legible (l.place ds point) := by
  have zero : isPrintableAscii '0' = true := by decide
  have dot : isPrintableAscii '.' = true := by decide
  have e : isPrintableAscii 'e' = true := by decide
  unfold Layout.place
  split
  · split
    · simp [hd, zero, dot, legible_replicate _ zero]
    · dsimp only
      split
      · simp [hd, zero, dot, legible_replicate _ zero]
      · simp only [legible_append, legible_cons, dot, or_true, true_and]
        exact ⟨fun c hc => hd c (List.mem_of_mem_take hc), fun c hc => hd c (List.mem_of_mem_drop hc)⟩
  · split
    · exact legible_nil
    · rw [legible_cons] at hd
      simp [hd.1, hl, e, legible_exponentText]
    · rw [legible_cons] at hd
      simp [hd.1, hd.2, dot, e, legible_exponentText]

theorem legible_text_real (x : Binary64) : Legible (documentLayout.text x).toList := by
  have minus : isPrintableAscii '-' = true := by decide
  unfold Layout.text
  split
  · simp [documentLayout, isPrintableAscii]
  · split <;> simp [documentLayout, isPrintableAscii]
  · next negative m e =>
    have sign : Legible (if negative then ['-'] else []) := by
      split <;> simp [minus]
    dsimp only
    split
    · simp only [String.toList_ofList, legible_append]
      exact ⟨sign, by simp [isPrintableAscii]⟩
    · simp only [String.toList_ofList, legible_append]
      exact ⟨sign, legible_place (by simp [documentLayout, isPrintableAscii]) (legible_toDigits _) _⟩

theorem legible_scalarLook (d : Datum) : Legible (scalarLook d) := by
  cases d with
  | bool b => cases b <;> simp [scalarLook, isPrintableAscii]
  | int i => exact legible_intText i
  | real x => exact legible_text_real x
  | _ => simp [scalarLook, isPrintableAscii]

/-! ### Collections -/

theorem legible_writeKey (indent : Nat) (k : String) (hp : p.Legible) :
    (writeKey indent k p).Legible := by
  have there := hp.indentTo indent
  unfold writeKey
  dsimp only
  split
  · exact (settled_writeText true _ _ there).legible.mark (by decide) _ _ _
  · have marked : ((p.indentTo indent).mark '?' true false true).Legible :=
      there.mark (by decide) _ _ _
    exact ((settled_writeText false _ _ marked).legible.indentTo indent).mark (by decide) _ _ _

mutual

/-- Data leave a settled page, whatever texts and keys they hold. -/
theorem settled_writeDatum (indent : Nat) (afterKey : Bool) :
    ∀ (d : Datum) {p : Page}, p.Legible → (writeDatum indent afterKey d p).Settled
  | .null, _, hp | .bool _, _, hp | .int _, _, hp | .real _, _, hp =>
    settled_writePlain true _ (legible_scalarLook _) hp
  | .text s, _, hp => settled_writeText false _ _ hp
  | .list [], _, hp => (hp.mark (by decide) true true false).settled_mark (by decide) _ _
  | .list (d :: ds), _, hp =>
    settled_writeItems _ ds
      (settled_writeDatum _ false d ((hp.indentTo _).mark (by decide) true false true))
  | .map [], _, hp => (hp.mark (by decide) true true false).settled_mark (by decide) _ _
  | .map ((k, d) :: es), _, hp =>
    settled_writeEntries _ es (settled_writeDatum _ true d (legible_writeKey _ k hp))

theorem settled_writeItems (indent : Nat) :
    ∀ (ds : List Datum) {p : Page}, p.Settled → (writeItems indent ds p).Settled
  | [], _, hp => hp
  | d :: ds, _, hp =>
    settled_writeItems indent ds
      (settled_writeDatum _ false d ((hp.legible.indentTo _).mark (by decide) true false true))

theorem settled_writeEntries (indent : Nat) :
    ∀ (es : List (String × Datum)) {p : Page}, p.Settled → (writeEntries indent es p).Settled
  | [], _, hp => hp
  | (k, d) :: es, _, hp =>
    settled_writeEntries indent es (settled_writeDatum _ true d (legible_writeKey _ k hp.legible))

end

/-! ### Documents -/

/-- Going to the start of a line ends the one on which something stands. -/
theorem Page.Settled.indentTo_zero (hp : p.Settled) : p.indentTo 0 = p.newLine := by
  rw [Page.indentTo, hp.indentation]
  rfl

theorem sortEntries_ne_nil {es : List (String × Datum)} (h : es ≠ []) : sortEntries es ≠ [] := by
  obtain ⟨e, es, rfl⟩ := List.exists_cons_of_ne_nil h
  rw [sortEntries, List.foldr_cons]
  cases es.foldr insertEntry [] with
  | nil => simp [insertEntry]
  | cons f fs =>
    rw [insertEntry]
    split <;> simp

/-- A document is legible and ends with a line feed. -/
theorem exists_documentText {es : List (String × Datum)} (h : es ≠ []) :
    ∃ s, Legible s ∧ documentText es = s ++ ['\n'] := by
  have some : sortedEntries es ≠ [] := by
    obtain ⟨e, es, rfl⟩ := List.exists_cons_of_ne_nil h
    simp [sortedEntries]
  obtain ⟨⟨k, d⟩, fs, hf⟩ := List.exists_cons_of_ne_nil (sortEntries_ne_nil some)
  have written : (writeEntries 0 (sortEntries (sortedEntries es)) Page.empty).Settled := by
    rw [hf, writeEntries]
    exact settled_writeEntries 0 fs
      (settled_writeDatum 0 true d (legible_writeKey 0 k Page.legible_empty))
  refine ⟨_, legible_reverse.2 written.legible, ?_⟩
  rw [documentText, written.indentTo_zero]
  exact List.reverse_cons

end StorageKey.Yaml
