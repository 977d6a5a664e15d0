import StorageKey.Proofs.Yaml.Unwritable
import StorageKey.State

/-!
# What logging does

The events that the program logs are plain words, so that the tags of their first lines fit. An
entry cannot be shown only if its data cannot be written; everything else is printed, and nothing but
the standard error output changes.

* `Showable`: the first line of an event can be shown;
* `Logging.canPrint`: an entry can be printed, which depends on the data that are shown of it;
* `exists_entryText_of_canPrint`: such an entry has a text;
* `Act.log_apply`: logging data that can be written prints that text.
-/

namespace StorageKey

open Decimal Markup Yaml

/-! ### Data that can be written -/

namespace Yaml

/-- How many data may stand within one another in an entry of a document. -/
def entryDepth : Nat := usualDepth - 1

/-- Whether data can be written as an entry of a document. -/
def isWritable (d : Datum) : Bool := (writeFault? entryDepth d).isNone

/-- Whether entries of a document can be written. -/
def isWritableEntries (es : List (String × Datum)) : Bool := (entriesFault? entryDepth es).isNone

@[simp] theorem isWritable_text (s : String) : isWritable (.text s) = true := rfl

@[simp] theorem isWritableEntries_nil : isWritableEntries [] = true := rfl

@[simp] theorem isWritableEntries_cons (e : String × Datum) (es : List (String × Datum)) :
    isWritableEntries (e :: es) = (isWritable e.2 && isWritableEntries es) := by
  rw [isWritableEntries, entriesFault?, isWritable, isWritableEntries]
  cases writeFault? entryDepth e.2 <;> rfl

theorem isWritableEntries_iff {es : List (String × Datum)} :
    isWritableEntries es = true ↔ ∀ e ∈ es, isWritable e.2 = true := by
  induction es with
  | nil => simp
  | cons e es ih => simp [ih]

theorem isWritable_int (i : Int) : isWritable (.int i) = (writeInt i).isOk := by
  rw [isWritable, show entryDepth = entryDepth - 1 + 1 from rfl, writeFault?_int]
  cases writeInt i <;> rfl

theorem isWritable_texts (ts : List String) : isWritable (.list (ts.map .text)) = true := by
  have items : listFault? (entryDepth - 1) (ts.map .text) = none :=
    listFault?_eq_none_iff.2 fun d hd => by
      obtain ⟨t, -, rfl⟩ := List.mem_map.1 hd
      rfl
  exact Option.isNone_iff_eq_none.2 items

/-- Entries can be written as a document just if each of them can. -/
theorem writeFault?_sorted_entries {es : List (String × Datum)} :
    writeFault? usualDepth (sorted (.map es)) = none ↔ isWritableEntries es = true := by
  rw [writeFault?_sorted_eq_none_iff, ← writeFault?_eq_none_iff]
  exact Option.isNone_iff_eq_none.symm

end Yaml

namespace Context

/-- Whether all data have a property. -/
def All (p : Datum → Prop) (c : Context) : Prop := ∀ e ∈ c, p e.2

/-- Whether all data can be written. -/
abbrev Writable (c : Context) : Prop := c.All fun d => isWritable d = true

section

variable {p : Datum → Prop} {c : Context}

theorem all_nil : All p [] := nofun

theorem All.cons (h : c.All p) (name : String) {d : Datum} (hd : p d) : All p ((name, d) :: c) :=
  List.forall_mem_cons.2 ⟨hd, h⟩

theorem All.erase (h : c.All p) (name : String) : (c.erase name).All p :=
  fun e he => h e (List.mem_filter.1 he).1

theorem All.foldl_erase (h : c.All p) (names : List String) :
    (names.foldl Context.erase c).All p := by
  induction names generalizing c with
  | nil => exact h
  | cons name names ih => exact ih (h.erase name)

theorem All.put (h : c.All p) (name : String) {d : Datum} (hd : p d) : (c.put name d).All p := by
  intro e he
  unfold Context.put at he
  split at he
  · obtain ⟨f, hf, rfl⟩ := List.mem_map.1 he
    split
    · exact hd
    · exact h f hf
  · rcases List.mem_append.1 he with he | he
    · exact h e he
    · rw [List.mem_singleton.1 he]
      exact hd

theorem All.quiet (h : c.All p) : c.quiet.All p := fun e he => h e (List.mem_filter.1 he).1

theorem All.verbose (h : c.All p) : c.verbose.All p := by
  have fold (d : Context) (hd : d.All p) :
      (c.foldl (fun c e => c.put (bareName e.1) e.2) d).All p := by
    induction c generalizing d with
    | nil => exact hd
    | cons e c ih =>
      obtain ⟨he, hc⟩ := List.forall_mem_cons.1 h
      exact ih hc _ (hd.put _ he)
  exact fold [] all_nil

end

theorem writable_nil : Writable [] := all_nil

theorem Writable.exists_indentedLines {c : Context} (h : c.Writable) (indent : Int) :
    ∃ ls, c.indentedLines indent = .ok ls := by
  unfold Context.indentedLines indentedLinesWithin
  split
  · exact ⟨_, rfl⟩
  · rw [writeDocument, writeFault?_sorted_entries.2 (isWritableEntries_iff.2 h)]
    exact ⟨_, rfl⟩

end Context

/-! ### Entries -/

/-- Whether the first line of an event of a level can be shown. -/
def Showable (level : Level) (event : String) : Bool :=
  match (Entry.mk level.name (.text event) []).headline with
  | .ok s => (Marked.ofText s).toOption.isSome
  | .error _ => false

theorem exists_headline {level : Level} {event : String} (h : Showable level event = true)
    (c : Context) : ∃ s m, (Entry.mk level.name (.text event) c).headline = .ok s ∧
      Marked.ofText s = .ok m := by
  unfold Showable at h
  split at h
  · next s hs =>
    cases hm : Marked.ofText s with
    | ok m => exact ⟨s, m, hs, hm⟩
    | error e =>
      rw [hm] at h
      cases h
  · cases h

/-- The entry of an event has the event, and the data without what is never shown. -/
theorem ofEvent_text (level : Level) (event : String) (c : Context) :
    Entry.ofEvent level (.text event) c = ⟨level.name, .text event,
      Entry.hiddenNames.foldl Context.erase ((c.put "event" (.text event)).erase "event")⟩ := by
  simp [Entry.ofEvent, Entry.ofContext]

/-- An entry is printed if the lines of its data and its first line can be. -/
theorem exists_textWith {e : Entry} {verbose : Bool} {ls s : List Char} {m : Marked}
    (hl : e.detailLines verbose = .ok ls) (hs : e.headline = .ok s) (hm : Marked.ofText s = .ok m)
    (lines : Marked → List Char) : ∃ text, e.textWith lines verbose = .ok text := by
  refine ⟨lines m ++ ls, ?_⟩
  rw [Entry.textWith, hl, hs]
  show (Marked.ofText s).mapError LogFault.marks >>= _ = _
  rw [hm]
  rfl

/-- The data of an entry that are shown. -/
def Logging.shown (l : Logging) (level : Level) (event : String) (c : Context) : Context :=
  let details := (Entry.ofEvent level (.text event) c).details
  if l.isVerbose then details.verbose else details.quiet

/-- Whether an entry can be printed: it is not shown at all, or the data that are shown of it can be
written. -/
def Logging.canPrint (l : Logging) (level : Level) (event : String) (c : Context) : Bool :=
  !l.shows level || isWritableEntries (l.shown level event c)

/-- What all data of an entry have, the data that are shown of it have. -/
theorem all_shown {p : Datum → Prop} {c : Context} (h : c.All p) {event : String} (he : p (.text event))
    (l : Logging) (level : Level) : (l.shown level event c).All p := by
  have details : (Entry.ofEvent level (.text event) c).details.All p := by
    rw [ofEvent_text]
    exact ((h.put "event" he).erase "event").foldl_erase Entry.hiddenNames
  unfold Logging.shown
  split
  · exact details.verbose
  · exact details.quiet

theorem canPrint_of_writable {c : Context} (h : c.Writable) (l : Logging) (level : Level)
    (event : String) : l.canPrint level event c = true := by
  have shown : (l.shown level event c).Writable := all_shown h rfl l level
  rw [Logging.canPrint, isWritableEntries_iff.2 shown, Bool.or_true]

/-- An entry that can be printed has a text. -/
theorem exists_entryText_of_canPrint {level : Level} {event : String}
    (h : Showable level event = true) {c : Context} {l : Logging}
    (hc : l.canPrint level event c = true) :
    ∃ text, l.entryText level (.text event) c = .ok text := by
  unfold Logging.entryText
  split
  · next hs =>
    rw [Logging.canPrint, hs, Bool.not_true, Bool.false_or, isWritableEntries_iff] at hc
    rw [Logging.shown, ofEvent_text] at hc
    rw [ofEvent_text]
    generalize Entry.hiddenNames.foldl Context.erase _ = d at hc ⊢
    obtain ⟨s, m, hs, hm⟩ := exists_headline h d
    obtain ⟨ls, hl⟩ := Context.Writable.exists_indentedLines hc Entry.detailIndent
    have lines : (Entry.mk level.name (.text event) d).detailLines l.isVerbose =
        .ok (ls.flatMap fun l => l.take terminalWidth ++ ['\n']) := by
      rw [Entry.detailLines, hl]
      rfl
    exact exists_textWith lines hs hm plainLines
  · exact ⟨_, rfl⟩

/-- Data that are not nested too deeply to be an entry of a document. -/
abbrev Context.Shallow (c : Context) : Prop := c.All fun d => ¬d.Nested entryDepth

/-- An entry that cannot be printed has an integer that is too long, if its data are shallow. -/
theorem entryText_of_not_canPrint {level : Level} {event : String} {c : Context} {l : Logging}
    (hd : c.Shallow) (hc : l.canPrint level event c = false) :
    l.entryText level (.text event) c = .error (.integer .tooLarge) := by
  rw [Logging.canPrint, Bool.or_eq_false_iff, Bool.not_eq_false'] at hc
  obtain ⟨hs, hw⟩ := hc
  have shallow : (l.shown level event c).Shallow := all_shown hd (fun ⟨_, h⟩ => nomatch h) l level
  have lines : (l.shown level event c).indentedLines Entry.detailIndent = .error .tooLarge := by
    have some : (l.shown level event c).isEmpty = false := by
      cases he : l.shown level event c with
      | nil =>
        rw [he] at hw
        cases hw
      | cons e es => rfl
    have fault : writeFault? usualDepth (sorted (.map (l.shown level event c))) = .some .tooLarge := by
      cases hf : writeFault? usualDepth (sorted (.map (l.shown level event c))) with
      | none => exact absurd (writeFault?_sorted_entries.1 hf) (Bool.eq_false_iff.1 hw)
      | some f =>
        cases unwritable_of_writeFault?_sorted hf with
        | tooLarge _ => rfl
        | tooDeep deep =>
          obtain ⟨e, he, hx⟩ := nested_succ_iff.1 deep
          exact absurd hx (shallow e he)
    rw [Context.indentedLines, Context.indentedLinesWithin, some, writeDocument, fault]
    rfl
  rw [Logging.entryText, if_pos hs, Entry.plainText, Entry.textWith, Entry.detailLines]
  rw [Logging.shown] at lines
  rw [lines]
  rfl

/-- What is printed for an event with data that can be shown. -/
def Logging.printed (l : Logging) (level : Level) (event : String) (c : Context) : String :=
  match l.entryText level (.text event) c with
  | .ok text => String.ofList text
  | .error _ => ""

namespace Act

theorem log_eq (level : Level) (event : String) (c : Context) (s : State) :
    log level event c s = (ofExcept .log (s.logging.entryText level (.text event) c) >>=
      fun text => printError (String.ofList text)) s := rfl

theorem log_of_ok {level : Level} {event : String} {c : Context} {text : List Char} {s : State}
    (h : s.logging.entryText level (.text event) c = .ok text) :
    log level event c s = .ok () { s with err := s.err ++ String.ofList text } := by
  rw [log_eq, h]
  exact bind_of_ok rfl

/-- An event below the threshold is not printed, whatever its data are. -/
theorem log_of_not_shows {level : Level} {s : State} (h : s.logging.shows level = false)
    (event : String) (c : Context) : log level event c s = .ok () s := by
  have text : s.logging.entryText level (.text event) c = .ok [] := by
    rw [Logging.entryText, h]
    rfl
  rw [log_of_ok text, String.ofList_nil, String.append_empty]

/-- Logging an event that cannot be shown fails, and prints nothing. -/
theorem log_of_error {level : Level} {event : String} {c : Context} {f : LogFault} {s : State}
    (h : s.logging.entryText level (.text event) c = .error f) :
    log level event c s = .error (.log f) s := by
  rw [log_eq, h]
  exact bind_of_error rfl

/-- Logging an entry that can be printed prints a text, and does nothing else. -/
theorem log_of_canPrint {level : Level} {event : String} (h : Showable level event = true)
    {c : Context} {s : State} (hc : s.logging.canPrint level event c = true) :
    log level event c s = .ok () { s with err := s.err ++ s.logging.printed level event c } := by
  obtain ⟨text, ht⟩ := exists_entryText_of_canPrint h hc
  rw [log_of_ok ht, Logging.printed, ht]

theorem log_of_not_canPrint {level : Level} {event : String} {c : Context} {s : State}
    (hd : c.Shallow) (hc : s.logging.canPrint level event c = false) :
    log level event c s = .error (.log (.integer .tooLarge)) s :=
  log_of_error (entryText_of_not_canPrint hd hc)

/-- Logging data that can be written prints a text, and does nothing else. -/
theorem log_apply {level : Level} {event : String} (h : Showable level event = true) {c : Context}
    (hc : c.Writable) (s : State) : log level event c s =
      .ok () { s with err := s.err ++ s.logging.printed level event c } :=
  log_of_canPrint h (canPrint_of_writable hc s.logging level event)

end Act

end StorageKey
