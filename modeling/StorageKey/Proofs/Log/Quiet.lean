import StorageKey.Log.Logger
import StorageKey.Proofs.Session.Attempts

/-!
# What quiet output does not show

While output is quiet, data with a prefix for verbose output leave no trace, whatever logger they are
bound to or given to. Nor do calls below warnings, unless the logger was bound while output was
verbose: it still lets them through.

* `Context.SameUnprefixed`: contexts that differ in entries with a prefix only;
* `LoggerCall.SameUnprefixed.text_eq`, `LoggerCall.text_of_isMinor`: single calls;
* `SameShown`: sequences of steps that differ in what is not shown;
* `LoggerState.Alike`: what such sequences keep;
* `performAll_of_sameShown`: such sequences print the same and end with the same fault.
-/

namespace StorageKey

/-! ### Data without prefixed entries -/

/-- Whether a name has one of the prefixes for verbose output. -/
def HasVerbosePrefix (name : String) : Prop := ∃ x ∈ verbosePrefixes, x.toList <+: name.toList

theorem isVerboseName_iff {name : String} : isVerboseName name = true ↔ HasVerbosePrefix name := by
  simp [isVerboseName, HasVerbosePrefix, Text.isStart]

namespace Context

/-- Contexts that are the same but for entries with a prefix, which either of them may hold in any
place. -/
inductive SameUnprefixed : Context → Context → Prop
  | nil : SameUnprefixed [] []
  | keep (name : String) (d : Datum) {b c : Context} (h : SameUnprefixed b c) :
      SameUnprefixed ((name, d) :: b) ((name, d) :: c)
  | left {name : String} (hn : HasVerbosePrefix name) (d : Datum) {b c : Context}
      (h : SameUnprefixed b c) : SameUnprefixed ((name, d) :: b) c
  | right {name : String} (hn : HasVerbosePrefix name) (d : Datum) {b c : Context}
      (h : SameUnprefixed b c) : SameUnprefixed b ((name, d) :: c)

theorem quiet_cons_of_prefixed {name : String} (h : HasVerbosePrefix name) (d : Datum) (c : Context) :
    quiet ((name, d) :: c) = c.quiet := by
  simp [quiet, isVerboseName_iff.2 h]

theorem quiet_cons_of_plain {name : String} (h : isVerboseName name = false) (d : Datum)
    (c : Context) : quiet ((name, d) :: c) = (name, d) :: c.quiet := by
  simp [quiet, h]

theorem SameUnprefixed.quiet_eq {b c : Context} (h : SameUnprefixed b c) : b.quiet = c.quiet := by
  induction h with
  | nil => rfl
  | keep name d h ih =>
    unfold quiet at ih ⊢
    rw [List.filter_cons, List.filter_cons, ih]
  | left hn d h ih => rw [quiet_cons_of_prefixed hn, ih]
  | right hn d h ih => rw [quiet_cons_of_prefixed hn, ih]

theorem any_quiet {name : String} (hn : isVerboseName name = false) (c : Context) :
    c.quiet.any (·.1 = name) = c.any (·.1 = name) := by
  rw [quiet, List.any_filter]
  congr 1
  funext e
  by_cases he : e.1 = name
  · simp [he, hn]
  · simp [he]

/-- A new value leaves the names of the entries as they are. -/
theorem fst_replaced (name : String) (d : Datum) (e : String × Datum) :
    (if e.1 = name then (name, d) else e).1 = e.1 := by
  split
  · next he => exact he.symm
  · rfl

/-- What is put under a name without a prefix is shown. -/
theorem quiet_put {name : String} (hn : isVerboseName name = false) (c : Context) (d : Datum) :
    (c.put name d).quiet = c.quiet.put name d := by
  unfold put
  rw [any_quiet hn]
  split
  · simp only [quiet, List.filter_map, Function.comp_def, fst_replaced]
  · simp [quiet, hn]

/-- What is put under a name with a prefix is not shown. -/
theorem quiet_put_of_prefixed {name : String} (hn : isVerboseName name = true) (c : Context)
    (d : Datum) : (c.put name d).quiet = c.quiet := by
  unfold put
  split
  · simp only [quiet, List.filter_map, Function.comp_def, fst_replaced]
    -- None of the entries that are shown has the name, so none of them gets the new value.
    refine (List.map_congr_left fun e he => ?_).trans (List.map_id' _)
    have kept := (List.mem_filter.1 he).2
    refine if_neg fun hen => ?_
    rw [hen, hn] at kept
    cases kept
  · simp [quiet, hn]

/-- What is shown after entries have replaced or followed others. -/
theorem quiet_update (b c : Context) : (b.update c).quiet = b.quiet.update c.quiet := by
  induction c generalizing b with
  | nil => rfl
  | cons e c ih =>
    have step (b : Context) : b.update (e :: c) = (b.put e.1 e.2).update c := rfl
    rw [step, ih]
    cases hn : isVerboseName e.1 with
    | true => rw [quiet_put_of_prefixed hn, quiet_cons_of_prefixed (isVerboseName_iff.1 hn)]
    | false =>
      rw [quiet_put hn, quiet_cons_of_plain hn]
      rfl

theorem quiet_erase (c : Context) (name : String) : (c.erase name).quiet = c.quiet.erase name := by
  simp only [quiet, erase, List.filter_filter, Bool.and_comm]

theorem get?_quiet {name : String} (hn : isVerboseName name = false) (c : Context) :
    c.quiet.get? name = c.get? name := by
  induction c with
  | nil => rfl
  | cons e c ih =>
    obtain ⟨a, d⟩ := e
    cases ha : isVerboseName a with
    | true =>
      have hne : (name == a) = false := by
        rw [beq_eq_false_iff_ne]
        rintro rfl
        rw [hn] at ha
        cases ha
      rw [quiet_cons_of_prefixed (isVerboseName_iff.1 ha), ih]
      simp [get?, List.lookup_cons, hne]
    | false =>
      rw [get?, get?] at ih
      rw [quiet_cons_of_plain ha, get?, List.lookup_cons, get?, List.lookup_cons, ih]

theorem quiet_foldl_erase (names : List String) (c : Context) :
    (names.foldl erase c).quiet = names.foldl erase c.quiet := by
  induction names generalizing c with
  | nil => rfl
  | cons name names ih => rw [List.foldl_cons, ih, quiet_erase, List.foldl_cons]

end Context

/-! ### Entries -/

/-- An entry in quiet output depends on the data that are shown. -/
theorem Entry.plainText_congr {e f : Entry} (hl : e.label = f.label) (he : e.event = f.event)
    (hd : e.details.quiet = f.details.quiet) : e.plainText false = f.plainText false := by
  obtain ⟨label, event, c⟩ := e
  obtain ⟨_, _, d⟩ := f
  obtain rfl : label = _ := hl
  obtain rfl : event = _ := he
  have lines : (Entry.mk label event c).detailLines false =
      (Entry.mk label event d).detailLines false := by
    show (c.quiet.indentedLines _).map _ = (d.quiet.indentedLines _).map _
    rw [show c.quiet = d.quiet from hd]
  rw [plainText, textWith, lines]
  rfl

theorem Entry.plainText_ofContext_congr {b c : Context} (h : b.quiet = c.quiet) (label : String) :
    (Entry.ofContext label b).plainText false = (Entry.ofContext label c).plainText false := by
  have plain : isVerboseName "event" = false := by decide
  refine Entry.plainText_congr rfl ?_ ?_
  · show (b.get? "event").getD _ = (c.get? "event").getD _
    rw [← Context.get?_quiet plain, h, Context.get?_quiet plain]
  · show Context.quiet (List.foldl _ _ _) = Context.quiet (List.foldl _ _ _)
    rw [Context.quiet_foldl_erase, Context.quiet_erase, h, ← Context.quiet_erase,
      ← Context.quiet_foldl_erase]

theorem Entry.plainText_ofEvent_congr {b c : Context} (h : b.quiet = c.quiet) (level : Level)
    (event : Datum) :
    (Entry.ofEvent level event b).plainText false = (Entry.ofEvent level event c).plainText false := by
  have plain : isVerboseName "event" = false := by decide
  unfold Entry.ofEvent
  refine Entry.plainText_ofContext_congr ?_ level.name
  split
  · exact h
  · rw [Context.quiet_put plain, h, Context.quiet_put plain]

/-! ### Calls of a logger -/

namespace LoggerCall

/-- The methods for entries below warnings. -/
def minorNames : List String := ["debug", "info", "msg"]

/-- Whether a call is below warnings. -/
def IsMinor (c : LoggerCall) : Prop := c.method.weight < Level.warning.weight

/-- The methods for levels below warnings are those of these names. -/
theorem isMinor_named_iff {name : String} {level : Level} (h : Level.ofString? name = some level)
    (event : Datum) (data : Context) :
    IsMinor ⟨.named name level h, event, data⟩ ↔ name ∈ minorNames := by
  show (level.weight : Int) < Level.warning.weight ↔ name ∈ minorNames
  obtain ⟨l, r, hl, -⟩ := List.lookup_eq_some_iff.1 h
  have named : (name, level) ∈ l ++ (name, level) :: r := by simp
  rw [← hl] at named
  simp only [List.mem_cons, Prod.mk.injEq, List.not_mem_nil, or_false] at named
  rcases named with ⟨rfl, rfl⟩ | ⟨rfl, rfl⟩ | ⟨rfl, rfl⟩ | ⟨rfl, rfl⟩ | ⟨rfl, rfl⟩ | ⟨rfl, rfl⟩ |
    ⟨rfl, rfl⟩ | ⟨rfl, rfl⟩ | ⟨rfl, rfl⟩ <;> decide

/-- A call of a logger that is obtained for it prints what logging its event prints. -/
theorem text_obtained (s : LoggerState) {name : String} {level : Level}
    (h : Level.ofString? name = some level) (event : Datum) (data : Context) :
    text ⟨.named name level h, event, data⟩ (s.logger none) s.logging.isVerbose =
      (s.logging.entryText level event (Context.update [] data)).mapError .entry := by
  have weight : (level.weight : Int) < s.logging.threshold ↔ s.logging.shows level = false := by
    simp [Logging.shows]
  unfold text Logging.entryText
  show (if (level.weight : Int) < s.logging.threshold then _ else _) = _
  cases hs : s.logging.shows level with
  | false =>
    rw [if_pos (weight.2 hs)]
    rfl
  | true =>
    have passes : ¬(level.weight : Int) < s.logging.threshold := by
      rw [weight, hs]
      decide
    rw [if_neg passes]
    rfl

/-- A logger drops a call below warnings if it was bound in quiet logging. -/
theorem text_of_isMinor {c : LoggerCall} (h : c.IsMinor) {l : BoundLogger}
    (hl : Level.warning.weight ≤ l.threshold) (verbose : Bool) : c.text l verbose = .ok [] := by
  unfold IsMinor at h
  exact if_pos (by omega)

/-- Calls of one method with the same event whose data are the same but for prefixed entries. -/
structure SameUnprefixed (b c : LoggerCall) : Prop where
  method : b.method = c.method
  event : b.event = c.event
  data : Context.SameUnprefixed b.data c.data

end LoggerCall

/-- Loggers that drop the same calls and are bound to the same data but for prefixed entries. -/
structure BoundLogger.SameQuiet (l m : BoundLogger) : Prop where
  threshold : l.threshold = m.threshold
  data : l.data.quiet = m.data.quiet

/-- Where output is not verbose, calls print the same that differ only in prefixed entries, of the
call or of the logger. -/
theorem LoggerCall.SameUnprefixed.text_eq {b c : LoggerCall} (h : b.SameUnprefixed c)
    {l m : BoundLogger} (hl : l.SameQuiet m) : b.text l false = c.text m false := by
  have data : (l.data.update b.data).quiet = (m.data.update c.data).quiet := by
    rw [Context.quiet_update, Context.quiet_update, hl.data, h.data.quiet_eq]
  unfold text
  rw [h.method, h.event, hl.threshold]
  cases c.method.level? with
  | none => rfl
  | some level =>
    show (if _ then _ else (Entry.plainText false _).mapError _) = _
    rw [Entry.plainText_ofEvent_congr data]

/-! ### Sequences of steps -/

/-- The threshold of a logger of a number among loggers with the given thresholds, in quiet
logging. -/
def thresholdOf (ts : List Nat) (number : Option Nat) : Nat :=
  (number.bind (ts[·]?)).getD Level.warning.weight

/-- Sequences that differ in what quiet output does not show: in prefixed entries, of calls and of
what loggers are bound to, and in calls below warnings, which either of them may hold in any place if
the logger drops them. Output stays quiet: it is not made verbose, and the base level is above the one
that does so. At the start there are loggers with the given thresholds. -/
inductive SameShown : List Nat → List LoggingStep → List LoggingStep → Prop
  | nil {ts : List Nat} : SameShown ts [] []
  | configure {ts : List Nat} {xs ys : List LoggingStep} (h : SameShown ts xs ys) :
      SameShown ts (.configure false :: xs) (.configure false :: ys)
  | setBase {ts : List Nat} {level : Int} (hl : Level.debug.weight < level)
      {xs ys : List LoggingStep} (h : SameShown ts xs ys) :
      SameShown ts (.setBase level :: xs) (.setBase level :: ys)
  | bind {ts : List Nat} (logger : Option Nat) {b c : Context} (hb : b.SameUnprefixed c)
      {xs ys : List LoggingStep} (h : SameShown (ts ++ [thresholdOf ts logger]) xs ys) :
      SameShown ts (.bind logger b :: xs) (.bind logger c :: ys)
  | call {ts : List Nat} (logger : Option Nat) {b c : LoggerCall} (hc : b.SameUnprefixed c)
      {xs ys : List LoggingStep} (h : SameShown ts xs ys) :
      SameShown ts (.call logger b :: xs) (.call logger c :: ys)
  | left {ts : List Nat} {logger : Option Nat} (hl : Level.warning.weight ≤ thresholdOf ts logger)
      {c : LoggerCall} (hc : c.IsMinor) {xs ys : List LoggingStep} (h : SameShown ts xs ys) :
      SameShown ts (.call logger c :: xs) ys
  | right {ts : List Nat} {logger : Option Nat} (hl : Level.warning.weight ≤ thresholdOf ts logger)
      {c : LoggerCall} (hc : c.IsMinor) {xs ys : List LoggingStep} (h : SameShown ts xs ys) :
      SameShown ts xs (.call logger c :: ys)

namespace LoggerState

/-- The thresholds of the loggers that have been bound. -/
def thresholds (s : LoggerState) : List Nat := s.loggers.map BoundLogger.threshold

/-- Whether output is quiet. -/
structure Quiet (s : LoggerState) : Prop where
  threshold : s.logging.threshold = Level.warning.weight
  verbose : s.logging.isVerbose = false

/-- States that are the same but for the prefixed entries to which loggers are bound. -/
structure Alike (s t : LoggerState) : Prop where
  state : s.toState = t.toState
  loggers : List.Forall₂ BoundLogger.SameQuiet s.loggers t.loggers

variable {s t : LoggerState}

theorem Alike.refl (s : LoggerState) : s.Alike s :=
  ⟨rfl, List.forall₂_same.2 fun _ _ => ⟨rfl, rfl⟩⟩

theorem Alike.thresholds_eq (h : s.Alike t) : s.thresholds = t.thresholds := by
  have maps {ls ms : List BoundLogger} (h : List.Forall₂ BoundLogger.SameQuiet ls ms) :
      ls.map BoundLogger.threshold = ms.map BoundLogger.threshold := by
    induction h with
    | nil => rfl
    | cons hl _ ih => rw [List.map_cons, List.map_cons, hl.threshold, ih]
  exact maps h.loggers

theorem Alike.logger (h : s.Alike t) (number : Option Nat) :
    (s.logger number).SameQuiet (t.logger number) := by
  have obtained : BoundLogger.SameQuiet ⟨s.logging.threshold, []⟩ ⟨t.logging.threshold, []⟩ :=
    ⟨by rw [h.state], rfl⟩
  unfold LoggerState.logger
  cases number with
  | none => exact obtained
  | some n =>
    have entry := List.forall₂_iff_get.1 h.loggers
    show BoundLogger.SameQuiet (s.loggers[n]?.getD _) (t.loggers[n]?.getD _)
    by_cases hn : n < s.loggers.length
    · have hm : n < t.loggers.length := entry.1 ▸ hn
      rw [List.getElem?_eq_getElem hn, List.getElem?_eq_getElem hm]
      exact entry.2 n hn hm
    · rw [List.getElem?_eq_none (Nat.not_lt.1 hn),
        List.getElem?_eq_none (entry.1 ▸ Nat.not_lt.1 hn)]
      exact obtained

theorem Quiet.of_alike (hs : s.Quiet) (h : s.Alike t) : t.Quiet :=
  ⟨h.state ▸ hs.threshold, h.state ▸ hs.verbose⟩

theorem Quiet.threshold_logger (h : s.Quiet) (number : Option Nat) :
    (s.logger number).threshold = thresholdOf s.thresholds number := by
  unfold LoggerState.logger thresholdOf thresholds
  cases number with
  | none => exact h.threshold
  | some n =>
    show (s.loggers[n]?.getD _).threshold = ((s.loggers.map _)[n]?).getD _
    rw [List.getElem?_map]
    cases s.loggers[n]? with
    | none => exact h.threshold
    | some l => rfl

/-- A call that is dropped leaves the state as it is. -/
theorem Quiet.apply_of_isMinor (h : s.Quiet) {number : Option Nat}
    (hl : Level.warning.weight ≤ thresholdOf s.thresholds number) {c : LoggerCall}
    (hc : c.IsMinor) : (LoggingStep.call number c).apply s = .ok s := by
  rw [← h.threshold_logger] at hl
  rw [LoggingStep.apply, LoggerCall.text_of_isMinor hc hl]
  show Except.ok { s with err := s.err ++ "" } = _
  rw [String.append_empty]

/-- Bindings to data that are the same but for prefixed entries keep states alike. -/
theorem Alike.bound (h : s.Alike t) (number : Option Nat) {b c : Context} (hb : b.SameUnprefixed c) :
    (s.bound number b).Alike (t.bound number c) := by
  have logger := h.logger number
  refine ⟨h.state, List.rel_append h.loggers (.cons ⟨logger.threshold, ?_⟩ .nil)⟩
  show ((s.logger number).data.update b).quiet = ((t.logger number).data.update c).quiet
  rw [Context.quiet_update, Context.quiet_update, logger.data, hb.quiet_eq]

theorem Quiet.thresholds_bound (h : s.Quiet) (number : Option Nat) (c : Context) :
    (s.bound number c).thresholds = s.thresholds ++ [thresholdOf s.thresholds number] := by
  rw [← h.threshold_logger]
  exact List.map_append

/-- Calls that are the same but for prefixed entries print the same in states that are alike. -/
theorem Quiet.text_eq (h : s.Quiet) (ha : s.Alike t) (number : Option Nat) {b c : LoggerCall}
    (hc : b.SameUnprefixed c) : b.text (s.logger number) s.logging.isVerbose =
      c.text (t.logger number) t.logging.isVerbose := by
  rw [h.verbose, (h.of_alike ha).verbose, hc.text_eq (ha.logger number)]

end LoggerState

open LoggerState

variable {handled : Bool}

theorem performAll_cons_of_ok {x : LoggingStep} {s t : LoggerState} (h : x.apply s = .ok t)
    (xs : List LoggingStep) : performAll handled (x :: xs) s = performAll handled xs t := by
  rw [performAll, h]

/-- Two ends of sequences show no difference: the states are the same but for the loggers, and so are
the faults. -/
def SameOutput (x y : LoggerState × Option CallFault) : Prop :=
  x.1.toState = y.1.toState ∧ x.2 = y.2

/-- While output is quiet, sequences that differ in what is not shown print the same. -/
theorem sameOutput_of_sameShown {ts : List Nat} {xs ys : List LoggingStep} (h : SameShown ts xs ys)
    {s t : LoggerState} (hs : s.Quiet) (ha : s.Alike t) (ht : s.thresholds = ts) :
    SameOutput (performAll handled xs s) (performAll handled ys t) := by
  -- Each step keeps output quiet and the states alike, and the thresholds known.
  induction h generalizing s t with
  | nil => exact ⟨ha.state, rfl⟩
  | configure h ih =>
    rw [performAll_cons_of_ok rfl, performAll_cons_of_ok rfl]
    exact ih ⟨rfl, rfl⟩ ⟨by simp only [ha.state], ha.loggers⟩ ht
  | @setBase ts level hl xs ys h ih =>
    rw [performAll_cons_of_ok rfl, performAll_cons_of_ok rfl]
    refine ih ⟨hs.threshold, ?_⟩ ⟨?_, ha.loggers⟩ ht
    · simpa [Logging.isVerbose] using hl
    · simp only [ha.state]
  | bind number hb h ih =>
    rw [performAll_cons_of_ok rfl, performAll_cons_of_ok rfl]
    exact ih ⟨hs.threshold, hs.verbose⟩ (ha.bound number hb) (ht ▸ hs.thresholds_bound number _)
  | @call ts number b c hc xs ys h ih =>
    rw [performAll, performAll, LoggingStep.apply, LoggingStep.apply, hs.text_eq ha number hc]
    cases c.text (t.logger number) t.logging.isVerbose with
    | ok printed =>
      exact ih ⟨hs.threshold, hs.verbose⟩ ⟨by simp only [ha.state], ha.loggers⟩ ht
    | error f =>
      cases handled with
      | true => exact ih hs ha ht
      | false => exact ⟨ha.state, rfl⟩
  | left hl hc h ih =>
    rw [performAll_cons_of_ok (hs.apply_of_isMinor (ht ▸ hl) hc)]
    exact ih hs ha ht
  | right hl hc h ih =>
    have known := ha.thresholds_eq.symm.trans ht
    rw [performAll_cons_of_ok ((hs.of_alike ha).apply_of_isMinor (known ▸ hl) hc)]
    exact ih hs ha ht

theorem performAll_append (xs ys : List LoggingStep) (s : LoggerState) :
    performAll handled (xs ++ ys) s =
      match performAll handled xs s with
      | (t, none) => performAll handled ys t
      | (t, some f) => (t, some f) := by
  induction xs generalizing s with
  | nil => rfl
  | cons x xs ih =>
    rw [List.cons_append, performAll, performAll]
    cases x.apply s with
    | ok t => exact ih t
    | error f =>
      cases handled with
      | true => exact ih s
      | false => rfl

/-- After output is made quiet, sequences that differ in what is not shown print the same on both
outputs and end with the same fault if they do, whatever was done before. -/
theorem performAll_of_sameShown (handled : Bool) (before : List LoggingStep) (s : LoggerState)
    {xs ys : List LoggingStep} (h : SameShown (performAll handled before s).1.thresholds xs ys) :
    SameOutput (performAll handled (before ++ .configure false :: xs) s)
      (performAll handled (before ++ .configure false :: ys) s) := by
  rw [performAll_append, performAll_append]
  generalize performAll handled before s = r at h ⊢
  obtain ⟨t, _ | f⟩ := r
  · show SameOutput (performAll handled (.configure false :: xs) t)
      (performAll handled (.configure false :: ys) t)
    rw [performAll_cons_of_ok rfl, performAll_cons_of_ok rfl]
    exact sameOutput_of_sameShown h ⟨rfl, rfl⟩ (.refl _) rfl
  · exact ⟨rfl, rfl⟩

/-- A call that tells of a request. -/
def requestCall : LoggerCall := ⟨.named "debug" .debug rfl, .text "request", []⟩

/-- A call that warns of a rejection, with further data. -/
def rejectionCall (more : Context) : LoggerCall :=
  ⟨.named "warning" .warning rfl, .text "rejected", ("retries_left", .int 2) :: more⟩

/-- A state without loggers. -/
def unboundState : LoggerState := { Act.sampleSession with loggers := [] }

/-- A request is told while output is verbose, by a logger that was bound before. After that it is told
no more by a logger that is obtained or bound anew, and the passphrase is not told at all. -/
theorem performAll_of_sameShown_rejection :
    let before := [.configure false, .bind none [], .configure true, .call none requestCall]
    let xs := [.bind (some 0) [], .call (some 1) (rejectionCall [("_debug_passphrase", .text "123456")])]
    let ys := [.bind (some 0) [("_verbose_request", .int 1)], .call (some 1) requestCall,
      .call none requestCall, .call (some 1) (rejectionCall [])]
    SameShown (performAll false before unboundState).1.thresholds xs ys ∧
      SameOutput (performAll false (before ++ .configure false :: xs) unboundState)
        (performAll false (before ++ .configure false :: ys) unboundState) ∧
      (performAll false (before ++ .configure false :: xs) unboundState).1.err =
        "[DEBUG] request\n[WARNING] rejected\n  retries_left: 2\n" := by
  intro before xs ys
  have secret : HasVerbosePrefix "_debug_passphrase" := isVerboseName_iff.1 (by decide)
  have request : HasVerbosePrefix "_verbose_request" := isVerboseName_iff.1 (by decide)
  have minor : requestCall.IsMinor := by unfold LoggerCall.IsMinor; decide
  have calls : (rejectionCall [("_debug_passphrase", .text "123456")]).SameUnprefixed
      (rejectionCall []) := ⟨rfl, rfl, .keep _ _ (.left secret _ .nil)⟩
  have same : SameShown (performAll false before unboundState).1.thresholds xs ys :=
    .bind (some 0) (.right request _ .nil)
      (.right (by decide +kernel) minor (.right (by decide +kernel) minor (.call (some 1) calls .nil)))
  exact ⟨same, performAll_of_sameShown false before unboundState same, by decide +kernel⟩

/-- A logger that is bound while output is verbose still tells of a request once output is quiet. And
output is verbose again, so that a passphrase is told, once other code lowers the base level. -/
theorem performAll_after_configure :
    let bound := [.configure true, .bind none [], .configure false]
    let based := [.configure true, .configure false, .setBase Level.debug.weight]
    (performAll false (bound ++ [.call (some 0) requestCall]) unboundState).1.err ≠
        (performAll false bound unboundState).1.err ∧
      (performAll false (based ++ [.call none
          (rejectionCall [("_debug_passphrase", .text "123456")])]) unboundState).1.err ≠
        (performAll false (based ++ [.call none (rejectionCall [])]) unboundState).1.err := by
  decide +kernel

end StorageKey
