import StorageKey.Proofs.Session.Attempts
import StorageKey.Proofs.Session.Frame

/-!
# Warnings about rejected passphrases

A session without verbose output says nothing but that a passphrase was rejected and that attempts
are left. If the volume is opened at last, there is one such warning for each rejection, and the
numbers in them count down from the attempts of the configuration.

* `warningText`, `warnings`: a warning, and those about several rejections;
* `Logging.printed_warning`: the text of the log entry;
* `Act.unlockAttempts_opened`: attempts that open the volume.
-/

namespace StorageKey

open Decimal Markup Text Yaml

/-! ### The text of a warning -/

/-- The warning that a number of attempts is left. Its second line is cut at the edge of the
terminal. -/
def warningText (left : Nat) : String :=
  "[WARNING] wrong_passphrase\n" ++
    String.ofList (("  retries_left: ".toList ++ Nat.toDigits 10 left).take terminalWidth) ++ "\n"

/-- The warnings about rejected passphrases, when there were the given attempts before the first. -/
def warnings (attempts rejections : Nat) : String :=
  String.join ((List.range rejections).map fun k => warningText (attempts - (k + 1)))

@[simp] theorem warnings_zero (attempts : Nat) : warnings attempts 0 = "" := rfl

theorem warnings_succ (attempts rejections : Nat) :
    warnings (attempts + 1) (rejections + 1) =
      warningText attempts ++ warnings attempts rejections := by
  have shift : (List.range (rejections + 1)).map (fun k => warningText (attempts + 1 - (k + 1))) =
      warningText attempts ::
        (List.range rejections).map (fun k => warningText (attempts - (k + 1))) := by
    rw [List.range_succ_eq_map, List.map_cons, List.map_map]
    simp only [Nat.add_sub_add_right, Nat.sub_zero, Function.comp_def, Nat.succ_eq_add_one]
  rw [warnings, shift, String.join_cons, warnings]

/-- There is one attempt at least, and no more rejections than other attempts. -/
theorem warnings_sub_add {attempts rejections : Nat} (h : rejections ≤ attempts - 1) :
    warnings (attempts - 1 + 1) rejections = warnings attempts rejections := by
  cases attempts with
  | zero =>
    obtain rfl : rejections = 0 := by omega
    rfl
  | succ n => rfl

example : warnings 3 2 = "[WARNING] wrong_passphrase\n  retries_left: 2\n" ++
    "[WARNING] wrong_passphrase\n  retries_left: 1\n" := by decide +kernel

namespace Yaml

/-- A text without blanks and line feeds is one run. -/
theorem runs_of_word {s : List Char} (hs : s ≠ []) (h : ∀ c ∈ s, runKind c = .word) :
    runs s = [s] := by
  induction s with
  | nil => exact absurd rfl hs
  | cons c r ih =>
    rw [List.forall_mem_cons] at h
    cases r with
    | nil => rfl
    | cons d r =>
      rw [runs, ih (by simp) h.2, consRun, if_pos (h.1.trans (h.2 d List.mem_cons_self).symm)]

/-- A digit belongs to a word. -/
theorem runKind_of_isDigit {c : Char} (h : c.isDigit = true) : runKind c = .word := by
  have space : c ≠ ' ' := by
    rintro rfl
    cases h
  have feed : c ≠ '\n' := by
    rintro rfl
    cases h
  rw [runKind, if_neg space, if_neg feed]

end Yaml

theorem isDigit_of_mem_toDigits {n : Nat} {c : Char} (h : c ∈ Nat.toDigits 10 n) :
    c.isDigit = true :=
  Nat.isDigit_of_mem_toDigits (by decide) (by decide) h

/-- A digit ends no line. -/
theorem isLineBoundary_of_isDigit {c : Char} (h : c.isDigit = true) : isLineBoundary c = false := by
  cases hb : isLineBoundary c with
  | false => rfl
  | true =>
    simp only [isLineBoundary, Bool.or_eq_true, decide_eq_true_eq] at hb
    rcases hb with ((((((((rfl | rfl) | rfl) | rfl) | rfl) | rfl) | rfl) | rfl) | rfl) | rfl
    all_goals cases h

/-- The data of a warning as a document. -/
theorem documentText_warningContext (left : Nat) :
    documentText (warningContext left) =
      "retries_left: ".toList ++ Nat.toDigits 10 left ++ ['\n'] := by
  have runs : runs (intText left) = [Nat.toDigits 10 left] :=
    runs_of_word Nat.toDigits_ne_nil fun c hc => runKind_of_isDigit (isDigit_of_mem_toDigits hc)
  have key : writeKey 0 "retries_left" Page.empty =
      ⟨"retries_left:".toList.reverse, 13, false, false⟩ := by decide +kernel
  have digits : Nat.toDigits 10 left ≠ [' '] := by
    intro h
    have := isDigit_of_mem_toDigits (h ▸ List.mem_cons_self : ' ' ∈ Nat.toDigits 10 left)
    cases this
  have written : writeEntries 0 (warningContext left) Page.empty =
      writePlain true 2 (intText left) (writeKey 0 "retries_left" Page.empty) := rfl
  show ((writeEntries 0 (warningContext left) Page.empty).indentTo 0).text = _
  rw [written, key, writePlain, runs, List.foldl_cons, List.foldl_nil]
  simp [Page.separate, Page.settled, Page.put, Page.indentTo, Page.newLine, Page.text, digits]

/-- The first line of an event on a plain terminal. -/
def plainHeadline (level : Level) (event : String) : Option (List Char) :=
  match (Entry.mk level.name (.text event) []).headline with
  | .ok s => (Marked.ofText s).toOption.map plainLines
  | .error _ => none

theorem plainText_of_headline {level : Level} {event : String} {first : List Char}
    (h : plainHeadline level event = some first) {c : Context} {verbose : Bool} {ls : List Char}
    (hl : (Entry.mk level.name (.text event) c).detailLines verbose = .ok ls) :
    (Entry.mk level.name (.text event) c).plainText verbose = .ok (first ++ ls) := by
  unfold plainHeadline at h
  split at h
  · next s hs =>
    rw [Entry.plainText, Entry.textWith, hl, show (Entry.mk level.name (.text event) c).headline =
      .ok s from hs]
    show (Marked.ofText s).mapError LogFault.marks >>= _ = _
    cases hm : Marked.ofText s with
    | error f =>
      rw [hm] at h
      cases h
    | ok m =>
      rw [hm] at h
      cases h
      rfl
  · cases h

/-- The line with the data of a warning. -/
theorem indentedLines_warningContext {left : Nat} (h : (Nat.toDigits 10 left).length ≤ digitLimit) :
    (warningContext left).indentedLines Entry.detailIndent =
      .ok ["  retries_left: ".toList ++ Nat.toDigits 10 left] := by
  have writable : isWritableEntries (warningContext left) = true := by
    rw [isWritableEntries_iff, warningContext, List.forall_mem_singleton, Act.isWritable_int_iff]
    exact h
  have unbroken : ∀ c ∈ "retries_left: ".toList ++ Nat.toDigits 10 left,
      isLineBoundary c = false := by
    intro c hc
    rcases List.mem_append.1 hc with hc | hc
    · have : ∀ c ∈ "retries_left: ".toList, isLineBoundary c = false := by
        simp [isLineBoundary]
      exact this c hc
    · exact isLineBoundary_of_isDigit (isDigit_of_mem_toDigits hc)
  have lines : splitLines ("retries_left: ".toList ++ Nat.toDigits 10 left ++ ['\n']) =
      ["retries_left: ".toList ++ Nat.toDigits 10 left] := by
    rw [splitLines_append_cons unbroken (by decide) (by decide), splitLines_nil]
  have some : (warningContext left).isEmpty = false := rfl
  rw [Context.indentedLines, Context.indentedLinesWithin, some, writeDocument,
    writeFault?_sorted_entries.2 writable, documentText_warningContext]
  show Except.ok ((splitLines _).map _) = _
  rw [lines]
  rfl

/-- The log entry about a rejection, if it can be written. -/
theorem Logging.printed_warning {left : Nat} (h : (Nat.toDigits 10 left).length ≤ digitLimit) :
    (Logging.ofVerbose false).printed .warning "wrong_passphrase" (warningContext left) =
      warningText left := by
  have first : plainHeadline .warning "wrong_passphrase" =
      some "[WARNING] wrong_passphrase\n".toList := by decide +kernel
  have plain : isVerboseName "retries_left" = false := by decide
  have quiet : (warningContext left).quiet = warningContext left := by
    simp [warningContext, Context.quiet, plain]
  have details : (Entry.mk Level.warning.name (.text "wrong_passphrase")
      (warningContext left)).detailLines false =
        .ok (("  retries_left: ".toList ++ Nat.toDigits 10 left).take terminalWidth ++ ['\n']) := by
    rw [Entry.detailLines]
    show (Context.indentedLines (warningContext left).quiet _).map _ = _
    rw [quiet, indentedLines_warningContext h]
    show Except.ok (List.flatMap _ [_]) = _
    rw [List.flatMap_singleton]
  have text := plainText_of_headline first details
  have entry : Logging.entryText (.ofVerbose false) .warning (.text "wrong_passphrase")
      (warningContext left) = (Entry.mk Level.warning.name (.text "wrong_passphrase")
        (warningContext left)).plainText false := rfl
  unfold Logging.printed
  rw [entry, text]
  show String.ofList (_ ++ (_ ++ _)) = _ ++ _ ++ _
  rw [String.ofList_append, String.ofList_append, String.ofList_toList, ← String.append_assoc]

/-! ### Attempts without verbose output -/

/-- An attempt after which nothing fails opens the volume, or is rejected and followed by what does
not fail. -/
theorem Attempt.cases_of_resume {a : Attempt} {onRejection : Failure → Act Unit} {t u : State}
    (h : a.resume onRejection t = .ok () u) :
    (∃ p, a = .opened p ∧ u = t) ∨
      ∃ p e, a = .rejected p e ∧ onRejection (.raised e) t = .ok () u := by
  cases a with
  | opened p =>
    cases h
    exact .inl ⟨p, rfl, rfl⟩
  | rejected p e => exact .inr ⟨p, e, rfl, h⟩
  | _ => cases h

namespace Act

variable {s t u : State} {c : Config}

/-- An attempt says nothing. -/
theorem attemptUnlock_quiet (hl : s.logging = .ofVerbose false) (h : s.session.config = some c) :
    ∃ a w t, Tries (agentOf s c) s.world a w ∧ Reaches s t a.events w ∧ t.err = s.err ∧
      ∀ onRejection, attemptUnlock onRejection s = a.resume onRejection t := by
  obtain ⟨a, w, t, ha, hr, run⟩ := attemptUnlock_cases h
  refine ⟨a, w, t, ha, hr, ?_, run⟩
  -- What follows a rejection starts where the attempt ends if nothing follows.
  have kept : Keeps .info s (endState (attemptUnlock (fun f => throw f) s)) :=
    discreet_attemptUnlock (Nat.le_refl _) (fun f => discreet_throw f) s
  have last : endState (attemptUnlock (fun f => throw f) s) = t := by
    rw [run]
    cases a <;> rfl
  rw [last] at kept
  exact kept.err_of_quiet (by rw [hl]; rfl)

/-- A warning is shown. -/
theorem log_warning_quiet (hl : s.logging = .ofVerbose false) {left : Nat}
    (h : log .warning "wrong_passphrase" (warningContext left) s = .ok () t) :
    CanWarn (.ofVerbose false) left ∧ t = { s with err := s.err ++ warningText left } := by
  by_cases hw : CanWarn s.logging left
  · rw [hl] at hw
    have short := hw rfl
    have printable : s.logging.canPrint .warning "wrong_passphrase" (warningContext left) = true :=
      canPrint_of_writable (Context.writable_nil.cons _ ((isWritable_int_iff left).2 short)) _ _ _
    have text : s.logging.printed .warning "wrong_passphrase" (warningContext left) =
        warningText left := by rw [hl, Logging.printed_warning short]
    rw [log_of_canPrint (by decide +kernel) printable, text] at h
    cases h
    exact ⟨hw, rfl⟩
  · rw [log_warning_error hw] at h
    cases h

/-- Attempts that open the volume say nothing but how many attempts are left after each
rejection. -/
theorem unlockAttempts_opened {more : Nat} (hl : s.logging = .ofVerbose false)
    (h : s.session.config = some c) (run : unlockAttempts more s = .ok () u) :
    ∃ as p, Attempts (agentOf s c) (.ofVerbose false) more s.world (as ++ [.opened p]) u.world ∧
      (∀ a ∈ as, a.isRejected = true) ∧
      Reaches s u ((as ++ [.opened p]).flatMap Attempt.events) u.world ∧
      u.err = s.err ++ warnings (more + 1) as.length := by
  -- After a rejection the session goes on as one with an attempt less.
  induction more generalizing s with
  | zero =>
    obtain ⟨a, w, t, ha, hr, err, resume⟩ := attemptUnlock_quiet hl h
    rw [unlockAttempts_zero, resume] at run
    rcases Attempt.cases_of_resume run with ⟨p, rfl, rfl⟩ | ⟨p, e, -, run⟩
    · obtain rfl := hr.world
      exact ⟨[], p, .last ha fun _ => .inl rfl, by simp, by simpa using hr, by simpa using err⟩
    · cases run
  | succ more ih =>
    obtain ⟨a, w, t, ha, hr, err, resume⟩ := attemptUnlock_quiet hl h
    rw [unlockAttempts_succ, resume] at run
    rcases Attempt.cases_of_resume run with ⟨p, rfl, rfl⟩ | ⟨p, e, rfl, run⟩
    · obtain rfl := hr.world
      exact ⟨[], p, .last ha fun h => absurd h Bool.false_ne_true, by simp, by simpa using hr,
        by simpa using err⟩
    · obtain ⟨_, v, hv, run⟩ := exists_of_bind_ok run
      obtain ⟨hw, rfl⟩ := log_warning_quiet (hr.logging.trans hl) hv
      have reached : Reaches s { t with err := t.err ++ warningText (more + 1) }
          (Attempt.rejected p e).events w :=
        ⟨hr.events, hr.world, hr.logging, hr.out, hr.config, hr.program⟩
      obtain ⟨as, q, hs, rejected, hu, err'⟩ :=
        ih (reached.logging.trans hl) (reached.config.trans h) run
      rw [show agentOf _ c = agentOf s c from reached.program c h, reached.world] at hs
      refine ⟨.rejected p e :: as, q, .next ha hw hs, ?_, reached.trans hu, ?_⟩
      · rw [List.forall_mem_cons]
        exact ⟨rfl, rejected⟩
      · rw [err', List.length_cons, warnings_succ, ← String.append_assoc, err]

end Act

end StorageKey
