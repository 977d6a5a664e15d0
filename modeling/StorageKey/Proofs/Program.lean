import StorageKey.Proofs.Invocation.Slice
import StorageKey.Proofs.Session.Alike
import StorageKey.Proofs.Usage.HelpParser

/-!
# Command lines that leave the world alone

The world is met only by a command whose word is the last token. Every other command line prints
what it has to say and ends, whatever the world is.

* `Command.operation_of_word`: which word stands for which operation;
* `execute_name`: a command without arguments is its operation;
* `execute_of_tail`: a command with arguments performs nothing;
* `runProgram_cases`: what becomes of a command line that leaves the world alone.
-/

namespace StorageKey

open Text Usage

namespace Act

theorem tryCatch_of_error {α : Type} {x : Act α} {f : Failure → Act α} {s t : State} {e : Failure}
    (h : x s = .error e t) : tryCatch x f s = f e t := by
  simp only [tryCatch, tryCatchThe, MonadExceptOf.tryCatch, EStateM.tryCatch, h]
  rfl

theorem tryCatch_of_ok {α : Type} {x : Act α} {f : Failure → Act α} {s t : State} {a : α}
    (h : x s = .ok a t) : tryCatch x f s = .ok a t := by
  simp only [tryCatch, tryCatchThe, MonadExceptOf.tryCatch, EStateM.tryCatch, h]

end Act

/-! ### The operation of a command -/

/-- The words for operations. -/
theorem Command.operation_of_word (word : String) :
    (Command.ofString? word).map Command.operation =
      [("clear", .clearPassphrase), ("close", .closeVolume), ("open", .openVolume),
        ("status", .showStatus)].lookup word := by
  have same (w : String) : (w = word) = ((word == w) = true) := by
    rw [beq_iff_eq, eq_comm (a := w)]
  simp only [Command.ofString?, Command.all, Command.word, List.find?, List.lookup_cons,
    List.lookup_nil, same, Bool.decide_eq_true]
  cases word == "clear" <;> cases word == "close" <;> cases word == "open" <;>
    cases word == "status" <;> rfl

/-! ### The arguments of a command -/

theorem exists_help_helpParser (name : String) (c : Command) :
    ∃ help, (helpParser Unit name c.description).help = .ok help := by
  have fixed : isInside "%(prog)".toList c.description.toList = false := by cases c <;> decide
  have text : (helpParser Unit name c.description).descriptionText =
      .ok c.description.toList := by
    rw [Parser.descriptionText, show (helpParser Unit name c.description).description =
      c.description from rfl, fixed]
    rfl
  exact exists_help_of_description text

/-- Arguments ask for help, or are complained about. -/
theorem answer_of_tail (c : Command) (program name : String) {tail : List String}
    (h : tail ≠ []) : (∃ help, (helpParser Unit name c.description).help = .ok help ∧
      (helpParser Unit program c.description).answer () (name :: tail) =
        .ok ⟨.helpRequested, (), help, ""⟩) ∨
    ∃ e, (helpParser Unit program c.description).answer () (name :: tail) =
      .ok ⟨.failure, (), "",
        (helpParser Unit name c.description).complaint (UsageError.message e)⟩ := by
  have named : (helpParser Unit program c.description).named (name :: tail) =
      helpParser Unit name c.description := rfl
  have refused := refused_parse_helpParser name c.description () h
  rcases refused with hs | ⟨e, hs⟩
  · obtain ⟨help, hh⟩ := exists_help_helpParser name c
    refine .inl ⟨help, hh, ?_⟩
    simp only [Parser.answer, named, List.tail_cons, hs, hh]
    rfl
  · refine .inr ⟨e, ?_⟩
    simp only [Parser.answer, named, List.tail_cons, hs]

namespace Act

variable {α : Type} (perform : Operation → Act α)

/-- A command without arguments is its operation. -/
theorem execute_name (c : Command) (name : String) (s : State) :
    execute perform c [name] s = (some <$> perform c.operation) s := by
  have answer : (helpParser Unit programName c.description).answer () [name] =
      .ok ⟨.success, (), "", ""⟩ := rfl
  -- The reply prints two empty texts.
  have silent : { s with out := s.out ++ "", err := s.err ++ "" } = s := by
    rw [String.append_empty, String.append_empty]
  simp only [execute, answer, ofExcept_ok, pure_bind]
  rw [bind_of_ok (print_apply "" s), bind_of_ok (printError_apply "" _), silent]
  rfl

theorem settle_helpRequested (s : State) : settle .helpRequested s =
    .ok false { s with err := s.err ++ s.logging.printed .debug "help_shown" [] } := by
  rw [settle, bind_of_ok (log_apply (by decide +kernel) Context.writable_nil s)]
  rfl

/-- A command with arguments prints the help or fails, and performs nothing. -/
theorem execute_of_tail (c : Command) (name : String) {tail : List String} (h : tail ≠ []) :
    (∃ help, (helpParser Unit name c.description).help = .ok help ∧
      ∀ s, execute perform c (name :: tail) s = .ok none { s with
        out := s.out ++ help, err := s.err ++ s.logging.printed .debug "help_shown" [] }) ∨
    ∃ e, ∀ s, execute perform c (name :: tail) s = .error .arguments { s with
      err := s.err ++ (helpParser Unit name c.description).complaint (UsageError.message e) } := by
  rcases answer_of_tail c programName name h with ⟨help, hh, answer⟩ | ⟨e, answer⟩
  · refine .inl ⟨help, hh, fun s => ?_⟩
    simp only [execute, answer, ofExcept_ok, pure_bind]
    rw [bind_of_ok (print_apply help s), bind_of_ok (printError_apply "" _), String.append_empty,
      bind_of_ok (settle_helpRequested _)]
    rfl
  · refine .inr ⟨e, fun s => ?_⟩
    simp only [execute, answer, ofExcept_ok, pure_bind]
    rw [bind_of_ok (print_apply "" s), bind_of_ok (printError_apply _ _), String.append_empty]
    rfl

/-- The entry about an invocation that is carried out. -/
def dispatchContext (i : Invocation) : Context :=
  [("command", .text i.command.word), ("_verbose_arguments", .list (i.arguments.map .text))]

/-- The entry about a command whose arguments are not accepted. -/
def refusalContext (c : Command) : Context :=
  [("command", .text c.word), ("error", .text ErrorKind.arguments.usualMessage)]

theorem dispatch_apply (i : Invocation) (s : State) : dispatch perform i s =
    execute perform i.command i.arguments { s with
      err := s.err ++ s.logging.printed .debug "dispatching_command" (dispatchContext i) } := by
  have writable : (dispatchContext i).Writable :=
    (Context.writable_nil.cons _ (Yaml.isWritable_texts _)).cons _ rfl
  exact bind_of_ok (log_apply (by decide +kernel) writable s)

/-- The entry about a command that fails. -/
def failureContext (c : Command) (f : Failure) : Context :=
  [("command", .text c.word), ("error", .text f.message)]

/-- A failure that is not reported ends the program. -/
theorem report_of_none {f : Failure} (h : f.kind? = none) (c : Command) (s : State) :
    report c f s = .error f s := by
  rw [report, h]
  rfl

/-- The state after a failure is reported: it is logged, and then printed with its message. -/
def afterReport (c : Command) (f : Failure) (s : State) : State :=
  { s with err := s.err ++ s.logging.printed .debug "command_failed" (failureContext c f) ++
      ("Error: " ++ f.message ++ "\n") }

/-- The code for a failure that is reported is one. -/
theorem report_of_some {f : Failure} {k : ErrorKind} (h : f.kind? = some k) (c : Command)
    (s : State) : report c f s = .ok 1 (afterReport c f s) := by
  have writable : (failureContext c f).Writable :=
    (Context.writable_nil.cons _ rfl).cons _ rfl
  rw [report, h]
  exact bind_of_ok (log_apply (by decide +kernel) writable s)

theorem report_arguments (c : Command) (s : State) : report c .arguments s =
    .ok 1 { s with err := s.err ++ s.logging.printed .debug "command_failed" (refusalContext c) ++
      "Error: Could not parse arguments\n" } :=
  report_of_some (k := .arguments) rfl c s

/-! ### Whole command lines -/

/-- The state in which an invocation starts. -/
def startOf (i : Invocation) (s : State) : State :=
  { s with logging := .ofVerbose i.verbose, session := .fresh i.config }

theorem runInvocation_of_ok {i : Invocation} {s t : State} {a : Option Unit}
    (h : dispatch Act.perform i (startOf i s) = .ok a t) : runInvocation i s = .ok 0 t :=
  tryCatch_of_ok (bind_of_ok h)

theorem runInvocation_of_error {i : Invocation} {s t : State} {f : Failure}
    (h : dispatch Act.perform i (startOf i s) = .error f t) :
    runInvocation i s = report i.command f t :=
  tryCatch_of_error (bind_of_error h)

/-- What is logged about an invocation that is carried out. -/
def dispatchLog (i : Invocation) : String :=
  (Logging.ofVerbose i.verbose).printed .debug "dispatching_command" (dispatchContext i)

/-- The end of a command after its operation: the code for success, or what is reported about the
failure. -/
def conclude (c : Command) : EStateM.Result Failure State Unit → EStateM.Result Failure State Nat
  | .ok _ t => .ok 0 t
  | .error f t => report c f t

/-- What is reported about ends that are alike is alike, if the reports are. -/
theorem conclude_sameEnd {R : State → State → Prop} (c : Command)
    (hR : ∀ f s t, R s t → R (afterReport c f s) (afterReport c f t))
    {x y : EStateM.Result Failure State Unit} (h : SameEnd R x y) :
    SameEnd R (conclude c x) (conclude c y) := by
  cases x <;> cases y
  · exact ⟨rfl, h.2⟩
  · exact h.elim
  · exact h.elim
  · next f s g t =>
    obtain ⟨rfl, related⟩ := h
    show SameEnd R (report c f s) (report c f t)
    cases hk : f.kind? with
    | none =>
      rw [report_of_none hk, report_of_none hk]
      exact ⟨rfl, related⟩
    | some k =>
      rw [report_of_some hk, report_of_some hk]
      exact ⟨rfl, hR f s t related⟩

/-- The state in which the operation of an invocation starts. -/
def operationStart (i : Invocation) (s : State) : State :=
  { startOf i s with err := s.err ++ dispatchLog i }

/-- To carry out an invocation without arguments is to perform its operation. -/
theorem dispatch_of_name {i : Invocation} {name : String} (hi : i.arguments = [name]) (s : State) :
    dispatch Act.perform i (startOf i s) =
      (some <$> Act.perform i.command.operation) (operationStart i s) := by
  rw [dispatch_apply, hi, execute_name]
  rfl

/-- An invocation without arguments is its operation in a fresh session. -/
theorem runInvocation_of_name {i : Invocation} {name : String} (hi : i.arguments = [name])
    (s : State) : runInvocation i s =
      conclude i.command (Act.perform i.command.operation (operationStart i s)) := by
  have run := dispatch_of_name hi s
  rw [map_eq_pure_bind] at run
  cases hp : Act.perform i.command.operation (operationStart i s) with
  | ok _ t => exact runInvocation_of_ok (run.trans (bind_of_ok hp))
  | error f t => exact runInvocation_of_error (run.trans (bind_of_error hp))

/-- An invocation with arguments prints the help, or a complaint and the error. -/
theorem runInvocation_of_tail {i : Invocation} {name : String} {tail : List String}
    (hi : i.arguments = name :: tail) (h : tail ≠ []) :
    (∃ help, (helpParser Unit name i.command.description).help = .ok help ∧
      ∀ s, runInvocation i s = .ok 0 { startOf i s with
        out := s.out ++ help
        err := s.err ++ (dispatchLog i ++
          (Logging.ofVerbose i.verbose).printed .debug "help_shown" []) }) ∨
    ∃ e, ∀ s, runInvocation i s = .ok 1 { startOf i s with
      err := s.err ++ (dispatchLog i ++
        (helpParser Unit name i.command.description).complaint (UsageError.message e) ++
        (Logging.ofVerbose i.verbose).printed .debug "command_failed" (refusalContext i.command) ++
        "Error: Could not parse arguments\n") } := by
  rcases execute_of_tail Act.perform i.command name h with ⟨help, hh, run⟩ | ⟨e, run⟩
  · refine .inl ⟨help, hh, fun s => ?_⟩
    rw [← String.append_assoc]
    refine runInvocation_of_ok (a := none) ?_
    rw [dispatch_apply, hi]
    exact run _
  · refine .inr ⟨e, fun s => ?_⟩
    have failed : dispatch Act.perform i (startOf i s) = .error .arguments { startOf i s with
        err := s.err ++ dispatchLog i ++
          (helpParser Unit name i.command.description).complaint (UsageError.message e) } := by
      rw [dispatch_apply, hi]
      exact run _
    rw [runInvocation_of_error failed, report_arguments, ← String.append_assoc,
      ← String.append_assoc, ← String.append_assoc]
    rfl

theorem runProgram_of_stop {args : List String} {reason : Stop}
    (h : Invocation.parse args = .error (.stop reason)) :
    ∃ code out err, (code = 0 ∨ code = 2) ∧ ∀ s : State, runProgram args s =
      .ok (.exited code) { s with out := s.out ++ out, err := s.err ++ err } := by
  obtain ⟨code, out, err, hc, hp⟩ := exists_parseInvocation_of_stop h
  exact ⟨code, out, err, hc, fun s => bind_of_ok (hp s)⟩

/-- A command line that is an invocation is carried out. -/
theorem runProgram_of_invocation {args : List String} {i : Invocation}
    (h : Invocation.parse args = .ok i) (s : State) :
    runProgram args s = (runInvocation i >>= fun code => pure (.returned code)) s :=
  bind_of_ok (parseInvocation_of_ok h s)

theorem runProgram_of_parse {args : List String} {i : Invocation}
    (h : Invocation.parse args = .ok i) {s t : State} {code : Nat}
    (hr : runInvocation i s = .ok code t) : runProgram args s = .ok (.returned code) t :=
  (runProgram_of_invocation h s).trans (bind_of_ok hr)

theorem runProgram_of_invalid {args : List String} {issues : List Record.Issue}
    (h : Invocation.parse args = .error (.invalid issues)) (s : State) :
    runProgram args s = .error (.invalid Invocation.recordName issues) s :=
  bind_of_error (parseInvocation_of_invalid h s)

/-- A command line that is no invocation prints the same and ends in the same way in every state. It
returns no code, and no log entry is to blame. -/
theorem runProgram_of_error {args : List String} {f : InvocationFault}
    (h : Invocation.parse args = .error f) :
    ∃ r out err, (∀ code, r ≠ .ok (.returned code)) ∧ (∀ e, r ≠ .error (.log e)) ∧
      ∀ s : State, runProgram args s =
        ended r { s with out := s.out ++ out, err := s.err ++ err } := by
  cases f with
  | stop reason =>
    obtain ⟨code, out, err, -, run⟩ := runProgram_of_stop h
    refine ⟨.ok (.exited code), out, err, ?_, ?_, run⟩
    · intro n hn
      cases hn
    · intro e he
      cases he
  | invalid issues =>
    refine ⟨.error (.invalid Invocation.recordName issues), "", "", ?_, ?_, fun s => ?_⟩
    · intro n hn
      cases hn
    · intro e he
      cases he
    · rw [String.append_empty, String.append_empty]
      exact runProgram_of_invalid h s

/-- A command line that leaves the program as it is parsed, that makes no record, or whose command
has arguments, comes to the same in every state: it prints and ends, and the world and the events
stay as they are. A command without arguments is its operation, whatever the operations are. -/
theorem runProgram_cases (args : List String) :
    (∀ reason, Invocation.parse args = .error (.stop reason) →
      ∃ code out err, (code = 0 ∨ code = 2) ∧ ∀ s : State, runProgram args s =
        .ok (.exited code) { s with out := s.out ++ out, err := s.err ++ err }) ∧
    (∀ issues, Invocation.parse args = .error (.invalid issues) →
      ∀ s : State, runProgram args s = .error (.invalid Invocation.recordName issues) s) ∧
    (∀ i, Invocation.parse args = .ok i → args.drop (commandIndex args + 1) ≠ [] →
      let parser := helpParser Unit (programName ++ " " ++ i.command.word) i.command.description
      let logging := Logging.ofVerbose i.verbose
      (∃ help, parser.help = .ok help ∧ ∀ s : State, runProgram args s =
        .ok (.returned 0) { startOf i s with
          out := s.out ++ help
          err := s.err ++ (dispatchLog i ++ logging.printed .debug "help_shown" []) }) ∨
      ∃ e, ∀ s : State, runProgram args s =
        .ok (.returned 1) { startOf i s with
          err := s.err ++ (dispatchLog i ++ parser.complaint (UsageError.message e) ++
            logging.printed .debug "command_failed" (refusalContext i.command) ++
            "Error: Could not parse arguments\n") }) ∧
    ∀ {α : Type} (perform : Operation → Act α) (c : Command) (name : String) (s : State),
      execute perform c [name] s = (some <$> perform c.operation) s := by
  refine ⟨fun reason h => runProgram_of_stop h, fun issues h => runProgram_of_invalid h,
    fun i h hd => ?_, fun perform => execute_name perform⟩
  rcases runInvocation_of_tail (arguments_of_parse h) hd with ⟨help, hh, run⟩ | ⟨e, run⟩
  · exact .inl ⟨help, hh, fun s => runProgram_of_parse h (run s)⟩
  · exact .inr ⟨e, fun s => runProgram_of_parse h (run s)⟩

end Act

end StorageKey
