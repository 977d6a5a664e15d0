import StorageKey.Invocation
import StorageKey.Session
import StorageKey.Usage.Subcommand

/-!
# The program

A command line is parsed, and its command carried out in a fresh session. Errors of the kinds that
are reported to the user are printed; every other failure ends the program.

* `Act.execute`: a command with its arguments;
* `Act.runProgram`: a whole command line, with its exit code.
-/

namespace StorageKey

open Usage

/-- The operation that belongs to a command. -/
def Command.operation : Command → Operation
  | .clearPassphrase => .clearPassphrase
  | .closeVolume => .closeVolume
  | .openVolume => .openVolume
  | .showStatus => .showStatus

/-- How a command line ends: the program is left while its options are read, or returns a code. -/
inductive Ending
  | exited (code : Nat)
  | returned (code : Nat)
  deriving DecidableEq, Repr

/-- The exit code of an ending. -/
def Ending.code : Ending → Nat
  | .exited code => code
  | .returned code => code

namespace Act

/-- Carry out a command with its arguments, by the given way to perform its operation. Nothing is
performed if the arguments ask for help. -/
def execute {α : Type} (perform : Operation → Act α) (c : Command) (args : List String) :
    Act (Option α) := do
  let parser := helpParser Unit programName c.description
  let reply ← ofExcept .template (parser.answer () args)
  print reply.help
  printError reply.complaint
  if ← settle reply.outcome then return some (← perform c.operation) else return none

/-- Carry out an invocation. -/
def dispatch {α : Type} (perform : Operation → Act α) (i : Invocation) : Act (Option α) := do
  log .debug "dispatching_command"
    [("command", .text i.command.word), ("_verbose_arguments", .list (i.arguments.map .text))]
  execute perform i.command i.arguments

/-- Say why the parsing of a command line stopped, and the exit code for it. -/
def explain : Stop → Act Nat
  | .help => do
    print (← ofExcept .template topParser.help)
    return 0
  | .version text => do
    print (text ++ "\n")
    return 0
  | .failure e => do
    printError (topParser.complaint e.message)
    return 2

/-- The invocation of a command line, or the code with which the program is left. -/
def parseInvocation (args : List String) : Act (Nat ⊕ Invocation) := do
  match Invocation.parse args with
  | .ok i => return .inr i
  | .error (.stop reason) => return .inl (← explain reason)
  | .error (.invalid issues) => throw (.invalid Invocation.recordName issues)

/-- Report a failure of a command to the user, or end with it. -/
def report (c : Command) (f : Failure) : Act Nat := do
  match f.kind? with
  | none => throw f
  | some _ => do
    log .debug "command_failed" [("command", .text c.word), ("error", .text f.message)]
    printError ("Error: " ++ f.message ++ "\n")
    return 1

/-- Carry out an invocation in a fresh session. -/
def runInvocation (i : Invocation) : Act Nat := do
  modify fun s => { s with logging := .ofVerbose i.verbose, session := .fresh i.config }
  tryCatch
    (do
      let _ ← dispatch perform i
      return 0)
    (report i.command)

/-- Run a whole command line. -/
def runProgram (args : List String) : Act Ending := do
  match ← parseInvocation args with
  | .inl code => return .exited code
  | .inr i => return .returned (← runInvocation i)

end Act

end StorageKey
