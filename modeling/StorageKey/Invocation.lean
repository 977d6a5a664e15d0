import StorageKey.Command
import StorageKey.Record.Coerce
import StorageKey.Usage.Parse

/-!
# Invocations of the program

A command line holds the program's own options, the word for a command, and what belongs to the
command. The parser gets the line up to the word only; the tokens after it are the command's, as
they were given, and are preceded by the name under which the command reports errors.

* `Invocation`: what the program is told to do, and `Invocation.ofValue`, read from a record;
* `commandIndex`: where the word for the command stands;
* `Invocation.parse`: the invocation of a command line, or why there is none.
-/

namespace StorageKey

open Record Text Usage

/-- What the program is told to do. -/
structure Invocation where
  command : Command
  arguments : List String
  verbose : Bool
  config : Option Path
  deriving DecidableEq, Repr

/-- The name of the program. -/
def programName : String := "nitrocli"

/-- The version of the program. -/
def programVersion : String := "0.1.0"

/-! ### Records -/

namespace Invocation

/-- The commands by their words. -/
def commandWords : List (String × Command) := Command.all.map fun c => (c.word, c)

/-- The rule that the arguments start with a name. -/
def checkArguments (v : Value) (args : List String) : Checked (List String) :=
  match args with
  | a :: _ => if allBlank a.toList then broken else .ok args
  | [] => broken
where
  /-- The issue of arguments without a name. -/
  broken : Checked (List String) :=
    .bad [⟨["arguments"], .rule "Arguments must start with the program name", v⟩]

/-- The arguments of a record. -/
def argumentsOf (es : List (Value × Value)) : Checked (List String) :=
  match requiredTexts es "arguments" with
  | .ok args => checkArguments ((field? es "arguments").getD .null) args
  | .bad is => .bad is

/-- The name of the record in reports. -/
def recordName : String := "CliArgs"

/-- The invocation that entries make. -/
def ofEntries (es : List (Value × Value)) : Checked Invocation :=
  Invocation.mk <$> required es "command" (asWord commandWords .noneOfChoices) <*>
    argumentsOf es <*> optional es "verbose" false asTruth <*> optional es "config" none (orNothing asPath)

/-- The invocation that a value is. -/
def ofValue (v : Value) : Except (List Issue) Invocation := do
  let es ← entriesOf recordName v
  (ofEntries es).toExcept

end Invocation

/-! ### Command lines -/

/-- The settings that a command line makes. An option for the configuration may be given a value
that counts as none. -/
structure Settings where
  verbose : Bool
  config : Option (Option Path)
  command : Option Command
  rest : List String
  deriving DecidableEq, Repr

/-- The settings before a command line is read. -/
def Settings.initial : Settings := ⟨false, none, none, []⟩

/-- The command of a word, or why there is none. -/
def readCommand (word : String) : Except BadValue Command :=
  match Command.ofString? word with
  | some c => .ok c
  | none => .error (.unknownWord "command" word (Command.all.map Command.word))

/-- The option that makes output verbose. -/
def verboseSwitch : Switch Settings :=
  ⟨["-v", "--verbose"], .set fun s => { s with verbose := true }, "Enable verbose logging"⟩

/-- The option that names the configuration. -/
def configSwitch : Switch Settings :=
  ⟨["-c", "--config"],
    .value "CONFIG" (fun p => .ok fun s => { s with config := some (some (Path.ofString p)) })
      (fun s => { s with config := some none }),
    "Path to the nitrocli configuration file"⟩

/-- The option that shows the version. -/
def versionSwitch : Switch Settings :=
  ⟨["-V", "--version"], .version (programName ++ " " ++ programVersion),
    "show program's version number and exit"⟩

/-- The parser of the program's own options. -/
def topParser : Parser Settings where
  program := programName
  description := "Provides access to a Nitrokey device"
  switches := [helpSwitch Settings, verboseSwitch, configSwitch, versionSwitch]
  operands := some {
    word := "command"
    wordSummary := "The command to execute (clear|close|open|status)"
    rest := "arguments"
    restSummary := "The arguments for the command"
    read := fun word rest =>
      (readCommand word).map fun c s => { s with command := some c, rest := rest } }

/-- Whether a token is an option whose value is the next token. -/
def takesNext (token : String) : Bool :=
  token = "--config" ||
  (match token.toList with
    | '-' :: r => r.getLast? = some 'c' && r.dropLast.all fun c => c = 'v' || c = 'V'
    | _ => false)

/-- The place of the word for the command in a command line; past its end if there is none. -/
def commandIndex : List String → Nat
  | [] => 0
  | t :: r =>
    if t = "--" then 1
    else if isStart "-" t ∧ t ≠ "-" then
      if takesNext t then
        match r with
        | [] => 1
        | _ :: r => 2 + commandIndex r
      else 1 + commandIndex r
    else 0

/-- The record of the settings of a command line with the tokens after the command's word. -/
def Settings.entries (s : Settings) (c : Command) (rest : List String) : List (Value × Value) := [
  (.text "command", .text c.word),
  (.text "arguments", .list (.text (programName ++ " " ++ c.word) :: rest.map .text)),
  (.text "verbose", .bool s.verbose),
  (.text "config", match s.config with
    | none => .null
    | some none => .list []
    | some (some p) => .text p.text)]

/-- Why a command line makes no invocation. -/
inductive InvocationFault
  | stop (reason : Stop)
  | invalid (issues : List Issue)
  deriving Repr

/-- The invocation of a command line. -/
def Invocation.parse (args : List String) : Except InvocationFault Invocation :=
  let split := commandIndex args + 1
  let parsed := topParser.parse Settings.initial (args.take split)
  match parsed.stop, parsed.settings.command with
  | some reason, _ => .error (.stop reason)
  | none, none => .error (.stop (.failure (.missing ["command", "arguments"])))
  | none, some c =>
    (Invocation.ofEntries (parsed.settings.entries c (args.drop split))).toExcept.mapError .invalid

end StorageKey
