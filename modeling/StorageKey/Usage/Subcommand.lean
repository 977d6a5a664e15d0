import StorageKey.State
import StorageKey.Usage.Help
import StorageKey.Usage.Parse

/-!
# Command lines of commands

The first argument is the name under which a command reports, the others are parsed. Parsing never
ends the program: it has an outcome, and what it has to say is kept by where it belongs.

* `Outcome`, `Reply`, `Parser.answer`: the outcome of parsing a command's arguments;
* `Act.settle`: whether the command goes on.
-/

namespace StorageKey.Usage

open StorageKey.Text

variable {σ : Type}

/-- The outcome of parsing a command's arguments. -/
inductive Outcome
  | success
  | helpRequested
  | failure
  deriving DecidableEq, Repr

/-- What parsing comes to: the outcome, the settings, the help that was asked for, and the
complaint. -/
structure Reply (σ : Type) where
  outcome : Outcome
  settings : σ
  help : String
  complaint : String

/-- The parser of a command with the help option only. -/
def helpParser (σ : Type) (program description : String) : Parser σ :=
  ⟨program, description, [helpSwitch σ], none⟩

/-- A parser under the name that the arguments give it. -/
def Parser.named (p : Parser σ) (args : List String) : Parser σ :=
  match args with
  | [] => p
  | name :: _ => { p with program := name }

/-- Parse the arguments of a command. -/
def Parser.answer (p : Parser σ) (settings : σ) (args : List String) :
    Except Template.Fault (Reply σ) :=
  let p := p.named args
  let parsed := p.parse settings args.tail
  match parsed.stop with
  | none => .ok ⟨.success, parsed.settings, "", ""⟩
  | some .help => p.help.map fun text => ⟨.helpRequested, parsed.settings, text, ""⟩
  | some (.version text) => .ok ⟨.helpRequested, parsed.settings, text ++ "\n", ""⟩
  | some (.failure e) => .ok ⟨.failure, parsed.settings, "", p.complaint e.message⟩

end StorageKey.Usage

namespace StorageKey.Act

open StorageKey.Usage

/-- Whether a command goes on after its arguments are parsed. -/
def settle : Outcome → Act Bool
  | .success => return true
  | .helpRequested => do
    log .debug "help_shown" []
    return false
  | .failure => throw .arguments

end StorageKey.Act
