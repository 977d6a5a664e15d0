import StorageKey.Text.Quoted

/-!
# Parsers of command lines

A command line holds options, which start with a hyphen, and perhaps operands: a word and whatever
follows it. A parser says which options there are and what they do to the settings of a type.

* `Switch`: an option by its names;
* `Operands`: the word and the rest that a command line has besides options;
* `Parser`: both together, with the name of the program and what it does;
* `UsageError`: what is wrong with a command line.
-/

namespace StorageKey.Usage

open StorageKey.Text

/-- Why a text is no value of an option or an operand. -/
inductive BadValue
  | notInteger (text : String)
  | unknownWord (kind word : String) (choices : List String)
  deriving DecidableEq, Repr

/-- The wording of a bad value. -/
def BadValue.message : BadValue → String
  | .notInteger text => "invalid int value: " ++ String.ofList (quote text.toList)
  | .unknownWord kind word choices =>
    "unknown " ++ kind ++ ": " ++ word ++ " (choose from " ++ String.intercalate "|" choices ++ ")"

/-- What is wrong with an option or operand. -/
inductive ArgumentFault
  | missingValue
  | unusedValue (text : String)
  | badValue (cause : BadValue)
  deriving DecidableEq, Repr

/-- The wording of a fault. -/
def ArgumentFault.message : ArgumentFault → String
  | .missingValue => "expected one argument"
  | .unusedValue text => "ignored explicit argument " ++ String.ofList (quote text.toList)
  | .badValue cause => cause.message

/-- What is wrong with a command line. -/
inductive UsageError
  | ambiguous (token : String) (names : List String)
  | argument (name : String) (fault : ArgumentFault)
  | missing (names : List String)
  | unrecognized (tokens : List String)
  deriving DecidableEq, Repr

/-- The wording of an error. -/
def UsageError.message : UsageError → String
  | .ambiguous token names =>
    "ambiguous option: " ++ token ++ " could match " ++ String.intercalate ", " names
  | .argument name fault => "argument " ++ name ++ ": " ++ fault.message
  | .missing names => "the following arguments are required: " ++ String.intercalate ", " names
  | .unrecognized tokens => "unrecognized arguments: " ++ String.intercalate " " tokens

/-- What an option does. An option with a value changes the settings by the value, and in another
way if the value is a lone double hyphen, which counts as none. -/
inductive Effect (σ : Type) where
  | help
  | version (text : String)
  | set (change : σ → σ)
  | value (placeholder : String) (read : String → Except BadValue (σ → σ)) (noValue : σ → σ)

/-- An option: its names, what it does, and what its help says. -/
structure Switch (σ : Type) where
  names : List String
  effect : Effect σ
  summary : String

/-- The operands of a command line: a word, and the tokens after it, which are taken as they
are. -/
structure Operands (σ : Type) where
  word : String
  wordSummary : String
  rest : String
  restSummary : String
  read : String → List String → Except BadValue (σ → σ)

/-- A parser of command lines. -/
structure Parser (σ : Type) where
  program : String
  description : String
  switches : List (Switch σ)
  operands : Option (Operands σ)

variable {σ : Type}

/-- Whether an option has a value. -/
def Switch.takesValue (s : Switch σ) : Bool :=
  match s.effect with
  | .value _ _ _ => true
  | _ => false

/-- The name of an option in messages. -/
def Switch.title (s : Switch σ) : String := String.intercalate "/" s.names

/-- The option of a name. -/
def Parser.switch? (p : Parser σ) (name : String) : Option (Switch σ) :=
  p.switches.find? (·.names.contains name)

/-- All names of options with their options. -/
def Parser.names (p : Parser σ) : List (String × Switch σ) :=
  p.switches.flatMap fun s => s.names.map fun n => (n, s)

/-- The option that shows the help. -/
def helpSwitch (σ : Type) : Switch σ where
  names := ["-h", "--help"]
  effect := .help
  summary := "show this help message and exit"

end StorageKey.Usage
