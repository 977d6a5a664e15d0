import StorageKey.Data.Entries
import StorageKey.World.Files
import StorageKey.World.Module
import StorageKey.Yaml.Document

/-!
# The world around the program

What the program meets: files, variables, the program that asks for passphrases, the key, the
modules of backends, and the machine that it runs on.

* `Host`: what the machine says and how deep it goes;
* `World`: all of it;
* `Event`: what the program does to it.
-/

namespace StorageKey

open Entries

/-- What a run of the agent program gives back. -/
structure Response where
  out : List UInt8
  err : List UInt8
  code : Nat
  deriving DecidableEq, Repr

/-- The answers of the agent program to its next runs, and its answer when these are used up. -/
structure Agent where
  answers : List Response
  afterwards : Response
  deriving DecidableEq, Repr

/-- The next answer. -/
def Agent.next (a : Agent) : Response × Agent :=
  match a.answers with
  | [] => (a.afterwards, a)
  | r :: rs => (r, { a with answers := rs })

/-- A key: the fields of its status, the error for a passphrase, if it is rejected, and errors that
its calls raise. Of the errors for unlocking, each call takes one, which may be none. -/
structure Device where
  status : List (Value × Value)
  verdict : String → Option Raised
  connectError : Option Raised
  statusError : Option Raised
  lockError : Option Raised
  unlockErrors : List (Option Raised)

/-- A machine: the home that it has on record for the user, if it has one, and how deep it goes
before it gives up, when it reads the document in a file and when it loads a module of a name. How
deep this is may rest on the file and on the name. -/
structure Host where
  home : Option String := some "/root"
  documentLimits : List UInt8 → Yaml.Limits := fun _ => .usual
  importRoom : String → Nat := fun _ => 247

/-- Everything that the program meets. -/
structure World where
  files : Files
  environment : List (String × String)
  agent : Agent
  device : Device
  modules : Modules
  host : Host := {}

namespace World

/-- The value of a variable. -/
def valueOf? (w : World) (name : String) : Option String := w.environment.lookup name

/-- Set or unset a variable. -/
def setVariable (w : World) (name : String) (value : Option String) : World :=
  let others := w.environment.filter (·.1 ≠ name)
  { w with environment := match value with
    | some v => (name, v) :: others
    | none => others }

theorem valueOf?_setVariable_of_ne (w : World) {name other : String} (value : Option String)
    (h : other ≠ name) : (w.setVariable name value).valueOf? other = w.valueOf? other := by
  have hne : (other == name) = false := by simpa using h
  cases value with
  | none => exact lookup_filter_of_ne w.environment h
  | some v =>
    simp only [setVariable, valueOf?, List.lookup_cons, hne]
    exact lookup_filter_of_ne w.environment h

/-- The document in a file of a content. -/
def loadDocument (w : World) (content : List UInt8) : Except Yaml.Fault Yaml.Document :=
  Yaml.load (w.host.documentLimits content) content

/-- The module of a name. -/
def loadModule (w : World) (name : String) : Except Raised Loaded :=
  w.modules.load (w.host.importRoom name) name

end World

/-- What the program does to the world. -/
inductive Event
  | connect
  | status
  | unlock (passphrase : String)
  | lock
  | flush
  | agent (arguments : List String)
  deriving DecidableEq, Repr

end StorageKey
