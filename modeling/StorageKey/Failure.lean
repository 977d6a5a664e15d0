import StorageKey.Log.Entry
import StorageKey.Record.Issue
import StorageKey.Text.Template
import StorageKey.Text.Utf8
import StorageKey.World.Files
import StorageKey.Yaml.Fault

/-!
# What can fail

An error has a kind. The errors that the program reports to its user form a small tree of kinds;
every other failure ends the program.

* `ErrorKind`: the kinds of reported errors and their tree;
* `ConfigFault`, `BackendFault`, `AgentFault`: the causes of reported errors by where they arise;
* `Failure`: every cause, with `Failure.message` and `Failure.kind?`.
-/

namespace StorageKey

open Decimal Record Text

/-! ### Kinds -/

/-- The kinds of errors that are reported to the user. -/
inductive ErrorKind
  | general
  | arguments
  | configuration
  | device
  | wrongPassphrase
  | passphraseAgent
  deriving DecidableEq, Repr

namespace ErrorKind

/-- A kind and all kinds that it is a case of. -/
def lineage : ErrorKind → List ErrorKind
  | general => [general]
  | wrongPassphrase => [wrongPassphrase, device, general]
  | k => [k, general]

/-- The message of an error of a kind that is given none. -/
def usualMessage : ErrorKind → String
  | arguments => "Could not parse arguments"
  | _ => ""

end ErrorKind

/-- The kinds of errors that the code of a backend can raise. -/
inductive RaisedKind
  | reported (kind : ErrorKind)
  | runtime
  | value
  | type
  | missingModule
  | missingLibrary
  deriving DecidableEq, Repr

/-- An error that the code of a backend raises. -/
structure Raised where
  kind : RaisedKind
  message : String
  deriving DecidableEq, Repr

/-- Whether an error is that a module or a library is missing. -/
def Raised.isImport (r : Raised) : Bool := r.kind = .missingModule || r.kind = .missingLibrary

/-! ### Causes -/

/-- Why a file cannot be read. -/
inductive ReadFault
  | system (fault : SystemFault) (path : String)
  | text (fault : Utf8.Fault)
  deriving DecidableEq, Repr

/-- The wording of a fault. -/
def ReadFault.message : ReadFault → String
  | .system fault path => fault.message path
  | .text fault => fault.message

/-- Why there is no configuration. -/
inductive ConfigFault
  | notFound (path : String)
  | unreadable (path : String) (cause : ReadFault)
  | noDocument (path : String)
  | noMapping (path : String)
  | invalid (path : String) (issues : List Issue)
  deriving Repr

/-- The wording of a fault. -/
def ConfigFault.message : ConfigFault → String
  | .notFound path => "configuration file not found: " ++ path
  | .unreadable path cause => "failed to read configuration file " ++ path ++ ": " ++ cause.message
  | .noDocument path =>
    "failed to parse YAML: " ++ Yaml.Fault.malformed.message ++ "\n  in \"" ++ path ++ "\""
  | .noMapping path => "configuration root must be a mapping in " ++ path
  | .invalid path issues =>
    "invalid configuration in " ++ path ++ ": " ++ report "NitrocliConfig" issues

/-- Why there is no backend. -/
inductive BackendFault
  | notConfigured
  | badSpecification (text : String)
  | notImported (module : String) (cause : Raised)
  | notCallable (text : String)
  deriving DecidableEq, Repr

/-- The wording of a fault. -/
def BackendFault.message : BackendFault → String
  | .notConfigured => "no Nitrokey device backend configured"
  | .badSpecification text => "invalid device backend specification: " ++ text
  | .notImported module cause =>
    "failed to import device backend " ++ module ++ ": " ++ cause.message
  | .notCallable text => "device backend " ++ text ++ " is not callable"

/-- Why the program that asks for passphrases gives no answer, or none that is accepted. -/
inductive AgentFault
  | notFound (program : String)
  | failed (program : String) (complaint : List Char)
  | refused (reason : List Char)
  | unexpected (response : List Char)
  deriving DecidableEq, Repr

/-- The wording of a fault. -/
def AgentFault.message : AgentFault → String
  | .notFound program => program ++ " not found"
  | .failed program complaint => program ++ " failed: " ++ String.ofList complaint
  | .refused reason => String.ofList reason
  | .unexpected response => "Unexpected response: " ++ String.ofList (quote response)

/-! ### All failures -/

/-- Why an operation fails. -/
inductive Failure
  | arguments
  | config (fault : ConfigFault)
  | backend (fault : BackendFault)
  | agent (fault : AgentFault)
  /-- The code of a backend raises an error. -/
  | raised (error : Raised)
  /-- A record is not accepted. -/
  | invalid (record : String) (issues : List Issue)
  /-- A scalar of a document does not spell what its tag says. -/
  | document (fault : Yaml.Fault)
  | log (fault : LogFault)
  | integer (fault : WriteFault)
  | template (fault : Template.Fault)
  /-- An answer is not UTF-8. -/
  | undecodable (fault : Utf8.Fault)
  | system (fault : SystemFault) (path : String)
  | nullByte
  | noHome
  /-- A module is named relative to another. -/
  | relativeModule (name : String)
  deriving Repr

namespace Failure

/-- The wording of a failure. -/
def message : Failure → String
  | arguments => ErrorKind.arguments.usualMessage
  | config fault => fault.message
  | backend fault => fault.message
  | agent fault => fault.message
  | raised error => error.message
  | invalid record issues => report record issues
  | document fault => fault.message
  | log (.integer fault) => fault.message
  | log (.marks fault) => fault.message
  | integer fault => fault.message
  | template fault => fault.message
  | undecodable fault => fault.message
  | system fault path => fault.message path
  | nullByte => "embedded null byte"
  | noHome => "Could not determine home directory."
  | relativeModule name =>
    "the 'package' argument is required to perform a relative import for " ++
      String.ofList (quote name.toList)

/-- The kind of a failure that is reported to the user. -/
def kind? : Failure → Option ErrorKind
  | arguments => some .arguments
  | config _ => some .configuration
  | backend _ => some .device
  | agent _ => some .passphraseAgent
  | raised ⟨.reported kind, _⟩ => some kind
  | _ => none

/-- Whether a failure is that the key rejects the passphrase. -/
def isWrongPassphrase (f : Failure) : Bool := f.kind? = some .wrongPassphrase

end Failure

end StorageKey
