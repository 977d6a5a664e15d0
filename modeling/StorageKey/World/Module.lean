import StorageKey.Failure

/-!
# Modules of backends

A backend is an attribute of a module. Modules have dotted names; the one before a dot must be a
package and is loaded first.

* `Module`: what a module holds, or the error that loading it raises;
* `Modules.load`: the module of a name.
-/

namespace StorageKey

/-- What an attribute of a module is: a way to reach the key, which may announce itself; a function
whose call raises an error; or something that cannot be called. -/
inductive Attribute
  | factory (announces : Bool)
  | raises (error : Raised)
  | value
  deriving DecidableEq, Repr

/-- A module that is loaded: whether it is a package, its attributes, and the error that its own code
raises when it is asked for another name. -/
structure Loaded where
  isPackage : Bool
  attributes : List (String × Attribute)
  refusal? : String → Option Raised

/-- The attribute of a name, if there is one. -/
def Loaded.attribute? (m : Loaded) (name : String) : Except Raised (Option Attribute) :=
  match m.attributes.lookup name with
  | some a => .ok (some a)
  | none =>
    match m.refusal? name with
    | some e => .error e
    | none => .ok none

/-- A module that can be loaded, the error that loading it raises, or a module that is found by its
full name: because it is there already, or because the code of the module above it puts it there. -/
inductive Module
  | loads (isPackage : Bool) (attributes : List (String × Attribute))
    (refusal? : String → Option Raised := fun _ => none)
  | raises (error : Raised)
  | present (module : Loaded)
  | installed (module : Loaded)

/-- The modules by their full names. -/
abbrev Modules := List (String × Module)

namespace Modules

/-- The name in quotes, as messages give it. -/
def quoted (name : String) : String := String.ofList (Text.quote name.toList)

/-- The error that there is no module of a name. -/
def noModule (name : String) : Raised := ⟨.missingModule, "No module named " ++ quoted name⟩

/-- The error that a module cannot have modules below it. -/
def noPackage (name parent : String) : Raised :=
  ⟨.missingModule,
    "No module named " ++ quoted name ++ "; " ++ quoted parent ++ " is not a package"⟩

/-- The error that too many modules are being loaded. -/
def tooDeep : Raised := ⟨.runtime, Decimal.depthMessage⟩

/-- The attribute of a package that says where the modules below it are. -/
def placesName : String := "__path__"

/-- The module of a name once the ones above it are loaded. -/
def own (ms : Modules) (name : String) : Except Raised Loaded :=
  match ms.lookup name with
  | none => .error (noModule name)
  | some (.raises e) => .error e
  | some (.loads isPackage attributes refusal?) => .ok ⟨isPackage, attributes, refusal?⟩
  | some (.present m) => .ok m
  | some (.installed m) => .ok m

/-- Whether the code of the module above it puts a module there. -/
def isInstalled (ms : Modules) (name : String) : Bool :=
  match ms.lookup name with
  | some (.installed _) => true
  | _ => false

/-- The module of a name once the module above it is loaded, which must be a package unless the module
is there now. -/
def ownBelow (ms : Modules) (name parent : String) (above : Loaded) : Except Raised Loaded :=
  if above.isPackage || ms.isInstalled name then ms.own name
  else .error ((above.refusal? placesName).getD (noPackage name parent))

/-- The name of the module above a module, if there is one: what stands before the last dot. -/
def above? (name : String) : Option String :=
  match name.toList.reverse.dropWhile (· ≠ '.') with
  | [] => none
  | _ :: parent => some (String.ofList parent.reverse)

/-- The module of a name. One that is there already is taken as it is. For any other the module above
it is loaded first, as long as there is room for it. -/
def load (ms : Modules) (room : Nat) (name : String) : Except Raised Loaded :=
  match ms.lookup name with
  | some (.present m) => .ok m
  | _ =>
    match above? name with
    | none => ms.own name
    | some parent =>
      match room with
      | 0 => .error tooDeep
      | room + 1 => ms.load room parent >>= ms.ownBelow name parent

end Modules

end StorageKey
