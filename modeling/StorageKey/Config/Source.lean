import StorageKey.State

/-!
# Where the configuration is

A path that is given comes first, then the one of a variable; both must exist. Otherwise it is the
user's own file, which may be absent.

* `ConfigSource`, `World.configSource`: the path and whether the file must exist.
-/

namespace StorageKey

/-- The path of the configuration, and whether its file must exist. -/
structure ConfigSource where
  path : Path
  required : Bool
  deriving DecidableEq, Repr

namespace World

/-- The variable that names a configuration. -/
def configVariable : String := "NITROCLI_CONFIG"

/-- The variable that names the directory of the user's configurations. -/
def configHomeVariable : String := "XDG_CONFIG_HOME"

/-- The value of a variable, unless it is empty. -/
def setVariable? (w : World) (name : String) : Option String :=
  match w.valueOf? name with
  | some "" => none
  | v => v

/-- The home of the user: the one of a variable, or the one on record. What starts with a tilde names
none. -/
def home (w : World) : Except Failure Path :=
  match (w.valueOf? "HOME").or w.host.home with
  | none => .error .noHome
  | some h =>
    let trimmed := (h.toList.reverse.dropWhile (· = '/')).reverse
    match trimmed with
    | [] => .ok (Path.ofString "/")
    | '~' :: _ => .error .noHome
    | _ => .ok (Path.ofString (String.ofList trimmed))

/-- The directory of the user's configurations. -/
def configHome (w : World) : Except Failure Path :=
  match w.setVariable? configHomeVariable with
  | some d => .ok (Path.ofString d)
  | none => w.home.map fun h => h.join [".config"]

/-- The path of the user's own configuration. -/
def ownConfigPath (w : World) : Except Failure Path :=
  w.configHome.map fun d => d.join ["nitrocli", "config.yaml"]

/-- Where the configuration is. -/
def configSource (w : World) (given : Option Path) : Except Failure ConfigSource :=
  match given, w.setVariable? configVariable with
  | some p, _ => .ok ⟨p, true⟩
  | none, some v => .ok ⟨Path.ofString v, true⟩
  | none, none => w.ownConfigPath.map fun p => ⟨p, false⟩

end World

end StorageKey
