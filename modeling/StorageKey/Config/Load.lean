import StorageKey.Config.Source

/-!
# Loading the configuration

* `Act.loadConfig`: the configuration, or why there is none. Only the user's own file may be absent.
-/

namespace StorageKey

open Record

/-- Whether a text holds a null character, which no path can. -/
def hasNull (s : String) : Bool := s.toList.contains '\x00'

/-- Whether a path leads anywhere. -/
def Files.exists? (fs : Files) (path : String) : Except SystemFault Bool :=
  if hasNull path then .ok false
  else
    match fs.find path with
    | .ok _ => .ok true
    | .error .notFound => .ok false
    | .error .notDirectory => .ok false
    | .error f => .error f

/-- The failure of a file in which there is no document. A fault of the text that is not that it
is none, or cannot be read on, is not reported. -/
def documentFailure (path : String) : Yaml.Fault → Failure
  | .malformed => .config (.noDocument path)
  | .unread f => .config (.unreadable path (.text f))
  | f => .document f

namespace World

/-- The document in a file. -/
def documentAt (w : World) (path : String) : Except Failure Yaml.Document := do
  let content ← (w.files.read path).mapError fun f => .config (.unreadable path (.system f path))
  (w.loadDocument content).mapError (documentFailure path)

/-- The entries of the configuration in a file. -/
def entriesAt (w : World) (path : String) : Except Failure (List (Value × Value)) := do
  match (← w.documentAt path).entries? with
  | some es => .ok es
  | none => .error (.config (.noMapping path))

end World

namespace Act

/-- The configuration in a file. -/
def readConfig (path : String) : Act Config := do
  log .debug "loading_config" [("config", .text path)]
  let es ← ofExcept id ((← world).entriesAt path)
  let config ← ofExcept (fun is => .config (.invalid path is)) (Config.ofEntries es).toExcept
  log .debug "loaded_config" [("config", .text path), ("_verbose_settings", .map config.context)]
  return config

/-- The configuration of the program. -/
def loadConfig (given : Option Path) : Act Config := do
  let source ← ofExcept id ((← world).configSource given)
  let path := source.path.text
  if ← ofExcept (fun f => .system f path) ((← world).files.exists? path) then readConfig path
  else if source.required then throw (.config (.notFound path))
  else do
    log .debug "using_default_config" [("config", .text path)]
    return Config.usual

end Act

end StorageKey
