import StorageKey.Program

/-!
# The command line of the program

The world of the process is read as far as the program needs it: its variables and the file of its
configuration. No backend can be loaded and no agent program be started from here, so that commands
that need one of them report that it is missing.
-/

namespace StorageKey

/-- The variables that the program reads. -/
def variableNames : List String := [World.configVariable, World.configHomeVariable, "HOME", "PATH"]

/-- The variables of the process. -/
def readVariables : IO (List (String × String)) :=
  variableNames.filterMapM fun name => do
    return (← IO.getEnv name).map fun value => (name, value)

/-- The files with the one at a path, if it can be read. -/
def readFileAt (path : String) : IO Files := do
  try
    let content ← IO.FS.readBinFile path
    return Files.empty.write path (.file content.toList)
  catch _ => return Files.empty

/-- The world of the process without files. -/
def bareWorld (environment : List (String × String)) : World where
  files := .empty
  environment := environment
  agent := ⟨[], ⟨[], [], 0⟩⟩
  device := ⟨[], fun _ => none, none, none, none, []⟩
  modules := []

/-- The path of the configuration that a command line leads to. -/
def configPathOf (w : World) (args : List String) : Option Path :=
  match Invocation.parse args with
  | .error _ => none
  | .ok i => ((w.configSource i.config).map ConfigSource.path).toOption

/-- The state in which the program starts. -/
def startState (args : List String) : IO State := do
  let world := bareWorld (← readVariables)
  let files ← match configPathOf world args with
    | some p => readFileAt p.text
    | none => pure Files.empty
  return ⟨{ world with files := files }, .ofVerbose false, .fresh none, "", "", []⟩

/-- Print what a run has printed. -/
def flushState (s : State) : IO Unit := do
  IO.print s.out
  IO.eprint s.err

end StorageKey

open StorageKey in
/-- Run a command line. -/
def main (args : List String) : IO UInt32 := do
  match Act.runProgram args (← startState args) with
  | .ok ending s => do
    flushState s
    return UInt32.ofNat ending.code
  | .error f s => do
    flushState s
    IO.eprintln f.message
    return 1
