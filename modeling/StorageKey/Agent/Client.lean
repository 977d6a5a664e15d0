import StorageKey.Agent.Response
import StorageKey.Config.Load

/-!
# Asking the agent program

The program is named by a path, or by a name that is looked for in the directories of a variable.
It gets one request and gives one answer.

* `World.locate`: whether the program can be run;
* `Act.askAgent`: its answer to a request;
* `Act.inquirePassphrase`, `Act.clearPassphrase`: the two requests.
-/

namespace StorageKey

open Text

/-! ### Running it -/

/-- The directories that are searched if no variable names them. -/
def usualSearchPath : String := "/bin:/usr/bin"

/-- A name below a directory, which is the working directory if it has no name. -/
def inDirectory (directory name : String) : String :=
  if directory = "" then name
  else if directory.toList.getLast? = some '/' then directory ++ name
  else directory ++ "/" ++ name

/-- The paths at which a program is looked for. -/
def World.candidates (w : World) (program : String) : List String :=
  if program.toList.contains '/' then [program]
  else
    (separate ':' ((w.valueOf? "PATH").getD usualSearchPath).toList).map fun d =>
      inDirectory (String.ofList d) program

/-- Whether the program at a path can be run. -/
def Files.run (fs : Files) (path : String) : Except SystemFault Unit :=
  match fs.find path with
  | .error f => .error f
  | .ok (.program true _) => .ok ()
  | .ok _ => .error .permission

/-- Whether a fault says that nothing is there. -/
def SystemFault.isAbsence : SystemFault → Bool
  | .notFound | .notDirectory => true
  | _ => false

/-- Whether one of several paths can be run. The first fault that is no absence is reported, else
the last absence. -/
def Files.runFirst (fs : Files) (found : Option SystemFault) (last : SystemFault) :
    List String → Except SystemFault Unit
  | [] => .error (found.getD last)
  | p :: ps =>
    match fs.run p with
    | .ok () => .ok ()
    | .error f => fs.runFirst (found.or (if f.isAbsence then none else some f)) f ps

/-- Whether a program can be run. -/
def World.locate (w : World) (program : String) : Except SystemFault Unit :=
  w.files.runFirst none .notFound (w.candidates program)

/-- The text of what a program has printed. -/
def printedText (bytes : List UInt8) : Except Utf8.Fault (List Char) :=
  (Utf8.decode bytes).map unifyNewlines

/-- The answer in what a run of a program gives back. -/
def Response.answer (program : String) (r : Response) : Except Failure (List Char) := do
  let out ← (printedText r.out).mapError .undecodable
  let err ← (printedText r.err).mapError .undecodable
  if r.code = 0 then .ok out else .error (.agent (.failed program (strip err)))

namespace Act

/-- Start a program, or fail as it cannot be started. -/
def startAgent (program : String) : Act Unit := do
  if hasNull program then throw .nullByte
  match (← world).locate program with
  | .ok () => pure ()
  | .error .notFound => throw (.agent (.notFound program))
  | .error f => throw (.system f program)

/-- The answer of the agent program to a request of a verb and its arguments. -/
def askAgent (program verb arguments : String) : Act (List Char) := do
  log .debug "running_gpg_connect_agent" [("request", .text verb)]
  startAgent program
  emit (.agent [verb ++ " " ++ arguments, "/bye"])
  let (response, agent) := (← world).agent.next
  modifyWorld fun w => { w with agent := agent }
  ofExcept id (response.answer program)

/-! ### Requests -/

/-- The name under which the passphrase is cached. -/
def cacheName : String := "nitrocli:user"

/-- Ask for the passphrase. -/
def inquirePassphrase (program : String) : Act String := do
  let response ← askAgent program "GET_PASSPHRASE"
    ("--data " ++ cacheName ++ " + PIN Please+enter+user+PIN")
  let passphrase ← ofExcept .agent (passphraseOf response)
  return String.ofList passphrase

/-- Clear the cached passphrase. -/
def clearPassphrase (program : String) : Act Unit := do
  let response ← askAgent program "CLEAR_PASSPHRASE" cacheName
  ofExcept .agent (checkSuccess response)
  log .info "passphrase_cleared" [("cache_id", .text cacheName)]

end Act

end StorageKey
