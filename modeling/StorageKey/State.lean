import StorageKey.Config
import StorageKey.World

/-!
# Acting on the world

An action reads and changes the state: the world, what has been printed and done so far, and what
the session remembers. It ends with a result or a failure, and a failure keeps all changes made
before it.

* `Session`: what is remembered between operations;
* `State`, `Act`: the state, and actions on it;
* `Act.log`, `Act.print`, `Act.emit`: the primitive actions.

Each primitive action has an equation that says what it does to a state (`Act.print_apply` and its
like), and a sequence of actions one for either end of its first action (`Act.bind_of_ok`,
`Act.bind_of_error`).
-/

namespace StorageKey

/-- What is remembered between operations: the path of the configuration, if one is given, and the
configuration, the way to reach the key and the agent program, once they are known. -/
structure Session where
  configPath : Option Path
  config : Option Config
  factory : Option Attribute
  agentProgram : Option String
  deriving DecidableEq, Repr

/-- A session that knows nothing but the path of its configuration. -/
def Session.fresh (configPath : Option Path) : Session := ⟨configPath, none, none, none⟩

/-- The state of a run. -/
structure State where
  world : World
  logging : Logging
  session : Session
  out : String
  err : String
  events : List Event

/-- An action on the state. -/
abbrev Act := EStateM Failure State

namespace Act

/-- Print to the standard output. -/
def print (text : String) : Act Unit := modify fun s => { s with out := s.out ++ text }

/-- Print to the standard error output. -/
def printError (text : String) : Act Unit := modify fun s => { s with err := s.err ++ text }

/-- Note an event. -/
def emit (e : Event) : Act Unit := modify fun s => { s with events := s.events ++ [e] }

/-- The world. -/
def world : Act World := do return (← get).world

/-- Change the world. -/
def modifyWorld (f : World → World) : Act Unit := modify fun s => { s with world := f s.world }

/-- The session. -/
def session : Act Session := do return (← get).session

/-- Change the session. -/
def modifySession (f : Session → Session) : Act Unit :=
  modify fun s => { s with session := f s.session }

/-- The result of a computation, whose failure is one of the given form. -/
def ofExcept {ε α : Type} (failure : ε → Failure) : Except ε α → Act α
  | .ok a => pure a
  | .error e => throw (failure e)

/-- Raise the error of a backend's code, if there is one. -/
def raise? : Option Raised → Act Unit
  | none => pure ()
  | some e => throw (.raised e)

/-- Log an event with data. -/
def log (level : Level) (event : String) (c : Context) : Act Unit := do
  let text ← ofExcept .log ((← get).logging.entryText level (.text event) c)
  printError (String.ofList text)

/-! ### What the primitive actions do -/

variable {α β ε : Type}

/-- After a success the next action goes on where it ended. -/
theorem bind_of_ok {x : Act α} {f : α → Act β} {s t : State} {a : α} (h : x s = .ok a t) :
    (x >>= f) s = f a t := by
  simp [bind, EStateM.bind, h]

/-- After a failure nothing more is done. -/
theorem bind_of_error {x : Act α} {f : α → Act β} {s t : State} {e : Failure}
    (h : x s = .error e t) : (x >>= f) s = .error e t := by
  simp [bind, EStateM.bind, h]

@[simp] theorem print_apply (text : String) (s : State) :
    print text s = .ok () { s with out := s.out ++ text } := rfl

@[simp] theorem printError_apply (text : String) (s : State) :
    printError text s = .ok () { s with err := s.err ++ text } := rfl

@[simp] theorem emit_apply (e : Event) (s : State) :
    emit e s = .ok () { s with events := s.events ++ [e] } := rfl

@[simp] theorem world_apply (s : State) : world s = .ok s.world s := rfl

@[simp] theorem session_apply (s : State) : session s = .ok s.session s := rfl

@[simp] theorem modifyWorld_apply (f : World → World) (s : State) :
    modifyWorld f s = .ok () { s with world := f s.world } := rfl

@[simp] theorem modifySession_apply (f : Session → Session) (s : State) :
    modifySession f s = .ok () { s with session := f s.session } := rfl

@[simp] theorem ofExcept_ok (failure : ε → Failure) (a : α) :
    ofExcept failure (.ok a) = pure a := rfl

@[simp] theorem ofExcept_error (failure : ε → Failure) (e : ε) :
    (ofExcept failure (.error e) : Act α) = throw (failure e) := rfl

@[simp] theorem raise?_none : raise? none = pure () := rfl

@[simp] theorem raise?_some (e : Raised) : raise? (some e) = throw (.raised e) := rfl

end Act

end StorageKey
