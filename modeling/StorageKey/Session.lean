import StorageKey.Agent.Client
import StorageKey.Backend

/-!
# A session with a key

The configuration is loaded, the backend chosen and the agent program named when an operation first
needs them, and remembered from then on; what fails is tried again.

* `Operation`: what can be done with a key;
* `Act.sessionConfig`, `Act.connect`: what operations rest on;
* `Act.perform`: the operations.
-/

namespace StorageKey

/-- What can be done with a key. -/
inductive Operation
  | showStatus
  | openVolume
  | closeVolume
  | clearPassphrase
  deriving DecidableEq, Repr

namespace Act

/-- The configuration of the session. -/
def sessionConfig : Act Config := do
  match (← session).config with
  | some c => return c
  | none => do
    let c ← loadConfig (← session).configPath
    modifySession fun s => { s with config := some c }
    return c

/-- A configuration that is known is not loaded again. -/
theorem sessionConfig_of_some {s : State} {c : Config} (h : s.session.config = some c) :
    sessionConfig s = .ok c s := by
  simp [sessionConfig, bind, EStateM.bind, h, pure, EStateM.pure]

/-- The agent program of the session. -/
def sessionAgent : Act String := do
  match (← session).agentProgram with
  | some a => return a
  | none => do
    let a := (← sessionConfig).agentProgram
    modifySession fun s => { s with agentProgram := some a }
    return a

/-- The way to reach the key. -/
def sessionFactory : Act Attribute := do
  match (← session).factory with
  | some f => return f
  | none => do
    let f ← loadBackend (← sessionConfig).backend
    modifySession fun s => { s with factory := some f }
    return f

/-- The backend of a configuration as part of a log entry. -/
def backendDatum (c : Config) : Datum :=
  match c.backend with
  | some b => .text b
  | none => .null

/-- Connect to the key. -/
def connect : Act Unit := do
  let factory ← sessionFactory
  log .debug "connecting_device" [("backend", backendDatum (← sessionConfig))]
  callFactory factory

/-- Print the status of the key. -/
def showStatus : Act Unit := do
  connect
  let status ← deviceStatus
  log .debug "status_received" [("_verbose_status", .map status.context)]
  print (String.ofList (← ofExcept .integer status.text))

/-- What becomes of an attempt to open the volume: it succeeds, or the key rejects the
passphrase. -/
def tryUnlock (passphrase : String) : Act (Option Failure) := fun s =>
  match unlock passphrase s with
  | .ok () t => .ok none t
  | .error f t => if f.isWrongPassphrase then .ok (some f) t else .error f t

/-- Attempt to open the volume with the passphrase that the agent program gives. A rejected
passphrase is cleared before going on as told. -/
def attemptUnlock (onRejection : Failure → Act Unit) : Act Unit := do
  let passphrase ← inquirePassphrase (← sessionAgent)
  match ← tryUnlock passphrase with
  | none => log .info "volume_opened" []
  | some rejection => do
    clearPassphrase (← sessionAgent)
    onRejection rejection

/-- Attempts to open the volume, of which the given number may follow the first. -/
def unlockAttempts : Nat → Act Unit
  | 0 => attemptUnlock fun rejection => throw rejection
  | more + 1 => attemptUnlock fun _ => do
    log .warning "wrong_passphrase" [("retries_left", .int (more + 1))]
    unlockAttempts more

theorem unlockAttempts_zero :
    unlockAttempts 0 = attemptUnlock fun rejection => throw rejection := rfl

theorem unlockAttempts_succ (more : Nat) :
    unlockAttempts (more + 1) = attemptUnlock (fun _ => do
      log .warning "wrong_passphrase" [("retries_left", .int (more + 1))]
      unlockAttempts more) := rfl

/-- Open the encrypted volume. -/
def openVolume : Act Unit := do
  connect
  unlockAttempts ((← sessionConfig).attempts - 1)

/-- Close the encrypted volume after writing what is pending. -/
def closeVolume : Act Unit := do
  emit .flush
  connect
  lock
  log .info "volume_closed" []

/-- Do something with the key. -/
def perform : Operation → Act Unit
  | .showStatus => showStatus
  | .openVolume => openVolume
  | .closeVolume => closeVolume
  | .clearPassphrase => do clearPassphrase (← sessionAgent)

end Act

end StorageKey
