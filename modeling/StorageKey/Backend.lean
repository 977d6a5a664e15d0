import StorageKey.State
import StorageKey.Status

/-!
# Reaching the key

A backend is specified by a module and an attribute of it, with a colon between them. Calling the
attribute connects to the key.

* `Act.loadBackend`: the attribute that a specification names;
* `Act.callFactory`: connecting to the key;
* `Act.deviceStatus`, `Act.unlock`, `Act.lock`: what a connected key can do.
-/

namespace StorageKey

/-- A specification split at its first colon, if neither part is empty. -/
def splitSpecification (spec : String) : Option (String × String) :=
  let cs := spec.toList
  match cs.takeWhile (· ≠ ':'), cs.dropWhile (· ≠ ':') with
  | m :: ms, _ :: a :: as => some (String.ofList (m :: ms), String.ofList (a :: as))
  | _, _ => none

/-- Whether an attribute can be called. -/
def Attribute.isCallable : Attribute → Bool
  | .value => false
  | _ => true

namespace Device

/-- The field that says whether the encrypted volume is open. -/
def volumeField : String := "encrypted_volume"

/-- Set the state of the encrypted volume. -/
def setVolume (d : Device) (s : VolumeState) : Device :=
  { d with status := Value.putEntry d.status (.text volumeField) (.text s.word) }

end Device

namespace Act

/-- The attribute that a specification names. -/
def loadBackend (spec : Option String) : Act Attribute := do
  let text := spec.getD ""
  if text = "" then throw (.backend .notConfigured)
  match splitSpecification text with
  | none => throw (.backend (.badSpecification text))
  | some (module, name) =>
    log .debug "loading_device_backend" [("module", .text module), ("attribute", .text name)]
    if module.toList.head? = some '.' then throw (.relativeModule module)
    match (← world).loadModule module with
    | .error e => throw (if e.isImport then .backend (.notImported module e) else .raised e)
    | .ok m =>
      match m.attribute? name with
      | .error e => throw (.raised e)
      | .ok none => throw (.backend (.notCallable text))
      | .ok (some a) => if a.isCallable then return a else throw (.backend (.notCallable text))

/-- Connect to the key. -/
def callFactory : Attribute → Act Unit
  | .factory true => do
    emit .connect
    raise? (← world).device.connectError
  | .factory false => pure ()
  | .raises e => throw (.raised e)
  | .value => throw (.raised ⟨.type, "object is not callable"⟩)

/-- The status of a connected key. -/
def deviceStatus : Act Status := do
  emit .status
  let device := (← world).device
  raise? device.statusError
  ofExcept (.invalid Status.recordName) (Status.ofValue (.map device.status))

/-- Open the encrypted volume with a passphrase. -/
def unlock (passphrase : String) : Act Unit := do
  emit (.unlock passphrase)
  let device := (← world).device
  modifyWorld fun w => { w with device := { device with unlockErrors := device.unlockErrors.tail } }
  raise? (device.unlockErrors.head?.join)
  raise? (device.verdict passphrase)
  modifyWorld fun w => { w with device := w.device.setVolume .active }

/-- Close the encrypted volume. -/
def lock : Act Unit := do
  emit .lock
  raise? (← world).device.lockError
  modifyWorld fun w => { w with device := w.device.setVolume .inactive }

end Act

end StorageKey
