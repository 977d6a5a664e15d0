import StorageKey.Record.Coerce

/-!
# The status of a key

What a key reports about itself: the number of its card, the version of its firmware, whether it is
locked, how often the passphrases may still be wrong, and the state of its volumes.

* `Status`, and `Status.ofValue`, read from a record;
* `Status.text`: the status as it is shown. An integer that is too long has no text;
* `Status.context`: the status as the data of a log entry.
-/

namespace StorageKey

open Decimal Record Text

/-- The state of a volume. -/
inductive VolumeState
  | active
  | readOnly
  | inactive
  deriving DecidableEq, Repr

/-- The word for a state. -/
def VolumeState.word : VolumeState → String
  | active => "active"
  | readOnly => "read-only"
  | inactive => "inactive"

/-- The states by their words. -/
def VolumeState.words : List (String × VolumeState) :=
  [VolumeState.active, .readOnly, .inactive].map fun s => (s.word, s)

/-- The status of a key. -/
structure Status where
  cardId : Int
  firmwareMajor : Int
  firmwareMinor : Int
  firmwareLocked : Bool
  keysCreated : Bool
  userRetries : Nat
  adminRetries : Nat
  unencrypted : VolumeState
  encrypted : VolumeState
  hidden : VolumeState
  deriving DecidableEq, Repr

namespace Status

/-- The name of the record in reports. -/
def recordName : String := "StorageStatus"

/-- The state of a volume. -/
def asVolume : Reader VolumeState := asWord VolumeState.words .noneOfWords

/-- The status that entries make. -/
def ofEntries (es : List (Value × Value)) : Checked Status :=
  Status.mk <$> required es "sd_card_id" asInteger <*>
    required es "firmware_version_major" asInteger <*>
    required es "firmware_version_minor" asInteger <*> required es "firmware_locked" asTruth <*>
    required es "stored_keys" asTruth <*> required es "user_retry_count" (asAtLeast 0) <*>
    required es "admin_retry_count" (asAtLeast 0) <*>
    optional es "unencrypted_volume" .inactive asVolume <*>
    optional es "encrypted_volume" .inactive asVolume <*>
    optional es "hidden_volume" .inactive asVolume

/-- The status that a value is. -/
def ofValue (v : Value) : Except (List Issue) Status := do
  let es ← entriesOf recordName v
  (ofEntries es).toExcept

/-- The status as named data. -/
def context (s : Status) : Context := [
  ("sd_card_id", .int s.cardId),
  ("firmware_version_major", .int s.firmwareMajor),
  ("firmware_version_minor", .int s.firmwareMinor),
  ("firmware_locked", .bool s.firmwareLocked),
  ("stored_keys", .bool s.keysCreated),
  ("user_retry_count", .int s.userRetries),
  ("admin_retry_count", .int s.adminRetries),
  ("unencrypted_volume", .text s.unencrypted.word),
  ("encrypted_volume", .text s.encrypted.word),
  ("hidden_volume", .text s.hidden.word)]

/-- The version of the firmware as it is shown. -/
def firmwareVersion (s : Status) : Except WriteFault (List Char) := do
  let major ← writeInt s.firmwareMajor
  let minor ← writeInt s.firmwareMinor
  .ok (major ++ '.' :: minor)

/-- An integer in hexadecimal with its mark. -/
def hexText (i : Int) : List Char :=
  (if i < 0 then ['-'] else []) ++ '0' :: 'x' :: hexDigits 1 i.natAbs

/-- A line of the text: a heading and a value. -/
def line (heading : String) (value : List Char) : List Char := heading.toList ++ value ++ ['\n']

/-- The status as it is shown. -/
def text (s : Status) : Except WriteFault (List Char) := do
  let version ← s.firmwareVersion
  let user ← writeInt s.userRetries
  let admin ← writeInt s.adminRetries
  .ok (line "Status:" [] ++
    line "  SD card ID:        " (hexText s.cardId) ++
    line "  firmware version:  " version ++
    line "  firmware:          " (if s.firmwareLocked then "locked" else "unlocked").toList ++
    line "  storage keys:      " (if s.keysCreated then "created" else "not created").toList ++
    line "  user retry count:  " user ++
    line "  admin retry count: " admin ++
    line "  volumes:" [] ++
    line "    unencrypted:     " s.unencrypted.word.toList ++
    line "    encrypted:       " s.encrypted.word.toList ++
    line "    hidden:          " s.hidden.word.toList)

end Status

end StorageKey
