import StorageKey.Record.Coerce

/-!
# The configuration

Which backend talks to the key, which program asks for the passphrase, and how often a wrong
passphrase is asked for again.

* `Config`, and `Config.ofEntries`, read from a record without unknown fields.
-/

namespace StorageKey

open Record

/-- The configuration of the program. -/
structure Config where
  backend : Option String
  agentProgram : String
  attempts : Nat
  deriving DecidableEq, Repr

namespace Config

/-- The name of the record in reports. -/
def recordName : String := "NitrocliConfig"

/-- The fields of the record. -/
def fieldNames : List String := ["backend", "gpg_connect_agent", "open_retries"]

/-- The configuration where nothing is said. -/
def usual : Config := ⟨none, "gpg-connect-agent", 3⟩

/-- The configuration that entries make. -/
def ofEntries (es : List (Value × Value)) : Checked Config :=
  (Config.mk <$> optional es "backend" usual.backend (orNothing asText) <*>
    optional es "gpg_connect_agent" usual.agentProgram asText <*>
    optional es "open_retries" usual.attempts (asAtLeast 1)).also (unknownFields es fieldNames)

/-- The configuration that a value is. -/
def ofValue (v : Value) : Except (List Issue) Config := do
  let es ← entriesOf recordName v
  (ofEntries es).toExcept

/-- The configuration as named data. -/
def context (c : Config) : Context := [
  ("backend", match c.backend with
    | some b => .text b
    | none => .null),
  ("gpg_connect_agent", .text c.agentProgram),
  ("open_retries", .int c.attempts)]

end Config

end StorageKey
