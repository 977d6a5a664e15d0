import StorageKey.Text.Lines
import StorageKey.Yaml.Fault

/-!
# Texts that are read piece by piece

The text of a document is read in pieces of 4096 characters, the first two of them together, and a
piece is read when one of its characters is needed. It must be UTF-8 and hold only characters that
a document may hold. So a text with a fault can be read up to the piece that has the fault.

* `Source`: the characters that can be read, and why no more can;
* `Source.ofBytes`: what can be read of a file.
-/

namespace StorageKey.Yaml

open Text

/-- The characters that can be read of a text, and why it cannot be read on if there are more. -/
structure Source where
  text : List Char
  cut : Option Fault
  deriving DecidableEq, Repr

/-- The characters that a document may hold. -/
def isDocumentChar (c : Char) : Bool :=
  let n := c.toNat
  n = 9 || n = 10 || n = 13 || (32 ≤ n && n ≤ 126) || n = 0x85 || (0xa0 ≤ n && n ≤ 0xd7ff) ||
  (0xe000 ≤ n && n ≤ 0xfffd) || 0x10000 ≤ n

namespace Source

/-- The number of characters in a piece. -/
def pieceSize : Nat := 4096

/-- How many characters stand in pieces before a place. -/
def sizeBefore (place : Nat) : Nat :=
  if place < 2 * pieceSize then 0 else place / pieceSize * pieceSize

/-- What can be read of a text up to its first character that no document may hold; `cut` says why
the text itself is not longer. -/
def ofText (s : List Char) (cut : Option Fault) : Source :=
  let good := s.takeWhile isDocumentChar
  if good.length < s.length then ⟨s.take (sizeBefore good.length), some .malformed⟩ else ⟨s, cut⟩

/-- What can be read of a file. All newlines are unified; a carriage return waits for the character
after it. -/
def ofBytes (bs : List UInt8) : Source :=
  match Utf8.decodeFile bs with
  | (s, none) => ofText (unifyNewlines s) none
  | (s, some f) =>
    let s := unifyNewlines (if s.getLast? = some '\r' then s.dropLast else s)
    ofText (s.take (sizeBefore s.length)) (some (.unread f))

end Source

end StorageKey.Yaml
