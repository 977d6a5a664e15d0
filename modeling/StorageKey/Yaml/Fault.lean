import StorageKey.Data.Literal
import StorageKey.Decimal.Integer
import StorageKey.Text.Utf8

/-!
# Why a document cannot be read

A text that is no document or that cannot be read to its end, or a document whose scalars do not
spell what their tags say. The faults of scalars keep the cause, since they are not reported as
faults of the document. Nor is that a document is nested too deeply.
-/

namespace StorageKey.Yaml

open Decimal Text

/-- The parts of a date and a time that have a range. -/
inductive CalendarPart
  | year
  | month
  | day
  | hour
  | minute
  | second
  deriving DecidableEq, Repr

/-- Why a document cannot be read. -/
inductive Fault
  /-- The text is no document, or its values cannot be built. -/
  | malformed
  /-- The text cannot be read on. -/
  | unread (fault : Utf8.Fault)
  /-- Collections, merges or value keys lead too deep. -/
  | tooDeep
  /-- A repetition does not come to its end, which none of them does. -/
  | endless
  /-- An escape names a code point beyond the last one. -/
  | codePoint
  /-- An escape names a number beyond 31 bits. -/
  | codePointSize
  | integer (fault : IntegerFault)
  | real (text : List Nat)
  /-- A number without any character is left. -/
  | emptyNumber
  /-- A number is too large for a floating-point number. -/
  | realSize
  /-- A text tagged as a truth value is no word for one. -/
  | truthWord (text : List Nat)
  /-- A text tagged as a time is none. -/
  | noTimestamp
  /-- A mapping is tagged as a time. -/
  | noTimestampText
  /-- A part of a date or a time is out of its range. -/
  | calendar (part : CalendarPart)
  /-- A clock is a day or more away from universal time. -/
  | clockOffset (seconds : Int)
  deriving DecidableEq, Repr

/-- The wording about a part of a date or a time that is out of its range. -/
def CalendarPart.message : CalendarPart → String
  | .year => "year 0 is out of range"
  | .month => "month must be in 1..12"
  | .day => "day is out of range for month"
  | .hour => "hour must be in 0..23"
  | .minute => "minute must be in 0..59"
  | .second => "second must be in 0..59"

/-- The wording of a fault. -/
def Fault.message : Fault → String
  | .malformed => "the text is no document"
  | .unread fault => fault.message
  | .tooDeep | .endless => depthMessage
  | .codePoint => "chr() arg not in range(0x110000)"
  | .codePointSize => "Python int too large to convert to C int"
  | .integer fault => fault.message
  | .real text => "could not convert string to float: " ++ String.ofList (quotePoints text)
  | .emptyNumber => "string index out of range"
  | .realSize => "int too large to convert to float"
  | .truthWord text => String.ofList (quotePoints text)
  | .noTimestamp => "'NoneType' object has no attribute 'groupdict'"
  | .noTimestampText => "expected string or bytes-like object, got 'list'"
  | .calendar part => part.message
  | .clockOffset seconds =>
    "offset must be a timedelta strictly between -timedelta(hours=24) and " ++
      "timedelta(hours=24), not " ++ String.ofList (secondsLiteral seconds) ++ "."

end StorageKey.Yaml
