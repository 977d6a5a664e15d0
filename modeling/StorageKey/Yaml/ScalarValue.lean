import StorageKey.Data.Value
import StorageKey.Decimal.Real
import StorageKey.Text.LetterCase
import StorageKey.Text.Separated
import StorageKey.Yaml.Fault
import StorageKey.Yaml.Tag

/-!
# The values of scalars

What the text of a scalar says under its tag: integers in several bases and in sixtieths,
floating-point numbers, truth values, days and moments, and bytes in base 64.

* `scalarValue`: the value of a text under a tag.
-/

namespace StorageKey.Yaml

open Decimal Text

/-- The character of a code point; surrogates have none. -/
def charOf? (n : Nat) : Option Char :=
  if 0xd800 ≤ n ∧ n ≤ 0xdfff then none else some (Char.ofNat n)

/-- The text in lower case. -/
def lowerPoints (ns : List Nat) : List Nat :=
  ns.flatMap fun n => match charOf? n with
    | some c => (lowerChar c).map Char.toNat
    | none => [n]

/-- The code points of a short text. -/
def points (s : String) : List Nat := s.toList.map Char.toNat

/-- A numeral without underscores, its sign aside. -/
def signed (ns : List Nat) : Except Fault (Bool × List Nat) :=
  match ns.filter (· ≠ 95) with
  | [] => .error .emptyNumber
  | 45 :: r => .ok (true, r)
  | 43 :: r => .ok (false, r)
  | r => .ok (false, r)

/-- An integer in a base. -/
def intIn (base : Nat) (ns : List Nat) : Except Fault Int :=
  (readInt base ns).mapError .integer

/-- The integer that a text spells. -/
def intValue (ns : List Nat) : Except Fault Int := do
  let (negative, ns) ← signed ns
  let size ← match ns with
    | [] => .error .emptyNumber
    | [48] => .ok 0
    | 48 :: 98 :: r => intIn 2 r
    | 48 :: 120 :: r => intIn 16 r
    | 48 :: _ => intIn 8 ns
    | _ =>
      if ns.contains 58 then do
        let parts ← (separate 58 ns).mapM (intIn 10)
        .ok (parts.foldl (fun v p => v * 60 + p) 0)
      else intIn 10 ns
  .ok (if negative then -size else size)

/-- A floating-point numeral. -/
def realIn (ns : List Nat) : Except Fault Binary64 :=
  match readReal ns with
  | some x => .ok x
  | none => .error (.real ns)

/-- The sum of numbers in sixtieths, the last one first. -/
def sixtiethsSum (parts : List Binary64) (unit : Nat) (sum : Binary64) : Except Fault Binary64 :=
  match parts with
  | [] => .ok sum
  | p :: ps =>
    match Binary64.ofInt unit with
    | .infinite _ => .error .realSize
    | u => sixtiethsSum ps (unit * 60) (sum.add (p.mul u))

/-- The floating-point number that a text spells. -/
def realValue (ns : List Nat) : Except Fault Binary64 := do
  let (negative, ns) ← signed (lowerPoints (ns.filter (· ≠ 95)))
  let size ←
    if ns = points ".inf" then .ok (.infinite false)
    else if ns = points ".nan" then .ok .nan
    else if ns.contains 58 then do
      let parts ← (separate 58 ns).mapM realIn
      sixtiethsSum parts.reverse 1 (.zero false)
    else realIn ns
  .ok (if negative then size.neg else size)

/-- The words for truth values. -/
def truthWords : List (String × Bool) := [
  ("yes", true), ("no", false), ("true", true), ("false", false), ("on", true), ("off", false)]

/-- The truth value that a text spells. -/
def truthValue (ns : List Nat) : Except Fault Bool :=
  let w := lowerPoints ns
  match truthWords.find? fun e => points e.1 = w with
  | some e => .ok e.2
  | none => .error (.truthWord w)

/-! ### Days and moments -/

/-- The days of a month. -/
def monthDays (year month : Nat) : Nat :=
  if month = 2 then (if year % 4 = 0 ∧ (year % 100 ≠ 0 ∨ year % 400 = 0) then 29 else 28)
  else if month = 4 ∨ month = 6 ∨ month = 9 ∨ month = 11 then 30 else 31

/-- A day of the calendar. -/
def dateOf (year month day : Nat) : Except Fault Date :=
  if year = 0 then .error (.calendar .year)
  else if month = 0 ∨ month > 12 then .error (.calendar .month)
  else if day = 0 ∨ day > monthDays year month then .error (.calendar .day)
  else .ok ⟨year, month, day⟩

/-- Take between `least` and `most` digits. -/
def takeDigits (least most : Nat) (s : List Char) : Option (Nat × List Char) :=
  let ds := (s.take most).takeWhile Char.isDigit
  if ds.length < least then none else some (valueOf 10 ds, s.drop ds.length)

/-- Take a given character. -/
def takeChar (c : Char) : List Char → Option (List Char)
  | [] => none
  | x :: r => if x = c then some r else none

/-- Whether a text has nothing left but a line feed. -/
def isOver (s : List Char) : Bool := s = [] || s = ['\n']

/-- The first six digits of a fraction, as microseconds. -/
def microseconds (ds : List Char) : Nat :=
  valueOf 10 ((ds ++ ['0', '0', '0', '0', '0', '0']).take 6)

/-- The clock at the end of a time: nothing, universal time, or a distance from it in seconds. -/
def readZone (s : List Char) : Option (Option Int) :=
  if isOver s then some none
  else
    match s.dropWhile fun c => c = ' ' || c = '\t' with
    | 'Z' :: r => if isOver r then some (some 0) else none
    | c :: r =>
      if c = '+' ∨ c = '-' then do
        let (h, r) ← takeDigits 1 2 r
        let (m, r) ← match takeChar ':' r with
          | some r => takeDigits 2 2 r
          | none => some (0, r)
        let seconds : Int := (h * 60 + m) * 60
        if isOver r then some (some (if c = '-' then -seconds else seconds)) else none
      else none
    | [] => none

/-- The parts of a time of day with its clock. -/
structure TimeOfDay where
  hour : Nat
  minute : Nat
  second : Nat
  microsecond : Nat
  offset : Option Int

/-- The time of day after a day. -/
def readTime (s : List Char) : Option TimeOfDay := do
  let s ← match s with
    | 'T' :: r | 't' :: r => some r
    | _ =>
      let r := s.dropWhile fun c => c = ' ' || c = '\t'
      if r.length < s.length then some r else none
  let (hour, s) ← takeDigits 1 2 s
  let (minute, s) ← takeDigits 2 2 (← takeChar ':' s)
  let (second, s) ← takeDigits 2 2 (← takeChar ':' s)
  let (fraction, s) := match s with
    | '.' :: r => spanDigits r
    | _ => ([], s)
  let offset ← readZone s
  some ⟨hour, minute, second, microseconds fraction, offset⟩

/-- A moment whose parts are in their ranges. -/
def momentOf (year month day : Nat) (t : TimeOfDay) : Except Fault Value := do
  match t.offset with
  | some o => if o ≤ -86400 ∨ 86400 ≤ o then .error (.clockOffset o) else pure ()
  | none => pure ()
  let date ← dateOf year month day
  if t.hour > 23 then .error (.calendar .hour)
  else if t.minute > 59 then .error (.calendar .minute)
  else if t.second > 59 then .error (.calendar .second)
  else .ok (.moment ⟨date, t.hour, t.minute, t.second, t.microsecond, t.offset⟩)

/-- The year, the month and the day at the start of a text. -/
def readDay (s : List Char) : Option (Nat × Nat × Nat × List Char) := do
  let (year, s) ← takeDigits 4 4 s
  let (month, s) ← takeDigits 1 2 (← takeChar '-' s)
  let (day, s) ← takeDigits 1 2 (← takeChar '-' s)
  some (year, month, day, s)

/-- The day or the moment that a text spells. -/
def timeValue (ns : List Nat) : Except Fault Value :=
  if ns.any fun n => (charOf? n).isNone then .error .noTimestamp
  else
    match readDay (ns.map Char.ofNat) with
    | none => .error .noTimestamp
    | some (year, month, day, s) =>
      if isOver s then (dateOf year month day).map .date
      else match readTime s with
        | none => .error .noTimestamp
        | some t => momentOf year month day t

/-! ### Bytes -/

/-- The value of a digit in base 64. -/
def digit64? (n : Nat) : Option Nat :=
  if 65 ≤ n ∧ n ≤ 90 then some (n - 65)
  else if 97 ≤ n ∧ n ≤ 122 then some (n - 71)
  else if 48 ≤ n ∧ n ≤ 57 then some (n + 4)
  else if n = 43 then some 62
  else if n = 47 then some 63
  else none

/-- The bytes of digits in base 64. `place` counts the digits of the current four, `left` holds the
bits that are left of the last one, `pads` counts the padding since. Other characters are skipped,
and what follows full padding is ignored. -/
def bytes64 (place left pads : Nat) : List Nat → Option (List UInt8)
  | [] => if place = 0 then some [] else none
  | n :: r =>
    if n = 61 then
      if place ≥ 2 then
        if place + pads + 1 ≥ 4 then some [] else bytes64 place left (pads + 1) r
      else bytes64 place left pads r
    else match digit64? n with
      | none => bytes64 place left pads r
      | some d =>
        match place with
        | 0 => bytes64 1 d 0 r
        | 1 => (bytes64 2 (d % 16) 0 r).map (UInt8.ofNat (left * 4 + d / 16) :: ·)
        | 2 => (bytes64 3 (d % 4) 0 r).map (UInt8.ofNat (left * 16 + d / 4) :: ·)
        | _ => (bytes64 0 0 0 r).map (UInt8.ofNat (left * 64 + d) :: ·)

/-- The bytes that a text in base 64 spells. -/
def binaryValue (ns : List Nat) : Except Fault Value :=
  if ns.any (· > 127) then .error .malformed
  else match bytes64 0 0 0 ns with
    | some bs => .ok (.bytes bs)
    | none => .error .malformed

/-! ### All tags -/

/-- The value of a scalar under a tag. -/
def scalarValue (tag : Tag) (ns : List Nat) : Except Fault Value :=
  match tag with
  | .null => .ok .null
  | .bool => (truthValue ns).map .bool
  | .int => (intValue ns).map .int
  | .float => (realValue ns).map .real
  | .binary => binaryValue ns
  | .timestamp => timeValue ns
  | .str => .ok (Value.ofPoints ns)
  | _ => .error .malformed

end StorageKey.Yaml
