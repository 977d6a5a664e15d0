import StorageKey.Data.Value
import StorageKey.Decimal.Shortest
import StorageKey.Decimal.Integer
import StorageKey.Text.Separated

/-!
# Literals

How a value is shown in a message: numbers in decimal, texts in quotes, collections in brackets,
days and moments as the calls that make them. An integer beyond the limit of digits has no
literal, and nor has a collection that holds one.

* `Value.literal?`: the literal of a value;
* `Datum.literal?`, `Datum.shown?`: of a piece of plain data, and of one that is shown without
  the quotes of a text.
-/

namespace StorageKey

open Decimal Text

/-- The separator of the items of a literal. -/
def comma : List Char := [',', ' ']

/-- The decimal text of a natural number. -/
def natText (n : Nat) : List Char := Nat.toDigits 10 n

/-- The literal of a distance in time: whole days, then the seconds that remain. -/
def secondsLiteral (s : Int) : List Char :=
  let days := s.fdiv 86400
  let rest := s.fmod 86400
  let parts := (if days = 0 then [] else ["days=".toList ++ intText days]) ++
    (if rest = 0 then [] else ["seconds=".toList ++ intText rest])
  "datetime.timedelta(".toList ++ (if parts = [] then ['0'] else joinWith comma parts) ++ [')']

/-- The literal of a clock by its distance from universal time. -/
def clockLiteral (offset : Int) : List Char :=
  if offset = 0 then "datetime.timezone.utc".toList
  else "datetime.timezone(".toList ++ secondsLiteral offset ++ [')']

/-- The literal of a day. -/
def Date.literal (d : Date) : List Char :=
  "datetime.date(".toList ++ joinWith comma [natText d.year, natText d.month, natText d.day] ++
    [')']

/-- The literal of a moment. Seconds and microseconds are left out where they are zero at the
end. -/
def Moment.literal (m : Moment) : List Char :=
  let base := [m.date.year, m.date.month, m.date.day, m.hour, m.minute]
  let tail := if m.microsecond ≠ 0 then [m.second, m.microsecond]
    else if m.second ≠ 0 then [m.second] else []
  let zone := match m.offset with
    | none => []
    | some o => ["tzinfo=".toList ++ clockLiteral o]
  "datetime.datetime(".toList ++ joinWith comma ((base ++ tail).map natText ++ zone) ++ [')']

/-- The mark of a collection inside itself. -/
def Collection.again : Collection → List Char
  | .list => "[...]".toList
  | .set => "set(...)".toList
  | .map => "\x7b...\x7d".toList

namespace Value

mutual

/-- The literal of a value, if all its integers have one. -/
def literal? : Value → Option (List Char)
  | .null => some "None".toList
  | .bool b => some (if b then "True".toList else "False".toList)
  | .int i => (writeInt i).toOption
  | .real x => some (messageLayout.text x).toList
  | .text s => some (quote s.toList)
  | .broken ns => some (quotePoints ns)
  | .bytes bs => some (quoteBytes bs)
  | .date d => some d.literal
  | .moment m => some m.literal
  | .list vs => (literals? vs).map fun ls => '[' :: joinWith comma ls ++ [']']
  | .pair a b => do
    let x ← literal? a
    let y ← literal? b
    some ('(' :: x ++ comma ++ y ++ [')'])
  | .set vs =>
    if vs.isEmpty then some "set()".toList
    else (literals? vs).map fun ls => '\x7b' :: joinWith comma ls ++ ['\x7d']
  | .map es => (entryLiterals? es).map fun ls => '\x7b' :: joinWith comma ls ++ ['\x7d']
  | .again c => some c.again

/-- The literals of the members of a collection. -/
def literals? : List Value → Option (List (List Char))
  | [] => some []
  | v :: r => do
    let l ← literal? v
    let ls ← literals? r
    some (l :: ls)

/-- The literals of the entries of a mapping. -/
def entryLiterals? : List (Value × Value) → Option (List (List Char))
  | [] => some []
  | (k, v) :: r => do
    let lk ← literal? k
    let lv ← literal? v
    let ls ← entryLiterals? r
    some ((lk ++ [':', ' '] ++ lv) :: ls)

end

end Value

/-- The literal of a piece of plain data. -/
def Datum.literal? (d : Datum) : Option (List Char) := (Value.ofDatum d).literal?

/-- A piece of plain data as part of a sentence: a text as it is, all else by its literal. -/
def Datum.shown? : Datum → Option (List Char)
  | .text s => some s.toList
  | d => d.literal?

end StorageKey
