import StorageKey.Data.Datum

/-!
# Values of documents

What a document can hold: the plain data, and besides them texts with lone surrogates, bytes,
dates and moments, sets, pairs, and mappings whose keys are not texts. A collection that contains
itself is cut at its inner occurrence, which `again` marks.

* `Value`, and `Value.ofDatum`, the plain data among the values;
* `Value.kind`: the name of a value's kind, as messages give it;
* `Value.sameKey`: which keys of a mapping are one.
-/

namespace StorageKey

open Decimal

/-- A day of the calendar. -/
structure Date where
  year : Nat
  month : Nat
  day : Nat
  deriving DecidableEq, Repr

/-- A moment: a day, a time of day, and the distance of its clock from universal time in seconds,
if it is known. -/
structure Moment where
  date : Date
  hour : Nat
  minute : Nat
  second : Nat
  microsecond : Nat
  offset : Option Int
  deriving DecidableEq, Repr

/-- The kinds of collections that can contain themselves. -/
inductive Collection
  | list
  | set
  | map
  deriving DecidableEq, Repr

/-- A value of a document. -/
inductive Value
  | null
  | bool (b : Bool)
  | int (i : Int)
  | real (x : Binary64)
  | text (s : String)
  | broken (points : List Nat)
  | bytes (bs : List UInt8)
  | date (d : Date)
  | moment (m : Moment)
  | list (items : List Value)
  | pair (first second : Value)
  | set (members : List Value)
  | map (entries : List (Value × Value))
  | again (c : Collection)
  deriving Repr, Inhabited

namespace Value

/-- The text of code points, which is broken if one of them is a surrogate. -/
def ofPoints (ns : List Nat) : Value :=
  if ns.any fun n => 0xd800 ≤ n && n ≤ 0xdfff then .broken ns
  else .text (String.ofList (ns.map Char.ofNat))

mutual

/-- The value that a piece of plain data is. -/
def ofDatum : Datum → Value
  | .null => .null
  | .bool b => .bool b
  | .int i => .int i
  | .real x => .real x
  | .text s => .text s
  | .list ds => .list (ofDatumList ds)
  | .map es => .map (ofDatumEntries es)

/-- The values of a list of plain data. -/
def ofDatumList : List Datum → List Value
  | [] => []
  | d :: r => ofDatum d :: ofDatumList r

/-- The entries of a mapping of plain data. -/
def ofDatumEntries : List (String × Datum) → List (Value × Value)
  | [] => []
  | (k, d) :: r => (.text k, ofDatum d) :: ofDatumEntries r

end

/-- The name of a value's kind. -/
def kind : Value → String
  | .null => "NoneType"
  | .bool _ => "bool"
  | .int _ => "int"
  | .real _ => "float"
  | .text _ | .broken _ => "str"
  | .bytes _ => "bytes"
  | .date _ => "date"
  | .moment _ => "datetime"
  | .list _ | .again .list => "list"
  | .pair _ _ => "tuple"
  | .set _ | .again .set => "set"
  | .map _ | .again .map => "dict"

/-- Whether a value can be a key of a mapping or a member of a set. -/
def isKey : Value → Bool
  | .list _ | .set _ | .map _ | .again _ => false
  | _ => true

/-- The number that a value is among keys, if it is one: truth values count as zero and one. -/
def keyNumber? : Value → Option (Int ⊕ Binary64)
  | .bool b => some (.inl (if b then 1 else 0))
  | .int i => some (.inl i)
  | .real x => some (match x.toInt? with
    | some i => .inl i
    | none => .inr x)
  | _ => none

/-- The microseconds of a moment since the start of year zero, on its own clock. -/
def clock (m : Moment) : Int :=
  let y := m.date.year
  let leapDays := (y - 1) / 4 - (y - 1) / 100 + (y - 1) / 400
  let isLeap := y % 4 = 0 ∧ (y % 100 ≠ 0 ∨ y % 400 = 0)
  let before := [0, 31, 59, 90, 120, 151, 181, 212, 243, 273, 304, 334].getD (m.date.month - 1) 0
  let leapDay := if isLeap ∧ m.date.month > 2 then 1 else 0
  let days := y * 365 + leapDays + before + leapDay + m.date.day
  ((((days * 24 + m.hour) * 60 + m.minute) * 60 + m.second) * 1000000 + m.microsecond : Nat)

/-- Whether two moments are one: on the same clock, or at the same universal time. -/
def sameMoment (m n : Moment) : Bool :=
  match m.offset, n.offset with
  | none, none => clock m = clock n
  | some a, some b => clock m - a * 1000000 = clock n - b * 1000000
  | _, _ => false

/-- Whether two keys are one key of a mapping. Numbers are compared by value. -/
def sameKey (a b : Value) : Bool :=
  match keyNumber? a, keyNumber? b with
  | some (.inl i), some (.inl j) => i = j
  | some (.inr x), some (.inr y) => x.sameValue y
  | some _, _ | _, some _ => false
  | none, none =>
    match a, b with
    | .null, .null => true
    | .text s, .text t => s = t
    | .broken s, .broken t => s = t
    | .bytes s, .bytes t => s = t
    | .date d, .date e => d = e
    | .moment m, .moment n => sameMoment m n
    | _, _ => false

/-- Set the value of a key: in its place if the key is there, else at the end. -/
def putEntry (es : List (Value × Value)) (k v : Value) : List (Value × Value) :=
  if es.any fun e => e.1.sameKey k then
    es.map fun e => if e.1.sameKey k then (e.1, v) else e
  else es ++ [(k, v)]

/-- Whether a value counts as nothing: nothing itself, falsehood, zero, and the empty texts and
collections. -/
def isEmptyLike : Value → Bool
  | .null => true
  | .bool b => !b
  | .int i => i = 0
  | .real (.finite _ m _) => m = 0
  | .text s => s = ""
  | .broken ns => ns.isEmpty
  | .bytes bs => bs.isEmpty
  | .list vs => vs.isEmpty
  | .set vs => vs.isEmpty
  | .map es => es.isEmpty
  | _ => false

end Value

end StorageKey
