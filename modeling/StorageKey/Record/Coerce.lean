import StorageKey.Path
import StorageKey.Record.Issue
import StorageKey.Text.Utf8

/-!
# Reading the fields of a record

A field takes its own kind of value, and what plainly stands for one: the text of an integer for
an integer, a number without fraction, a word or a digit for a truth value.

* `asText`, `asInteger`, `asTruth`, `asWord`, `asPath`: one kind each;
* `required`, `optional`, `requiredTexts`: a field of a record.
-/

namespace StorageKey.Record

open Decimal Text

/-- The reader of one value. -/
abbrev Reader (α : Type) := Value → Except Cause α

/-! ### Texts -/

/-- The text of a value; bytes are read as UTF-8. -/
def asText : Reader String
  | .text s => .ok s
  | .broken _ => .error .notUnicode
  | .bytes bs =>
    match Utf8.decode bs with
    | .ok s => .ok (String.ofList s)
    | .error _ => .error .notUnicode
  | _ => .error .notText

/-- A value or nothing. -/
def orNothing {α : Type} (r : Reader α) : Reader (Option α)
  | .null => .ok none
  | v => (r v).map some

/-- The text that a number or a truth value may be given as; bytes that are none have the given
cause. -/
def asSpelling (bad : Cause) : Value → Except Cause (Option (List Char))
  | .text s => .ok (some s.toList)
  | .broken _ => .error .notUnicode
  | .bytes bs =>
    match Utf8.decode bs with
    | .ok s => .ok (some s)
    | .error _ => .error bad
  | _ => .ok none

/-! ### Integers -/

/-- A numeral without the zeros in front of it; underscores among them are dropped too. -/
def dropZeros : List Char → List Char → Option (List Char)
  | [], last => some last
  | c :: r, last =>
    if c = '0' ∨ c = '_' then dropZeros r [c]
    else if '1' ≤ c ∧ c ≤ '9' then some (c :: r)
    else if c = '.' then some (last ++ c :: r)
    else none

/-- A numeral that starts with a digit or a minus, without zeros in front. -/
def stripZeros : List Char → Option (List Char)
  | '0' :: r => dropZeros r ['0']
  | c :: r => if ('1' ≤ c ∧ c ≤ '9') ∨ c = '-' then some (c :: r) else none
  | [] => none

/-- A numeral without a fraction of zeros. -/
def dropFraction (s : List Char) : List Char :=
  match s.dropWhile (· ≠ '.') with
  | '.' :: z :: zs => if (z :: zs).all (· = '0') then s.takeWhile (· ≠ '.') else s
  | _ => s

/-- Whether two underscores stand side by side. -/
def hasDoubleUnderscore : List Char → Bool
  | '_' :: '_' :: _ => true
  | _ :: r => hasDoubleUnderscore r
  | [] => false

/-- A numeral without underscores, if these stand alone and inside. -/
def dropUnderscores (s : List Char) : List Char :=
  if s.head? = some '_' || s.getLast? = some '_' || hasDoubleUnderscore s then s
  else s.filter (· ≠ '_')

/-- A numeral in its plain form: no white space around it, no plus, no zeros in front, no fraction
of zeros, no underscores. -/
def plainInteger (s : List Char) : Option (List Char) :=
  let s := trim s
  let s := match s with
    | '+' :: r => if r.head? = some '-' then none else some r
    | _ => some s
  (s.bind stripZeros).map fun s => dropUnderscores (dropFraction s)

/-- The integer that a numeral in its plain form is. Its sign and digits are limited in number. -/
def readPlain (s : List Char) : Except Cause Int :=
  let (negative, digits) := match s with
    | '-' :: r => (true, r)
    | _ => (false, s)
  let body := digits.takeWhile Char.isDigit
  if body = [] ∨ (body.head? = some '0' ∧ body.length > 1) then .error .integerText
  else if body.length + (if negative then 1 else 0) > digitLimit then .error .integerSize
  else if body.length < digits.length then .error .integerText
  else
    let v : Int := Decimal.valueOf 10 body
    .ok (if negative then -v else v)

/-- The integer that a text spells. -/
def integerOfText (s : List Char) : Except Cause Int :=
  match plainInteger s with
  | some s => readPlain s
  | none => .error .integerText

/-- The integers of a machine word are below this bound, and not below its negative. -/
def wordBound : Int := twoPow 63

/-- The integer that a floating-point number is. -/
def integerOfReal (x : Binary64) : Except Cause Int :=
  match x with
  | .finite _ _ _ =>
    match x.toInt? with
    | none => .error .fractional
    | some i => if -wordBound < i ∧ i < wordBound then .ok i else .error .integerSize
  | _ => .error .notFinite

/-- The integer that a value is or spells. -/
def asInteger : Reader Int
  | .int i => .ok i
  | .bool b => .ok (if b then 1 else 0)
  | .real x => integerOfReal x
  | v =>
    match asSpelling .integerText v with
    | .error c => .error c
    | .ok (some s) => integerOfText s
    | .ok none => .error .notInteger

/-- An integer that is at least the given one. -/
def asAtLeast (least : Nat) : Reader Nat := fun v =>
  match asInteger v with
  | .error c => .error c
  | .ok i => if (least : Int) ≤ i then .ok i.toNat else .error (.lessThan least)

/-! ### Truth values -/

/-- The words for truth values. -/
def truthWords : List (String × Bool) := [
  ("0", false), ("f", false), ("n", false), ("no", false), ("off", false), ("false", false),
  ("1", true), ("t", true), ("y", true), ("on", true), ("yes", true), ("true", true)]

/-- The truth value that a word spells, in letters of either case. -/
def truthOfText (s : List Char) : Except Cause Bool :=
  match truthWords.lookup (String.ofList (s.map Char.toLower)) with
  | some b => .ok b
  | none => .error .truthText

/-- The truth value that a machine integer is. -/
def truthOfInt (i : Int) : Except Cause Bool :=
  if i = 0 then .ok false
  else if i = 1 then .ok true
  else if -wordBound ≤ i ∧ i < wordBound then .error .truthText
  else .error .notTruth

/-- The truth value that a value is or spells. -/
def asTruth : Reader Bool
  | .bool b => .ok b
  | .int i => truthOfInt i
  | .real x =>
    match integerOfReal x with
    | .ok i => truthOfInt i
    | .error _ => .error .notTruth
  | v =>
    match asSpelling .truthText v with
    | .error c => .error c
    | .ok (some s) => truthOfText s
    | .ok none => .error .notTruth

/-! ### Words and paths -/

/-- One of the given words. -/
def asWord {α : Type} (words : List (String × α)) (cause : List String → Cause) :
    Reader α := fun v =>
  match v with
  | .text s =>
    match words.lookup s with
    | some a => .ok a
    | none => .error (cause (words.map (·.1)))
  | _ => .error (cause (words.map (·.1)))

/-- A path. -/
def asPath : Reader Path
  | .text s => .ok (Path.ofString s)
  | _ => .error .notPath

/-! ### Fields -/

/-- The value of a field. -/
def field? (es : List (Value × Value)) (name : String) : Option Value :=
  (es.find? fun e => match e.1 with
    | .text s => s = name
    | _ => false).map (·.2)

/-- A value at a place, checked by a reader. -/
def check {α : Type} (place : List String) (r : Reader α) (v : Value) : Checked α :=
  match r v with
  | .ok a => .ok a
  | .error c => .bad [⟨place, c, v⟩]

/-- A field that a record must have. -/
def required {α : Type} (es : List (Value × Value)) (name : String) (r : Reader α) : Checked α :=
  match field? es name with
  | some v => check [name] r v
  | none => .bad [⟨[name], .missing, .map es⟩]

/-- A field that a record may have. -/
def optional {α : Type} (es : List (Value × Value)) (name : String) (default : α) (r : Reader α) :
    Checked α :=
  match field? es name with
  | some v => check [name] r v
  | none => .ok default

/-- The texts of a list, all that are none being reported. -/
def checkTexts (name : String) : Nat → List Value → Checked (List String)
  | _, [] => .ok []
  | n, v :: vs =>
    .seq (.map List.cons (check [name, toString n] asText v)) (checkTexts name (n + 1) vs)

/-- The members of a value that stands for a list: a list, a set or a pair. -/
def listed? : Value → Option (List Value)
  | .list vs | .set vs => some vs
  | .pair v w => some [v, w]
  | _ => none

/-- A field that is a list of texts. -/
def requiredTexts (es : List (Value × Value)) (name : String) : Checked (List String) :=
  match field? es name with
  | some v =>
    match listed? v with
    | some vs => checkTexts name 0 vs
    | none => .bad [⟨[name], .notList, v⟩]
  | none => .bad [⟨[name], .missing, .map es⟩]

/-- The step of a place that a key is: a text as it is, a machine integer by its digits, any other
value by its literal. A surrogate is replaced. -/
def keyStep : Value → String
  | .text s => s
  | .broken ns => String.ofList (ns.flatMap fun n =>
      if 0xd800 ≤ n && n ≤ 0xdfff then ['\ufffd', '\ufffd', '\ufffd'] else [Char.ofNat n])
  | .bool b => if b then "1" else "0"
  | v => String.ofList
    ((v.literal?).getD ("<unprintable ".toList ++ v.kind.toList ++ " object>".toList))

/-- The issues of entries that are none of the named fields. -/
def unknownFields (es : List (Value × Value)) (names : List String) : List Issue :=
  es.flatMap fun e =>
    match e.1 with
    | .text s => if names.contains s then [] else [⟨[s], .unknownField, e.2⟩]
    | k => [⟨[keyStep k], .keyNotText, k⟩]

/-- The entries of a value that is a mapping; any other value is no record of the given name. -/
def entriesOf (name : String) : Value → Except (List Issue) (List (Value × Value))
  | .map es => .ok es
  | v => .error [⟨[], .notRecord name, v⟩]

end StorageKey.Record
