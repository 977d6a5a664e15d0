import StorageKey.Decimal.Digit
import StorageKey.Text.Blank
import StorageKey.Text.Quoted

/-!
# Integers as text

Digits of every script are read as their values, blanks around the number are skipped, and a
single underscore may stand between two digits. A decimal text is limited to 4300 digits in
both directions, so that reading and writing stay fast; the bases that are powers of two have
no limit.

* `readInt`: the integer a text spells in a base;
* `writeInt`: the decimal text of an integer;
* `IntegerFault`, `WriteFault`: why there is none.
-/

namespace StorageKey.Decimal

open StorageKey.Text

/-- The most digits of a decimal text. -/
def digitLimit : Nat := 4300

/-- Why a text is no integer. -/
inductive IntegerFault
  | malformed (base : Nat) (text : List Nat)
  | tooManyDigits (count : Nat)
  deriving DecidableEq, Repr

/-- The wording of a fault; a long text is cut after 200 characters of its literal. -/
def IntegerFault.message : IntegerFault → String
  | .malformed base text =>
    "invalid literal for int() with base " ++ toString base ++ ": " ++
      String.ofList ((quotePoints text).take 200)
  | .tooManyDigits count =>
    "Exceeds the limit (4300 digits) for integer string conversion: value has " ++
      toString count ++ " digits; use sys.set_int_max_str_digits() to increase the limit"

/-- Why data have no text: an integer has too many digits, or collections are nested too deeply. -/
inductive WriteFault
  | tooLarge
  | tooDeep
  deriving DecidableEq, Repr

/-- The wording about what is nested too deeply to be followed. -/
def depthMessage : String := "maximum recursion depth exceeded"

/-- The wording of a fault. -/
def WriteFault.message : WriteFault → String
  | .tooLarge =>
    "Exceeds the limit (4300 digits) for integer string conversion; " ++
      "use sys.set_int_max_str_digits() to increase the limit"
  | .tooDeep => depthMessage

/-- A numeral in ASCII: digits of every script and blanks beyond ASCII are replaced; the text ends
at any other character beyond ASCII, of which a question mark is left. -/
def plainNumeral : List Nat → List Char
  | [] => []
  | n :: r =>
    if n < 127 then Char.ofNat n :: plainNumeral r
    else if isBlank (Char.ofNat n) then ' ' :: plainNumeral r
    else match digit? n with
      | some d => Char.ofNat (48 + d) :: plainNumeral r
      | none => ['?']

/-- The blanks of ASCII that may surround a numeral. -/
def isNumeralBlank (c : Char) : Bool := c = ' ' || (9 ≤ c.toNat && c.toNat ≤ 13)

/-- The value of a digit in bases up to 36. -/
def digitValue? (c : Char) : Option Nat :=
  if '0' ≤ c ∧ c ≤ '9' then some (c.toNat - 48)
  else if 'a' ≤ c ∧ c ≤ 'z' then some (c.toNat - 87)
  else if 'A' ≤ c ∧ c ≤ 'Z' then some (c.toNat - 55)
  else none

/-- A digit of the base or an underscore. -/
def isDigitOf (base : Nat) (c : Char) : Bool :=
  c = '_' || (match digitValue? c with
    | some d => d < base
    | none => false)

/-- The letter that may follow a zero in front of a numeral in this base. -/
def baseLetter? (base : Nat) : Option Char :=
  if base = 16 then some 'x' else if base = 8 then some 'o' else if base = 2 then some 'b' else none

/-- The numeral without a mark of its base and the underscore behind it. -/
def dropBaseMark (base : Nat) (s : List Char) : List Char :=
  match s, baseLetter? base with
  | '0' :: c :: r, some l =>
    if c.toLower = l then
      match r with
      | '_' :: r' => r'
      | _ => r
    else s
  | _, _ => s

/-- Whether underscores stand only alone and between digits. -/
def underscoresFit : List Char → Bool
  | [] => false
  | ['_'] => false
  | '_' :: '_' :: _ => false
  | [_] => true
  | _ :: r => underscoresFit r

/-- The value of digits in a base. -/
def valueOf (base : Nat) (ds : List Char) : Nat :=
  ds.foldl (fun v c => v * base + (digitValue? c).getD 0) 0

theorem valueOf_append (base : Nat) (ds : List Char) (c : Char) :
    valueOf base (ds ++ [c]) = valueOf base ds * base + (digitValue? c).getD 0 := by
  simp [valueOf]

/-- The integer a text spells in a base. -/
def readInt (base : Nat) (text : List Nat) : Except IntegerFault Int :=
  let bad := IntegerFault.malformed base text
  let s := (plainNumeral text).dropWhile isNumeralBlank
  let (negative, s) := match s with
    | '-' :: r => (true, r)
    | '+' :: r => (false, r)
    | _ => (false, s)
  let s := dropBaseMark base s
  let body := s.takeWhile (isDigitOf base)
  let rest := s.dropWhile (isDigitOf base)
  if body.head? = some '_' || !underscoresFit body then .error bad
  else
    let digits := body.filter (· ≠ '_')
    if base = 10 ∧ digits.length > digitLimit then .error (.tooManyDigits digits.length)
    else if rest.all isNumeralBlank then
      let v := valueOf base digits
      .ok (if negative then -(v : Int) else v)
    else .error bad

/-- The decimal text of an integer. -/
def intText (i : Int) : List Char :=
  if i < 0 then '-' :: Nat.toDigits 10 i.natAbs else Nat.toDigits 10 i.natAbs

/-- The decimal text of an integer, if it is not too long. -/
def writeInt (i : Int) : Except WriteFault (List Char) :=
  if (Nat.toDigits 10 i.natAbs).length > digitLimit then .error .tooLarge else .ok (intText i)

theorem writeInt_eq_ok_iff {i : Int} {s : List Char} :
    writeInt i = .ok s ↔ (Nat.toDigits 10 i.natAbs).length ≤ digitLimit ∧ s = intText i := by
  unfold writeInt
  split
  · simp; omega
  · simp_all [eq_comm]

theorem isOk_writeInt_iff {i : Int} :
    (writeInt i).isOk = true ↔ (Nat.toDigits 10 i.natAbs).length ≤ digitLimit := by
  unfold writeInt
  split <;> simp [Except.isOk, Except.toBool] <;> omega

end StorageKey.Decimal
