import StorageKey.Decimal.Binary64
import StorageKey.Decimal.Integer

/-!
# Floating-point numbers as text

* `readReal`: the binary floating-point number nearest to the number a text spells.
-/

namespace StorageKey.Decimal

/-- A text split after its leading decimal digits. -/
def spanDigits (s : List Char) : List Char × List Char :=
  (s.takeWhile Char.isDigit, s.dropWhile Char.isDigit)

/-- The exponent of a numeral: nothing, or a letter, a sign and digits. -/
def readExponent : List Char → Option Int
  | [] => some 0
  | c :: r =>
    if c = 'e' ∨ c = 'E' then
      let (negative, r) := match r with
        | '-' :: r' => (true, r')
        | '+' :: r' => (false, r')
        | _ => (false, r)
      if r.isEmpty ∨ !r.all Char.isDigit then none
      else
        let v : Int := valueOf 10 r
        some (if negative then -v else v)
    else none

/-- A numeral without sign: digits with a point or without one, and an exponent. -/
def readUnsigned (negative : Bool) (s : List Char) : Option Binary64 :=
  let (whole, r) := spanDigits s
  let (fraction, r) := match r with
    | '.' :: r' => spanDigits r'
    | _ => ([], r)
  if whole.isEmpty ∧ fraction.isEmpty then none
  else (readExponent r).map fun x =>
    .ofDecimal negative (valueOf 10 (whole ++ fraction)) (x - fraction.length)

/-- The number a text spells: a numeral, an infinity, or the word for no number. -/
def readReal (text : List Nat) : Option Binary64 :=
  let s := stripAscii (plainNumeral text)
  let (negative, s) := match s with
    | '-' :: r => (true, r)
    | '+' :: r => (false, r)
    | _ => (false, s)
  let word := s.map Char.toLower
  if word = "inf".toList ∨ word = "infinity".toList then some (.infinite negative)
  else if word = "nan".toList then some .nan
  else readUnsigned negative s
where
  /-- The text without the ASCII blanks at its ends. -/
  stripAscii (s : List Char) : List Char := StorageKey.Text.stripBy isNumeralBlank s

end StorageKey.Decimal
