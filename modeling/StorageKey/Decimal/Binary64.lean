/-!
# Binary floating-point numbers

The numbers of the 64-bit binary format, as mantissa and exponent, with exact arithmetic and
one rounding at the end: to the nearest number of the format, a tie to the even mantissa.

* `Binary64`: a finite number `±mantissa · 2 ^ exponent`, an infinity, or no number;
* `nearest`: the number of the format nearest to a quotient;
* `ofDecimal`: the number nearest to `digits · 10 ^ exponent`;
* `add`, `mul`, `neg`: arithmetic.
-/

namespace StorageKey.Decimal

/-- A number of the 64-bit binary format. A finite one is `±mantissa · 2 ^ exponent` with
`mantissa < 2 ^ 53` and `-1074 ≤ exponent`, and with `2 ^ 52 ≤ mantissa` unless the exponent is
`-1074`. -/
inductive Binary64
  | finite (negative : Bool) (mantissa : Nat) (exponent : Int)
  | infinite (negative : Bool)
  | nan
  deriving DecidableEq, Repr, Inhabited

/-- A power of two. -/
def twoPow (n : Nat) : Nat := Nat.pow 2 n

/-- A power of ten. -/
def tenPow (n : Nat) : Nat := Nat.pow 10 n

namespace Binary64

/-- Zero with a sign. -/
def zero (negative : Bool) : Binary64 := .finite negative 0 (-1074)

/-- The quotient of `num / den` by a power of two, as numerator and denominator. -/
def unscale (num den : Nat) (e : Int) : Nat × Nat :=
  (num * twoPow (-e).toNat, den * twoPow e.toNat)

/-- The integer nearest to `num / den`, a tie to the even one. -/
def roundEven (num den : Nat) : Nat :=
  let q := num / den
  let r := num % den
  if 2 * r > den || (2 * r = den && q % 2 = 1) then q + 1 else q

/-- The number of the format nearest to `num / den`, for a positive `den`. -/
def nearest (negative : Bool) (num den : Nat) : Binary64 :=
  if num = 0 then zero negative else
  let e₀ : Int := max ((num.log2 : Int) - (den.log2 : Int) - 53) (-1074)
  let (n₀, d₀) := unscale num den e₀
  let e := if n₀ / d₀ ≥ twoPow 53 then e₀ + 1 else e₀
  let (n, d) := unscale num den e
  let m := roundEven n d
  let (m, e) := if m = twoPow 53 then (twoPow 52, e + 1) else (m, e)
  if e > 971 then .infinite negative else .finite negative m e

/-- The number of the format nearest to `±digits · 10 ^ exponent`. -/
def ofDecimal (negative : Bool) (digits : Nat) (exponent : Int) : Binary64 :=
  if digits = 0 then zero negative else
  let size : Int := (Nat.toDigits 10 digits).length + exponent
  if size > 310 then .infinite negative
  else if size < -330 then zero negative
  else if 0 ≤ exponent then nearest negative (digits * tenPow exponent.toNat) 1
  else nearest negative digits (tenPow (-exponent).toNat)

/-- The size of a finite number as a quotient. -/
def quotient (mantissa : Nat) (exponent : Int) : Nat × Nat :=
  (mantissa * twoPow exponent.toNat, twoPow (-exponent).toNat)

/-- The number nearest to an integer. -/
def ofInt (i : Int) : Binary64 := nearest (i < 0) i.natAbs 1

/-- The number with the other sign. -/
def neg : Binary64 → Binary64
  | .finite s m e => .finite (!s) m e
  | .infinite s => .infinite (!s)
  | .nan => .nan

/-- The sum, rounded once. -/
def add : Binary64 → Binary64 → Binary64
  | .nan, _ | _, .nan => .nan
  | .infinite s, .infinite t => if s = t then .infinite s else .nan
  | .infinite s, _ => .infinite s
  | _, .infinite t => .infinite t
  | .finite s m e, .finite t n f =>
    if m = 0 ∧ n = 0 then zero (s && t) else
    let (p, q) := quotient m e
    let (u, v) := quotient n f
    let x : Int := if s then -((p * v : Nat) : Int) else ((p * v : Nat) : Int)
    let y : Int := if t then -((u * q : Nat) : Int) else ((u * q : Nat) : Int)
    nearest (x + y < 0) (x + y).natAbs (q * v)

/-- The product, rounded once. -/
def mul : Binary64 → Binary64 → Binary64
  | .nan, _ | _, .nan => .nan
  | .infinite s, .infinite t => .infinite (s != t)
  | .infinite s, .finite t n _ => if n = 0 then .nan else .infinite (s != t)
  | .finite s m _, .infinite t => if m = 0 then .nan else .infinite (s != t)
  | .finite s m e, .finite t n f =>
    let (p, q) := quotient m e
    let (u, v) := quotient n f
    nearest (s != t) (p * u) (q * v)

/-- The integer a finite number is, if it is one. -/
def toInt? : Binary64 → Option Int
  | .finite s m e =>
    let (p, q) := quotient m e
    if p % q = 0 then some (if s then -((p / q : Nat) : Int) else ((p / q : Nat) : Int)) else none
  | _ => none

/-- Whether two numbers are equal in value; the two zeros are, and so is a number that is none
with itself. -/
def sameValue : Binary64 → Binary64 → Bool
  | .nan, .nan => true
  | .infinite s, .infinite t => s = t
  | .finite s m e, .finite t n f => m = n && ((m = 0) || (s = t && e = f))
  | _, _ => false

end Binary64

end StorageKey.Decimal
