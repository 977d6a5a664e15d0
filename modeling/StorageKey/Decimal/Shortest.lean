import StorageKey.Decimal.Binary64

/-!
# The shortest decimal that reads back

The decimal text of a binary floating-point number has the fewest digits that read back as the
number, and of those the digits nearest to it.

* `roundsTo m e p k`: whether `p · 10 ^ k` rounds to the number `m · 2 ^ e`;
* `shortest m e`: the digits and the exponent;
* `Layout`: what a notation chooses, such as where the positional form ends;
* `Layout.text`: the text of a number in a notation.
-/

namespace StorageKey.Decimal

/-- `a · 2 ^ x` and `b · 10 ^ y`, both times what makes integers of them. -/
def sides (a : Nat) (x : Int) (b : Nat) (y : Int) : Nat × Nat :=
  (a * twoPow x.toNat * tenPow (-y).toNat, b * tenPow y.toNat * twoPow (-x).toNat)

/-- Whether `a · 2 ^ x ≤ b · 10 ^ y`. -/
def leScaled (a : Nat) (x : Int) (b : Nat) (y : Int) : Bool :=
  (sides a x b y).1 ≤ (sides a x b y).2

/-- Whether `b · 10 ^ y < a · 2 ^ x`. -/
def gtScaled (a : Nat) (x : Int) (b : Nat) (y : Int) : Bool := !leScaled a x b y

/-- Whether `a · 2 ^ x = b · 10 ^ y`. -/
def eqScaled (a : Nat) (x : Int) (b : Nat) (y : Int) : Bool :=
  (sides a x b y).1 = (sides a x b y).2

/-- Whether `p · 10 ^ k` rounds to `m · 2 ^ e`: it lies between the midpoints to the two
neighbours, or on one of them if the mantissa is even. -/
def roundsTo (m : Nat) (e : Int) (p : Nat) (k : Int) : Bool :=
  let low := if m = twoPow 52 ∧ e > -1074 then 4 * m - 1 else 4 * m - 2
  let high := 4 * m + 2
  if m % 2 = 0 then
    leScaled low (e - 2) p k && (gtScaled high (e - 2) p k || eqScaled high (e - 2) p k)
  else
    (leScaled low (e - 2) p k && !eqScaled low (e - 2) p k) && gtScaled high (e - 2) p k

/-- The exponent `p` of the greatest power of ten that is at most `m · 2 ^ e`, for `0 < m`. -/
def leadingExponent (m : Nat) (e : Int) : Int :=
  let bits : Int := m.log2 + e
  let p₀ : Int := (bits * 30103).fdiv 100000 - 1
  let atMost (p : Int) : Bool := gtScaled m e 1 p || eqScaled m e 1 p
  if atMost (p₀ + 2) then p₀ + 2 else if atMost (p₀ + 1) then p₀ + 1 else p₀

/-- The integer part of `m · 2 ^ e / 10 ^ k`. -/
def gridFloor (m : Nat) (e k : Int) : Nat :=
  m * twoPow e.toNat * tenPow (-k).toNat / (twoPow (-e).toNat * tenPow k.toNat)

/-- Of the two neighbours on the grid of multiples of `10 ^ k`, the one that rounds to
`m · 2 ^ e`; if both do, the nearer, and the even one of two equally near. -/
def onGrid (m : Nat) (e k : Int) : Option Nat :=
  let d := gridFloor m e k
  match roundsTo m e d k, roundsTo m e (d + 1) k with
  | false, false => none
  | true, false => some d
  | false, true => some (d + 1)
  | true, true =>
    -- twice the number against the sum of the neighbours
    if eqScaled m (e + 1) (2 * d + 1) k then some (if d % 2 = 0 then d else d + 1)
    else if leScaled m (e + 1) (2 * d + 1) k then some d else some (d + 1)

/-- Strip the factors of ten off the digits. -/
def stripZeros (fuel : Nat) (d : Nat) (k : Int) : Nat × Int :=
  match fuel with
  | 0 => (d, k)
  | fuel + 1 => if d ≠ 0 ∧ d % 10 = 0 then stripZeros fuel (d / 10) (k + 1) else (d, k)

/-- The first grid with a hit, from `n` digits on. -/
def search (m : Nat) (e lead : Int) : Nat → Nat → Nat × Int
  | 0, _ => (gridFloor m e (lead - 16), lead - 16)
  | fuel + 1, n =>
    match onGrid m e (lead - n) with
    | some d => (d, lead - n)
    | none => search m e lead fuel (n + 1)

/-- The fewest decimal digits `d` with `d · 10 ^ k` reading back as `m · 2 ^ e`, for `0 < m`. -/
def shortest (m : Nat) (e : Int) : Nat × Int :=
  let (d, k) := search m e (leadingExponent m e) 17 0
  stripZeros 20 d k

/-- What a notation of numbers chooses. -/
structure Layout where
  /-- The positional form is used for a point at most this far behind the first digit. -/
  lastPoint : Int
  /-- The positional form is used for a point further than this from the first digit. -/
  firstPoint : Int
  /-- What a number with one digit before the exponent has behind it. -/
  loneDigit : String
  /-- The texts of the infinities and of no number. -/
  infinity : String
  negativeInfinity : String
  nan : String
  deriving DecidableEq, Repr

/-- The text of an exponent: a sign and at least two digits. -/
def exponentText (x : Int) : List Char :=
  let ds := Nat.toDigits 10 x.natAbs
  (if x < 0 then '-' else '+') :: (if ds.length < 2 then '0' :: ds else ds)

/-- The text of digits with the point after the first `point` of them. -/
def Layout.place (l : Layout) (ds : List Char) (point : Int) : List Char :=
  if l.firstPoint < point ∧ point ≤ l.lastPoint then
    if point ≤ 0 then '0' :: '.' :: List.replicate (-point).toNat '0' ++ ds
    else
      let p := point.toNat
      if ds.length ≤ p then ds ++ List.replicate (p - ds.length) '0' ++ ['.', '0']
      else ds.take p ++ '.' :: ds.drop p
  else
    match ds with
    | [] => []
    | [d] => d :: l.loneDigit.toList ++ 'e' :: exponentText (point - 1)
    | d :: r => d :: '.' :: r ++ 'e' :: exponentText (point - 1)

/-- The text of a number in a notation. -/
def Layout.text (l : Layout) : Binary64 → String
  | .nan => l.nan
  | .infinite s => if s then l.negativeInfinity else l.infinity
  | .finite s m e =>
    let sign := if s then ['-'] else []
    if m = 0 then String.ofList (sign ++ ['0', '.', '0']) else
    let (d, k) := shortest m e
    let ds := Nat.toDigits 10 d
    String.ofList (sign ++ l.place ds (ds.length + k))

/-- The notation of messages: positional from `0.0001` up to sixteen digits. -/
def messageLayout : Layout := ⟨16, -4, "", "inf", "-inf", "nan"⟩

end StorageKey.Decimal
