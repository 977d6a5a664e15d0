import StorageKey.Text.Printable

/-!
# Quoted literals

How a text is shown in a message: between quotes, with escapes for the backslash, the quote
itself and whatever has no shape. Double quotes are taken only for a text that holds a single
quote and no double one.

* `quotePoints`, `quote`: the literal of a list of code points and of a text;
* `quoteBytes`: the literal of a string of bytes.
-/

namespace StorageKey.Text

/-- The lower-case hexadecimal digits of `n`, at least `width` of them. -/
def hexDigits (width n : Nat) : List Char :=
  let ds := Nat.toDigits 16 n
  List.replicate (width - ds.length) '0' ++ ds

/-- The escape of a code point that has no shape. -/
def escapePoint (n : Nat) : List Char :=
  if n ≤ 0xff then '\\' :: 'x' :: hexDigits 2 n
  else if n ≤ 0xffff then '\\' :: 'u' :: hexDigits 4 n
  else '\\' :: 'U' :: hexDigits 8 n

/-- A code point inside a literal with the given quote. -/
def quotePoint (quote : Char) (n : Nat) : List Char :=
  if n = quote.toNat || n = '\\'.toNat then ['\\', Char.ofNat n]
  else if n = 9 then ['\\', 't']
  else if n = 10 then ['\\', 'n']
  else if n = 13 then ['\\', 'r']
  else if isPrintablePoint n then [Char.ofNat n]
  else escapePoint n

/-- The quote for a literal: double only if the text holds a single one and no double one. -/
def quoteFor (ns : List Nat) : Char :=
  if ns.contains '\''.toNat && !ns.contains '"'.toNat then '"' else '\''

/-- The literal of a list of code points. -/
def quotePoints (ns : List Nat) : List Char :=
  let q := quoteFor ns
  q :: ns.flatMap (quotePoint q) ++ [q]

/-- The literal of a text. -/
def quote (s : List Char) : List Char := quotePoints (s.map Char.toNat)

/-- A byte inside a literal with the given quote. -/
def quoteByte (quote : Char) (b : UInt8) : List Char :=
  let n := b.toNat
  if n < 127 then quotePoint quote n else '\\' :: 'x' :: hexDigits 2 n

/-- The literal of a string of bytes. -/
def quoteBytes (bs : List UInt8) : List Char :=
  let q := quoteFor (bs.map UInt8.toNat)
  'b' :: q :: bs.flatMap (quoteByte q) ++ [q]

end StorageKey.Text
