/-!
# Blank characters

Two classes of blanks. `isWhite` holds of the characters with Unicode's property White_Space;
`isBlank` holds of these and of the four information separators, which break words too.

* `strip`: a text without the blanks at its two ends.
-/

namespace StorageKey.Text

/-- The characters with the property White_Space. -/
def isWhite (c : Char) : Bool :=
  let n := c.toNat
  (9 ≤ n && n ≤ 13) || n = 32 || n = 0x85 || n = 0xa0 || n = 0x1680 ||
  (0x2000 ≤ n && n ≤ 0x200a) || n = 0x2028 || n = 0x2029 || n = 0x202f || n = 0x205f || n = 0x3000

/-- The characters that separate words: white space and the information separators. -/
def isBlank (c : Char) : Bool := isWhite c || (28 ≤ c.toNat && c.toNat ≤ 31)

/-- A text without the characters of a class at its two ends. -/
def stripBy (p : Char → Bool) (s : List Char) : List Char :=
  ((s.dropWhile p).reverse.dropWhile p).reverse

/-- A text without the blanks at its two ends. -/
def strip (s : List Char) : List Char := stripBy isBlank s

/-- A text without the white space at its two ends. -/
def trim (s : List Char) : List Char := stripBy isWhite s

/-- A text without the blanks at its end. -/
def stripEnd (s : List Char) : List Char := (s.reverse.dropWhile isBlank).reverse

/-- Whether a text holds nothing but blanks. -/
def allBlank (s : List Char) : Bool := s.all isBlank

end StorageKey.Text
