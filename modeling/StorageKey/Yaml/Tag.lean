import StorageKey.Text.Pattern

/-!
# Tags

A tag says what kind of value a node is. A scalar without a tag and without quotes has the tag
that its text suggests: `yes` is a truth value, `0x1f` and `1:30` are integers, `2001-01-01` is a
time.

* `Tag`, `Tag.ofString`;
* `Tag.suggested`: the tag that the text of a plain scalar suggests.
-/

namespace StorageKey.Yaml

open Text

/-- The kinds of values. -/
inductive Tag
  | null
  | bool
  | int
  | float
  | binary
  | timestamp
  | str
  | seq
  | map
  | set
  | omap
  | pairs
  /-- The key that merges other mappings into one. -/
  | merge
  /-- The key of the value that stands for a whole mapping. -/
  | value
  | other (name : String)
  deriving DecidableEq, Repr

/-- What all tags of the language start with. -/
def Tag.base : String := "tag:yaml.org,2002:"

/-- The tags of the language by their last words. -/
def Tag.known : List (String × Tag) := [
  ("null", .null), ("bool", .bool), ("int", .int), ("float", .float), ("binary", .binary),
  ("timestamp", .timestamp), ("str", .str), ("seq", .seq), ("map", .map), ("set", .set),
  ("omap", .omap), ("pairs", .pairs), ("merge", .merge), ("value", .value)]

/-- The tag of a name. -/
def Tag.ofString (s : String) : Tag :=
  match Tag.known.find? fun e => Tag.base ++ e.1 = s with
  | some e => e.2
  | none => .other s

namespace Tag

/-! ### What the text of a plain scalar suggests -/

/-- The words for truth values. -/
def boolPattern : Pattern := .words [
  "yes", "Yes", "YES", "no", "No", "NO", "true", "True", "TRUE", "false", "False", "FALSE",
  "on", "On", "ON", "off", "Off", "OFF"]

/-- A sign or none. -/
def sign : Pattern := .opt (.oneOf "-+")

/-- Digits and underscores, a digit first. -/
def digits : Pattern := .seq .digit (.star (.oneOf "0123456789_"))

/-- An exponent, which has a sign, or none. -/
def exponent : Pattern := .opt (.all [.oneOf "eE", .oneOf "-+", .plus .digit])

/-- The sixtieths after the first number. -/
def sixtieths : Pattern := .plus (.all [.char ':', .opt (.oneOf "012345"), .digit])

/-- The forms of floating-point numbers. -/
def floatPattern : Pattern := .any [
  .all [sign, digits, .char '.', .star (.oneOf "0123456789_"), exponent],
  .all [.char '.', digits, exponent],
  .all [sign, digits, sixtieths, .char '.', .star (.oneOf "0123456789_")],
  .all [sign, .char '.', .words ["inf", "Inf", "INF"]],
  .seq (.char '.') (.words ["nan", "NaN", "NAN"])]

/-- Digits and underscores, the first a digit other than zero. -/
def positiveDigits : Pattern := .seq (.oneOf "123456789") (.star (.oneOf "0123456789_"))

/-- The forms of integers: in base two, eight, ten and sixteen, and with sixtieths. -/
def intPattern : Pattern := .any [
  .all [sign, .literal "0b", .plus (.oneOf "01_")],
  .all [sign, .char '0', .plus (.oneOf "01234567_")],
  .all [sign, .alt (.char '0') positiveDigits],
  .all [sign, .literal "0x", .plus (.oneOf "0123456789abcdefABCDEF_")],
  .all [sign, positiveDigits, sixtieths]]

/-- Two digits. -/
def twoDigits : Pattern := .seq .digit .digit

/-- One digit or two. -/
def shortNumber : Pattern := .seq .digit (.opt .digit)

/-- Four digits. -/
def fourDigits : Pattern := .seq twoDigits twoDigits

/-- The end of a time: a clock, or none. -/
def zone : Pattern :=
  .opt (.seq (.star (.oneOf " \t"))
    (.alt (.char 'Z') (.all [.oneOf "-+", shortNumber, .opt (.seq (.char ':') twoDigits)])))

/-- The forms of days and moments. -/
def timestampPattern : Pattern := .any [
  .all [fourDigits, .char '-', twoDigits, .char '-', twoDigits],
  .all [fourDigits, .char '-', shortNumber, .char '-', shortNumber,
    .alt (.oneOf "Tt") (.plus (.oneOf " \t")),
    shortNumber, .char ':', twoDigits, .char ':', twoDigits,
    .opt (.seq (.char '.') (.star .digit)), zone]]

/-- The forms of nothing. -/
def nullPattern : Pattern := .words ["~", "null", "Null", "NULL", ""]

/-- The suggested tags in the order in which they are tried: the characters that a text may start
with, the pattern and the tag. -/
def suggestions : List (String × Pattern × Tag) := [
  ("yYnNtTfFoO", boolPattern, .bool),
  ("-+0123456789.", floatPattern, .float),
  ("-+0123456789", intPattern, .int),
  ("<", .literal "<<", .merge),
  ("~nN", nullPattern, .null),
  ("0123456789", timestampPattern, .timestamp),
  ("=", .literal "=", .value)]

/-- The tag that the text of a plain scalar suggests. -/
def suggested (s : List Char) : Tag :=
  match s with
  | [] => .null
  | c :: _ =>
    match suggestions.find? fun e => e.1.toList.contains c && e.2.1.matchesLine s with
    | some e => e.2.2
    | none => .str

end Tag

end StorageKey.Yaml
