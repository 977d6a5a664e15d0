import StorageKey.Yaml.Cursor
import StorageKey.Yaml.Tag

/-!
# The style of a written scalar

A text is written plain where it would be read back as itself, in single quotes where only its
place or its look forbids that, and in double quotes where it holds anything but printable ASCII
and line feeds, or a line feed next to a space.

* `Style`, `styleOf`: the style of a text;
* `fitsOnKeyLine`: whether a text can stand before a colon.
-/

namespace StorageKey.Yaml

/-- The ways to write a scalar. -/
inductive Style
  | plain
  | single
  | double
  deriving DecidableEq, Repr

/-- A printable character of ASCII. -/
def isPrintableAscii (c : Char) : Bool := ' ' ≤ c && c ≤ '~'

/-- Whether a text holds what only double quotes can carry. -/
def hasSpecial (s : List Char) : Bool := s.any fun c => !(c = '\n' || isPrintableAscii c)

/-- Whether a line break stands anywhere. -/
def hasBreak (s : List Char) : Bool :=
  s.any fun c => c = '\n' || c = '\u0085' || c = '\u2028' || c = '\u2029'

/-- Whether two neighbours stand in a text. -/
def hasPair (a b : Char) : List Char → Bool
  | x :: y :: r => (x = a && y = b) || hasPair a b (y :: r)
  | _ => false

/-- Whether a text starts with an indicator: with a character that starts something else, or with
one that does so before a blank. -/
def startsWithIndicator : List Char → Bool
  | [] => false
  | c :: r =>
    let blankNext := isBlankOrEnd (r.headD '\x00')
    "#,[]\x7b\x7d&*!|>'\"%@\x60".toList.contains c || ((c = '?' || c = ':' || c = '-') && blankNext)

/-- Whether an indicator stands inside: a colon before a blank, or a hash after one. The first
argument is the character before the text. -/
def holdsIndicator (before : Char) : List Char → Bool
  | [] => false
  | c :: r =>
    (c = ':' && isBlankOrEnd (r.headD '\x00')) || (c = '#' && isBlankOrEnd before) ||
    holdsIndicator c r

/-- Whether a text starts like a marker of documents. -/
def startsLikeMarker (s : List Char) : Bool :=
  s.take 3 = ['-', '-', '-'] || s.take 3 = ['.', '.', '.']

/-- Whether indicators keep a text from being plain. -/
def hasIndicator (s : List Char) : Bool :=
  startsLikeMarker s || startsWithIndicator s ||
  (match s with
    | [] => false
    | c :: r => holdsIndicator c r)

/-- Whether a text starts or ends with a space or a line feed. -/
def hasOuterSpace (s : List Char) : Bool :=
  let outer (c : Option Char) : Bool := c = some ' ' || c = some '\n'
  outer s.head? || outer s.getLast?

/-- Whether a text can be written plain. -/
def allowsPlain (s : List Char) : Bool :=
  !hasSpecial s && !hasBreak s && !hasOuterSpace s && !hasIndicator s

/-- Whether a text can be written in single quotes. -/
def allowsSingle (s : List Char) : Bool :=
  !hasSpecial s && !hasPair '\n' ' ' s && !hasPair ' ' '\n' s

/-- The style of a text. `suggestive` says that its look suggests another value than a text, and
`key` that it stands before a colon on its line. -/
def styleOf (suggestive key : Bool) (s : List Char) : Style :=
  if !suggestive && !s.isEmpty && allowsPlain s then .plain
  else if s.isEmpty then (if suggestive || key then .single else .plain)
  else if allowsSingle s && !(key && hasBreak s) then .single
  else .double

/-- Whether a text can stand before a colon: it is short, not empty, and on one line. -/
def fitsOnKeyLine (s : List Char) : Bool := s.length < 123 && !s.isEmpty && !hasBreak s

end StorageKey.Yaml
