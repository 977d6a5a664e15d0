/-!
# Patterns of characters

Regular patterns, matched by derivatives: the derivative of a pattern by a character is what
the rest of the text has to match after that character.

* `Pattern`, with `Pattern.literal`, `Pattern.opt`, `Pattern.plus` and other short forms;
* `Pattern.matches`: whether a whole text matches;
* `Pattern.matchesLine`: the same, a line feed at the end left aside.
-/

namespace StorageKey.Text

/-- A regular pattern. -/
inductive Pattern
  | fail
  | empty
  | one (p : Char → Bool)
  | seq (a b : Pattern)
  | alt (a b : Pattern)
  | star (a : Pattern)

namespace Pattern

/-- Whether the empty text matches. -/
def nullable : Pattern → Bool
  | .fail => false
  | .empty => true
  | .one _ => false
  | .seq a b => a.nullable && b.nullable
  | .alt a b => a.nullable || b.nullable
  | .star _ => true

/-- One pattern after another, with the trivial cases joined. -/
def join : Pattern → Pattern → Pattern
  | .fail, _ => .fail
  | .empty, b => b
  | a, .fail => .seq a .fail
  | a, b => .seq a b

/-- One pattern or another, with the trivial cases joined. -/
def either : Pattern → Pattern → Pattern
  | .fail, b => b
  | a, .fail => a
  | a, b => .alt a b

/-- What has to match after the character. -/
def deriv (c : Char) : Pattern → Pattern
  | .fail => .fail
  | .empty => .fail
  | .one p => if p c then .empty else .fail
  | .seq a b =>
    if a.nullable then either (join (a.deriv c) b) (b.deriv c) else join (a.deriv c) b
  | .alt a b => either (a.deriv c) (b.deriv c)
  | .star a => join (a.deriv c) (.star a)

/-- Whether the whole text matches. -/
def «matches» : Pattern → List Char → Bool
  | p, [] => p.nullable
  | .fail, _ => false
  | p, c :: r => (p.deriv c).matches r

/-- Whether the text, or the text without a line feed at its end, matches. -/
def matchesLine (p : Pattern) (s : List Char) : Bool :=
  p.matches s || (s.getLast? = some '\n' && p.matches s.dropLast)

/-- A given character. -/
def char (c : Char) : Pattern := .one (· = c)

/-- One of the characters of a text. -/
def oneOf (s : String) : Pattern := .one fun c => s.toList.contains c

/-- A decimal digit. -/
def digit : Pattern := .one Char.isDigit

/-- A given text. -/
def literal (s : String) : Pattern := s.toList.foldr (fun c p => .seq (char c) p) .empty

/-- One of several texts. -/
def words (ws : List String) : Pattern := ws.foldr (fun w p => .alt (literal w) p) .fail

/-- A pattern or nothing. -/
def opt (p : Pattern) : Pattern := .alt p .empty

/-- A pattern once or more often. -/
def plus (p : Pattern) : Pattern := .seq p (.star p)

/-- Several patterns one after the other. -/
def all (ps : List Pattern) : Pattern := ps.foldr .seq .empty

/-- One of several patterns. -/
def any (ps : List Pattern) : Pattern := ps.foldr .alt .fail

end Pattern

end StorageKey.Text
