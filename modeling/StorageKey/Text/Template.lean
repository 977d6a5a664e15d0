import StorageKey.Text.Quoted

/-!
# Templates

A text with places for values: a percent sign, the name of a value in parentheses, flags, a width,
a precision and a conversion letter. Without a name the place takes the table of all values, or
again the value taken last, but only once. Two percent signs stand for one.

* `Template.fill`: the text with its places filled by one named text;
* `Template.Fault`: why a template cannot be filled.
-/

namespace StorageKey

theorem exists_of_except_bind {α β ε : Type} {r : Except ε α} {f : α → Except ε β} {b : β}
    (h : r >>= f = .ok b) : ∃ a, r = .ok a ∧ f a = .ok b := by
  cases r with
  | error e => cases h
  | ok a => exact ⟨a, rfl, h⟩

end StorageKey

namespace StorageKey.Text.Template

/-- Why a template cannot be filled. -/
inductive Fault
  /-- The parenthesis of a name is not closed. -/
  | openName
  | unknownName (name : List Char)
  | widthSize
  | precisionSize
  /-- A star asks for a width among the values, but the value is no integer. -/
  | starWidth
  | incomplete
  | noValueLeft
  | unknownLetter (letter : Char) (place : Nat)
  | noInteger (letter : Char) (kind : String)
  | noNumber (letter : Char) (kind : String)
  | noReal (kind : String)
  | noCharacter
  deriving DecidableEq, Repr

/-- The wording of a fault. -/
def Fault.message : Fault → String
  | .openName => "incomplete format key"
  | .unknownName name => String.ofList (quote name)
  | .widthSize => "width too big"
  | .precisionSize => "precision too big"
  | .starWidth => "* wants int"
  | .incomplete => "incomplete format"
  | .noValueLeft => "not enough arguments for format string"
  | .unknownLetter c i =>
    "unsupported format character '" ++
      (if 31 ≤ c.toNat && c.toNat ≤ 126 then c else '?').toString ++
      "' (0x" ++ String.ofList (hexDigits 1 c.toNat) ++ ") at index " ++ toString i
  | .noInteger c kind => "%" ++ c.toString ++ " format: an integer is required, not " ++ kind
  | .noNumber c kind => "%" ++ c.toString ++ " format: a real number is required, not " ++ kind
  | .noReal kind => "must be real number, not " ++ kind
  | .noCharacter => "%c requires int or char"

/-- What a place can take: a text, or the table of the named text. -/
inductive Source
  | text (s : List Char)
  | table (name value : List Char)

/-- The name of a source's kind. -/
def Source.kind : Source → String
  | .text _ => "str"
  | .table _ _ => "dict"

/-- The literal of a source. -/
def Source.literal : Source → List Char
  | .text s => quote s
  | .table name value => '\x7b' :: quote name ++ ": ".toList ++ quote value ++ ['\x7d']

/-- A source as part of a sentence. -/
def Source.shown : Source → List Char
  | .text s => s
  | s => s.literal

/-- A text with all characters beyond ASCII escaped. -/
def escapeAll (s : List Char) : List Char :=
  s.flatMap fun c => if c.toNat < 128 then [c] else escapePoint c.toNat

/-- How a value is placed: at the left of its width or at the right, and how much of it. -/
structure Placing where
  left : Bool
  width : Nat
  precision : Option Nat

/-- Place a text. -/
def Placing.apply (p : Placing) (s : List Char) : List Char :=
  let pad := List.replicate (p.width - s.length) ' '
  if p.left then s ++ pad else pad ++ s

/-- Convert a source by a letter. -/
def convert (p : Placing) (letter : Char) (place : Nat) (v : Source) : Except Fault (List Char) :=
  let cut (s : List Char) : List Char := match p.precision with
    | some n => s.take n
    | none => s
  if letter = 's' then .ok (p.apply (cut v.shown))
  else if letter = 'r' then .ok (p.apply (cut v.literal))
  else if letter = 'a' then .ok (p.apply (cut (escapeAll v.literal)))
  else if letter = 'c' then
    match v with
    | .text [c] => .ok (p.apply [c])
    | _ => .error .noCharacter
  else if letter = 'o' ∨ letter = 'x' ∨ letter = 'X' then .error (.noInteger letter v.kind)
  else if letter = 'd' ∨ letter = 'i' ∨ letter = 'u' then .error (.noNumber letter v.kind)
  else if "eEfFgG".toList.contains letter then .error (.noReal v.kind)
  else .error (.unknownLetter letter place)

/-- The name in parentheses and what follows it; `depth` counts the open parentheses. -/
def splitName (depth : Nat) : List Char → Option (List Char × List Char)
  | [] => none
  | c :: r =>
    if c = ')' then
      if depth = 0 then some ([], r) else (splitName (depth - 1) r).map fun e => (c :: e.1, e.2)
    else (splitName (if c = '(' then depth + 1 else depth) r).map fun e => (c :: e.1, e.2)

/-- The number that digits spell, if it is at most `limit`. -/
def number? (limit : Nat) (ds : List Char) : Option Nat :=
  let n := ds.foldl (fun v c => v * 10 + (c.toNat - 48)) 0
  if n ≤ limit then some n else none

/-- Read digits as a number that is at most `limit`, and what follows them. -/
def readNumber (limit : Nat) (fault : Fault) (s : List Char) : Except Fault (Nat × List Char) :=
  match number? limit (s.takeWhile Char.isDigit) with
  | some n => .ok (n, s.dropWhile Char.isDigit)
  | none => .error fault

/-- What a place takes next, if it has not been taken. -/
structure Supply where
  source : Source
  taken : Bool

/-- Take the source. -/
def Supply.take (s : Supply) : Except Fault (Source × Supply) :=
  if s.taken then .error .noValueLeft else .ok (s.source, { s with taken := true })

/-- The greatest width. -/
def widthLimit : Nat := 9223372036854775807

/-- The greatest precision. -/
def precisionLimit : Nat := 2147483647

/-- What a place takes from: after a name in parentheses this is the named text. -/
def takeName (name value : List Char) (supply : Supply) (s : List Char) :
    Except Fault (Supply × List Char) :=
  match s with
  | '(' :: r =>
    match splitName 0 r with
    | none => .error .openName
    | some (n, r) => if n = name then .ok (⟨.text value, false⟩, r) else .error (.unknownName n)
  | _ => .ok (supply, s)

/-- The width of a place. -/
def takeWidth (supply : Supply) (s : List Char) : Except Fault (Nat × List Char) :=
  match s with
  | '*' :: _ => do
    let _ ← supply.take
    .error .starWidth
  | _ => readNumber widthLimit .widthSize s

/-- The precision of a place, if it has one. -/
def takePrecision (supply : Supply) (s : List Char) : Except Fault (Option Nat × List Char) :=
  match s with
  | '.' :: '*' :: _ => do
    let _ ← supply.take
    .error .starWidth
  | '.' :: r => (readNumber precisionLimit .precisionSize r).map fun e => (some e.1, e.2)
  | _ => .ok (none, s)

/-- The rest of a place after the letter for a size, which says nothing. -/
def dropSize (s : List Char) : List Char :=
  match s with
  | c :: r => if c = 'h' ∨ c = 'l' ∨ c = 'L' then r else s
  | [] => []

/-- Convert what a place takes by the letter of the place. -/
def takeLetter (p : Placing) (total : Nat) (supply : Supply) (s : List Char) :
    Except Fault (List Char × Supply × List Char) :=
  match s with
  | [] => .error .incomplete
  | letter :: r => do
    let (v, supply) ← supply.take
    let text ← convert p letter (total - r.length - 1) v
    .ok (text, supply, r)

/-- Fill one place, whose text follows a percent sign; `total` is the length of the template. -/
def fillPlace (total : Nat) (name value : List Char) (supply : Supply) (s : List Char) :
    Except Fault (List Char × Supply × List Char) := do
  let (supply, s) ← takeName name value supply s
  let flags := s.takeWhile fun c => "-+ #0".toList.contains c
  let (width, s) ← takeWidth supply (s.drop flags.length)
  let (precision, s) ← takePrecision supply s
  takeLetter ⟨flags.contains '-', width, precision⟩ total supply (dropSize s)

/-- Fill the places of the rest of a template. -/
def fillFrom (fuel total : Nat) (name value : List Char) (supply : Supply) (s : List Char) :
    Except Fault (List Char) :=
  match fuel with
  | 0 => .ok s
  | fuel + 1 =>
    match s with
    | [] => .ok []
    | '%' :: '%' :: r => (fillFrom fuel total name value supply r).map ('%' :: ·)
    | '%' :: r => do
      let (text, supply, r) ← fillPlace total name value supply r
      (fillFrom fuel total name value supply r).map (text ++ ·)
    | c :: r => (fillFrom fuel total name value supply r).map (c :: ·)

/-- A template with its places filled by one named text. -/
def fill (name value : List Char) (s : List Char) : Except Fault (List Char) :=
  fillFrom (s.length + 1) s.length name value ⟨.table name value, false⟩ s

end StorageKey.Text.Template
