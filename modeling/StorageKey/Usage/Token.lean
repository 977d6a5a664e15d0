import StorageKey.Decimal.Digit
import StorageKey.Text.Start
import StorageKey.Usage.Parser

/-!
# Tokens of a command line

Each token before a double hyphen is an option or a word. A token that starts with a hyphen is an
option unless it is a lone hyphen, looks like a negative number, or has a space in it. Long names
may be shortened as long as one option has them; a short name may be followed by its value.

* `Token`: what a token is;
* `Parser.tokens`: the tokens of a command line.
-/

namespace StorageKey.Usage

open StorageKey.Text

variable {σ : Type}

/-- What a token is. An option that is none of the parser's is unknown; one that is found has the
name it was found by, and perhaps a value that stands in the same token. -/
inductive Token (σ : Type) where
  | word
  | dashes
  | unknown
  | option (switch : Switch σ) (name : String) (value : Option String)

/-- Tokens with their texts. -/
abbrev Tokens (σ : Type) := List (String × Token σ)

/-- A text split at its first equals sign. -/
def splitEquals (s : String) : String × Option String :=
  let cs := s.toList
  match cs.dropWhile (· ≠ '=') with
  | [] => (s, none)
  | _ :: value => (String.ofList (cs.takeWhile (· ≠ '=')), some (String.ofList value))

theorem toList_fst_splitEquals (s : String) :
    (splitEquals s).1.toList = s.toList.takeWhile (· ≠ '=') := by
  have whole := List.takeWhile_append_dropWhile (p := (· ≠ '=')) (l := s.toList)
  simp only [splitEquals]
  split
  · next h =>
    rw [h, List.append_nil] at whole
    rw [whole]
  · rw [String.toList_ofList]

theorem snd_splitEquals (s : String) :
    (splitEquals s).2 = (s.toList.dropWhile (· ≠ '=')).tail?.map String.ofList := by
  simp only [splitEquals]
  split
  · next h =>
    rw [h]
    rfl
  · next h =>
    rw [h]
    rfl

/-- The options that a token may be short for, with their names and values. -/
def Parser.candidates (p : Parser σ) (token : String) : List (Switch σ × String × Option String) :=
  if isStart "--" token then
    let (start, value) := splitEquals token
    (p.names.filter fun e => isStart start e.1).map fun e => (e.2, e.1, value)
  else
    let short := String.ofList (token.toList.take 2)
    let value := String.ofList (token.toList.drop 2)
    p.names.filterMap fun e =>
      if e.1 = short then some (e.2, e.1, some value)
      else if isStart token e.1 then some (e.2, e.1, none)
      else none

/-- Whether a character is a digit of any script. -/
def isDigitChar (c : Char) : Bool := (Decimal.digit? c.toNat).isSome

/-- Whether a text is a number without sign: digits, or a point and digits with digits before it or
not. -/
def isUnsigned (s : List Char) : Bool :=
  match s.dropWhile isDigitChar with
  | [] => !s.isEmpty
  | '.' :: r => !r.isEmpty && r.all isDigitChar
  | _ => false

/-- Whether a token looks like a negative number; a line feed at its end is left aside. -/
def isNegativeNumber (token : String) : Bool :=
  match token.toList with
  | '-' :: r => isUnsigned r || (r.getLast? = some '\n' && isUnsigned r.dropLast)
  | _ => false

/-- What a token before the double hyphen is. -/
def Parser.token (p : Parser σ) (token : String) : Except UsageError (Token σ) :=
  if !isStart "-" token then .ok .word
  else
    match p.switch? token with
    | some s => .ok (.option s token none)
    | none =>
      if token = "-" then .ok .word
      else
        let (name, value) := splitEquals token
        match value.bind fun v => (p.switch? name).map fun s => (s, v) with
        | some (s, v) => .ok (.option s name (some v))
        | none =>
          match p.candidates token with
          | [(s, n, v)] => .ok (.option s n v)
          | [] =>
            if isNegativeNumber token || token.toList.contains ' ' then .ok .word else .ok .unknown
          | cs => .error (.ambiguous token (cs.map (·.2.1)))

/-- The tokens of a command line; all after a double hyphen are words. -/
def Parser.tokens (p : Parser σ) : List String → Except UsageError (Tokens σ)
  | [] => .ok []
  | t :: r =>
    if t = "--" then .ok ((t, .dashes) :: r.map fun w => (w, .word))
    else do
      let first ← p.token t
      let rest ← p.tokens r
      .ok ((t, first) :: rest)

end StorageKey.Usage
