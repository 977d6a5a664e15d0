import StorageKey.Data.Literal

/-!
# What is wrong with a record

A record is checked field by field, and all that is wrong with it is reported at once.

* `Cause`: why a value is not accepted, with its wording and its short name;
* `Issue`: a cause, the place in the record, and the value;
* `report`: the text about a record with issues;
* `Checked`: a value or the issues that prevent it; issues of several parts are collected.
-/

namespace StorageKey.Record

/-- Why a value is not accepted. -/
inductive Cause
  | missing
  | unknownField
  | keyNotText
  | notText
  | notUnicode
  | notInteger
  | integerText
  | integerSize
  | fractional
  | notFinite
  | notTruth
  | truthText
  | lessThan (least : Nat)
  | noneOfWords (words : List String)
  | noneOfChoices (words : List String)
  | notList
  | notPath
  | notRecord (name : String)
  /-- A rule of the record itself is broken. -/
  | rule (text : String)
  deriving DecidableEq, Repr

/-- Words in quotes as alternatives. -/
def alternatives : List String → String
  | [] => ""
  | [w] => "'" ++ w ++ "'"
  | [v, w] => "'" ++ v ++ "' or '" ++ w ++ "'"
  | w :: ws => "'" ++ w ++ "', " ++ alternatives ws

/-- The wording of a cause. -/
def Cause.message : Cause → String
  | .missing => "Field required"
  | .unknownField => "Extra inputs are not permitted"
  | .keyNotText => "Keys should be strings"
  | .notText => "Input should be a valid string"
  | .notUnicode => "Input should be a valid string, unable to parse raw data as a unicode string"
  | .notInteger => "Input should be a valid integer"
  | .integerText => "Input should be a valid integer, unable to parse string as an integer"
  | .integerSize => "Unable to parse input string as an integer, exceeded maximum size"
  | .fractional => "Input should be a valid integer, got a number with a fractional part"
  | .notFinite => "Input should be a finite number"
  | .notTruth => "Input should be a valid boolean"
  | .truthText => "Input should be a valid boolean, unable to interpret input"
  | .lessThan least => "Input should be greater than or equal to " ++ toString least
  | .noneOfWords ws | .noneOfChoices ws => "Input should be " ++ alternatives ws
  | .notList => "Input should be a valid list"
  | .notPath => "Input is not a valid path for <class 'pathlib.Path'>"
  | .notRecord name => "Input should be a valid dictionary or instance of " ++ name
  | .rule text => "Value error, " ++ text

/-- The short name of a cause. -/
def Cause.name : Cause → String
  | .missing => "missing"
  | .unknownField => "extra_forbidden"
  | .keyNotText => "invalid_key"
  | .notText => "string_type"
  | .notUnicode => "string_unicode"
  | .notInteger => "int_type"
  | .integerText => "int_parsing"
  | .integerSize => "int_parsing_size"
  | .fractional => "int_from_float"
  | .notFinite => "finite_number"
  | .notTruth => "bool_type"
  | .truthText => "bool_parsing"
  | .lessThan _ => "greater_than_equal"
  | .noneOfWords _ => "literal_error"
  | .noneOfChoices _ => "enum"
  | .notList => "list_type"
  | .notPath => "path_type"
  | .notRecord _ => "model_type"
  | .rule _ => "value_error"

/-- A cause, the steps from the record to the value, and the value. -/
structure Issue where
  place : List String
  cause : Cause
  input : Value
  deriving Repr

/-! ### The report -/

/-- The longest start of a text that fits in `limit` bytes. -/
def takeBytes (limit : Nat) : List Char → List Char
  | [] => []
  | c :: r => if c.utf8Size ≤ limit then c :: takeBytes (limit - c.utf8Size) r else []

/-- The bytes of a text. -/
def byteCount (s : List Char) : Nat := s.foldl (fun n c => n + c.utf8Size) 0

/-- A text of more than 50 bytes is cut to its first 25 and its last 24, in whole characters. -/
def shorten (s : List Char) : List Char :=
  if byteCount s ≤ 50 then s
  else takeBytes 25 s ++ ['.', '.', '.'] ++ (takeBytes 24 s.reverse).reverse

/-- The literal of a value as a report shows it. -/
def shownValue (v : Value) : List Char :=
  shorten ((v.literal?).getD ("<unprintable ".toList ++ v.kind.toList ++ " object>".toList))

/-- A step of a place; a step that holds a dot stands in backquotes. -/
def shownStep (s : String) : String :=
  if s.toList.contains '.' then "\x60" ++ s ++ "\x60" else s

/-- The lines about an issue. -/
def Issue.lines (i : Issue) : List String :=
  (if i.place.isEmpty then [] else [String.intercalate "." (i.place.map shownStep)]) ++
  ["  " ++ i.cause.message ++ " [type=" ++ i.cause.name ++ ", input_value=" ++
    String.ofList (shownValue i.input) ++ ", input_type=" ++ i.input.kind ++ "]"]

/-- The text about a record of the given name with issues. -/
def report (name : String) (issues : List Issue) : String :=
  let count := toString issues.length ++
    (if issues.length = 1 then " validation error" else " validation errors")
  String.intercalate "\n" ((count ++ " for " ++ name) :: issues.flatMap Issue.lines)

/-! ### Checked values -/

/-- A value, or the issues that prevent it. -/
inductive Checked (α : Type) where
  | ok (a : α)
  | bad (issues : List Issue)

namespace Checked

variable {α β : Type}

/-- Apply a function to a checked value. -/
def map (f : α → β) : Checked α → Checked β
  | .ok a => .ok (f a)
  | .bad is => .bad is

/-- Apply a checked function to a checked value; the issues of both are collected. -/
def seq (f : Checked (α → β)) (x : Checked α) : Checked β :=
  match f, x with
  | .ok f, .ok a => .ok (f a)
  | .bad is, .ok _ => .bad is
  | .ok _, .bad js => .bad js
  | .bad is, .bad js => .bad (is ++ js)

instance : Applicative Checked where
  pure := .ok
  seq f x := f.seq (x ())
  map := map

/-- The value, unless there are further issues. -/
def also (x : Checked α) (more : List Issue) : Checked α :=
  match x with
  | .ok a => if more.isEmpty then .ok a else .bad more
  | .bad is => .bad (is ++ more)

/-- The value or the issues. -/
def toExcept : Checked α → Except (List Issue) α
  | .ok a => .ok a
  | .bad is => .error is

theorem toExcept_seq_eq_ok_iff {f : Checked (α → β)} {x : Checked α} {b : β} :
    (f.seq x).toExcept = .ok b ↔ ∃ g a, f.toExcept = .ok g ∧ x.toExcept = .ok a ∧ g a = b := by
  cases f <;> cases x <;> simp [seq, toExcept]

theorem toExcept_also_eq_ok_iff {x : Checked α} {more : List Issue} {a : α} :
    (x.also more).toExcept = .ok a ↔ x.toExcept = .ok a ∧ more = [] := by
  cases x with
  | ok b => cases more <;> simp [also, toExcept]
  | bad is => simp [also, toExcept]

end Checked

end StorageKey.Record
