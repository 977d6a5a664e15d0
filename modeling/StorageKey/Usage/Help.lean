import StorageKey.Text.Fill
import StorageKey.Text.Template
import StorageKey.Usage.Parser

/-!
# Usage and help texts

The usage line names the program, its options and its operands, in lines of at most 78 characters.
The help text has the usage, what the program does, and a line or more about each operand and
option.

* `Parser.usage`: the usage line;
* `Parser.help`: the help text. The description is a template if it names the program;
* `Parser.complaint`: the usage line and an error.
-/

namespace StorageKey.Usage

open StorageKey.Text

variable {σ : Type}

/-- The characters of a line of help. -/
def helpWidth : Nat := 78

/-- The column at which summaries start, at most. -/
def summaryColumn : Nat := 24

/-! ### Usage -/

/-- The placeholder of an option's value with a space before it. -/
def Switch.placeholder (s : Switch σ) : String :=
  match s.effect with
  | .value placeholder _ _ => " " ++ placeholder
  | _ => ""

/-- The parts of the usage that are options. -/
def Parser.optionParts (p : Parser σ) : List String :=
  p.switches.map fun s => "[" ++ s.names.headD "" ++ s.placeholder ++ "]"

/-- The parts of the usage that are operands. -/
def Parser.operandParts (p : Parser σ) : List String :=
  match p.operands with
  | some o => [o.word, "..."]
  | none => []

/-- The mark before a usage. -/
def usageMark : String := "usage: "

/-- Parts in lines that fit after `indent` columns; the first line has `used` columns before it and
holds the parts in `line` already. -/
def usageLines (indent used : Nat) (line : List String) : List String → List (List String)
  | [] => if line.isEmpty then [] else [line]
  | part :: r =>
    if used + 1 + part.length > helpWidth ∧ !line.isEmpty then
      line :: usageLines indent (indent - 1 + part.length + 1) [part] r
    else usageLines indent (used + part.length + 1) (line ++ [part]) r

/-- Lines of parts, each indented. -/
def indentParts (indent : Nat) (lines : List (List String)) : List String :=
  lines.map fun l => String.ofList (List.replicate indent ' ') ++ String.intercalate " " l

/-- Texts that are not empty, with spaces between them. -/
def joinWords (ws : List String) : String := String.intercalate " " (ws.filter (· ≠ ""))

/-- The usage after its mark. -/
def Parser.usageBody (p : Parser σ) : String :=
  let line := joinWords [p.program, String.intercalate " " (p.optionParts ++ p.operandParts)]
  let mark := usageMark.length
  if mark + line.length ≤ helpWidth then line
  else if 4 * (mark + p.program.length) ≤ 3 * helpWidth then
    let indent := mark + p.program.length + 1
    let options := usageLines indent (mark - 1) [] (p.program :: p.optionParts)
    let operands := usageLines indent (indent - 1) [] p.operandParts
    match options with
    | [] => p.program
    | first :: more =>
      String.intercalate "\n"
        (String.intercalate " " first :: indentParts indent more ++ indentParts indent operands)
  else
    let all := usageLines mark (mark - 1) [] (p.optionParts ++ p.operandParts)
    let lines :=
      if all.length > 1 then
        usageLines mark (mark - 1) [] p.optionParts ++ usageLines mark (mark - 1) [] p.operandParts
      else all
    String.intercalate "\n" (p.program :: indentParts mark lines)

/-! ### Texts -/

/-- Runs of three line feeds or more become two. -/
def collapse : List Char → List Char
  | '\n' :: '\n' :: '\n' :: r => collapse ('\n' :: '\n' :: r)
  | c :: r => c :: collapse r
  | [] => []
  termination_by s => s.length

/-- A text with its runs of line feeds collapsed, none at its ends but the last. -/
def tidy (s : String) : String :=
  String.ofList (stripBy (· = '\n') (collapse s.toList) ++ ['\n'])

/-- The usage line. -/
def Parser.usage (p : Parser σ) : String := tidy (usageMark ++ p.usageBody)

/-! ### Help -/

/-- A text at the left of a width. -/
def padRight (width : Nat) (s : String) : String :=
  s ++ String.ofList (List.replicate (width - s.length) ' ')

/-- The names of an option as the help shows them. -/
def Switch.invocation (s : Switch σ) : String :=
  String.intercalate ", " (s.names.map (· ++ s.placeholder))

/-- The lines about an option or operand: its names, and its summary from `column` on. -/
def summaryLines (column : Nat) (names summary : String) : List String :=
  if summary = "" then ["  " ++ names]
  else
    let ls := (fillLines (max (helpWidth - column) 11) summary.toList).map String.ofList
    let pad := String.ofList (List.replicate column ' ')
    if names.length + 4 ≤ column then
      match ls with
      | [] => []
      | l :: r => ("  " ++ padRight (column - 4) names ++ "  " ++ l) :: r.map (pad ++ ·)
    else ("  " ++ names) :: ls.map (pad ++ ·)

/-- The operands with their summaries. -/
def Parser.operandRows (p : Parser σ) : List (String × String) :=
  match p.operands with
  | some o => [(o.word, o.wordSummary), (o.rest, o.restSummary)]
  | none => []

/-- The options with their summaries. -/
def Parser.optionRows (p : Parser σ) : List (String × String) :=
  p.switches.map fun s => (s.invocation, s.summary)

/-- A section with a heading, unless it is empty. -/
def sectionText (heading : String) (column : Nat) (rows : List (String × String)) : String :=
  if rows.isEmpty then ""
  else
    "\n" ++ heading ++ ":\n" ++
      String.join ((rows.flatMap fun e => summaryLines column e.1 e.2).map (· ++ "\n")) ++ "\n"

/-- Whether a text stands somewhere in another. -/
def isInside (part : List Char) : List Char → Bool
  | [] => part.isEmpty
  | c :: r => part.isPrefixOf (c :: r) || isInside part r

/-- The description with the name of the program filled in. -/
def Parser.descriptionText (p : Parser σ) : Except Template.Fault (List Char) :=
  let s := p.description.toList
  if isInside "%(prog)".toList s then Template.fill "prog".toList p.program.toList s else .ok s

/-- The help text. -/
def Parser.help (p : Parser σ) : Except Template.Fault String := do
  let description ← p.descriptionText
  let rows := p.operandRows ++ p.optionRows
  let widest := (rows.map fun e => e.1.length + 2).foldl max 0
  let column := min (widest + 2) summaryColumn
  let paragraph := String.intercalate "\n" ((fillLines helpWidth description).map String.ofList)
  .ok (tidy (usageMark ++ p.usageBody ++ "\n\n" ++ paragraph ++ "\n\n" ++
    sectionText "positional arguments" column p.operandRows ++
    sectionText "options" column p.optionRows))

/-- There is a help text if the description can be filled in. -/
theorem exists_help_of_description {p : Parser σ} {text : List Char}
    (h : p.descriptionText = .ok text) : ∃ help, p.help = .ok help := by
  rw [Parser.help, h]
  exact ⟨_, rfl⟩

/-- The usage line and an error. -/
def Parser.complaint (p : Parser σ) (message : String) : String :=
  p.usage ++ p.program ++ ": error: " ++ message ++ "\n"

end StorageKey.Usage
