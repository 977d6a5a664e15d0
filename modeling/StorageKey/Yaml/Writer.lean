import StorageKey.Data.Datum
import StorageKey.Decimal.Integer
import StorageKey.Decimal.Shortest
import StorageKey.Yaml.Page
import StorageKey.Yaml.Style

/-!
# Writing documents

Plain data as a document in block style: an entry or an item on each line, keys in order, long
texts folded after 80 columns, and all but printable ASCII escaped.

* `writeText`: a text in its style;
* `writeDatum`, `writeEntries`: collections;
* `writeFault?`: why data cannot be written;
* `writeDocument`: the document of a mapping.
-/

namespace StorageKey.Yaml

open Decimal

/-- The column after which long texts are folded. -/
def pageWidth : Nat := 80

/-! ### Texts -/

/-- The classes of characters whose runs are written together: words, spaces and line feeds. -/
inductive RunKind
  | word
  | space
  | break
  deriving DecidableEq, Repr

/-- The class of a character. -/
def runKind (c : Char) : RunKind := if c = ' ' then .space else if c = '\n' then .break else .word

/-- Put a character before the first run, or before all runs as one of its own. -/
def consRun (c : Char) : List (List Char) → List (List Char)
  | (d :: w) :: ws => if runKind c = runKind d then (c :: d :: w) :: ws else [c] :: (d :: w) :: ws
  | ws => [c] :: ws

/-- The runs of a text. -/
def runs : List Char → List (List Char)
  | [] => []
  | c :: r => consRun c (runs r)

/-- Write a text plain. A single space beyond the width is a line break instead. -/
def writePlain (split : Bool) (indent : Nat) (s : List Char) (p : Page) : Page :=
  (runs s).foldl
    (fun p run =>
      if split && run = [' '] && p.column > pageWidth then (p.indentTo indent).settled
      else p.put run)
    p.separate.settled

/-- A text with its single quotes doubled. -/
def doubleQuotes (s : List Char) : List Char :=
  s.flatMap fun c => if c = '\'' then ['\'', '\''] else [c]

/-- Write line feeds: one more line break than there are line feeds. -/
def writeBreaks (indent : Nat) (n : Nat) (p : Page) : Page :=
  ((List.range (n + 1)).foldl (fun p _ => p.newLine) p).indentTo indent

/-- Write the runs of a text in single quotes; `first` says that nothing is written of it yet. -/
def writeSingleRuns (split : Bool) (indent : Nat) (first : Bool) : List (List Char) → Page → Page
  | [], p => p
  | run :: rest, p =>
    let p :=
      match run.head?.map runKind with
      | some .space =>
        if split && run = [' '] && p.column > pageWidth && !first && !rest.isEmpty then
          p.indentTo indent
        else p.put run
      | some .break => writeBreaks indent run.length p
      | _ => p.put (doubleQuotes run)
    writeSingleRuns split indent false rest p

/-- Write a text in single quotes. -/
def writeSingle (split : Bool) (indent : Nat) (s : List Char) (p : Page) : Page :=
  (writeSingleRuns split indent true (runs s) (p.mark '\'' true false false)).mark '\''
    false false false

/-- The upper-case hexadecimal digits of `n`, at least `width` of them. -/
def upperHex (width n : Nat) : List Char :=
  let ds := (Nat.toDigits 16 n).map Char.toUpper
  List.replicate (width - ds.length) '0' ++ ds

/-- The letter that stands for a character after a backslash. -/
def escapeLetterOf? (c : Char) : Option Char :=
  let n := c.toNat
  if n = 0 then some '0'
  else if n = 7 then some 'a'
  else if n = 8 then some 'b'
  else if n = 9 then some 't'
  else if n = 10 then some 'n'
  else if n = 11 then some 'v'
  else if n = 12 then some 'f'
  else if n = 13 then some 'r'
  else if n = 27 then some 'e'
  else if n = 34 then some '"'
  else if n = 92 then some '\\'
  else if n = 0x85 then some 'N'
  else if n = 0xa0 then some '_'
  else if n = 0x2028 then some 'L'
  else if n = 0x2029 then some 'P'
  else none

/-- Whether a character is escaped in double quotes. -/
def isEscaped (c : Char) : Bool := c = '"' || c = '\\' || !isPrintableAscii c

/-- The escape of a character. -/
def escapeOf (c : Char) : List Char :=
  match escapeLetterOf? c with
  | some l => ['\\', l]
  | none =>
    let n := c.toNat
    if n ≤ 0xff then '\\' :: 'x' :: upperHex 2 n
    else if n ≤ 0xffff then '\\' :: 'u' :: upperHex 4 n
    else '\\' :: 'U' :: upperHex 8 n

/-- Fold a text in double quotes: a backslash ends the line, and another one goes before a space
that starts the next. -/
def foldDouble (indent : Nat) (spaceNext : Bool) (p : Page) : Page :=
  let p := ((p.put ['\\']).indentTo indent).settled
  if spaceNext then p.put ['\\'] else p

/-- Write the rest of a text in double quotes. `first` says that nothing is written of it yet, and
`afterEscape` that the last character was escaped. A line is folded before a space or next to an
escape, but neither before the first nor before the last character. -/
def writeDoubleRest (split : Bool) (indent : Nat) (first afterEscape : Bool) :
    List Char → Page → Page
  | [], p => p
  | c :: r, p =>
    let inside := split && !first && !r.isEmpty
    if isEscaped c then
      let p := p.put (escapeOf c)
      let p :=
        if inside && p.column - 1 > pageWidth then foldDouble indent (r.head? = some ' ') p else p
      writeDoubleRest split indent false true r p
    else
      let p :=
        if inside && (c = ' ' || afterEscape) && p.column > pageWidth then
          foldDouble indent (c = ' ') p
        else p
      writeDoubleRest split indent false false r (p.put [c])

/-- Write a text in double quotes. -/
def writeDouble (split : Bool) (indent : Nat) (s : List Char) (p : Page) : Page :=
  (writeDoubleRest split indent true true s (p.mark '"' true false false)).mark '"'
    false false false

/-- Whether the look of a text suggests another value than a text. -/
def isSuggestive (s : List Char) : Bool := Tag.suggested s ≠ .str

/-- Write a text in its style; `key` says that it stands before a colon on its line. -/
def writeText (key : Bool) (indent : Nat) (s : List Char) (p : Page) : Page :=
  match styleOf (isSuggestive s) key s with
  | .plain => writePlain (!key) indent s p
  | .single => writeSingle (!key) indent s p
  | .double => writeDouble (!key) indent s p

/-- The notation of numbers in documents: an exponent has digits after a point before it. -/
def documentLayout : Layout := ⟨16, -4, ".0", ".inf", "-.inf", ".nan"⟩

/-- The look of a scalar that is no text. -/
def scalarLook : Datum → List Char
  | .bool b => if b then "true".toList else "false".toList
  | .int i => intText i
  | .real x => (documentLayout.text x).toList
  | _ => "null".toList

/-! ### Collections -/

/-- Put an entry into entries in the order of their keys. -/
def insertEntry (e : String × Datum) : List (String × Datum) → List (String × Datum)
  | [] => [e]
  | f :: r => if e.1 < f.1 then e :: f :: r else f :: insertEntry e r

/-- The entries in the order of their keys. -/
def sortEntries (es : List (String × Datum)) : List (String × Datum) := es.foldr insertEntry []

mutual

/-- The data with the entries of all mappings in the order of their keys. -/
def sorted : Datum → Datum
  | .list ds => .list (sortedList ds)
  | .map es => .map (sortEntries (sortedEntries es))
  | d => d

/-- Sort the mappings in a list. -/
def sortedList : List Datum → List Datum
  | [] => []
  | d :: r => sorted d :: sortedList r

/-- Sort the mappings in entries. -/
def sortedEntries : List (String × Datum) → List (String × Datum)
  | [] => []
  | (k, d) :: r => (k, sorted d) :: sortedEntries r

end

/-- Write the key of an entry with its colon. A key that cannot stand before a colon on one line is
marked, and its value starts a line. -/
def writeKey (indent : Nat) (k : String) (p : Page) : Page :=
  let s := k.toList
  let p := p.indentTo indent
  if fitsOnKeyLine s then (writeText true (indent + 2) s p).mark ':' false false false
  else
    let p := writeText false (indent + 2) s (p.mark '?' true false true)
    (p.indentTo indent).mark ':' true false true

mutual

/-- Write data below the given indentation. `afterKey` says that it is the value of an entry, whose
items need no deeper indentation. -/
def writeDatum (indent : Nat) (afterKey : Bool) : Datum → Page → Page
  | .text s, p => writeText false (indent + 2) s.toList p
  | .list [], p => (p.mark '[' true true false).mark ']' false false false
  | .list (d :: ds), p =>
    let inner := if afterKey && !p.indentation then indent else indent + 2
    writeItems inner (d :: ds) p
  | .map [], p => (p.mark '\x7b' true true false).mark '\x7d' false false false
  | .map (e :: es), p => writeEntries (indent + 2) (e :: es) p
  | d, p => writePlain true (indent + 2) (scalarLook d) p

/-- Write the items of a sequence. -/
def writeItems (indent : Nat) : List Datum → Page → Page
  | [], p => p
  | d :: r, p =>
    writeItems indent r (writeDatum indent false d ((p.indentTo indent).mark '-' true false true))

/-- Write the entries of a mapping. -/
def writeEntries (indent : Nat) : List (String × Datum) → Page → Page
  | [], p => p
  | (k, d) :: r, p => writeEntries indent r (writeDatum indent true d (writeKey indent k p))

end

/-! ### Documents -/

mutual

/-- Why data cannot be written where `room` of them may stand within one another: the first reason that
is met, if there is one. -/
def writeFault? : (room : Nat) → Datum → Option WriteFault
  | 0, _ => some .tooDeep
  | _ + 1, .int i => match writeInt i with
    | .ok _ => none
    | .error f => some f
  | room + 1, .list ds => listFault? room ds
  | room + 1, .map es => entriesFault? room es
  | _ + 1, _ => none

/-- Why a list of data cannot be written. -/
def listFault? (room : Nat) : List Datum → Option WriteFault
  | [] => none
  | d :: r => (writeFault? room d).or (listFault? room r)

/-- Why entries cannot be written. -/
def entriesFault? (room : Nat) : List (String × Datum) → Option WriteFault
  | [] => none
  | (_, d) :: r => (writeFault? room d).or (entriesFault? room r)

end

theorem writeFault?_int (room : Nat) (i : Int) : writeFault? (room + 1) (.int i) =
    match writeInt i with
    | .ok _ => none
    | .error f => some f := rfl

/-- How many data may stand within one another when little stands on the stack before. -/
def usualDepth : Nat := 325

/-- The document of a mapping that is not empty. -/
def documentText (es : List (String × Datum)) : List Char :=
  ((writeEntries 0 (sortEntries (sortedEntries es)) Page.empty).indentTo 0).text

/-- The document of a mapping that is not empty, if it can be written where `room` data may stand
within one another. -/
def writeDocument (room : Nat) (es : List (String × Datum)) : Except WriteFault (List Char) :=
  match writeFault? room (sorted (.map es)) with
  | none => .ok (documentText es)
  | some f => .error f

end StorageKey.Yaml
