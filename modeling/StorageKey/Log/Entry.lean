import StorageKey.Log.Detail
import StorageKey.Markup.Terminal

/-!
# Log entries

An entry is shown as its level in brackets and its event, which may carry style tags, and below
them its data as an indented document. What is logged at all depends on a threshold; what is shown
of the data depends on whether output is verbose.

* `Level`: the levels of entries and their weights;
* `Logging`: the threshold and the level that decides on verbosity;
* `Entry`: an entry, and `Entry.ofContext`, the entry that named data describe;
* `Entry.plainText`, `Entry.colouredText`: an entry as the terminal gets it;
* `Logging.entryText`: what is printed for an event.
-/

namespace StorageKey

open Decimal Markup Text

/-- The levels of entries. -/
inductive Level
  | debug
  | info
  | warning
  | error
  | critical
  deriving DecidableEq, Repr

namespace Level

/-- The weight of a level. -/
def weight : Level → Nat
  | debug => 10
  | info => 20
  | warning => 30
  | error => 40
  | critical => 50

/-- The name of a level. -/
def name : Level → String
  | debug => "debug"
  | info => "info"
  | warning => "warning"
  | error => "error"
  | critical => "critical"

/-- The level of a name; some levels have several names. -/
def ofString? (s : String) : Option Level :=
  [("debug", debug), ("info", info), ("msg", info), ("warning", warning), ("warn", warning),
    ("error", error), ("exception", error), ("critical", critical), ("fatal", critical)].lookup s

end Level

/-- The state of logging: entries below the threshold are dropped, and a base level of at most the
weight of `debug` makes output verbose. -/
structure Logging where
  threshold : Nat
  base : Int
  deriving DecidableEq, Repr

namespace Logging

/-- Quiet logging shows warnings and errors, verbose logging shows all. -/
def ofVerbose (verbose : Bool) : Logging :=
  let l := if verbose then Level.debug else Level.warning
  ⟨l.weight, l.weight⟩

/-- Whether output is verbose. -/
def isVerbose (l : Logging) : Bool := l.base ≤ Level.debug.weight

/-- Whether entries of a level are shown. -/
def shows (l : Logging) (level : Level) : Bool := l.threshold ≤ level.weight

@[simp] theorem isVerbose_ofVerbose (verbose : Bool) : (ofVerbose verbose).isVerbose = verbose := by
  cases verbose <;> decide

theorem shows_ofVerbose_true (level : Level) : (ofVerbose true).shows level = true := by
  cases level <;> decide

end Logging

/-- Why an entry cannot be shown. -/
inductive LogFault
  | integer (fault : WriteFault)
  | marks (fault : MarkFault)
  deriving DecidableEq, Repr

/-- A log entry: the word for its level, its event and its data. -/
structure Entry where
  label : String
  event : Datum
  details : Context

namespace Entry

/-- The names that are never shown. -/
def hiddenNames : List String := ["timestamp", "level", "log_level", "exc_info"]

/-- The entry that named data describe. -/
def ofContext (label : String) (c : Context) : Entry where
  label := label
  event := (c.get? "event").getD (.text "")
  details := hiddenNames.foldl Context.erase (c.erase "event")

/-- The styles of the levels, and of any other word. -/
def levelStyle (label : List Char) : String :=
  ([("INFO", "blue"), ("WARNING", "yellow"), ("ERROR", "red"), ("DEBUG", "magenta"),
    ("CRITICAL", "white on red")].lookup (String.ofList label)).getD "bold cyan"

/-- The first line of an entry with its style tags. -/
def headline (e : Entry) : Except WriteFault (List Char) :=
  let label := upper e.label.toList
  let style := (levelStyle label).toList
  let bold := "bold ".toList ++ style
  match e.event.shown? with
  | none => .error .tooLarge
  | some event =>
    .ok ('[' :: bold ++ "][".toList ++ label ++ "][/".toList ++ bold ++ "] [".toList ++ style ++
      ']' :: event ++ "[/".toList ++ style ++ [']'])

/-- The columns by which the data are indented. -/
def detailIndent : Nat := 2

/-- The lines of an entry's data, cut at the edge of the terminal. -/
def detailLines (verbose : Bool) (e : Entry) : Except WriteFault (List Char) :=
  let c := if verbose then e.details.verbose else e.details.quiet
  (c.indentedLines detailIndent).map fun ls =>
    ls.flatMap fun l => l.take terminalWidth ++ ['\n']

/-- An entry as a terminal gets it, with the given way to show marked text. -/
def textWith (lines : Marked → List Char) (verbose : Bool) (e : Entry) :
    Except LogFault (List Char) := do
  let details ← (e.detailLines verbose).mapError .integer
  let headline ← e.headline.mapError .integer
  let marked ← (Marked.ofText headline).mapError .marks
  .ok (lines marked ++ details)

/-- An entry on a plain terminal. -/
def plainText (verbose : Bool) (e : Entry) : Except LogFault (List Char) :=
  e.textWith plainLines verbose

/-- An entry on a terminal with 16 colours. -/
def colouredText (verbose : Bool) (e : Entry) : Except LogFault (List Char) :=
  e.textWith colouredLines verbose

end Entry

/-- The entry of a level with an event and data; without an event, the data may name one. -/
def Entry.ofEvent (level : Level) (event : Datum) (c : Context) : Entry :=
  Entry.ofContext level.name (match event with
    | .null => c
    | e => c.put "event" e)

/-- What is printed for an event with data: nothing if its level is below the threshold. -/
def Logging.entryText (l : Logging) (level : Level) (event : Datum) (c : Context) :
    Except LogFault (List Char) :=
  if l.shows level then (Entry.ofEvent level event c).plainText l.isVerbose else .ok []

end StorageKey
