import StorageKey.Data.Literal
import StorageKey.Text.Lines
import StorageKey.Text.Start
import StorageKey.Yaml.Writer

/-!
# The details of a log entry

A log entry carries named data. Names with one of three prefixes are for verbose output: they are
dropped from quiet output and lose the prefix in verbose output, where a later entry of the same
name takes the place of an earlier one.

* `Context.quiet`, `Context.verbose`: what each kind of output shows;
* `Context.indentedWithin`, `Context.indented`: the data as a document, each line indented.
-/

namespace StorageKey

open Text Yaml

/-- The prefixes of names that are for verbose output. -/
def verbosePrefixes : List String := ["_verbose_", "_debug_", "_perf_"]

/-- Whether a name is for verbose output. -/
def isVerboseName (name : String) : Bool :=
  verbosePrefixes.any fun x => isStart x name

/-- A name without its prefix for verbose output. -/
def bareName (name : String) : String :=
  match verbosePrefixes.findSome? fun x => after? x name.toList with
  | some rest => String.ofList rest
  | none => name

/-- A name that is not for verbose output stays as it is. -/
theorem bareName_of_not_isVerboseName {name : String} (h : isVerboseName name = false) :
    bareName name = name := by
  have hn : verbosePrefixes.findSome? (fun x => after? x name.toList) = none := by
    simp only [isVerboseName, List.any_eq_false, isStart, List.isPrefixOf_iff_prefix] at h
    exact List.findSome?_eq_none_iff.2 fun x hx => after?_eq_none_iff.2 (h x hx)
  simp [bareName, hn]

namespace Context

/-- What quiet output shows: the entries without a prefix. -/
def quiet (c : Context) : Context := c.filter fun e => !isVerboseName e.1

/-- What verbose output shows: all entries, without their prefixes. -/
def verbose (c : Context) : Context := c.foldl (fun c e => c.put (bareName e.1) e.2) []

/-- The lines of the data as a document, each indented; no line if there are no data. In the document
`room` data may stand within one another. -/
def indentedLinesWithin (room : Nat) (c : Context) (indent : Int) :
    Except Decimal.WriteFault (List (List Char)) :=
  if c.isEmpty then .ok []
  else (writeDocument room c).map fun text =>
    (splitLines text).map (List.replicate indent.toNat ' ' ++ ·)

/-- The data as a document whose lines are indented. -/
def indentedWithin (room : Nat) (c : Context) (indent : Int) :
    Except Decimal.WriteFault (List Char) :=
  (c.indentedLinesWithin room indent).map (joinWith ['\n'])

/-- The indented lines of the data, where little stands on the stack before. -/
def indentedLines (c : Context) (indent : Int) : Except Decimal.WriteFault (List (List Char)) :=
  c.indentedLinesWithin usualDepth indent

/-- The data as a document with indented lines, where little stands on the stack before. -/
def indented (c : Context) (indent : Int) : Except Decimal.WriteFault (List Char) :=
  c.indentedWithin usualDepth indent

end Context

end StorageKey
