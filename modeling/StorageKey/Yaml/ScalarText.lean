import StorageKey.Yaml.Cursor
import StorageKey.Yaml.Fault

/-!
# Scalars in a document's text

The three ways to write a scalar, each read from the place where it starts.

* `plainScalar`: without marks around it, up to an indicator, over indented lines;
* `quotedScalar`: in single or double quotes, the latter with escapes;
* `blockScalar`: indented lines below a header, kept or folded.

The text of a scalar is a list of code points, since an escape can name a lone surrogate.
-/

namespace StorageKey.Yaml

/-! ### Plain scalars -/

/-- How far a plain scalar goes on a line: up to a blank, to a colon before a blank, and in a flow
collection to an indicator of such collections. -/
def plainLength (flow : Bool) : List Char → Nat
  | [] => 0
  | x :: r =>
    let following := r.headD '\x00'
    let colonEnds := isBlankOrEnd following || (flow && ",[]\x7b\x7d".toList.contains following)
    if isBlankOrEnd x || (x = ':' && colonEnds) || (flow && ",?[]\x7b\x7d".toList.contains x) then 0
    else plainLength flow r + 1

/-- The line breaks and spaces from a cursor on, up to a marker of documents: the breaks, the place
after them, and whether a marker was met. -/
def plainBreaks (fuel : Nat) (c : Cursor) : List Char × Cursor × Bool :=
  match fuel with
  | 0 => ([], c, false)
  | fuel + 1 =>
    if c.peek = ' ' then plainBreaks fuel c.next
    else match c.lineBreak? with
      | none => ([], c, false)
      | some (b, c') =>
        if c'.atMarker then ([b], c', true)
        else
          let (bs, c'', marker) := plainBreaks fuel c'
          (b :: bs, c'', marker)

/-- A line break and those after it, folded: a lone line feed is a space. -/
def foldBreaks (first : Char) (more : List Char) : List Char :=
  if first ≠ '\n' then first :: more
  else if more.isEmpty then [' ']
  else more

/-- The spaces after a run of a plain scalar: their text, the place after them, and whether a line
was left. The text is empty if the scalar ends there. -/
def plainSpaces (c : Cursor) : List Char × Cursor × Bool :=
  let (spaces, c) := c.take (· = ' ')
  match c.lineBreak? with
  | some (b, c) =>
    if c.atMarker then ([], c, true)
    else
      let (more, c, marker) := plainBreaks (c.rest.length + 1) c
      if marker then ([], c, true) else (foldBreaks b more, c, true)
  | none => (spaces, c, false)

/-- A plain scalar after the spaces before its next run: its text, the place after it, and whether
a simple key may follow. -/
def plainRuns (fuel : Nat) (flow : Bool) (indent : Int) (spaces : List Char) (allowed : Bool)
    (c : Cursor) : List Char × Cursor × Bool :=
  match fuel with
  | 0 => ([], c, allowed)
  | fuel + 1 =>
    if c.peek = '#' then ([], c, allowed)
    else
      let n := plainLength flow c.rest
      if n = 0 then ([], c, allowed)
      else
        let run := c.rest.take n
        let (more, c, left) := plainSpaces (c.advance n)
        if more.isEmpty || c.peek = '#' || (!flow && (c.column : Int) < indent) then
          (spaces ++ run, c, left)
        else
          let (text, c, allowed) := plainRuns fuel flow indent more left c
          (spaces ++ run ++ text, c, allowed)

/-- A plain scalar below the given indentation. -/
def plainScalar (flow : Bool) (indent : Int) (c : Cursor) : List Char × Cursor × Bool :=
  plainRuns (c.rest.length + 1) flow (indent + 1) [] false c

/-! ### Quoted scalars -/

/-- The code point that an escape of one letter names. -/
def escapeLetter? (c : Char) : Option Nat :=
  match c with
  | '0' => some 0
  | 'a' => some 7
  | 'b' => some 8
  | 't' | '\t' => some 9
  | 'n' => some 10
  | 'v' => some 11
  | 'f' => some 12
  | 'r' => some 13
  | 'e' => some 27
  | ' ' => some 32
  | '"' => some 34
  | '\\' => some 92
  | '/' => some 47
  | 'N' => some 0x85
  | '_' => some 0xa0
  | 'L' => some 0x2028
  | 'P' => some 0x2029
  | _ => none

/-- How many hexadecimal digits follow an escape letter. -/
def escapeDigits? (c : Char) : Option Nat :=
  if c = 'x' then some 2 else if c = 'u' then some 4 else if c = 'U' then some 8 else none

/-- Whether the character is a hexadecimal digit. -/
def isHexDigit (c : Char) : Bool :=
  c.isDigit || ('a' ≤ c && c ≤ 'f') || ('A' ≤ c && c ≤ 'F')

/-- The value of hexadecimal digits. -/
def hexValue (ds : List Char) : Nat := Decimal.valueOf 16 ds

/-- The breaks inside a quoted scalar, with the blanks around them dropped. A marker of documents
may not stand there. -/
def quotedBreaks (fuel : Nat) (c : Cursor) : Except Fault (List Char × Cursor) :=
  match fuel with
  | 0 => .ok ([], c)
  | fuel + 1 =>
    if c.atMarker then .error (c.fault 3 .malformed)
    else
      let c := c.skip fun x => x = ' ' || x = '\t'
      match c.lineBreak? with
      | none => .ok ([], c)
      | some (b, c) => do
        let (bs, c) ← quotedBreaks fuel c
        .ok (b :: bs, c)

/-- The blanks at a cursor inside a quoted scalar, as they read: breaks are folded, and blanks
around them are dropped. -/
def quotedSpaces (c : Cursor) : Except Fault (List Char × Cursor) :=
  let (spaces, c) := c.take fun x => x = ' ' || x = '\t'
  match c.lineBreak? with
  | some (b, c) => do
    let (more, c) ← quotedBreaks (c.rest.length + 1) c
    .ok (foldBreaks b more, c)
  | none => if c.rest.isEmpty then c.reject else .ok (spaces, c)

/-- The escape after a backslash: its code points and the place after it. -/
def escape (c : Cursor) : Except Fault (List Nat × Cursor) :=
  match escapeLetter? c.peek, escapeDigits? c.peek with
  | some n, _ => .ok ([n], c.next)
  | none, some n =>
    let ds := (c.rest.drop 1).take n
    if !ds.all isHexDigit then c.next.reject
    else if ds.length < n then .error (c.next.fault n .malformed)
    else
      let v := hexValue ds
      if v > 0x7fffffff then .error (c.next.fault n .codePointSize)
      else if v > 0x10ffff then .error (c.next.fault n .codePoint)
      else .ok ([v], c.advance (n + 1))
  | none, none =>
    match c.lineBreak? with
    | some (_, c) => do
      let (bs, c) ← quotedBreaks (c.rest.length + 1) c
      .ok (bs.map Char.toNat, c)
    | none => c.reject

/-- The rest of a quoted scalar, up to and with its closing quote. -/
def quotedRest (fuel : Nat) (double : Bool) (c : Cursor) : Except Fault (List Nat × Cursor) :=
  match fuel with
  | 0 => .error .endless
  | fuel + 1 => do
    let x := c.peek
    let plain (x : Char) : Bool := !("'\"\\".toList.contains x || isBlankOrEnd x)
    if plain x then
      let (s, c) := c.take plain
      let (r, c) ← quotedRest fuel double c
      .ok (s.map Char.toNat ++ r, c)
    else if !double && x = '\'' && c.peekAt 1 = '\'' then
      let (r, c) ← quotedRest fuel double (c.advance 2)
      .ok (39 :: r, c)
    else if (double && x = '\'') || (!double && (x = '"' || x = '\\')) then
      let (r, c) ← quotedRest fuel double c.next
      .ok (x.toNat :: r, c)
    else if double && x = '\\' then
      let (e, c) ← escape c.next
      let (r, c) ← quotedRest fuel double c
      .ok (e ++ r, c)
    else if x = '\'' || x = '"' then .ok ([], c.next)
    else
      let (s, c) ← quotedSpaces c
      let (r, c) ← quotedRest fuel double c
      .ok (s.map Char.toNat ++ r, c)

/-- The quoted scalar whose opening quote is at the cursor. -/
def quotedScalar (double : Bool) (c : Cursor) : Except Fault (List Nat × Cursor) :=
  quotedRest (c.rest.length + 1) double c.next

/-! ### Block scalars -/

/-- What becomes of the line breaks at the end of a block scalar. -/
inductive Chomping
  | strip
  | clip
  | keep
  deriving DecidableEq, Repr

/-- The chomping indicator at a cursor. -/
def chomping? (c : Cursor) : Option Chomping :=
  if c.peek = '+' then some .keep else if c.peek = '-' then some .strip else none

/-- The indentation indicator at a cursor: a digit other than zero. -/
def increment? (c : Cursor) : Except Fault (Option Nat) :=
  if c.peek.isDigit then
    if c.peek = '0' then c.reject else .ok (some (c.peek.toNat - 48))
  else .ok none

/-- The header of a block scalar: its indicators, in either order, and the rest of the line. -/
def blockHeader (c : Cursor) : Except Fault (Chomping × Option Nat × Cursor) := do
  let (chomping, increment, c) ← match chomping? c with
    | some chomping =>
      let c := c.next
      match ← increment? c with
      | some n => pure (chomping, some n, c.next)
      | none => pure (chomping, none, c)
    | none =>
      match ← increment? c with
      | some n =>
        let c := c.next
        match chomping? c with
        | some chomping => pure (chomping, some n, c.next)
        | none => pure (Chomping.clip, some n, c)
      | none => pure (Chomping.clip, none, c)
  if !isSpaceOrEnd c.peek then c.reject
  else
    let c := (c.skip (· = ' ')).skipComment
    if !isBreakOrEnd c.peek then c.reject
    else
      match c.lineBreak? with
      | some (_, c) => .ok (chomping, increment, c)
      | none => .ok (chomping, increment, c)

/-- The empty lines at the start of a block scalar: their breaks, the deepest indentation, and the
place of the first line with text. -/
def blockIndentation (fuel : Nat) (deepest : Nat) (c : Cursor) : List Char × Nat × Cursor :=
  match fuel with
  | 0 => ([], deepest, c)
  | fuel + 1 =>
    if c.peek = ' ' then
      let c := c.next
      blockIndentation fuel (max deepest c.column) c
    else match c.lineBreak? with
      | none => ([], deepest, c)
      | some (b, c) =>
        let (bs, deepest, c) := blockIndentation fuel deepest c
        (b :: bs, deepest, c)

/-- Skip the spaces before the given column. -/
def skipIndent (fuel : Nat) (indent : Nat) (c : Cursor) : Cursor :=
  match fuel with
  | 0 => c
  | fuel + 1 => if c.column < indent ∧ c.peek = ' ' then skipIndent fuel indent c.next else c

/-- The breaks of empty lines in a block scalar. -/
def blockBreaks (fuel : Nat) (indent : Nat) (c : Cursor) : List Char × Cursor :=
  let c := skipIndent c.rest.length indent c
  match fuel with
  | 0 => ([], c)
  | fuel + 1 =>
    match c.lineBreak? with
    | none => ([], c)
    | some (b, c) =>
      let (bs, c) := blockBreaks fuel indent c
      (b :: bs, c)

/-- Whether a line of a block scalar starts with text at its indentation, not with a blank. -/
def startsFlush (c : Cursor) : Bool := !(c.peek = ' ' || c.peek = '\t')

/-- The lines of a block scalar: their text, the last line break, and the breaks after it. -/
def blockLines (fuel : Nat) (folded : Bool) (indent : Nat) (breaks : List Char) (c : Cursor) :
    List Char × List Char × List Char × Cursor :=
  match fuel with
  | 0 => ([], [], breaks, c)
  | fuel + 1 =>
    if c.column = indent ∧ !c.rest.isEmpty then
      let flush := startsFlush c
      let (line, c) := c.take fun x => !isBreakOrEnd x
      let (last, c) := match c.lineBreak? with
        | some (b, c) => ([b], c)
        | none => ([], c)
      let (more, c) := blockBreaks c.rest.length indent c
      if c.column = indent ∧ !c.rest.isEmpty then
        let joint :=
          if folded && last = ['\n'] && flush && startsFlush c then
            (if more.isEmpty then [' '] else [])
          else last
        let (text, last', more', c) := blockLines fuel folded indent more c
        (breaks ++ line ++ joint ++ text, last', more', c)
      else (breaks ++ line, last, more, c)
    else ([], [], breaks, c)

/-- The block scalar whose indicator is at the cursor. -/
def blockScalar (folded : Bool) (indent : Int) (c : Cursor) :
    Except Fault (List Char × Cursor) := do
  let (chomping, increment, c) ← blockHeader c.next
  let least := (max (indent + 1) 1).toNat
  let (column, breaks, c) := match increment with
    | none =>
      let (bs, deepest, c) := blockIndentation (c.rest.length + 1) 0 c
      (max least deepest, bs, c)
    | some n =>
      let column := least + n - 1
      let (bs, c) := blockBreaks (c.rest.length + 1) column c
      (column, bs, c)
  let (text, last, more, c) := blockLines (c.rest.length + 1) folded column breaks c
  .ok (text ++ (if chomping = .strip then [] else last) ++
    (if chomping = .keep then more else []), c)

end StorageKey.Yaml
