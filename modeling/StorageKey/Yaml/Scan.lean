import StorageKey.Yaml.ScalarText
import StorageKey.Yaml.Token
import StorageKey.Text.Utf8

/-!
# From text to tokens

A document's text is read token by token. Block structure is told by indentation: a deeper
column opens a collection, a shallower one closes it. A scalar, an alias, a tag or a flow
collection may turn out to be the key of a mapping only when the colon after it is met; until then
its place is kept among the `pending` keys, one for each depth of flow collections.

* `Scan.step`: the next token, with the tokens that its column closes or opens;
* `tokens`: all tokens of a text. If the scan fails, the tokens from the first pending key on are
  withheld, because whether that key is one is not known.
-/

namespace StorageKey.Yaml

/-- A place that may turn out to be a key. -/
structure PendingKey where
  /-- How many tokens stand before it. -/
  place : Nat
  /-- Whether nothing but a key can stand there. -/
  required : Bool
  index : Nat
  line : Nat
  column : Nat
  deriving DecidableEq, Repr

/-- The state of a scan. -/
structure Scan where
  cursor : Cursor
  /-- How many flow collections are open. -/
  flow : Int
  /-- The column of the innermost block collection. -/
  indent : Int
  /-- The columns of the block collections around it. -/
  outer : List Int
  /-- Whether a key may start here. -/
  keyAllowed : Bool
  /-- The pending keys by depth of flow collections. -/
  pending : List (Int × PendingKey)
  tokens : Array Token
  finished : Bool

namespace Scan

/-- The start of a scan. -/
def start (s : Source) : Scan :=
  ⟨Cursor.start s, 0, -1, [], true, [], #[], false⟩

/-- Whether a flow collection is open. -/
def inFlow (s : Scan) : Bool := s.flow ≠ 0

/-- Add a token. -/
def emit (s : Scan) (t : Token) : Scan := { s with tokens := s.tokens.push t }

/-- Move to a place. -/
def moveTo (s : Scan) (c : Cursor) : Scan := { s with cursor := c }

/-- Allow a key here, or not. -/
def allow (s : Scan) (b : Bool) : Scan := { s with keyAllowed := b }

/-! ### Pending keys -/

/-- Whether a pending key is no longer possible at the cursor: keys are short and on one line. -/
def isStale (s : Scan) (k : PendingKey) : Bool :=
  k.line ≠ s.cursor.line || s.cursor.index - k.index > 1024

/-- Drop the keys that are no longer possible; a required one among them is a fault. -/
def dropStale (s : Scan) : Except Fault Scan :=
  if s.pending.any fun e => s.isStale e.2 && e.2.required then s.cursor.reject
  else .ok { s with pending := s.pending.filter fun e => !s.isStale e.2 }

/-- Drop the pending key of the current depth; a required one is a fault. -/
def dropPending (s : Scan) : Except Fault Scan :=
  match s.pending.lookup s.flow with
  | some k =>
    if k.required then s.cursor.reject
    else .ok { s with pending := s.pending.filter (·.1 ≠ s.flow) }
  | none => .ok s

/-- Note that a key may start at the cursor. -/
def notePending (s : Scan) : Except Fault Scan :=
  if s.keyAllowed then do
    let required := !s.inFlow && s.indent = s.cursor.column
    let s ← s.dropPending
    let c := s.cursor
    let key := ⟨s.tokens.size, required, c.index, c.line, c.column⟩
    .ok { s with pending := (s.flow, key) :: s.pending }
  else .ok s

/-- The first token that is withheld, because it may be a key. -/
def firstPending? (s : Scan) : Option Nat := (s.pending.map (·.2.place)).min?

/-! ### Indentation -/

/-- Close the block collections that are deeper than a column. -/
def closeTo (column : Int) : List Int → Scan → Scan
  | o :: os, s =>
    if s.indent > column then closeTo column os { s.emit .blockEnd with indent := o, outer := os }
    else s
  | [], s => s

/-- Close the block collections that are deeper than a column, unless a flow collection is open. -/
def unwind (s : Scan) (column : Int) : Scan :=
  if s.inFlow then s else closeTo column s.outer s

/-- Open a block collection at a column, if it is deeper than the innermost one. -/
def deepen (s : Scan) (column : Int) : Option Scan :=
  if s.indent < column then some { s with indent := column, outer := s.indent :: s.outer } else none

/-! ### Between tokens -/

/-- Skip spaces, comments and line breaks; a key may start on a new line. -/
def skipBetween (fuel : Nat) (s : Scan) : Scan :=
  match fuel with
  | 0 => s
  | fuel + 1 =>
    let c := (s.cursor.skip (· = ' ')).skipComment
    match c.lineBreak? with
    | some (_, c) =>
      skipBetween fuel { s with cursor := c, keyAllowed := s.keyAllowed || !s.inFlow }
    | none => s.moveTo c

/-- Skip to the next token; a byte order mark at the start of the text is skipped too. -/
def toNext (s : Scan) : Scan :=
  let s := if s.cursor.index = 0 ∧ s.cursor.peek = '\ufeff' then s.moveTo s.cursor.next else s
  skipBetween (s.cursor.rest.length + 1) s

/-! ### Directives -/

/-- The rest of the line of a directive: a comment or nothing. -/
def directiveEnd (c : Cursor) : Except Fault Cursor :=
  let c := (c.skip (· = ' ')).skipComment
  if !isBreakOrEnd c.peek then c.reject
  else match c.lineBreak? with
    | some (_, c) => .ok c
    | none => .ok c

/-- A number of a version. -/
def versionNumber (c : Cursor) : Except Fault (Int × Cursor) :=
  let (ds, c) := c.take Char.isDigit
  if ds.isEmpty then c.reject
  else match Decimal.readInt 10 (ds.map Char.toNat) with
    | .ok n => .ok (n, c)
    | .error f => .error (c.fault 0 (.integer f))

/-- The version that a directive names. -/
def versionValue (c : Cursor) : Except Fault (Directive × Cursor) := do
  let (major, c) ← versionNumber (c.skip (· = ' '))
  if c.peek ≠ '.' then c.reject
  else
    let (_, c) ← versionNumber c.next
    if !isSpaceOrEnd c.peek then c.reject else .ok (.version major, c)

/-! ### Tags -/

/-- A tag handle: an exclamation mark, and a name with another one behind it if any stands there. -/
def tagHandle (c : Cursor) : Except Fault (String × Cursor) :=
  if c.peek ≠ '!' then c.reject
  else if c.peekAt 1 = ' ' then .ok ("!", c.next)
  else
    let name := (c.rest.drop 1).takeWhile isNameChar
    if c.peekAt (name.length + 1) = '!' then
      .ok (String.ofList ('!' :: name ++ ['!']), c.advance (name.length + 2))
    else (c.advance (name.length + 1)).reject

/-- The characters of tags, the percent sign of escapes aside. -/
def isTagChar (c : Char) : Bool :=
  c.isAlphanum || "-;/?:@&=+$,_.!~*'()[]".toList.contains c

/-- The escaped bytes at a cursor. -/
def escapedBytes (fuel : Nat) (c : Cursor) : Except Fault (List UInt8 × Cursor) :=
  match fuel with
  | 0 => .ok ([], c)
  | fuel + 1 =>
    if c.peek ≠ '%' then .ok ([], c)
    else
      let ds := (c.rest.drop 1).take 2
      if ds.length < 2 || !ds.all isHexDigit then c.next.reject
      else do
        let (bs, c) ← escapedBytes fuel (c.advance 3)
        .ok (UInt8.ofNat (hexValue ds) :: bs, c)

/-- The characters of a tag at a cursor, escapes resolved. -/
def tagChars (fuel : Nat) (c : Cursor) : Except Fault (List Char × Cursor) :=
  match fuel with
  | 0 => .ok ([], c)
  | fuel + 1 =>
    if c.peek = '%' then do
      let (bs, c) ← escapedBytes (c.rest.length + 1) c
      match Text.Utf8.decode bs with
      | .error _ => c.reject
      | .ok s =>
        let (r, c) ← tagChars fuel c
        .ok (s ++ r, c)
    else if isTagChar c.peek then do
      let (s, c) := c.take isTagChar
      let (r, c) ← tagChars fuel c
      .ok (s ++ r, c)
    else .ok ([], c)

/-- The text of a tag at a cursor, which is not empty. -/
def tagBody (c : Cursor) : Except Fault (String × Cursor) :=
  if c.peek = '%' || isTagChar c.peek then do
    let (s, c) ← tagChars (c.rest.length + 1) c
    .ok (String.ofList s, c)
  else c.reject

/-- The handle and the expansion that a directive names. -/
def handleValue (c : Cursor) : Except Fault (Directive × Cursor) := do
  let (handle, c) ← tagHandle (c.skip (· = ' '))
  if c.peek ≠ ' ' then c.reject
  else
    let (expansion, c) ← tagBody (c.skip (· = ' '))
    if !isSpaceOrEnd c.peek then c.reject else .ok (.tagHandle handle expansion, c)

/-- Whether the word at a cursor, up to a blank, holds an exclamation mark. -/
def wordHasMark (s : List Char) : Bool := (s.takeWhile fun x => !isSpaceOrEnd x).contains '!'

/-- The tag whose exclamation mark is at the cursor. -/
def tagText (c : Cursor) : Except Fault (TagText × Cursor) := do
  let (t, c) ←
    if c.peekAt 1 = '<' then do
      let (suffix, c) ← tagBody (c.advance 2)
      if c.peek ≠ '>' then c.reject else pure (⟨none, suffix⟩, c.next)
    else if isBlankOrEnd (c.peekAt 1) then pure (⟨none, "!"⟩, c.next)
    else if wordHasMark (c.rest.drop 1) then do
      let (handle, c) ← tagHandle c
      let (suffix, c) ← tagBody c
      pure (⟨some handle, suffix⟩, c)
    else do
      let (suffix, c) ← tagBody c.next
      pure ((⟨some "!", suffix⟩ : TagText), c)
  if !isSpaceOrEnd c.peek then c.reject else .ok (t, c)

/-! ### One token -/

/-- A name after an ampersand or an asterisk. -/
def nameAfter (c : Cursor) : Except Fault (String × Cursor) :=
  let (name, c) := c.next.take isNameChar
  if name.isEmpty then c.reject
  else if isBlankOrEnd c.peek || "?:,]\x7d%@\x60".toList.contains c.peek then
    .ok (String.ofList name, c)
  else c.reject

/-- The end of the text. -/
def finish (s : Scan) : Except Fault Scan := do
  let s ← (s.unwind (-1)).dropPending
  .ok { (s.allow false).emit .finish with pending := [], finished := true }

/-- A directive. -/
def directive (s : Scan) : Except Fault Scan := do
  let s ← (s.unwind (-1)).dropPending
  let (name, c) := s.cursor.next.take isNameChar
  if name.isEmpty || !isSpaceOrEnd c.peek then c.reject
  else
    let (d, c) ← if name = "YAML".toList then versionValue c
      else if name = "TAG".toList then handleValue c
      else .ok (.other, c.skip fun x => !isBreakOrEnd x)
    let c ← directiveEnd c
    .ok (((s.allow false).moveTo c).emit (.directive d))

/-- A marker of documents. -/
def marker (s : Scan) (t : Token) : Except Fault Scan := do
  let s ← (s.unwind (-1)).dropPending
  .ok (((s.allow false).moveTo (s.cursor.advance 3)).emit t)

/-- The start of a flow collection. -/
def openFlow (s : Scan) (t : Token) : Except Fault Scan := do
  let s ← s.notePending
  .ok ({ s with flow := s.flow + 1, keyAllowed := true, cursor := s.cursor.next }.emit t)

/-- The end of a flow collection. -/
def closeFlow (s : Scan) (t : Token) : Except Fault Scan := do
  let s ← s.dropPending
  .ok ({ s with flow := s.flow - 1, keyAllowed := false, cursor := s.cursor.next }.emit t)

/-- The comma in a flow collection. -/
def flowEntry (s : Scan) : Except Fault Scan := do
  let s ← (s.allow true).dropPending
  .ok ((s.moveTo s.cursor.next).emit .flowEntry)

/-- The mark of a block collection that may open at the cursor, with the token that opens it. -/
def openBlock (s : Scan) (opening : Token) : Except Fault Scan :=
  if s.inFlow then .ok s
  else if !s.keyAllowed then s.cursor.reject
  else match s.deepen s.cursor.column with
    | some s => .ok (s.emit opening)
    | none => .ok s

/-- The hyphen of a block sequence. -/
def blockEntry (s : Scan) : Except Fault Scan := do
  let s ← s.openBlock .blockSequenceStart
  let s ← (s.allow true).dropPending
  .ok ((s.moveTo s.cursor.next).emit .blockEntry)

/-- The question mark of a key. -/
def keyMark (s : Scan) : Except Fault Scan := do
  let s ← s.openBlock .blockMappingStart
  let s ← (s.allow !s.inFlow).dropPending
  .ok ((s.moveTo s.cursor.next).emit .key)

/-- The colon of a value. The pending key of this depth, if there is one, is a key; in a block it
may be the first of its mapping. -/
def valueMark (s : Scan) : Except Fault Scan := do
  let s ← match s.pending.lookup s.flow with
    | some k =>
      let s := { s with
        pending := s.pending.filter (·.1 ≠ s.flow)
        tokens := s.tokens.insertIdxIfInBounds k.place .key
        keyAllowed := false }
      if s.inFlow then .ok s
      else match s.deepen k.column with
        | some s => .ok { s with tokens := s.tokens.insertIdxIfInBounds k.place .blockMappingStart }
        | none => .ok s
    | none => do
      let s ← s.openBlock .blockMappingStart
      (s.allow !s.inFlow).dropPending
  .ok ((s.moveTo s.cursor.next).emit .value)

/-- An alias or an anchor. -/
def named (s : Scan) (token : String → Token) : Except Fault Scan := do
  let s ← s.notePending
  let (name, c) ← nameAfter s.cursor
  .ok (((s.allow false).moveTo c).emit (token name))

/-- A tag. -/
def tagged (s : Scan) : Except Fault Scan := do
  let s ← s.notePending
  let (t, c) ← tagText s.cursor
  .ok (((s.allow false).moveTo c).emit (.tag t))

/-- A block scalar. -/
def block (s : Scan) (folded : Bool) : Except Fault Scan := do
  let s ← (s.allow true).dropPending
  let (text, c) ← blockScalar folded s.indent s.cursor
  .ok ((s.moveTo c).emit (.scalar (text.map Char.toNat) false))

/-- A quoted scalar. -/
def quoted (s : Scan) (double : Bool) : Except Fault Scan := do
  let s ← s.notePending
  let (points, c) ← quotedScalar double s.cursor
  .ok (((s.allow false).moveTo c).emit (.scalar points false))

/-- A plain scalar. -/
def plain (s : Scan) : Except Fault Scan := do
  let s ← s.notePending
  let (text, c, allowed) := plainScalar s.inFlow s.indent s.cursor
  .ok (((s.allow allowed).moveTo c).emit (.scalar (text.map Char.toNat) true))

/-- Whether a plain scalar starts at the cursor. -/
def startsPlain (s : Scan) : Bool :=
  let x := s.cursor.peek
  !(isBlankOrEnd x || "-?:,[]\x7b\x7d#&*!|>'\"%@\x60".toList.contains x) ||
  (!isBlankOrEnd (s.cursor.peekAt 1) && (x = '-' || (!s.inFlow && (x = '?' || x = ':'))))

/-- The token at the cursor. -/
def dispatch (s : Scan) : Except Fault Scan :=
  let c := s.cursor
  let x := c.peek
  let blankNext := isBlankOrEnd (c.peekAt 1)
  if c.rest.isEmpty then s.finish
  else if x = '%' ∧ c.column = 0 then s.directive
  else if x = '-' ∧ c.column = 0 ∧ c.atMarker then s.marker .documentStart
  else if x = '.' ∧ c.column = 0 ∧ c.atMarker then s.marker .documentEnd
  else if x = '[' then s.openFlow .flowSequenceStart
  else if x = '\x7b' then s.openFlow .flowMappingStart
  else if x = ']' then s.closeFlow .flowSequenceEnd
  else if x = '\x7d' then s.closeFlow .flowMappingEnd
  else if x = ',' then s.flowEntry
  else if x = '-' ∧ blankNext then s.blockEntry
  else if x = '?' ∧ (s.inFlow ∨ blankNext) then s.keyMark
  else if x = ':' ∧ (s.inFlow ∨ blankNext) then s.valueMark
  else if x = '*' then s.named .alias
  else if x = '&' then s.named .anchor
  else if x = '!' then s.tagged
  else if x = '|' ∧ !s.inFlow then s.block false
  else if x = '>' ∧ !s.inFlow then s.block true
  else if x = '\'' then s.quoted false
  else if x = '"' then s.quoted true
  else if s.startsPlain then s.plain
  else c.reject

/-- The next token. To tell where it ends, the character after it is needed. -/
def step (s : Scan) : Except Fault Scan := do
  let s ← s.toNext.dropStale
  let s ← (s.unwind s.cursor.column).dispatch
  match s.cursor.cutWithin? 1 with
  | some f => .error f
  | none => .ok s

/-- The tokens that are settled when the scan fails, and the fault. -/
def failed (s : Scan) (f : Fault) : List Token :=
  let settled := match s.dropStale with
    | .ok s => (s.firstPending?).getD s.tokens.size
    | .error _ => s.tokens.size
  s.tokens.toList.take settled ++ [.fault f]

/-- All tokens from a state of the scan on. Every step moves on or ends the scan. -/
def run (fuel : Nat) (s : Scan) : List Token :=
  match fuel with
  | 0 => s.failed .endless
  | fuel + 1 =>
    if s.finished then s.tokens.toList
    else match s.step with
      | .ok s => run fuel s
      | .error f => s.failed f

theorem run_succ (fuel : Nat) (s : Scan) : s.run (fuel + 1) =
    if s.finished then s.tokens.toList
    else match s.step with
      | .ok s => run fuel s
      | .error f => s.failed f := rfl

end Scan

/-- The tokens of a text. -/
def tokens (s : Source) : List Token := (Scan.start s).run (s.text.length + 2)

end StorageKey.Yaml
