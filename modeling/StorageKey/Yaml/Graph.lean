import StorageKey.Yaml.Tag
import StorageKey.Yaml.Token

/-!
# The graph of a document

The nodes of a document: scalars, sequences and mappings with their tags. An alias stands for the
node that its anchor names, so that one node may be met at several places, even inside itself;
nodes are therefore numbered and refer to one another by their numbers.

* `Node`, `Graph`;
* `Read.many`: a step repeated;
* `readNode`: the node that starts at the next token, with room for nodes of some depth below it;
* `Graph.ofTokens`: the graph of the one document in a list of tokens.
-/

namespace StorageKey.Yaml

/-- A node, whose parts are given by their numbers. -/
inductive Node
  | scalar (tag : Tag) (points : List Nat)
  | sequence (tag : Tag) (items : List Nat)
  | mapping (tag : Tag) (entries : List (Nat × Nat))
  deriving DecidableEq, Repr

/-- The nodes by their numbers. -/
abbrev Graph := Array Node

/-- The tag of a node. -/
def Node.tag : Node → Tag
  | .scalar t _ | .sequence t _ | .mapping t _ => t

/-- A document that is being read: the tokens that are left, the nodes so far, the names that anchors
and tag handles have given, and whether a version was named. -/
structure Reading where
  tokens : List Token
  graph : Graph
  anchors : List (String × Nat)
  handles : List (String × String)
  versioned : Bool

/-- A step of reading. -/
abbrev Read := StateT Reading (Except Fault)

namespace Read

variable {α : Type}

/-- Give up: the text is no document. -/
def malformed : Read α := fun _ => .error .malformed

/-- Give up: the nodes lead too deep. -/
def tooDeep : Read α := fun _ => .error .tooDeep

/-- The next token; meeting the fault that ended the scan fails. -/
def peek : Read Token := fun r =>
  match r.tokens with
  | [] => .ok (.finish, r)
  | .fault f :: _ => .error f
  | t :: _ => .ok (t, r)

/-- Go past the next token. -/
def skip : Read Unit := fun r => .ok ((), { r with tokens := r.tokens.drop 1 })

/-- Repeat a step until it gives nothing, less than a number of times. -/
def repeatFor (step : Read (Option α)) : Nat → Read (List α)
  | 0 => fun _ => .error .endless
  | n + 1 => do
    match ← step with
    | none => pure []
    | some a => do
      let more ← repeatFor step n
      pure (a :: more)

/-- Repeat a step until it gives nothing. Each time it takes a token, so that it is repeated no
more often than there are tokens. -/
def many (step : Read (Option α)) : Read (List α) := fun r =>
  repeatFor step (r.tokens.length + 1) r

/-- Add a node. -/
def add (n : Node) : Read Nat := fun r => .ok (r.graph.size, { r with graph := r.graph.push n })

/-- Fill in a node that was added before its parts. -/
def fill (id : Nat) (n : Node) : Read Unit := fun r =>
  .ok ((), { r with graph := r.graph.setIfInBounds id n })

/-- Name a node. -/
def nameNode (anchor : Option String) (id : Nat) : Read Unit := fun r =>
  match anchor with
  | none => .ok ((), r)
  | some a => .ok ((), { r with anchors := (a, id) :: r.anchors })

/-- An anchor may be given once. -/
def checkAnchor (anchor : Option String) : Read Unit := fun r =>
  match anchor with
  | none => .ok ((), r)
  | some a => if r.anchors.any (·.1 = a) then .error .malformed else .ok ((), r)

/-- The node that an alias stands for. -/
def named (name : String) : Read Nat := fun r =>
  match r.anchors.lookup name with
  | some id => .ok (id, r)
  | none => .error .malformed

/-- The whole tag that a written tag is short for. -/
def expand (t : TagText) : Read String := fun r =>
  match t.handle with
  | none => .ok (t.suffix, r)
  | some h =>
    match r.handles.lookup h with
    | some e => .ok (e ++ t.suffix, r)
    | none => .error .malformed

/-- A scalar that is left out. -/
def absent : Read Nat := add (.scalar .null [])

end Read

open Read

/-- The tag of a node: the one that is written, unless it is a bare exclamation mark. -/
def writtenTag (tag : Option String) (otherwise : Tag) : Tag :=
  match tag with
  | none => otherwise
  | some t => if t = "!" then otherwise else Tag.ofString t

/-- The tag of a scalar. The text decides if the scalar is plain or its tag is a bare exclamation
mark. -/
def scalarTag (tag : Option String) (plain : Bool) (points : List Nat) : Tag :=
  writtenTag tag <|
    if tag.isSome || plain then
      (if points.any fun n => 0xd800 ≤ n && n ≤ 0xdfff then .str
        else Tag.suggested (points.map Char.ofNat))
    else .str

/-- The anchor and the tag in front of a node, in either order. -/
def properties : Read (Option String × Option String) := do
  match ← peek with
  | .anchor a => do
    skip
    match ← peek with
    | .tag t => do
      skip
      let tag ← expand t
      pure (some a, some tag)
    | _ => pure (some a, none)
  | .tag t => do
    skip
    match ← peek with
    | .anchor a => do
      skip
      let tag ← expand t
      pure (some a, some tag)
    | _ => do
      let tag ← expand t
      pure (none, some tag)
  | _ => pure (none, none)

/-- The empty scalar behind an anchor or a tag. -/
def readAbsent (anchor tag : Option String) : Read Nat :=
  if anchor.isSome || tag.isSome then do
    checkAnchor anchor
    let id ← add (.scalar (writtenTag tag .null) [])
    nameNode anchor id
    pure id
  else malformed

/-- A sequence whose items are read by the given reader. -/
def readSequence (anchor tag : Option String) (items : Read (List Nat)) : Read Nat := do
  checkAnchor anchor
  let tag := writtenTag tag .seq
  let id ← add (.sequence tag [])
  nameNode anchor id
  let items ← items
  fill id (.sequence tag items)
  pure id

/-- A mapping whose entries are read by the given reader. -/
def readMapping (anchor tag : Option String) (entries : Read (List (Nat × Nat))) :
    Read Nat := do
  checkAnchor anchor
  let tag := writtenTag tag .map
  let id ← add (.mapping tag [])
  nameNode anchor id
  let entries ← entries
  fill id (.mapping tag entries)
  pure id

/-! ### Collections

Each reader of a collection is given the reader of its parts. -/

/-- A reader of nodes. In block context there may be block collections, and where a sequence may be
`indentless` it need not be indented. -/
abbrev NodeReader := (block indentless : Bool) → Read Nat

/-- A node, or the empty scalar if one of the given tokens follows. -/
def readOrAbsent (node : Read Nat) (stops : List Token) : Read Nat := do
  let t ← peek
  if stops.contains t then absent else node

section

variable (node : NodeReader)

/-- An item of a block sequence, or its end. -/
def blockItem : Read (Option Nat) := do
  match ← peek with
  | .blockEntry => do
    skip
    some <$> readOrAbsent (node true false) [.blockEntry, .blockEnd]
  | .blockEnd => do
    skip
    pure none
  | _ => malformed

/-- An item of a sequence that is not indented below its key, if one follows. -/
def indentlessItem : Read (Option Nat) := do
  match ← peek with
  | .blockEntry => do
    skip
    some <$> readOrAbsent (node true false) [.blockEntry, .key, .value, .blockEnd]
  | _ => pure none

/-- The value of an entry of a block mapping. -/
def blockValue : Read Nat := do
  match ← peek with
  | .value => do
    skip
    readOrAbsent (node true true) [.key, .value, .blockEnd]
  | _ => absent

/-- An entry of a block mapping, or its end. -/
def blockEntry : Read (Option (Nat × Nat)) := do
  match ← peek with
  | .key => do
    skip
    let k ← readOrAbsent (node true true) [.key, .value, .blockEnd]
    let v ← blockValue node
    pure (some (k, v))
  | .blockEnd => do
    skip
    pure none
  | _ => malformed

/-- The value of an entry in a flow collection. -/
def flowValue (closing : Token) : Read Nat := do
  match ← peek with
  | .value => do
    skip
    readOrAbsent (node false false) [.flowEntry, closing]
  | _ => absent

/-- The key, if it is not left out, and the value of an entry in a flow collection. -/
def flowPair (closing : Token) : Read (Nat × Nat) := do
  skip
  let k ← readOrAbsent (node false false) [.value, .flowEntry, closing]
  let v ← flowValue node closing
  pure (k, v)

/-- An item of a flow sequence, or its end. A single entry of a mapping may be an item. -/
def flowItem : Read (Option Nat) := do
  match ← peek with
  | .key => do
    let id ← add (.mapping .map [])
    let e ← flowPair node .flowSequenceEnd
    fill id (.mapping .map [e])
    pure (some id)
  | .flowSequenceEnd => do
    skip
    pure none
  | _ => some <$> node false false

/-- An entry of a flow mapping, or its end. -/
def flowEntry : Read (Option (Nat × Nat)) := do
  match ← peek with
  | .key => some <$> flowPair node .flowMappingEnd
  | .flowMappingEnd => do
    skip
    pure none
  | _ => do
    let k ← node false false
    let v ← absent
    pure (some (k, v))

end

/-- A part of a flow collection behind a comma, or the end of the collection. -/
def afterComma {α : Type} (closing : Token) (part : Read (Option α)) : Read (Option α) := do
  let t ← peek
  if t = closing then do
    skip
    pure none
  else if t = .flowEntry then do
    skip
    part
  else malformed

/-- The parts of a flow collection with commas between them. -/
def flowParts {α : Type} (closing : Token) (part : Read (Option α)) : Read (List α) := do
  match ← part with
  | none => pure []
  | some a => do
    let more ← many (afterComma closing part)
    pure (a :: more)

/-- The node that starts at the next token, whose parts are read by the given reader. -/
def nodeWith (inner : NodeReader) (block indentless : Bool) : Read Nat := do
  match ← peek with
  | .alias name => do
    skip
    named name
  | _ => do
    let (anchor, tag) ← properties
    let t ← peek
    if indentless && t = .blockEntry then
      readSequence anchor tag (many (indentlessItem inner))
    else
      match t with
      | .scalar points plain => do
        skip
        checkAnchor anchor
        let id ← add (.scalar (scalarTag tag plain points) points)
        nameNode anchor id
        pure id
      | .flowSequenceStart => do
        skip
        readSequence anchor tag (flowParts .flowSequenceEnd (flowItem inner))
      | .flowMappingStart => do
        skip
        readMapping anchor tag (flowParts .flowMappingEnd (flowEntry inner))
      | .blockSequenceStart =>
        if block then do
          skip
          readSequence anchor tag (many (blockItem inner))
        else readAbsent anchor tag
      | .blockMappingStart =>
        if block then do
          skip
          readMapping anchor tag (many (blockEntry inner))
        else readAbsent anchor tag
      | _ => readAbsent anchor tag

/-- The node that starts at the next token. With the nodes below it, it may be `room` nodes deep. -/
def readNode : (room : Nat) → NodeReader
  | 0 => fun _ _ => tooDeep
  | room + 1 => nodeWith (readNode room)

/-! ### Documents -/

/-- The tag handles that need no directive. -/
def defaultHandles : List (String × String) := [("!", "!"), ("!!", Tag.base)]

/-- Forget the directives of an earlier document. -/
def clearDirectives : Read Unit := fun r => .ok ((), { r with handles := [], versioned := false })

/-- Take a directive into account. -/
def declare (d : Directive) : Read Unit := fun r =>
  match d with
  | .version major =>
    if r.versioned || major ≠ 1 then .error .malformed else .ok ((), { r with versioned := true })
  | .tagHandle h e =>
    if r.handles.any (·.1 = h) then .error .malformed
    else .ok ((), { r with handles := r.handles ++ [(h, e)] })
  | .other => .ok ((), r)

/-- A directive, if one follows. -/
def directive : Read (Option Unit) := do
  match ← peek with
  | .directive d => do
    skip
    some <$> declare d
  | _ => pure none

/-- Let the usual tag handles stand behind those of directives. -/
def useDefaultHandles : Read Unit := fun r =>
  .ok ((), { r with handles := r.handles ++ defaultHandles })

/-- The directives before a document. -/
def directives : Read Unit := do
  clearDirectives
  let _ ← many directive
  useDefaultHandles

/-- A marker of the end of a document, if one follows. -/
def documentEnd : Read (Option Unit) := do
  match ← peek with
  | .documentEnd => do
    skip
    pure (some ())
  | _ => pure none

/-- A document with directives or a marker at its start: none if the text ends first. -/
def explicitDocument (room : Nat) : Read (Option Nat) := do
  let _ ← many documentEnd
  match ← peek with
  | .finish => pure none
  | _ => do
    directives
    match ← peek with
    | .documentStart => do
      skip
      match ← peek with
      | .directive _ | .documentStart | .documentEnd | .finish => some <$> absent
      | _ => some <$> readNode room true false
    | _ => malformed

/-- A document that starts with its root. -/
def bareDocument (room : Nat) : Read (Option Nat) := do
  useDefaultHandles
  some <$> readNode room true false

/-- The only document of a text: none if the text has no document. -/
def singleDocument (room : Nat) : Read (Option Nat) := do
  let root ← match ← peek with
    | .directive _ | .documentStart | .finish => explicitDocument room
    | _ => bareDocument room
  match root with
  | none => pure none
  | some id => do
    let _ ← many documentEnd
    match ← peek with
    | .finish => pure (some id)
    | _ => do
      directives
      malformed

/-- The root and the nodes of the only document in a list of tokens, if it is at most `room` nodes
deep. -/
def Graph.ofTokens (room : Nat) (ts : List Token) : Except Fault (Option Nat × Graph) :=
  match singleDocument room ⟨ts, #[], [], [], false⟩ with
  | .ok (root, r) => .ok (root, r.graph)
  | .error f => .error f

end StorageKey.Yaml
