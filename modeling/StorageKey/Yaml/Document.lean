import StorageKey.Yaml.Graph
import StorageKey.Yaml.Scan
import StorageKey.Yaml.ScalarValue

/-!
# Documents

The values of a document. Nodes are built in the order of their distance from the root, each
once: a collection is made empty when it is met and filled when its turn comes, so that it can
contain itself. A mapping takes over the entries of the mappings that it merges.

* `Limits`: how deep a document may lead;
* `flatten`: a mapping with its merge keys resolved;
* `Built`: what is known of a node's value;
* `Document.read`, `load`: the document that a text or a file holds;
* `Document.entries?`: its entries, if it is a mapping or counts as nothing.
-/

namespace StorageKey.Yaml

/-- How deep a document may lead: by nodes within nodes, by mappings that merge others, and by
mappings that are read by their value keys. -/
structure Limits where
  nodes : Nat
  merges : Nat
  valueKeys : Nat
  deriving DecidableEq, Repr

/-- The depths at which the stack is used up when little stands on it before. -/
def Limits.usual : Limits := ⟨480, 980, 980⟩

/-! ### Merged mappings -/

namespace Graph

/-- The entries of a node that is a mapping. -/
def entries? (g : Graph) (id : Nat) : Option (List (Nat × Nat)) :=
  match g[id]? with
  | some (.mapping _ es) => some es
  | _ => none

/-- The entries of a node, none if it is no mapping. -/
def entriesOf (g : Graph) (id : Nat) : List (Nat × Nat) := (g.entries? id).getD []

/-- The tag of a node. -/
def tagOf (g : Graph) (id : Nat) : Tag := (g[id]?.map Node.tag).getD .str

/-- Whether an entry stands for those of other mappings. -/
def isMerge (g : Graph) (e : Nat × Nat) : Bool := g.tagOf e.1 = .merge

/-- How many entries stand for those of other mappings. -/
def mergeCount (g : Graph) : Nat := ((List.range g.size).flatMap g.entriesOf).countP g.isMerge

/-- Replace the entries of a mapping. -/
def setEntries (g : Graph) (id : Nat) (es : List (Nat × Nat)) : Graph :=
  match g[id]? with
  | some (.mapping t _) => g.setIfInBounds id (.mapping t es)
  | _ => g

/-- Take a node for an ordinary text. -/
def asText (g : Graph) (id : Nat) : Graph :=
  match g[id]? with
  | some (.scalar _ ns) => g.setIfInBounds id (.scalar .str ns)
  | some (.sequence _ items) => g.setIfInBounds id (.sequence .str items)
  | some (.mapping _ es) => g.setIfInBounds id (.mapping .str es)
  | none => g

/-- Take the value keys among entries for ordinary texts. -/
def valuesAsText (g : Graph) (es : List (Nat × Nat)) : Graph :=
  es.foldl (fun g e => if g.tagOf e.1 = .value then g.asText e.1 else g) g

end Graph

section

variable (inner : Graph → Nat → Except Fault Graph)

/-- Resolve the merge keys of several mappings, and take over their entries; those of the last one
come first. -/
def takeOverAll (g : Graph) : List Nat → Except Fault (Graph × List (Nat × Nat))
  | [] => .ok (g, [])
  | id :: rest =>
    match g.entries? id with
    | none => .error .malformed
    | some _ => do
      let g ← inner g id
      let own := g.entriesOf id
      let (g, taken) ← takeOverAll g rest
      .ok (g, taken ++ own)

/-- Take over the entries that the value of a merge key says: those of a mapping or of several. -/
def takeOver (g : Graph) (id : Nat) : Except Fault (Graph × List (Nat × Nat)) :=
  match g[id]? with
  | some (.mapping _ _) => do
    let g ← inner g id
    .ok (g, g.entriesOf id)
  | some (.sequence _ items) => takeOverAll inner g items
  | _ => .error .malformed

/-- Resolve the merge keys of a mapping, of which there are less than a number; `merged` holds the
entries that are taken over so far. Each time the first merge key is dropped, and the value keys before
it become ordinary. -/
def flattenFrom (n : Nat) (g : Graph) (id : Nat) (merged : List (Nat × Nat)) :
    Except Fault Graph :=
  match n with
  | 0 => .error .endless
  | n + 1 =>
    let (plain, rest) := (g.entriesOf id).span fun e => !g.isMerge e
    let g := g.valuesAsText plain
    match rest with
    | [] => .ok (if merged.isEmpty then g else g.setEntries id (merged ++ plain))
    | (_, v) :: others => do
      let (g, taken) ← takeOver inner (g.setEntries id (plain ++ others)) v
      flattenFrom n g id (merged ++ taken)

end

/-- Resolve the merge keys of a mapping. The mappings that it merges may lead `room` deep. Each merge
key is resolved once, so that there is an end to them. -/
def flatten : (room : Nat) → Graph → Nat → Except Fault Graph
  | 0 => fun _ _ => .error .tooDeep
  | room + 1 => fun g id => flattenFrom (flatten room) (g.mergeCount + 1) g id []

/-! ### Values -/

/-- What is known of a node's value: a scalar's value, or a collection that is still empty or that
has its parts. -/
inductive Built
  | scalar (v : Value)
  | empty (c : Collection)
  | list (items : List Nat)
  | pairs (items : List (Nat × Nat))
  | set (members : List Nat)
  | map (entries : List (Nat × Nat))

/-- A document that is being built: its nodes, what is known of their values, and the collections
to fill, in order. -/
structure Building where
  graph : Graph
  built : List (Nat × Built)
  queue : List Nat

/-- Note what is known of a node's value. -/
def Building.note (b : Building) (id : Nat) (x : Built) : Building :=
  { b with built := (id, x) :: b.built }

/-- The text of a scalar; a mapping stands for the value of its value key. Value keys may lead
`room` deep. -/
def scalarPoints (room : Nat) (g : Graph) (id : Nat) : Except Fault (List Nat) :=
  match room with
  | 0 => .error .tooDeep
  | room + 1 =>
    match g[id]? with
    | some (.scalar _ ns) => .ok ns
    | some (.mapping _ es) =>
      match es.find? fun e => g.tagOf e.1 = .value with
      | some e => scalarPoints room g e.2
      | none => .error .malformed
    | _ => .error .malformed

section

variable (limits : Limits)

/-- Build a node when it is met: a scalar at once, a collection empty. -/
def meet (b : Building) (id : Nat) : Except Fault Building :=
  if b.built.any (·.1 = id) then .ok b
  else
    let collection (c : Collection) : Except Fault Building :=
      .ok { b.note id (.empty c) with queue := b.queue ++ [id] }
    match b.graph.tagOf id with
    | .seq | .omap | .pairs => collection .list
    | .set => collection .set
    | .map => collection .map
    | .merge | .value | .other _ => .error .malformed
    | tag => do
      let ns ← scalarPoints limits.valueKeys b.graph id
      match tag, b.graph[id]? with
      | .timestamp, some (.mapping _ _) => .error .noTimestampText
      | _, _ => .ok (b.note id (.scalar (← scalarValue tag ns)))

/-- Whether a node that has been met can be a key. -/
def keyable (b : Building) (id : Nat) : Bool :=
  match b.built.lookup id with
  | some (.scalar v) => v.isKey
  | _ => false

/-- Meet the keys and values of a mapping. -/
def meetEntries (b : Building) : List (Nat × Nat) → Except Fault Building
  | [] => .ok b
  | (k, v) :: r => do
    let b ← meet limits b k
    if !keyable b k then .error .malformed
    else
      let b ← meet limits b v
      meetEntries b r

/-- Meet the items of a sequence. -/
def meetAll (b : Building) : List Nat → Except Fault Building
  | [] => .ok b
  | id :: r => do meetAll (← meet limits b id) r

/-- Meet the single entries of the mappings in an ordered mapping. -/
def meetPairs (b : Building) : List Nat → Except Fault (Building × List (Nat × Nat))
  | [] => .ok (b, [])
  | id :: r => do
    match b.graph.entries? id with
    | some [(k, v)] => do
      let b ← meet limits b k
      let b ← meet limits b v
      let (b, ps) ← meetPairs b r
      .ok (b, (k, v) :: ps)
    | _ => .error .malformed

/-- The items of a node that is a sequence. -/
def Graph.items? (g : Graph) (id : Nat) : Option (List Nat) :=
  match g[id]? with
  | some (.sequence _ items) => some items
  | _ => none

/-- The entries of a mapping with its merge keys resolved. -/
def mappingEntries (b : Building) (id : Nat) : Except Fault (Building × List (Nat × Nat)) :=
  match b.graph.entries? id with
  | none => .error .malformed
  | some _ => do
    let g ← flatten limits.merges b.graph id
    let es := g.entriesOf id
    .ok (← meetEntries limits { b with graph := g } es, es)

/-- Fill a collection. -/
def fillNode (b : Building) (id : Nat) : Except Fault Building :=
  match b.graph.tagOf id with
  | .seq =>
    match b.graph.items? id with
    | none => .error .malformed
    | some items => do .ok ((← meetAll limits b items).note id (.list items))
  | .omap | .pairs =>
    match b.graph.items? id with
    | none => .error .malformed
    | some items => do
      let (b, ps) ← meetPairs limits b items
      .ok (b.note id (.pairs ps))
  | .set => do
    let (b, es) ← mappingEntries limits b id
    .ok (b.note id (.set (es.map (·.1))))
  | _ => do
    let (b, es) ← mappingEntries limits b id
    .ok (b.note id (.map es))

/-- Fill the collections in order, of which there are less than a number. -/
def fillAll (n : Nat) (b : Building) : Except Fault Building :=
  match n with
  | 0 => .error .endless
  | n + 1 =>
    match b.queue with
    | [] => .ok b
    | id :: rest => do fillAll n (← fillNode limits { b with queue := rest } id)

end

/-! ### Reading values off -/

/-- Add a member to a set. -/
def addMember (vs : List Value) (v : Value) : List Value :=
  if vs.any (·.sameKey v) then vs else vs ++ [v]

/-- The value of a node; `path` holds the collections around it. Paths have less than `n` nodes. -/
def valueOf (n : Nat) (b : List (Nat × Built)) (path : List Nat) (id : Nat) : Value :=
  match n with
  | 0 => .null
  | n + 1 =>
    let part := valueOf n b (id :: path)
    let inside := path.contains id
    match b.lookup id with
    | none => .null
    | some (.scalar v) => v
    | some (.empty c) => .again c
    | some (.list items) => if inside then .again .list else .list (items.map part)
    | some (.pairs ps) =>
      if inside then .again .list else .list (ps.map fun e => .pair (part e.1) (part e.2))
    | some (.set ms) =>
      if inside then .again .set else .set (ms.foldl (fun vs m => addMember vs (part m)) [])
    | some (.map es) =>
      if inside then .again .map
      else .map (es.foldl (fun vs e => Value.putEntry vs (part e.1) (part e.2)) [])

/-- What a text holds: nothing, a mapping, or another value. -/
inductive Document
  | mapping (entries : List (Value × Value))
  | other (v : Value)

/-- The document of a root. Each entry of a mapping is read off by itself. -/
def documentOf (b : List (Nat × Built)) (root : Nat) : Document :=
  let value := valueOf (b.length + 1) b []
  match b.lookup root with
  | some (.map es) =>
    .mapping (es.foldl (fun vs e => Value.putEntry vs (value e.1) (value e.2)) [])
  | _ => .other (value root)

/-- The document that a text holds. -/
def Document.read (limits : Limits) (s : Source) : Except Fault Document := do
  let (root, g) ← Graph.ofTokens limits.nodes (tokens s)
  match root with
  | none => .ok (.other .null)
  | some root =>
    let b ← meet limits ⟨g, [], []⟩ root
    let b ← fillAll limits (g.size + 1) b
    .ok (documentOf b.built root)

/-- The document that a file holds. -/
def load (limits : Limits) (content : List UInt8) : Except Fault Document :=
  Document.read limits (Source.ofBytes content)

/-- The entries of a document that is a mapping; a document that counts as nothing has none. -/
def Document.entries? : Document → Option (List (Value × Value))
  | .mapping es => some es
  | .other v => if v.isEmptyLike then some [] else none

end StorageKey.Yaml
