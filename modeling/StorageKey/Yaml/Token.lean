import StorageKey.Yaml.Fault

/-!
# Tokens of a document

The marks and scalars that a document's text is made of. A list of tokens ends with the end of
the text or with the fault that ends the scan.
-/

namespace StorageKey.Yaml

/-- What a directive says. -/
inductive Directive
  | version (major : Int)
  | tagHandle (handle expansion : String)
  | other
  deriving DecidableEq, Repr

/-- A tag as it is written: a suffix below a handle, or a whole tag. -/
structure TagText where
  handle : Option String
  suffix : String
  deriving DecidableEq, Repr

/-- A token. -/
inductive Token
  | finish
  | fault (f : Fault)
  | directive (d : Directive)
  | documentStart
  | documentEnd
  | blockSequenceStart
  | blockMappingStart
  | blockEnd
  | flowSequenceStart
  | flowSequenceEnd
  | flowMappingStart
  | flowMappingEnd
  | blockEntry
  | flowEntry
  | key
  | value
  | alias (name : String)
  | anchor (name : String)
  | tag (t : TagText)
  | scalar (points : List Nat) (plain : Bool)
  deriving DecidableEq, Repr, Inhabited

end StorageKey.Yaml
