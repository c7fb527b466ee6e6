-- SUMMARY: YAML tokens.

/-! # YAML tokens -/
namespace TaskGraph.Yaml

/-- A tag as written: a handle and a suffix. An empty handle stands for a full tag. -/
structure TagName where
  handle : String
  suffix : String
  deriving DecidableEq, Repr

inductive Directive where
  | version (major minor : Nat)
  /-- What a tag handle stands for. -/
  | handle (handle expansion : String)
  deriving DecidableEq, Repr

inductive Token where
  | directive (d : Directive)
  | documentStart
  | documentEnd
  | blockSequenceStart
  | blockMappingStart
  | blockEnd
  | flowSequenceStart
  | flowSequenceEnd
  | flowMappingStart
  | flowMappingEnd
  /-- The dash of a block sequence. -/
  | blockEntry
  /-- The comma of a flow collection. -/
  | flowEntry
  | key
  | value
  | alias (name : String)
  | anchor (name : String)
  | tag (t : TagName)
  /-- A scalar; `plain` tells that it is not quoted and not a block. -/
  | scalar (text : String) (plain : Bool)
  deriving DecidableEq, Repr

end TaskGraph.Yaml
