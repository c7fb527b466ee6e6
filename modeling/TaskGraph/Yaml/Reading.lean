-- SUMMARY: Reading texts, lists and records from YAML nodes.
import TaskGraph.Yaml.Node

/-!
# Reading values from nodes

Every scalar is a text, whatever it looks like. A value may be optional: then a
plain scalar that is empty or spells null is absent. Following an alias counts, and
a document in which more are followed than a hundred for each of its events is
refused, so that a small text cannot ask for endless work.
-/
namespace TaskGraph.Yaml

/-- Reading with the number of aliases followed so far. -/
abbrev Reading := StateT Nat Option

namespace Document

variable {α : Type}

/-- How many aliases may be followed in a document. -/
def aliasLimit (d : Document) : Nat := 100 * d.size

/-- The node that an alias stands for, and any other node itself. -/
def follow (d : Document) : Node → Reading Node
  | .alias target => do
    let count := (← get) + 1
    if count > d.aliasLimit then failure
    set count
    d.anchored.lookup target
  | n => pure n

/-- The text of a scalar. -/
def text (d : Document) (n : Node) : Reading String := do
  match ← d.follow n with
  | .scalar _ s _ => pure s
  | _ => failure

/-- The items of a sequence. Nothing at all is an empty one. -/
def list (d : Document) (read : Node → Reading α) (n : Node) : Reading (List α) := do
  match ← d.follow n with
  | .sequence items => items.mapM read
  | .scalar _ "" true => pure []
  | _ => failure

/-- The spellings of null. -/
def isNull (s : String) : Bool := s = "null" || s = "Null" || s = "NULL" || s = "~"

/-- The tag of null. -/
def nullTag : String := "tag:yaml.org,2002:null"

/-- Whether an optional value is there. A scalar with the tag of null must spell it. -/
def isPresent : Node → Reading Bool
  | .scalar none s true => pure (!s.isEmpty && !isNull s)
  | .scalar (some tag) s true =>
    if tag = nullTag then (if isNull s then pure false else failure) else pure true
  | _ => pure true

def optional (d : Document) (read : Node → Reading α) (n : Node) : Reading (Option α) := do
  let n ← d.follow n
  if ← isPresent n then some <$> read n else pure none

/-! ## Records -/

abbrev Fields := List (String × Node)

/-- The entries of a mapping under the given names, none of which may be repeated. Keys must
be scalars. -/
def fieldsOf (d : Document) (names : List String) (found : Fields) :
    List (Node × Node) → Reading Fields
  | [] => pure found
  | (k, v) :: entries => do
    let name ← d.text k
    if name ∈ names then
      if (found.lookup name).isSome then failure
      fieldsOf d names ((name, v) :: found) entries
    else fieldsOf d names found entries

/-- The fields of a record. Nothing at all is a record without any. -/
def fields (d : Document) (names : List String) (n : Node) : Reading Fields := do
  match ← d.follow n with
  | .mapping entries => d.fieldsOf names [] entries
  | .scalar _ "" true => pure []
  | _ => failure

/-- A field that must be there. -/
def Fields.required (fs : Fields) (name : String) (read : Node → Reading α) : Reading α :=
  match fs.lookup name with
  | some n => read n
  | none => failure

/-- A field with a default. -/
def Fields.withDefault (fs : Fields) (name : String) (default : α) (read : Node → Reading α) :
    Reading α :=
  match fs.lookup name with
  | some n => read n
  | none => pure default

/-- Reads the content of a document, or `default` if it has none. -/
def read? (d : Document) (default : α) (read : Node → Reading α) : Option α :=
  match d.root with
  | none => some default
  | some n => (read n).run' 0

end Document
end TaskGraph.Yaml
