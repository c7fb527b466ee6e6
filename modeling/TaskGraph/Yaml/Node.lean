-- SUMMARY: YAML documents as trees, with aliases that point into them.
import TaskGraph.Yaml.Event
import TaskGraph.Yaml.Lexer

/-!
# Documents as trees

An alias points to the event at which a node begins. Anchors are numbered by how
many different names were seen before, and an alias keeps the number that its name
has at that place. A name that is used again shares its number with the next new
name, and a number always stands for the last node that was given it. Aliases
are not replaced by copies, so a document may contain itself.
-/
namespace TaskGraph.Yaml

inductive Node where
  | scalar (tag : Option String) (text : String) (plain : Bool)
  /-- Stands for the node that begins at an event. -/
  | alias (target : Nat)
  | sequence (items : List Node)
  | mapping (entries : List (Node × Node))
  deriving Inhabited

structure Document where
  /-- The content; none in a text without a document. -/
  root : Option Node
  /-- The nodes with an anchor, by the event at which they begin. -/
  anchored : List (Nat × Node)
  /-- The number of events. -/
  size : Nat

namespace Document

/-! ## Anchors -/

structure Anchors where
  /-- The number that each name has now. -/
  names : List (String × Nat) := []
  /-- The event that each number stands for, latest first. -/
  starts : List (Nat × Nat) := []

/-- Gives a name to the node that begins at an event. -/
def Anchors.bind (a : Anchors) (name : String) (start : Nat) : Anchors :=
  let number := a.names.length
  { names := (name, number) :: a.names.filter (·.1 != name)
    starts := (number, start) :: a.starts }

def anchorOf : Event → Option String
  | .scalar anchor _ _ _ => anchor
  | .sequenceStart anchor => anchor
  | .mappingStart anchor => anchor
  | _ => none

/-- The numbers of the aliases in order, and the anchors at the end; fails at an alias whose
name is unknown. -/
def numberAliases? (a : Anchors) (numbers : List Nat) (index : Nat) :
    List Event → Option (List Nat × Anchors)
  | [] => some (numbers.reverse, a)
  | .alias name :: es => do
    numberAliases? a ((← a.names.lookup name) :: numbers) (index + 1) es
  | e :: es =>
    let a := match anchorOf e with
      | some name => a.bind name index
      | none => a
    numberAliases? a numbers (index + 1) es

/-! ## Trees -/

/-- An open collection: the event at which it begins, if it has an anchor, and its parts in
reverse. -/
inductive Frame where
  | sequence (start : Option Nat) (items : List Node)
  | mapping (start : Option Nat) (entries : List (Node × Node)) (key : Option Node)

structure Builder where
  stack : List Frame := []
  root : Option Node := none
  anchored : List (Nat × Node) := []
  /-- The events that the remaining aliases point to. -/
  targets : List Nat

namespace Builder

/-- Hands a node to the innermost open collection. -/
def put (b : Builder) (n : Node) : Builder :=
  match b.stack with
  | [] => { b with root := some n }
  | .sequence start items :: stack => { b with stack := .sequence start (n :: items) :: stack }
  | .mapping start entries none :: stack =>
    { b with stack := .mapping start entries (some n) :: stack }
  | .mapping start entries (some k) :: stack =>
    { b with stack := .mapping start ((k, n) :: entries) none :: stack }

/-- Notes a node that has an anchor. -/
def note (b : Builder) (start : Option Nat) (n : Node) : Builder :=
  match start with
  | some i => { b with anchored := (i, n) :: b.anchored }
  | none => b

/-- Closes the innermost open collection. -/
def close (b : Builder) : Builder :=
  match b.stack with
  | [] => b
  | .sequence start items :: stack =>
    let n := Node.sequence items.reverse
    ({ b with stack }.note start n).put n
  | .mapping start entries _ :: stack =>
    let n := Node.mapping entries.reverse
    ({ b with stack }.note start n).put n

def step (b : Builder) (index : Nat) : Event → Builder
  | .alias _ => { b with targets := b.targets.drop 1 }.put (.alias (b.targets.headD 0))
  | .scalar anchor tag text plain =>
    let n := Node.scalar tag text plain
    (b.note (anchor.map fun _ => index) n).put n
  | .sequenceStart anchor =>
    { b with stack := .sequence (anchor.map fun _ => index) [] :: b.stack }
  | .mappingStart anchor =>
    { b with stack := .mapping (anchor.map fun _ => index) [] none :: b.stack }
  | .sequenceEnd => b.close
  | .mappingEnd => b.close

end Builder

/-- The document of a sequence of events. -/
def ofEvents? (es : List Event) : Option Document := do
  let (numbers, anchors) ← numberAliases? {} [] 0 es
  let targets ← numbers.mapM fun number => anchors.starts.lookup number
  let b := (es.zipIdx).foldl (fun b (e, i) => b.step i e) { targets : Builder }
  return { root := b.root, anchored := b.anchored, size := es.length }

/-- The document of a text. -/
def parse? (s : String) : Option Document := do
  ofEvents? (← Event.ofTokens? (← Token.scan? (← sourceOf? s)))

end Document
end TaskGraph.Yaml
