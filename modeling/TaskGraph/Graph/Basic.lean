-- SUMMARY: Graphs of tasks: nodes, directed edges, and the kind of document they come from.

/-!
# Task graphs

An edge points from a node to one that depends on it. Nodes and edges are in
drawing order, and an id may in principle occur twice; a look-up finds the first.
-/
namespace TaskGraph

/-- The part of a document that lists the tasks. -/
inductive Section where
  /-- Tasks name the tasks that they need. -/
  | workflow
  /-- Each task needs the one before it. -/
  | pipeline
  deriving DecidableEq, Repr, Inhabited

inductive NodeKind where
  | start
  | finish
  | task
  /-- Reserved: no document compiles to it. -/
  | condition
  | cron
  | webhook
  /-- A point where several edges meet, with no task of its own. -/
  | join
  deriving DecidableEq, Repr

structure Node where
  id : String
  /-- The short text on the node. -/
  label : String
  description : String
  kind : NodeKind
  /-- What the icon is looked up by. -/
  iconKey : Option String := none
  icon : Option String := none
  x : Option Float := none
  y : Option Float := none
  deriving Repr

inductive EdgeKind where
  | flow
  deriving DecidableEq, Repr

structure Edge where
  source : String
  target : String
  kind : EdgeKind := .flow
  label : Option String := none
  deriving DecidableEq, Repr

/-- A plain edge. -/
def Edge.flow (source target : String) : Edge := { source, target }

structure Graph where
  origin : Section
  nodes : List Node
  edges : List Edge
  deriving Repr

namespace Graph

def empty (origin : Section) : Graph := ⟨origin, [], []⟩

def isEmpty (g : Graph) : Bool := g.nodes.isEmpty

/-- The first node with the given id. -/
def node? (g : Graph) (id : String) : Option Node := g.nodes.find? (·.id == id)

end Graph
end TaskGraph
