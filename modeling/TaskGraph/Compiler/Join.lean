-- SUMMARY: Join nodes in place of the edges between sources and targets that all wait for them.
import TaskGraph.Graph.Basic
import TaskGraph.Text.Lowercase

/-!
# Join nodes

Where two or more targets wait for the same two or more sources, their edges are
replaced by edges from each source to a join node and from there to each target.
Targets wait for the same sources if their keys agree: the sources in a fixed
order, with `_` between them. A key with only one target stays as it is.
-/
namespace TaskGraph
namespace Join

/-! ## Keys -/

/-- The order of sources in a key: by their lower case, and where that agrees, the greater
text first. -/
def precedes (a b : String) : Bool :=
  match compare (Text.lowercase a) (Text.lowercase b) with
  | .lt => true
  | .gt => false
  | .eq => (compare b a).isLE

/-- The key of a list of sources. -/
def key (sources : List String) : String :=
  "_".intercalate (sources.mergeSort precedes)

/-! ## Targets that share a key -/

/-- A target that two or more edges lead to. -/
structure Convergence where
  target : String
  incoming : List Edge
  key : String

/-- The targets of edges, in the order in which they first occur. -/
def targets (edges : List Edge) : List String := (edges.map Edge.target).eraseDups

/-- A target together with the edges into it. -/
def Convergence.of (edges : List Edge) (target : String) : Convergence :=
  let incoming := edges.filter (·.target == target)
  { target, incoming, key := Join.key (incoming.map Edge.source) }

/-- All targets that two or more edges lead to. -/
def convergences (edges : List Edge) : List Convergence :=
  ((targets edges).map (Convergence.of edges)).filter fun c => 2 ≤ c.incoming.length

/-- The targets with one key. The first of them lends its edges to the join node. -/
structure Group where
  key : String
  first : Convergence
  others : List Convergence

namespace Group

def members (g : Group) : List Convergence := g.first :: g.others

def targets (g : Group) : List String := g.members.map Convergence.target

/-- The node that the members are reached through. -/
def node (g : Group) : Node := { id := g.key, label := "", description := "", kind := .join }

/-- The edges of the first member, led to the join node, and an edge from there to every
member. -/
def edges (g : Group) : List Edge :=
  g.first.incoming.map (fun e => { e with target := g.key }) ++
    g.targets.map (Edge.flow g.key)

/-- The group of a key, if two or more targets share it. -/
def of? (cs : List Convergence) (key : String) : Option Group :=
  match cs.filter (·.key == key) with
  | first :: other :: others => some { key, first, others := other :: others }
  | _ => none

end Group

/-- The groups in the order in which their keys first occur. -/
def groups (edges : List Edge) : List Group :=
  let cs := convergences edges
  (cs.map Convergence.key).eraseDups.filterMap (Group.of? cs)

end Join

/-- The graph with join nodes. Edges that are not replaced come first, in their order. -/
def Graph.withJoins (g : Graph) : Graph :=
  let groups := Join.groups g.edges
  let merged := groups.flatMap Join.Group.targets
  { g with
    nodes := g.nodes ++ groups.map Join.Group.node
    edges := g.edges.filter (fun e => !merged.contains e.target) ++
      groups.flatMap Join.Group.edges }

end TaskGraph
