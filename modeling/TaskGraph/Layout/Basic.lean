-- SUMMARY: Layouts of a graph, and the one that suits a graph of a given kind and size.
import TaskGraph.Graph.Basic
import TaskGraph.Layout.Grid

/-!
# Layouts

A ranked layout puts every node behind the ones it depends on; workflows and
small graphs get one. A longer pipeline is laid out on a grid.
-/
namespace TaskGraph

inductive Orientation where
  | horizontal
  | vertical
  deriving DecidableEq, Repr, Inhabited

/-- The direction in which ranks follow each other. -/
inductive RankDirection where
  | leftToRight
  | topToBottom
  deriving DecidableEq, Repr

def RankDirection.ofOrientation : Orientation → RankDirection
  | .horizontal => .leftToRight
  | .vertical => .topToBottom

namespace Layout

structure Ranked where
  direction : RankDirection
  /-- The space between the nodes of a rank. -/
  nodeGap : Float
  /-- The space between neighbouring ranks. -/
  rankGap : Float
  keepControlPoints : Bool
  deriving Repr

structure Grid where
  preventOverlap : Bool
  nodeSize : Float
  overlapPadding : Float
  columns : Nat
  rows : Nat
  /-- A weight for each node, in graph order. -/
  weights : List Int
  deriving Repr

end Layout

inductive Layout where
  | ranked (r : Layout.Ranked)
  | grid (g : Layout.Grid)
  deriving Repr

namespace Layout

/-- Horizontal only with ranks from left to right. -/
def orientation : Layout → Orientation
  | .ranked { direction := .leftToRight, .. } => .horizontal
  | _ => .vertical

/-- Pipelines of at least this many nodes get a grid. -/
def gridThreshold : Nat := 8

/-- The ranked layout of a graph. -/
def rankedFor (o : Orientation) : Ranked :=
  let direction := RankDirection.ofOrientation o
  { direction
    nodeGap := match direction with
      | .topToBottom => 60
      | .leftToRight => 35
    rankGap := 70
    keepControlPoints := true }

/-- The grid of a pipeline of `count` nodes. -/
def gridFor (count : Nat) : Grid :=
  let (columns, rows) := gridShape count
  { preventOverlap := true
    nodeSize := 60
    overlapPadding := 130
    columns
    rows
    weights := snakeWeights count columns }

/-- The layout of a graph with `count` nodes. -/
def choose (origin : Section) (count : Nat) (o : Orientation) : Layout :=
  if origin = .workflow ∨ count < gridThreshold then .ranked (rankedFor o)
  else .grid (gridFor count)

end Layout
end TaskGraph
