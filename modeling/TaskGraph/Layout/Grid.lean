-- SUMMARY: The shape of a grid for a chain of nodes, and the order that makes it one path.

/-!
# Grids

A long chain is laid out on a grid that is read back and forth: the first row
from left to right, the next one from right to left, and so on. The number of
rows is odd, so the walk ends on the side opposite to where it began.
-/
namespace TaskGraph.Layout

/-- The number of columns to begin with. -/
def startColumns (count : Nat) : Nat :=
  if count < 13 then 3 else if count < 28 then 5 else 10

/-- The number of rows of `columns` cells that hold `count` nodes. -/
def rowsFor (count columns : Nat) : Nat := (count + columns - 1) / columns

/-- Columns and rows of a grid. Of an even number of rows one is given up, and the
columns are widened to make up for it. -/
def gridShape (count : Nat) : Nat × Nat :=
  let columns := startColumns count
  let rows := rowsFor count columns
  if rows > 0 ∧ rows % 2 = 0 then (rowsFor count (rows - 1), rows - 1) else (columns, rows)

/-- The cell of the `i`-th of `count` nodes, counted from left to right and then row by
row. The filled part of an odd row is reversed. -/
def cell (count columns i : Nat) : Nat :=
  let row := i / columns
  let start := row * columns
  if row % 2 = 0 then i else start + (min columns (count - start) - 1 - (i - start))

/-- A sorting weight for each node, by which the renderer fills the cells. Nodes with greater
weights are placed first, so weights are negated cells. No columns count as one. -/
def snakeWeights (count columns : Nat) : List Int :=
  (List.range count).map fun i => -(cell count (max columns 1) i : Int)

end TaskGraph.Layout
