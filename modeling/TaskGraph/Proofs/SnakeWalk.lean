-- SUMMARY: The walk that numbers the cells of a grid back and forth, and when it goes on from cell to cell.
import Mathlib.Data.List.Nodup
import Mathlib.Data.Nat.Dist
import Mathlib.Order.Bounds.Basic
import TaskGraph.Proofs.GridPath

/-!
# Walks through a grid

The nodes are visited row by row, and a row with an odd number is turned around within its
filled part. So every visit is to a new node, and the cell it assigns lies in the row of the
node: no number on the way exceeds the number of nodes. Turning a row around twice changes
nothing, so the assignment is its own inverse. A grid of any shape is walked from cell to
neighbouring cell unless its last row is odd and not full.
-/
namespace TaskGraph.Layout

/-! ## Rows that are turned around -/

/-- The column of the `offset`-th node of a row. Odd rows run from right to left. -/
def turned (row length offset : Nat) : Nat :=
  if row % 2 = 0 then offset else length - 1 - offset

section
variable (row : Nat) {length offset : Nat} (h : offset < length)
include h

theorem turned_lt : turned row length offset < length := by
  unfold turned
  split
  · exact h
  · omega

theorem turned_turned : turned row length (turned row length offset) = offset := by
  unfold turned
  split
  · rfl
  · omega

end

/-- The number of nodes in a row. -/
def filled (count columns row : Nat) : Nat := min columns (count - row * columns)

/-- Every node stands in the filled part of a row. -/
theorem exists_row_offset {count columns i : Nat} (hc : 0 < columns) (hi : i < count) :
    ∃ row offset, i = row * columns + offset ∧ offset < filled count columns row := by
  have hsplit : i / columns * columns + i % columns = i := Nat.div_add_mod' _ _
  have hlt : i % columns < columns := Nat.mod_lt _ hc
  refine ⟨i / columns, i % columns, hsplit.symm, ?_⟩
  rw [filled, Nat.lt_min]
  omega

section
variable {count columns row offset : Nat} (h : offset < filled count columns row)
include h

theorem lt_columns_of_lt_filled : offset < columns := by
  unfold filled at h
  omega

theorem lt_count_of_lt_filled : row * columns + offset < count := by
  unfold filled at h
  omega

end

section
variable {count columns : Nat} (hc : 0 < columns)
include hc

theorem cell_eq_turned {row offset : Nat} (h : offset < filled count columns row) :
    cell count columns (row * columns + offset) =
      row * columns + turned row (filled count columns row) offset := by
  rw [cell, div_eq_row hc (lt_columns_of_lt_filled h), turned, filled]
  split
  · rfl
  · rw [Nat.add_sub_cancel_left]

/-- A node stays in its row. -/
theorem cell_div {i : Nat} (hi : i < count) : cell count columns i / columns = i / columns := by
  obtain ⟨row, offset, rfl, hoffset⟩ := exists_row_offset hc hi
  rw [cell_eq_turned hc hoffset, div_eq_row hc (lt_columns_of_lt_filled hoffset),
    div_eq_row hc (lt_columns_of_lt_filled (turned_lt row hoffset))]

theorem cell_lt {i : Nat} (hi : i < count) : cell count columns i < count := by
  obtain ⟨row, offset, rfl, hoffset⟩ := exists_row_offset hc hi
  rw [cell_eq_turned hc hoffset]
  exact lt_count_of_lt_filled (turned_lt row hoffset)

/-- Two nodes of a row trade places, or one keeps its own. -/
theorem cell_cell {i : Nat} (hi : i < count) :
    cell count columns (cell count columns i) = i := by
  obtain ⟨row, offset, rfl, hoffset⟩ := exists_row_offset hc hi
  rw [cell_eq_turned hc hoffset, cell_eq_turned hc (turned_lt row hoffset),
    turned_turned row hoffset]

/-- Every cell is that of one node. -/
theorem map_cell_perm :
    ((List.range count).map (cell count columns)).Perm (List.range count) := by
  refine (List.perm_ext_iff_of_nodup ?_ List.nodup_range).mpr ?_
  · refine List.nodup_range.map_on ?_
    intro i hi j hj heq
    rw [← cell_cell hc (List.mem_range.mp hi), heq, cell_cell hc (List.mem_range.mp hj)]
  · intro p
    simp only [List.mem_map, List.mem_range]
    constructor
    · rintro ⟨i, hi, rfl⟩
      exact cell_lt hc hi
    · intro hp
      exact ⟨cell count columns p, cell_lt hc hp, cell_cell hc hp⟩

end

/-! ## The walk -/

/-- One visit of the walk: the `offset`-th node of a row is put into a column. -/
structure Visit where
  row : Nat
  /-- The first node of the row, and the number of its nodes. -/
  start : Nat
  length : Nat
  offset : Nat
  column : Nat
  deriving DecidableEq, Repr

namespace Visit

def node (v : Visit) : Nat := v.start + v.offset

def cell (columns : Nat) (v : Visit) : Nat := v.row * columns + v.column

/-- No number of a visit exceeds the number of nodes, and what is subtracted on the way to it
is there. -/
structure Within (count columns : Nat) (v : Visit) : Prop where
  start_lt : v.start < count
  length_le : v.length ≤ count
  offset_lt : v.offset < v.length
  node_lt : v.node < count
  cell_lt : v.cell columns < count

end Visit

/-- The visits to one row. -/
def rowVisits (count columns row start : Nat) : List Visit :=
  let length := min columns (count - start)
  (List.range length).map fun offset =>
    { row, start, length, offset, column := turned row length offset }

/-- The visits to all rows; a row starts every `columns` nodes. -/
def walk (count columns : Nat) : List Visit :=
  (List.range' 0 (rowsFor count columns) columns).zipIdx.flatMap fun (start, row) =>
    rowVisits count columns row start

/-- The weights that the walk leaves in a list of as many zeros as there are nodes. -/
def walkWeights (count columns : Nat) : List Int :=
  (walk count columns).foldl (fun weights v => weights.set v.node (-(v.cell columns : Int)))
    (List.replicate count 0)

theorem rowStarts_eq (rows columns : Nat) :
    (List.range' 0 rows columns).zipIdx =
      (List.range rows).map fun row => (row * columns, row) := by
  refine List.ext_getElem (by simp) ?_
  intro i hi hi'
  simp [Nat.mul_comm]

section
variable {count columns : Nat}

theorem rowVisits_eq (row : Nat) :
    rowVisits count columns row (row * columns) =
      (List.range (filled count columns row)).map fun offset =>
        { row, start := row * columns, length := filled count columns row, offset
          column := turned row (filled count columns row) offset } :=
  rfl

/-- After some rows, the nodes that were visited are the first ones, each of them once. -/
theorem nodes_of_rows (rows : Nat) :
    ((List.range rows).flatMap fun row => rowVisits count columns row (row * columns)).map
        Visit.node = List.range (min count (rows * columns)) := by
  induction rows with
  | zero => simp
  | succ rows ih =>
    have hsucc : (rows + 1) * columns = rows * columns + columns := Nat.succ_mul _ _
    have hlast : (rowVisits count columns rows (rows * columns)).map Visit.node =
        (List.range (filled count columns rows)).map (rows * columns + ·) := by
      rw [rowVisits_eq, List.map_map]
      rfl
    rw [List.range_succ, List.flatMap_append, List.map_append, ih, List.flatMap_singleton, hlast]
    by_cases hfull : rows * columns ≤ count
    · have hnext : min count ((rows + 1) * columns) =
          rows * columns + filled count columns rows := by
        unfold filled
        omega
      rw [hnext, List.range_add, Nat.min_eq_right hfull]
    · -- All nodes were visited before this row.
      have hnone : filled count columns rows = 0 := by
        unfold filled
        omega
      have hsame : min count ((rows + 1) * columns) = min count (rows * columns) := by omega
      rw [hnone, hsame]
      simp

theorem walk_eq : walk count columns =
    (List.range (rowsFor count columns)).flatMap fun row =>
      rowVisits count columns row (row * columns) := by
  rw [walk, rowStarts_eq, List.flatMap_map]

variable (hc : 0 < columns)
include hc

/-- The walk visits every node once, in the order of the chain. -/
theorem walk_nodes : (walk count columns).map Visit.node = List.range count := by
  rw [walk_eq, nodes_of_rows, Nat.min_eq_left (rowsFor_bounds hc).1]

theorem mem_walk {v : Visit} (hv : v ∈ walk count columns) :
    v.Within count columns ∧ v.cell columns = cell count columns v.node := by
  rw [walk_eq] at hv
  obtain ⟨row, hrow, hv⟩ := List.mem_flatMap.mp hv
  rw [rowVisits_eq] at hv
  obtain ⟨offset, hoffset, rfl⟩ := List.mem_map.mp hv
  rw [List.mem_range] at hoffset
  have hnode : row * columns + offset < count := lt_count_of_lt_filled hoffset
  have hcell := lt_count_of_lt_filled (turned_lt row hoffset)
  refine ⟨⟨?_, ?_, hoffset, hnode, hcell⟩, (cell_eq_turned hc hoffset).symm⟩
  · exact Nat.lt_of_le_of_lt (Nat.le_add_right _ _) hnode
  · simp only [filled]
    omega

end

/-- Writing to the first places of a list, one after the other. -/
theorem foldl_set_range (value : Nat → Int) (weights : List Int) {m : Nat}
    (h : m ≤ weights.length) :
    (List.range m).foldl (fun ws i => ws.set i (value i)) weights =
      (List.range m).map value ++ weights.drop m := by
  induction m with
  | zero => simp
  | succ m ih =>
    obtain ⟨w, hdrop⟩ : ∃ w, weights.drop m = w :: weights.drop (m + 1) :=
      ⟨_, List.drop_eq_getElem_cons h⟩
    rw [List.range_succ, List.foldl_append, ih (by omega), hdrop]
    simp

theorem walkWeights_eq {count columns : Nat} (hc : 0 < columns) :
    walkWeights count columns =
      (List.range count).map fun i => -(cell count columns i : Int) := by
  have hwrites : walkWeights count columns =
      ((walk count columns).map Visit.node).foldl
        (fun ws i => ws.set i (-(cell count columns i : Int))) (List.replicate count 0) := by
    rw [List.foldl_map]
    refine List.foldl_ext _ _ _ fun ws v hv => ?_
    rw [(mem_walk hc hv).2]
  rw [hwrites, walk_nodes hc, foldl_set_range _ _ (by simp)]
  simp

/-! ## The weights of the walk -/

/-- The weights number the cells of a grid back and forth, one for each node. -/
structure BackAndForth (count columns : Nat) (weights : List Int) : Prop where
  length_eq : weights.length = count
  /-- Every cell has one node. -/
  perm : (weights.map fun w => -w).Perm ((List.range count).map Int.ofNat)
  /-- A node keeps its row. -/
  row_eq : ∀ i (h : i < weights.length), -weights[i] / (columns : Int) = (i / columns : Nat)
  /-- The node whose number is the cell of a node has that node's number for its cell. -/
  swap : ∀ i (h : i < weights.length),
    ∃ j, ∃ hj : j < weights.length, -weights[i] = (j : Int) ∧ -weights[j] = (i : Int)

theorem backAndForth_cells {count columns : Nat} (hc : 0 < columns) :
    BackAndForth count columns
      ((List.range count).map fun i => -(cell count columns i : Int)) where
  length_eq := by simp
  perm := by
    have hcells := (@map_cell_perm count columns hc).map Int.ofNat
    rw [List.map_map] at hcells
    simpa [Function.comp_def] using hcells
  row_eq := by
    intro i h
    have hi : i < count := by simpa using h
    rw [← cell_div hc hi]
    simp
  swap := by
    intro i h
    have hi : i < count := by simpa using h
    refine ⟨cell count columns i, by simpa using cell_lt hc hi, ?_, ?_⟩
    · simp
    · simp [cell_cell hc hi]

/-- The weights of any number of nodes in any number of columns, where none count as one, number
the cells back and forth. They are what the walk writes down, which visits every node once and on
the way meets no number that exceeds the number of nodes. -/
theorem snakeWeights_backAndForth (count columns : Nat) :
    BackAndForth count (max columns 1) (snakeWeights count columns) ∧
      snakeWeights count columns = walkWeights count (max columns 1) ∧
      (walk count (max columns 1)).map Visit.node = List.range count ∧
      ∀ v ∈ walk count (max columns 1), v.Within count (max columns 1) := by
  have hc : 0 < max columns 1 := by omega
  exact ⟨backAndForth_cells hc, (walkWeights_eq hc).symm, walk_nodes hc,
    fun v hv => (mem_walk hc hv).1⟩

/-- The second row has two nodes and is turned around. -/
theorem snakeWeights_backAndForth_5 :
    BackAndForth 5 3 [0, -1, -2, -4, -3] ∧
      (⟨1, 3, 2, 0, 1⟩ : Visit) ∈ walk 5 3 ∧ (⟨1, 3, 2, 0, 1⟩ : Visit).Within 5 3 := by
  obtain ⟨hweights, _, _, hwithin⟩ := snakeWeights_backAndForth 5 3
  have hvisit : (⟨1, 3, 2, 0, 1⟩ : Visit) ∈ walk 5 3 := by decide
  exact ⟨hweights, hvisit, hwithin _ hvisit⟩

/-! ## From cell to neighbouring cell -/

/-- The number of steps, along rows and columns, from one place to another. -/
def Place.distance (p q : Place) : Nat := Nat.dist p.row q.row + Nat.dist p.column q.column

theorem Place.adjacent_iff_distance {p q : Place} : p.Adjacent q ↔ p.distance q = 1 := by
  simp only [Adjacent, distance, Nat.dist]
  omega

/-- The places of the nodes, in the order of the chain. -/
def snakePlaces (count columns : Nat) : List Place :=
  (snakeWeights count columns).map fun w => .ofCell columns (-w).toNat

section
variable {count columns : Nat} (hc : 0 < columns)
include hc

theorem snakePlaces_eq :
    snakePlaces count columns =
      (List.range count).map fun i => .ofCell columns (cell count columns i) := by
  have hmax : max columns 1 = columns := Nat.max_eq_left hc
  rw [snakePlaces, snakeWeights, hmax, List.map_map]
  simp [Function.comp_def]

/-- The places of nodes are those of the first cells. -/
theorem mem_snakePlaces {row column : Nat} :
    ⟨row, column⟩ ∈ snakePlaces count columns ↔
      column < columns ∧ row * columns + column < count := by
  rw [snakePlaces_eq hc, ← Function.comp_def, ← List.map_map,
    ((map_cell_perm hc).map _).mem_iff]
  simp only [List.mem_map, List.mem_range]
  constructor
  · rintro ⟨p, hp, hplace⟩
    obtain ⟨rfl, rfl⟩ := Place.mk.inj hplace
    have hsplit : p / columns * columns + p % columns = p := Nat.div_add_mod' _ _
    exact ⟨Nat.mod_lt _ hc, by omega⟩
  · rintro ⟨hcolumn, hp⟩
    exact ⟨_, hp, ofCell_eq hc hcolumn⟩

theorem snakePlaces_isChain_iff :
    (snakePlaces count columns).IsChain (fun p q => p.distance q = 1) ↔
      columns ∣ count ∨ rowsFor count columns % 2 = 1 := by
  rw [← rows_full_iff hc, ← forall_adjacent_iff hc, List.isChain_iff_getElem,
    snakePlaces_eq hc]
  simp [Place.adjacent_iff_distance]

/-- Some row is the last one that is begun. -/
theorem exists_lastRow (hcount : 0 < count) :
    ∃ last, rowsFor count columns = last + 1 ∧ last * columns < count ∧
      count ≤ last * columns + columns := by
  obtain ⟨hholds, hspare⟩ := @rowsFor_bounds count columns hc
  obtain ⟨last, hlast⟩ := Nat.exists_eq_add_one.mpr (rowsFor_pos hc hcount)
  rw [hlast, Nat.succ_mul] at hholds hspare
  exact ⟨last, hlast, by omega, hholds⟩

variable {last : Nat} (hbegun : last * columns < count) (hholds : count ≤ last * columns + columns)
include hbegun hholds

theorem isGreatest_lastRow :
    IsGreatest {row | ∃ p ∈ snakePlaces count columns, p.row = row} last := by
  constructor
  · exact ⟨⟨last, 0⟩, (mem_snakePlaces hc).mpr ⟨hc, hbegun⟩, rfl⟩
  · rintro _ ⟨⟨row, column⟩, hplace, rfl⟩
    have hcell := ((mem_snakePlaces hc).mp hplace).2
    have hrow : row * columns < (last + 1) * columns := by
      rw [Nat.succ_mul]
      omega
    exact Nat.lt_succ_iff.mp (Nat.lt_of_mul_lt_mul_right hrow)

theorem lastRow_full_iff :
    (∀ column < columns, ⟨last, column⟩ ∈ snakePlaces count columns) ↔ columns ∣ count := by
  -- The last row has `rest` nodes, at least one and at most as many as there are columns.
  obtain ⟨rest, rfl⟩ : ∃ rest, count = last * columns + rest :=
    ⟨_, (Nat.add_sub_of_le hbegun.le).symm⟩
  simp only [mem_snakePlaces hc]
  rw [Nat.dvd_add_right (Nat.dvd_mul_left columns last)]
  constructor
  · intro hfull
    have hend := (hfull (columns - 1) (by omega)).2
    obtain rfl : rest = columns := by omega
    exact Nat.dvd_refl rest
  · intro hdvd column hcolumn
    have hle : columns ≤ rest := Nat.le_of_dvd (by omega) hdvd
    omega

end

/-- A walk through a grid goes from each node to the next in one step exactly if the last row that
holds a node is full or even. -/
theorem snakePlaces_oneStep_iff {count columns : Nat} (hcount : 1 ≤ count)
    (hcolumns : 1 ≤ columns) :
    ∃ last, IsGreatest {row | ∃ p ∈ snakePlaces count columns, p.row = row} last ∧
      ((snakePlaces count columns).IsChain (fun p q => p.distance q = 1) ↔
        (∀ column < columns, ⟨last, column⟩ ∈ snakePlaces count columns) ∨ last % 2 = 0) := by
  obtain ⟨last, hrows, hbegun, hholds⟩ := exists_lastRow hcolumns hcount
  refine ⟨last, isGreatest_lastRow hcolumns hbegun hholds, ?_⟩
  rw [snakePlaces_isChain_iff hcolumns, lastRow_full_iff hcolumns hbegun hholds, hrows]
  omega

/-- The second of two rows of three has two nodes, so the walk jumps to it. -/
theorem snakePlaces_oneStep_5 :
    1 ≤ 5 ∧ 1 ≤ 3 ∧ IsGreatest {row | ∃ p ∈ snakePlaces 5 3, p.row = row} 1 ∧
      ¬ (snakePlaces 5 3).IsChain (fun p q => p.distance q = 1) := by
  obtain ⟨last, hlast, hsteps⟩ :=
    snakePlaces_oneStep_iff (show 1 ≤ 5 by decide) (show 1 ≤ 3 by decide)
  have hrows : ∀ p ∈ snakePlaces 5 3, p.row ≤ 1 := by decide
  have hsecond : IsGreatest {row | ∃ p ∈ snakePlaces 5 3, p.row = row} 1 := by
    refine ⟨⟨⟨1, 1⟩, by decide, rfl⟩, ?_⟩
    rintro _ ⟨p, hp, rfl⟩
    exact hrows p hp
  obtain rfl : last = 1 := hlast.unique hsecond
  refine ⟨by decide, by decide, hsecond, ?_⟩
  rw [hsteps]
  decide

end TaskGraph.Layout
