-- SUMMARY: The path of a chain through its grid, and for which numbers of nodes it is broken.
import Mathlib.Data.Nat.Basic
import TaskGraph.Layout.Basic

/-!
# Paths through a grid

The path is broken in one way only: an odd row starts below the end of the row before it
unless it is full, and only the last row can be short. So the path holds together exactly if
the last row is full or an even number of rows lies before it. The shape of a grid is
meant to see to the latter, but columns that were widened to save one row can save two.
-/
namespace TaskGraph.Layout

/-! ## Places -/

/-- A row and a column, counted from the top left. -/
structure Place where
  row : Nat
  column : Nat
  deriving DecidableEq, Repr

/-- The place of a cell, where cells are counted from left to right and then row by row. -/
def Place.ofCell (columns cell : Nat) : Place := ⟨cell / columns, cell % columns⟩

/-- Next to each other in a row or in a column. -/
def Place.Adjacent (p q : Place) : Prop :=
  (p.row = q.row ∧ (p.column + 1 = q.column ∨ q.column + 1 = p.column)) ∨
    (p.column = q.column ∧ (p.row + 1 = q.row ∨ q.row + 1 = p.row))

instance (p q : Place) : Decidable (p.Adjacent q) := inferInstanceAs (Decidable (_ ∨ _))

namespace Grid

/-- The place of a node with the given weight. -/
def place (g : Grid) (weight : Int) : Place := .ofCell g.columns (-weight).toNat

/-- Nodes that follow each other in the chain are next to each other on the grid. -/
def Unbroken (g : Grid) : Prop :=
  ∀ i (h : i + 1 < g.weights.length), (g.place g.weights[i]).Adjacent (g.place g.weights[i + 1])

end Grid

/-! ## Rows -/

section
variable {count columns : Nat} (hc : 0 < columns)
include hc

theorem rowsFor_eq_iff {rows : Nat} :
    rowsFor count columns = rows ↔ count ≤ rows * columns ∧ rows * columns < count + columns := by
  rw [rowsFor, Nat.div_eq_iff hc]
  have hsucc : (rows + 1) * columns = rows * columns + columns := Nat.succ_mul rows columns
  omega

theorem rowsFor_bounds : count ≤ rowsFor count columns * columns ∧
    rowsFor count columns * columns < count + columns :=
  (rowsFor_eq_iff hc).mp rfl

theorem rowsFor_pos (h : 0 < count) : 0 < rowsFor count columns :=
  Nat.div_pos (by omega) hc

/-- If the last row is not full, there are nodes behind a number of rows exactly if so many
rows are full. -/
theorem mul_lt_iff_of_not_dvd (h : ¬ columns ∣ count) {rows : Nat} :
    rows * columns < count ↔ rows ≤ count / columns := by
  have hne : rows * columns ≠ count := fun heq => h (heq ▸ Nat.dvd_mul_left columns rows)
  rw [Nat.le_div_iff_mul_le hc]
  omega

theorem rowsFor_of_not_dvd (h : ¬ columns ∣ count) :
    rowsFor count columns = count / columns + 1 := by
  have hlast : count / columns * columns < count := (mul_lt_iff_of_not_dvd hc h).mpr le_rfl
  have hnext : ¬ (count / columns + 1) * columns < count := by
    rw [mul_lt_iff_of_not_dvd hc h]
    omega
  have hsucc : (count / columns + 1) * columns = count / columns * columns + columns :=
    Nat.succ_mul _ _
  rw [rowsFor_eq_iff hc]
  omega

/-! ## One step of the path -/

theorem ofCell_eq {row column : Nat} (h : column < columns) :
    Place.ofCell columns (row * columns + column) = ⟨row, column⟩ := by
  obtain ⟨hdiv, hmod⟩ := (Nat.div_mod_unique hc).mpr
    ⟨(by rw [Nat.mul_comm, Nat.add_comm] : column + columns * row = row * columns + column), h⟩
  rw [Place.ofCell, hdiv, hmod]

theorem div_eq_row {row column : Nat} (h : column < columns) :
    (row * columns + column) / columns = row :=
  congrArg Place.row (ofCell_eq hc h)

/-- Even rows run from left to right. -/
theorem ofCell_cell_even {row column : Nat} (heven : row % 2 = 0) (h : column < columns) :
    Place.ofCell columns (cell count columns (row * columns + column)) = ⟨row, column⟩ := by
  rw [cell, div_eq_row hc h, if_pos heven, ofCell_eq hc h]

/-- Odd rows run backwards, as far as they are filled. -/
theorem ofCell_cell_odd {row column : Nat} (hodd : row % 2 = 1) (h : column < columns) :
    Place.ofCell columns (cell count columns (row * columns + column)) =
      ⟨row, min columns (count - row * columns) - 1 - column⟩ := by
  have hback : min columns (count - row * columns) - 1 - column < columns := by omega
  rw [cell, div_eq_row hc h, if_neg (by omega), Nat.add_sub_cancel_left, ofCell_eq hc hback]

/-- Within a row the path goes on to the next column. -/
theorem adjacent_in_row {row column : Nat} (h : column + 1 < columns)
    (hcount : row * columns + column + 1 < count) :
    (Place.ofCell columns (cell count columns (row * columns + column))).Adjacent
      (Place.ofCell columns (cell count columns (row * columns + (column + 1)))) := by
  rcases Nat.mod_two_eq_zero_or_one row with heven | hodd
  · rw [ofCell_cell_even hc heven (by omega), ofCell_cell_even hc heven h]
    exact .inl ⟨rfl, .inl rfl⟩
  · rw [ofCell_cell_odd hc hodd (by omega), ofCell_cell_odd hc hodd h]
    refine .inl ⟨rfl, .inr ?_⟩
    simp only
    omega

/-- From the end of a row the path goes straight down, except into an odd row that is not
full. -/
theorem adjacent_to_row_iff {row : Nat} (hcount : (row + 1) * columns < count) :
    (Place.ofCell columns (cell count columns (row * columns + (columns - 1)))).Adjacent
      (Place.ofCell columns (cell count columns ((row + 1) * columns + 0))) ↔
    row % 2 = 1 ∨ (row + 2) * columns ≤ count := by
  have hlast : columns - 1 < columns := by omega
  have hnext : (row + 1) * columns = row * columns + columns := Nat.succ_mul _ _
  have hafter : (row + 2) * columns = (row + 1) * columns + columns := Nat.succ_mul _ _
  rcases Nat.mod_two_eq_zero_or_one row with heven | hodd
  · rw [ofCell_cell_even hc heven hlast, ofCell_cell_odd hc (by omega) hc]
    simp only [Place.Adjacent, true_or, and_true]
    omega
  · rw [ofCell_cell_odd hc hodd hlast, ofCell_cell_even hc (by omega) hc]
    simp only [Place.Adjacent, true_or, and_true]
    omega

/-! ## The whole path -/

/-- The path is broken exactly where an odd row follows that is not full. -/
theorem forall_adjacent_iff :
    (∀ i, i + 1 < count → (Place.ofCell columns (cell count columns i)).Adjacent
      (Place.ofCell columns (cell count columns (i + 1)))) ↔
    ∀ row, row % 2 = 0 → (row + 1) * columns < count → (row + 2) * columns ≤ count := by
  constructor
  · intro hpath row heven hcount
    have hnext : (row + 1) * columns = row * columns + columns := Nat.succ_mul _ _
    have hend : row * columns + (columns - 1) + 1 = (row + 1) * columns + 0 := by omega
    have hstep := hpath (row * columns + (columns - 1)) (by omega)
    rw [hend, adjacent_to_row_iff hc hcount] at hstep
    omega
  · intro hrows i hi
    have hsplit : i / columns * columns + i % columns = i := Nat.div_add_mod' _ _
    have hlt : i % columns < columns := Nat.mod_lt _ hc
    generalize i / columns = row at hsplit
    generalize i % columns = column at hsplit hlt
    subst hsplit
    by_cases hend : column + 1 < columns
    · exact adjacent_in_row hc hend hi
    · obtain rfl : column = columns - 1 := by omega
      have hnext : (row + 1) * columns = row * columns + columns := Nat.succ_mul _ _
      have hturn : row * columns + (columns - 1) + 1 = (row + 1) * columns + 0 := by omega
      have hcount : (row + 1) * columns < count := by omega
      rw [hturn, adjacent_to_row_iff hc hcount]
      rcases Nat.mod_two_eq_zero_or_one row with heven | hodd
      · exact .inr (hrows row heven hcount)
      · exact .inl hodd

/-- The row that is not full, if there is one, is the last. -/
theorem rows_full_iff :
    (∀ row, row % 2 = 0 → (row + 1) * columns < count → (row + 2) * columns ≤ count) ↔
      columns ∣ count ∨ rowsFor count columns % 2 = 1 := by
  by_cases hdvd : columns ∣ count
  · obtain ⟨rows, rfl⟩ := hdvd
    simp only [Nat.dvd_mul_right, true_or, iff_true]
    intro row _ hcount
    rw [Nat.mul_comm columns rows] at hcount ⊢
    exact Nat.mul_le_mul_right _ (Nat.lt_of_mul_lt_mul_right hcount)
  · simp only [mul_lt_iff_of_not_dvd hc hdvd, ← Nat.le_div_iff_mul_le hc,
      rowsFor_of_not_dvd hc hdvd, hdvd, false_or]
    generalize count / columns = full
    constructor
    · intro hfull
      by_contra heven
      have hlast := hfull (full - 1) (by omega) (by omega)
      omega
    · intro hodd row heven hcount
      omega

end

/-! ## The grid of a chain -/

theorem startColumns_pos (count : Nat) : 0 < startColumns count := by
  unfold startColumns
  split
  · decide
  · split <;> decide

/-- Either the first choice of columns stays, with an odd number of rows, or of two or more rows
one is given up. -/
theorem gridShape_cases {count : Nat} (h : 0 < count) :
    let columns := startColumns count
    let rows := rowsFor count columns
    (gridShape count = (columns, rows) ∧ rows % 2 = 1) ∨
      ∃ fewer, rows = fewer + 1 ∧ fewer % 2 = 1 ∧
        gridShape count = (rowsFor count fewer, fewer) := by
  have hrows : 0 < rowsFor count (startColumns count) := rowsFor_pos (startColumns_pos count) h
  simp only [gridShape]
  generalize rowsFor count (startColumns count) = rows at hrows
  obtain ⟨fewer, rfl⟩ := Nat.exists_eq_succ_of_ne_zero (Nat.ne_of_gt hrows)
  split
  · exact .inr ⟨fewer, rfl, by omega, rfl⟩
  · exact .inl ⟨rfl, by omega⟩

theorem gridShape_columns_pos {count : Nat} (h : 0 < count) : 0 < (gridShape count).1 := by
  rcases gridShape_cases h with ⟨hshape, _⟩ | ⟨fewer, _, hodd, hshape⟩
  · rw [hshape]
    exact startColumns_pos count
  · rw [hshape]
    exact rowsFor_pos (by omega) h

/-- Of more than a hundred nodes, ten or eleven stand in a row. -/
theorem gridShape_columns_of_large {count : Nat} (h : 100 < count) :
    (gridShape count).1 = if rowsFor count 10 % 2 = 0 then 11 else 10 := by
  have hstart : startColumns count = 10 := by
    rw [startColumns, if_neg (by omega), if_neg (by omega)]
  have hcases := gridShape_cases (Nat.zero_lt_of_lt h)
  rw [hstart] at hcases
  rcases hcases with ⟨hshape, hodd⟩ | ⟨fewer, hrows, hodd, hshape⟩
  · rw [hshape, if_neg (by omega)]
  · have hbounds : count ≤ rowsFor count 10 * 10 ∧ rowsFor count 10 * 10 < count + 10 :=
      rowsFor_bounds (by omega)
    rw [hrows] at hbounds
    rw [hshape, if_pos (by omega), rowsFor_eq_iff (by omega)]
    omega

theorem snakeWeights_length (count columns : Nat) :
    (snakeWeights count columns).length = count := by
  simp [snakeWeights]

theorem gridFor_place {count : Nat} (h : 0 < count) {i : Nat}
    (hi : i < (gridFor count).weights.length) :
    (gridFor count).place (gridFor count).weights[i] =
      .ofCell (gridFor count).columns (cell count (gridFor count).columns i) := by
  have hpos : max (gridShape count).1 1 = (gridShape count).1 :=
    Nat.max_eq_left (gridShape_columns_pos h)
  simp [Grid.place, gridFor, snakeWeights, hpos]

theorem gridFor_unbroken_iff {count : Nat} (h : 0 < count) :
    (gridFor count).Unbroken ↔
      (gridFor count).columns ∣ count ∨ rowsFor count (gridFor count).columns % 2 = 1 := by
  have hlen : (gridFor count).weights.length = count := snakeWeights_length count _
  have hcolumns : 0 < (gridFor count).columns := gridShape_columns_pos h
  rw [← rows_full_iff hcolumns, ← forall_adjacent_iff hcolumns]
  constructor
  · intro hpath i hi
    have hstep := hpath i (by omega)
    rwa [gridFor_place h, gridFor_place h] at hstep
  · intro hpath i hi
    rw [gridFor_place h, gridFor_place h]
    exact hpath i (by omega)

/-- Up to 130 nodes, the rows that are filled are an odd number, or full. -/
theorem rows_of_small : ∀ count < 131, gridThreshold ≤ count →
    (gridShape count).1 ∣ count ∨ rowsFor count (gridShape count).1 % 2 = 1 := by
  decide +kernel

/-- The path of a long pipeline through its grid is unbroken exactly if its last row is full or
an odd number of rows is filled. Up to 130 nodes that is always so. More nodes miss it
exactly if they fill an even number of rows of ten, an even number of rows of eleven, and
do not fill the last row of eleven. -/
theorem choose_unbroken_iff (count : Nat) (h : gridThreshold ≤ count) (o : Orientation) :
    ∃ g, choose .pipeline count o = .grid g ∧ g.weights.length = count ∧
      (g.Unbroken ↔ g.columns ∣ count ∨ rowsFor count g.columns % 2 = 1) ∧
      (g.Unbroken ↔ count ≤ 130 ∨ rowsFor count 10 % 2 = 1 ∨ rowsFor count 11 % 2 = 1 ∨
        11 ∣ count) := by
  have hcount : 0 < count := Nat.lt_of_lt_of_le (by decide) h
  have hunbroken := gridFor_unbroken_iff hcount
  have hgrid : choose .pipeline count o = .grid (gridFor count) := by
    rw [choose, if_neg]
    simpa using h
  refine ⟨gridFor count, hgrid, snakeWeights_length count _, hunbroken, ?_⟩
  rw [hunbroken]
  change (gridShape count).1 ∣ count ∨ rowsFor count (gridShape count).1 % 2 = 1 ↔ _
  by_cases hsmall : count ≤ 130
  · have hrows := rows_of_small count (by omega) h
    simp only [hrows, hsmall, true_or]
  · rw [gridShape_columns_of_large (by omega)]
    by_cases heven : rowsFor count 10 % 2 = 0
    · rw [if_pos heven]
      omega
    · rw [if_neg heven]
      omega

theorem choose_120_unbroken :
    gridThreshold ≤ 120 ∧
      ∃ g, choose .pipeline 120 .horizontal = .grid g ∧ g.weights.length = 120 ∧ g.Unbroken := by
  obtain ⟨g, hgrid, hlen, _, hclosed⟩ := choose_unbroken_iff 120 (by decide) .horizontal
  exact ⟨by decide, g, hgrid, hlen, hclosed.mpr (.inl (by decide))⟩

/-- The path of 131 nodes is broken: twelve of the thirteen rows hold them all, and the last one
is one node short. -/
theorem choose_131_not_unbroken :
    ∃ g, choose .pipeline 131 .horizontal = .grid g ∧ ¬ g.Unbroken := by
  refine ⟨gridFor 131, rfl, ?_⟩
  intro hpath
  have hlen : (gridFor 131).weights.length = 131 := snakeWeights_length 131 _
  have hstep := hpath 120 (by omega)
  rw [gridFor_place (by decide), gridFor_place (by decide)] at hstep
  exact absurd hstep (by decide +kernel)

end TaskGraph.Layout
