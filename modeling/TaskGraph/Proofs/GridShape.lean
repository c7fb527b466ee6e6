-- SUMMARY: The shape of a grid is always defined, has an odd number of rows, and leaves less than a row or a column empty.
import Mathlib.Data.Nat.PSub
import TaskGraph.Proofs.GridPath

/-!
# Shapes of grids

Rounding up twice, first to rows and then, if a row is given up, to wider columns, never
leaves out a node: the cells that stay empty are fewer than one row has, or one column. A row
is given up only if there is another one, so no division is by zero.
-/
namespace TaskGraph.Layout

/-! ## Checked steps -/

/-- `rowsFor`, undefined without columns. -/
def rowsFor? (count columns : Nat) : Option Nat :=
  if columns = 0 then none else some (rowsFor count columns)

/-- `gridShape`, undefined where a step has no result: a division by zero, or a row less than
none. -/
def gridShape? (count : Nat) : Option (Nat × Nat) := do
  let columns := startColumns count
  let rows ← rowsFor? count columns
  if rows > 0 ∧ rows % 2 = 0 then
    let fewer ← rows.ppred
    return (← rowsFor? count fewer, fewer)
  return (columns, rows)

theorem rowsFor?_eq {count columns : Nat} (h : 0 < columns) :
    rowsFor? count columns = some (rowsFor count columns) :=
  if_neg (Nat.ne_of_gt h)

/-- Every step of `gridShape` has a result. -/
theorem gridShape?_eq (count : Nat) : gridShape? count = some (gridShape count) := by
  have hcolumns : 0 < startColumns count := startColumns_pos count
  simp only [gridShape?, gridShape, rowsFor?_eq hcolumns, Option.bind_eq_bind, Option.bind_some]
  generalize rowsFor count (startColumns count) = rows
  split
  · rename_i heven
    obtain ⟨fewer, rfl⟩ : ∃ fewer, rows = fewer + 1 := ⟨rows - 1, by omega⟩
    have hfewer : 0 < fewer := by omega
    simp [rowsFor?_eq hfewer]
  · rfl

/-! ## Rows and columns -/

variable {count : Nat}

/-- With a row given up the columns are at most 14. Only where it is the second row of two could
there be more, and ten columns are not chosen for so few nodes. -/
theorem wider_le {fewer : Nat} (hrows : rowsFor count (startColumns count) = fewer + 1)
    (hodd : fewer % 2 = 1) : rowsFor count fewer ≤ 14 := by
  have hfewer : 0 < fewer := by omega
  have hwide : rowsFor count fewer * fewer < count + fewer := (rowsFor_bounds hfewer).2
  have hnarrow : count ≤ rowsFor count (startColumns count) * startColumns count :=
    (rowsFor_bounds (startColumns_pos count)).1
  rw [hrows] at hnarrow
  by_contra hlarge
  have hcells : 15 * fewer ≤ rowsFor count fewer * fewer :=
    Nat.mul_le_mul_right fewer (by omega)
  unfold startColumns at hrows hnarrow
  split at hnarrow
  · omega
  · split at hnarrow
    · omega
    · have htwo : fewer ≠ 1 := by
        rintro rfl
        omega
      omega

/-- A grid has an odd number of rows, holds all nodes with less than one row or one column to
spare, and is 14 cells wide at most. -/
structure Fits (count columns rows : Nat) : Prop where
  odd : rows % 2 = 1
  holds : count ≤ columns * rows
  spare : columns * rows - count < max columns rows
  columns_pos : 1 ≤ columns
  columns_le : columns ≤ 14

theorem startColumns_le (count : Nat) : startColumns count ≤ 14 := by
  unfold startColumns
  split
  · decide
  · split <;> decide

theorem fits_gridShape (h : 0 < count) : Fits count (gridShape count).1 (gridShape count).2 := by
  have hpos : 0 < (gridShape count).1 := gridShape_columns_pos h
  rcases gridShape_cases h with ⟨hshape, hodd⟩ | ⟨fewer, hrows, hodd, hshape⟩
  · obtain ⟨hholds, hspare⟩ := @rowsFor_bounds count _ (startColumns_pos count)
    rw [Nat.mul_comm] at hholds hspare
    rw [hshape]
    exact ⟨hodd, hholds, by simp only; omega, startColumns_pos count, startColumns_le count⟩
  · have hfewer : 0 < fewer := by omega
    obtain ⟨hholds, hspare⟩ := @rowsFor_bounds count _ hfewer
    rw [hshape] at hpos ⊢
    exact ⟨hodd, hholds, by simp only; omega, hpos, wider_le hrows hodd⟩

/-- The shape of the grid of any chain with a node is computed without dividing by zero or taking
a row from none, and it fits the chain. -/
theorem gridShape_fits (h : 0 < count) :
    ∃ columns rows, gridShape? count = some (columns, rows) ∧
      gridShape count = (columns, rows) ∧ Fits count columns rows :=
  ⟨_, _, gridShape?_eq count, rfl, fits_gridShape h⟩

/-- Forty nodes make the widest grid. -/
theorem gridShape_fits_40 : 0 < 40 ∧ gridShape? 40 = some (14, 3) ∧ Fits 40 14 3 := by
  obtain ⟨columns, rows, hchecked, hshape, hfits⟩ := gridShape_fits (show 0 < 40 by decide)
  have hvalue : gridShape 40 = (14, 3) := by decide
  obtain ⟨rfl, rfl⟩ := Prod.mk.inj (hvalue.symm.trans hshape)
  exact ⟨by decide, hchecked, hfits⟩

end TaskGraph.Layout
