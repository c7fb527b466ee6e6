-- SUMMARY: When a zoom step fails, and where it leads otherwise, in terms of integers.
import Mathlib.Algebra.Order.Ring.Int
import TaskGraph.Zoom.Step

/-!
# Steps as sums of integers

A step fails exactly if one of the multiples that it is made of is no 64-bit number. Where it does
not fail, it leads to where the same sums of integers lead, which for a step that is not zero is
the next multiple in its direction, or the bound.
-/
namespace TaskGraph.Zoom

/-! ## Multiples next to an integer -/

def multipleAbove (s z : Int) : Int := z - z % s + s

def multipleBelow (s z : Int) : Int := if 0 < z % s then z - z % s else z - s

section
variable {s z : Int}

theorem dvd_multipleAbove : s ∣ multipleAbove s z :=
  Int.dvd_add Int.dvd_self_sub_emod (Int.dvd_refl s)

theorem multipleAbove_of_dvd (h : s ∣ z) : multipleAbove s z = z + s := by
  rw [multipleAbove, Int.emod_eq_zero_of_dvd h, Int.sub_zero]

theorem multipleBelow_of_dvd (h : s ∣ z) : multipleBelow s z = z - s := by
  rw [multipleBelow, Int.emod_eq_zero_of_dvd h, if_neg (Int.lt_irrefl 0)]

theorem dvd_multipleBelow (hs : 0 < s) : s ∣ multipleBelow s z := by
  unfold multipleBelow
  split
  · exact Int.dvd_self_sub_emod
  · rename_i h
    have hdvd : s ∣ z := Int.dvd_of_emod_eq_zero (le_antisymm (by omega) (Int.emod_nonneg z hs.ne'))
    exact Int.dvd_sub hdvd (Int.dvd_refl s)

theorem multipleAbove_bounds (hs : 0 < s) : z < multipleAbove s z ∧ multipleAbove s z ≤ z + s := by
  have hnonneg := Int.emod_nonneg z hs.ne'
  have hless := Int.emod_lt_of_pos z hs
  unfold multipleAbove
  omega

theorem multipleBelow_bounds (hs : 0 < s) : z - s ≤ multipleBelow s z ∧ multipleBelow s z < z := by
  have hnonneg := Int.emod_nonneg z hs.ne'
  have hless := Int.emod_lt_of_pos z hs
  unfold multipleBelow
  omega

end

/-! ## Sums of 64-bit numbers -/

theorem inWord_iff {n : Int} : InWord n ↔ -2 ^ 63 ≤ n ∧ n < 2 ^ 63 := by
  rw [InWord, Int64.toInt_minValue, Int64.toInt_maxValue]
  omega

theorem word?_eq_some_iff {n : Int} {w : Int64} : word? n = some w ↔ w.toInt = n := by
  unfold word?
  constructor
  · intro h
    split at h
    · rename_i hword
      obtain rfl := Option.some.inj h
      obtain ⟨hmin, hmax⟩ := inWord_iff.mp hword
      exact Int64.toInt_ofInt_of_le hmin hmax
    · cases h
  · rintro rfl
    rw [if_pos (inWord_iff.mpr ⟨w.le_toInt, w.toInt_lt⟩), Int64.ofInt_toInt]

theorem exists_toInt_eq {n : Int} (hmin : -2 ^ 63 ≤ n) (hmax : n < 2 ^ 63) :
    ∃ w : Int64, w.toInt = n :=
  ⟨.ofInt n, Int64.toInt_ofInt_of_le hmin hmax⟩

theorem toInt_min (a b : Int64) : (min a b).toInt = min a.toInt b.toInt := by
  change (if a ≤ b then a else b).toInt = _
  split
  · rename_i h
    exact (min_eq_left (Int64.le_iff_toInt_le.mp h)).symm
  · rename_i h
    exact (min_eq_right (by rw [Int64.le_iff_toInt_le] at h; omega)).symm

theorem toInt_max (a b : Int64) : (max a b).toInt = max a.toInt b.toInt := by
  change (if a ≤ b then b else a).toInt = _
  split
  · rename_i h
    exact (max_eq_right (Int64.le_iff_toInt_le.mp h)).symm
  · rename_i h
    exact (max_eq_left (by rw [Int64.le_iff_toInt_le] at h; omega)).symm

theorem toInt_wide (n : UInt32) : (wide n).toInt = n.toNat :=
  Int64.toInt_ofNat_of_lt (lt_trans n.toNat_lt (by decide))

theorem toInt_excess (step : UInt32) (z : Int64) :
    (excess step z).toInt = z.toInt % (max step.toNat 1 : Nat) := by
  have hword := step.toNat_lt
  have hpos : (0 : Int) < (max step.toNat 1 : Nat) := Int.natCast_pos.mpr (by omega)
  have hnonneg := Int.emod_nonneg z.toInt hpos.ne'
  have hless := Int.emod_lt_of_pos z.toInt hpos
  exact Int64.toInt_ofInt_of_le (by omega) (by omega)

/-! ## Steps as integers -/

/-- The greatest multiple of the step that is not above a percentage. A step of zero counts as
one here. -/
def multipleUpTo (step : UInt32) (z : Int64) : Int := z.toInt - z.toInt % (max step.toNat 1 : Nat)

/-- The multiple that a step down leads to, unless the bound is nearer. -/
def multipleBefore (step : UInt32) (z : Int64) : Int :=
  if multipleUpTo step z < z.toInt then multipleUpTo step z else multipleUpTo step z - step.toNat

section
variable (step : UInt32) (z : Int64)

theorem multipleUpTo_bounds :
    multipleUpTo step z ≤ z.toInt ∧ z.toInt < multipleUpTo step z + (max step.toNat 1 : Nat) := by
  have hpos : (0 : Int) < (max step.toNat 1 : Nat) := Int.natCast_pos.mpr (by omega)
  have hnonneg := Int.emod_nonneg z.toInt hpos.ne'
  have hless := Int.emod_lt_of_pos z.toInt hpos
  unfold multipleUpTo
  omega

theorem multipleBefore_bounds :
    multipleUpTo step z - step.toNat ≤ multipleBefore step z ∧
      multipleBefore step z ≤ multipleUpTo step z := by
  unfold multipleBefore
  split <;> omega

theorem snapped?_eq : snapped? step z = word? (multipleUpTo step z) := by
  rw [snapped?, sub?, toInt_excess, multipleUpTo]

theorem excess_pos_iff : excess step z > 0 ↔ multipleUpTo step z < z.toInt := by
  rw [gt_iff_lt, Int64.lt_iff_toInt_lt, toInt_excess, Int64.toInt_zero, multipleUpTo]
  omega

end

section
variable {step : UInt32} {z : Int64}

/-- Adding the step again leads back to where it was taken away. -/
theorem add_back_eq_some_iff {below next : Int64}
    (hbelow : below.toInt = multipleUpTo step z - step.toNat) :
    (if excess step z > 0 then add? below (wide step) else some below) = some next ↔
      next.toInt = multipleBefore step z := by
  simp only [excess_pos_iff, multipleBefore]
  split
  · rw [add?, word?_eq_some_iff, toInt_wide, hbelow, Int.sub_add_cancel]
  · rw [Option.some.injEq, ← hbelow, ← Int64.toInt_inj, eq_comm]

variable (hstep : 0 < step.toNat)
include hstep

theorem multipleUpTo_add_eq :
    multipleUpTo step z + step.toNat = multipleAbove step.toNat z.toInt := by
  rw [multipleUpTo, Nat.max_eq_left hstep, multipleAbove]

theorem multipleBefore_eq : multipleBefore step z = multipleBelow step.toNat z.toInt := by
  rw [multipleBefore, multipleUpTo, Nat.max_eq_left hstep, multipleBelow]
  have hnonneg := Int.emod_nonneg z.toInt (Int.natCast_pos.mpr hstep).ne'
  split <;> split <;> omega

end

namespace Direction

/-- The multiples that a step is made of are 64-bit numbers. -/
def Fits (step : UInt32) (z : Int64) : Direction → Prop
  | up => -2 ^ 63 ≤ multipleUpTo step z ∧ multipleUpTo step z + step.toNat < 2 ^ 63
  | down => -2 ^ 63 ≤ multipleUpTo step z - step.toNat

instance (step : UInt32) (z : Int64) : (d : Direction) → Decidable (d.Fits step z)
  | up => inferInstanceAs (Decidable (_ ∧ _))
  | down => inferInstanceAs (Decidable (_ ≤ _))

/-- Where a step leads, as an integer. -/
def target (range : ZoomRange) (z : Int64) : Direction → Int
  | up => min (multipleUpTo range.step z + range.step.toNat) range.max.toNat
  | down => max (multipleBefore range.step z) range.min.toNat

variable {d : Direction} {range : ZoomRange} {z w : Int64}

theorem step?_up_eq_some_iff :
    up.step? range z = some w ↔ up.Fits range.step z ∧ w.toInt = up.target range z := by
  have hz := z.toInt_lt
  have hle := (multipleUpTo_bounds range.step z).1
  simp only [step?, snapped?_eq, add?, Option.bind_eq_bind, Option.bind_eq_some_iff,
    word?_eq_some_iff, toInt_wide, Option.pure_def, Option.some.injEq]
  constructor
  · rintro ⟨snapped, hsnapped, next, hnext, rfl⟩
    have hmin := snapped.le_toInt
    have hmax := next.toInt_lt
    rw [hsnapped] at hmin hnext
    rw [hnext] at hmax
    rw [toInt_min, toInt_wide, hnext]
    exact ⟨⟨hmin, hmax⟩, rfl⟩
  · rintro ⟨⟨hmin, hmax⟩, hw⟩
    obtain ⟨snapped, hsnapped⟩ := exists_toInt_eq hmin (by omega)
    obtain ⟨next, hnext⟩ := exists_toInt_eq (by omega) hmax
    refine ⟨snapped, hsnapped, next, by rw [hsnapped, hnext], ?_⟩
    rw [← Int64.toInt_inj, toInt_min, toInt_wide, hnext, hw, target]

theorem step?_down_eq_some_iff :
    down.step? range z = some w ↔ down.Fits range.step z ∧ w.toInt = down.target range z := by
  have hz := z.toInt_lt
  have hle := (multipleUpTo_bounds range.step z).1
  simp only [step?, snapped?_eq, sub?, Option.bind_eq_bind, Option.bind_eq_some_iff,
    word?_eq_some_iff, toInt_wide, Option.pure_def, Option.some.injEq]
  constructor
  · rintro ⟨snapped, hsnapped, below, hbelow, next, hnext, rfl⟩
    have hmin := below.le_toInt
    rw [hsnapped] at hbelow
    rw [hbelow] at hmin
    rw [toInt_max, toInt_wide, (add_back_eq_some_iff hbelow).mp hnext]
    exact ⟨hmin, rfl⟩
  · rintro ⟨hfits, hw⟩
    have hmin : -2 ^ 63 ≤ multipleUpTo range.step z - range.step.toNat := hfits
    obtain ⟨hlower, hupper⟩ := multipleBefore_bounds range.step z
    obtain ⟨snapped, hsnapped⟩ := exists_toInt_eq (n := multipleUpTo range.step z)
      (by omega) (by omega)
    obtain ⟨below, hbelow⟩ := exists_toInt_eq hmin (by omega)
    obtain ⟨next, hnext⟩ := exists_toInt_eq (n := multipleBefore range.step z)
      (by omega) (by omega)
    refine ⟨snapped, hsnapped, below, by rw [hsnapped, hbelow], next,
      (add_back_eq_some_iff hbelow).mpr hnext, ?_⟩
    rw [← Int64.toInt_inj, toInt_max, toInt_wide, hnext, hw, target]

theorem step?_eq_some_iff :
    d.step? range z = some w ↔ d.Fits range.step z ∧ w.toInt = d.target range z := by
  cases d with
  | up => exact step?_up_eq_some_iff
  | down => exact step?_down_eq_some_iff

theorem target_bounds (range : ZoomRange) (h : d.Fits range.step z) :
    -2 ^ 63 ≤ d.target range z ∧ d.target range z < 2 ^ 63 := by
  have hz := z.toInt_lt
  have hleast := range.min.toNat_lt
  have hgreatest := range.max.toNat_lt
  have hle := (multipleUpTo_bounds range.step z).1
  cases d with
  | up =>
    obtain ⟨hmin, hmax⟩ := h
    simp only [target]
    omega
  | down =>
    have hmin : -2 ^ 63 ≤ multipleUpTo range.step z - range.step.toNat := h
    have hbefore := multipleBefore_bounds range.step z
    simp only [target]
    omega

theorem exists_step (range : ZoomRange) (h : d.Fits range.step z) :
    ∃ w, d.step? range z = some w ∧ w.toInt = d.target range z := by
  obtain ⟨hmin, hmax⟩ := target_bounds range h
  obtain ⟨w, hw⟩ := exists_toInt_eq hmin hmax
  exact ⟨w, step?_eq_some_iff.mpr ⟨h, hw⟩, hw⟩

theorem step?_eq_none_iff : d.step? range z = none ↔ ¬ d.Fits range.step z := by
  rw [Option.eq_none_iff_forall_ne_some]
  constructor
  · intro h hfits
    obtain ⟨w, hw, _⟩ := exists_step range hfits
    exact h w hw
  · intro h w hw
    exact h (step?_eq_some_iff.mp hw).1

/-- No step fails that starts well inside the range of 64-bit numbers. -/
theorem fits_of_natAbs_le (step : UInt32) (d : Direction)
    (hz : z.toInt.natAbs ≤ 2 ^ 63 - 2 ^ 33) : d.Fits step z := by
  have hword := step.toNat_lt
  obtain ⟨hle, hless⟩ := multipleUpTo_bounds step z
  cases d with
  | up => exact ⟨by omega, by omega⟩
  | down =>
    unfold Fits
    omega

theorem target_up (hstep : 0 < range.step.toNat) :
    up.target range z = min (multipleAbove range.step.toNat z.toInt) range.max.toNat := by
  rw [target, multipleUpTo_add_eq hstep]

theorem target_down (hstep : 0 < range.step.toNat) :
    down.target range z = max (multipleBelow range.step.toNat z.toInt) range.min.toNat := by
  rw [target, multipleBefore_eq hstep]

end Direction
end TaskGraph.Zoom
