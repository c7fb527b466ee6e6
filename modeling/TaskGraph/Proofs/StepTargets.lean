-- SUMMARY: What a single zoom step leads to, and the percentages from where it fails.
import Mathlib.Order.Bounds.Basic
import TaskGraph.Proofs.ZoomSteps

/-!
# Targets of zoom steps

Stepping leads to the neighbouring multiples of the step, whether the zoom is at a multiple or
between two, and whatever its sign is. This takes sums of 64-bit numbers, and so it fails where one
of the multiples is beyond their range. An infinite zoom counts as an end of the range, and from
there every step outwards fails.
-/
namespace TaskGraph.Zoom

/-! ## Neighbouring multiples -/

section
variable {s : Int}

/-- Two multiples are not closer than the step. -/
theorem le_of_dvd_of_sub_lt {a b : Int} (ha : s ∣ a) (hb : s ∣ b) (h : a - s < b) : a ≤ b := by
  have hle : s ≤ b - (a - s) :=
    Int.le_of_dvd (by omega) (Int.dvd_sub hb (Int.dvd_sub ha (Int.dvd_refl s)))
  omega

variable (hs : 0 < s) (z : Int)
include hs

theorem isLeast_multipleAbove : IsLeast {m : Int | s ∣ m ∧ z < m} (multipleAbove s z) := by
  obtain ⟨hless, hle⟩ := multipleAbove_bounds (z := z) hs
  refine ⟨⟨dvd_multipleAbove, hless⟩, ?_⟩
  rintro m ⟨hdvd, hm⟩
  exact le_of_dvd_of_sub_lt dvd_multipleAbove hdvd (by omega)

theorem isGreatest_multipleBelow : IsGreatest {m : Int | s ∣ m ∧ m < z} (multipleBelow s z) := by
  obtain ⟨hle, hless⟩ := multipleBelow_bounds (z := z) hs
  refine ⟨⟨dvd_multipleBelow hs, hless⟩, ?_⟩
  rintro m ⟨hdvd, hm⟩
  exact le_of_dvd_of_sub_lt hdvd (dvd_multipleBelow hs) (by omega)

end

/-- From any percentage that leaves room for a step, stepping in zooms to the next multiple of the
step above it, or to the greatest zoom if that is less, and stepping out to the next multiple below
it, or to the least zoom if that is more. Neither step fails. The range can be any, also one that
is empty. -/
theorem steps_to_neighbours {range : ZoomRange} (hstep : 0 < range.step.toNat) {z : Int64}
    (hz : z.toInt.natAbs ≤ 2 ^ 62) :
    ∃ (above below : Int) (next last : Int64),
      IsLeast {m : Int | (range.step.toNat : Int) ∣ m ∧ z.toInt < m} above ∧
      IsGreatest {m : Int | (range.step.toNat : Int) ∣ m ∧ m < z.toInt} below ∧
      Direction.up.step? range z = some next ∧ next.toInt = min above range.max.toNat ∧
      Direction.down.step? range z = some last ∧ last.toInt = max below range.min.toNat ∧
      ∀ {σ : Type} [Canvas σ] (t : ZoomTool (RecordedCanvas σ)), t.range = range → t.percent = z →
        (∃ u center outline, t.act? .stepIn = some u ∧ u.canvas.sent = t.canvas.sent ++
          [.zoomTo (ofInt64 next / 100) center, .styleOutline outline]) ∧
        ∃ u center outline, t.act? .stepOut = some u ∧ u.canvas.sent = t.canvas.sent ++
          [.zoomTo (ofInt64 last / 100) center, .styleOutline outline] := by
  have hs : 0 < (range.step.toNat : Int) := Int.natCast_pos.mpr hstep
  have hfits (d : Direction) : d.Fits range.step z :=
    Direction.fits_of_natAbs_le range.step d (by omega)
  obtain ⟨next, hup, _⟩ := Direction.exists_step range (hfits .up)
  obtain ⟨last, hdown, _⟩ := Direction.exists_step range (hfits .down)
  refine ⟨_, _, next, last, isLeast_multipleAbove hs z.toInt, isGreatest_multipleBelow hs z.toInt,
    hup, Direction.toInt_of_step_up hstep hup, hdown, Direction.toInt_of_step_down hstep hdown, ?_⟩
  rintro σ _ t rfl rfl
  exact ⟨ZoomTool.act?_sent hup, ZoomTool.act?_sent hdown⟩

/-- A canvas that reports a zoom below zero. -/
def mirroredTool : ZoomTool (RecordedCanvas ZoomTool.ObedientCanvas) where
  canvas := { canvas := { zoom := -0.05 } }
  range := {}
  outlineWidth := 2

theorem steps_to_neighbours_mirrored :
    0 < mirroredTool.range.step.toNat ∧ mirroredTool.percent = -5 ∧
      ∃ next last : Int64, Direction.up.step? {} (-5) = some next ∧ next.toInt = 0 ∧
        Direction.down.step? {} (-5) = some last ∧ last.toInt = 20 ∧
        ∃ u center outline, mirroredTool.act? .stepOut = some u ∧
          u.canvas.sent = [.zoomTo (ofInt64 last / 100) center, .styleOutline outline] := by
  have hpercent : mirroredTool.percent = -5 := by decide +kernel
  have hstep : 0 < mirroredTool.range.step.toNat := by decide
  obtain ⟨above, below, next, last, habove, hbelow, hup, hnext, hdown, hlast, hact⟩ :=
    steps_to_neighbours hstep (z := -5) (by decide)
  have hten : (mirroredTool.range.step.toNat : Int) = 10 := rfl
  have hfive : (-5 : Int64).toInt = -5 := rfl
  rw [hten, hfive] at habove hbelow
  obtain rfl : above = 0 := habove.unique ⟨by decide, fun m ⟨hdvd, hm⟩ => by omega⟩
  obtain rfl : below = -10 := hbelow.unique ⟨by decide, fun m ⟨hdvd, hm⟩ => by omega⟩
  exact ⟨hstep, hpercent, next, last, hup, hnext, hdown, hlast, (hact mirroredTool rfl hpercent).2⟩

/-! ## Steps that fail -/

namespace Direction

/-- Where a direction ends among the 64-bit numbers. -/
def wordEnd : Direction → Int64
  | up => .maxValue
  | down => .minValue

theorem not_fits_wordEnd {step : UInt32} (hstep : 0 < step.toNat) (d : Direction) :
    ¬ d.Fits step d.wordEnd := by
  obtain ⟨hle, hless⟩ := multipleUpTo_bounds step d.wordEnd
  intro h
  cases d with
  | up =>
    have hend : up.wordEnd.toInt = 2 ^ 63 - 1 := Int64.toInt_maxValue
    have hmax := h.2
    omega
  | down =>
    have hend : down.wordEnd.toInt = -2 ^ 63 := Int64.toInt_minValue
    have hmin : -2 ^ 63 ≤ multipleUpTo step down.wordEnd - step.toNat := h
    omega

end Direction

/-- A step of the tool fails exactly if one of the multiples that it is made of is no 64-bit number,
and where it does not fail it leads to where the sums of integers lead. From no percentage well
inside of 64 bits does it fail, whatever the range is. From where an infinite zoom ends up, a step
outwards always fails. -/
theorem step_fails_iff (d : Direction) (range : ZoomRange) (z : Int64) :
    (d.step? range z = none ↔ ¬ d.Fits range.step z) ∧
      (∀ w, d.step? range z = some w → w.toInt = d.target range z) ∧
      (∀ {σ : Type} [Canvas σ] (t : ZoomTool σ), t.range = range → t.percent = z →
        (t.act? d.action = none ↔ ¬ d.Fits range.step z)) ∧
      (z.toInt.natAbs ≤ 2 ^ 63 - 2 ^ 33 → d.Fits range.step z) ∧
      (0 < range.step.toNat → z = d.wordEnd → ¬ d.Fits range.step z) := by
  refine ⟨Direction.step?_eq_none_iff, ?_, ?_, Direction.fits_of_natAbs_le range.step d, ?_⟩
  · intro w hw
    exact (Direction.step?_eq_some_iff.mp hw).2
  · rintro σ _ t rfl rfl
    rw [t.act?_action, Option.map_eq_none_iff, Direction.step?_eq_none_iff]
  · rintro hstep rfl
    exact Direction.not_fits_wordEnd hstep d

/-- A range with the longest step. -/
def longRange : ZoomRange := { step := 4294967295 }

theorem step_fails_iff_long :
    (Int64.ofInt (-2 ^ 62)).toInt.natAbs ≤ 2 ^ 63 - 2 ^ 33 ∧ 0 < longRange.step.toNat ∧
      Direction.down.step? longRange (.ofInt (-2 ^ 62)) ≠ none ∧
      Direction.down.step? longRange .minValue = none := by
  have hz : (Int64.ofInt (-2 ^ 62)).toInt.natAbs ≤ 2 ^ 63 - 2 ^ 33 := by decide
  have hstep : 0 < longRange.step.toNat := by decide
  obtain ⟨hinside, _, _, hfits, _⟩ := step_fails_iff .down longRange (.ofInt (-2 ^ 62))
  obtain ⟨hend, _, _, _, hnot⟩ := step_fails_iff .down longRange .minValue
  exact ⟨hz, hstep, fun h => hinside.mp h (hfits hz), hend.mpr (hnot hstep rfl)⟩

/-- A canvas that reports an infinite zoom. -/
def boundlessTool : ZoomTool (RecordedCanvas ZoomTool.ObedientCanvas) where
  canvas := { canvas := { zoom := 1 / 0 } }
  range := {}
  outlineWidth := 2

/-- The multiple below the last 64-bit number is one still, but the next multiple is not. -/
theorem boundless_stepIn_fails :
    boundlessTool.percent = .maxValue ∧
      (snapped? boundlessTool.range.step .maxValue).map Int64.toInt = some 9223372036854775800 ∧
      (snapped? boundlessTool.range.step .maxValue).bind (add? · (wide boundlessTool.range.step)) =
        none ∧
      (boundlessTool.act? .stepIn).isNone := by
  decide +kernel

end TaskGraph.Zoom
