-- SUMMARY: Stepping the zoom in and out: how far it gets with each step, and when it is at a bound.
import Mathlib.Algebra.Order.Floor.Div
import TaskGraph.Proofs.StepSums
import TaskGraph.Zoom.Tool

/-!
# Runs of zoom steps

A step leads to the next multiple of the step in its direction, or to the bound if that is
nearer. Behind the first step the zoom is at a multiple or at the bound, so that every
further one goes its whole length or ends at the bound.
-/
namespace TaskGraph

/-- The percentage is in the range. -/
def ZoomRange.Contains (range : ZoomRange) (z : Int64) : Prop :=
  range.min.toNat ≤ z.toInt ∧ z.toInt ≤ range.max.toNat

instance (range : ZoomRange) (z : Int64) : Decidable (range.Contains z) :=
  inferInstanceAs (Decidable (_ ∧ _))

/-- How many steps are needed to get from one end of the range to the other. -/
def ZoomRange.stepCount (range : ZoomRange) : Nat :=
  (range.max.toNat - range.min.toNat) ⌈/⌉ range.step.toNat

theorem ZoomRange.check_eq_ok_iff {range : ZoomRange} :
    range.check = .ok () ↔ range.min.toNat ≤ range.max.toNat ∧ 0 < range.step.toNat := by
  have hstep : range.step ≠ 0 ↔ 0 < range.step.toNat := by
    rw [Nat.pos_iff_ne_zero, Ne, ← UInt32.toNat_inj]
    rfl
  rw [← hstep, ← UInt32.le_iff_toNat_le]
  by_cases h : range.valid <;> simp_all [check, valid]

namespace Zoom.Direction

def action : Direction → ZoomAction
  | up => .stepIn
  | down => .stepOut

/-! ## Steps in a range -/

/-- The bound that steps lead towards. -/
def bound (range : ZoomRange) : Direction → Nat
  | up => range.max.toNat
  | down => range.min.toNat

/-- How far it is to the bound. -/
def remaining (d : Direction) (range : ZoomRange) (z : Int64) : Nat :=
  (d.bound range - z.toInt).natAbs

/-- The percentage is a multiple of the step or the bound. -/
def Aligned (d : Direction) (range : ZoomRange) (z : Int64) : Prop :=
  (range.step.toNat : Int) ∣ z.toInt ∨ z.toInt = d.bound range

variable {d : Direction} {range : ZoomRange} {z w : Int64}

theorem fits_of_contains (hz : range.Contains z) (d : Direction) : d.Fits range.step z := by
  have hword := range.max.toNat_lt
  obtain ⟨hmin, hmax⟩ := hz
  exact fits_of_natAbs_le range.step d (by omega)

section
variable (hstep : 0 < range.step.toNat)
include hstep

section
variable (h : up.step? range z = some w)
include h

theorem toInt_of_step_up :
    w.toInt = min (multipleAbove range.step.toNat z.toInt) range.max.toNat :=
  (step?_eq_some_iff.mp h).2.trans (target_up hstep)

theorem lt_of_step_up (hz : z.toInt < range.max.toNat) : z.toInt < w.toInt := by
  rw [toInt_of_step_up hstep h]
  exact lt_min (multipleAbove_bounds (Int.natCast_pos.mpr hstep)).1 hz

end

section
variable (h : down.step? range z = some w)
include h

theorem toInt_of_step_down :
    w.toInt = max (multipleBelow range.step.toNat z.toInt) range.min.toNat :=
  (step?_eq_some_iff.mp h).2.trans (target_down hstep)

theorem lt_of_step_down (hz : range.min.toNat < z.toInt) : w.toInt < z.toInt := by
  rw [toInt_of_step_down hstep h]
  exact max_lt (multipleBelow_bounds (Int.natCast_pos.mpr hstep)).2 hz

end

variable (h : d.step? range z = some w)
include h

/-- Any step ends at a multiple or at the bound. -/
theorem aligned_of_step : d.Aligned range w := by
  cases d with
  | up =>
    rw [Aligned, bound, toInt_of_step_up hstep h]
    rcases min_choice (multipleAbove range.step.toNat z.toInt) range.max.toNat with h | h
    · rw [h]
      exact .inl dvd_multipleAbove
    · exact .inr h
  | down =>
    rw [Aligned, bound, toInt_of_step_down hstep h]
    rcases max_choice (multipleBelow range.step.toNat z.toInt) range.min.toNat with h | h
    · rw [h]
      exact .inl (dvd_multipleBelow (Int.natCast_pos.mpr hstep))
    · exact .inr h

variable (hz : range.Contains z)
include hz

theorem contains_of_step : range.Contains w := by
  obtain ⟨hmin, hmax⟩ := hz
  cases d with
  | up =>
    have habove := multipleAbove_bounds (z := z.toInt) (Int.natCast_pos.mpr hstep)
    rw [ZoomRange.Contains, toInt_of_step_up hstep h]
    omega
  | down =>
    have hbelow := multipleBelow_bounds (z := z.toInt) (Int.natCast_pos.mpr hstep)
    rw [ZoomRange.Contains, toInt_of_step_down hstep h]
    omega

/-- No step leads away from its bound. -/
theorem remaining_le_of_step : d.remaining range w ≤ d.remaining range z := by
  obtain ⟨hmin, hmax⟩ := hz
  cases d with
  | up =>
    have habove := multipleAbove_bounds (z := z.toInt) (Int.natCast_pos.mpr hstep)
    rw [remaining, bound, toInt_of_step_up hstep h, remaining, bound]
    omega
  | down =>
    have hbelow := multipleBelow_bounds (z := z.toInt) (Int.natCast_pos.mpr hstep)
    rw [remaining, bound, toInt_of_step_down hstep h, remaining, bound]
    omega

/-- From a multiple a step goes its whole length, unless the bound is nearer. -/
theorem remaining_of_step (haligned : d.Aligned range z) :
    d.remaining range w = d.remaining range z - range.step.toNat := by
  have hle := remaining_le_of_step hstep h hz
  obtain ⟨hmin, hmax⟩ := hz
  rcases haligned with hdvd | hbound
  · cases d with
    | up =>
      rw [remaining, bound, toInt_of_step_up hstep h, remaining, bound, multipleAbove_of_dvd hdvd]
      omega
    | down =>
      rw [remaining, bound, toInt_of_step_down hstep h, remaining, bound, multipleBelow_of_dvd hdvd]
      omega
  · have hzero : d.remaining range z = 0 := by rw [remaining, hbound, Int.sub_self, Int.natAbs_zero]
    omega

end
end Zoom.Direction

/-! ## One step of the tool -/

/-- The canvas can be zoomed to every percentage of a range: it reports that percentage then,
and styling the outline changes nothing about it. The tool cannot see to either; it is the assumed
behaviour of an external canvas. -/
structure Canvas.Reaches (σ : Type) [Canvas σ] (range : ZoomRange) : Prop where
  zoomTo : ∀ (c : σ) (z : Int64) (center : Point), range.Contains z →
    Zoom.percent (Canvas.zoom (Canvas.perform (.zoomTo (Zoom.ofInt64 z / 100) center) c)) = z
  styleOutline : ∀ (c : σ) (o : Outline),
    Zoom.percent (Canvas.zoom (Canvas.perform (.styleOutline o) c)) = Zoom.percent (Canvas.zoom c)

namespace ZoomTool

open Zoom (Direction)

variable {σ : Type} [Canvas σ]

/-- The tool once a step has led to a percentage. -/
def stepped (t : ZoomTool σ) (z : Int64) : ZoomTool σ := (t.zoomTo (Zoom.ofInt64 z)).styleOutline

theorem prepare?_action (t : ZoomTool σ) (d : Direction) :
    t.prepare? d.action =
      (d.step? t.range t.percent).map fun z => (some (Zoom.ofInt64 z), t) := by
  cases d <;> exact Option.map_map ..

theorem act?_action (t : ZoomTool σ) (d : Direction) :
    t.act? d.action = (d.step? t.range t.percent).map t.stepped := by
  rw [act?, prepare?_action]
  cases d.step? t.range t.percent <;> rfl

theorem run?_cons (t : ZoomTool σ) (a : ZoomAction) (as : List ZoomAction) :
    t.run? (a :: as) = (t.act? a).bind (·.run? as) :=
  List.foldlM_cons

/-- The range is valid, the canvas reaches all of it and is zoomed to a percentage of it. -/
structure Ready (t : ZoomTool σ) : Prop where
  step_pos : 0 < t.range.step.toNat
  canvas : Canvas.Reaches σ t.range
  contains : t.range.Contains t.percent

namespace Ready

variable {t : ZoomTool σ} (h : t.Ready)
include h

theorem percent_stepped {z : Int64} (hz : t.range.Contains z) : (t.stepped z).percent = z :=
  (h.canvas.styleOutline _ _).trans (h.canvas.zoomTo _ _ _ hz)

theorem stepped {z : Int64} (hz : t.range.Contains z) : (t.stepped z).Ready where
  step_pos := h.step_pos
  canvas := h.canvas
  contains := (h.percent_stepped hz).symm ▸ hz

/-- No step fails, and it stays in the range. -/
theorem exists_step (d : Direction) : ∃ z, d.step? t.range t.percent = some z ∧
    t.range.Contains z ∧ t.act? d.action = some (t.stepped z) := by
  obtain ⟨z, hz, _⟩ := Direction.exists_step t.range (Direction.fits_of_contains h.contains d)
  exact ⟨z, hz, Direction.contains_of_step h.step_pos hz h.contains, by rw [act?_action, hz]; rfl⟩

/-! ## Many steps in one direction -/

theorem remaining_run (d : Direction) (k : Nat) (haligned : d.Aligned t.range t.percent) :
    ∃ u, t.run? (List.replicate k d.action) = some u ∧
      d.remaining t.range u.percent = d.remaining t.range t.percent - k * t.range.step.toNat := by
  induction k generalizing t with
  | zero => exact ⟨t, rfl, by rw [Nat.zero_mul, Nat.sub_zero]⟩
  | succ k ih =>
    obtain ⟨z, hstep, hz, hact⟩ := h.exists_step d
    have hpercent := h.percent_stepped hz
    have hnext : d.Aligned t.range z := Direction.aligned_of_step h.step_pos hstep
    obtain ⟨u, hrun, hremaining⟩ := ih (h.stepped hz) (by rw [hpercent]; exact hnext)
    rw [hpercent] at hremaining
    refine ⟨u, by rw [List.replicate_succ, run?_cons, hact]; exact hrun, hremaining.trans ?_⟩
    have hfirst := Direction.remaining_of_step h.step_pos hstep h.contains haligned
    rw [Nat.succ_mul, Nat.add_comm (k * _), ← Nat.sub_sub, ← hfirst]
    rfl

/-- The first step may be short. -/
theorem percent_run_bound (d : Direction) {k : Nat} (hk : t.range.stepCount + 1 ≤ k) :
    ∃ u, t.run? (List.replicate k d.action) = some u ∧ u.percent.toInt = d.bound t.range := by
  obtain ⟨k, rfl⟩ : ∃ j, k = j + 1 := ⟨k - 1, by omega⟩
  obtain ⟨z, hstep, hz, hact⟩ := h.exists_step d
  have hpercent := h.percent_stepped hz
  have hlength : t.range.max.toNat - t.range.min.toNat ≤ k * t.range.step.toNat :=
    calc t.range.max.toNat - t.range.min.toNat
      _ ≤ t.range.step.toNat • t.range.stepCount := le_smul_ceilDiv h.step_pos
      _ ≤ k * t.range.step.toNat := by
        rw [smul_eq_mul, Nat.mul_comm]
        exact Nat.mul_le_mul_right _ (by omega)
  have hstart : d.remaining t.range z ≤ t.range.max.toNat - t.range.min.toNat := by
    obtain ⟨hmin, hmax⟩ := hz
    cases d <;> rw [Direction.remaining, Direction.bound] <;> omega
  obtain ⟨u, hrun, hremaining⟩ := (h.stepped hz).remaining_run d k
    (by rw [hpercent]; exact Direction.aligned_of_step h.step_pos hstep)
  rw [hpercent] at hremaining
  refine ⟨u, by rw [List.replicate_succ, run?_cons, hact]; exact hrun, ?_⟩
  have hzero : d.remaining t.range u.percent = 0 := by
    refine hremaining.trans (Nat.sub_eq_zero_of_le ?_)
    exact hstart.trans hlength
  rw [Direction.remaining] at hzero
  omega

end Ready

/-! ## What a canvas is told in a run -/

theorem send_sent (t : ZoomTool (RecordedCanvas σ)) (c : CanvasCommand) :
    (t.send c).canvas.sent = t.canvas.sent ++ [c] :=
  List.reverse_cons

theorem stepped_sent (t : ZoomTool (RecordedCanvas σ)) (z : Int64) :
    ∃ center o, (t.stepped z).canvas.sent = t.canvas.sent ++
      [.zoomTo (Zoom.ofInt64 z / 100) center, .styleOutline o] := by
  rw [stepped, styleOutline, send_sent, zoomTo, send_sent, List.append_assoc]
  exact ⟨_, _, rfl⟩

theorem act?_sent {t : ZoomTool (RecordedCanvas σ)} {d : Direction} {z : Int64}
    (h : d.step? t.range t.percent = some z) :
    ∃ u center o, t.act? d.action = some u ∧ u.canvas.sent = t.canvas.sent ++
      [.zoomTo (Zoom.ofInt64 z / 100) center, .styleOutline o] := by
  obtain ⟨center, o, hsent⟩ := t.stepped_sent z
  exact ⟨_, center, o, by rw [act?_action, h]; rfl, hsent⟩

/-- The command does not zoom to a ratio, unless it is that of a percentage of the range. -/
def TargetsIn (range : ZoomRange) (c : CanvasCommand) : Prop :=
  ∀ ratio center, c = .zoomTo ratio center →
    ∃ z, range.Contains z ∧ ratio = Zoom.ofInt64 z / 100

theorem Ready.run {t : ZoomTool (RecordedCanvas σ)} (h : t.Ready) (ds : List Direction) :
    ∃ u cs, t.run? (ds.map Direction.action) = some u ∧ u.Ready ∧ u.range = t.range ∧
      u.canvas.sent = t.canvas.sent ++ cs ∧ ∀ c ∈ cs, TargetsIn t.range c := by
  induction ds generalizing t with
  | nil => exact ⟨t, [], rfl, h, rfl, (List.append_nil _).symm, by simp⟩
  | cons d ds ih =>
    obtain ⟨z, _, hz, hact⟩ := h.exists_step d
    obtain ⟨center, o, hsent⟩ := t.stepped_sent z
    obtain ⟨u, cs, hrun, hu, hrange, hcs, htargets⟩ := ih (h.stepped hz)
    refine ⟨u, _, by rw [List.map_cons, run?_cons, hact]; exact hrun, hu, hrange,
      hcs.trans (by rw [hsent, List.append_assoc]), ?_⟩
    intro c hc
    simp only [List.cons_append, List.nil_append, List.mem_cons] at hc
    rcases hc with rfl | rfl | hc
    · intro ratio _ heq
      injection heq with hratio _
      exact ⟨z, hz, hratio.symm⟩
    · intro _ _ heq
      cases heq
    · exact htargets c hc

theorem recorded_reaches {range : ZoomRange} (h : Canvas.Reaches σ range) :
    Canvas.Reaches (RecordedCanvas σ) range where
  zoomTo c z center hz := h.zoomTo c.canvas z center hz
  styleOutline c o := h.styleOutline c.canvas o

/-- Steps in a valid range, on a canvas that reaches all of it. None of them fails, and they zoom
to whole percentages of the range only, and so stay in it. A step moves on from wherever it is not
at its bound, and as many steps in one direction as the range is long, and one more, end at the
bound, where all further ones stay. -/
theorem run_steps {t : ZoomTool (RecordedCanvas σ)} (hvalid : t.range.check = .ok ())
    (hcanvas : Canvas.Reaches σ t.range) (hstart : t.range.Contains t.percent)
    (ds : List Direction) :
    ∃ u, t.run? (ds.map Direction.action) = some u ∧
      (∃ cs, u.canvas.sent = t.canvas.sent ++ cs ∧ ∀ c ∈ cs, TargetsIn t.range c) ∧
      t.range.Contains u.percent ∧
      (u.percent.toInt < t.range.max.toNat →
        ∃ w, u.act? .stepIn = some w ∧ u.percent < w.percent) ∧
      (t.range.min.toNat < u.percent.toInt →
        ∃ w, u.act? .stepOut = some w ∧ w.percent < u.percent) ∧
      ∀ k, t.range.stepCount + 1 ≤ k →
        (∃ w, u.run? (List.replicate k .stepIn) = some w ∧
          w.percent.toInt = t.range.max.toNat) ∧
        ∃ w, u.run? (List.replicate k .stepOut) = some w ∧
          w.percent.toInt = t.range.min.toNat := by
  have ht : t.Ready :=
    ⟨(ZoomRange.check_eq_ok_iff.mp hvalid).2, recorded_reaches hcanvas, hstart⟩
  obtain ⟨u, cs, hrun, hu, hrange, hsent, htargets⟩ := ht.run ds
  refine ⟨u, hrun, ⟨cs, hsent, htargets⟩, ?_⟩
  rw [← hrange]
  refine ⟨hu.contains, ?_, ?_, ?_⟩
  · intro hbelow
    obtain ⟨z, hstep, hz, hact⟩ := hu.exists_step .up
    refine ⟨_, hact, ?_⟩
    rw [hu.percent_stepped hz, Int64.lt_iff_toInt_lt]
    exact Direction.lt_of_step_up hu.step_pos hstep hbelow
  · intro habove
    obtain ⟨z, hstep, hz, hact⟩ := hu.exists_step .down
    refine ⟨_, hact, ?_⟩
    rw [hu.percent_stepped hz, Int64.lt_iff_toInt_lt]
    exact Direction.lt_of_step_down hu.step_pos hstep habove
  · intro k hk
    exact ⟨hu.percent_run_bound .up hk, hu.percent_run_bound .down hk⟩

/-- A canvas that takes every zoom as it is told. -/
structure ObedientCanvas where
  zoom : Float
  box : Box := {}

instance : Canvas ObedientCanvas where
  perform
    | .zoomTo ratio _, c => { c with zoom := ratio }
    | _, c => c
  zoom c := c.zoom
  contentBox c := c.box

/-- A range whose ends are no multiples of its step. -/
def oddRange : ZoomRange := { min := 98, max := 103, step := 4 }

theorem obedient_reaches : Canvas.Reaches ObedientCanvas oddRange where
  zoomTo c z center hz := by
    have hall : ∀ n : Fin 6, Zoom.percent (Zoom.ofInt64 (.ofInt (98 + n.val)) / 100) =
        .ofInt (98 + n.val) := by decide +kernel
    obtain ⟨hmin, hmax⟩ : 98 ≤ z.toInt ∧ z.toInt ≤ 103 := hz
    have hz : z = .ofInt (98 + (z.toInt - 98).toNat) := by
      rw [← Int64.toInt_inj, Int64.toInt_ofInt_of_le (by omega) (by omega)]
      omega
    rw [hz]
    exact hall ⟨(z.toInt - 98).toNat, by omega⟩
  styleOutline _ _ := rfl

def oddTool : ZoomTool (RecordedCanvas ObedientCanvas) where
  canvas := { canvas := { zoom := 1.01 } }
  range := oddRange
  outlineWidth := 2

theorem run_steps_odd :
    oddRange.check = .ok () ∧ Canvas.Reaches ObedientCanvas oddRange ∧
      oddTool.percent = 101 ∧ oddRange.stepCount = 2 ∧
      (∃ u, oddTool.run? [.stepIn, .stepIn, .stepIn] = some u ∧ u.percent.toInt = 103) ∧
      ∃ u, oddTool.run? [.stepOut, .stepOut, .stepOut] = some u ∧ u.percent.toInt = 98 := by
  have hstart : oddTool.percent = 101 := by decide +kernel
  have hcount : oddRange.stepCount = 2 := by decide
  obtain ⟨u, hrun, _, _, _, _, hbounds⟩ := run_steps (t := oddTool) (by decide) obedient_reaches
    (by rw [hstart]; decide) []
  obtain rfl := Option.some.inj hrun
  obtain ⟨hin, hout⟩ := hbounds 3 (Nat.succ_le_succ hcount.le)
  exact ⟨by decide, obedient_reaches, hstart, hcount, hin, hout⟩

end ZoomTool
end TaskGraph
