-- SUMMARY: What fitting sends is decided by size, boxes and the least zoom, so that fitting again changes nothing.
import TaskGraph.Proofs.Highlight

/-!
# Fitting

Fitting looks at the size of the viewport, at the boxes and at the least zoom, and not at the zoom
that is in force. On a renderer that keeps the former when it zooms, fits and centers, fitting can
be repeated: it sends the same again, and the zoom stays. Large content is treated alike by both
ways of fitting; they differ in what they do with small content.
-/
namespace TaskGraph

/-- The command zooms, fits or centers. -/
def Command.isMove : Command → Bool
  | .zoomTo _ _ | .center | .fit => true
  | _ => false

namespace Renderer

variable {σ : Type} [Renderer σ]

/-! ## Scenes -/

/-- Some box reaches beyond the viewport at a zoom ratio. -/
def Overflows (r : σ) (ratio : Float) : Prop :=
  ∃ b ∈ boxes r, width r / ratio < b.maxX ∨ height r / ratio < b.maxY

instance (r : σ) (ratio : Float) : Decidable (Overflows r ratio) :=
  inferInstanceAs (Decidable (∃ b ∈ _, _))

/-- The viewports are alike and have the same boxes in them, in any order. The zoom may differ. -/
structure SameScene (r s : σ) : Prop where
  width_eq : width r = width s
  height_eq : height r = height s
  centerPoint_eq : centerPoint r = centerPoint s
  boxes_perm : (boxes r).Perm (boxes s)

namespace SameScene

variable {r s t : σ}

theorem refl (r : σ) : SameScene r r := ⟨rfl, rfl, rfl, .refl _⟩

theorem trans (h : SameScene r s) (h' : SameScene s t) : SameScene r t where
  width_eq := h.width_eq.trans h'.width_eq
  height_eq := h.height_eq.trans h'.height_eq
  centerPoint_eq := h.centerPoint_eq.trans h'.centerPoint_eq
  boxes_perm := h.boxes_perm.trans h'.boxes_perm

theorem overflows_iff (h : SameScene r s) (ratio : Float) :
    Overflows r ratio ↔ Overflows s ratio := by
  simp only [Overflows, h.width_eq, h.height_eq, h.boxes_perm.mem_iff]

end SameScene

/-! ## Renderers that keep the scene -/

/-- Zooming, fitting and centering change neither the size, the middle and the boxes, and
centering does not zoom. -/
structure MovesKeepScene (σ : Type) [Renderer σ] : Prop where
  scene : ∀ (c : Command) (r : σ), c.isMove → SameScene (perform c r) r
  zoom_center : ∀ r : σ, zoom (perform .center r) = zoom r

theorem MovesKeepScene.performAll (h : MovesKeepScene σ) {cs : List Command}
    (hcs : ∀ c ∈ cs, c.isMove) (r : σ) : SameScene (Renderer.performAll cs r) r :=
  performAll_keeps (p := (SameScene · r)) (fun c hc s hs => (h.scene c s (hcs c hc)).trans hs)
    (.refl r)

theorem MovesKeepScene.recorded (h : MovesKeepScene σ) : MovesKeepScene (Recorded σ) where
  scene c r hc :=
    have hscene : SameScene (perform c r.screen) r.screen := h.scene c r.screen hc
    ⟨hscene.width_eq, hscene.height_eq, hscene.centerPoint_eq, hscene.boxes_perm⟩
  zoom_center r := h.zoom_center r.screen

/-- The zoom that the command sets does not depend on the zoom before: it is decided by a part of
the renderer that zooming, fitting and centering leave alone. This is the assumed behaviour of an
external renderer, which zooms to the ratio that it is told, and fits by content and viewport. -/
def SetsZoom (σ : Type) [Renderer σ] (c : Command) : Prop :=
  ∃ (γ : Type) (part : σ → γ), (∀ (d : Command) (r : σ), d.isMove → part (perform d r) = part r) ∧
    ∀ r s : σ, part r = part s → zoom (perform c r) = zoom (perform c s)

namespace SetsZoom

variable {c : Command}

theorem zoom_performAll (h : SetsZoom σ c) (cs : List Command) (hcs : ∀ d ∈ cs, d.isMove)
    (r : σ) : zoom (perform c (performAll cs r)) = zoom (perform c r) := by
  obtain ⟨γ, part, hpart, hzoom⟩ := h
  have hkept : part (performAll cs r) = part r :=
    performAll_keeps (p := (part · = part r))
      (fun d hd s hs => (hpart d s (hcs d hd)).trans hs) rfl
  exact hzoom _ _ hkept

theorem recorded (h : SetsZoom σ c) : SetsZoom (Recorded σ) c := by
  obtain ⟨γ, part, hpart, hzoom⟩ := h
  exact ⟨γ, fun r => part r.screen, fun d r => hpart d r.screen, fun r s => hzoom r.screen s.screen⟩

end SetsZoom
end Renderer

namespace View

open Renderer (performAll performAll_append Overflows SameScene MovesKeepScene SetsZoom)

variable {σ κ : Type} [Renderer σ]

/-! ## What fitting sends -/

/-- The two ways of fitting, by what they do with small content. -/
inductive Fitting where
  | enlarge
  | center
  deriving DecidableEq, Repr

namespace Fitting

def op : Fitting → Op κ
  | enlarge => .fit
  | center => .fitOrCenter

def small : Fitting → Command
  | enlarge => .fit
  | center => .center

/-- What is sent to fit the content, if `least` is the least zoom. -/
inductive Sends (f : Fitting) (r : σ) (least : Float) : List Command → Prop
  /-- The content fits at natural size. -/
  | small (h : ¬ Overflows r 1) : Sends f r least [f.small]
  /-- It fits if it is made smaller. -/
  | large (h : Overflows r 1) (hleast : ¬ Overflows r least) : Sends f r least [.fit]
  /-- It is left to overflow at the least zoom. -/
  | tooLarge (h : Overflows r 1) (hleast : Overflows r least) :
      Sends f r least [.center, .zoomTo least (Renderer.centerPoint r)]

namespace Sends

variable {f g : Fitting} {r s : σ} {least : Float} {cs ds : List Command}

theorem unique (h : f.Sends r least cs) (h' : f.Sends r least ds) : cs = ds := by
  cases h <;> cases h' <;> first | rfl | contradiction

theorem of_sameScene (hscene : SameScene r s) (h : f.Sends r least cs) : f.Sends s least cs := by
  cases h with
  | small h => exact .small (mt (hscene.overflows_iff 1).mpr h)
  | large h hleast =>
    exact .large ((hscene.overflows_iff 1).mp h) (mt (hscene.overflows_iff least).mpr hleast)
  | tooLarge h hleast =>
    rw [hscene.centerPoint_eq]
    exact .tooLarge ((hscene.overflows_iff 1).mp h) ((hscene.overflows_iff least).mp hleast)

/-- The ways of fitting differ for small content only. -/
theorem of_overflows (hlarge : Overflows r 1) (h : f.Sends r least cs) : g.Sends r least cs := by
  cases h with
  | small h => exact absurd hlarge h
  | large h hleast => exact .large h hleast
  | tooLarge h hleast => exact .tooLarge h hleast

theorem isMove (h : f.Sends r least cs) : ∀ c ∈ cs, c.isMove := by
  cases h with
  | small => cases f <;> simp [Fitting.small, Command.isMove]
  | large => simp [Command.isMove]
  | tooLarge => simp [Command.isMove]

/-- Each case ends with the one command in it that sets the zoom, or does not zoom at all. -/
theorem zoom_again (hkeep : MovesKeepScene σ)
    (hzoomTo : ∀ ratio center, SetsZoom σ (.zoomTo ratio center)) (hfit : SetsZoom σ .fit)
    (h : f.Sends r least cs) :
    Renderer.zoom (performAll cs (performAll cs r)) = Renderer.zoom (performAll cs r) := by
  have hfits : Renderer.zoom (performAll [.fit] (performAll [.fit] r)) =
      Renderer.zoom (performAll [.fit] r) :=
    hfit.zoom_performAll [.fit] (by simp [Command.isMove]) r
  cases h with
  | small =>
    cases f with
    | enlarge => exact hfits
    | center => exact hkeep.zoom_center _
  | large => exact hfits
  | tooLarge =>
    have hfirst := (hzoomTo least (Renderer.centerPoint r)).zoom_performAll
      [.center] (by simp [Command.isMove]) r
    have hsecond := (hzoomTo least (Renderer.centerPoint r)).zoom_performAll
      [.center, .zoomTo least (Renderer.centerPoint r), .center]
      (by simp [Command.isMove]) r
    exact hsecond.trans hfirst.symm

end Sends

/-! ## Views -/

variable (f : Fitting) (v : View σ κ)

theorem overflows_iff (ratio : Float) : v.overflows ratio = true ↔ Overflows v.screen ratio := by
  simp [overflows, Overflows]

theorem sends_calls (hkeep : MovesKeepScene σ) :
    f.Sends v.screen v.config.zoom.minRatio (f.op.calls v) := by
  have hcenter : Renderer.centerPoint (Renderer.perform .center v.screen) =
      Renderer.centerPoint v.screen := (hkeep.scene .center v.screen rfl).centerPoint_eq
  by_cases hlarge : Overflows v.screen 1
  · have hcalls : f.op.calls v = v.fitLargeCalls := by
      have hoverflows := (overflows_iff v 1).mpr hlarge
      cases f <;> simp [op, Op.calls, fitCalls, fitOrCenterCalls, hoverflows]
    rw [hcalls, fitLargeCalls, hcenter]
    split
    · rename_i h
      exact .tooLarge hlarge ((overflows_iff v _).mp h)
    · rename_i h
      exact .large hlarge (mt (overflows_iff v _).mpr h)
  · have hcalls : f.op.calls v = [f.small] := by
      have hfits := mt (overflows_iff v 1).mp hlarge
      cases f <;> simp [op, small, Op.calls, fitCalls, fitOrCenterCalls, hfits]
    rw [hcalls]
    exact .small hlarge

theorem calls_eq_of_sameScene (hkeep : MovesKeepScene σ) {v w : View σ κ}
    (hscene : SameScene v.screen w.screen) (hleast : v.config.zoom.min = w.config.zoom.min) :
    f.op.calls v = f.op.calls w := by
  have hv := (f.sends_calls v hkeep).of_sameScene hscene
  have hw := f.sends_calls w hkeep
  simp only [ZoomRange.minRatio, hleast] at hv hw
  exact hv.unique hw

/-! ## Fitting again -/

section
variable (hkeep : MovesKeepScene σ)
include hkeep

theorem calls_apply : f.op.calls (f.op.apply v) = f.op.calls v := by
  refine f.calls_eq_of_sameScene hkeep ?_ (by rw [Op.apply_config])
  rw [Op.apply_screen]
  exact hkeep.performAll (f.sends_calls v hkeep).isMove v.screen

theorem runCalls_replicate (k : Nat) :
    v.runCalls (List.replicate k f.op) = (List.replicate k (f.op.calls v)).flatten := by
  induction k generalizing v with
  | zero => rfl
  | succ k ih =>
    rw [List.replicate_succ, runCalls, ih, f.calls_apply v hkeep, List.replicate_succ,
      List.flatten_cons]

theorem zoom_run_replicate (hzoomTo : ∀ ratio center, SetsZoom σ (.zoomTo ratio center))
    (hfit : SetsZoom σ .fit) (k : Nat) :
    (v.run (List.replicate (k + 1) f.op)).zoom = (f.op.apply v).zoom := by
  induction k generalizing v with
  | zero => rfl
  | succ k ih =>
    have hagain := (f.sends_calls v hkeep).zoom_again hkeep hzoomTo hfit
    rw [List.replicate_succ, run_cons, ih, zoom, zoom, Op.apply_screen, f.calls_apply v hkeep,
      Op.apply_screen, hagain]

end
end Fitting

/-- On a renderer that keeps the scene, fitting sends what the scene and the least zoom decide,
whatever the zoom is and in whatever order the boxes come. Both ways of fitting send the same for
large content. Fitting again sends the same again, and if the commands that zoom set a zoom that
does not depend on the one before, as is assumed of an external renderer, it does not zoom any
further. -/
theorem run_fitting (hkeep : MovesKeepScene σ) (v : View (Recorded σ) κ) (f : Fitting) :
    ∃ cs, f.Sends v.screen v.config.zoom.minRatio cs ∧
      (∀ k, (v.run (List.replicate k f.op)).screen.sent =
        v.screen.sent ++ (List.replicate k cs).flatten) ∧
      (∀ w : View (Recorded σ) κ, SameScene v.screen w.screen →
        v.config.zoom.min = w.config.zoom.min →
        (f.op.apply w).screen.sent = w.screen.sent ++ cs) ∧
      (Overflows v.screen 1 → ∀ g : Fitting,
        (g.op.apply v).screen.sent = v.screen.sent ++ cs) ∧
      ((∀ ratio center, SetsZoom σ (.zoomTo ratio center)) → SetsZoom σ .fit →
        ∀ k, (v.run (List.replicate (k + 1) f.op)).zoom = (f.op.apply v).zoom) := by
  have hsends := f.sends_calls v hkeep.recorded
  refine ⟨f.op.calls v, hsends, ?_, ?_, ?_, ?_⟩
  · intro k
    rw [run_sent, f.runCalls_replicate v hkeep.recorded]
  · intro w hscene hleast
    rw [Op.apply_screen, Renderer.performAll_sent,
      f.calls_eq_of_sameScene hkeep.recorded hscene hleast]
  · intro hlarge g
    have hsame := (g.sends_calls v hkeep.recorded).unique (hsends.of_overflows hlarge)
    rw [Op.apply_screen, Renderer.performAll_sent, hsame]
  · intro hzoomTo hfit k
    exact f.zoom_run_replicate v hkeep.recorded (fun ratio center => (hzoomTo ratio center).recorded)
      hfit.recorded k

/-- A screen with boxes in a row. Fitting makes room for all of them, side by side. -/
structure CrowdedScreen where
  zoom : Float := 1
  size : Extent
  boxes : List Box

namespace CrowdedScreen

def fitted (size : Extent) (boxes : List Box) : Float :=
  size.width / boxes.foldl (fun x b => x + b.width) 0

instance : Renderer CrowdedScreen where
  perform
    | .resize size, r => { r with size }
    | .zoomTo ratio _, r => { r with zoom := ratio }
    | .fit, r => { r with zoom := fitted r.size r.boxes }
    | _, r => r
  zoom r := r.zoom
  width r := r.size.width
  height r := r.size.height
  centerPoint r := { x := r.size.width / 2, y := r.size.height / 2 }
  boxes r := r.boxes
  position? _ _ := none
  toClient _ p := p

theorem movesKeepScene : MovesKeepScene CrowdedScreen where
  scene c r hc := by
    cases c with
    | zoomTo | center | fit => exact ⟨rfl, rfl, rfl, .refl _⟩
    | _ => cases hc
  zoom_center _ := rfl

theorem setsZoom_zoomTo (ratio : Float) (center : Point) :
    SetsZoom CrowdedScreen (.zoomTo ratio center) :=
  ⟨Unit, fun _ => (), fun _ _ _ => rfl, fun _ _ _ => rfl⟩

theorem setsZoom_fit : SetsZoom CrowdedScreen .fit := by
  refine ⟨Extent × List Box, fun r => (r.size, r.boxes), ?_, ?_⟩
  · intro c r hc
    cases c with
    | zoomTo | center | fit => rfl
    | _ => cases hc
  · intro r s h
    obtain ⟨hsize, hboxes⟩ := Prod.mk.inj h
    exact congrArg₂ fitted hsize hboxes

end CrowdedScreen

/-- Two boxes of which one is too large even at the least zoom. -/
def crowdedBoxes : List Box := [.ofCorner 0 0 400 300, .ofCorner 400 0 10 10]

def crowdedView (zoom : Float) (boxes : List Box) : View (Recorded CrowdedScreen) Unit where
  screen := { screen := { zoom, size := { width := 40, height := 30 }, boxes } }
  graph := pair
  layout := .choose .pipeline 2 .horizontal
  config := {}

theorem run_fitting_crowded :
    MovesKeepScene CrowdedScreen ∧
      (∀ ratio center, SetsZoom CrowdedScreen (.zoomTo ratio center)) ∧
      SetsZoom CrowdedScreen .fit ∧
      let v := crowdedView 1 crowdedBoxes
      let w := crowdedView 7 crowdedBoxes.reverse
      let floor : List Command := [.center, .zoomTo 0.2 { x := 20, y := 15 }]
      (v.run [.fit, .fit]).screen.sent = floor ++ floor ∧
      w.fit.screen.sent = floor ∧
      v.fitOrCenter.screen.sent = floor ∧
      (v.run [.fit, .fit, .fit]).zoom = v.fit.zoom := by
  have hlarge : Overflows (crowdedView 1 crowdedBoxes).screen 1 := by decide +kernel
  have hfloor : Fitting.enlarge.Sends (crowdedView 1 crowdedBoxes).screen
      (crowdedView 1 crowdedBoxes).config.zoom.minRatio
      [.center, .zoomTo 0.2 { x := 20, y := 15 }] := by
    have hratio : (crowdedView 1 crowdedBoxes).config.zoom.minRatio = 0.2 := by decide +kernel
    have hwidth : (40 / 2 : Float) = 20 := by decide +kernel
    have hheight : (30 / 2 : Float) = 15 := by decide +kernel
    rw [hratio, ← hwidth, ← hheight]
    exact .tooLarge hlarge (by decide +kernel)
  have hscene : SameScene (crowdedView 1 crowdedBoxes).screen
      (crowdedView 7 crowdedBoxes.reverse).screen :=
    ⟨rfl, rfl, rfl, (List.reverse_perm crowdedBoxes).symm⟩
  obtain ⟨cs, hsends, hagain, hother, hways, hzoom⟩ :=
    run_fitting CrowdedScreen.movesKeepScene (crowdedView 1 crowdedBoxes) .enlarge
  obtain rfl := hsends.unique hfloor
  exact ⟨CrowdedScreen.movesKeepScene, CrowdedScreen.setsZoom_zoomTo, CrowdedScreen.setsZoom_fit,
    hagain 2, hother _ hscene rfl, hways hlarge .center,
    hzoom CrowdedScreen.setsZoom_zoomTo CrowdedScreen.setsZoom_fit 2⟩

end View
end TaskGraph
