-- SUMMARY: Every zoom action ends by styling the outline for the zoom that is then in force.
import TaskGraph.Proofs.ZoomSteps

/-!
# The selection outline

An action first fits or centers the content, if it does, and then zooms, if it does. Whichever
way it goes, it ends by styling the outline, and since styling does not zoom, the outline is
that of the zoom with which the action answers.
-/
namespace TaskGraph

/-! ## Kinds of commands -/

namespace CanvasCommand

def isZoomTo : CanvasCommand → Bool
  | .zoomTo _ _ => true
  | _ => false

def isZoomToFit : CanvasCommand → Bool
  | .zoomToFit => true
  | _ => false

def isStyle : CanvasCommand → Bool
  | .styleOutline _ => true
  | _ => false

variable {c : CanvasCommand}

theorem isZoomToFit_of_isZoomTo (h : c.isZoomTo) : c.isZoomToFit = false := by
  cases c with
  | zoomTo ratio center => rfl
  | _ => cases h

theorem isStyle_of_isZoomTo (h : c.isZoomTo) : c.isStyle = false := by
  cases c with
  | zoomTo ratio center => rfl
  | _ => cases h

end CanvasCommand

namespace ZoomAction

/-- The actions that fit the content. -/
def fits : ZoomAction → Bool
  | .center | .fit => true
  | _ => false

/-- What an action sends before it looks at the zoom. -/
def preparation : ZoomAction → List CanvasCommand
  | .stepIn | .stepOut => []
  | .center | .fit => [.zoomToFit]
  | .naturalSize => [.centerContent]

/-- The commands can be those of an action, apart from the outline: there is at most one zoom to
a ratio, and an action that fits the content does so once and first. -/
structure Sends (a : ZoomAction) (cs : List CanvasCommand) : Prop where
  zoomTo_le : cs.countP CanvasCommand.isZoomTo ≤ 1
  plain : ∀ c ∈ cs, c.isStyle = false
  fits_first : a.fits → ∃ rest, cs = .zoomToFit :: rest ∧ ∀ c ∈ rest, c.isZoomToFit = false

end ZoomAction

/-- Styling the outline does not zoom. -/
def Canvas.StylingKeepsZoom (σ : Type) [Canvas σ] : Prop :=
  ∀ (c : σ) (o : Outline), Canvas.zoom (Canvas.perform (.styleOutline o) c) = Canvas.zoom c

namespace ZoomTool

open Zoom (Direction)

variable {σ : Type} [Canvas σ]

/-! ## Settings -/

/-- The tools differ in their canvases at most. -/
structure SameSettings (t u : ZoomTool σ) : Prop where
  range : u.range = t.range
  outlineWidth : u.outlineWidth = t.outlineWidth

omit [Canvas σ] in
theorem SameSettings.refl (t : ZoomTool σ) : t.SameSettings t := ⟨rfl, rfl⟩

omit [Canvas σ] in
theorem SameSettings.trans {t u v : ZoomTool σ} (h : t.SameSettings u) (h' : u.SameSettings v) :
    t.SameSettings v :=
  ⟨h'.range.trans h.range, h'.outlineWidth.trans h.outlineWidth⟩

theorem sameSettings_send (t : ZoomTool σ) (c : CanvasCommand) : t.SameSettings (t.send c) :=
  ⟨rfl, rfl⟩

/-! ## What an action does -/

def sendAll (t : ZoomTool σ) (cs : List CanvasCommand) : ZoomTool σ := cs.foldl send t

theorem sameSettings_sendAll (t : ZoomTool σ) (cs : List CanvasCommand) :
    t.SameSettings (t.sendAll cs) := by
  induction cs generalizing t with
  | nil => exact .refl t
  | cons c cs ih => exact (t.sameSettings_send c).trans (ih (t.send c))

theorem sendAll_sent (t : ZoomTool (RecordedCanvas σ)) (cs : List CanvasCommand) :
    (t.sendAll cs).canvas.sent = t.canvas.sent ++ cs := by
  induction cs generalizing t with
  | nil => exact (List.append_nil _).symm
  | cons c cs ih => exact (ih (t.send c)).trans (by rw [send_sent, List.append_assoc]; rfl)

section
variable (t : ZoomTool σ) (a : ZoomAction)

/-- The zoom to a ratio that an action ends with, if any. -/
def zoomCalls : List CanvasCommand :=
  match t.prepare? a with
  | some (some percent, t) => [.zoomTo (percent / 100) (Canvas.contentBox t.canvas).center]
  | _ => []

/-- What an action sends before it styles the outline. -/
def actCalls : List CanvasCommand := a.preparation ++ t.zoomCalls a

/-- Only steps can fail. -/
theorem prepare?_eq_none_iff :
    t.prepare? a = none ↔ ∃ d : Direction, a = d.action ∧ ¬ d.Fits t.range.step t.percent := by
  have hstep (d : Direction) :
      t.prepare? d.action = none ↔ ¬ d.Fits t.range.step t.percent := by
    rw [prepare?_action, Option.map_eq_none_iff, Direction.step?_eq_none_iff]
  constructor
  · intro h
    cases a with
    | stepIn => exact ⟨.up, rfl, (hstep .up).mp h⟩
    | stepOut => exact ⟨.down, rfl, (hstep .down).mp h⟩
    | center | fit | naturalSize => cases h
  · rintro ⟨d, rfl, h⟩
    exact (hstep d).mpr h

theorem eq_sendAll_of_prepare? {target : Option Float} {u : ZoomTool σ}
    (h : t.prepare? a = some (target, u)) : u = t.sendAll a.preparation := by
  cases a with
  | stepIn | stepOut =>
    obtain ⟨_, _, heq⟩ := Option.map_eq_some_iff.mp h
    exact (congrArg Prod.snd heq).symm
  | center | fit | naturalSize => exact (congrArg Prod.snd (Option.some.inj h)).symm

/-- Both ways through an action end with the outline. -/
theorem act?_eq_map :
    t.act? a = (t.prepare? a).map fun _ => (t.sendAll (t.actCalls a)).styleOutline := by
  unfold act? actCalls zoomCalls
  cases h : t.prepare? a with
  | none => rfl
  | some prepared =>
    obtain ⟨target, u⟩ := prepared
    obtain rfl := t.eq_sendAll_of_prepare? a h
    cases target with
    | none => simp only [List.append_nil]; rfl
    | some percent => simp only [sendAll, List.foldl_append]; rfl

theorem zoomCalls_length_le : (t.zoomCalls a).length ≤ 1 := by
  unfold zoomCalls
  split <;> simp

theorem isZoomTo_of_mem_zoomCalls {c : CanvasCommand} (h : c ∈ t.zoomCalls a) : c.isZoomTo := by
  unfold zoomCalls at h
  split at h
  · rw [List.mem_singleton.mp h]
    rfl
  · cases h

theorem sends_actCalls : a.Sends (t.actCalls a) where
  zoomTo_le := by
    have hprepare : a.preparation.countP CanvasCommand.isZoomTo = 0 := by cases a <;> rfl
    rw [actCalls, List.countP_append, hprepare, Nat.zero_add]
    exact List.countP_le_length.trans (t.zoomCalls_length_le a)
  plain := by
    have hprepare : ∀ c ∈ a.preparation, c.isStyle = false := by
      cases a <;> simp [ZoomAction.preparation, CanvasCommand.isStyle]
    intro c hc
    cases List.mem_append.mp hc with
    | inl h => exact hprepare c h
    | inr h => exact CanvasCommand.isStyle_of_isZoomTo (t.isZoomTo_of_mem_zoomCalls a h)
  fits_first := by
    intro hfits
    have hprepare : a.preparation = [.zoomToFit] := by
      cases a with
      | center | fit => rfl
      | _ => cases hfits
    refine ⟨t.zoomCalls a, by rw [actCalls, hprepare, List.singleton_append], ?_⟩
    intro c hc
    exact CanvasCommand.isZoomToFit_of_isZoomTo (t.isZoomTo_of_mem_zoomCalls a hc)

end

section
variable {t u : ZoomTool σ} {a : ZoomAction}

theorem act?_eq_none_iff :
    t.act? a = none ↔ ∃ d : Direction, a = d.action ∧ ¬ d.Fits t.range.step t.percent := by
  rw [act?_eq_map, Option.map_eq_none_iff, prepare?_eq_none_iff]

theorem eq_styleOutline_of_act? (h : t.act? a = some u) :
    u = (t.sendAll (t.actCalls a)).styleOutline := by
  rw [act?_eq_map] at h
  obtain ⟨_, _, rfl⟩ := Option.map_eq_some_iff.mp h
  rfl

theorem SameSettings.of_act? (h : t.act? a = some u) : t.SameSettings u := by
  rw [eq_styleOutline_of_act? h]
  exact (t.sameSettings_sendAll _).trans (sameSettings_send _ _)

end

/-- The outline has the width that is set for natural size, times the zoom. -/
theorem sent_of_act? (hstyle : Canvas.StylingKeepsZoom σ) {t u : ZoomTool (RecordedCanvas σ)}
    {a : ZoomAction} (h : t.act? a = some u) :
    u.canvas.sent = t.canvas.sent ++ t.actCalls a ++
      [.styleOutline (.ofBorder (t.outlineWidth * Canvas.zoom u.canvas))] := by
  have hzoom : Canvas.zoom u.canvas = Canvas.zoom (t.sendAll (t.actCalls a)).canvas := by
    rw [eq_styleOutline_of_act? h]
    exact hstyle _ _
  rw [hzoom, eq_styleOutline_of_act? h, styleOutline, send_sent, sendAll_sent,
    (t.sameSettings_sendAll _).outlineWidth]

/-! ## Runs -/

theorem SameSettings.of_run? {t u : ZoomTool σ} {as : List ZoomAction} (h : t.run? as = some u) :
    t.SameSettings u := by
  induction as generalizing t with
  | nil =>
    obtain rfl := Option.some.inj h
    exact .refl t
  | cons a as ih =>
    rw [run?_cons] at h
    obtain ⟨v, hact, hrun⟩ := Option.bind_eq_some_iff.mp h
    exact (SameSettings.of_act? hact).trans (ih hrun)

/-- After any run of actions, the next one fails only if it is a step and one of the multiples that
it is made of is no 64-bit number, which does not happen from a percentage well inside of 64 bits.
If it does not fail, it sends at most one zoom to a ratio, fits first if it fits, and at its end
styles the outline for the zoom that is then in force and that it answers with. -/
theorem run_act_outlined (hstyle : Canvas.StylingKeepsZoom σ) (canvas : RecordedCanvas σ)
    (config : Config) {as : List ZoomAction} {t : ZoomTool (RecordedCanvas σ)}
    (hrun : (ofConfig canvas config).run? as = some t) (a : ZoomAction) :
    (t.act? a = none ↔
      ∃ d : Direction, a = d.action ∧ ¬ d.Fits config.zoom.step t.percent) ∧
    (t.percent.toInt.natAbs ≤ 2 ^ 63 - 2 ^ 33 → ∃ u, t.act? a = some u) ∧
    ∀ u, t.act? a = some u →
      let zoom := Canvas.zoom u.canvas
      let border := config.outlineWidth * zoom
      (∃ cs, a.Sends cs ∧ u.canvas.sent = t.canvas.sent ++ cs ++
        [.styleOutline { borderWidth := border, marginLeft := -border, marginTop := -border }]) ∧
      t.answer? a = some (zoom * 100) := by
  obtain ⟨hrange, hwidth⟩ := SameSettings.of_run? hrun
  have hstep : t.range.step = config.zoom.step := congrArg ZoomRange.step hrange
  have hfails := act?_eq_none_iff (t := t) (a := a)
  rw [hstep] at hfails
  refine ⟨hfails, ?_, ?_⟩
  · intro hz
    rw [← Option.ne_none_iff_exists', Ne, hfails]
    rintro ⟨d, _, hnot⟩
    exact hnot (Direction.fits_of_natAbs_le _ d hz)
  · intro u hact zoom border
    refine ⟨⟨t.actCalls a, t.sends_actCalls a, ?_⟩, by rw [answer?, hact]; rfl⟩
    rw [sent_of_act? hstyle hact, hwidth]
    rfl

/-- A canvas on which the content fits at a certain zoom. -/
structure FittedCanvas where
  zoom : Float
  fitted : Float

instance : Canvas FittedCanvas where
  perform
    | .zoomTo ratio _, c => { c with zoom := ratio }
    | .zoomToFit, c => { c with zoom := c.fitted }
    | _, c => c
  zoom c := c.zoom
  contentBox _ := {}

theorem FittedCanvas.stylingKeepsZoom : Canvas.StylingKeepsZoom FittedCanvas := fun _ _ => rfl

/-- The least zoom is above the greatest. -/
def crossedConfig : Config := { zoom := { min := 200, max := 50 } }

def crossedCanvas : RecordedCanvas FittedCanvas := { canvas := { zoom := 1, fitted := 0.3 } }

/-- Fitting is corrected to the lower bound, which wins, and the outline is styled for that. -/
theorem run_act_outlined_crossed :
    Canvas.StylingKeepsZoom FittedCanvas ∧
      ∃ t u, (ofConfig crossedCanvas crossedConfig).run? [.stepIn, .center] = some t ∧
        t.act? .fit = some u ∧ Canvas.zoom u.canvas = 2 ∧ t.answer? .fit = some 200 ∧
        ∃ cs, ZoomAction.fit.Sends cs ∧ u.canvas.sent = t.canvas.sent ++ cs ++
          [.styleOutline { borderWidth := 4, marginLeft := -4, marginTop := -4 }] := by
  have hcompletes : (((ofConfig crossedCanvas crossedConfig).run? [.stepIn, .center]).bind
      (·.act? .fit)).map (Canvas.zoom ·.canvas) = some 2 := by decide +kernel
  obtain ⟨u, hu, hzoom⟩ := Option.map_eq_some_iff.mp hcompletes
  obtain ⟨t, hrun, hact⟩ := Option.bind_eq_some_iff.mp hu
  obtain ⟨_, _, hdone⟩ := run_act_outlined FittedCanvas.stylingKeepsZoom crossedCanvas crossedConfig
    hrun .fit
  obtain ⟨hsent, hanswer⟩ := hdone u hact
  have hborder : crossedConfig.outlineWidth * 2 = 4 := by decide +kernel
  have hpercent : (2 * 100 : Float) = 200 := by decide +kernel
  simp only [hzoom, hborder] at hsent
  rw [hzoom, hpercent] at hanswer
  exact ⟨FittedCanvas.stylingKeepsZoom, t, u, hrun, hact, hzoom, hanswer, hsent⟩

/-- A canvas that reports the least zoom of all. -/
def bottomCanvas : RecordedCanvas FittedCanvas := { canvas := { zoom := -1 / 0, fitted := 1 } }

/-- The step out ends without an outline. -/
theorem bottom_stepOut_unoutlined :
    Canvas.StylingKeepsZoom FittedCanvas ∧
      (ofConfig bottomCanvas {}).percent = .minValue ∧
      ((ofConfig bottomCanvas {}).act? .stepOut).isNone :=
  ⟨FittedCanvas.stylingKeepsZoom, by decide +kernel, by decide +kernel⟩

end ZoomTool
end TaskGraph
