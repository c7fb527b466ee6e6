-- SUMMARY: The zoom tool of an editor canvas, with a selection outline of constant thickness.
import TaskGraph.Geometry
import TaskGraph.Json.Value
import TaskGraph.Zoom.Step

/-!
# The zoom tool

Each action may zoom the canvas and ends by styling the selection outline for the
zoom that is then in force, unless it is a step that fails.
-/
namespace TaskGraph

/-- The geometry of the selection outline. -/
structure Outline where
  borderWidth : Float
  marginLeft : Float
  marginTop : Float
  deriving Repr

/-- The outline of a border width, drawn around what is selected. -/
def Outline.ofBorder (width : Float) : Outline :=
  { borderWidth := width, marginLeft := -width, marginTop := -width }

inductive CanvasCommand where
  | zoomTo (ratio : Float) (center : Point)
  | zoomToFit
  | centerContent
  | styleOutline (o : Outline)
  deriving Repr

/-- What the zoom tool needs from a canvas. -/
class Canvas (σ : Type) where
  perform : CanvasCommand → σ → σ
  /-- The zoom ratio. -/
  zoom : σ → Float
  contentBox : σ → Box

/-- A canvas together with the commands it was sent, latest first. -/
structure RecordedCanvas (σ : Type) where
  canvas : σ
  log : List CanvasCommand := []

/-- The commands in the order in which they were sent. -/
def RecordedCanvas.sent {σ : Type} (r : RecordedCanvas σ) : List CanvasCommand := r.log.reverse

instance {σ : Type} [Canvas σ] : Canvas (RecordedCanvas σ) where
  perform c r := { canvas := Canvas.perform c r.canvas, log := c :: r.log }
  zoom r := Canvas.zoom r.canvas
  contentBox r := Canvas.contentBox r.canvas

inductive ZoomAction where
  | stepIn
  | stepOut
  /-- Fits the content, but not above its natural size. -/
  | center
  /-- Fits the content to the viewport. -/
  | fit
  /-- Centers the content at its natural size. -/
  | naturalSize
  deriving DecidableEq, Repr

instance : Json.Constant ZoomAction where
  all := [.stepIn, .stepOut, .center, .fit, .naturalSize]
  name
    | .stepIn => "IN"
    | .stepOut => "OUT"
    | .center => "CENTER"
    | .fit => "FIT"
    | .naturalSize => "ORIGINAL"

structure ZoomTool (σ : Type) where
  canvas : σ
  range : ZoomRange
  outlineWidth : Float

namespace ZoomTool

variable {σ : Type} [Canvas σ]

def ofConfig (canvas : σ) (config : Config) : ZoomTool σ :=
  { canvas, range := config.zoom, outlineWidth := config.outlineWidth }

def send (t : ZoomTool σ) (c : CanvasCommand) : ZoomTool σ :=
  { t with canvas := Canvas.perform c t.canvas }

/-- The zoom in percent. -/
def current (t : ZoomTool σ) : Float := Canvas.zoom t.canvas * 100

/-- The nearest number between two bounds; what is not a number stays so. -/
def clamp (lo hi x : Float) : Float :=
  let x := if x < lo then lo else x
  if x > hi then hi else x

/-- The percentage to zoom to once the content is fitted, unless the fitted zoom is within
bounds. If the bounds cross, the lower one wins. -/
def correction? (t : ZoomTool σ) (lo hi : Float) : Option Float :=
  let fitted := Zoom.nearestFloat t.current
  let clamped := clamp lo (if hi < lo then lo else hi) fitted
  if clamped != fitted then some clamped else none

/-- The zoom in whole percent. -/
def percent (t : ZoomTool σ) : Int64 := Zoom.percent (Canvas.zoom t.canvas)

/-- The percentage that a step zooms to. -/
def stepTarget? (t : ZoomTool σ) (d : Zoom.Direction) : Option Float :=
  (d.step? t.range t.percent).map Zoom.ofInt64

/-- What an action does first, and the percentage that it zooms to then, if any. A step that fails
does so here, before anything is sent. -/
def prepare? (t : ZoomTool σ) : ZoomAction → Option (Option Float × ZoomTool σ)
  | .stepIn => (t.stepTarget? .up).map fun percent => (some percent, t)
  | .stepOut => (t.stepTarget? .down).map fun percent => (some percent, t)
  | .center =>
    let t := t.send .zoomToFit
    some (t.correction? t.range.min.toFloat 100, t)
  | .fit =>
    let t := t.send .zoomToFit
    some (t.correction? t.range.min.toFloat t.range.max.toFloat, t)
  | .naturalSize => some (some 100, t.send .centerContent)

/-- Zooms to a percentage about the center of the content. -/
def zoomTo (t : ZoomTool σ) (percent : Float) : ZoomTool σ :=
  t.send (.zoomTo (percent / 100) (Canvas.contentBox t.canvas).center)

/-- Styles the outline for the present zoom. -/
def styleOutline (t : ZoomTool σ) : ZoomTool σ :=
  t.send (.styleOutline (.ofBorder (t.outlineWidth * Canvas.zoom t.canvas)))

/-- The tool after an action. Without one the action has failed. -/
def act? (t : ZoomTool σ) (a : ZoomAction) : Option (ZoomTool σ) := do
  match ← t.prepare? a with
  | (some percent, t) => return (t.zoomTo percent).styleOutline
  | (none, t) => return t.styleOutline

/-- What an action answers: the zoom in percent once it is done. -/
def answer? (t : ZoomTool σ) (a : ZoomAction) : Option Float := (t.act? a).map current

/-- The tool after a run of actions, which ends where one fails. -/
def run? (t : ZoomTool σ) (as : List ZoomAction) : Option (ZoomTool σ) := as.foldlM act? t

end ZoomTool
end TaskGraph
