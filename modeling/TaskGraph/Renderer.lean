-- SUMMARY: What a view asks of a renderer, and a renderer that keeps a record of it.
import TaskGraph.Geometry
import TaskGraph.Graph.Basic
import TaskGraph.Layout.Basic
import TaskGraph.RunRecord

/-!
# Renderers

A renderer draws a graph and carries out its layout. A view changes it through
commands only and otherwise looks at it. `Recorded` puts a record of the commands
beside any renderer, so that statements about what was sent can be made.
-/
namespace TaskGraph

/-- Something drawn that can be restyled. -/
inductive Item where
  | node (id : String)
  | edge (source target : String)
  deriving DecidableEq, Repr

/-- A style that is put on an item. -/
inductive Mark where
  /-- The status of a task. -/
  | status (s : Status)
  | highlight (on : Bool)
  /-- Work flows through an edge. -/
  | running (on : Bool)
  deriving DecidableEq, Repr

inductive Command where
  | render
  | destroy
  | setVisible (visible : Bool)
  | resize (size : Extent)
  /-- Zooms to a ratio, where 1 is the natural size, about a point. -/
  | zoomTo (ratio : Float) (center : Point)
  /-- Centers the content at the present zoom. -/
  | center
  /-- Zooms and moves so that the content fills the viewport. -/
  | fit
  | mark (item : Item) (m : Mark)
  deriving Repr

class Renderer (σ : Type) where
  perform : Command → σ → σ
  /-- The zoom ratio. -/
  zoom : σ → Float
  width : σ → Float
  height : σ → Float
  /-- The middle of the viewport, about which views zoom. -/
  centerPoint : σ → Point
  /-- The boxes of all drawn nodes and edges, on the canvas. -/
  boxes : σ → List Box
  /-- Where a node was laid out. -/
  position? : σ → String → Option Point
  /-- The place on the screen of a point on the canvas. -/
  toClient : σ → Point → Point

inductive RenderError where
  | backend (reason : String)
  deriving DecidableEq, Repr

def RenderError.message : RenderError → String
  | .backend reason => s!"Renderer backend failed: {reason}"

/-- Makes a renderer for a graph, its layout and the size of the viewport. -/
structure Backend (σ : Type) where
  create : Graph → Layout → Extent → Except RenderError σ

/-! ## Records of commands -/

/-- A renderer together with the commands it was sent, latest first. -/
structure Recorded (σ : Type) where
  screen : σ
  log : List Command := []

/-- The commands in the order in which they were sent. -/
def Recorded.sent {σ : Type} (r : Recorded σ) : List Command := r.log.reverse

instance {σ : Type} [Renderer σ] : Renderer (Recorded σ) where
  perform c r := { screen := Renderer.perform c r.screen, log := c :: r.log }
  zoom r := Renderer.zoom r.screen
  width r := Renderer.width r.screen
  height r := Renderer.height r.screen
  centerPoint r := Renderer.centerPoint r.screen
  boxes r := Renderer.boxes r.screen
  position? r := Renderer.position? r.screen
  toClient r := Renderer.toClient r.screen

/-- The backend that keeps records. -/
def Backend.recorded {σ : Type} (b : Backend σ) : Backend (Recorded σ) where
  create g l size := (b.create g l size).map fun screen => { screen }

end TaskGraph
