-- SUMMARY: Mounted views of a graph: how they are opened, settled, fitted, zoomed and closed.
import TaskGraph.Compiler.Basic
import TaskGraph.Config
import TaskGraph.Renderer

/-!
# Views

A view shows one graph on one renderer. It is mounted hidden; once the renderer has
done its layout, the host settles the view, which fits the content and shows it.
Content is never fitted below the least zoom of the configuration: what is too
large even then is centered and left to overflow.
-/
namespace TaskGraph

/-- The status with which each task node is stamped. -/
abbrev Stamps := List (String × Status)

def Stamps.set (stamps : Stamps) (id : String) (s : Status) : Stamps :=
  (id, s) :: stamps.filter (·.1 != id)

/-- A view on a renderer `σ`; listeners to hovering are known by handles `κ`. -/
structure View (σ κ : Type) where
  screen : σ
  graph : Graph
  layout : Layout
  config : Config
  stamps : Stamps := []
  /-- The status whose nodes are highlighted. -/
  highlighted : Option Status := none
  listener : Option κ := none
  /-- The view was not settled yet. -/
  pending : Bool := true

inductive ViewError where
  | document (e : DocumentError)
  | render (e : RenderError)
  deriving DecidableEq, Repr

def ViewError.message : ViewError → String
  | .document e => s!"Graph compilation failed: {e.message}"
  | .render e => e.message

/-- How a view is opened. -/
structure ViewOptions where
  orientation : Orientation := .horizontal
  viewport : Extent := {}
  config : Config := {}

namespace View

variable {σ κ : Type} [Renderer σ]

/-- Sends a command to the renderer. -/
def send (v : View σ κ) (c : Command) : View σ κ :=
  { v with screen := Renderer.perform c v.screen }

def sendAll (v : View σ κ) (cs : List Command) : View σ κ := cs.foldl send v

/-! ## Opening and closing -/

/-- Shows a graph on a new renderer, hidden until it is settled. -/
def mount (b : Backend σ) (options : ViewOptions) (g : Graph) : Except RenderError (View σ κ) := do
  let layout := Layout.choose g.origin g.nodes.length options.orientation
  let screen ← b.create g layout options.viewport
  let v : View σ κ := { screen, graph := g, layout, config := options.config }
  return (v.send (.setVisible false)).send .render

/-- Compiles a text and shows its graph. -/
def openText (b : Backend σ) (options : ViewOptions) (c : Compiler) (launch : Option Launch)
    (text : Option String) : Except ViewError (View σ κ) := do
  let g ← (c.compileText launch text).mapError .document
  (mount b options g).mapError .render

/-- The renderer after the end of the view. -/
def close (v : View σ κ) : σ := (v.send .destroy).screen

/-! ## Size and zoom -/

/-- The zoom in percent. -/
def zoom (v : View σ κ) : Float := Renderer.zoom v.screen * 100

def resize (size : Extent) (v : View σ κ) : View σ κ := v.send (.resize size)

/-- Zooms to a ratio about the middle of the viewport. -/
def zoomToRatio (ratio : Float) (v : View σ κ) : View σ κ :=
  v.send (.zoomTo ratio (Renderer.centerPoint v.screen))

/-- Zooms to a percentage. -/
def zoomTo (percent : Float) (v : View σ κ) : View σ κ := v.zoomToRatio (percent / 100)

/-- Whether some drawn item reaches beyond the viewport at a zoom ratio. -/
def overflows (v : View σ κ) (ratio : Float) : Bool :=
  let width := Renderer.width v.screen / ratio
  let height := Renderer.height v.screen / ratio
  (Renderer.boxes v.screen).any fun b => b.maxX > width || b.maxY > height

/-- Fits content that overflows at natural size, but not below the least zoom. -/
def fitLarge (v : View σ κ) : View σ κ :=
  let least := v.config.zoom.minRatio
  if v.overflows least then (v.send .center).zoomToRatio least else v.send .fit

/-- Fits the content to the viewport, enlarging it if it is small. -/
def fit (v : View σ κ) : View σ κ := if v.overflows 1 then v.fitLarge else v.send .fit

/-- Fits large content to the viewport and centers small content as it is. -/
def fitOrCenter (v : View σ κ) : View σ κ :=
  if v.overflows 1 then v.fitLarge else v.send .center

/-- Fits the content and shows it, once; tells whether this was the time. -/
def settle (v : View σ κ) : Bool × View σ κ :=
  if v.pending then (true, { v with pending := false }.fitOrCenter.send (.setVisible true))
  else (false, v)

end View
end TaskGraph
