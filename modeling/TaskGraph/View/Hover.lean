-- SUMMARY: Where a hovered node is on the screen, and who is told.
import TaskGraph.Text.Basic
import TaskGraph.View.Basic

/-!
# Hovering

Hovering over a node gives its box on the screen, which the listener is told too.
Join nodes and the shapes of animations give nothing, and neither does a node
whose place is unknown. The renderer knows places best; otherwise the node may
have coordinates of its own.
-/
namespace TaskGraph

/-- The box of a node on the screen. -/
structure HoverInfo where
  id : String
  description : String
  kind : NodeKind
  x : Float
  y : Float
  width : Float
  height : Float
  deriving Repr

namespace View

variable {σ κ : Type} [Renderer σ]

/-- What the names of animation shapes contain. -/
def animationMarker : String := "animate_"

/-- The coordinates that a node carries. -/
def ownPosition (n : Node) : Option Point := do
  return { x := ← n.x, y := ← n.y }

/-- The place of a node on the canvas. -/
def position? (v : View σ κ) (n : Node) : Option Point :=
  (Renderer.position? v.screen n.id).or (ownPosition n)

/-- What hovering over a shape of a node gives. -/
def hoverInfo? (v : View σ κ) (id shape : String) : Option HoverInfo := do
  let n ← v.graph.node? id
  if n.kind = .join || Text.hasPart animationMarker.toList shape.toList then none
  let place := Renderer.toClient v.screen (← v.position? n)
  let zoom := Renderer.zoom v.screen
  return {
    id := n.id
    description := n.description
    kind := n.kind
    x := place.x
    y := place.y
    width := v.config.nodeSize.width * zoom
    height := v.config.nodeSize.height * zoom }

/-- What hovering gives, and what is told to which listeners. -/
def hover (v : View σ κ) (id shape : String) : Option HoverInfo × List (κ × HoverInfo) :=
  match v.hoverInfo? id shape, v.listener with
  | some info, some k => (some info, [(k, info)])
  | info, _ => (info, [])

/-- Puts a listener in the place of the one before. -/
def listen (k : κ) (v : View σ κ) : View σ κ := { v with listener := some k }

end View
end TaskGraph
