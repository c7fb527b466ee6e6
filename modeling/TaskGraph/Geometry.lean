-- SUMMARY: Points, extents and boxes in the plane.

/-! # Plane geometry -/
namespace TaskGraph

structure Point where
  x : Float := 0
  y : Float := 0
  deriving Repr, Inhabited

structure Extent where
  width : Float := 0
  height : Float := 0
  deriving Repr, Inhabited

/-- A box with sides along the axes. -/
structure Box where
  minX : Float := 0
  minY : Float := 0
  maxX : Float := 0
  maxY : Float := 0
  deriving Repr, Inhabited

namespace Box

/-- The box of an extent, from its corner at `(x, y)`. -/
def ofCorner (x y width height : Float) : Box :=
  { minX := x, minY := y, maxX := x + width, maxY := y + height }

def width (b : Box) : Float := b.maxX - b.minX
def height (b : Box) : Float := b.maxY - b.minY

def center (b : Box) : Point :=
  { x := b.minX + b.width / 2, y := b.minY + b.height / 2 }

end Box
end TaskGraph
