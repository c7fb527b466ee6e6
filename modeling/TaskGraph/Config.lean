-- SUMMARY: Viewer settings: zoom range, node size, outline width and the icon of shell tasks.
import TaskGraph.Json.Fields
import TaskGraph.Json.Reader

/-!
# Viewer settings

Every setting has a default, so a file names only what it changes. A zoom range
read from a file must not be empty and must have a step; ranges built in code are
taken as they are.
-/
namespace TaskGraph

open Json (Value)

/-- The zoom percentages that are offered. -/
structure ZoomRange where
  min : UInt32 := 20
  max : UInt32 := 500
  step : UInt32 := 10
  deriving DecidableEq, Repr, Inhabited

inductive ConfigError where
  /-- The file could not be read, for the given reason. -/
  | unreadable (path reason : String)
  | malformed (detail : String)
  | badZoomRange (range : ZoomRange)
  deriving DecidableEq, Repr

def ConfigError.message : ConfigError → String
  | .unreadable path reason => s!"Could not read config file '{path}': {reason}"
  | .malformed detail => s!"Failed to parse config JSON: {detail}"
  | .badZoomRange r =>
    s!"Invalid zoom bounds: min {r.min}, max {r.max}, step {r.step} " ++
      "(need min <= max and step > 0)"

namespace ZoomRange

/-- The least zoom as a ratio, where 1 is the natural size. -/
def minRatio (r : ZoomRange) : Float := r.min.toFloat / 100

/-- Some percentage is in range and zooming moves. -/
def valid (r : ZoomRange) : Bool := r.min ≤ r.max && r.step != 0

def check (r : ZoomRange) : Except ConfigError Unit :=
  if r.valid then .ok () else .error (.badZoomRange r)

def maxBound : Nat := UInt32.size - 1

def ofJson? (v : Value) : Option ZoomRange := do
  let fs ← v.fields? ["min", "max", "step"]
  let bound (name : String) (default : UInt32) :=
    fs.withDefault? name default fun v => (v.natUpTo? maxBound).map Nat.toUInt32
  return { min := ← bound "min" 20, max := ← bound "max" 500, step := ← bound "step" 10 }

end ZoomRange

/-- The box of a node at natural size. -/
structure NodeSize where
  width : Float := 80
  height : Float := 80
  deriving Repr, Inhabited

def NodeSize.ofJson? (v : Value) : Option NodeSize := do
  let fs ← v.fields? ["width", "height"]
  return {
    width := ← fs.withDefault? "width" 80 Value.float?
    height := ← fs.withDefault? "height" 80 Value.float? }

structure Config where
  zoom : ZoomRange := {}
  nodeSize : NodeSize := {}
  /-- The width of the selection outline at natural size, in pixels. -/
  outlineWidth : Float := 2
  shellIcon : String := "shell.svg"
  deriving Repr, Inhabited

namespace Config

def ofJson? (v : Value) : Option Config := do
  let fs ← v.fields? ["zoom", "nodeSize", "selectedBorderWidth", "shellIcon"]
  return {
    zoom := ← fs.withDefault? "zoom" {} ZoomRange.ofJson?
    nodeSize := ← fs.withDefault? "nodeSize" {} NodeSize.ofJson?
    outlineWidth := ← fs.withDefault? "selectedBorderWidth" 2 Value.float?
    shellIcon := ← fs.withDefault? "shellIcon" "shell.svg" Value.text? }

/-- The settings that a JSON text gives. -/
def parse (text : String) : Except ConfigError Config :=
  match Value.parse? text with
  | none => .error (.malformed "not a JSON text")
  | some v =>
    match ofJson? v with
    | none => .error (.malformed "a setting is of the wrong type")
    | some config => do
      config.zoom.check
      return config

end Config
end TaskGraph
