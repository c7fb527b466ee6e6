-- SUMMARY: The JSON form of layouts, tagged with their type.
import TaskGraph.Json.Fields
import TaskGraph.Layout.Basic

/-!
# Layouts as JSON

The member `type` says which layout follows and may stand anywhere in the object,
so all other members are held back until it is known. What is held back must be
readable in itself, also under names that no layout has: strings are texts,
numbers are in range, and nesting is limited. An array begins with the type, and
the fields follow in order.
-/
namespace TaskGraph

open Json (Constant Literal Value)

instance : Constant Orientation where
  all := [.horizontal, .vertical]
  name
    | .horizontal => "HORIZONTAL"
    | .vertical => "VERTICAL"

instance : Constant RankDirection where
  all := [.leftToRight, .topToBottom]
  name
    | .leftToRight => "LR"
    | .topToBottom => "TB"

namespace Layout

/-- Cells are counted in 64 bits, weights in 64 bits with a sign. -/
def maxCells : Nat := UInt64.size - 1
def minWeight : Int := Int64.minValue.toInt
def maxWeight : Int := Int64.maxValue.toInt

/-- Whether a value can be held back, with `depth` levels of arrays and objects left. -/
def holds (depth : Nat) (v : Value) : Bool :=
  match depth, v with
  | _, .null => true
  | _, .bool _ => true
  | _, .number n => n.toFloat?.isSome
  | _, .string s => s.isSome
  | 0, _ => false
  | depth + 1, .array vs => vs.all (holds depth)
  | depth + 1, .object ms => ms.all fun (k, v) => k.isSome && holds depth v

/-- The levels that a layout may be deep. -/
def maxDepth : Nat := 127

/-- A held-back constant may also carry an empty object. -/
def heldConstant? {α : Type} [Constant α] : Value → Option α
  | .object [(some name, .object [])] => Constant.ofName? name
  | v => v.constantOf?

def Ranked.ofJson? (v : Value) : Option Ranked := do
  let fs ← v.fields? ["rankdir", "nodesep", "ranksep", "controlPoints"]
  return {
    direction := ← fs.required? "rankdir" heldConstant?
    nodeGap := ← fs.required? "nodesep" Value.float?
    rankGap := ← fs.required? "ranksep" Value.float?
    keepControlPoints := ← fs.required? "controlPoints" Value.bool? }

def Grid.ofJson? (v : Value) : Option Grid := do
  let fs ← v.fields?
    ["preventOverlap", "nodeSize", "preventOverlapPadding", "cols", "rows", "orderWeights"]
  return {
    preventOverlap := ← fs.required? "preventOverlap" Value.bool?
    nodeSize := ← fs.required? "nodeSize" Value.float?
    overlapPadding := ← fs.required? "preventOverlapPadding" Value.float?
    columns := ← fs.required? "cols" (Value.natUpTo? maxCells)
    rows := ← fs.required? "rows" (Value.natUpTo? maxCells)
    weights := ← fs.required? "orderWeights"
      (Value.listOf? (Value.intIn? minWeight maxWeight)) }

/-- A layout of the given type. -/
def ofTagged? (type : String) (content : Value) : Option Layout :=
  if type = "hierarchical" then (Ranked.ofJson? content).map .ranked
  else if type = "grid" then (Grid.ofJson? content).map .grid
  else none

/-- The one value of the member `type`, and the other members. -/
def splitType? (ms : List (Literal × Value)) : Option (Value × List (Literal × Value)) :=
  match ms.partition fun (k, _) => k == some "type" with
  | ([(_, v)], others) => some (v, others)
  | _ => none

def ofJson? (v : Value) : Option Layout :=
  if holds maxDepth v then
    match v with
    | .object ms => do
      let (type, others) ← splitType? ms
      ofTagged? (← type.text?) (.object others)
    | .array (type :: fields) => do ofTagged? (← type.text?) (.array fields)
    | _ => none
  else none

def toJson : Layout → Value
  | .ranked r => .record [
      ("type", .text "hierarchical"),
      ("rankdir", .ofConstant r.direction),
      ("nodesep", .ofFloat r.nodeGap),
      ("ranksep", .ofFloat r.rankGap),
      ("controlPoints", .bool r.keepControlPoints)]
  | .grid g => .record [
      ("type", .text "grid"),
      ("preventOverlap", .bool g.preventOverlap),
      ("nodeSize", .ofFloat g.nodeSize),
      ("preventOverlapPadding", .ofFloat g.overlapPadding),
      ("cols", .ofNat g.columns),
      ("rows", .ofNat g.rows),
      ("orderWeights", .array (g.weights.map .ofInt))]

end Layout
end TaskGraph
