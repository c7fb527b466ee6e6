-- SUMMARY: The JSON form of graphs, which renderers read.
import TaskGraph.Graph.Basic
import TaskGraph.Json.Fields

/-!
# Graphs as JSON

Fields are written in declared order and absent ones are left out. Reading takes
a node, an edge or a graph also as an array of its fields.
-/
namespace TaskGraph

open Json (Constant Value)

instance : Constant Section where
  all := [.workflow, .pipeline]
  name
    | .workflow => "WORKFLOW"
    | .pipeline => "PIPELINE"

instance : Constant NodeKind where
  all := [.start, .finish, .task, .condition, .cron, .webhook, .join]
  name
    | .start => "START"
    | .finish => "END"
    | .task => "ASYNC_TASK"
    | .condition => "CONDITION"
    | .cron => "CRON"
    | .webhook => "WEBHOOK"
    | .join => "FLOW_NODE"

instance : Constant EdgeKind where
  all := [.flow]
  name | .flow => "flow"

namespace Node

def toJson (n : Node) : Value :=
  .sparse [
    ("id", some (.text n.id)),
    ("label", some (.text n.label)),
    ("description", some (.text n.description)),
    ("type", some (.ofConstant n.kind)),
    ("uniqueKey", n.iconKey.map .text),
    ("iconUrl", n.icon.map .text),
    ("x", n.x.map .ofFloat),
    ("y", n.y.map .ofFloat)]

def ofJson? (v : Value) : Option Node := do
  let fs ← v.fields? ["id", "label", "description", "type", "uniqueKey", "iconUrl", "x", "y"]
  return {
    id := ← fs.required? "id" Value.text?
    label := ← fs.required? "label" Value.text?
    description := ← fs.required? "description" Value.text?
    kind := ← fs.required? "type" Value.constantOf?
    iconKey := ← fs.optional? "uniqueKey" Value.text?
    icon := ← fs.optional? "iconUrl" Value.text?
    x := ← fs.optional? "x" Value.float?
    y := ← fs.optional? "y" Value.float? }

end Node

namespace Edge

def toJson (e : Edge) : Value :=
  .sparse [
    ("source", some (.text e.source)),
    ("target", some (.text e.target)),
    ("type", some (.ofConstant e.kind)),
    ("label", e.label.map .text)]

def ofJson? (v : Value) : Option Edge := do
  let fs ← v.fields? ["source", "target", "type", "label"]
  return {
    source := ← fs.required? "source" Value.text?
    target := ← fs.required? "target" Value.text?
    kind := ← fs.withDefault? "type" .flow Value.constantOf?
    label := ← fs.optional? "label" Value.text? }

end Edge

namespace Graph

def toJson (g : Graph) : Value :=
  .record [
    ("dslKind", .ofConstant g.origin),
    ("nodes", .array (g.nodes.map Node.toJson)),
    ("edges", .array (g.edges.map Edge.toJson))]

def ofJson? (v : Value) : Option Graph := do
  let fs ← v.fields? ["dslKind", "nodes", "edges"]
  return {
    origin := ← fs.required? "dslKind" Value.constantOf?
    nodes := ← fs.required? "nodes" (Value.listOf? Node.ofJson?)
    edges := ← fs.required? "edges" (Value.listOf? Edge.ofJson?) }

end Graph
end TaskGraph
