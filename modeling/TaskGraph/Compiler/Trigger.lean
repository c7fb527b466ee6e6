-- SUMMARY: The trigger of a graph and the node that stands for it.
import TaskGraph.Document.Basic
import TaskGraph.Graph.Basic
import TaskGraph.Json.Value

/-!
# Triggers

A cron trigger needs a schedule; a webhook trigger does without a name. Its node
comes first and leads to the entry of the graph, which is the first start node of a
workflow and the first node of a pipeline. A graph without an entry has no trigger.
-/
namespace TaskGraph

/-- How a run is launched. -/
inductive Launch where
  | cron
  | webhook
  | manual
  deriving DecidableEq, Repr

instance : Json.Constant Launch where
  all := [.cron, .webhook, .manual]
  name
    | .cron => "CRON"
    | .webhook => "WEBHOOK"
    | .manual => "MANUAL"

/-- What a run is started by. -/
inductive Trigger where
  | cron (schedule : String)
  | webhook (name : Option String)
  deriving DecidableEq, Repr

namespace Trigger

/-- The name of a webhook without its namespace, if anything is left. -/
def hookName (webhook : String) : Option String :=
  let name := String.ofList (webhook.toList.takeWhile (· ≠ '@'))
  if name.isEmpty then none else some name

/-- The trigger of a document for a way of launching it. -/
def resolve (launch : Launch) (spec : Option TriggerSection) : Option Trigger :=
  match launch with
  | .cron => ((spec.bind (·.schedule)).filter (!·.isEmpty)).map .cron
  | .webhook => some (.webhook ((spec.bind (·.webhook)).bind hookName))
  | .manual => none

def cronId : String := "CRON"

/-- The id of a webhook without a name. -/
def hookId : String := "webhook"

def node : Trigger → Node
  | .cron schedule => { id := cronId, label := "cron", description := schedule, kind := .cron }
  | .webhook (some name) =>
    { id := name, label := name, description := name, kind := .webhook, iconKey := some name }
  | .webhook none => { id := hookId, label := hookId, description := hookId, kind := .webhook }

end Trigger

namespace Graph

/-- The node that a trigger leads to. -/
def entry? (g : Graph) : Option Node :=
  match g.origin with
  | .workflow => g.nodes.find? (·.kind == .start)
  | .pipeline => g.nodes.head?

/-- The graph with the node of a trigger in front. -/
def withTrigger (g : Graph) (trigger : Option Trigger) : Graph :=
  match trigger, g.entry? with
  | some t, some entry =>
    { g with nodes := t.node :: g.nodes, edges := g.edges ++ [.flow t.node.id entry.id] }
  | _, _ => g

end Graph
end TaskGraph
