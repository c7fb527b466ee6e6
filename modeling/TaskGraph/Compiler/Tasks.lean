-- SUMMARY: The graph of a list of tasks, before joins, trigger and icons.
import TaskGraph.Document.Basic
import TaskGraph.Graph.Basic

/-!
# From tasks to nodes and edges

A workflow has a node for each task and an edge for each need. A pipeline has a
node for each task, whatever its tag, and an edge from each one to the next. The
label of a node is a short text, and its description the whole one.
-/
namespace TaskGraph

namespace Label

/-- The length, in characters, up to which a text is shown whole. -/
def maxLength : Nat := 10

/-- The text, or its beginning and an ellipsis. -/
def shorten (text : String) : String :=
  let cs := text.toList
  if cs.length ≤ maxLength then text
  else String.ofList (cs.take maxLength) ++ "..."

end Label

/-- The icon key of tasks that run a container image. -/
def shellKey : String := "shell"

namespace Task

def isShell (t : Task) : Bool := t.image.any (!·.isEmpty)

/-- What the icon of the task is looked up by. -/
def iconKey (t : Task) : String := if t.isShell then shellKey else t.tag

/-- Whether the tag is a given word, up to blanks around it and the case of its letters. -/
def hasTag (t : Task) (word : String) : Bool := Text.sameLetters (Text.trim t.tag) word

def isStart (t : Task) : Bool := t.hasTag "start"
def isFinish (t : Task) : Bool := t.hasTag "end"

/-- The node of the task, of a given kind and without an icon. -/
def plainNode (t : Task) (kind : NodeKind) : Node :=
  { id := t.ref, label := Label.shorten t.title, description := t.title, kind }

/-- The node of a task that is run. -/
def runNode (t : Task) : Node := { t.plainNode .task with iconKey := some t.iconKey }

/-- The node of a task in a workflow. -/
def node (t : Task) : Node :=
  if t.isStart then t.plainNode .start
  else if t.isFinish then t.plainNode .finish
  else t.runNode

/-- The edges from what the task needs. -/
def edges (t : Task) : List Edge := t.needs.map (Edge.flow · t.ref)

end Task

namespace Graph

def ofWorkflow (tasks : List Task) : Graph :=
  { origin := .workflow, nodes := tasks.map Task.node, edges := tasks.flatMap Task.edges }

/-- Edges from each id to the next. -/
def chain : List String → List Edge
  | a :: b :: ids => Edge.flow a b :: chain (b :: ids)
  | _ => []

def ofPipeline (tasks : List Task) : Graph :=
  { origin := .pipeline
    nodes := tasks.map Task.runNode
    edges := chain (tasks.map Task.ref) }

end Graph
end TaskGraph
