-- SUMMARY: Compiling task documents to graphs.
import TaskGraph.Compiler.Icon
import TaskGraph.Compiler.Join
import TaskGraph.Compiler.Trigger
import TaskGraph.Document.Yaml

/-!
# The compiler

A document becomes a graph in steps, each of them a function on graphs: nodes and
edges of the tasks, joins (in workflows only), trigger, icons. Without a text or
a way of launching there is nothing to draw yet, and the graph is empty.
-/
namespace TaskGraph

structure Compiler where
  /-- Without a catalog, no node has an icon. -/
  catalog : Option Catalog := none
  /-- The icon of shell tasks. -/
  shellIcon : String := "shell.svg"

/-- The tasks of a document as a graph; a workflow takes precedence over a pipeline. -/
def Document.graph (d : Document) : Graph :=
  match d.workflow, d.pipeline with
  | some tasks, _ => (Graph.ofWorkflow tasks).withJoins
  | none, some tasks => Graph.ofPipeline tasks
  | none, none => .empty .workflow

namespace Compiler

def withIcons (c : Compiler) (g : Graph) : Graph :=
  match c.catalog with
  | some catalog => g.withIcons catalog c.shellIcon
  | none => g

/-- The graph of a document. -/
def compile (c : Compiler) (launch : Launch) (d : Document) : Graph :=
  c.withIcons (d.graph.withTrigger (Trigger.resolve launch d.trigger))

/-- The graph of a text, which may be missing. -/
def compileText (c : Compiler) (launch : Option Launch) (text : Option String) :
    Except DocumentError Graph :=
  match text.filter (!Text.allBlank ·), launch with
  | some text, some launch => do return c.compile launch (← Document.parse text)
  | _, _ => .ok (.empty .workflow)

end Compiler
end TaskGraph
