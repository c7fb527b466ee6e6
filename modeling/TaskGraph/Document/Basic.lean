-- SUMMARY: Task documents, and the check that every task has a name and a tag.
import TaskGraph.Text.Basic

/-!
# Task documents

A document lists tasks as a workflow or as a pipeline. It is well formed if every
task has a reference and a tag that are not blank, and no two tasks of a section
share a reference. `Document.check` finds the first task that breaks a rule.
-/
namespace TaskGraph

structure Task where
  /-- The identity of the task, which others name in their needs. -/
  ref : String
  name : Option String := none
  /-- The type of the task; `start` and `end` are reserved. -/
  tag : String
  /-- The container image to run, for shell tasks. -/
  image : Option String := none
  needs : List String := []
  deriving DecidableEq, Repr

/-- What a node shows for the task. -/
def Task.title (t : Task) : String := t.name.getD t.ref

/-- What can start a run. Which of them is used is up to the caller. -/
structure TriggerSection where
  /-- A cron expression. -/
  schedule : Option String := none
  /-- The name of a webhook, perhaps followed by `@` and a namespace. -/
  webhook : Option String := none
  deriving DecidableEq, Repr

structure Document where
  trigger : Option TriggerSection := none
  workflow : Option (List Task) := none
  pipeline : Option (List Task) := none
  deriving DecidableEq, Repr

inductive DocumentError where
  /-- The text is not YAML, or not of the form of a document. -/
  | malformed (detail : String)
  | blankRef (ref : String)
  | blankTag (ref : String)
  | repeatedRef (ref : String)
  deriving DecidableEq, Repr

def DocumentError.message : DocumentError → String
  | .malformed detail => s!"Failed to parse DSL YAML: {detail}"
  | .blankRef ref => s!"Task '{ref}' is invalid: ref must not be empty"
  | .blankTag ref => s!"Task '{ref}' is invalid: task tag must not be empty"
  | .repeatedRef ref => s!"Task ref '{ref}' is declared more than once"

namespace Document

/-- Checks the tasks of a section one by one; `seen` are the references before them. -/
def checkTasks (seen : List String) : List Task → Except DocumentError Unit
  | [] => .ok ()
  | t :: ts =>
    if Text.allBlank t.ref then .error (.blankRef t.ref)
    else if Text.allBlank t.tag then .error (.blankTag t.ref)
    else if t.ref ∈ seen then .error (.repeatedRef t.ref)
    else checkTasks (t.ref :: seen) ts

/-- Gives the document back if both of its sections are well formed. -/
def check (d : Document) : Except DocumentError Document := do
  checkTasks [] (d.workflow.getD [])
  checkTasks [] (d.pipeline.getD [])
  return d

end Document
end TaskGraph
