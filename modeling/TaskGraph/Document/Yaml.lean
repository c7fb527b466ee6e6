-- SUMMARY: Reading task documents from YAML text.
import TaskGraph.Document.Basic
import TaskGraph.Yaml.Reading

/-!
# Task documents as YAML

Keys that a document does not know are ignored on every level. A text without
content is the empty document.
-/
namespace TaskGraph

open Yaml (Reading)
open Yaml.Document (Fields)

def Task.ofYaml (d : Yaml.Document) (n : Yaml.Node) : Reading Task := do
  let fs ← d.fields ["ref", "name", "task", "image", "needs"] n
  return {
    ref := ← fs.required "ref" d.text
    name := ← fs.withDefault "name" none (d.optional d.text)
    tag := ← fs.required "task" d.text
    image := ← fs.withDefault "image" none (d.optional d.text)
    needs := ← fs.withDefault "needs" [] (d.list d.text) }

def TriggerSection.ofYaml (d : Yaml.Document) (n : Yaml.Node) : Reading TriggerSection := do
  let fs ← d.fields ["schedule", "webhook"] n
  return {
    schedule := ← fs.withDefault "schedule" none (d.optional d.text)
    webhook := ← fs.withDefault "webhook" none (d.optional d.text) }

namespace Document

def ofYaml (d : Yaml.Document) (n : Yaml.Node) : Reading Document := do
  let fs ← d.fields ["trigger", "workflow", "pipeline"] n
  return {
    trigger := ← fs.withDefault "trigger" none (d.optional (TriggerSection.ofYaml d))
    workflow := ← fs.withDefault "workflow" none (d.optional (d.list (Task.ofYaml d)))
    pipeline := ← fs.withDefault "pipeline" none (d.optional (d.list (Task.ofYaml d))) }

/-- The well-formed document that a text holds. -/
def parse (text : String) : Except DocumentError Document :=
  match Yaml.Document.parse? text with
  | none => .error (.malformed "not a YAML document")
  | some d =>
    match d.read? {} (ofYaml d) with
    | none => .error (.malformed "not the form of a task document")
    | some document => document.check

end Document
end TaskGraph
