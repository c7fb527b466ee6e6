-- SUMMARY: The task catalog, which gives icons to task types and webhooks.
import TaskGraph.Json.Fields

/-! # Task catalog -/
namespace TaskGraph

open Json (Value)

namespace Catalog

/-- What is known of one task type. -/
structure Entry where
  type : String
  webhook : Option String := none
  icon : Option String := none
  deriving DecidableEq, Repr

def Entry.ofJson? (v : Value) : Option Entry := do
  let fs ← v.fields? ["type", "webhook", "icon"]
  return {
    type := ← fs.required? "type" Value.text?
    webhook := ← fs.optional? "webhook" Value.text?
    icon := ← fs.optional? "icon" Value.text? }

end Catalog

/-- Entries in order of precedence. -/
abbrev Catalog := List Catalog.Entry

def Catalog.ofJson? : Value → Option Catalog := Value.listOf? Catalog.Entry.ofJson?

end TaskGraph
