-- SUMMARY: Icons for the nodes of a graph, from the task catalog.
import Std.Data.HashMap
import TaskGraph.Catalog
import TaskGraph.Compiler.Tasks

/-!
# Icons

Shell tasks have an icon of their own. For other nodes the catalog is searched, by
webhook for a webhook node and by type for a task; of entries that match, the
first decides, even if it has no icon.
-/
namespace TaskGraph

/-- The first entry of a catalog for each type and for each webhook. -/
structure Catalog.Index where
  byType : Std.HashMap String Catalog.Entry := {}
  byWebhook : Std.HashMap String Catalog.Entry := {}

namespace Catalog.Index

def add (index : Index) (e : Entry) : Index :=
  { byType := index.byType.insertIfNew e.type e
    byWebhook := match e.webhook with
      | some w => index.byWebhook.insertIfNew w e
      | none => index.byWebhook }

def ofCatalog (c : Catalog) : Index := c.foldl add {}

/-- The icon that the catalog has for a node with a key. -/
def icon? (index : Index) (kind : NodeKind) (key : String) : Option String :=
  match kind with
  | .webhook => index.byWebhook[key]?.bind (·.icon)
  | .task => index.byType[key]?.bind (·.icon)
  | _ => none

end Catalog.Index

/-- The node with its icon. Nodes without a key are left as they are. -/
def Node.withIcon (index : Catalog.Index) (shellIcon : String) (n : Node) : Node :=
  match n.iconKey with
  | none => n
  | some key =>
    { n with icon := if key = shellKey then some shellIcon else index.icon? n.kind key }

/-- The graph with icons from a catalog. -/
def Graph.withIcons (g : Graph) (catalog : Catalog) (shellIcon : String) : Graph :=
  let index := Catalog.Index.ofCatalog catalog
  { g with nodes := g.nodes.map (Node.withIcon index shellIcon) }

end TaskGraph
