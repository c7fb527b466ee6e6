-- SUMMARY: Stamping the nodes of a view with run statuses, and highlighting one status.
import TaskGraph.View.Basic

/-!
# Statuses in a view

Run records stamp every task node with a status and mark the edges at running
nodes. One status at a time can be highlighted. Highlighting looks at the stamps
as they are; after new records the highlight is brought up to date on request.
-/
namespace TaskGraph.View

variable {σ κ : Type} [Renderer σ]

/-- The nodes that are stamped. -/
def taskNodes (v : View σ κ) : List Node := v.graph.nodes.filter (·.kind == .task)

/-- The status with which a node is stamped. -/
def status? (v : View σ κ) (id : String) : Option Status := v.stamps.lookup id

/-- The status that records give a node. -/
def statusFrom (records : List RunRecord) (id : String) : Status :=
  ((RunRecord.latest? records id).map RunRecord.status).getD .init

/-- Whether a node is stamped as running. -/
def isRunning (v : View σ κ) (id : String) : Bool := v.status? id == some .running

/-- The command that marks an edge by the stamps of its ends. -/
def markEdge (v : View σ κ) (e : Edge) : Command :=
  .mark (.edge e.source e.target) (.running (v.isRunning e.source || v.isRunning e.target))

/-- Stamps the task nodes by run records, then marks the edges. -/
def applyRecords (records : List RunRecord) (v : View σ κ) : View σ κ :=
  let found := v.taskNodes.map fun n => (n.id, statusFrom records n.id)
  let v := { v with stamps := found.foldl (fun stamps (id, s) => stamps.set id s) v.stamps }
  let v := v.sendAll (found.map fun (id, s) => .mark (.node id) (.status s))
  v.sendAll (v.graph.edges.map v.markEdge)

/-- Turns the highlight of the nodes stamped with a status on or off. -/
def markStatus (v : View σ κ) (s : Status) (on : Bool) : View σ κ :=
  let nodes := v.taskNodes.filter fun n => v.status? n.id == some s
  v.sendAll (nodes.map fun n => .mark (.node n.id) (.highlight on))

/-- Switches the highlight of a status. Another status that was highlighted is switched off
first. -/
def highlight (s : Status) (on : Bool) (v : View σ κ) : View σ κ :=
  if on then
    let v := match v.highlighted with
      | some old => if old = s then v else v.markStatus old false
      | none => v
    { v.markStatus s true with highlighted := some s }
  else
    let v := v.markStatus s false
    if v.highlighted = some s then { v with highlighted := none } else v

/-- Highlights exactly the task nodes that are now stamped with the highlighted status. -/
def refreshHighlight (v : View σ κ) : View σ κ :=
  match v.highlighted with
  | none => v
  | some s =>
    v.sendAll (v.taskNodes.map fun n =>
      .mark (.node n.id) (.highlight (v.status? n.id == some s)))

end TaskGraph.View
