-- SUMMARY: What new records change in a view: all stamps and all marks of edges, whatever they were before.
import TaskGraph.Proofs.Opening

/-!
# Stamps from records

New records set the stamp of every task node, so nothing is left of older records as long as only
task nodes are stamped. Of every view that is reached this holds, because its graph stays the same
and nothing else stamps. The marks of the edges follow the new stamps, and so the records alone
decide what a view and its screen show.
-/
namespace TaskGraph

/-! ## What records say about a graph -/

namespace Graph

variable (g : Graph) (records : List RunRecord)

def HasTask (id : String) : Prop := ∃ n ∈ g.nodes, n.kind = .task ∧ n.id = id

instance (id : String) : Decidable (g.HasTask id) := inferInstanceAs (Decidable (∃ n ∈ _, _))

/-- The id is that of a task node, and by its latest record the task is running. -/
def Works (id : String) : Prop :=
  g.HasTask id ∧ ∃ r ∈ RunRecord.latest? records id, r.status = .running

instance (id : String) : Decidable (g.Works records id) := inferInstanceAs (Decidable (_ ∧ _))

/-- The status of each task node, in the order of the nodes. -/
def statusMarks : List Command :=
  (g.nodes.filter (·.kind == .task)).map fun n =>
    .mark (.node n.id)
      (.status (((RunRecord.latest? records n.id).map RunRecord.status).getD .init))

/-- Whether work flows through each edge, in the order of the edges. -/
def runningMarks : List Command :=
  g.edges.map fun e =>
    .mark (.edge e.source e.target)
      (.running (g.Works records e.source ∨ g.Works records e.target))

end Graph

/-- Whether a command marks the edge, and if so, how. -/
def Command.running? (source target : String) : Command → Option Bool
  | .mark (.edge s t) (.running on) => if s = source ∧ t = target then some on else none
  | _ => none

/-! ## Stamps -/

namespace Stamps

theorem lookup_filter_ne (stamps : Stamps) {id i : String} (h : i ≠ id) :
    (stamps.filter (·.1 != id)).lookup i = stamps.lookup i := by
  induction stamps with
  | nil => rfl
  | cons p ps ih =>
    rw [List.filter_cons]
    split
    · rw [List.lookup_cons, List.lookup_cons, ih]
    · rename_i hp
      obtain rfl : p.1 = id := by simpa using hp
      rw [ih, List.lookup_cons, beq_false_of_ne h]

theorem lookup_set (stamps : Stamps) (id i : String) (s : Status) :
    (stamps.set id s).lookup i = if i = id then some s else stamps.lookup i := by
  rw [set, List.lookup_cons]
  split
  · rename_i heq
    rw [if_pos (beq_iff_eq.mp heq)]
  · rename_i hne
    have hne : i ≠ id := ne_of_beq_false hne
    rw [if_neg hne, lookup_filter_ne stamps hne]

/-- Setting the stamps of nodes leaves those of other ids alone, also if an id occurs twice. -/
theorem lookup_setAll (stamps : Stamps) (status : String → Status) (nodes : List Node)
    (id : String) :
    ((nodes.map fun n => (n.id, status n.id)).foldl (fun stamps (i, s) => stamps.set i s)
        stamps).lookup id =
      if id ∈ nodes.map Node.id then some (status id) else stamps.lookup id := by
  induction nodes generalizing stamps with
  | nil => rfl
  | cons n ns ih =>
    rw [List.map_cons, List.foldl_cons, ih, lookup_set, List.map_cons]
    by_cases hn : id = n.id
    · simp [hn]
    · simp [hn]

end Stamps

namespace View

variable {σ κ : Type}

theorem mem_taskNodes_ids {v : View σ κ} {id : String} :
    id ∈ v.taskNodes.map Node.id ↔ v.graph.HasTask id := by
  simp [taskNodes, Graph.HasTask, and_assoc]

/-- Only task nodes are stamped. -/
def StampsTasks (v : View σ κ) : Prop := ∀ id, (v.status? id).isSome → v.graph.HasTask id

section
variable (v : View σ κ) (records : List RunRecord) (id : String)

theorem lookup_recordStamps :
    (v.recordStamps records).lookup id =
      if v.graph.HasTask id then some (statusFrom records id) else v.status? id := by
  rw [recordStamps, Stamps.lookup_setAll]
  simp only [mem_taskNodes_ids, status?]

theorem statusFrom_eq_running_iff :
    statusFrom records id = .running ↔
      ∃ r ∈ RunRecord.latest? records id, r.status = .running := by
  unfold statusFrom
  cases RunRecord.latest? records id <;> simp

end

/-! ## One update -/

section
variable {v : View σ κ} (h : v.StampsTasks) (records : List RunRecord)
include h

theorem StampsTasks.lookup_recordStamps (id : String) :
    (v.recordStamps records).lookup id =
      if v.graph.HasTask id then some (statusFrom records id) else none := by
  rw [View.lookup_recordStamps]
  split
  · rfl
  · rename_i hno
    exact Option.not_isSome_iff_eq_none.mp fun hsome => hno (h id hsome)

theorem StampsTasks.isRunning_recordStamps (id : String) :
    ({ v with stamps := v.recordStamps records } : View σ κ).isRunning id =
      decide (v.graph.Works records id) := by
  have hstamp : ({ v with stamps := v.recordStamps records } : View σ κ).status? id = _ :=
    h.lookup_recordStamps records id
  rw [isRunning, hstamp, Bool.eq_iff_iff, beq_iff_eq, decide_eq_true_iff, Graph.Works,
    ← statusFrom_eq_running_iff]
  split <;> simp [*]

/-- What is sent for new records depends on them and on the graph only. -/
theorem StampsTasks.recordCalls_eq :
    v.recordCalls records = v.graph.statusMarks records ++ v.graph.runningMarks records := by
  unfold recordCalls Graph.runningMarks
  congr 1
  refine List.map_congr_left fun e _ => ?_
  simp only [markEdge, h.isRunning_recordStamps, Bool.decide_or]

end

section
variable [Renderer σ]

/-! ## Reachable views -/

theorem StampsTasks.apply {v : View σ κ} (h : v.StampsTasks) (op : Op κ) :
    (op.apply v).StampsTasks := by
  intro id hsome
  rw [op.apply_graph]
  rw [status?, op.apply_stamps] at hsome
  cases op with
  | applyRecords records =>
    rw [Op.stamps, h.lookup_recordStamps] at hsome
    by_contra hno
    rw [if_neg hno] at hsome
    cases hsome
  | _ => exact h id hsome

theorem Reachable.stampsTasks {b : Backend σ} {options : ViewOptions} {v : View (Recorded σ) κ}
    (h : Reachable b options v) : v.StampsTasks := by
  induction h with
  | opened h =>
    obtain ⟨g, hg⟩ := h.exists_mount
    obtain ⟨_, hstamps, _⟩ := mount_eq_ok hg
    intro id hsome
    rw [status?, hstamps] at hsome
    cases hsome
  | apply _ op ih => exact ih.apply op
  | redraw _ _ ih => exact ih

/-! ## Marks of edges -/

/-- The last mark that was sent for the edges between two ids. -/
def edgeRuns? (v : View (Recorded σ) κ) (source target : String) : Option Bool :=
  v.screen.log.findSome? (Command.running? source target)

omit [Renderer σ] in
/-- Marking edges by their ends sets each of them, also if there are several between two ids. -/
theorem findSome?_running (on : String → String → Bool) (edges : List Edge) (s t : String) :
    (edges.map fun e => Command.mark (.edge e.source e.target)
        (.running (on e.source e.target))).findSome? (Command.running? s t) =
      if ∃ e ∈ edges, e.source = s ∧ e.target = t then some (on s t) else none := by
  rw [List.findSome?_map]
  refine findSome?_eq_ite fun e _ => ?_
  by_cases he : e.source = s ∧ e.target = t
  · simp [Command.running?, he]
  · simp [Command.running?, he]

theorem edgeRuns?_applyRecords {v : View (Recorded σ) κ} (h : v.StampsTasks)
    (records : List RunRecord) (s t : String) :
    (v.applyRecords records).edgeRuns? s t =
      if ∃ e ∈ v.graph.edges, e.source = s ∧ e.target = t then
        some (decide (v.graph.Works records s ∨ v.graph.Works records t))
      else v.edgeRuns? s t := by
  have hplain : (v.graph.statusMarks records).reverse.findSome? (Command.running? s t) = none := by
    rw [List.findSome?_eq_none_iff]
    intro c hc
    obtain ⟨n, _, rfl⟩ := List.mem_map.mp (List.mem_reverse.mp hc)
    rfl
  have hmarks : (v.graph.runningMarks records).reverse.findSome? (Command.running? s t) =
      if ∃ e ∈ v.graph.edges, e.source = s ∧ e.target = t then
        some (decide (v.graph.Works records s ∨ v.graph.Works records t))
      else none := by
    have hreverse := findSome?_running
      (fun s t => decide (v.graph.Works records s ∨ v.graph.Works records t))
      v.graph.edges.reverse s t
    simp only [List.mem_reverse, List.map_reverse] at hreverse
    exact hreverse
  have hlog : (v.applyRecords records).screen.log =
      (v.recordCalls records).reverse ++ v.screen.log := by
    rw [applyRecords_eq]
    exact sendAll_log v _
  rw [edgeRuns?, hlog, h.recordCalls_eq, List.reverse_append, List.append_assoc,
    List.findSome?_append, List.findSome?_append, hmarks, hplain, Option.none_or]
  split <;> rfl

/-! ## Updates -/

/-- By new records the view `v` becomes `w`. -/
structure Updated (records : List RunRecord) (v w : View (Recorded σ) κ) : Prop where
  status? : ∀ id, w.status? id =
    if v.graph.HasTask id then
      some (((RunRecord.latest? records id).map RunRecord.status).getD .init)
    else none
  sent : w.screen.sent =
    v.screen.sent ++ (v.graph.statusMarks records ++ v.graph.runningMarks records)
  highlighted : w.highlighted = v.highlighted
  pending : w.pending = v.pending
  graph : w.graph = v.graph
  layout : w.layout = v.layout

theorem StampsTasks.updated {v : View (Recorded σ) κ} (h : v.StampsTasks)
    (records : List RunRecord) : Updated records v (v.applyRecords records) := by
  have happly := Op.apply_eq v (.applyRecords records)
  rw [Op.apply] at happly
  rw [happly]
  exact {
    status? := h.lookup_recordStamps records
    sent := by rw [Renderer.performAll_sent, Op.calls, h.recordCalls_eq]
    highlighted := rfl
    pending := rfl
    graph := rfl
    layout := rfl }

/-- New records decide all stamps and the marks of all edges of a view that was reached, and change
nothing else. What was applied before them makes no difference. -/
theorem applyRecords_updated {b : Backend σ} {options : ViewOptions} {v : View (Recorded σ) κ}
    (h : Reachable b options v) (records : List RunRecord) :
    Updated records v (v.applyRecords records) ∧
      ∀ earlier, let w := (v.applyRecords earlier).applyRecords records
        (∀ id, w.status? id = (v.applyRecords records).status? id) ∧
        ∀ s t, w.edgeRuns? s t = (v.applyRecords records).edgeRuns? s t := by
  have hstamps : v.StampsTasks := h.stampsTasks
  have hupdated := hstamps.updated records
  refine ⟨hupdated, ?_⟩
  intro earlier w
  have hearlier : (v.applyRecords earlier).StampsTasks := hstamps.apply (.applyRecords earlier)
  have hgraph : (v.applyRecords earlier).graph = v.graph := (hstamps.updated earlier).graph
  constructor
  · intro id
    rw [(hearlier.updated records).status?, hupdated.status?, hgraph]
  · intro s t
    rw [edgeRuns?_applyRecords hearlier, edgeRuns?_applyRecords hstamps,
      edgeRuns?_applyRecords hstamps, hgraph]
    split <;> rfl

/-- One task succeeds and the other one is started, after a run with other records. -/
theorem applyRecords_updated_pair :
    Reachable EmptyScreen.backend {} (pairView.run pairRun) ∧
      let w := (pairView.run pairRun).applyRecords [{ node := "b", status := .failed },
        { node := "b", status := .running, startTime := some 0 }]
      w.status? "a" = some .init ∧ w.status? "b" = some .running ∧ w.status? "c" = none ∧
        w.highlighted = some .running := by
  have hreach : Reachable EmptyScreen.backend {} (pairView.run pairRun) :=
    (Reachable.opened (.mount pair mount_pair)).run pairRun
  obtain ⟨hupdated, _⟩ := applyRecords_updated hreach [{ node := "b", status := .failed },
    { node := "b", status := .running, startTime := some 0 }]
  refine ⟨hreach, ?_, ?_, ?_, ?_⟩
  · rw [hupdated.status?]
    decide
  · rw [hupdated.status?]
    decide
  · rw [hupdated.status?]
    decide
  · rw [hupdated.highlighted]
    decide

end
end View
end TaskGraph
