-- SUMMARY: A compiled pipeline is one path through its nodes, in their order and behind its trigger.
import Mathlib.Data.List.Nodup
import Mathlib.Data.List.Rotate
import TaskGraph.Proofs.TaskOrder
import TaskGraph.Proofs.TriggerNode

/-!
# Pipelines as paths

A pipeline runs every task, whatever its tag is and whatever it needs, and joins nothing. Its
edges lead from each node to the next. The node of a trigger stands in front, while the edge from
it stands at the end, so that the edges are those steps turned by one place.
-/
namespace TaskGraph
namespace Graph

/-! ## Steps from node to node -/

/-- The edges from each node to the next, in the order of the nodes. -/
def steps (g : Graph) : List Edge := List.zipWith Edge.flow g.ids g.ids.tail

variable {g : Graph}

theorem length_steps : g.steps.length = g.nodes.length - 1 := by
  simp [steps, ids]

theorem getElem_steps {i : Nat} (hi : i < g.steps.length) (hnext : i + 1 < g.ids.length) :
    g.steps[i] = .flow g.ids[i] g.ids[i + 1] := by
  simp [steps]

theorem steps_eq_cons {i j : String} {rest : List String} (h : g.ids = i :: j :: rest) :
    g.steps = .flow i j :: List.zipWith Edge.flow (j :: rest) rest := by
  rw [steps, h]
  rfl

theorem chain_eq_zipWith (ids : List String) : chain ids = List.zipWith Edge.flow ids ids.tail := by
  induction ids with
  | nil => rfl
  | cons a ids ih =>
    cases ids with
    | nil => rfl
    | cons b rest =>
      rw [chain, ih]
      rfl

theorem ofPipeline_edges (tasks : List Task) :
    (ofPipeline tasks).edges = (ofPipeline tasks).steps := by
  rw [steps, ofPipeline_ids, ← chain_eq_zipWith]
  rfl

/-! ## Paths along distinct nodes -/

/-- The graph is one path through all its nodes, in their order: a node leads to the next one and to
no other, by one edge, and a path leads from it to all that are further on. -/
structure Linear (g : Graph) : Prop where
  edges_nodup : g.edges.Nodup
  leads_iff : ∀ i j (hi : i < g.ids.length) (hj : j < g.ids.length),
    g.Leads g.ids[i] g.ids[j] ↔ i + 1 = j
  path_iff : ∀ i j (hi : i < g.ids.length) (hj : j < g.ids.length),
    g.Path g.ids[i] g.ids[j] ↔ i < j

section
variable (hsteps : g.edges.Perm g.steps)
include hsteps

theorem leads_iff_exists {s t : String} :
    g.Leads s t ↔ ∃ i, ∃ h : i + 1 < g.ids.length, g.ids[i] = s ∧ g.ids[i + 1] = t := by
  have hlength : g.steps.length = g.ids.length - 1 := by rw [length_steps, ids, List.length_map]
  unfold Leads
  constructor
  · rintro ⟨e, he, rfl, rfl⟩
    obtain ⟨i, hi, rfl⟩ := List.getElem_of_mem (hsteps.mem_iff.mp he)
    have hnext : i + 1 < g.ids.length := by omega
    rw [getElem_steps hi hnext]
    exact ⟨i, hnext, rfl, rfl⟩
  · rintro ⟨i, hnext, rfl, rfl⟩
    have hi : i < g.steps.length := by omega
    refine ⟨g.steps[i], hsteps.mem_iff.mpr (List.getElem_mem hi), ?_⟩
    rw [getElem_steps hi hnext]
    exact ⟨rfl, rfl⟩

variable (hdistinct : g.ids.Nodup)
include hdistinct

theorem leads_getElem_iff {i j : Nat} (hi : i < g.ids.length) (hj : j < g.ids.length) :
    g.Leads g.ids[i] g.ids[j] ↔ i + 1 = j := by
  rw [leads_iff_exists hsteps]
  constructor
  · rintro ⟨k, hk, hsource, htarget⟩
    rw [hdistinct.getElem_inj_iff] at hsource htarget
    omega
  · rintro rfl
    exact ⟨i, hj, rfl, rfl⟩

theorem lt_of_path {s t : String} (hpath : g.Path s t) {i j : Nat} {hi : i < g.ids.length}
    {hj : j < g.ids.length} (hs : g.ids[i] = s) (ht : g.ids[j] = t) : i < j := by
  induction hpath generalizing j with
  | single hlead =>
    subst hs ht
    have hnext := (leads_getElem_iff hsteps hdistinct hi hj).mp hlead
    omega
  | tail _ hlead ih =>
    obtain ⟨k, hk, hmid, htarget⟩ := (leads_iff_exists hsteps).mp hlead
    have hbefore : i < k := ih hmid
    rw [← ht, hdistinct.getElem_inj_iff] at htarget
    omega

theorem path_of_lt {i j : Nat} (hij : i < j) (hj : j < g.ids.length) :
    g.Path g.ids[i] g.ids[j] := by
  induction j, hij using Nat.le_induction with
  | base => exact .single ((leads_getElem_iff hsteps hdistinct _ hj).mpr rfl)
  | succ j hij ih =>
    have hlast : j < g.ids.length := by omega
    exact .tail (ih hlast) ((leads_getElem_iff hsteps hdistinct hlast hj).mpr rfl)

theorem linear_of_perm_steps : g.Linear where
  edges_nodup := by
    rw [hsteps.nodup_iff]
    refine List.pairwise_iff_getElem.mpr fun i j hi hj hij heq => ?_
    have hlength : g.steps.length = g.ids.length - 1 := by rw [length_steps, ids, List.length_map]
    rw [getElem_steps hi (by omega), getElem_steps hj (by omega)] at heq
    have hsource := hdistinct.getElem_inj_iff.mp (congrArg Edge.source heq)
    omega
  leads_iff _ _ := leads_getElem_iff hsteps hdistinct
  path_iff i j hi hj :=
    ⟨fun h => lt_of_path hsteps hdistinct h rfl rfl, fun h => path_of_lt hsteps hdistinct h hj⟩

end

section
variable {k : Nat} (hedges : g.edges = g.steps.rotate k)
include hedges

theorem length_edges_of_rotate : g.edges.length = g.nodes.length - 1 := by
  rw [hedges, List.length_rotate, length_steps]

theorem linear_of_rotate (hdistinct : g.ids.Nodup) : g.Linear :=
  linear_of_perm_steps (hedges ▸ List.rotate_perm g.steps k) hdistinct

end
end Graph

/-! ## Compiled pipelines -/

section
variable {d : Document} {tasks : List Task} (hw : d.workflow = none) (hp : d.pipeline = some tasks)
include hw hp

theorem Document.graph_of_pipeline : d.graph = Graph.ofPipeline tasks := by
  simp [graph, hw, hp]

theorem Document.entry?_of_pipeline : d.entry? = tasks.head? := by
  unfold entry? Document.tasks
  simp [hw, hp]

namespace Compiler

variable (c : Compiler)

theorem compile_manual_pipeline_nodes :
    (c.compile .manual d).nodes = tasks.map fun t => c.decorate t.runNode := by
  rw [c.compile_manual_nodes, Document.graph_of_pipeline hw hp, Graph.ofPipeline, List.map_map]
  rfl

theorem compile_manual_pipeline_kind : ∀ n ∈ (c.compile .manual d).nodes, n.kind = .task := by
  rw [compile_manual_pipeline_nodes hw hp, List.forall_mem_map]
  exact fun t _ => c.decorate_kind t.runNode

theorem compile_manual_pipeline_ids : (c.compile .manual d).ids = tasks.map Task.ref := by
  rw [c.compile_manual, c.withIcons_ids, Document.graph_of_pipeline hw hp, Graph.ofPipeline_ids]

/-- Without a trigger the edges are in the order of the nodes. -/
theorem compile_manual_pipeline_edges :
    (c.compile .manual d).edges = (c.compile .manual d).steps := by
  rw [Graph.steps, compile_manual_pipeline_ids hw hp, c.compile_manual_edges,
    Document.graph_of_pipeline hw hp, Graph.ofPipeline_edges, Graph.steps, Graph.ofPipeline_ids]

theorem compile_pipeline_of_no_trigger {launch : Launch}
    (hno : Trigger.resolve launch d.trigger = none ∨ tasks = []) :
    c.compile launch d = c.compile .manual d := by
  refine c.compile_of_no_trigger (hno.imp_right ?_)
  rintro rfl
  exact Document.entry?_of_pipeline hw hp

/-- With a trigger the first step is the last edge. -/
theorem compile_pipeline_edges_of_trigger {launch : Launch} {t : Trigger}
    (ht : Trigger.resolve launch d.trigger = some t) (hne : tasks ≠ []) :
    (c.compile launch d).nodes = c.decorate t.node :: (c.compile .manual d).nodes ∧
      (c.compile launch d).edges = (c.compile launch d).steps.rotate 1 := by
  obtain ⟨e, rest, rfl⟩ := List.exists_cons_of_ne_nil hne
  have hgraph := c.compile_of_trigger ht (Document.entry?_of_pipeline hw hp)
  have hmanual := compile_manual_pipeline_ids hw hp c
  have hids : (c.compile launch d).ids = t.node.id :: e.ref :: rest.map Task.ref := by
    rw [hgraph, Graph.ids, List.map_cons, c.decorate_id]
    exact congrArg _ hmanual
  have hedges : (c.compile .manual d).edges =
      List.zipWith Edge.flow (e.ref :: rest.map Task.ref) (rest.map Task.ref) := by
    rw [compile_manual_pipeline_edges hw hp, Graph.steps, hmanual]
    rfl
  refine ⟨by rw [hgraph], ?_⟩
  rw [Graph.steps_eq_cons hids, List.rotate_cons_succ, List.rotate_zero, ← hedges, hgraph]

end Compiler

/-- The graph of a pipeline has a node of the same kind for each task, and perhaps one of a trigger
in front. Its edges are those from each node to the next, in this order, but for the edge from the
trigger, which comes last. So if the ids are distinct the graph is one path through all nodes. -/
theorem compile_pipeline_linear (c : Compiler) (launch : Launch) :
    let g := c.compile launch d
    ∃ (trigger : Option Node) (shown : List Node),
      (trigger.isSome ↔ d.HasTrigger launch ∧ tasks ≠ []) ∧
      g.nodes = trigger.toList ++ shown ∧
      (∀ n ∈ trigger, n.kind = .cron ∨ n.kind = .webhook) ∧
      (∀ n ∈ shown, n.kind = .task) ∧
      shown.map Node.id = tasks.map Task.ref ∧
      g.edges.length = g.nodes.length - 1 ∧
      g.edges = g.steps.rotate trigger.toList.length ∧
      (g.ids.Nodup → g.Linear) := by
  intro g
  have hkinds := Compiler.compile_manual_pipeline_kind hw hp c
  have hrefs := Compiler.compile_manual_pipeline_ids hw hp c
  rw [Document.hasTrigger_iff]
  by_cases hno : Trigger.resolve launch d.trigger = none ∨ tasks = []
  · have hgraph : g = c.compile .manual d := c.compile_pipeline_of_no_trigger hw hp hno
    have hedges : g.edges = g.steps.rotate 0 := by
      rw [List.rotate_zero, hgraph]
      exact Compiler.compile_manual_pipeline_edges hw hp c
    refine ⟨none, (c.compile .manual d).nodes, ?_, by rw [hgraph]; rfl, by simp, hkinds, hrefs,
      Graph.length_edges_of_rotate hedges, hedges, Graph.linear_of_rotate hedges⟩
    rcases hno with htrigger | htasks
    · simp [htrigger]
    · simp [htasks]
  · obtain ⟨htrigger, hne⟩ := not_or.mp hno
    obtain ⟨t, ht⟩ := Option.ne_none_iff_exists'.mp htrigger
    obtain ⟨hnodes, hedges⟩ := c.compile_pipeline_edges_of_trigger hw hp ht hne
    refine ⟨some (c.decorate t.node), (c.compile .manual d).nodes, by simp [ht, hne], hnodes, ?_,
      hkinds, hrefs, Graph.length_edges_of_rotate hedges, hedges, Graph.linear_of_rotate hedges⟩
    intro n hn
    obtain rfl := Option.some.inj hn
    rw [c.decorate_kind]
    exact t.node_kind

end

/-- A pipeline that would have a start, an end and a join, were it a workflow. -/
def scheduledPipeline : Document where
  trigger := some { schedule := some "0 * * * *" }
  pipeline := some [{ ref := "a", tag := "start" }, { ref := "b", tag := "t", needs := ["a", "a"] },
    { ref := "c", tag := "end", needs := ["a", "a"] }]

theorem compile_pipeline_linear_scheduled :
    scheduledPipeline.workflow = none ∧ scheduledPipeline.pipeline.isSome ∧
      (({} : Compiler).compile .cron scheduledPipeline).ids = ["CRON", "a", "b", "c"] ∧
      (({} : Compiler).compile .cron scheduledPipeline).edges =
        [.flow "a" "b", .flow "b" "c", .flow "CRON" "a"] ∧
      (({} : Compiler).compile .cron scheduledPipeline).Linear := by
  obtain ⟨trigger, shown, hsome, _, _, _, _, _, hedges, hlinear⟩ :=
    compile_pipeline_linear (d := scheduledPipeline) rfl rfl {} .cron
  have hids : (({} : Compiler).compile .cron scheduledPipeline).ids = ["CRON", "a", "b", "c"] := by
    decide +kernel
  have htrigger : trigger.isSome := hsome.mpr ⟨⟨_, rfl, _, rfl, by decide⟩, List.cons_ne_nil _ _⟩
  refine ⟨rfl, rfl, hids, ?_, hlinear (hids ▸ by decide)⟩
  obtain ⟨n, rfl⟩ := Option.isSome_iff_exists.mp htrigger
  rw [hedges, Graph.steps, hids]
  rfl

end TaskGraph
