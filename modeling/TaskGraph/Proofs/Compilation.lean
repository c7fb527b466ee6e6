-- SUMMARY: The ids of the graph that a document compiles to, and what its edges connect.
import TaskGraph.Compiler.Basic
import TaskGraph.Proofs.DocumentCheck
import TaskGraph.Proofs.Workflow

/-!
# Compiled documents

The ids of a compiled graph come from three places: the trigger, the tasks, and the
shared keys of a workflow. Icons change neither ids nor edges, and a trigger adds one
node in front and one edge at the end.
-/
namespace TaskGraph

def Graph.ids (g : Graph) : List String := g.nodes.map Node.id

/-- The ids of the nodes that are joins. -/
def Graph.joinIds (g : Graph) : List String :=
  (g.nodes.filter (·.kind == .join)).map Node.id

namespace Document

/-- The tasks that the graph of the document shows. -/
def tasks (d : Document) : List Task := (d.workflow.or d.pipeline).getD []

/-- The task that a trigger leads to. -/
def entry? (d : Document) : Option Task :=
  match d.workflow with
  | some tasks => tasks.find? Task.isStart
  | none => d.tasks.head?

/-- The document is a workflow with a shared key `k`. -/
def HasJoin (d : Document) (k : String) : Prop :=
  ∃ tasks, d.workflow = some tasks ∧ SharedKey tasks k

/-- The ids of the join nodes. -/
def joinIds (d : Document) : List String :=
  match d.workflow with
  | some tasks => (Graph.ofWorkflow tasks).joinNodes.map Node.id
  | none => []

end Document

/-! ## Icons -/

namespace Compiler

variable (c : Compiler) (g : Graph)

/-- The node with its icon, if there is a catalog to look it up in. -/
def decorate (n : Node) : Node :=
  match c.catalog with
  | some catalog => n.withIcon (.ofCatalog catalog) c.shellIcon
  | none => n

theorem withIcons_eq : c.withIcons g = { g with nodes := g.nodes.map c.decorate } := by
  unfold withIcons
  cases hc : c.catalog with
  | none =>
    have hplain : c.decorate = id := by
      funext n
      simp [decorate, hc]
    simp [hplain]
  | some catalog =>
    have hicon : c.decorate = Node.withIcon (.ofCatalog catalog) c.shellIcon := by
      funext n
      simp [decorate, hc]
    simp [Graph.withIcons, hicon]

/-- Decorating a node changes nothing but its icon. -/
theorem decorate_eq (n : Node) : ∃ icon, c.decorate n = { n with icon } := by
  unfold decorate Node.withIcon
  split
  · split
    · exact ⟨n.icon, rfl⟩
    · exact ⟨_, rfl⟩
  · exact ⟨n.icon, rfl⟩

@[simp] theorem decorate_id (n : Node) : (c.decorate n).id = n.id := by
  obtain ⟨_, hn⟩ := c.decorate_eq n
  rw [hn]

@[simp] theorem decorate_kind (n : Node) : (c.decorate n).kind = n.kind := by
  obtain ⟨_, hn⟩ := c.decorate_eq n
  rw [hn]

@[simp] theorem decorate_description (n : Node) :
    (c.decorate n).description = n.description := by
  obtain ⟨_, hn⟩ := c.decorate_eq n
  rw [hn]

@[simp] theorem decorate_iconKey (n : Node) : (c.decorate n).iconKey = n.iconKey := by
  obtain ⟨_, hn⟩ := c.decorate_eq n
  rw [hn]

@[simp] theorem withIcons_joinIds : (c.withIcons g).joinIds = g.joinIds := by
  simp [withIcons_eq, Graph.joinIds, List.filter_map, Function.comp_def]

@[simp] theorem withIcons_ids : (c.withIcons g).ids = g.ids := by
  simp [withIcons_eq, Graph.ids, Function.comp_def]

@[simp] theorem withIcons_edges : (c.withIcons g).edges = g.edges := by
  rw [withIcons_eq]

end Compiler

/-! ## Triggers -/

theorem Trigger.webhook_node_kind (name : Option String) :
    (Trigger.webhook name).node.kind = .webhook := by
  cases name <;> rfl

theorem Trigger.webhook_node_iconKey (name : Option String) :
    (Trigger.webhook name).node.iconKey = name := by
  cases name <;> rfl

theorem Trigger.node_kind (t : Trigger) : t.node.kind = .cron ∨ t.node.kind = .webhook := by
  cases t with
  | cron schedule => exact .inl rfl
  | webhook name => exact .inr (webhook_node_kind name)

namespace Graph

variable (g : Graph) (trigger : Option Trigger)

theorem withTrigger_ids :
    (g.withTrigger trigger).ids =
      (trigger.bind fun t => g.entry?.map fun _ => t.node.id).toList ++ g.ids := by
  unfold withTrigger
  cases trigger with
  | none => rfl
  | some t => cases g.entry? <;> simp [ids]

theorem withTrigger_joinIds : (g.withTrigger trigger).joinIds = g.joinIds := by
  unfold withTrigger
  cases trigger with
  | none => rfl
  | some t =>
    have hkind : (t.node.kind == .join) = false := by
      rcases t.node_kind with h | h <;> rw [h] <;> rfl
    cases g.entry? <;> simp [joinIds, hkind]

theorem withTrigger_leads {s r : String} :
    (g.withTrigger trigger).Leads s r ↔
      g.Leads s r ∨ ∃ t ∈ trigger, t.node.id = s ∧ r ∈ g.entry?.map Node.id := by
  unfold withTrigger
  cases trigger with
  | none => simp
  | some t =>
    cases g.entry? with
    | none => simp
    | some e => simp [Leads, or_and_right, exists_or, Edge.flow]

end Graph

/-! ## The tasks of a document -/

theorem Task.node_id (t : Task) : t.node.id = t.ref := by
  unfold Task.node
  split
  · rfl
  · split <;> rfl

theorem Task.node_isStart (t : Task) : (t.node.kind == .start) = t.isStart := by
  unfold Task.node
  by_cases hstart : t.isStart
  · simp [hstart, Task.plainNode]
  · by_cases hfinish : t.isFinish <;> simp [hstart, hfinish, Task.plainNode, Task.runNode]

theorem Task.node_kind_ne_join (t : Task) : t.node.kind ≠ .join := by
  unfold Task.node
  split
  · simp [Task.plainNode]
  · split <;> simp [Task.plainNode, Task.runNode]

namespace Graph

theorem ofWorkflow_ids (tasks : List Task) : (ofWorkflow tasks).ids = tasks.map Task.ref := by
  simp [ids, ofWorkflow, Task.node_id, Function.comp_def]

theorem ofPipeline_ids (tasks : List Task) : (ofPipeline tasks).ids = tasks.map Task.ref := by
  simp [ids, ofPipeline, Task.runNode, Task.plainNode, Function.comp_def]

theorem withJoins_ids (g : Graph) : g.withJoins.ids = g.ids ++ g.joinNodes.map Node.id := by
  simp [ids, withJoins_nodes]

end Graph

namespace Document

theorem graph_ids (d : Document) : d.graph.ids = d.tasks.map Task.ref ++ d.joinIds := by
  unfold graph tasks joinIds
  cases d.workflow with
  | some tasks =>
    rw [Graph.withJoins_ids, Graph.ofWorkflow_ids]
    rfl
  | none =>
    cases d.pipeline with
    | some tasks => simp [Graph.ofPipeline_ids]
    | none => rfl

theorem graph_joinIds (d : Document) : d.graph.joinIds = d.joinIds := by
  unfold graph joinIds Graph.joinIds
  cases d.workflow with
  | some tasks =>
    have htask : (Graph.ofWorkflow tasks).nodes.filter (·.kind == .join) = [] := by
      rw [List.filter_eq_nil_iff]
      intro n hn
      obtain ⟨t, _, rfl⟩ := List.mem_map.mp hn
      simp [t.node_kind_ne_join]
    have hjoin : (Graph.ofWorkflow tasks).joinNodes.filter (·.kind == .join) =
        (Graph.ofWorkflow tasks).joinNodes := by
      rw [List.filter_eq_self]
      intro j hj
      simp [Graph.kind_of_mem_joinNodes hj]
    simp only [Graph.withJoins_nodes, List.filter_append, htask, hjoin, List.nil_append]
  | none =>
    cases d.pipeline with
    | some tasks =>
      simp [Graph.ofPipeline, Task.runNode, Task.plainNode]
    | none => rfl

/-- Join nodes do not compete with tasks for the entry of a graph. -/
theorem graph_entry? (d : Document) : d.graph.entry?.map Node.id = d.entry?.map Task.ref := by
  unfold graph entry? tasks
  cases d.workflow with
  | some tasks =>
    have hjoin : (Graph.ofWorkflow tasks).joinNodes.find? (·.kind == .start) = none := by
      rw [List.find?_eq_none]
      intro j hj
      simp [Graph.kind_of_mem_joinNodes hj]
    have htask : (Graph.ofWorkflow tasks).nodes.find? (·.kind == .start) =
        (tasks.find? Task.isStart).map Task.node := by
      rw [Graph.ofWorkflow, List.find?_map]
      simp only [Function.comp_def, Task.node_isStart]
    have hentry : (Graph.ofWorkflow tasks).withJoins.entry? =
        (tasks.find? Task.isStart).map Task.node := by
      change (Graph.ofWorkflow tasks).withJoins.nodes.find? (·.kind == .start) = _
      rw [Graph.withJoins_nodes, List.find?_append, hjoin, htask, Option.or_none]
    simp [hentry, Function.comp_def, Task.node_id]
  | none =>
    cases d.pipeline with
    | some tasks => cases tasks <;> rfl
    | none => rfl

/-- What holds of the nodes of tasks, joins and triggers holds of every node of a graph that has
no icons yet. -/
theorem forall_mem_withTrigger_nodes {P : Node → Prop} (hnode : ∀ t : Task, P t.node)
    (hrun : ∀ t : Task, P t.runNode) (hjoin : ∀ k, P (Join.keyNode k))
    (htrigger : ∀ t : Trigger, P t.node) (d : Document) (trigger : Option Trigger) :
    ∀ n ∈ (d.graph.withTrigger trigger).nodes, P n := by
  have hgraph : ∀ n ∈ d.graph.nodes, P n := by
    unfold graph
    split
    · rw [Graph.withJoins_nodes, Graph.joinNodes_eq_map, List.forall_mem_append,
        List.forall_mem_map]
      exact ⟨List.forall_mem_map.mpr fun t _ => hnode t, fun k _ => hjoin k⟩
    · exact List.forall_mem_map.mpr fun t _ => hrun t
    · exact List.forall_mem_nil P
  unfold Graph.withTrigger
  split
  · exact List.forall_mem_cons.mpr ⟨htrigger _, hgraph⟩
  · exact hgraph

theorem joinIds_nodup (d : Document) : d.joinIds.Nodup := by
  unfold joinIds
  split
  · exact Graph.joinNodes_ids_nodup _
  · exact List.nodup_nil

variable {text : String} {d : Document}

theorem tasks_eq {tasks : List Task} (hw : d.workflow = some tasks) : d.tasks = tasks := by
  simp [Document.tasks, hw]

theorem refs_nodup (h : parse text = .ok d) : (d.tasks.map Task.ref).Nodup := by
  unfold tasks
  cases hw : d.workflow with
  | some tasks => exact workflow_refs_nodup h hw
  | none =>
    cases hp : d.pipeline with
    | some tasks => exact pipeline_refs_nodup h hp
    | none => exact List.nodup_nil

/-- The join nodes of a document that was read are its shared keys. -/
theorem mem_joinIds (h : parse text = .ok d) {k : String} : k ∈ d.joinIds ↔ d.HasJoin k := by
  unfold joinIds HasJoin
  cases hw : d.workflow with
  | some tasks =>
    simp only [Graph.mem_joinNodes_ids, isShared_ofWorkflow (workflow_refs_nodup h hw)]
    simp
  | none => simp

section
variable {tasks : List Task} (hw : d.workflow = some tasks)
include hw

theorem hasJoin_iff {k : String} : d.HasJoin k ↔ SharedKey tasks k := by
  simp [HasJoin, hw]

theorem graph_of_workflow : d.graph = (Graph.ofWorkflow tasks).withJoins := by
  simp [graph, hw]

theorem graph_leads_iff_wired (h : parse text = .ok d) {s r : String} :
    d.graph.Leads s r ↔ Wired tasks s r := by
  rw [graph_of_workflow hw]
  exact leads_iff_wired (workflow_refs_nodup h hw)

end
end Document

/-! ## The compiled graph -/

namespace Compiler

variable (c : Compiler) (launch : Launch) (d : Document)

theorem compile_ids :
    (c.compile launch d).ids =
      ((Trigger.resolve launch d.trigger).bind fun t => d.entry?.map fun _ => t.node.id).toList ++
        (d.tasks.map Task.ref ++ d.joinIds) := by
  have hentry : ∀ id : String,
      (d.graph.entry?.map fun _ => id) = d.entry?.map fun _ => id := by
    intro id
    have h := congrArg (Option.map fun _ => id) d.graph_entry?
    simpa [Function.comp_def] using h
  simp only [compile, withIcons_ids, Graph.withTrigger_ids, hentry, Document.graph_ids]

/-- The joins of a compiled graph are those of the document. -/
theorem compile_joinIds : (c.compile launch d).joinIds = d.joinIds := by
  simp only [compile, withIcons_joinIds, Graph.withTrigger_joinIds, Document.graph_joinIds]

theorem compile_leads {s r : String} :
    (c.compile launch d).Leads s r ↔
      d.graph.Leads s r ∨
        ∃ t ∈ Trigger.resolve launch d.trigger, t.node.id = s ∧ r ∈ d.entry?.map Task.ref := by
  rw [← Document.graph_entry?, ← Graph.withTrigger_leads]
  simp only [compile, Graph.Leads, withIcons_edges]

/-- Without a trigger only the tasks and their joins are connected. -/
theorem compile_manual_leads {s r : String} :
    (c.compile .manual d).Leads s r ↔ d.graph.Leads s r := by
  simp [compile_leads, Trigger.resolve]

end Compiler

/-! ## A sample -/

/-- A workflow with a named trigger and two tasks that wait for the same two. -/
def sampleText : String :=
  "trigger:\n  webhook: hook@ci\n" ++
  "workflow:\n" ++
  "- ref: s\n  task: start\n" ++
  "- ref: t\n  task: t\n  needs: [s]\n" ++
  "- ref: x\n  task: t\n  needs: [s, t]\n" ++
  "- ref: y\n  task: t\n  needs: [t, s]\n"

def sampleTasks : List Task :=
  [{ ref := "s", tag := "start" }, { ref := "t", tag := "t", needs := ["s"] },
    { ref := "x", tag := "t", needs := ["s", "t"] }, { ref := "y", tag := "t", needs := ["t", "s"] }]

def sample : Document :=
  { trigger := some { webhook := some "hook@ci" }, workflow := some sampleTasks }

theorem parse_sampleText : Document.parse sampleText = .ok sample :=
  Document.parse_of_toOption (by decide +kernel)

theorem sample_converges {t : Task} (ht : t ∈ sampleTasks) {k : String} (hk : t.Converges k) :
    k = "s_t" ∧ (t.ref = "x" ∨ t.ref = "y") := by
  have hkeys : ∀ t ∈ sampleTasks, 2 ≤ t.needs.length →
      Join.key t.needs = "s_t" ∧ (t.ref = "x" ∨ t.ref = "y") := by
    rw [Join.key_eq_insertionSort]
    decide +kernel
  obtain ⟨hkey, href⟩ := hkeys t ht hk.1
  exact ⟨hk.2.symm.trans hkey, href⟩

theorem sample_hasJoin_iff {k : String} : sample.HasJoin k ↔ k = "s_t" := by
  rw [Document.hasJoin_iff rfl]
  constructor
  · rintro ⟨s, hs, _, _, _, hconv, _⟩
    exact (sample_converges hs hconv).1
  · rintro rfl
    have hkeys : Join.key ["s", "t"] = "s_t" ∧ Join.key ["t", "s"] = "s_t" := by
      rw [Join.key_eq_insertionSort]
      decide +kernel
    exact ⟨{ ref := "x", tag := "t", needs := ["s", "t"] }, by decide,
      { ref := "y", tag := "t", needs := ["t", "s"] }, by decide, by decide,
      ⟨by decide, hkeys.1⟩, ⟨by decide, hkeys.2⟩⟩

/-! ## Distinct ids -/

section
variable {text : String} {d : Document} (h : Document.parse text = .ok d)
include h

theorem refs_apart_iff :
    (∀ r ∈ d.tasks.map Task.ref, ∀ k ∈ d.joinIds, r ≠ k) ↔
      ∀ t ∈ d.tasks, ¬ d.HasJoin t.ref := by
  simp only [List.mem_map, Document.mem_joinIds h]
  constructor
  · intro hne t ht hjoin
    exact hne t.ref ⟨t, ht, rfl⟩ t.ref hjoin rfl
  · rintro hfree _ ⟨t, ht, rfl⟩ k hk rfl
    exact hfree t ht hk

theorem id_apart_iff (id : String) :
    (∀ r ∈ d.tasks.map Task.ref ++ d.joinIds, id ≠ r) ↔
      (∀ t ∈ d.tasks, t.ref ≠ id) ∧ ¬ d.HasJoin id := by
  simp only [List.mem_append, List.mem_map, or_imp, forall_and, Document.mem_joinIds h]
  constructor
  · intro hapart
    obtain ⟨hrefs, hjoins⟩ := hapart
    exact ⟨fun t ht heq => hrefs t.ref ⟨t, ht, rfl⟩ heq.symm, fun hjoin => hjoins id hjoin rfl⟩
  · intro hapart
    obtain ⟨hrefs, hjoin⟩ := hapart
    refine ⟨?_, ?_⟩
    · rintro _ ⟨t, ht, rfl⟩ heq
      exact hrefs t ht heq.symm
    · rintro k hk rfl
      exact hjoin hk

end

/-- The ids of the graph of a document that was read are distinct exactly if no shared
key is the reference of a task and the id of the trigger, if there is a task that it
leads to, is neither the reference of a task nor a shared key. -/
theorem compile_ids_nodup_iff (c : Compiler) (launch : Launch) {text : String} {d : Document}
    (h : Document.parse text = .ok d) :
    (c.compile launch d).ids.Nodup ↔
      (∀ t ∈ d.tasks, ¬ d.HasJoin t.ref) ∧
      ∀ trigger, Trigger.resolve launch d.trigger = some trigger → d.entry?.isSome →
        (∀ t ∈ d.tasks, t.ref ≠ trigger.node.id) ∧ ¬ d.HasJoin trigger.node.id := by
  have htasks : (d.tasks.map Task.ref ++ d.joinIds).Nodup ↔ ∀ t ∈ d.tasks, ¬ d.HasJoin t.ref := by
    rw [List.nodup_append, ← refs_apart_iff h]
    exact ⟨fun hnodup => hnodup.2.2, fun hne => ⟨Document.refs_nodup h, d.joinIds_nodup, hne⟩⟩
  rw [c.compile_ids, List.nodup_append, htasks]
  cases Trigger.resolve launch d.trigger with
  | none => simp
  | some trigger =>
    cases d.entry? with
    | none => simp
    | some e =>
      have hid := id_apart_iff h trigger.node.id
      simp only [Option.bind_some, Option.map_some, Option.toList_some, List.nodup_singleton,
        true_and, List.mem_singleton, forall_eq, hid, Option.some.injEq, Option.isSome_some,
        forall_true_left, forall_eq']

theorem compile_ids_nodup_sample :
    Document.parse sampleText = .ok sample ∧
      (({} : Compiler).compile .webhook sample).ids.Nodup := by
  have hjoin : ∀ k, sample.HasJoin k → k = "s_t" := by
    rintro k ⟨tasks, hw, s, hs, _, _, _, hconv, _⟩
    obtain rfl : sampleTasks = tasks := Option.some.inj hw
    exact (sample_converges hs hconv).1
  refine ⟨parse_sampleText, (compile_ids_nodup_iff {} .webhook parse_sampleText).mpr ⟨?_, ?_⟩⟩
  · intro t ht hk
    have hne : ∀ t ∈ sample.tasks, t.ref ≠ "s_t" := by decide
    exact hne t ht (hjoin _ hk)
  · intro trigger htrigger _
    have hid : trigger.node.id = "hook" := by
      have hhook : (Trigger.resolve .webhook sample.trigger).map (·.node.id) = some "hook" := by
        decide +kernel
      rw [htrigger] at hhook
      exact Option.some.inj hhook
    rw [hid]
    refine ⟨by decide, fun hk => ?_⟩
    exact absurd (hjoin _ hk) (by decide)

/-- A task whose reference is the key of two others. -/
def clashText : String :=
  "workflow:\n" ++
  "- ref: a\n  task: t\n" ++
  "- ref: b\n  task: t\n" ++
  "- ref: a_b\n  task: t\n" ++
  "- ref: x\n  task: t\n  needs: [a, b]\n" ++
  "- ref: y\n  task: t\n  needs: [a, b]\n"

def clash : Document :=
  { workflow := some [{ ref := "a", tag := "t" }, { ref := "b", tag := "t" },
      { ref := "a_b", tag := "t" }, { ref := "x", tag := "t", needs := ["a", "b"] },
      { ref := "y", tag := "t", needs := ["a", "b"] }] }

/-- Distinct references alone do not make the ids of the graph distinct. -/
theorem clash_ids_not_nodup :
    Document.parse clashText = .ok clash ∧ ¬ (({} : Compiler).compile .manual clash).ids.Nodup := by
  refine ⟨Document.parse_of_toOption (by decide +kernel), ?_⟩
  unfold Compiler.compile Document.graph Graph.withJoins Join.groups Join.convergences
    Join.Convergence.of
  rw [Join.key_eq_insertionSort]
  decide +kernel

end TaskGraph
