-- SUMMARY: The nodes of a compiled graph, in their order: trigger, tasks, shared keys.
import TaskGraph.Proofs.JoinOrder
import TaskGraph.Proofs.TriggerNode

/-!
# The list of nodes

A compiled graph lists first the node of the trigger, if it has one, then the tasks in the
order of the document, then a join node for each shared key. Nothing sorts the keys: they
come in the order in which the first task with each of them is declared, because targets
are grouped in the order in which they occur.
-/
namespace TaskGraph

/-! ## Tasks -/

/-- What a node shows of its task. -/
structure Node.Shows (n : Node) (t : Task) : Prop where
  kind : n.kind = .start ∨ n.kind = .finish ∨ n.kind = .task
  id : n.id = t.ref
  description : n.description = t.name.getD t.ref

theorem Task.node_shows (t : Task) : t.node.Shows t := by
  unfold Task.node
  split
  · exact ⟨.inl rfl, rfl, rfl⟩
  · split
    · exact ⟨.inr (.inl rfl), rfl, rfl⟩
    · exact ⟨.inr (.inr rfl), rfl, rfl⟩

theorem Task.runNode_shows (t : Task) : t.runNode.Shows t :=
  ⟨.inr (.inr rfl), rfl, rfl⟩

namespace Compiler

variable (c : Compiler)

theorem decorate_shows {n : Node} {t : Task} (h : n.Shows t) : (c.decorate n).Shows t where
  kind := by rw [c.decorate_kind]; exact h.kind
  id := by rw [c.decorate_id]; exact h.id
  description := by rw [c.decorate_description]; exact h.description

/-- Join nodes have no key for an icon. -/
theorem decorate_keyNode (k : String) : c.decorate (Join.keyNode k) = Join.keyNode k := by
  unfold decorate
  split <;> rfl

end Compiler

/-! ## Keys in the order of their first tasks -/

/-- The keys of items, each once, come in the order of the first items with them. -/
theorem pairwise_eraseDups_filterMap {α β : Type} [DecidableEq β] (key : α → Option β)
    (items : List α) :
    (items.filterMap key).eraseDups.Pairwise fun k l =>
      items.findIdx (key · == some k) < items.findIdx (key · == some l) := by
  induction items generalizing key with
  | nil => simp
  | cons a as ih =>
    cases ha : key a with
    | none =>
      rw [List.filterMap_cons_none ha]
      refine (ih key).imp ?_
      intro k l hlt
      simpa [List.findIdx_cons, ha] using hlt
    | some b =>
      rw [List.filterMap_cons_some ha, List.eraseDups_cons, List.filter_filterMap,
        List.pairwise_cons]
      -- The other keys are those of the other items, where `b` is no key any more.
      have hother : ∀ {l}, l ∈ (as.filterMap fun x => (key x).filter (!· == b)).eraseDups →
          (b == l) = false := by
        intro l hl
        obtain ⟨x, _, hx⟩ := List.mem_filterMap.mp (List.mem_eraseDups.mp hl)
        have hne := (Option.filter_eq_some_iff.mp hx).2
        exact beq_false_of_ne (Ne.symm (by simpa using hne))
      constructor
      · intro l hl
        simp [List.findIdx_cons, ha, hother hl]
      · refine (ih fun x => (key x).filter (!· == b)).imp_of_mem ?_
        intro k l hk hl hlt
        have hsame : ∀ {m}, (b == m) = false → ∀ x,
            ((key x).filter (!· == b) == some m) = (key x == some m) := by
          intro m hm x
          have hmb : (m == b) = false := beq_false_of_ne (ne_of_beq_false hm).symm
          rw [Bool.eq_iff_iff, beq_iff_eq, beq_iff_eq, Option.filter_eq_some_iff]
          simp [hmb]
        simp only [hsame (hother hk), hsame (hother hl)] at hlt
        simpa [List.findIdx_cons, ha, hother hk, hother hl] using hlt

/-- The key of two or more needs. -/
def Task.joinKey? (t : Task) : Option String :=
  if 2 ≤ t.needs.length then some (Join.key t.needs) else none

theorem Task.joinKey?_eq_some_iff {t : Task} {k : String} :
    t.joinKey? = some k ↔ t.Converges k := by
  simp [joinKey?, Converges]

/-- The keys of the join nodes of a document. -/
structure Document.ListsKeys (d : Document) (keys : List String) : Prop where
  /-- They are the keys that two or more tasks of a workflow share. -/
  mem : ∀ k, k ∈ keys ↔ d.HasJoin k
  /-- The first task with one key is declared before the first task with the next. -/
  order : keys.Pairwise fun k l =>
    d.tasks.findIdx (fun t => t.Converges k) < d.tasks.findIdx (fun t => t.Converges l)

theorem Document.ListsKeys.nodup {d : Document} {keys : List String} (h : d.ListsKeys keys) :
    keys.Nodup := by
  refine h.order.imp ?_
  rintro k l hlt rfl
  exact Nat.lt_irrefl _ hlt

section
variable {tasks : List Task} (hrefs : (tasks.map Task.ref).Nodup)
include hrefs

theorem convergence_keys_ofWorkflow :
    (Join.convergences (Graph.ofWorkflow tasks).edges).map Join.Convergence.key =
      tasks.filterMap Task.joinKey? := by
  rw [convergences_ofWorkflow hrefs, List.map_map, ← List.filterMap_eq_map,
    List.filterMap_filter]
  refine List.filterMap_congr fun t _ => ?_
  simp [Task.joinKey?, Task.convergence]

theorem group_keys_pairwise :
    ((Join.groups (Graph.ofWorkflow tasks).edges).map Join.Group.key).Pairwise fun k l =>
      tasks.findIdx (fun t => t.Converges k) < tasks.findIdx (fun t => t.Converges l) := by
  have hfind : ∀ k, (fun t : Task => t.joinKey? == some k) = fun t => decide (t.Converges k) := by
    intro k
    funext t
    rw [Bool.eq_iff_iff, beq_iff_eq, decide_eq_true_eq, Task.joinKey?_eq_some_iff]
  have hpairwise := pairwise_eraseDups_filterMap Task.joinKey? tasks
  simp only [hfind] at hpairwise
  rw [Join.keys_eq_filter, convergence_keys_ofWorkflow hrefs]
  exact hpairwise.sublist List.filter_sublist

end

/-! ## The list of nodes -/

namespace Document

variable {d : Document} {tasks : List Task}

theorem joinIds_of_workflow (hw : d.workflow = some tasks) :
    d.joinIds = (Join.groups (Graph.ofWorkflow tasks).edges).map Join.Group.key := by
  rw [← Graph.joinNodes_ids, joinIds, hw]

theorem joinIds_of_no_workflow (hw : d.workflow = none) : d.joinIds = [] := by
  rw [joinIds, hw]

theorem listsKeys_joinIds {text : String} (h : parse text = .ok d) : d.ListsKeys d.joinIds where
  mem _ := mem_joinIds h
  order := by
    cases hw : d.workflow with
    | some tasks =>
      rw [joinIds_of_workflow hw, tasks_eq hw]
      exact group_keys_pairwise (workflow_refs_nodup h hw)
    | none =>
      rw [joinIds_of_no_workflow hw]
      exact .nil

/-- Without trigger and icons the nodes are those of the tasks and of the shared keys. -/
theorem graph_nodes (d : Document) :
    ∃ shown, d.graph.nodes = shown ++ d.joinIds.map Join.keyNode ∧
      List.Forall₂ Node.Shows shown d.tasks := by
  have hshown : ∀ (node : Task → Node), (∀ t, (node t).Shows t) → ∀ tasks : List Task,
      List.Forall₂ Node.Shows (tasks.map node) tasks := by
    intro node hnode tasks
    rw [List.forall₂_map_left_iff, List.forall₂_same]
    exact fun t _ => hnode t
  cases hw : d.workflow with
  | some tasks =>
    refine ⟨tasks.map Task.node, ?_, ?_⟩
    · rw [graph_of_workflow hw, Graph.withJoins_nodes, Graph.joinNodes_eq_map,
        joinIds_of_workflow hw]
      rfl
    · rw [tasks_eq hw]
      exact hshown _ Task.node_shows tasks
  | none =>
    rw [joinIds_of_no_workflow hw, graph, tasks, hw]
    cases d.pipeline with
    | some tasks =>
      refine ⟨tasks.map Task.runNode, ?_, ?_⟩
      · simp [Graph.ofPipeline]
      · exact hshown _ Task.runNode_shows tasks
    | none => exact ⟨[], rfl, .nil⟩

end Document

theorem Compiler.compile_manual_nodes_eq (c : Compiler) (d : Document) :
    ∃ shown, (c.compile .manual d).nodes = shown ++ d.joinIds.map Join.keyNode ∧
      List.Forall₂ Node.Shows shown d.tasks := by
  obtain ⟨shown, hnodes, hshown⟩ := d.graph_nodes
  refine ⟨shown.map c.decorate, ?_, ?_⟩
  · rw [c.compile_manual_nodes, hnodes, List.map_append, List.map_map]
    congr 1
    exact List.map_congr_left fun k _ => c.decorate_keyNode k
  · rw [List.forall₂_map_left_iff]
    exact hshown.imp fun _ _ => c.decorate_shows

/-- The nodes of the graph of a document that was read: the trigger if there is one, then
each task in the order of the document, then a join node for each shared key in the order of
the first tasks with the keys, and no others. -/
theorem compile_nodes_listed (c : Compiler) (launch : Launch) {text : String} {d : Document}
    (h : Document.parse text = .ok d) :
    ∃ (trigger : Option Node) (shown : List Node) (keys : List String),
      (c.compile launch d).nodes = trigger.toList ++ (shown ++ keys.map Join.keyNode) ∧
      (∀ n ∈ trigger, n.kind = .cron ∨ n.kind = .webhook) ∧
      List.Forall₂ Node.Shows shown d.tasks ∧ d.ListsKeys keys := by
  obtain ⟨trigger, hnodes, hkind⟩ := c.compile_nodes_eq_append launch d
  obtain ⟨shown, htasks, hshown⟩ := c.compile_manual_nodes_eq d
  refine ⟨trigger, shown, d.joinIds, ?_, hkind, hshown, Document.listsKeys_joinIds h⟩
  rw [hnodes, htasks]

theorem compile_nodes_listed_sample :
    Document.parse sampleText = .ok sample ∧
      ∃ (trigger : Option Node) (shown : List Node),
        (({} : Compiler).compile .webhook sample).nodes =
          trigger.toList ++ (shown ++ [Join.keyNode "s_t"]) ∧
        (∀ n ∈ trigger, n.kind = .cron ∨ n.kind = .webhook) ∧
        List.Forall₂ Node.Shows shown sampleTasks := by
  obtain ⟨trigger, shown, keys, hnodes, hkind, hshown, hkeys⟩ :=
    compile_nodes_listed {} .webhook parse_sampleText
  have hmem : ∀ k, k ∈ keys ↔ k ∈ ["s_t"] := by
    intro k
    rw [hkeys.mem, sample_hasJoin_iff, List.mem_singleton]
  have hperm : keys.Perm ["s_t"] :=
    (List.perm_ext_iff_of_nodup hkeys.nodup (List.nodup_singleton _)).mpr hmem
  obtain rfl : keys = ["s_t"] := List.perm_singleton.mp hperm
  exact ⟨parse_sampleText, trigger, shown, hnodes, hkind, hshown⟩

end TaskGraph
