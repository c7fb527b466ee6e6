-- SUMMARY: Workflows that list the same tasks and needs in another order compile to the same graph up to order.
import Mathlib.Data.List.Forall2
import TaskGraph.Proofs.JoinOrder
import TaskGraph.Proofs.TriggerNode

/-!
# Rearranged workflows

The order of tasks and of their needs is a matter of presentation. Rearranging a workflow
keeps the nodes of its graph up to order, join nodes included. It keeps the edges too if ids
with one key need the same, so that it does not matter whose needs lead to the join node;
as long as only needs are reordered, it does not matter in any case.
-/
namespace TaskGraph

/-! ## Rearrangements -/

/-- The same task, with its needs in any order. -/
inductive Task.Reordered (t : Task) : Task → Prop
  | mk {needs : List String} (h : t.needs.Perm needs) : Reordered t { t with needs }

/-- The same tasks in any order, each with its needs in any order. -/
def Rearranged (tasks tasks' : List Task) : Prop :=
  ∃ reordered, tasks.Perm reordered ∧ List.Forall₂ Task.Reordered reordered tasks'

namespace Task.Reordered

variable {t u : Task}

theorem node_eq (h : t.Reordered u) : t.node = u.node := by
  cases h
  rfl

theorem edges_perm (h : t.Reordered u) : t.edges.Perm u.edges := by
  cases h with
  | mk hneeds => exact hneeds.map _

theorem edge_targets_eq (h : t.Reordered u) :
    t.edges.map Edge.target = u.edges.map Edge.target := by
  cases h with
  | mk hneeds => simp [edges, Edge.flow, Function.comp_def, hneeds.length_eq]

end Task.Reordered

/-! ## The graph before joins -/

section
variable {tasks tasks' : List Task}

theorem plain_ofWorkflow (tasks : List Task) : Join.Plain (Graph.ofWorkflow tasks).edges := by
  intro e he
  obtain ⟨t, _, he⟩ := List.mem_flatMap.mp he
  obtain ⟨n, _, rfl⟩ := List.mem_map.mp he
  rfl

section
variable (h : List.Forall₂ Task.Reordered tasks tasks')
include h

theorem reordered_nodes_eq :
    (Graph.ofWorkflow tasks).nodes = (Graph.ofWorkflow tasks').nodes := by
  induction h with
  | nil => rfl
  | cons ht _ ih => exact congrArg₂ List.cons ht.node_eq ih

theorem reordered_edges_perm :
    (Graph.ofWorkflow tasks).edges.Perm (Graph.ofWorkflow tasks').edges := by
  induction h with
  | nil => rfl
  | cons ht _ ih => exact ht.edges_perm.append ih

theorem reordered_targets_eq :
    (Graph.ofWorkflow tasks).edges.map Edge.target =
      (Graph.ofWorkflow tasks').edges.map Edge.target := by
  simp only [Graph.ofWorkflow, List.map_flatMap]
  induction h with
  | nil => rfl
  | cons ht _ ih => exact congrArg₂ (· ++ ·) ht.edge_targets_eq ih

end

theorem Rearranged.nodes_perm (h : Rearranged tasks tasks') :
    (Graph.ofWorkflow tasks).nodes.Perm (Graph.ofWorkflow tasks').nodes := by
  obtain ⟨reordered, hperm, hreordered⟩ := h
  rw [← reordered_nodes_eq hreordered]
  exact hperm.map Task.node

theorem Rearranged.edges_perm (h : Rearranged tasks tasks') :
    (Graph.ofWorkflow tasks).edges.Perm (Graph.ofWorkflow tasks').edges := by
  obtain ⟨reordered, hperm, hreordered⟩ := h
  exact (hperm.flatMap_right Task.edges).trans (reordered_edges_perm hreordered)

end

/-! ## Needs of an id -/

/-- What the tasks with a reference need, taken together. -/
def needsOf (tasks : List Task) (r : String) : List String :=
  (tasks.filter (·.ref == r)).flatMap Task.needs

theorem sources_ofWorkflow (tasks : List Task) (r : String) :
    Join.sources (Graph.ofWorkflow tasks).edges r = needsOf tasks r := by
  rw [Join.sources, edges_into, List.map_flatMap, needsOf]
  induction tasks with
  | nil => rfl
  | cons t ts ih =>
    by_cases hr : t.ref = r
    · simp [hr, ih, Task.sources_edges]
    · simp [hr, ih]

/-- References with one key of two or more needs have the same needs. -/
def KeysTellNeeds (tasks : List Task) : Prop :=
  ∀ r s, 2 ≤ (needsOf tasks r).length → 2 ≤ (needsOf tasks s).length →
    Join.key (needsOf tasks r) = Join.key (needsOf tasks s) →
      (needsOf tasks r).Perm (needsOf tasks s)

theorem KeysTellNeeds.sources_perm {tasks : List Task} (h : KeysTellNeeds tasks) {r s k : String}
    (hr : Join.Converges (Graph.ofWorkflow tasks).edges r k)
    (hs : Join.Converges (Graph.ofWorkflow tasks).edges s k) :
    (Join.sources (Graph.ofWorkflow tasks).edges r).Perm
      (Join.sources (Graph.ofWorkflow tasks).edges s) := by
  simp only [Join.Converges, sources_ofWorkflow] at *
  exact h r s hr.1 hs.1 (hr.2.trans hs.2.symm)

/-- Without the separator in any need, keys tell needs apart. -/
theorem KeysTellNeeds.of_separator {tasks : List Task}
    (hsep : ∀ t ∈ tasks, ∀ n ∈ t.needs, '_' ∉ n.toList) : KeysTellNeeds tasks := by
  have hsep' : ∀ r, ∀ n ∈ needsOf tasks r, '_' ∉ n.toList := by
    intro r n hn
    obtain ⟨t, ht, hn⟩ := List.mem_flatMap.mp hn
    exact hsep t (List.mem_of_mem_filter ht) n hn
  have hne : ∀ {r}, 2 ≤ (needsOf tasks r).length → needsOf tasks r ≠ [] := by
    intro r hlen hnil
    simp [hnil] at hlen
  intro r s hr hs hkey
  exact Join.perm_of_key_eq (hne hr) (hne hs) (hsep' r) (hsep' s) hkey

/-! ## Compiled workflows -/

/-- Rearranging a workflow keeps the nodes of its graph up to order, and its edges too if
keys tell needs apart. Reordering only needs keeps the nodes as they are and the edges
up to order. -/
theorem compile_perm_of_rearranged (c : Compiler) {d d' : Document} {tasks tasks' : List Task}
    (hw : d.workflow = some tasks) (hw' : d'.workflow = some tasks') :
    (Rearranged tasks tasks' →
      (c.compile .manual d).nodes.Perm (c.compile .manual d').nodes ∧
      (c.compile .manual d).joinIds.Perm (c.compile .manual d').joinIds ∧
      (KeysTellNeeds tasks → (c.compile .manual d).edges.Perm (c.compile .manual d').edges)) ∧
    (List.Forall₂ Task.Reordered tasks tasks' →
      (c.compile .manual d).nodes = (c.compile .manual d').nodes ∧
      (c.compile .manual d).edges.Perm (c.compile .manual d').edges) := by
  simp only [Graph.joinIds, c.compile_manual_nodes, c.compile_manual_edges,
    Document.graph_of_workflow hw, Document.graph_of_workflow hw']
  have hplain : Join.Plain (Graph.ofWorkflow tasks).edges := plain_ofWorkflow tasks
  constructor
  · intro h
    have hedges := h.edges_perm
    have hnodes := (Graph.withJoins_nodes_perm hedges h.nodes_perm).map c.decorate
    refine ⟨hnodes, (hnodes.filter _).map _, ?_⟩
    intro htell
    refine Graph.withJoins_edges_perm hedges hplain ?_
    intro grp hgrp grp' hgrp' hkey
    have hfirst' := (Join.converges_congr hedges).mpr (Join.first_converges hgrp')
    exact htell.sources_perm (Join.first_converges hgrp) (hkey ▸ hfirst')
  · intro h
    have hedges := reordered_edges_perm h
    have htargets := reordered_targets_eq h
    refine ⟨?_, ?_⟩
    · rw [Graph.withJoins_nodes_eq hedges (reordered_nodes_eq h) htargets]
    · refine Graph.withJoins_edges_perm hedges hplain ?_
      intro grp hgrp grp' hgrp' hkey
      rw [Join.first_target_eq hedges htargets hgrp hgrp' hkey]

/-- The tasks of the sample from the last to the first, some with other orders of needs. -/
def backwardTasks : List Task :=
  [{ ref := "y", tag := "t", needs := ["s", "t"] }, { ref := "x", tag := "t", needs := ["t", "s"] },
    { ref := "t", tag := "t", needs := ["s"] }, { ref := "s", tag := "start" }]

def backward : Document := { workflow := some backwardTasks }

theorem compile_perm_of_rearranged_backward :
    Rearranged sampleTasks backwardTasks ∧ KeysTellNeeds sampleTasks ∧
      (({} : Compiler).compile .manual sample).nodes.Perm
        (({} : Compiler).compile .manual backward).nodes ∧
      (({} : Compiler).compile .manual sample).edges.Perm
        (({} : Compiler).compile .manual backward).edges := by
  have hneeds : List.Forall₂ Task.Reordered sampleTasks.reverse backwardTasks :=
    .cons ⟨by decide⟩ (.cons ⟨by decide⟩ (.cons ⟨by decide⟩ (.cons ⟨by decide⟩ .nil)))
  have hrearranged : Rearranged sampleTasks backwardTasks :=
    ⟨sampleTasks.reverse, (List.reverse_perm _).symm, hneeds⟩
  have htell : KeysTellNeeds sampleTasks := .of_separator (by decide +kernel)
  have hsample : sample.workflow = some sampleTasks := rfl
  have hbackward : backward.workflow = some backwardTasks := rfl
  obtain ⟨hnodes, _, hedges⟩ := (compile_perm_of_rearranged {} hsample hbackward).1 hrearranged
  exact ⟨hrearranged, htell, hnodes, hedges htell⟩

end TaskGraph
