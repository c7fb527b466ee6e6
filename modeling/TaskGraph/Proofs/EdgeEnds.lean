-- SUMMARY: The edges of a compiled graph lead between its nodes, up to needs that no task meets.
import TaskGraph.Proofs.Compilation

/-!
# Ends of edges

Nothing checks that what a task needs is there, so an edge can come from an id without a
node. Apart from that every edge of a compiled graph has a node at both ends. The invariant
`Anchored` says so; each step of compilation keeps it.
-/
namespace TaskGraph

namespace Graph

/-- Edges lead to nodes, and they come from nodes or from ids `outside`. -/
structure Anchored (outside : String → Prop) (g : Graph) : Prop where
  target : ∀ {s t}, g.Leads s t → t ∈ g.ids
  source : ∀ {s t}, g.Leads s t → s ∈ g.ids ∨ outside s

/-! ## Tasks -/

theorem anchored_empty (outside : String → Prop) (origin : Section) :
    (Graph.empty origin).Anchored outside where
  target := by simp [Leads, empty]
  source := by simp [Leads, empty]

/-- A workflow has edges from outside only where a need names no task. -/
theorem anchored_ofWorkflow (tasks : List Task) :
    (ofWorkflow tasks).Anchored fun s =>
      (∃ t ∈ tasks, s ∈ t.needs) ∧ ∀ t ∈ tasks, t.ref ≠ s where
  target := by
    intro s r hlead
    obtain ⟨t, ht, rfl, _⟩ := leads_ofWorkflow.mp hlead
    rw [ofWorkflow_ids]
    exact List.mem_map_of_mem ht
  source := by
    intro s r hlead
    obtain ⟨t, ht, _, hs⟩ := leads_ofWorkflow.mp hlead
    rw [ofWorkflow_ids]
    by_cases hnamed : s ∈ tasks.map Task.ref
    · exact .inl hnamed
    · refine .inr ⟨⟨t, ht, hs⟩, ?_⟩
      rintro u hu rfl
      exact hnamed (List.mem_map_of_mem hu)

theorem ends_mem_of_mem_chain {e : Edge} {ids : List String} (he : e ∈ chain ids) :
    e.source ∈ ids ∧ e.target ∈ ids := by
  fun_induction chain ids with
  | case1 a b rest ih =>
    cases List.mem_cons.mp he with
    | inl hfirst =>
      subst hfirst
      simp [Edge.flow]
    | inr hrest =>
      obtain ⟨hsource, htarget⟩ := ih hrest
      exact ⟨List.mem_cons_of_mem a hsource, List.mem_cons_of_mem a htarget⟩
  | case2 => cases he

theorem anchored_ofPipeline (outside : String → Prop) (tasks : List Task) :
    (ofPipeline tasks).Anchored outside where
  target := by
    rintro _ _ ⟨e, he, rfl, rfl⟩
    rw [ofPipeline_ids]
    exact (ends_mem_of_mem_chain he).2
  source := by
    rintro _ _ ⟨e, he, rfl, rfl⟩
    rw [ofPipeline_ids]
    exact .inl (ends_mem_of_mem_chain he).1

theorem entry_mem_ids {g : Graph} {r : String} (h : r ∈ g.entry?.map Node.id) : r ∈ g.ids := by
  obtain ⟨n, hn, rfl⟩ := Option.map_eq_some_iff.mp h
  refine List.mem_map_of_mem ?_
  unfold entry? at hn
  split at hn
  · exact List.mem_of_find?_eq_some hn
  · exact List.mem_of_head? hn

namespace Anchored

variable {outside : String → Prop} {g : Graph}

theorem mono (h : g.Anchored outside) {outside' : String → Prop}
    (hmono : ∀ s, outside s → outside' s) : g.Anchored outside' where
  target := h.target
  source hlead := (h.source hlead).imp_right (hmono _)

/-! ## Joins -/

theorem withJoins (h : g.Anchored outside) : g.withJoins.Anchored outside := by
  have hold : ∀ {i}, i ∈ g.ids → i ∈ g.withJoins.ids := by
    intro i hi
    rw [withJoins_ids, List.mem_append]
    exact .inl hi
  have hkey : ∀ {k}, Join.IsShared g.edges k → k ∈ g.withJoins.ids := by
    intro k hk
    rw [withJoins_ids, List.mem_append]
    exact .inr (mem_joinNodes_ids.mpr hk)
  refine ⟨?_, ?_⟩
  · intro s t hlead
    rcases withJoins_leads_iff.mp hlead with ⟨hkept, _⟩ | ⟨grp, hgrp, rfl, _⟩ | ⟨_, hconv⟩
    · exact hold (h.target hkept)
    · exact hkey (Join.isShared_of_mem hgrp)
    · obtain ⟨e, he, het⟩ := hconv.exists_edge
      exact hold (h.target ⟨e, he, rfl, het⟩)
  · intro s t hlead
    rcases withJoins_leads_iff.mp hlead with ⟨hkept, _⟩ | ⟨grp, _, _, hs⟩ | ⟨hshared, _⟩
    · exact (h.source hkept).imp_left hold
    · obtain ⟨e, he, rfl⟩ := List.mem_map.mp hs
      exact (h.source ⟨e, List.mem_of_mem_filter he, rfl, rfl⟩).imp_left hold
    · exact .inl (hkey hshared)

/-! ## Triggers and icons -/

theorem withTrigger (h : g.Anchored outside) (trigger : Option Trigger) :
    (g.withTrigger trigger).Anchored outside := by
  have hold : ∀ {i}, i ∈ g.ids → i ∈ (g.withTrigger trigger).ids := by
    intro i hi
    rw [withTrigger_ids, List.mem_append]
    exact .inr hi
  refine ⟨?_, ?_⟩
  · intro s r hlead
    rcases (g.withTrigger_leads trigger).mp hlead with hkept | ⟨_, _, _, hentry⟩
    · exact hold (h.target hkept)
    · exact hold (entry_mem_ids hentry)
  · intro s r hlead
    rcases (g.withTrigger_leads trigger).mp hlead with hkept | ⟨t, ht, rfl, hentry⟩
    · exact (h.source hkept).imp_left hold
    · refine .inl ?_
      obtain ⟨n, hn, _⟩ := Option.map_eq_some_iff.mp hentry
      rw [withTrigger_ids, Option.mem_def.mp ht, hn]
      exact List.mem_append_left _ (List.mem_singleton_self _)

theorem withIcons (h : g.Anchored outside) (c : Compiler) :
    (c.withIcons g).Anchored outside := by
  have hlead : ∀ {s t}, (c.withIcons g).Leads s t ↔ g.Leads s t := by
    simp [Leads]
  refine ⟨?_, ?_⟩
  · intro s t h'
    rw [c.withIcons_ids]
    exact h.target (hlead.mp h')
  · intro s t h'
    rw [c.withIcons_ids]
    exact h.source (hlead.mp h')

end Anchored
end Graph

/-! ## Compiled graphs -/

/-- The workflow needs the id, and none of its tasks has it. -/
def Document.NeedsOutside (d : Document) (s : String) : Prop :=
  ∃ tasks, d.workflow = some tasks ∧ (∃ t ∈ tasks, s ∈ t.needs) ∧ ∀ t ∈ tasks, t.ref ≠ s

theorem Document.anchored_graph (d : Document) : d.graph.Anchored d.NeedsOutside := by
  unfold graph NeedsOutside
  cases d.workflow with
  | some tasks =>
    refine (Graph.anchored_ofWorkflow tasks).withJoins.mono ?_
    intro s hs
    exact ⟨tasks, rfl, hs⟩
  | none =>
    cases d.pipeline with
    | some tasks => exact Graph.anchored_ofPipeline _ tasks
    | none => exact Graph.anchored_empty _ _

theorem Compiler.anchored_compile (c : Compiler) (launch : Launch) (d : Document) :
    (c.compile launch d).Anchored d.NeedsOutside :=
  (d.anchored_graph.withTrigger _).withIcons c

/-- In the graph of any document every edge leads to a node, and it comes from a node or
from a need that names no task. So if all needs name tasks, every edge has a node at both
ends. -/
theorem compile_ends_mem_ids (c : Compiler) (launch : Launch) (d : Document) :
    (∀ e ∈ (c.compile launch d).edges,
      e.target ∈ (c.compile launch d).ids ∧
        (e.source ∈ (c.compile launch d).ids ∨ d.NeedsOutside e.source)) ∧
    ((∀ tasks, d.workflow = some tasks → ∀ t ∈ tasks, ∀ n ∈ t.needs, ∃ u ∈ tasks, u.ref = n) →
      ∀ e ∈ (c.compile launch d).edges,
        e.source ∈ (c.compile launch d).ids ∧ e.target ∈ (c.compile launch d).ids) := by
  have hanchored := c.anchored_compile launch d
  refine ⟨?_, ?_⟩
  · intro e he
    have hlead : (c.compile launch d).Leads e.source e.target := ⟨e, he, rfl, rfl⟩
    exact ⟨hanchored.target hlead, hanchored.source hlead⟩
  · intro hnamed e he
    have hlead : (c.compile launch d).Leads e.source e.target := ⟨e, he, rfl, rfl⟩
    refine ⟨?_, hanchored.target hlead⟩
    rcases hanchored.source hlead with hnode | ⟨tasks, hw, ⟨t, ht, hs⟩, hnone⟩
    · exact hnode
    · obtain ⟨u, hu, href⟩ := hnamed tasks hw t ht e.source hs
      exact absurd href (hnone u hu)

theorem compile_ends_mem_ids_sample :
    ∀ e ∈ (({} : Compiler).compile .webhook sample).edges,
      e.source ∈ (({} : Compiler).compile .webhook sample).ids ∧
        e.target ∈ (({} : Compiler).compile .webhook sample).ids := by
  refine (compile_ends_mem_ids {} .webhook sample).2 ?_
  intro tasks hw
  obtain rfl : sampleTasks = tasks := Option.some.inj hw
  decide

end TaskGraph
