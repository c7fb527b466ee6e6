-- SUMMARY: Joins never make a graph larger: no more edges than before, and two edges or more at each side of a join node.
import Mathlib.Algebra.Order.BigOperators.Group.List
import Mathlib.Algebra.Order.Group.Nat
import Mathlib.Data.Finset.Card
import TaskGraph.Proofs.JoinBypass

/-!
# The size of a graph with joins

A join node takes the edges of one target and an edge to each of its targets, in place of all
edges of these targets. Each target has two or more edges, so what the other targets give up
pays for the edges out of the join node. None of this depends on which ids occur, or on
whether targets under one key have the same sources.
-/
namespace TaskGraph
namespace Join

variable {edges : List Edge} {g : Group} (hg : g ∈ groups edges)

/-! ## The edges of one group -/

theorem two_mul_length_le {α β : Type} {f : α → List β} {items : List α}
    (h : ∀ a ∈ items, 2 ≤ (f a).length) : 2 * items.length ≤ (items.flatMap f).length := by
  have hsum := List.card_nsmul_le_sum (items.map fun a => (f a).length) 2 (by simpa using h)
  simpa [List.length_flatMap, Nat.mul_comm] using hsum

include hg

theorem two_le_targets : 2 ≤ g.targets.length := by
  rw [Group.targets, List.length_map]
  exact (mem_groups.mp hg).2

theorem two_le_sources {t : String} (ht : t ∈ g.targets) : 2 ≤ (sources edges t).length :=
  ((mem_group_targets hg).mp ht).1

theorem group_edges_length :
    g.edges.length = (sources edges g.first.target).length + g.targets.length := by
  simp [Group.edges, ← first_sources hg]

/-- A group has no more edges than its targets had. -/
theorem group_edges_length_le :
    g.edges.length ≤ (g.targets.flatMap (sources edges)).length := by
  have htargets : g.targets = g.first.target :: g.others.map Convergence.target := rfl
  have htwo : 2 ≤ g.targets.length := two_le_targets hg
  have hothers : 2 * (g.others.map Convergence.target).length ≤
      ((g.others.map Convergence.target).flatMap (sources edges)).length := by
    refine two_mul_length_le fun t ht => two_le_sources hg ?_
    rw [htargets]
    exact List.mem_cons_of_mem _ ht
  rw [group_edges_length hg]
  simp only [htargets, List.flatMap_cons, List.length_append, List.length_cons] at htwo ⊢
  omega

/-- Among the edges of a group are those that its join node borrows. -/
theorem two_le_sources_key : 2 ≤ (sources g.edges g.key).length := by
  have hborrowed : sources (g.first.incoming.map fun e => { e with target := g.key }) g.key =
      sources edges g.first.target := by
    rw [← first_sources hg]
    simp [sources, List.filter_map, Function.comp_def]
  have hfirst : 2 ≤ (sources edges g.first.target).length := (first_converges hg).1
  rw [Group.edges, sources_append, hborrowed, List.length_append]
  omega

omit hg

/-! ## Merged targets -/

/-- The target converges under a shared key. -/
def IsMerged (edges : List Edge) (t : String) : Prop :=
  ∃ k, IsShared edges k ∧ Converges edges t k

instance (edges : List Edge) : DecidablePred (IsMerged edges) :=
  fun _ => decidable_of_iff _ mem_merged

/-- Merged targets had as many edges as there are pairs to restore around the join nodes. -/
theorem mergedEnds_length (edges : List Edge) :
    (mergedEnds edges).length =
      ((groups edges).flatMap fun g => g.targets.flatMap (sources edges)).length := by
  simp [mergedEnds, List.length_flatMap, ← List.flatMap_assoc]

theorem added_length_le (edges : List Edge) :
    ((groups edges).flatMap Group.edges).length ≤ (mergedEnds edges).length := by
  rw [mergedEnds_length, List.length_flatMap, List.length_flatMap]
  exact List.sum_le_sum fun _ => group_edges_length_le

end Join

namespace Graph

open Join (IsMerged IsShared Converges groups Group)

/-! ## The whole graph -/

/-- What joins change: of the graph `g` the graph `h` is made, with the nodes `js` added. -/
structure Simplified (g h : Graph) (js : List Node) : Prop where
  nodes : h.nodes = g.nodes ++ js
  joins : ∀ j ∈ js, j.kind = .join
  /-- Edges into targets that are not merged come first, in their order, and all others are at
  join nodes. -/
  kept : ∃ added, h.edges = g.edges.filter (fun e => ¬ IsMerged g.edges e.target) ++ added ∧
    ∀ e ∈ added, ∃ j ∈ js, e.source = j.id ∨ e.target = j.id
  edges : h.edges.length ≤ g.edges.length
  enter : ∀ j ∈ js, 2 ≤ (h.edges.filter (·.target == j.id)).length
  leave : ∀ j ∈ js, ∃ s t, s ≠ t ∧ h.Leads j.id s ∧ h.Leads j.id t
  /-- There are at most half as many join nodes as targets with two or more edges. -/
  few : 2 * js.length ≤
    {t ∈ (g.edges.map Edge.target).toFinset | 2 ≤ (g.edges.filter (·.target == t)).length}.card

variable (g : Graph)

theorem withJoins_edges_length_le : g.withJoins.edges.length ≤ g.edges.length := by
  have hbefore := (Join.ends_perm g.edges).length_eq
  have hadded := Join.added_length_le g.edges
  simp only [List.length_append, List.length_map] at hbefore
  rw [withJoins, List.length_append]
  omega

theorem withJoins_kept :
    g.withJoins.edges = g.edges.filter (fun e => ¬ IsMerged g.edges e.target) ++
      (groups g.edges).flatMap Group.edges := by
  refine congrArg (· ++ _) (List.filter_congr fun e _ => ?_)
  have hmerged : IsMerged g.edges e.target ↔ e.target ∈ (groups g.edges).flatMap Group.targets :=
    Join.mem_merged.symm
  simp only [List.contains_eq_mem, hmerged, decide_not]

variable {g} in
theorem added_at_join {e : Edge} (he : e ∈ (groups g.edges).flatMap Group.edges) :
    ∃ j ∈ g.joinNodes, e.source = j.id ∨ e.target = j.id := by
  obtain ⟨grp, hgrp, he⟩ := List.mem_flatMap.mp he
  refine ⟨grp.node, ?_, ?_⟩
  · rw [joinNodes_eq]
    exact List.mem_map_of_mem hgrp
  · cases (group_leads_iff hgrp).mp ⟨e, he, rfl, rfl⟩ with
    | inl henter => exact .inr henter.1.symm
    | inr hleave => exact .inl hleave.1.symm

variable {g} in
theorem two_le_enter {grp : Group} (hgrp : grp ∈ groups g.edges) :
    2 ≤ (g.withJoins.edges.filter (·.target == grp.key)).length := by
  have hedges : grp.edges.Sublist g.withJoins.edges := by
    rw [withJoins_kept]
    refine List.Sublist.trans ?_ (List.sublist_append_right _ _)
    exact List.sublist_flatten_of_mem (List.mem_map_of_mem hgrp)
  have hgroup : 2 ≤ (grp.edges.filter (·.target == grp.key)).length := by
    simpa [Join.sources] using Join.two_le_sources_key hgrp
  exact hgroup.trans (hedges.filter _).length_le

theorem two_mul_groups_length_le :
    2 * (groups g.edges).length ≤
      {t ∈ (g.edges.map Edge.target).toFinset |
        2 ≤ (g.edges.filter (·.target == t)).length}.card := by
  have hmerged : ((groups g.edges).flatMap Group.targets).toFinset ⊆
      {t ∈ (g.edges.map Edge.target).toFinset |
        2 ≤ (g.edges.filter (·.target == t)).length} := by
    intro t ht
    obtain ⟨k, _, hconv⟩ := Join.mem_merged.mp (List.mem_toFinset.mp ht)
    obtain ⟨e, he, hte⟩ := hconv.exists_edge
    rw [Finset.mem_filter, List.mem_toFinset]
    exact ⟨List.mem_map.mpr ⟨e, he, hte⟩, by simpa [Join.sources] using hconv.1⟩
  calc 2 * (groups g.edges).length
      ≤ ((groups g.edges).flatMap Group.targets).length :=
        Join.two_mul_length_le fun _ => Join.two_le_targets
    _ = ((groups g.edges).flatMap Group.targets).toFinset.card :=
        (List.toFinset_card_of_nodup Join.merged_nodup).symm
    _ ≤ _ := Finset.card_le_card hmerged

/-- Joins only simplify a graph, whatever its ids are. -/
theorem withJoins_simplified : Simplified g g.withJoins g.joinNodes where
  nodes := g.withJoins_nodes
  joins _ := kind_of_mem_joinNodes
  kept := ⟨_, g.withJoins_kept, fun _ => added_at_join⟩
  edges := g.withJoins_edges_length_le
  enter := by
    intro j hj
    rw [joinNodes_eq] at hj
    obtain ⟨grp, hgrp, rfl⟩ := List.mem_map.mp hj
    exact two_le_enter hgrp
  leave := by
    intro j hj
    have hshared : IsShared g.edges j.id := mem_joinNodes_ids.mp (List.mem_map_of_mem hj)
    have hleads : ∀ {t}, Converges g.edges t j.id → g.withJoins.Leads j.id t :=
      fun hconv => withJoins_leads_iff.mpr (.inr (.inr ⟨hshared, hconv⟩))
    obtain ⟨s, t, hne, hs, ht⟩ := hshared
    exact ⟨s, t, hne, hleads hs, hleads ht⟩
  few := by
    rw [joinNodes_eq, List.length_map]
    exact g.two_mul_groups_length_le

end Graph
end TaskGraph
