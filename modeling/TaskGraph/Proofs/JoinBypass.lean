-- SUMMARY: Taking the join nodes out again gives back the edges that they replaced.
import Mathlib.Data.List.Perm.Basic
import TaskGraph.Proofs.JoinGroup

/-!
# Edges around join nodes

Join nodes stand for direct edges. Bypassing them, from each source of a join node to
each of its targets, restores the edges of the graph up to order and with their
multiplicities, provided that the id of no join node is taken and that merged
targets have the same sources.
-/
namespace TaskGraph

/-- The two ends of an edge. -/
def Edge.ends (e : Edge) : String × String := (e.source, e.target)

namespace Join

/-- What edges connect when they are led past the nodes `js`: edges into such a node are
left out, and an edge out of it starts at each source of the node instead. -/
def bypass (js : List String) (edges : List Edge) : List (String × String) :=
  (edges.filter fun e => !js.contains e.target).flatMap fun e =>
    if js.contains e.source then (sources edges e.source).map (·, e.target) else [e.ends]

/-- Sorting out items by distinct keys keeps those with one of the keys, repetitions
included. -/
theorem flatMap_filter_perm {α β : Type} [DecidableEq β] (f : α → β) (items : List α)
    {keys : List β} (hkeys : keys.Nodup) :
    (keys.flatMap fun k => items.filter (f · == k)).Perm (items.filter (keys.contains <| f ·)) := by
  induction keys with
  | nil => simp
  | cons k ks ih =>
    obtain ⟨hk, hks⟩ := List.nodup_cons.mp hkeys
    rw [List.flatMap_cons]
    have hhead : items.filter (f · == k) =
        (items.filter ((k :: ks).contains <| f ·)).filter (f · == k) := by
      rw [List.filter_filter]
      refine List.filter_congr fun a _ => ?_
      by_cases h : f a = k <;> simp [h]
    have htail : items.filter (ks.contains <| f ·) =
        (items.filter ((k :: ks).contains <| f ·)).filter (!f · == k) := by
      rw [List.filter_filter]
      refine List.filter_congr fun a _ => ?_
      by_cases h : f a = k
      · simp [h, hk]
      · simp [h]
    refine ((ih hks).append_left _).trans ?_
    rw [hhead, htail]
    exact List.filter_append_perm _ _

/-! ## The edges around a join node -/

variable {edges : List Edge}

/-- The edges that a group adds into `k` are those that its join node borrows, if `k` is
the key of the group and not one of its targets. -/
theorem sources_group {g : Group} (hg : g ∈ groups edges) {k : String} (hk : k ∉ g.targets) :
    sources g.edges k = if g.key = k then sources edges g.first.target else [] := by
  have hleave : sources (g.targets.map (Edge.flow g.key)) k = [] := by
    refine sources_eq_nil ?_
    intro e he
    obtain ⟨t, ht, rfl⟩ := List.mem_map.mp he
    exact fun h => hk (h ▸ ht)
  have henter : sources (g.first.incoming.map fun e => { e with target := g.key }) k =
      if g.key = k then g.first.incoming.map Edge.source else [] := by
    by_cases h : g.key = k
    · simp [sources, List.filter_map, Function.comp_def, h]
    · simp [sources, h]
  rw [Group.edges, sources_append, hleave, henter, first_sources hg, List.append_nil]

/-- A join node has the sources of the first target of its group, if no merged target
has the id of the node. -/
theorem sources_added {g : Group} (hg : g ∈ groups edges)
    (hfree : ∀ h ∈ groups edges, g.key ∉ h.targets) :
    sources ((groups edges).flatMap Group.edges) g.key = sources edges g.first.target := by
  calc sources ((groups edges).flatMap Group.edges) g.key
      = (groups edges).flatMap (fun h => sources h.edges g.key) :=
        sources_flatMap Group.edges _ _
    _ = (groups edges).flatMap fun h =>
          if h.key = g.key then sources edges h.first.target else [] :=
        List.flatMap_congr fun h hh => sources_group hh (hfree h hh)
    _ = sources edges g.first.target := flatMap_of_key _ keys_nodup hg

/-! ## Bypassing all join nodes -/

/-- The ends of the edges into merged targets, target by target. -/
def mergedEnds (edges : List Edge) : List (String × String) :=
  ((groups edges).flatMap Group.targets).flatMap fun t => (sources edges t).map (·, t)

theorem ends_perm (edges : List Edge) :
    ((edges.filter fun e => !((groups edges).flatMap Group.targets).contains e.target).map
      Edge.ends ++ mergedEnds edges).Perm (edges.map Edge.ends) := by
  have hmerged : mergedEnds edges = (((groups edges).flatMap Group.targets).flatMap fun t =>
      edges.filter (·.target == t)).map Edge.ends := by
    rw [mergedEnds, List.map_flatMap]
    refine List.flatMap_congr fun t _ => ?_
    simp only [sources, List.map_map]
    refine List.map_congr_left fun e he => ?_
    have het : e.target = t := by simpa using (List.mem_filter.mp he).2
    simp [Edge.ends, het]
  rw [hmerged, ← List.map_append]
  refine List.Perm.map _ ?_
  refine ((flatMap_filter_perm Edge.target edges merged_nodup).append_left _).trans ?_
  exact List.perm_append_comm.trans (List.filter_append_perm _ _)

variable {js : List String} (hjs : ∀ k, k ∈ js ↔ IsShared edges k)
  (free : ∀ k, IsShared edges k → ∀ e ∈ edges, e.source ≠ k ∧ e.target ≠ k)
include hjs free

theorem not_mem_of_free {e : Edge} (he : e ∈ edges) : e.source ∉ js ∧ e.target ∉ js := by
  simp only [hjs]
  exact ⟨fun hk => (free _ hk e he).1 rfl, fun hk => (free _ hk e he).2 rfl⟩

theorem target_not_mem_of_free {g : Group} (hg : g ∈ groups edges) {t : String}
    (ht : t ∈ g.targets) : t ∉ js := by
  obtain ⟨e, he, rfl⟩ := ((mem_group_targets hg).mp ht).exists_edge
  exact (not_mem_of_free hjs free he).2

/-- Of the edges of a group, those out of the join node are led past it. -/
theorem filter_group_edges {g : Group} (hg : g ∈ groups edges) :
    (g.edges.filter fun e => !js.contains e.target) = g.targets.map (Edge.flow g.key) := by
  have hkey : g.key ∈ js := (hjs _).mpr (isShared_of_mem hg)
  have henter : ((g.first.incoming.map fun e => { e with target := g.key }).filter
      fun e => !js.contains e.target) = [] := by
    simp [List.filter_map, Function.comp_def, hkey]
  have hleave : ((g.targets.map (Edge.flow g.key)).filter fun e => !js.contains e.target) =
      g.targets.map (Edge.flow g.key) := by
    rw [List.filter_eq_self]
    intro e he
    obtain ⟨t, ht, rfl⟩ := List.mem_map.mp he
    simpa [Edge.flow] using target_not_mem_of_free hjs free hg ht
  rw [Group.edges, List.filter_append, henter, hleave, List.nil_append]

/-- A join node has no edges but those of its group. -/
theorem sources_joined {g : Group} (hg : g ∈ groups edges) {kept : List Edge}
    (hkept : kept ⊆ edges) :
    sources (kept ++ (groups edges).flatMap Group.edges) g.key =
      sources edges g.first.target := by
  have hshared : IsShared edges g.key := isShared_of_mem hg
  have hnone : sources kept g.key = [] :=
    sources_eq_nil fun e he => (free _ hshared e (hkept he)).2
  rw [sources_append, hnone, List.nil_append]
  refine sources_added hg ?_
  intro h hh hmem
  exact target_not_mem_of_free hjs free hh hmem ((hjs _).mpr hshared)

/-- What the edges of the join nodes connect once the join nodes are bypassed. -/
theorem bypass_joined {kept : List Edge} (hkept : kept ⊆ edges) :
    bypass js (kept ++ (groups edges).flatMap Group.edges) =
      kept.map Edge.ends ++ (groups edges).flatMap fun g =>
        g.targets.flatMap fun t => (sources edges g.first.target).map (·, t) := by
  have hfilter : (kept.filter fun e => !js.contains e.target) = kept := by
    rw [List.filter_eq_self]
    intro e he
    simpa using (not_mem_of_free hjs free (hkept he)).2
  rw [bypass, List.filter_append, hfilter, List.flatMap_append, List.filter_flatMap,
    List.flatMap_assoc]
  congr 1
  · rw [List.map_eq_flatMap]
    refine List.flatMap_congr fun e he => ?_
    have hsource : e.source ∉ js := (not_mem_of_free hjs free (hkept he)).1
    simp [hsource]
  · refine List.flatMap_congr fun g hg => ?_
    have hkey : js.contains g.key = true := by
      simpa using (hjs _).mpr (isShared_of_mem hg)
    rw [filter_group_edges hjs free hg, List.flatMap_map]
    refine List.flatMap_congr fun t _ => ?_
    simp only [Edge.flow, hkey, if_true, sources_joined hjs free hg hkept]

end Join

/-- Bypassing the join nodes of a graph restores the connections that it had, if no
shared key is an end of an edge and targets under one shared key have the same
sources. -/
theorem bypass_withJoins_perm (g : Graph)
    (free : ∀ k, Join.IsShared g.edges k → ∀ e ∈ g.edges, e.source ≠ k ∧ e.target ≠ k)
    (alike : ∀ s t k, Join.Converges g.edges s k → Join.Converges g.edges t k →
      (Join.sources g.edges s).Perm (Join.sources g.edges t)) :
    (Join.bypass (g.joinNodes.map Node.id) g.withJoins.edges).Perm (g.edges.map Edge.ends) := by
  have hjs : ∀ k, k ∈ g.joinNodes.map Node.id ↔ Join.IsShared g.edges k :=
    fun _ => Graph.mem_joinNodes_ids
  rw [Graph.withJoins, Join.bypass_joined hjs free (List.filter_subset_self _)]
  refine List.Perm.trans ?_ (Join.ends_perm g.edges)
  refine List.Perm.append_left _ ?_
  rw [Join.mergedEnds, List.flatMap_assoc]
  refine List.Perm.flatMap_left _ fun grp hgrp => ?_
  refine List.Perm.flatMap_left _ fun t ht => ?_
  refine (alike _ t grp.key ?_ ((Join.mem_group_targets hgrp).mp ht)).map _
  exact (Join.mem_group_targets hgrp).mp (by simp [Join.Group.targets, Join.Group.members])

/-- Two targets that name the same three sources in different orders, and a third target
with sources of its own. -/
def Graph.shared : Graph where
  origin := .workflow
  nodes := []
  edges := [.flow "a" "x", .flow "b" "x", .flow "a" "x", .flow "x" "z", .flow "b" "y",
    .flow "a" "y", .flow "a" "y", .flow "c" "z"]

theorem bypass_withJoins_perm_shared :
    Join.IsShared Graph.shared.edges "a_a_b" ∧
      (Join.bypass (Graph.shared.joinNodes.map Node.id) Graph.shared.withJoins.edges).Perm
        (Graph.shared.edges.map Edge.ends) := by
  have hconv : (Join.convergences Graph.shared.edges).map (fun c => (c.target, c.key)) =
      [("x", "a_a_b"), ("z", "c_x"), ("y", "a_a_b")] := by
    unfold Join.convergences Join.Convergence.of
    rw [Join.key_eq_insertionSort]
    decide +kernel
  have hiff : ∀ t k, Join.Converges Graph.shared.edges t k ↔
      (t, k) = ("x", "a_a_b") ∨ (t, k) = ("z", "c_x") ∨ (t, k) = ("y", "a_a_b") := by
    intro t k
    rw [Join.converges_iff_mem, hconv]
    simp
  refine ⟨⟨"x", "y", by decide, by simp [hiff], by simp [hiff]⟩, ?_⟩
  refine bypass_withJoins_perm Graph.shared ?_ ?_
  · rintro k ⟨s, t, hst, hs, ht⟩ e he
    simp only [hiff, Prod.mk.injEq] at hs ht
    have hk : k = "a_a_b" := by grind
    subst hk
    revert e he
    decide
  · intro s t k hs ht
    simp only [hiff, Prod.mk.injEq] at hs ht
    rcases hs with ⟨rfl, rfl⟩ | ⟨rfl, rfl⟩ | ⟨rfl, rfl⟩ <;>
      rcases ht with ⟨rfl, h⟩ | ⟨rfl, h⟩ | ⟨rfl, h⟩ <;>
      first
      | decide
      | exact absurd h (by decide)

end TaskGraph
