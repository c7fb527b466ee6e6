-- SUMMARY: After one pass of joins no key is shared, so that a second pass changes nothing.
import TaskGraph.Proofs.JoinBypass

/-!
# Joins in normal form

A graph is in normal form if no two targets converge under one key. With joins, a target
converges in two cases only: it is a join node, under its own id, or its key was not shared
before. Merged targets are left with the edge from their join node. All this holds as
long as no edge leads to a shared key from the start.
-/
namespace TaskGraph
namespace Join

variable {edges : List Edge}

/-! ## The sources of one target -/

/-- A merged target is reached from the join node of its group, once. -/
theorem sources_group_target {g : Group} (hg : g ∈ groups edges) {t : String}
    (ht : t ∈ g.targets) (hkey : g.key ≠ t) : sources g.edges t = [g.key] := by
  have henter : sources (g.first.incoming.map fun e => { e with target := g.key }) t = [] := by
    simp [sources, hkey]
  have honce : g.targets.filter (· == t) = [t] := by
    rw [List.filter_beq, List.count_eq_one_of_mem (group_targets_nodup hg) ht]
    rfl
  have hleave : sources (g.targets.map (Edge.flow g.key)) t = [g.key] := by
    simp [sources, Edge.flow, List.filter_map, Function.comp_def, honce]
  rw [Group.edges, sources_append, henter, hleave, List.nil_append]

theorem sources_added_target {g : Group} (hg : g ∈ groups edges) {t : String}
    (ht : t ∈ g.targets) (hkeys : ∀ h ∈ groups edges, h.key ≠ t) :
    sources ((groups edges).flatMap Group.edges) t = [g.key] := by
  have hgroup : ∀ h ∈ groups edges,
      sources h.edges t = if h.key = g.key then [h.key] else [] := by
    intro h hh
    by_cases heq : h.key = g.key
    · obtain rfl := eq_of_key_eq hh hg heq
      rw [if_pos rfl, sources_group_target hh ht (hkeys h hh)]
    · have hother : t ∉ h.targets := by
        intro hmem
        exact heq (((mem_group_targets hh).mp hmem).key_unique ((mem_group_targets hg).mp ht))
      rw [sources_group hh hother, if_neg (hkeys h hh), if_neg heq]
  calc sources ((groups edges).flatMap Group.edges) t
      = (groups edges).flatMap (fun h => sources h.edges t) := sources_flatMap Group.edges _ _
    _ = (groups edges).flatMap fun h => if h.key = g.key then [h.key] else [] :=
        List.flatMap_congr hgroup
    _ = [g.key] := flatMap_of_key (fun h => [h.key]) keys_nodup hg

/-- Groups add no edges into what is neither a merged target nor a shared key. -/
theorem sources_added_apart {t : String} (ht : ∀ g ∈ groups edges, t ∉ g.targets ∧ g.key ≠ t) :
    sources ((groups edges).flatMap Group.edges) t = [] := by
  rw [sources_flatMap, List.flatMap_eq_nil_iff]
  intro g hg
  rw [sources_group hg (ht g hg).1, if_neg (ht g hg).2]

/-! ## Graphs without shared keys -/

theorem groups_eq_nil (h : ∀ k, ¬ IsShared edges k) : groups edges = [] := by
  rw [List.eq_nil_iff_forall_not_mem]
  intro g hg
  exact h g.key (isShared_of_mem hg)

end Join

namespace Graph

open Join (Converges IsShared sources groups Group)

theorem withJoins_eq_self {g : Graph} (h : ∀ k, ¬ IsShared g.edges k) : g.withJoins = g := by
  simp [withJoins, Join.groups_eq_nil h]

/-! ## The sources of the targets of a graph with joins -/

variable {g : Graph}

theorem sources_withJoins (t : String) :
    sources g.withJoins.edges t =
      (if t ∈ (groups g.edges).flatMap Group.targets then [] else sources g.edges t) ++
        sources ((groups g.edges).flatMap Group.edges) t := by
  rw [withJoins, Join.sources_append]
  congr 1
  by_cases ht : t ∈ (groups g.edges).flatMap Group.targets
  · rw [if_pos ht]
    refine Join.sources_eq_nil ?_
    rintro e he rfl
    have hkept := (List.mem_filter.mp he).2
    rw [List.contains_iff_mem.mpr ht] at hkept
    cases hkept
  · rw [if_neg ht, sources, sources, List.filter_filter]
    congr 1
    refine List.filter_congr fun e _ => ?_
    by_cases het : e.target = t
    · simp [het, List.contains_eq_mem, ht]
    · simp [het]

section
variable (free : ∀ k, IsShared g.edges k → ∀ e ∈ g.edges, e.target ≠ k)
include free

theorem not_isShared_of_converges {t k : String} (h : Converges g.edges t k) :
    ¬ IsShared g.edges t := by
  intro hshared
  obtain ⟨e, he, het⟩ := h.exists_edge
  exact free t hshared e he het

theorem sources_withJoins_merged {grp : Group} (hgrp : grp ∈ groups g.edges) {t : String}
    (ht : t ∈ grp.targets) : sources g.withJoins.edges t = [grp.key] := by
  have hmerged : t ∈ (groups g.edges).flatMap Group.targets := List.mem_flatMap.mpr ⟨grp, hgrp, ht⟩
  have hkeys : ∀ h ∈ groups g.edges, h.key ≠ t := by
    rintro h hh rfl
    have hconv := (Join.mem_group_targets hgrp).mp ht
    exact not_isShared_of_converges free hconv (Join.isShared_of_mem hh)
  rw [sources_withJoins, if_pos hmerged, Join.sources_added_target hgrp ht hkeys, List.nil_append]

theorem sources_withJoins_key {grp : Group} (hgrp : grp ∈ groups g.edges) :
    sources g.withJoins.edges grp.key = sources g.edges grp.first.target := by
  have hshared : IsShared g.edges grp.key := Join.isShared_of_mem hgrp
  have hfree : ∀ h ∈ groups g.edges, grp.key ∉ h.targets := by
    intro h hh hmem
    exact not_isShared_of_converges free ((Join.mem_group_targets hh).mp hmem) hshared
  have hnone : sources g.edges grp.key = [] := Join.sources_eq_nil (free _ hshared)
  rw [sources_withJoins, Join.sources_added hgrp hfree, hnone, ite_self, List.nil_append]

omit free in
theorem sources_withJoins_apart {t : String} (hmerged : ∀ grp ∈ groups g.edges, t ∉ grp.targets)
    (hkey : ¬ IsShared g.edges t) : sources g.withJoins.edges t = sources g.edges t := by
  have hapart : ∀ grp ∈ groups g.edges, t ∉ grp.targets ∧ grp.key ≠ t := by
    intro grp hgrp
    refine ⟨hmerged grp hgrp, ?_⟩
    rintro rfl
    exact hkey (Join.isShared_of_mem hgrp)
  have hnot : t ∉ (groups g.edges).flatMap Group.targets := by
    rw [List.mem_flatMap]
    rintro ⟨grp, hgrp, ht⟩
    exact hmerged grp hgrp ht
  rw [sources_withJoins, if_neg hnot, Join.sources_added_apart hapart, List.append_nil]

/-! ## Convergence with joins -/

/-- With joins, join nodes converge under their own ids, and other targets as before if
they do not share their keys. -/
theorem converges_withJoins_iff {t k : String} :
    Converges g.withJoins.edges t k ↔
      (t = k ∧ IsShared g.edges k) ∨ (Converges g.edges t k ∧ ¬ IsShared g.edges k) := by
  have hjoin : ∀ grp ∈ groups g.edges, Converges g.withJoins.edges grp.key grp.key := by
    intro grp hgrp
    have hconv := Join.first_converges hgrp
    rwa [Converges, sources_withJoins_key free hgrp]
  constructor
  · intro hconv
    by_cases hmerged : ∃ grp ∈ groups g.edges, t ∈ grp.targets
    · obtain ⟨grp, hgrp, ht⟩ := hmerged
      have hlen := hconv.1
      rw [sources_withJoins_merged free hgrp ht] at hlen
      simp at hlen
    push Not at hmerged
    by_cases hkey : IsShared g.edges t
    · obtain ⟨grp, hgrp, rfl⟩ := Join.isShared_iff.mp hkey
      have htk := (hjoin grp hgrp).key_unique hconv
      exact .inl ⟨htk, htk ▸ hkey⟩
    · rw [Converges, sources_withJoins_apart hmerged hkey] at hconv
      refine .inr ⟨hconv, ?_⟩
      intro hshared
      obtain ⟨grp, hgrp, rfl⟩ := Join.isShared_iff.mp hshared
      exact hmerged grp hgrp ((Join.mem_group_targets hgrp).mpr hconv)
  · rintro (⟨rfl, hshared⟩ | ⟨hconv, hfreed⟩)
    · obtain ⟨grp, hgrp, rfl⟩ := Join.isShared_iff.mp hshared
      exact hjoin grp hgrp
    · have hmerged : ∀ grp ∈ groups g.edges, t ∉ grp.targets := by
        intro grp hgrp ht
        have hkey := ((Join.mem_group_targets hgrp).mp ht).key_unique hconv
        exact hfreed (Join.isShared_iff.mpr ⟨grp, hgrp, hkey⟩)
      rwa [Converges, sources_withJoins_apart hmerged (not_isShared_of_converges free hconv)]

theorem not_isShared_withJoins (k : String) : ¬ IsShared g.withJoins.edges k := by
  rintro ⟨s, t, hst, hs, ht⟩
  rw [converges_withJoins_iff free] at hs ht
  rcases hs with ⟨rfl, hk⟩ | ⟨hs, hfreed⟩
  · rcases ht with ⟨rfl, _⟩ | ⟨_, hfreed⟩
    · exact hst rfl
    · exact hfreed hk
  · rcases ht with ⟨_, hk⟩ | ⟨ht, _⟩
    · exact hfreed hk
    · exact hfreed ⟨s, t, hst, hs, ht⟩

end

/-- If no edge leads to a shared key, the graph with joins has no shared keys, and adding
joins to it once more changes neither its nodes nor its edges. -/
theorem withJoins_withJoins (g : Graph)
    (free : ∀ k, IsShared g.edges k → ∀ e ∈ g.edges, e.target ≠ k) :
    (∀ k, ¬ IsShared g.withJoins.edges k) ∧ g.withJoins.withJoins = g.withJoins := by
  have hnormal := not_isShared_withJoins free
  exact ⟨hnormal, withJoins_eq_self hnormal⟩

theorem withJoins_withJoins_shared :
    IsShared Graph.shared.edges "a_a_b" ∧
      Graph.shared.withJoins.withJoins = Graph.shared.withJoins := by
  have hkey : Join.key ["a", "b", "a"] = "a_a_b" ∧ Join.key ["b", "a", "a"] = "a_a_b" := by
    rw [Join.key_eq_insertionSort]
    decide +kernel
  refine ⟨⟨"x", "y", by decide, ⟨by decide, hkey.1⟩, ⟨by decide, hkey.2⟩⟩, ?_⟩
  refine (withJoins_withJoins Graph.shared ?_).2
  -- Shared keys contain the separator, and no target does.
  have hplain : ∀ e ∈ Graph.shared.edges, '_' ∉ e.target.toList := by decide
  rintro k ⟨t, _, _, ⟨hlen, rfl⟩, _⟩ e he heq
  have hsep := Join.separator_mem_key hlen
  exact hplain e he (heq ▸ hsep)

end Graph
end TaskGraph
