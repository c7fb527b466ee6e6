-- SUMMARY: What the joins of a graph owe to the order of its edges.
import TaskGraph.Proofs.JoinGroup

/-!
# Joins and the order of edges

Reordering the edges of a graph keeps its shared keys and the targets that converge under
them. It can change the order of the groups, and with it which target of a group comes first
and lends its edges. If the targets occur in the same order as before, neither of these
changes.
-/
namespace TaskGraph

/-- Items that are matched by their keys, and give the same up to order, give the same in total. -/
theorem flatMap_perm_of_keys {α β γ : Type} {key : α → β} {f : α → List γ} {as bs : List α}
    (hkeys : (as.map key).Perm (bs.map key))
    (hf : ∀ a ∈ as, ∀ b ∈ bs, key a = key b → (f a).Perm (f b)) :
    (as.flatMap f).Perm (bs.flatMap f) := by
  induction as generalizing bs with
  | nil =>
    obtain rfl : bs = [] := by simpa using hkeys.symm
    rfl
  | cons a as ih =>
    obtain ⟨b, hb, hab⟩ := List.mem_map.mp (hkeys.subset (List.mem_cons_self ..))
    obtain ⟨pre, post, rfl⟩ := List.append_of_mem hb
    have hrest : (as.map key).Perm ((pre ++ post).map key) := by
      refine List.Perm.cons_inv (a := key a) (hkeys.trans ?_)
      rw [← hab]
      exact List.perm_middle.map key
    have hmem : ∀ x ∈ pre ++ post, x ∈ pre ++ b :: post := by
      intro x hx
      exact List.perm_middle.mem_iff.mpr (List.mem_cons_of_mem b hx)
    have htail : (as.flatMap f).Perm ((pre ++ post).flatMap f) :=
      ih hrest fun x hx y hy => hf x (List.mem_cons_of_mem a hx) y (hmem y hy)
    have hhead : (f a).Perm (f b) := hf a (List.mem_cons_self ..) b hb hab.symm
    rw [List.flatMap_cons]
    refine (hhead.append htail).trans ?_
    rw [← List.flatMap_cons]
    exact (List.perm_middle.flatMap_right f).symm

namespace Join

variable {es fs : List Edge}

/-! ## Reordered edges -/

section
variable (h : es.Perm fs)
include h

theorem sources_perm (t : String) : (sources es t).Perm (sources fs t) :=
  (h.filter _).map _

theorem converges_congr {t k : String} : Converges es t k ↔ Converges fs t k := by
  have hsources := sources_perm h t
  rw [Converges, Converges, hsources.length_eq, key_of_perm hsources]

theorem isShared_congr {k : String} : IsShared es k ↔ IsShared fs k := by
  simp only [IsShared, converges_congr h]

theorem keys_perm : ((groups es).map Group.key).Perm ((groups fs).map Group.key) := by
  rw [List.perm_ext_iff_of_nodup keys_nodup keys_nodup]
  intro k
  simp only [List.mem_map, ← isShared_iff, isShared_congr h]

theorem merged_congr {t : String} :
    t ∈ (groups es).flatMap Group.targets ↔ t ∈ (groups fs).flatMap Group.targets := by
  simp only [mem_merged, isShared_congr h, converges_congr h]

theorem group_targets_perm {g g' : Group} (hg : g ∈ groups es) (hg' : g' ∈ groups fs)
    (hkey : g.key = g'.key) : g.targets.Perm g'.targets := by
  rw [List.perm_ext_iff_of_nodup (group_targets_nodup hg) (group_targets_nodup hg')]
  intro t
  rw [mem_group_targets hg, mem_group_targets hg', hkey, converges_congr h]

end

/-! ## Plain edges -/

/-- All edges are plain, so that they are known from their ends. -/
def Plain (edges : List Edge) : Prop := ∀ e ∈ edges, e = .flow e.source e.target

theorem Plain.of_perm (hplain : Plain es) (h : es.Perm fs) : Plain fs :=
  fun e he => hplain e (h.mem_iff.mpr he)

theorem Plain.group_edges (hplain : Plain es) {g : Group} (hg : g ∈ groups es) :
    g.edges =
      (sources es g.first.target).map (Edge.flow · g.key) ++ g.targets.map (Edge.flow g.key) := by
  rw [Group.edges, ← first_sources hg, List.map_map]
  congr 1
  refine List.map_congr_left fun e he => ?_
  have hmem : e ∈ es := by
    rw [first_eq_of hg] at he
    exact List.mem_of_mem_filter he
  have hflow : e = .flow e.source e.target := hplain e hmem
  generalize e.source = s at hflow
  rw [hflow]
  rfl

/-- Two groups with one key add the same edges if they borrow them from the same sources. -/
theorem Plain.group_edges_perm (hplain : Plain es) (h : es.Perm fs) {g g' : Group}
    (hg : g ∈ groups es) (hg' : g' ∈ groups fs) (hkey : g.key = g'.key)
    (hfirst : (sources es g.first.target).Perm (sources es g'.first.target)) :
    g.edges.Perm g'.edges := by
  have hsources : (sources es g.first.target).Perm (sources fs g'.first.target) :=
    hfirst.trans (sources_perm h _)
  have htargets : g.targets.Perm g'.targets := group_targets_perm h hg hg' hkey
  rw [hplain.group_edges hg, (hplain.of_perm h).group_edges hg', hkey]
  exact (hsources.map _).append (htargets.map _)

/-! ## Targets in the same order -/

theorem convergences_eq_map (edges : List Edge) :
    convergences edges =
      ((targets edges).filter fun t => 2 ≤ (sources edges t).length).map (Convergence.of edges) := by
  rw [convergences, List.filter_map]
  congr 1
  refine List.filter_congr fun t _ => ?_
  have hlen : (Convergence.of edges t).incoming.length = (sources edges t).length := by
    simp [Convergence.of, sources]
  rw [Function.comp_apply, hlen]

open Classical in
/-- The targets of a group, in the order in which they first occur. -/
theorem group_targets_eq_filter {g : Group} (hg : g ∈ groups es) :
    g.targets = (targets es).filter (Converges es · g.key) := by
  rw [Group.targets, (mem_groups.mp hg).1, convergences_eq_map, List.filter_map, List.map_map,
    List.filter_filter]
  have hof : Convergence.target ∘ Convergence.of es = id := rfl
  rw [hof, List.map_id]
  refine List.filter_congr fun t _ => ?_
  rw [Bool.eq_iff_iff]
  simp [Converges, Convergence.of, sources, and_comm]

section
variable (h : es.Perm fs) (htargets : es.map Edge.target = fs.map Edge.target)
include h htargets

theorem keys_eq : (groups es).map Group.key = (groups fs).map Group.key := by
  have hkeys : (convergences es).map Convergence.key = (convergences fs).map Convergence.key := by
    rw [convergences_eq_map, convergences_eq_map, List.map_map, List.map_map, targets, htargets]
    have hlen : (fun t => decide (2 ≤ (sources es t).length)) =
        fun t => decide (2 ≤ (sources fs t).length) := by
      funext t
      rw [(sources_perm h t).length_eq]
    rw [hlen]
    exact List.map_congr_left fun t _ => key_of_perm (sources_perm h t)
  rw [keys_eq_filter, keys_eq_filter, hkeys]
  exact List.filter_congr fun k _ => decide_eq_decide.mpr (isShared_congr h)

theorem first_target_eq {g g' : Group} (hg : g ∈ groups es) (hg' : g' ∈ groups fs)
    (hkey : g.key = g'.key) : g.first.target = g'.first.target := by
  have hlists : g.targets = g'.targets := by
    rw [group_targets_eq_filter hg, group_targets_eq_filter hg', targets, htargets, hkey]
    exact List.filter_congr fun t _ => decide_eq_decide.mpr (converges_congr h)
  exact (List.cons.inj hlists).1

end

end Join

/-! ## Graphs with reordered edges -/

namespace Graph

open Join (sources groups Group)

variable {g h : Graph} (hedges : g.edges.Perm h.edges)
include hedges

theorem withJoins_nodes_perm (hnodes : g.nodes.Perm h.nodes) :
    g.withJoins.nodes.Perm h.withJoins.nodes := by
  rw [withJoins_nodes, withJoins_nodes, joinNodes_eq_map, joinNodes_eq_map]
  exact hnodes.append ((Join.keys_perm hedges).map _)

theorem withJoins_nodes_eq (hnodes : g.nodes = h.nodes)
    (htargets : g.edges.map Edge.target = h.edges.map Edge.target) :
    g.withJoins.nodes = h.withJoins.nodes := by
  rw [withJoins_nodes, withJoins_nodes, joinNodes_eq_map, joinNodes_eq_map, hnodes,
    Join.keys_eq hedges htargets]

theorem withJoins_edges_perm (hplain : Join.Plain g.edges)
    (hfirst : ∀ grp ∈ groups g.edges, ∀ grp' ∈ groups h.edges, grp.key = grp'.key →
      (sources g.edges grp.first.target).Perm (sources g.edges grp'.first.target)) :
    g.withJoins.edges.Perm h.withJoins.edges := by
  have hmerged : ∀ e : Edge, (!((groups g.edges).flatMap Group.targets).contains e.target) =
      !((groups h.edges).flatMap Group.targets).contains e.target := by
    intro e
    rw [Bool.not_inj_iff, Bool.eq_iff_iff, List.contains_iff_mem, List.contains_iff_mem]
    exact Join.merged_congr hedges
  refine List.Perm.append ?_ ?_
  · rw [funext hmerged]
    exact hedges.filter _
  · refine flatMap_perm_of_keys (Join.keys_perm hedges) ?_
    intro grp hgrp grp' hgrp' hkey
    exact hplain.group_edges_perm hedges hgrp hgrp' hkey (hfirst grp hgrp grp' hgrp' hkey)

end Graph
end TaskGraph
