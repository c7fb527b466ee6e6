-- SUMMARY: Which targets converge, which keys they share, and the groups and nodes that come of it.
import Mathlib.Data.List.Nodup
import TaskGraph.Proofs.JoinKey

/-!
# Groups of targets

A target converges under a key if two or more edges lead to it and their sources
have that key; a key is shared if two targets converge under it. The groups of a
list of edges are exactly the shared keys, each with the targets that converge
under it, and no target is in two groups.
-/
namespace TaskGraph
namespace Join

/-! ## Lists without repetitions -/

theorem nodup_eraseDups {α : Type} [BEq α] [LawfulBEq α] : (as : List α) → as.eraseDups.Nodup
  | [] => by simp
  | a :: as => by
    rw [List.eraseDups_cons, List.nodup_cons]
    refine ⟨?_, nodup_eraseDups _⟩
    intro h
    simpa using List.mem_eraseDups.mp h
termination_by as => as.length
decreasing_by exact Nat.lt_succ_of_le (List.length_filter_le _ _)

/-- Of items with distinct keys, one key selects one item. -/
theorem flatMap_of_key {α β γ : Type} [DecidableEq β] {key : α → β} (f : α → List γ)
    {items : List α} (hkeys : (items.map key).Nodup) {a : α} (ha : a ∈ items) :
    (items.flatMap fun b => if key b = key a then f b else []) = f a := by
  induction items with
  | nil => cases ha
  | cons b bs ih =>
    obtain ⟨hb, hbs⟩ := List.nodup_cons.mp hkeys
    rw [List.flatMap_cons]
    cases List.mem_cons.mp ha with
    | inl hab =>
      subst hab
      have hrest : (bs.flatMap fun c => if key c = key a then f c else []) = [] := by
        rw [List.flatMap_eq_nil_iff]
        intro c hc
        have hne : key c ≠ key a := fun h => hb (h ▸ List.mem_map_of_mem hc)
        exact if_neg hne
      rw [if_pos rfl, hrest, List.append_nil]
    | inr hab =>
      have hne : key b ≠ key a := fun h => hb (h ▸ List.mem_map_of_mem hab)
      rw [if_neg hne, ih hbs hab, List.nil_append]

/-! ## Sources and shared keys -/

/-- Where the edges into a target come from. -/
def sources (edges : List Edge) (target : String) : List String :=
  (edges.filter (·.target == target)).map Edge.source

/-- Two or more edges lead to the target, and `k` is the key of their sources. -/
def Converges (edges : List Edge) (target k : String) : Prop :=
  2 ≤ (sources edges target).length ∧ key (sources edges target) = k

/-- Two different targets converge under the key. -/
def IsShared (edges : List Edge) (k : String) : Prop :=
  ∃ s t, s ≠ t ∧ Converges edges s k ∧ Converges edges t k

variable {edges : List Edge}

@[simp] theorem sources_append (es fs : List Edge) (t : String) :
    sources (es ++ fs) t = sources es t ++ sources fs t := by
  simp [sources]

theorem sources_flatMap {α : Type} (f : α → List Edge) (items : List α) (t : String) :
    sources (items.flatMap f) t = items.flatMap fun a => sources (f a) t := by
  simp [sources, List.filter_flatMap, List.map_flatMap]

/-- A target has no edges but its own. -/
theorem sources_eq_nil {t : String} (h : ∀ e ∈ edges, e.target ≠ t) : sources edges t = [] := by
  simpa [sources] using h

theorem Converges.exists_edge {t k : String} (h : Converges edges t k) :
    ∃ e ∈ edges, e.target = t := by
  by_contra hno
  push Not at hno
  have hlen := h.1
  rw [sources_eq_nil hno] at hlen
  simp at hlen

theorem Converges.key_unique {t k l : String} (hk : Converges edges t k)
    (hl : Converges edges t l) : k = l :=
  hk.2.symm.trans hl.2

/-! ## Convergences -/

theorem mem_convergences {c : Convergence} :
    c ∈ convergences edges ↔ c = .of edges c.target ∧ Converges edges c.target c.key := by
  simp only [convergences, List.mem_filter, List.mem_map, decide_eq_true_eq]
  constructor
  · intro hmem
    obtain ⟨⟨t, _, rfl⟩, hlen⟩ := hmem
    refine ⟨rfl, ?_, rfl⟩
    simpa [Convergence.of, sources] using hlen
  · intro hof
    obtain ⟨hc, hlen, hkey⟩ := hof
    obtain ⟨e, he, het⟩ := Converges.exists_edge ⟨hlen, hkey⟩
    refine ⟨⟨c.target, ?_, hc.symm⟩, ?_⟩
    · rw [targets, List.mem_eraseDups]
      exact List.mem_map.mpr ⟨e, he, het⟩
    · rw [hc]
      simpa [Convergence.of, sources] using hlen

theorem of_mem_convergences {t k : String} (h : Converges edges t k) :
    Convergence.of edges t ∈ convergences edges := by
  rw [mem_convergences]
  exact ⟨rfl, h.1, rfl⟩

/-- The convergences evaluated: which targets converge, and under which keys. -/
theorem converges_iff_mem {t k : String} :
    Converges edges t k ↔ (t, k) ∈ (convergences edges).map fun c => (c.target, c.key) := by
  simp only [List.mem_map, Prod.mk.injEq]
  constructor
  · intro h
    exact ⟨.of edges t, of_mem_convergences h, rfl, h.2⟩
  · intro hmem
    obtain ⟨c, hc, rfl, rfl⟩ := hmem
    exact (mem_convergences.mp hc).2

theorem convergences_targets_nodup : ((convergences edges).map Convergence.target).Nodup := by
  have htargets : (targets edges).Nodup := nodup_eraseDups _
  simp only [convergences, List.filter_map, List.map_map]
  refine (htargets.filter _).map_on ?_
  intro s _ t _ h
  exact h

/-! ## Groups -/

namespace Group

theorem of?_eq_some {cs : List Convergence} {k : String} {g : Group} (h : of? cs k = some g) :
    g.key = k ∧ g.members = cs.filter (·.key == k) ∧ 2 ≤ g.members.length := by
  unfold of? at h
  split at h
  · rename_i first other others hcs
    cases h
    exact ⟨rfl, hcs.symm, by simp [members]⟩
  · cases h

theorem exists_of? {cs : List Convergence} {k : String}
    (h : 2 ≤ (cs.filter (·.key == k)).length) : ∃ g, of? cs k = some g := by
  cases hcs : cs.filter (·.key == k) with
  | nil => simp [hcs] at h
  | cons first rest =>
    cases rest with
    | nil => simp [hcs] at h
    | cons other others => exact ⟨{ key := k, first, others := other :: others }, by simp [of?, hcs]⟩

theorem ext_members {g h : Group} (hkey : g.key = h.key) (hmembers : g.members = h.members) :
    g = h := by
  cases g
  cases h
  simp_all [members]

theorem of?_eq_some_iff {cs : List Convergence} {k : String} {g : Group} :
    of? cs k = some g ↔
      g.key = k ∧ g.members = cs.filter (·.key == k) ∧ 2 ≤ g.members.length := by
  refine ⟨of?_eq_some, ?_⟩
  intro hg
  obtain ⟨hkey, hmembers, hlen⟩ := hg
  obtain ⟨h, hof⟩ := exists_of? (hmembers ▸ hlen)
  obtain ⟨hkey', hmembers', _⟩ := of?_eq_some hof
  have heq : h = g := ext_members (hkey'.trans hkey.symm) (hmembers'.trans hmembers.symm)
  exact heq ▸ hof

end Group

theorem mem_groups {g : Group} :
    g ∈ groups edges ↔
      g.members = (convergences edges).filter (·.key == g.key) ∧ 2 ≤ g.members.length := by
  simp only [groups, List.mem_filterMap, List.mem_eraseDups, List.mem_map]
  constructor
  · intro hmem
    obtain ⟨k, _, hof⟩ := hmem
    obtain ⟨rfl, hmembers⟩ := Group.of?_eq_some hof
    exact hmembers
  · intro hmembers
    obtain ⟨hmembers, hlen⟩ := hmembers
    have hfirst : g.first ∈ (convergences edges).filter (·.key == g.key) := by
      rw [← hmembers]
      simp [Group.members]
    rw [List.mem_filter, beq_iff_eq] at hfirst
    exact ⟨g.key, ⟨g.first, hfirst⟩, Group.of?_eq_some_iff.mpr ⟨rfl, hmembers, hlen⟩⟩

theorem eq_of_key_eq {g h : Group} (hg : g ∈ groups edges) (hh : h ∈ groups edges)
    (hkey : g.key = h.key) : g = h := by
  refine Group.ext_members hkey ?_
  rw [(mem_groups.mp hg).1, (mem_groups.mp hh).1, hkey]

theorem groups_nodup : (groups edges).Nodup := by
  refine (nodup_eraseDups _).filterMap ?_
  intro k l g hk hl
  exact (Group.of?_eq_some hk).1.symm.trans (Group.of?_eq_some hl).1

theorem keys_nodup : ((groups edges).map Group.key).Nodup :=
  groups_nodup.map_on fun _ hg _ hh => eq_of_key_eq hg hh

theorem mem_group_targets {g : Group} (hg : g ∈ groups edges) {t : String} :
    t ∈ g.targets ↔ Converges edges t g.key := by
  simp only [Group.targets, (mem_groups.mp hg).1, List.mem_map, List.mem_filter, beq_iff_eq,
    mem_convergences]
  constructor
  · intro hmem
    obtain ⟨c, ⟨⟨_, hc⟩, hkey⟩, rfl⟩ := hmem
    rwa [hkey] at hc
  · intro ht
    exact ⟨.of edges t, ⟨⟨rfl, ht.1, rfl⟩, ht.2⟩, rfl⟩

theorem group_targets_nodup {g : Group} (hg : g ∈ groups edges) : g.targets.Nodup := by
  rw [Group.targets, (mem_groups.mp hg).1]
  exact convergences_targets_nodup.sublist (List.filter_sublist.map _)

theorem isShared_iff {k : String} : IsShared edges k ↔ ∃ g ∈ groups edges, g.key = k := by
  constructor
  · intro hshared
    obtain ⟨s, t, hst, hs, ht⟩ := hshared
    have hmem : ∀ {r}, Converges edges r k →
        Convergence.of edges r ∈ (convergences edges).filter (·.key == k) := by
      intro r hr
      rw [List.mem_filter, beq_iff_eq]
      exact ⟨of_mem_convergences hr, hr.2⟩
    have hlen : 2 ≤ ((convergences edges).filter (·.key == k)).length := by
      have hsub : [Convergence.of edges s, Convergence.of edges t] ⊆
          (convergences edges).filter (·.key == k) := by
        simp [hmem hs, hmem ht]
      have hnodup : [Convergence.of edges s, Convergence.of edges t].Nodup := by
        simpa [Convergence.of] using fun h => absurd h hst
      exact (List.subperm_of_subset hnodup hsub).length_le
    obtain ⟨g, hof⟩ := Group.exists_of? hlen
    obtain ⟨hkey, hmembers, hlen'⟩ := Group.of?_eq_some hof
    exact ⟨g, mem_groups.mpr ⟨hkey ▸ hmembers, hlen'⟩, hkey⟩
  · intro hgroup
    obtain ⟨g, hg, rfl⟩ := hgroup
    have hnodup := group_targets_nodup hg
    cases hothers : g.others with
    | nil =>
      have hlen := (mem_groups.mp hg).2
      simp [Group.members, hothers] at hlen
    | cons other others =>
      have htargets : g.targets =
          g.first.target :: other.target :: others.map Convergence.target := by
        simp [Group.targets, Group.members, hothers]
      refine ⟨g.first.target, other.target, ?_, ?_, ?_⟩
      · intro h
        simp [htargets, h] at hnodup
      · exact (mem_group_targets hg).mp (by simp [htargets])
      · exact (mem_group_targets hg).mp (by simp [htargets])

theorem isShared_of_mem {g : Group} (hg : g ∈ groups edges) : IsShared edges g.key :=
  isShared_iff.mpr ⟨g, hg, rfl⟩

open Classical in
/-- The groups come in the order of the convergences, one for each shared key. -/
theorem keys_eq_filter :
    (groups edges).map Group.key =
      ((convergences edges).map Convergence.key).eraseDups.filter (IsShared edges ·) := by
  rw [groups, List.map_filterMap, ← List.filterMap_eq_filter]
  refine List.filterMap_congr fun k _ => ?_
  by_cases hk : IsShared edges k
  · obtain ⟨g, hg, rfl⟩ := isShared_iff.mp hk
    have hof : Group.of? (convergences edges) g.key = some g :=
      Group.of?_eq_some_iff.mpr ⟨rfl, mem_groups.mp hg⟩
    simp [hof, hk, Option.guard]
  · have hnone : Group.of? (convergences edges) k = none := by
      rw [Option.eq_none_iff_forall_ne_some]
      intro g hof
      obtain ⟨rfl, hmembers⟩ := Group.of?_eq_some hof
      exact hk (isShared_of_mem (mem_groups.mpr hmembers))
    simp [hnone, hk, Option.guard]

/-- The merged targets are those that converge under a shared key. -/
theorem mem_merged {t : String} :
    t ∈ (groups edges).flatMap Group.targets ↔ ∃ k, IsShared edges k ∧ Converges edges t k := by
  simp only [List.mem_flatMap, isShared_iff]
  constructor
  · intro hmem
    obtain ⟨g, hg, ht⟩ := hmem
    exact ⟨g.key, ⟨g, hg, rfl⟩, (mem_group_targets hg).mp ht⟩
  · intro hmem
    obtain ⟨_, ⟨g, hg, rfl⟩, ht⟩ := hmem
    exact ⟨g, hg, (mem_group_targets hg).mpr ht⟩

theorem merged_nodup : ((groups edges).flatMap Group.targets).Nodup := by
  rw [List.nodup_flatMap]
  refine ⟨fun g hg => group_targets_nodup hg, ?_⟩
  refine groups_nodup.imp_of_mem ?_
  intro g h hg hh hne t htg hth
  have hkey : g.key = h.key :=
    ((mem_group_targets hg).mp htg).key_unique ((mem_group_targets hh).mp hth)
  exact hne (eq_of_key_eq hg hh hkey)

theorem first_converges {g : Group} (hg : g ∈ groups edges) :
    Converges edges g.first.target g.key :=
  (mem_group_targets hg).mp (by simp [Group.targets, Group.members])

theorem first_eq_of {g : Group} (hg : g ∈ groups edges) : g.first = .of edges g.first.target := by
  have hmem : g.first ∈ g.members := by simp [Group.members]
  rw [(mem_groups.mp hg).1, List.mem_filter] at hmem
  exact (mem_convergences.mp hmem.1).1

/-- The edges that a group borrows come from the sources of its first target. -/
theorem first_sources {g : Group} (hg : g ∈ groups edges) :
    g.first.incoming.map Edge.source = sources edges g.first.target := by
  rw [first_eq_of hg]
  rfl

end Join

/-! ## The graph with joins -/

/-- The join node of a key. -/
def Join.keyNode (k : String) : Node := { id := k, label := "", description := "", kind := .join }

namespace Graph

/-- The nodes that `withJoins` adds. -/
def joinNodes (g : Graph) : List Node := g.withJoins.nodes.drop g.nodes.length

theorem joinNodes_eq (g : Graph) : g.joinNodes = (Join.groups g.edges).map Join.Group.node := by
  simp [joinNodes, withJoins]

theorem joinNodes_eq_map (g : Graph) :
    g.joinNodes = ((Join.groups g.edges).map Join.Group.key).map Join.keyNode := by
  rw [joinNodes_eq, List.map_map]
  rfl

theorem withJoins_nodes (g : Graph) : g.withJoins.nodes = g.nodes ++ g.joinNodes := by
  simp [joinNodes, withJoins]

theorem kind_of_mem_joinNodes {g : Graph} {j : Node} (hj : j ∈ g.joinNodes) : j.kind = .join := by
  rw [joinNodes_eq, List.mem_map] at hj
  obtain ⟨_, _, rfl⟩ := hj
  rfl

theorem joinNodes_ids (g : Graph) :
    g.joinNodes.map Node.id = (Join.groups g.edges).map Join.Group.key := by
  simp [joinNodes_eq, Join.Group.node]

theorem mem_joinNodes_ids {g : Graph} {k : String} :
    k ∈ g.joinNodes.map Node.id ↔ Join.IsShared g.edges k := by
  rw [joinNodes_ids, List.mem_map, Join.isShared_iff]

theorem joinNodes_ids_nodup (g : Graph) : (g.joinNodes.map Node.id).Nodup := by
  rw [joinNodes_ids]
  exact Join.keys_nodup

/-! ## Connections -/

/-- Some edge leads from one id to the other. -/
def Leads (g : Graph) (s t : String) : Prop := ∃ e ∈ g.edges, e.source = s ∧ e.target = t

theorem group_leads_iff {edges : List Edge} {grp : Join.Group} (hgrp : grp ∈ Join.groups edges)
    {s t : String} :
    (∃ e ∈ grp.edges, e.source = s ∧ e.target = t) ↔
      (grp.key = t ∧ s ∈ Join.sources edges grp.first.target) ∨
        (grp.key = s ∧ t ∈ grp.targets) := by
  rw [← Join.first_sources hgrp]
  simp only [Join.Group.edges, List.mem_append, List.mem_map]
  constructor
  · rintro ⟨_, ⟨e, he, rfl⟩ | ⟨r, hr, rfl⟩, rfl, rfl⟩
    · exact .inl ⟨rfl, e, he, rfl⟩
    · exact .inr ⟨rfl, hr⟩
  · rintro (⟨rfl, e, he, rfl⟩ | ⟨rfl, ht⟩)
    · exact ⟨_, .inl ⟨e, he, rfl⟩, rfl, rfl⟩
    · exact ⟨_, .inr ⟨t, ht, rfl⟩, rfl, rfl⟩

/-- Targets that are not merged keep their edges; a join node is reached from the sources
of its first target, and leads to all its targets. -/
theorem withJoins_leads_iff {g : Graph} {s t : String} :
    g.withJoins.Leads s t ↔
      (g.Leads s t ∧ ∀ k, Join.IsShared g.edges k → ¬ Join.Converges g.edges t k) ∨
      (∃ grp ∈ Join.groups g.edges, grp.key = t ∧ s ∈ Join.sources g.edges grp.first.target) ∨
      (Join.IsShared g.edges s ∧ Join.Converges g.edges t s) := by
  have hmerged : ∀ e : Edge,
      (!((Join.groups g.edges).flatMap Join.Group.targets).contains e.target) = true ↔
        ∀ k, Join.IsShared g.edges k → ¬ Join.Converges g.edges e.target k := by
    intro e
    rw [Bool.not_eq_true', ← Bool.not_eq_true, List.contains_iff_mem, Join.mem_merged]
    simp
  constructor
  · intro hlead
    obtain ⟨e, he, hs, ht⟩ := hlead
    rw [withJoins, List.mem_append] at he
    cases he with
    | inl hkept =>
      rw [List.mem_filter, hmerged] at hkept
      exact .inl ⟨⟨e, hkept.1, hs, ht⟩, ht ▸ hkept.2⟩
    | inr hadded =>
      obtain ⟨grp, hgrp, he⟩ := List.mem_flatMap.mp hadded
      cases (group_leads_iff hgrp).mp ⟨e, he, hs, ht⟩ with
      | inl henter => exact .inr (.inl ⟨grp, hgrp, henter⟩)
      | inr hleave =>
        obtain ⟨rfl, hmem⟩ := hleave
        exact .inr (.inr ⟨Join.isShared_of_mem hgrp,
          (Join.mem_group_targets hgrp).mp hmem⟩)
  · have hadd : ∀ grp ∈ Join.groups g.edges,
        (∃ e ∈ grp.edges, e.source = s ∧ e.target = t) → g.withJoins.Leads s t := by
      rintro grp hgrp ⟨e, he, hst⟩
      exact ⟨e, List.mem_append_right _ (List.mem_flatMap.mpr ⟨grp, hgrp, he⟩), hst⟩
    rintro (⟨⟨e, he, rfl, rfl⟩, hfree⟩ | ⟨grp, hgrp, henter⟩ | ⟨hshared, hconv⟩)
    · refine ⟨e, List.mem_append_left _ ?_, rfl, rfl⟩
      rw [List.mem_filter, hmerged]
      exact ⟨he, hfree⟩
    · exact hadd grp hgrp ((group_leads_iff hgrp).mpr (.inl henter))
    · obtain ⟨grp, hgrp, rfl⟩ := Join.isShared_iff.mp hshared
      have hmem := (Join.mem_group_targets hgrp).mpr hconv
      exact hadd grp hgrp ((group_leads_iff hgrp).mpr (.inr ⟨rfl, hmem⟩))

end Graph
end TaskGraph
