-- SUMMARY: The joins of a workflow, in terms of its tasks and what they need.
import TaskGraph.Compiler.Tasks
import TaskGraph.Proofs.JoinGroup

/-!
# Workflows and their joins

In a workflow without repeated references, what converges are the tasks with two or
more needs, in the order of the workflow and under the keys of their needs. The
relation `Wired` says which ids the edges of the compiled workflow connect.
-/
namespace TaskGraph

variable {tasks : List Task}

/-! ## Shared keys -/

/-- The task has two or more needs, and `k` is their key. -/
def Task.Converges (t : Task) (k : String) : Prop := 2 ≤ t.needs.length ∧ Join.key t.needs = k

instance (t : Task) (k : String) : Decidable (t.Converges k) :=
  inferInstanceAs (Decidable (_ ∧ _))

/-- Two different tasks have the key. -/
def SharedKey (tasks : List Task) (k : String) : Prop :=
  ∃ s ∈ tasks, ∃ t ∈ tasks, s ≠ t ∧ s.Converges k ∧ t.Converges k

/-- The first task with a key, from whose needs the join node is reached. -/
def lender? (tasks : List Task) (k : String) : Option Task :=
  tasks.find? fun t => t.Converges k

/-- The ids that a workflow connects once it has its joins. -/
inductive Wired (tasks : List Task) : String → String → Prop
  /-- From what a task needs to the task, if it shares its key with no other. -/
  | need {s : String} (t : Task) (ht : t ∈ tasks) (hs : s ∈ t.needs)
      (hfree : ∀ k, SharedKey tasks k → ¬ t.Converges k) : Wired tasks s t.ref
  /-- From what the lender of a shared key needs to the join node. -/
  | enter {s k : String} (t : Task) (hk : SharedKey tasks k) (ht : lender? tasks k = some t)
      (hs : s ∈ t.needs) : Wired tasks s k
  /-- From the join node of a shared key to the tasks that have it. -/
  | leave {k : String} (t : Task) (hk : SharedKey tasks k) (ht : t ∈ tasks)
      (hconv : t.Converges k) : Wired tasks k t.ref

theorem eq_of_ref_eq (hrefs : (tasks.map Task.ref).Nodup) {s t : Task} (hs : s ∈ tasks)
    (ht : t ∈ tasks) (h : s.ref = t.ref) : s = t :=
  List.inj_on_of_nodup_map hrefs hs ht h

theorem lender_spec {k : String} {t : Task} (h : lender? tasks k = some t) :
    t ∈ tasks ∧ t.Converges k :=
  ⟨List.mem_of_find?_eq_some h, by simpa using List.find?_some h⟩

theorem SharedKey.exists_lender {k : String} (hk : SharedKey tasks k) :
    ∃ t, lender? tasks k = some t := by
  obtain ⟨s, hs, _, _, _, hsk, _⟩ := hk
  cases hlender : lender? tasks k with
  | none => exact absurd hsk (by simpa using List.find?_eq_none.mp hlender s hs)
  | some t => exact ⟨t, rfl⟩

/-! ## Convergences of a workflow -/

theorem edges_into (tasks : List Task) (r : String) :
    (Graph.ofWorkflow tasks).edges.filter (·.target == r) =
      tasks.flatMap fun t => if t.ref = r then t.edges else [] := by
  rw [Graph.ofWorkflow, List.filter_flatMap]
  refine List.flatMap_congr fun t _ => ?_
  by_cases h : t.ref = r <;> simp [Task.edges, Edge.flow, List.filter_map, Function.comp_def, h]

/-- The task as a target of a workflow. -/
def Task.convergence (t : Task) : Join.Convergence :=
  { target := t.ref, incoming := t.edges, key := Join.key t.needs }

theorem Task.sources_edges (t : Task) : t.edges.map Edge.source = t.needs := by
  simp [Task.edges, Edge.flow, Function.comp_def]

theorem leads_ofWorkflow {s r : String} :
    (Graph.ofWorkflow tasks).Leads s r ↔ ∃ t ∈ tasks, t.ref = r ∧ s ∈ t.needs := by
  simp only [Graph.Leads, Graph.ofWorkflow, List.mem_flatMap, Task.edges, List.mem_map]
  constructor
  · intro hlead
    obtain ⟨_, ⟨t, ht, n, hn, rfl⟩, rfl, rfl⟩ := hlead
    exact ⟨t, ht, rfl, hn⟩
  · intro hneed
    obtain ⟨t, ht, rfl, hs⟩ := hneed
    exact ⟨_, ⟨t, ht, s, hs, rfl⟩, rfl, rfl⟩

section
variable (hrefs : (tasks.map Task.ref).Nodup)
include hrefs

theorem convergence_of_mem {t : Task} (ht : t ∈ tasks) :
    Join.Convergence.of (Graph.ofWorkflow tasks).edges t.ref = t.convergence := by
  have hinto : (Graph.ofWorkflow tasks).edges.filter (·.target == t.ref) = t.edges := by
    rw [edges_into, Join.flatMap_of_key Task.edges hrefs ht]
  simp only [Join.Convergence.of, Task.convergence, hinto, Task.sources_edges]

/-- The targets of a workflow are the tasks with needs, in their order. -/
theorem targets_ofWorkflow :
    Join.targets (Graph.ofWorkflow tasks).edges =
      (tasks.filter (!·.needs.isEmpty)).map Task.ref := by
  have htargets : Join.targets (Graph.ofWorkflow tasks).edges =
      (tasks.flatMap fun t => t.needs.map fun _ => t.ref).eraseDups := by
    simp [Join.targets, Graph.ofWorkflow, List.map_flatMap, Task.edges, Edge.flow,
      Function.comp_def]
  rw [htargets]
  clear htargets
  induction tasks with
  | nil => rfl
  | cons t ts ih =>
    obtain ⟨ht, hts⟩ := List.nodup_cons.mp hrefs
    rw [List.flatMap_cons, List.filter_cons]
    cases hneeds : t.needs with
    | nil => simpa using ih hts
    | cons n ns =>
      have hown : (ns.map fun _ => t.ref).filter (!· == t.ref) = [] := by simp
      have hrest : (ts.flatMap fun u => u.needs.map fun _ => u.ref).filter (!· == t.ref) =
          ts.flatMap fun u => u.needs.map fun _ => u.ref := by
        rw [List.filter_eq_self]
        intro r hr
        simp only [List.mem_flatMap, List.mem_map] at hr
        obtain ⟨u, hu, _, _, rfl⟩ := hr
        have hne : u.ref ≠ t.ref := fun h => ht (h ▸ List.mem_map_of_mem hu)
        simpa using hne
      rw [List.map_cons, List.cons_append, List.eraseDups_cons, List.filter_append, hown, hrest,
        List.nil_append, ih hts]
      rfl

/-- The convergences of a workflow are the tasks with two or more needs, in their order. -/
theorem convergences_ofWorkflow :
    Join.convergences (Graph.ofWorkflow tasks).edges =
      (tasks.filter (2 ≤ ·.needs.length)).map Task.convergence := by
  have hof : ((tasks.filter (!·.needs.isEmpty)).map Task.ref).map
      (Join.Convergence.of (Graph.ofWorkflow tasks).edges) =
      (tasks.filter (!·.needs.isEmpty)).map Task.convergence := by
    rw [List.map_map]
    refine List.map_congr_left fun t ht => ?_
    exact convergence_of_mem hrefs (List.mem_of_mem_filter ht)
  rw [Join.convergences, targets_ofWorkflow hrefs, hof, List.filter_map, List.filter_filter]
  congr 1
  refine List.filter_congr fun t _ => ?_
  cases hneeds : t.needs with
  | nil => simp [Task.convergence, Task.edges, hneeds]
  | cons n ns => simp [Task.convergence, Task.edges, hneeds]

theorem converges_ofWorkflow {r k : String} :
    Join.Converges (Graph.ofWorkflow tasks).edges r k ↔
      ∃ t ∈ tasks, t.ref = r ∧ t.Converges k := by
  rw [Join.converges_iff_mem, convergences_ofWorkflow hrefs]
  simp only [List.map_map, List.mem_map, List.mem_filter, decide_eq_true_eq, Function.comp_apply,
    Task.convergence, Prod.mk.injEq, Task.Converges]
  grind

theorem isShared_ofWorkflow {k : String} :
    Join.IsShared (Graph.ofWorkflow tasks).edges k ↔ SharedKey tasks k := by
  simp only [Join.IsShared, converges_ofWorkflow hrefs]
  constructor
  · intro hshared
    obtain ⟨_, _, hne, ⟨s, hs, rfl, hsk⟩, ⟨t, ht, rfl, htk⟩⟩ := hshared
    exact ⟨s, hs, t, ht, fun hst => hne (hst ▸ rfl), hsk, htk⟩
  · intro hshared
    obtain ⟨s, hs, t, ht, hne, hsk, htk⟩ := hshared
    exact ⟨s.ref, t.ref, fun href => hne (eq_of_ref_eq hrefs hs ht href), ⟨s, hs, rfl, hsk⟩,
      ⟨t, ht, rfl, htk⟩⟩

/-- The first member of a group is the lender of its key. -/
theorem lender_of_group {g : Join.Group} (hg : g ∈ Join.groups (Graph.ofWorkflow tasks).edges) :
    ∃ t, lender? tasks g.key = some t ∧ g.first = t.convergence := by
  have hmembers : g.members = (tasks.filter (·.Converges g.key)).map Task.convergence := by
    rw [(Join.mem_groups.mp hg).1, convergences_ofWorkflow hrefs, List.filter_map,
      List.filter_filter]
    congr 1
    refine List.filter_congr fun t _ => ?_
    rw [Bool.eq_iff_iff, decide_eq_true_eq]
    simp [Task.Converges, Task.convergence, and_comm]
  cases hfilter : tasks.filter (·.Converges g.key) with
  | nil => simp [Join.Group.members, hfilter] at hmembers
  | cons t ts =>
    refine ⟨t, ?_, ?_⟩
    · rw [lender?, ← List.head?_filter, hfilter, List.head?_cons]
    · rw [hfilter, Join.Group.members, List.map_cons, List.cons.injEq] at hmembers
      exact hmembers.1

/-! ## The connections of a workflow with joins -/

/-- The edges of a workflow without repeated references connect what `Wired` relates. -/
theorem leads_iff_wired {s r : String} :
    (Graph.ofWorkflow tasks).withJoins.Leads s r ↔ Wired tasks s r := by
  simp only [Graph.withJoins_leads_iff, isShared_ofWorkflow hrefs, converges_ofWorkflow hrefs,
    leads_ofWorkflow]
  constructor
  · rintro (⟨⟨t, ht, rfl, hs⟩, hfree⟩ | ⟨g, hg, rfl, hs⟩ | ⟨hk, t, ht, rfl, hconv⟩)
    · exact .need t ht hs fun k hk hconv => hfree k hk ⟨t, ht, rfl, hconv⟩
    · obtain ⟨t, ht, hfirst⟩ := lender_of_group hrefs hg
      have hk := (isShared_ofWorkflow hrefs).mp (Join.isShared_of_mem hg)
      rw [← Join.first_sources hg, hfirst] at hs
      exact .enter t hk ht (by rwa [Task.convergence, Task.sources_edges] at hs)
    · exact .leave t hk ht hconv
  · intro h
    cases h with
    | need t ht hs hfree =>
      refine .inl ⟨⟨t, ht, rfl, hs⟩, ?_⟩
      rintro k hk ⟨u, hu, href, hconv⟩
      rw [eq_of_ref_eq hrefs hu ht href] at hconv
      exact hfree k hk hconv
    | enter t hk ht hs =>
      obtain ⟨g, hg, rfl⟩ := Join.isShared_iff.mp ((isShared_ofWorkflow hrefs).mpr hk)
      obtain ⟨u, hu, hfirst⟩ := lender_of_group hrefs hg
      obtain rfl : u = t := Option.some.inj (hu.symm.trans ht)
      refine .inr (.inl ⟨g, hg, rfl, ?_⟩)
      rw [← Join.first_sources hg, hfirst]
      rwa [Task.convergence, Task.sources_edges]
    | leave t hk ht hconv => exact .inr (.inr ⟨hk, t, ht, rfl, hconv⟩)

end
end TaskGraph
