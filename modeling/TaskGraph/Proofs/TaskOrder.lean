-- SUMMARY: Paths of a compiled workflow and what its tasks wait for.
import Mathlib.Logic.Relation
import TaskGraph.Proofs.Compilation

/-!
# The order of tasks

A path between two tasks of a compiled workflow may pass join nodes, which no task
names. Reaching a join node stands for reaching every task behind it, and this is the
invariant that turns a path into a chain of needs.
-/
namespace TaskGraph

open Relation

/-- There is a path of one or more edges. -/
def Graph.Path (g : Graph) : String → String → Prop := TransGen g.Leads

def Graph.Cyclic (g : Graph) : Prop := ∃ i, g.Path i i

/-- The task `r` names `s` in its needs. -/
def Needed (tasks : List Task) (s r : String) : Prop := ∃ t ∈ tasks, t.ref = r ∧ s ∈ t.needs

/-- The task `r` waits for `s`, directly or through other tasks. -/
def Awaited (tasks : List Task) : String → String → Prop := TransGen (Needed tasks)

/-- The id of a task or of a join node. -/
def IsNode (tasks : List Task) (i : String) : Prop :=
  (∃ t ∈ tasks, t.ref = i) ∨ SharedKey tasks i

/-- What a path from `s` to `r` says about needs: a task waits for `s`, and so does each
task behind a join node. -/
inductive Reached (tasks : List Task) (s r : String) : Prop
  | task (h : Awaited tasks s r)
  | join (hk : SharedKey tasks r) (hall : ∀ x ∈ tasks, x.Converges r → Awaited tasks s x.ref)

/-- Join nodes are apart from tasks and stand for what each task behind them needs. -/
structure WellJoined (tasks : List Task) : Prop where
  named : ∀ t ∈ tasks, ∀ n ∈ t.needs, ∃ u ∈ tasks, u.ref = n
  apart : ∀ t ∈ tasks, ¬ SharedKey tasks t.ref
  merged : ∀ k, SharedKey tasks k → ∀ x ∈ tasks, ∀ y ∈ tasks, x.Converges k → y.Converges k →
    x.needs.Perm y.needs

variable {tasks : List Task}

theorem Awaited.exists_task {s r : String} (h : Awaited tasks s r) : ∃ t ∈ tasks, t.ref = r := by
  obtain ⟨_, _, t, ht, rfl, _⟩ := TransGen.tail'_iff.mp h
  exact ⟨t, ht, rfl⟩

theorem Wired.target {s r : String} (h : Wired tasks s r) : IsNode tasks r := by
  cases h with
  | need t ht hs hfree => exact .inl ⟨t, ht, rfl⟩
  | enter t hk hlender hs => exact .inr hk
  | leave t hk ht hconv => exact .inl ⟨t, ht, rfl⟩

namespace WellJoined

variable (hjoin : WellJoined tasks)
include hjoin

theorem needs_apart {t : Task} (ht : t ∈ tasks) {n : String} (hn : n ∈ t.needs) :
    ¬ SharedKey tasks n := by
  obtain ⟨u, hu, rfl⟩ := hjoin.named t ht n hn
  exact hjoin.apart u hu

theorem awaited_apart {s r : String} (h : Awaited tasks s r) : ¬ SharedKey tasks r := by
  obtain ⟨t, ht, rfl⟩ := h.exists_task
  exact hjoin.apart t ht

/-- What enters a join node is needed by every task behind it. -/
theorem needed_of_enter {s k : String} {t : Task} (hk : SharedKey tasks k)
    (hlender : lender? tasks k = some t) (hs : s ∈ t.needs) {x : Task} (hx : x ∈ tasks)
    (hconv : x.Converges k) : Needed tasks s x.ref := by
  obtain ⟨ht, htk⟩ := lender_spec hlender
  have hperm := hjoin.merged k hk t ht x hx htk hconv
  exact ⟨x, hx, rfl, hperm.mem_iff.mp hs⟩

/-! ## From needs to edges -/

/-- A need is an edge, or two edges through the join node that replaced it. -/
theorem wired_of_needed {s r : String} (h : Needed tasks s r) :
    TransGen (Wired tasks) s r := by
  obtain ⟨t, ht, rfl, hs⟩ := h
  by_cases hshared : ∃ k, SharedKey tasks k ∧ t.Converges k
  · obtain ⟨k, hk, hconv⟩ := hshared
    obtain ⟨u, hlender⟩ := hk.exists_lender
    obtain ⟨hu, huk⟩ := lender_spec hlender
    have hperm := hjoin.merged k hk t ht u hu hconv huk
    have henter : Wired tasks s k := .enter u hk hlender (hperm.mem_iff.mp hs)
    have hleave : Wired tasks k t.ref := .leave t hk ht hconv
    exact .tail (.single henter) hleave
  · exact .single (.need t ht hs fun k hk hconv => hshared ⟨k, hk, hconv⟩)

theorem wired_of_awaited {s r : String} (h : Awaited tasks s r) :
    TransGen (Wired tasks) s r :=
  TransGen.closed (fun _ _ hneed => hjoin.wired_of_needed hneed) s r h

/-! ## From edges to needs -/

/-- One edge more: what a task needs makes the chain longer, and behind a join node the
chain is there already. -/
theorem reached_step {s m r : String} (hs : ¬ SharedKey tasks s)
    (hm : s = m ∨ Reached tasks s m) (h : Wired tasks m r) : Reached tasks s r := by
  have hneed : ∀ x, ¬ SharedKey tasks m → Needed tasks m x → Awaited tasks s x := by
    intro x hapart hx
    rcases hm with rfl | ⟨hawaited⟩ | ⟨hk, _⟩
    · exact .single hx
    · exact hawaited.tail hx
    · exact absurd hk hapart
  cases h with
  | need t ht hn hfree =>
    exact .task (hneed t.ref (hjoin.needs_apart ht hn) ⟨t, ht, rfl, hn⟩)
  | enter t hk hlender hn =>
    have hapart := hjoin.needs_apart (lender_spec hlender).1 hn
    refine .join hk ?_
    intro x hx hconv
    exact hneed x.ref hapart (hjoin.needed_of_enter hk hlender hn hx hconv)
  | leave t hk ht hconv =>
    refine .task ?_
    rcases hm with rfl | ⟨hawaited⟩ | ⟨_, hall⟩
    · exact absurd hk hs
    · exact absurd hk (hjoin.awaited_apart hawaited)
    · exact hall t ht hconv

theorem reached_of_wired {s r : String} (hs : ¬ SharedKey tasks s)
    (h : TransGen (Wired tasks) s r) : Reached tasks s r := by
  induction h with
  | single hstep => exact hjoin.reached_step hs (.inl rfl) hstep
  | tail _ hstep ih => exact hjoin.reached_step hs (.inr ih) hstep

/-- Between tasks the edges lead exactly along the needs. -/
theorem wired_iff_awaited {u v : Task} (hu : u ∈ tasks) (hv : v ∈ tasks) :
    TransGen (Wired tasks) u.ref v.ref ↔ Awaited tasks u.ref v.ref := by
  refine ⟨?_, hjoin.wired_of_awaited⟩
  intro h
  cases hjoin.reached_of_wired (hjoin.apart u hu) h with
  | task hawaited => exact hawaited
  | join hk _ => exact absurd hk (hjoin.apart v hv)

/-- The edges out of a join node lead to the tasks behind it. -/
theorem leave_of_shared {k r : String} (hk : SharedKey tasks k) (h : Wired tasks k r) :
    ∃ t ∈ tasks, t.ref = r := by
  cases h with
  | need t ht hs hfree => exact ⟨t, ht, rfl⟩
  | enter t _ hlender hs =>
    exact absurd hk (hjoin.needs_apart (lender_spec hlender).1 hs)
  | leave t _ ht hconv => exact ⟨t, ht, rfl⟩

/-- A cycle passes a task, where it can be started as well. -/
theorem cycle_iff :
    (∃ i, TransGen (Wired tasks) i i) ↔ ∃ t ∈ tasks, Awaited tasks t.ref t.ref := by
  constructor
  · intro hcyclic
    obtain ⟨i, hcycle⟩ := hcyclic
    obtain ⟨t, ht, htask⟩ : ∃ t ∈ tasks, TransGen (Wired tasks) t.ref t.ref := by
      obtain ⟨m, _, hlast⟩ := TransGen.tail'_iff.mp hcycle
      rcases hlast.target with ⟨t, ht, rfl⟩ | hk
      · exact ⟨t, ht, hcycle⟩
      · obtain ⟨m', hfirst, hrest⟩ := TransGen.head'_iff.mp hcycle
        obtain ⟨t, ht, rfl⟩ := hjoin.leave_of_shared hk hfirst
        exact ⟨t, ht, .tail' hrest hfirst⟩
    exact ⟨t, ht, (hjoin.wired_iff_awaited ht ht).mp htask⟩
  · intro htask
    obtain ⟨t, _, hcycle⟩ := htask
    exact ⟨t.ref, hjoin.wired_of_awaited hcycle⟩

end WellJoined

/-! ## Compiled workflows -/

section
variable {c : Compiler} {launch : Launch} {text : String} {d : Document}
  (h : Document.parse text = .ok d) (hw : d.workflow = some tasks)
include h hw

theorem WellJoined.of_distinct (named : ∀ t ∈ tasks, ∀ n ∈ t.needs, ∃ u ∈ tasks, u.ref = n)
    (distinct : (c.compile launch d).ids.Nodup)
    (merged : ∀ k, SharedKey tasks k → ∀ x ∈ tasks, ∀ y ∈ tasks, x.Converges k →
      y.Converges k → x.needs.Perm y.needs) : WellJoined tasks where
  named := named
  apart := by
    intro t ht hk
    rw [c.compile_ids, List.nodup_append] at distinct
    have happart := (refs_apart_iff h).mp (List.nodup_append.mp distinct.2.1).2.2
    rw [Document.tasks_eq hw] at happart
    exact happart t ht ((Document.hasJoin_iff hw).mpr hk)
  merged := merged

/-- A trigger that leads to a task is neither a task nor a shared key itself. -/
theorem trigger_apart (distinct : (c.compile launch d).ids.Nodup) {trigger : Trigger}
    (htrigger : trigger ∈ Trigger.resolve launch d.trigger) {r : String}
    (hentry : r ∈ d.entry?.map Task.ref) : ¬ IsNode tasks trigger.node.id := by
  obtain ⟨e, he, _⟩ := Option.map_eq_some_iff.mp hentry
  rw [c.compile_ids, Option.mem_def.mp htrigger, he, List.nodup_append] at distinct
  have hne : ∀ i ∈ d.tasks.map Task.ref ++ d.joinIds, trigger.node.id ≠ i := by
    intro i hi
    exact distinct.2.2 _ (by simp) i hi
  rw [id_apart_iff h, Document.tasks_eq hw, Document.hasJoin_iff hw] at hne
  intro hnode
  cases hnode with
  | inl htask =>
    obtain ⟨t, ht, href⟩ := htask
    exact hne.1 t ht href
  | inr hk => exact hne.2 hk

theorem wired_of_leads (distinct : (c.compile launch d).ids.Nodup) {s r : String}
    (hs : IsNode tasks s) (hlead : (c.compile launch d).Leads s r) : Wired tasks s r := by
  rw [c.compile_leads, Document.graph_leads_iff_wired hw h] at hlead
  rcases hlead with hwired | ⟨trigger, htrigger, rfl, hentry⟩
  · exact hwired
  · exact absurd hs (trigger_apart h hw distinct htrigger hentry)

/-- Nothing leads to the trigger, so that a path from elsewhere does not use its edge. -/
theorem wired_of_path (distinct : (c.compile launch d).ids.Nodup) {s r : String}
    (hs : IsNode tasks s) (hpath : (c.compile launch d).Path s r) : TransGen (Wired tasks) s r := by
  induction hpath with
  | single hlead => exact .single (wired_of_leads h hw distinct hs hlead)
  | tail _ hlead ih =>
    obtain ⟨m, _, hlast⟩ := TransGen.tail'_iff.mp ih
    exact ih.tail (wired_of_leads h hw distinct hlast.target hlead)

theorem path_of_wired {s r : String} (hpath : TransGen (Wired tasks) s r) :
    (c.compile launch d).Path s r := by
  refine TransGen.mono ?_ s r hpath
  intro i j hwired
  rw [c.compile_leads, Document.graph_leads_iff_wired hw h]
  exact .inl hwired

theorem leads_target {s r : String} (hlead : (c.compile launch d).Leads s r) :
    IsNode tasks r := by
  rw [c.compile_leads, Document.graph_leads_iff_wired hw h] at hlead
  rcases hlead with hwired | ⟨_, _, _, hentry⟩
  · exact hwired.target
  · obtain ⟨e, he, rfl⟩ := Option.map_eq_some_iff.mp hentry
    simp only [Document.entry?, hw] at he
    exact .inl ⟨e, List.mem_of_find?_eq_some he, rfl⟩

theorem cyclic_iff_wired (distinct : (c.compile launch d).ids.Nodup) :
    (c.compile launch d).Cyclic ↔ ∃ i, TransGen (Wired tasks) i i := by
  constructor
  · intro hcyclic
    obtain ⟨i, hcycle⟩ := hcyclic
    obtain ⟨m, _, hlast⟩ := TransGen.tail'_iff.mp hcycle
    exact ⟨i, wired_of_path h hw distinct (leads_target h hw hlast) hcycle⟩
  · intro hwired
    obtain ⟨i, hcycle⟩ := hwired
    exact ⟨i, path_of_wired h hw hcycle⟩

end

/-- Compilation keeps the order of the tasks of a workflow and adds no cycle, whatever the
trigger: join nodes and the trigger node do not make a task wait for another. -/
theorem compile_path_iff_awaited (c : Compiler) (launch : Launch) {text : String} {d : Document}
    {tasks : List Task} (h : Document.parse text = .ok d) (hw : d.workflow = some tasks)
    (named : ∀ t ∈ tasks, ∀ n ∈ t.needs, ∃ u ∈ tasks, u.ref = n)
    (distinct : (c.compile launch d).ids.Nodup)
    (merged : ∀ k, SharedKey tasks k → ∀ x ∈ tasks, ∀ y ∈ tasks, x.Converges k →
      y.Converges k → x.needs.Perm y.needs) :
    (∀ u ∈ tasks, ∀ v ∈ tasks,
      (c.compile launch d).Path u.ref v.ref ↔ Awaited tasks u.ref v.ref) ∧
    ((c.compile launch d).Cyclic ↔ ∃ t ∈ tasks, Awaited tasks t.ref t.ref) := by
  have hjoin := WellJoined.of_distinct h hw named distinct merged
  refine ⟨?_, ?_⟩
  · intro u hu v hv
    rw [← hjoin.wired_iff_awaited hu hv]
    exact ⟨wired_of_path h hw distinct (.inl ⟨u, hu, rfl⟩), path_of_wired h hw⟩
  · rw [cyclic_iff_wired h hw distinct]
    exact hjoin.cycle_iff

theorem compile_path_sample :
    Document.parse sampleText = .ok sample ∧
      (({} : Compiler).compile .webhook sample).Path "s" "y" ∧
      ¬ (({} : Compiler).compile .webhook sample).Path "x" "y" := by
  have hdistinct : (({} : Compiler).compile .webhook sample).ids.Nodup := by
    unfold Compiler.compile Document.graph Graph.withJoins Join.groups Join.convergences
      Join.Convergence.of
    rw [Join.key_eq_insertionSort]
    decide +kernel
  have hmerged : ∀ k, SharedKey sampleTasks k → ∀ x ∈ sampleTasks, ∀ y ∈ sampleTasks,
      x.Converges k → y.Converges k → x.needs.Perm y.needs := by
    have hperm : ∀ x ∈ sampleTasks, ∀ y ∈ sampleTasks, x.ref = "x" ∨ x.ref = "y" →
        y.ref = "x" ∨ y.ref = "y" → x.needs.Perm y.needs := by decide
    intro k _ x hx y hy hxk hyk
    exact hperm x hx y hy (sample_converges hx hxk).2 (sample_converges hy hyk).2
  obtain ⟨hpath, _⟩ := compile_path_iff_awaited {} .webhook parse_sampleText rfl (by decide)
    hdistinct hmerged
  have hs : { ref := "s", tag := "start" } ∈ sampleTasks := by decide
  have hx : { ref := "x", tag := "t", needs := ["s", "t"] } ∈ sampleTasks := by decide
  have hy : { ref := "y", tag := "t", needs := ["t", "s"] } ∈ sampleTasks := by decide
  refine ⟨parse_sampleText, ?_, ?_⟩
  · have hneed : Needed sampleTasks "s" "y" := ⟨_, hy, rfl, by decide⟩
    exact (hpath _ hs _ hy).mpr (.single hneed)
  · intro h
    have hnone : ∀ t ∈ sampleTasks, "x" ∉ t.needs := by decide
    obtain ⟨r, ⟨t, ht, _, hneed⟩, _⟩ := TransGen.head'_iff.mp ((hpath _ hx _ hy).mp h)
    exact hnone t ht hneed

end TaskGraph
