-- SUMMARY: Which tasks share a join node, and when these are the tasks that need the same.
import TaskGraph.Proofs.Compilation

/-!
# Tasks behind one join node

Tasks with the same two or more needs, in whatever order, always share a join node.
The converse is up to the keys: they have to tell different needs apart, and the id of
a join node must not lead to tasks with other keys. Ids without the separator see to
both.
-/
namespace TaskGraph

/-- Some join node leads to both ids. -/
def Graph.ShareJoin (g : Graph) (s t : String) : Prop :=
  ∃ j ∈ g.nodes, j.kind = .join ∧ g.Leads j.id s ∧ g.Leads j.id t

/-- The tasks have the same needs, of which there are two or more. -/
def Task.Alike (s t : Task) : Prop :=
  2 ≤ s.needs.length ∧ 2 ≤ t.needs.length ∧ s.needs.Perm t.needs

theorem Graph.shareJoin_iff {g : Graph} {s t : String} :
    g.ShareJoin s t ↔ ∃ k ∈ g.joinIds, g.Leads k s ∧ g.Leads k t := by
  simp only [ShareJoin, joinIds, List.mem_map, List.mem_filter, beq_iff_eq]
  constructor
  · intro hshare
    obtain ⟨j, hj, hkind, hs, ht⟩ := hshare
    exact ⟨j.id, ⟨j, ⟨hj, hkind⟩, rfl⟩, hs, ht⟩
  · intro hshare
    obtain ⟨_, ⟨j, ⟨hj, hkind⟩, rfl⟩, hs, ht⟩ := hshare
    exact ⟨j, hj, hkind, hs, ht⟩

section
variable {tasks : List Task}

theorem Task.Alike.key_eq {s t : Task} (h : s.Alike t) : Join.key s.needs = Join.key t.needs :=
  Join.key_of_perm h.2.2

theorem Task.Converges.of_key_eq {s t : Task} {k : String} (hs : s.Converges k)
    (h : 2 ≤ t.needs.length) (hkey : Join.key t.needs = Join.key s.needs) : t.Converges k :=
  ⟨h, hkey.trans hs.2⟩

/-- A shared key leads to the tasks that have it. -/
theorem Task.Converges.wired {s t : Task} {k : String} (hs : s ∈ tasks) (ht : t ∈ tasks)
    (hne : s ≠ t) (hsk : s.Converges k) (htk : t.Converges k) :
    SharedKey tasks k ∧ Wired tasks k s.ref ∧ Wired tasks k t.ref := by
  have hk : SharedKey tasks k := ⟨s, hs, t, ht, hne, hsk, htk⟩
  exact ⟨hk, .leave s hk hs hsk, .leave t hk ht htk⟩

/-- A shared key contains the separator, so that a task without it in its needs is reached
from the key only if it has the key. -/
theorem Wired.converges_of_separator (hrefs : (tasks.map Task.ref).Nodup)
    (hsep : ∀ t ∈ tasks, ∀ n ∈ t.needs, '_' ∉ n.toList) {k : String} (hk : SharedKey tasks k)
    {t : Task} (ht : t ∈ tasks) (h : Wired tasks k t.ref) : t.Converges k := by
  have hkey : '_' ∈ k.toList := by
    obtain ⟨s, _, _, _, _, ⟨hlen, rfl⟩, _⟩ := hk
    exact Join.separator_mem_key hlen
  generalize hr : t.ref = r at h
  cases h with
  | need u hu hneed hfree => exact absurd hkey (hsep u hu k hneed)
  | enter u hshared hlender hneed =>
    exact absurd hkey (hsep u (lender_spec hlender).1 k hneed)
  | leave u hshared hu hconv => rwa [eq_of_ref_eq hrefs ht hu hr]

end

/-! ## Keys that tell needs apart -/

/-- Different tasks share a join node exactly if they are alike. -/
def Graph.JoinsAlike (g : Graph) (tasks : List Task) : Prop :=
  ∀ x ∈ tasks, ∀ y ∈ tasks, x ≠ y → (g.ShareJoin x.ref y.ref ↔ x.Alike y)

/-- The shared keys stand for what they are made of. -/
structure FaithfulKeys (tasks : List Task) : Prop where
  /-- Tasks with one shared key have the same needs. -/
  perm : ∀ k, SharedKey tasks k → ∀ x ∈ tasks, ∀ y ∈ tasks, x.Converges k → y.Converges k →
    x.needs.Perm y.needs
  /-- The id of a join node leads to no tasks but those with its key. -/
  converges : ∀ k, SharedKey tasks k → ∀ x ∈ tasks, Wired tasks k x.ref → x.Converges k

/-- Without the separator in any need, keys are faithful. -/
theorem FaithfulKeys.of_separator {tasks : List Task} (hrefs : (tasks.map Task.ref).Nodup)
    (hsep : ∀ t ∈ tasks, ∀ n ∈ t.needs, '_' ∉ n.toList) : FaithfulKeys tasks where
  perm := by
    intro k _ x hx y hy hxk hyk
    have hne : ∀ t : Task, t.Converges k → t.needs ≠ [] := by
      intro t ht hnil
      have hlen := ht.1
      simp [hnil] at hlen
    exact Join.perm_of_key_eq (hne x hxk) (hne y hyk) (hsep x hx) (hsep y hy)
      (hxk.2.trans hyk.2.symm)
  converges := by
    intro k hk x hx hwired
    exact hwired.converges_of_separator hrefs hsep hk hx

section
variable (c : Compiler) {text : String} {d : Document} {tasks : List Task}
  (h : Document.parse text = .ok d) (hw : d.workflow = some tasks)
include h hw

theorem compile_shareJoin_iff {s t : String} :
    (c.compile .manual d).ShareJoin s t ↔
      ∃ k, SharedKey tasks k ∧ Wired tasks k s ∧ Wired tasks k t := by
  rw [Graph.shareJoin_iff, c.compile_joinIds]
  simp only [Document.mem_joinIds h, Document.hasJoin_iff hw, c.compile_manual_leads,
    Document.graph_leads_iff_wired hw h]

theorem shareJoin_of_alike {x y : Task} (hx : x ∈ tasks) (hy : y ∈ tasks) (hne : x ≠ y)
    (halike : x.Alike y) : (c.compile .manual d).ShareJoin x.ref y.ref := by
  rw [compile_shareJoin_iff c h hw]
  exact ⟨Join.key x.needs,
    Task.Converges.wired hx hy hne ⟨halike.1, rfl⟩ ⟨halike.2.1, halike.key_eq.symm⟩⟩

theorem FaithfulKeys.joinsAlike (hkeys : FaithfulKeys tasks) :
    (c.compile .manual d).JoinsAlike tasks := by
  intro x hx y hy hne
  refine ⟨?_, shareJoin_of_alike c h hw hx hy hne⟩
  rw [compile_shareJoin_iff c h hw]
  intro hshare
  obtain ⟨k, hk, hxk, hyk⟩ := hshare
  have hxk' := hkeys.converges k hk x hx hxk
  have hyk' := hkeys.converges k hk y hy hyk
  exact ⟨hxk'.1, hyk'.1, hkeys.perm k hk x hx y hy hxk' hyk'⟩

theorem FaithfulKeys.of_joinsAlike (hjoins : (c.compile .manual d).JoinsAlike tasks) :
    FaithfulKeys tasks where
  perm := by
    intro k hk x hx y hy hxk hyk
    by_cases hne : x = y
    · rw [hne]
    · have hshare : (c.compile .manual d).ShareJoin x.ref y.ref := by
        rw [compile_shareJoin_iff c h hw]
        exact ⟨k, Task.Converges.wired hx hy hne hxk hyk⟩
      exact ((hjoins x hx y hy hne).mp hshare).2.2
  converges := by
    intro k hk x hx hwired
    -- One of the two tasks that make the key shared is not `x`, and `x` is alike to it.
    obtain ⟨m, hm, hne, hmk⟩ : ∃ m ∈ tasks, x ≠ m ∧ m.Converges k := by
      obtain ⟨s, hs, t, ht, hst, hsk, htk⟩ := hk
      by_cases hxs : x = s
      · exact ⟨t, ht, hxs ▸ hst, htk⟩
      · exact ⟨s, hs, hxs, hsk⟩
    have hshare : (c.compile .manual d).ShareJoin x.ref m.ref := by
      rw [compile_shareJoin_iff c h hw]
      exact ⟨k, hk, hwired, .leave m hk hm hmk⟩
    have halike := (hjoins x hx m hm hne).mp hshare
    exact hmk.of_key_eq halike.1 halike.key_eq

end

/-- Tasks that are alike always share a join node. The converse holds throughout a
workflow exactly if its keys are faithful, in particular if no need contains the
separator. -/
theorem joinsAlike_iff_faithfulKeys (c : Compiler) {text : String} {d : Document}
    {tasks : List Task} (h : Document.parse text = .ok d) (hw : d.workflow = some tasks) :
    (∀ x ∈ tasks, ∀ y ∈ tasks, x ≠ y → x.Alike y →
      (c.compile .manual d).ShareJoin x.ref y.ref) ∧
    ((c.compile .manual d).JoinsAlike tasks ↔ FaithfulKeys tasks) ∧
    ((∀ t ∈ tasks, ∀ n ∈ t.needs, '_' ∉ n.toList) →
      (c.compile .manual d).JoinsAlike tasks) := by
  refine ⟨?_, ⟨?_, ?_⟩, ?_⟩
  · intro x hx y hy hne halike
    exact shareJoin_of_alike c h hw hx hy hne halike
  · exact FaithfulKeys.of_joinsAlike c h hw
  · exact FaithfulKeys.joinsAlike c h hw
  · intro hsep
    have hkeys := FaithfulKeys.of_separator (Document.workflow_refs_nodup h hw) hsep
    exact hkeys.joinsAlike c h hw

theorem joinsAlike_sample :
    Document.parse sampleText = .ok sample ∧
      (({} : Compiler).compile .manual sample).JoinsAlike sampleTasks ∧
      (({} : Compiler).compile .manual sample).ShareJoin "x" "y" := by
  obtain ⟨hshare, _, hjoins⟩ := joinsAlike_iff_faithfulKeys {} parse_sampleText rfl
  refine ⟨parse_sampleText, hjoins (by decide +kernel), ?_⟩
  exact hshare { ref := "x", tag := "t", needs := ["s", "t"] } (by decide)
    { ref := "y", tag := "t", needs := ["t", "s"] } (by decide) (by decide)
    ⟨by decide, by decide, by decide⟩

/-- Two tasks with different needs and one key. -/
def mixedText : String :=
  "workflow:\n" ++
  "- ref: a\n  task: t\n" ++
  "- ref: a_b\n  task: t\n" ++
  "- ref: b_c\n  task: t\n" ++
  "- ref: c\n  task: t\n" ++
  "- ref: x\n  task: t\n  needs: [a_b, c]\n" ++
  "- ref: y\n  task: t\n  needs: [a, b_c]\n"

def mixedTasks : List Task :=
  [{ ref := "a", tag := "t" }, { ref := "a_b", tag := "t" }, { ref := "b_c", tag := "t" },
    { ref := "c", tag := "t" }, { ref := "x", tag := "t", needs := ["a_b", "c"] },
    { ref := "y", tag := "t", needs := ["a", "b_c"] }]

def mixed : Document := { workflow := some mixedTasks }

/-- Tasks with different needs can share a join node. -/
theorem mixed_not_joinsAlike :
    Document.parse mixedText = .ok mixed ∧
      ¬ (({} : Compiler).compile .manual mixed).JoinsAlike mixedTasks := by
  have hparse : Document.parse mixedText = .ok mixed :=
    Document.parse_of_toOption (by decide +kernel)
  refine ⟨hparse, fun hjoins => ?_⟩
  have hkey : ∀ t ∈ mixedTasks, 2 ≤ t.needs.length → Join.key t.needs = "a_b_c" := by
    rw [Join.key_eq_insertionSort]
    decide +kernel
  have hx : { ref := "x", tag := "t", needs := ["a_b", "c"] } ∈ mixedTasks := by decide
  have hy : { ref := "y", tag := "t", needs := ["a", "b_c"] } ∈ mixedTasks := by decide
  have hshare : (({} : Compiler).compile .manual mixed).ShareJoin "x" "y" := by
    rw [compile_shareJoin_iff {} hparse rfl]
    have hxk := hkey _ hx (by decide)
    have hyk := hkey _ hy (by decide)
    exact ⟨"a_b_c", Task.Converges.wired hx hy (by decide) ⟨by decide, hxk⟩ ⟨by decide, hyk⟩⟩
  have halike := (hjoins _ hx _ hy (by decide)).mp hshare
  exact absurd halike.2.2 (by decide)

end TaskGraph
