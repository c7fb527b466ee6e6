-- SUMMARY: What a trigger adds to a compiled graph: a node in front and an edge at the end.
import TaskGraph.Proofs.Compilation

/-!
# Trigger nodes

A manual launch compiles to a graph without a trigger. Any other launch gives the same
graph, or extends it by the node of the trigger in front and by one edge from there to the
entry, after all other edges. It extends the graph exactly if the document has something
to launch a run by and a task to lead to.
-/
namespace TaskGraph

/-! ## Triggers -/

/-- The document has something to launch a run by: for a cron launch a schedule that is not
empty, while a webhook can do without a name. -/
def Document.HasTrigger (d : Document) : Launch → Prop
  | .cron => ∃ s ∈ d.trigger, ∃ schedule ∈ s.schedule, schedule ≠ ""
  | .webhook => True
  | .manual => False

theorem Document.hasTrigger_iff {d : Document} {launch : Launch} :
    d.HasTrigger launch ↔ (Trigger.resolve launch d.trigger).isSome := by
  cases launch with
  | cron =>
    unfold HasTrigger Trigger.resolve
    cases d.trigger with
    | none => simp
    | some s => cases hs : s.schedule <;> simp [hs]
  | webhook => simp [HasTrigger, Trigger.resolve]
  | manual => simp [HasTrigger, Trigger.resolve]

/-- The kind of the node that a launch adds. -/
def Launch.kind? : Launch → Option NodeKind
  | .cron => some .cron
  | .webhook => some .webhook
  | .manual => none

theorem Trigger.kind_of_resolve {launch : Launch} {spec : Option TriggerSection} {t : Trigger}
    (h : resolve launch spec = some t) : launch.kind? = some t.node.kind := by
  cases launch with
  | cron =>
    obtain ⟨schedule, _, rfl⟩ := Option.map_eq_some_iff.mp h
    rfl
  | webhook =>
    obtain rfl := Option.some.inj h
    rw [webhook_node_kind]
    rfl
  | manual => cases h

/-! ## The compiled graph with and without a trigger -/

namespace Compiler

variable (c : Compiler) {launch : Launch} {d : Document}

theorem compile_manual : c.compile .manual d = c.withIcons d.graph := by
  simp [compile, Trigger.resolve, Graph.withTrigger]

theorem compile_manual_nodes :
    (c.compile .manual d).nodes = d.graph.nodes.map c.decorate := by
  rw [compile_manual, withIcons_eq]

theorem compile_manual_edges : (c.compile .manual d).edges = d.graph.edges := by
  rw [compile_manual, withIcons_edges]

theorem compile_of_trigger {t : Trigger} {e : Task}
    (ht : Trigger.resolve launch d.trigger = some t) (he : d.entry? = some e) :
    c.compile launch d =
      { c.compile .manual d with
        nodes := c.decorate t.node :: (c.compile .manual d).nodes
        edges := (c.compile .manual d).edges ++ [.flow t.node.id e.ref] } := by
  obtain ⟨n, hn, hid⟩ : ∃ n, d.graph.entry? = some n ∧ n.id = e.ref := by
    have hentry := d.graph_entry?
    rw [he, Option.map_some, Option.map_eq_some_iff] at hentry
    exact hentry
  rw [compile_manual, compile, ht]
  simp only [Graph.withTrigger, hn, hid, withIcons_eq, List.map_cons]

theorem compile_of_no_trigger (h : Trigger.resolve launch d.trigger = none ∨ d.entry? = none) :
    c.compile launch d = c.compile .manual d := by
  have hgraph : d.graph.withTrigger (Trigger.resolve launch d.trigger) = d.graph := by
    unfold Graph.withTrigger
    cases h with
    | inl ht => rw [ht]
    | inr he =>
      have hentry := d.graph_entry?
      rw [he, Option.map_none, Option.map_eq_none_iff] at hentry
      rw [hentry]
      cases Trigger.resolve launch d.trigger <;> rfl
  rw [compile_manual, compile, hgraph]

/-- At most one node is added, and only in front. -/
theorem compile_nodes_eq_append (launch : Launch) (d : Document) :
    ∃ trigger : Option Node,
      (c.compile launch d).nodes = trigger.toList ++ (c.compile .manual d).nodes ∧
        ∀ n ∈ trigger, n.kind = .cron ∨ n.kind = .webhook := by
  by_cases h : Trigger.resolve launch d.trigger = none ∨ d.entry? = none
  · refine ⟨none, ?_, by simp⟩
    rw [c.compile_of_no_trigger h]
    rfl
  · obtain ⟨ht, he⟩ := not_or.mp h
    obtain ⟨t, ht⟩ := Option.ne_none_iff_exists'.mp ht
    obtain ⟨e, he⟩ := Option.ne_none_iff_exists'.mp he
    refine ⟨some (c.decorate t.node), ?_, ?_⟩
    · rw [c.compile_of_trigger ht he]
      rfl
    · intro n hn
      obtain rfl := Option.some.inj hn
      rw [c.decorate_kind]
      exact t.node_kind

end Compiler

/-- A launch with a trigger and a task to lead to adds the node of the trigger in front and
an edge to that task at the end, and leaves all else as it is for a manual launch. Any
other launch compiles to the same graph as a manual one. -/
theorem compile_extends_manual (c : Compiler) (launch : Launch) (d : Document) :
    (d.HasTrigger launch → ∀ e, d.entry? = some e →
      ∃ t n, Trigger.resolve launch d.trigger = some t ∧ c.decorate t.node = n ∧
        launch.kind? = some n.kind ∧
        c.compile launch d =
          { c.compile .manual d with
            nodes := n :: (c.compile .manual d).nodes
            edges := (c.compile .manual d).edges ++ [.flow n.id e.ref] }) ∧
    (¬ (d.HasTrigger launch ∧ d.entry?.isSome) → c.compile launch d = c.compile .manual d) := by
  rw [Document.hasTrigger_iff]
  constructor
  · intro hsome e he
    obtain ⟨t, ht⟩ := Option.isSome_iff_exists.mp hsome
    refine ⟨t, c.decorate t.node, ht, rfl, ?_, ?_⟩
    · rw [c.decorate_kind]
      exact Trigger.kind_of_resolve ht
    · rw [c.decorate_id]
      exact c.compile_of_trigger ht he
  · intro hnone
    refine c.compile_of_no_trigger ?_
    rw [← Option.not_isSome_iff_eq_none, ← Option.not_isSome_iff_eq_none]
    exact not_and_or.mp hnone

theorem compile_extends_manual_sample :
    sample.HasTrigger .webhook ∧ sample.entry? = some { ref := "s", tag := "start" } ∧
      ∃ n : Node, n.id = "hook" ∧ n.kind = .webhook ∧
        (({} : Compiler).compile .webhook sample).nodes =
          n :: (({} : Compiler).compile .manual sample).nodes ∧
        (({} : Compiler).compile .webhook sample).edges =
          (({} : Compiler).compile .manual sample).edges ++ [.flow "hook" "s"] := by
  have hentry : sample.entry? = some { ref := "s", tag := "start" } := by decide +kernel
  obtain ⟨t, n, ht, rfl, _, hgraph⟩ :=
    (compile_extends_manual {} .webhook sample).1 trivial _ hentry
  have hhook : Trigger.resolve .webhook sample.trigger = some (.webhook (some "hook")) := by
    decide +kernel
  obtain rfl : t = .webhook (some "hook") := Option.some.inj (ht.symm.trans hhook)
  rw [hgraph]
  exact ⟨trivial, hentry, _, rfl, rfl, rfl, rfl⟩

end TaskGraph
