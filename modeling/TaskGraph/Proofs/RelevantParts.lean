-- SUMMARY: Of a document, its graph depends on one section of tasks and on what a launch needs of the trigger, and on nothing else.
import Mathlib.Data.List.Forall2
import TaskGraph.Proofs.TriggerNode

/-!
# Relevant parts of a document

A workflow hides a pipeline, and a pipeline has no use for needs. Of the trigger section a cron
launch looks at the schedule, and a webhook launch at the name before the namespace; a text that
is empty counts as absent. Documents that agree in these parts compile to the same graph. As to the
trigger they have to agree, if there is a task that it leads to: its node shows what it is made of.
-/
namespace TaskGraph

/-! ## What documents agree in -/

/-- The same task, with any needs. -/
inductive Task.SameButNeeds (t : Task) : Task → Prop
  | mk (needs : List String) : SameButNeeds t { t with needs }

namespace Document

/-- The sections that are compiled list the same tasks, with any needs if they are pipelines. -/
inductive SameTasks (d e : Document) : Prop where
  | workflow {tasks : List Task} (hd : d.workflow = some tasks) (he : e.workflow = some tasks)
  | pipeline {ts us : List Task} (hd : d.workflow = none) (he : e.workflow = none)
      (hts : d.pipeline = some ts) (hus : e.pipeline = some us)
      (h : List.Forall₂ Task.SameButNeeds ts us)

/-- The schedule, or an empty text. -/
def schedule (d : Document) : String := (d.trigger.bind (·.schedule)).getD ""

/-- The webhook up to the first `@`, or an empty text. -/
def hook (d : Document) : List Char :=
  ((d.trigger.bind (·.webhook)).getD "").toList.takeWhile (· ≠ '@')

/-- The documents agree in what a launch needs of the trigger. -/
def SameTrigger (launch : Launch) (d e : Document) : Prop :=
  match launch with
  | .cron => d.schedule = e.schedule
  | .webhook => d.hook = e.hook
  | .manual => True

instance (launch : Launch) (d e : Document) : Decidable (d.SameTrigger launch e) :=
  match launch with
  | .cron => inferInstanceAs (Decidable (d.schedule = e.schedule))
  | .webhook => inferInstanceAs (Decidable (d.hook = e.hook))
  | .manual => inferInstanceAs (Decidable True)

end Document

/-! ## Tasks -/

theorem Task.SameButNeeds.runNode_eq {t u : Task} (h : t.SameButNeeds u) :
    t.runNode = u.runNode := by
  cases h
  rfl

theorem Task.SameButNeeds.ref_eq {t u : Task} (h : t.SameButNeeds u) : t.ref = u.ref := by
  cases h
  rfl

theorem Graph.ofPipeline_congr {ts us : List Task} (h : List.Forall₂ Task.SameButNeeds ts us) :
    ofPipeline ts = ofPipeline us := by
  have hparts : ts.map Task.runNode = us.map Task.runNode ∧ ts.map Task.ref = us.map Task.ref := by
    induction h with
    | nil => exact ⟨rfl, rfl⟩
    | cons ht _ ih =>
      exact ⟨congrArg₂ List.cons ht.runNode_eq ih.1, congrArg₂ List.cons ht.ref_eq ih.2⟩
  rw [ofPipeline, hparts.1, hparts.2, ofPipeline]

theorem Document.SameTasks.graph_eq {d e : Document} (h : d.SameTasks e) : d.graph = e.graph := by
  cases h with
  | workflow hd he => rw [graph_of_workflow hd, graph_of_workflow he]
  | pipeline hd he hts hus h =>
    simp only [graph, hd, he, hts, hus]
    exact Graph.ofPipeline_congr h

/-! ## Triggers -/

namespace Trigger

theorem resolve_cron (d : Document) :
    resolve .cron d.trigger = if d.schedule = "" then none else some (.cron d.schedule) := by
  unfold resolve Document.schedule
  cases d.trigger.bind (·.schedule) with
  | none => rfl
  | some s => by_cases hs : s = "" <;> simp [hs]

theorem resolve_webhook (d : Document) :
    resolve .webhook d.trigger =
      some (.webhook (if d.hook = [] then none else some (String.ofList d.hook))) := by
  unfold resolve Document.hook
  cases d.trigger.bind (·.webhook) with
  | none => rfl
  | some w => simp [hookName]

/-- A launch has the same trigger in two documents exactly if they agree in what it needs. -/
theorem resolve_eq_iff {launch : Launch} {d e : Document} :
    resolve launch d.trigger = resolve launch e.trigger ↔ d.SameTrigger launch e := by
  cases launch with
  | cron =>
    rw [resolve_cron, resolve_cron, Document.SameTrigger]
    split_ifs <;> grind
  | webhook =>
    rw [resolve_webhook, resolve_webhook, Document.SameTrigger]
    split_ifs <;> grind [String.ofList_inj]
  | manual => exact iff_of_true rfl trivial

/-- What a trigger is made of can be read off its node. -/
theorem eq_of_node {s t : Trigger} (hkind : s.node.kind = t.node.kind)
    (hdescription : s.node.description = t.node.description)
    (hkey : s.node.iconKey = t.node.iconKey) : s = t := by
  cases s with
  | cron schedule =>
    cases t with
    | cron schedule' => exact congrArg cron hdescription
    | webhook name =>
      rw [webhook_node_kind] at hkind
      cases hkind
  | webhook name =>
    cases t with
    | cron schedule =>
      rw [webhook_node_kind] at hkind
      cases hkind
    | webhook name' =>
      rw [webhook_node_iconKey, webhook_node_iconKey] at hkey
      exact congrArg webhook hkey

end Trigger

/-! ## Compiled graphs -/

theorem Document.SameTasks.entry?_eq_none_iff {d e : Document} (h : d.SameTasks e) :
    d.entry? = none ↔ e.entry? = none := by
  have hrefs : d.entry?.map Task.ref = e.entry?.map Task.ref := by
    rw [← d.graph_entry?, ← e.graph_entry?, h.graph_eq]
  rw [← Option.map_eq_none_iff, hrefs, Option.map_eq_none_iff]

namespace Compiler

variable (c : Compiler) {launch : Launch} {d e : Document}

theorem compile_manual_congr (h : d.SameTasks e) : c.compile .manual d = c.compile .manual e := by
  rw [compile_manual, compile_manual, h.graph_eq]

theorem compile_nodes_of_entry {t : Task} (h : d.entry? = some t) :
    (c.compile launch d).nodes =
      ((Trigger.resolve launch d.trigger).map (c.decorate ·.node)).toList ++
        (c.compile .manual d).nodes := by
  cases htrigger : Trigger.resolve launch d.trigger with
  | none =>
    rw [c.compile_of_no_trigger (.inl htrigger)]
    rfl
  | some trigger =>
    rw [c.compile_of_trigger htrigger h]
    rfl

/-- Different triggers can be told apart, with or without icons. -/
theorem decorate_node_injective : Function.Injective fun t : Trigger => c.decorate t.node := by
  intro s t h
  refine Trigger.eq_of_node ?_ ?_ ?_
  · simpa using congrArg Node.kind h
  · simpa using congrArg Node.description h
  · simpa using congrArg Node.iconKey h

theorem resolve_eq_of_compile_eq {t u : Task} (hd : d.entry? = some t) (he : e.entry? = some u)
    (hmanual : c.compile .manual d = c.compile .manual e)
    (h : c.compile launch d = c.compile launch e) :
    Trigger.resolve launch d.trigger = Trigger.resolve launch e.trigger := by
  have hnodes := congrArg Graph.nodes h
  rw [c.compile_nodes_of_entry hd, c.compile_nodes_of_entry he, hmanual] at hnodes
  have htriggers := congrArg List.head? (List.append_cancel_right hnodes)
  rw [Option.head?_toList, Option.head?_toList] at htriggers
  exact Option.map_injective c.decorate_node_injective htriggers

end Compiler

/-- Documents with the same tasks, up to parts that are not compiled, have the same graph exactly
if they agree in what the launch needs of the trigger, or if no task is there for it to lead to. -/
theorem compile_eq_iff_sameTrigger (c : Compiler) (launch : Launch) {d e : Document}
    (h : d.SameTasks e) :
    c.compile launch d = c.compile launch e ↔ d.SameTrigger launch e ∨ d.entry? = none := by
  have hmanual := c.compile_manual_congr h
  rw [← Trigger.resolve_eq_iff]
  constructor
  · intro hgraph
    cases hd : d.entry? with
    | none => exact .inr rfl
    | some t =>
      obtain ⟨u, he⟩ := Option.ne_none_iff_exists'.mp (mt h.entry?_eq_none_iff.mpr (by simp [hd]))
      exact .inl (c.resolve_eq_of_compile_eq hd he hmanual hgraph)
  · rintro (htrigger | hnone)
    · rw [Compiler.compile, Compiler.compile, htrigger, h.graph_eq]
    · rw [c.compile_of_no_trigger (.inr hnone),
        c.compile_of_no_trigger (.inr (h.entry?_eq_none_iff.mp hnone)), hmanual]

/-- The sample with a pipeline that its workflow hides, with a schedule and another namespace. -/
def paddedSample : Document where
  trigger := some { schedule := some "0 * * * *", webhook := some "hook@prod@eu" }
  workflow := some sampleTasks
  pipeline := some [{ ref := "a", tag := "t" }]

theorem compile_eq_iff_sameTrigger_sample :
    sample.SameTasks paddedSample ∧
      ({} : Compiler).compile .webhook sample = ({} : Compiler).compile .webhook paddedSample ∧
      ({} : Compiler).compile .cron sample ≠ ({} : Compiler).compile .cron paddedSample := by
  have htasks : sample.SameTasks paddedSample := .workflow rfl rfl
  refine ⟨htasks, ?_, ?_⟩
  · have hhook : sample.SameTrigger .webhook paddedSample := by decide
    exact (compile_eq_iff_sameTrigger {} .webhook htasks).mpr (.inl hhook)
  · have hschedule : ¬ sample.SameTrigger .cron paddedSample := by decide
    rw [Ne, compile_eq_iff_sameTrigger {} .cron htasks]
    rintro (hsame | hentry)
    · exact hschedule hsame
    · cases hentry

end TaskGraph
