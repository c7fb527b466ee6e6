-- SUMMARY: What a document that was read promises about its tasks.
import Mathlib.Data.List.Nodup
import TaskGraph.Document.Yaml

/-!
# Checked documents

Reading a text ends with the check of both sections, so that a document that was read
has tasks with proper names, and no reference twice in a section.
-/
namespace TaskGraph.Document

/-- A section passes if no reference or tag is blank and no reference comes twice or was
seen before. -/
theorem checkTasks_eq_ok_iff {seen : List String} {tasks : List Task} :
    checkTasks seen tasks = .ok () ↔
      (∀ t ∈ tasks, ¬ Text.allBlank t.ref ∧ ¬ Text.allBlank t.tag ∧ t.ref ∉ seen) ∧
        (tasks.map Task.ref).Nodup := by
  induction tasks generalizing seen with
  | nil => simp [checkTasks]
  | cons t ts ih =>
    unfold checkTasks
    by_cases href : Text.allBlank t.ref
    · simp [href]
    by_cases htag : Text.allBlank t.tag
    · simp [href, htag]
    by_cases hseen : t.ref ∈ seen
    · simp [href, htag, hseen]
    rw [if_neg href, if_neg htag, if_neg hseen, ih]
    simp only [List.mem_cons, List.map_cons, List.nodup_cons, List.mem_map]
    grind

/-- The check gives a document back unchanged, if it does. -/
theorem check_eq_ok_iff {d d' : Document} :
    d.check = .ok d' ↔ d' = d ∧ checkTasks [] (d.workflow.getD []) = .ok () ∧
      checkTasks [] (d.pipeline.getD []) = .ok () := by
  unfold check
  cases hw : checkTasks [] (d.workflow.getD []) with
  | error e => simp [bind, Except.bind]
  | ok _ =>
    cases hp : checkTasks [] (d.pipeline.getD []) with
    | error e => simp [bind, Except.bind]
    | ok _ => simp [bind, Except.bind, pure, Except.pure, eq_comm]

theorem check_of_parse {text : String} {d : Document} (h : parse text = .ok d) :
    d.check = .ok d := by
  unfold parse at h
  split at h
  · cases h
  · split at h
    · cases h
    · obtain ⟨rfl, _⟩ := check_eq_ok_iff.mp h
      exact h

variable {text : String} {d : Document} {tasks : List Task}

/-- Makes the outcome of reading a text a decidable statement. -/
theorem parse_of_toOption (h : (parse text).toOption = some d) : parse text = .ok d := by
  cases hp : parse text with
  | error e => simp [hp, Except.toOption] at h
  | ok d' => simpa [hp, Except.toOption] using h

theorem workflow_refs_nodup (h : parse text = .ok d) (hw : d.workflow = some tasks) :
    (tasks.map Task.ref).Nodup := by
  obtain ⟨_, hworkflow, _⟩ := check_eq_ok_iff.mp (check_of_parse h)
  rw [hw] at hworkflow
  exact (checkTasks_eq_ok_iff.mp hworkflow).2

theorem pipeline_refs_nodup (h : parse text = .ok d) (hp : d.pipeline = some tasks) :
    (tasks.map Task.ref).Nodup := by
  obtain ⟨_, _, hpipeline⟩ := check_eq_ok_iff.mp (check_of_parse h)
  rw [hp] at hpipeline
  exact (checkTasks_eq_ok_iff.mp hpipeline).2

end TaskGraph.Document
