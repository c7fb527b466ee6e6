-- SUMMARY: Which documents are refused, and which of their tasks is to blame.
import TaskGraph.Proofs.DocumentCheck

/-!
# Faults of documents

A document is given back unchanged if both of its sections are well formed, and refused for the
first task that is not: workflow before pipeline, and within a section in the order of
declaration. Of the faults of one task a blank reference comes first, then a blank tag, then a
reference that an earlier task of the section has.
-/
namespace TaskGraph

/-- Some character of the text is not blank. -/
def Text.Visible (s : String) : Prop := ∃ c ∈ s.toList, ¬ Text.isBlank c

theorem Text.visible_iff {s : String} : Text.Visible s ↔ ¬ Text.allBlank s := by
  simp [Text.Visible, Text.allBlank]

instance (s : String) : Decidable (Text.Visible s) := decidable_of_iff _ Text.visible_iff.symm

/-! ## Faults of a task -/

/-- What is wrong with a task, behind tasks whose references were seen. -/
inductive Task.Fault (seen : List String) (t : Task) : DocumentError → Prop where
  | blankRef (href : ¬ Text.Visible t.ref) : Fault seen t (.blankRef t.ref)
  | blankTag (href : Text.Visible t.ref) (htag : ¬ Text.Visible t.tag) :
    Fault seen t (.blankTag t.ref)
  | repeatedRef (href : Text.Visible t.ref) (htag : Text.Visible t.tag) (hseen : t.ref ∈ seen) :
    Fault seen t (.repeatedRef t.ref)

/-- Nothing is wrong with a task. -/
structure Task.Sound (seen : List String) (t : Task) : Prop where
  ref : Text.Visible t.ref
  tag : Text.Visible t.tag
  new : t.ref ∉ seen

section
variable {seen : List String} {t : Task} {e e' : DocumentError}

theorem Task.Fault.not_sound (h : t.Fault seen e) : ¬ t.Sound seen := by
  intro hsound
  cases h with
  | blankRef href => exact href hsound.ref
  | blankTag _ htag => exact htag hsound.tag
  | repeatedRef _ _ hmem => exact hsound.new hmem

namespace Document

theorem checkTasks_of_fault (h : t.Fault seen e) (ts : List Task) :
    checkTasks seen (t :: ts) = .error e := by
  unfold checkTasks
  cases h with
  | blankRef href =>
    rw [Text.visible_iff, not_not] at href
    rw [if_pos href]
  | blankTag href htag =>
    rw [Text.visible_iff] at href
    rw [Text.visible_iff, not_not] at htag
    rw [if_neg href, if_pos htag]
  | repeatedRef href htag hmem =>
    rw [Text.visible_iff] at href htag
    rw [if_neg href, if_neg htag, if_pos hmem]

theorem checkTasks_of_sound (h : t.Sound seen) (ts : List Task) :
    checkTasks seen (t :: ts) = checkTasks (t.ref :: seen) ts := by
  have href := Text.visible_iff.mp h.ref
  have htag := Text.visible_iff.mp h.tag
  rw [checkTasks, if_neg href, if_neg htag, if_neg h.new]

end Document

/-- A task is sound or has one fault. -/
theorem Task.sound_or_fault (seen : List String) (t : Task) :
    t.Sound seen ∨ ∃ e, t.Fault seen e := by
  by_cases href : Text.Visible t.ref
  · by_cases htag : Text.Visible t.tag
    · by_cases hmem : t.ref ∈ seen
      · exact .inr ⟨_, .repeatedRef href htag hmem⟩
      · exact .inl ⟨href, htag, hmem⟩
    · exact .inr ⟨_, .blankTag href htag⟩
  · exact .inr ⟨_, .blankRef href⟩

theorem Task.Fault.unique (h : t.Fault seen e) (h' : t.Fault seen e') : e = e' :=
  Except.error.inj
    ((Document.checkTasks_of_fault h []).symm.trans (Document.checkTasks_of_fault h' []))

end

/-! ## Faults of a section -/

/-- The references that stand before a task of a list, the last one first; `seen` are those from
before the list. -/
def refsBefore (seen : List String) (tasks : List Task) (i : Nat) : List String :=
  ((tasks.take i).map Task.ref).reverse ++ seen

/-- A task has the fault, and no task before it has any. -/
def FirstFault (seen : List String) (tasks : List Task) (e : DocumentError) : Prop :=
  ∃ i, ∃ h : i < tasks.length, tasks[i].Fault (refsBefore seen tasks i) e ∧
    ∀ j, ∀ hj : j < i, ∀ e', ¬ tasks[j].Fault (refsBefore seen tasks j) e'

section
variable {seen : List String} {t : Task} {e : DocumentError} (ts : List Task)

theorem refsBefore_cons_succ (i : Nat) :
    refsBefore seen (t :: ts) (i + 1) = refsBefore (t.ref :: seen) ts i := by
  simp [refsBefore]

theorem firstFault_cons_of_fault (h : t.Fault seen e) {e' : DocumentError} :
    FirstFault seen (t :: ts) e' ↔ e = e' := by
  constructor
  · rintro ⟨i, hi, hfault, hearlier⟩
    cases i with
    | zero => exact h.unique hfault
    | succ i => exact absurd h (hearlier 0 (Nat.succ_pos i) e)
  · rintro rfl
    exact ⟨0, Nat.succ_pos _, h, fun j hj => absurd hj (Nat.not_lt_zero j)⟩

theorem firstFault_cons_of_sound (h : t.Sound seen) :
    FirstFault seen (t :: ts) e ↔ FirstFault (t.ref :: seen) ts e := by
  constructor
  · rintro ⟨i, hi, hfault, hearlier⟩
    cases i with
    | zero => exact absurd h hfault.not_sound
    | succ i =>
      rw [refsBefore_cons_succ] at hfault
      refine ⟨i, Nat.lt_of_succ_lt_succ hi, hfault, fun j hj e' => ?_⟩
      rw [← refsBefore_cons_succ]
      exact hearlier (j + 1) (Nat.succ_lt_succ hj) e'
  · rintro ⟨i, hi, hfault, hearlier⟩
    rw [← refsBefore_cons_succ] at hfault
    refine ⟨i + 1, Nat.succ_lt_succ hi, hfault, fun j hj e' => ?_⟩
    cases j with
    | zero => exact fun hfirst => hfirst.not_sound h
    | succ j =>
      rw [refsBefore_cons_succ]
      exact hearlier j (Nat.lt_of_succ_lt_succ hj) e'

end

namespace Document

/-- A section is refused for its first fault. -/
theorem checkTasks_eq_error_iff {seen : List String} {tasks : List Task} {e : DocumentError} :
    checkTasks seen tasks = .error e ↔ FirstFault seen tasks e := by
  -- A sound task only adds its reference to those that were seen, so these vary.
  induction tasks generalizing seen with
  | nil => simp [checkTasks, FirstFault]
  | cons t ts ih =>
    cases t.sound_or_fault seen with
    | inl hsound => rw [checkTasks_of_sound hsound, ih, firstFault_cons_of_sound ts hsound]
    | inr hfault =>
      obtain ⟨e₀, hfault⟩ := hfault
      rw [checkTasks_of_fault hfault, firstFault_cons_of_fault ts hfault, Except.error.injEq]

/-- Every task of a section has a reference and a tag that can be seen, and no two have the same
reference. -/
structure Proper (tasks : List Task) : Prop where
  ref : ∀ t ∈ tasks, Text.Visible t.ref
  tag : ∀ t ∈ tasks, Text.Visible t.tag
  distinct : (tasks.map Task.ref).Nodup

theorem checkTasks_eq_ok_iff_proper {tasks : List Task} :
    checkTasks [] tasks = .ok () ↔ Proper tasks := by
  rw [checkTasks_eq_ok_iff]
  simp only [← Text.visible_iff]
  constructor
  · rintro ⟨htasks, hdistinct⟩
    exact ⟨fun t ht => (htasks t ht).1, fun t ht => (htasks t ht).2.1, hdistinct⟩
  · intro h
    exact ⟨fun t ht => ⟨h.ref t ht, h.tag t ht, List.not_mem_nil⟩, h.distinct⟩

/-! ## Faults of a document -/

/-- Every section that the document has is proper. -/
structure WellFormed (d : Document) : Prop where
  workflow : ∀ tasks ∈ d.workflow, Proper tasks
  pipeline : ∀ tasks ∈ d.pipeline, Proper tasks

/-- The first fault of a document, where all tasks of the workflow come before those of the
pipeline. -/
inductive Blames (d : Document) : DocumentError → Prop where
  | workflow {tasks : List Task} {e : DocumentError} (hw : d.workflow = some tasks)
    (h : FirstFault [] tasks e) : Blames d e
  | pipeline {tasks : List Task} {e : DocumentError} (hw : ∀ tasks ∈ d.workflow, Proper tasks)
    (hp : d.pipeline = some tasks) (h : FirstFault [] tasks e) : Blames d e

theorem checkTasks_section_eq_ok_iff {tasks? : Option (List Task)} :
    checkTasks [] (tasks?.getD []) = .ok () ↔ ∀ tasks ∈ tasks?, Proper tasks := by
  cases tasks? with
  | none => simp [checkTasks]
  | some tasks => simp [checkTasks_eq_ok_iff_proper]

theorem checkTasks_section_eq_error_iff {tasks? : Option (List Task)} {e : DocumentError} :
    checkTasks [] (tasks?.getD []) = .error e ↔
      ∃ tasks, tasks? = some tasks ∧ FirstFault [] tasks e := by
  cases tasks? with
  | none => simp [checkTasks]
  | some tasks => simp [checkTasks_eq_error_iff]

variable {d : Document}

theorem check_eq_ok_iff_wellFormed {d' : Document} :
    d.check = .ok d' ↔ d' = d ∧ d.WellFormed := by
  rw [check_eq_ok_iff, checkTasks_section_eq_ok_iff, checkTasks_section_eq_ok_iff]
  exact and_congr_right fun _ => ⟨fun h => ⟨h.1, h.2⟩, fun h => ⟨h.workflow, h.pipeline⟩⟩

theorem check_eq_error_iff_checkTasks {e : DocumentError} :
    d.check = .error e ↔ checkTasks [] (d.workflow.getD []) = .error e ∨
      (checkTasks [] (d.workflow.getD []) = .ok () ∧
        checkTasks [] (d.pipeline.getD []) = .error e) := by
  unfold check
  cases hw : checkTasks [] (d.workflow.getD []) with
  | error e' => simp [bind, Except.bind]
  | ok _ =>
    cases hp : checkTasks [] (d.pipeline.getD []) with
    | error e' => simp [bind, Except.bind]
    | ok _ => simp [bind, Except.bind, pure, Except.pure]

theorem check_eq_error_iff {e : DocumentError} : d.check = .error e ↔ d.Blames e := by
  rw [check_eq_error_iff_checkTasks, checkTasks_section_eq_ok_iff,
    checkTasks_section_eq_error_iff, checkTasks_section_eq_error_iff]
  constructor
  · rintro (⟨tasks, hw, h⟩ | ⟨hw, tasks, hp, h⟩)
    · exact .workflow hw h
    · exact .pipeline hw hp h
  · intro h
    cases h with
    | workflow hw h => exact .inl ⟨_, hw, h⟩
    | pipeline hw hp h => exact .inr ⟨hw, _, hp, h⟩

/-! ## Reading documents -/

/-- The document that a text holds, whatever its tasks are. -/
def read? (text : String) : Option Document :=
  (Yaml.Document.parse? text).bind fun y => y.read? {} (ofYaml y)

theorem parse_of_read? {text : String} (h : read? text = some d) : parse text = d.check := by
  obtain ⟨y, hy, hd⟩ := Option.bind_eq_some_iff.mp h
  simp only [parse, hy, hd]

/-- Reading a text that holds a document gives the document, unchanged, exactly if this is well
formed, and is refused with an error exactly if that is the first fault of the document. -/
theorem parse_iff_wellFormed_or_blames {text : String} (h : read? text = some d) :
    (∀ d', parse text = .ok d' ↔ d' = d ∧ d.WellFormed) ∧
      ∀ e, parse text = .error e ↔ d.Blames e := by
  rw [parse_of_read? h]
  exact ⟨fun _ => check_eq_ok_iff_wellFormed, fun _ => check_eq_error_iff⟩

/-- The second task of the pipeline has two faults, and the third one has a worse. -/
def faultyText : String :=
  "workflow:\n- ref: a\n  task: t\n" ++
  "pipeline:\n- ref: a\n  task: t\n- ref: a\n  task: ' '\n- ref: ''\n  task: t\n"

def faulty : Document where
  workflow := some [{ ref := "a", tag := "t" }]
  pipeline := some [{ ref := "a", tag := "t" }, { ref := "a", tag := " " },
    { ref := "", tag := "t" }]

theorem parse_blames_faulty :
    read? faultyText = some faulty ∧ parse faultyText = .error (.blankTag "a") := by
  have hread : read? faultyText = some faulty := by decide +kernel
  have hworkflow : ∀ tasks ∈ faulty.workflow, Proper tasks := by
    rintro tasks hw
    obtain rfl := Option.some.inj hw
    exact ⟨by decide, by decide, by decide⟩
  have hfirst : Task.Sound [] { ref := "a", tag := "t" } := ⟨by decide, by decide, by decide⟩
  refine ⟨hread, ((parse_iff_wellFormed_or_blames hread).2 _).mpr (.pipeline hworkflow rfl ?_)⟩
  refine ⟨1, by decide, .blankTag (by decide) (by decide), fun j hj e h => ?_⟩
  obtain rfl : j = 0 := by omega
  exact h.not_sound hfirst

end Document
end TaskGraph
