-- SUMMARY: Which nodes are lit after a run of operations, and when these are the nodes with the highlighted status.
import Mathlib.Data.List.Basic
import TaskGraph.Proofs.ViewCalls

/-!
# Lit nodes

A node is lit if the last highlighting that was sent for it was on. Highlighting a
status switches off the nodes that are now stamped with the old one, not those that are
lit: a node that got another stamp in between stays lit. A refresh sets every task node
right, as long as only task nodes are lit, and none when no status is highlighted.
-/
namespace TaskGraph

/-- Whether a command highlights the node, and if so, how. -/
def Command.highlight? (id : String) : Command → Option Bool
  | .mark (.node i) (.highlight on) => if i = id then some on else none
  | _ => none

namespace View

variable {σ κ : Type}

/-- The last highlighting that was sent for the node was on. -/
def IsLit (v : View (Recorded σ) κ) (id : String) : Prop :=
  v.screen.log.findSome? (Command.highlight? id) = some true

/-- The id is that of a task node that is stamped with the status. -/
def Stamped (v : View σ κ) (s : Status) (id : String) : Prop :=
  id ∈ v.taskNodes.map Node.id ∧ v.status? id = some s

/-- The id is that of a task node that is stamped with the highlighted status. -/
def Highlighted (v : View σ κ) (id : String) : Prop := ∃ s ∈ v.highlighted, v.Stamped s id

/-- Lit are exactly the task nodes that are stamped with the status. -/
def LitExactly (v : View (Recorded σ) κ) (s : Status) : Prop := ∀ id, v.IsLit id ↔ v.Stamped s id

/-- Lit are exactly the task nodes that are stamped with the highlighted status. -/
def Faithful (v : View (Recorded σ) κ) : Prop := ∀ id, v.IsLit id ↔ v.Highlighted id

/-- Only task nodes are lit, and only while a status is highlighted. -/
structure Refreshable (v : View (Recorded σ) κ) : Prop where
  task : ∀ id, v.IsLit id → id ∈ v.taskNodes.map Node.id
  highlighted : ∀ id, v.IsLit id → v.highlighted.isSome

instance (v : View (Recorded σ) κ) (id : String) : Decidable (v.IsLit id) :=
  inferInstanceAs (Decidable (_ = _))

instance (v : View σ κ) (s : Status) (id : String) : Decidable (v.Stamped s id) :=
  inferInstanceAs (Decidable (_ ∧ _))

theorem Stamped.unique {v : View σ κ} {s t : Status} {id : String} (hs : v.Stamped s id)
    (ht : v.Stamped t id) : s = t :=
  Option.some.inj (hs.2.symm.trans ht.2)

theorem Faithful.refreshable {v : View (Recorded σ) κ} (h : v.Faithful) : v.Refreshable where
  task := by
    intro id hlit
    obtain ⟨_, _, hstamped⟩ := (h id).mp hlit
    exact hstamped.1
  highlighted := by
    intro id hlit
    obtain ⟨_, hs, _⟩ := (h id).mp hlit
    exact Option.isSome_of_mem hs

/-! ## Operations without marks -/

section
variable {v w : View (Recorded σ) κ} (hw : Unmarked v w)
include hw

theorem Unmarked.isLit_iff (id : String) : w.IsLit id ↔ v.IsLit id := by
  obtain ⟨cs, hcs, hnone⟩ := hw.sent
  have hplain : cs.findSome? (Command.highlight? id) = none := by
    rw [List.findSome?_eq_none_iff]
    intro c hc
    cases c with
    | mark i m => exact absurd hc (hnone i m)
    | _ => rfl
  rw [IsLit, hcs, List.findSome?_append, hplain, Option.none_or, IsLit]

theorem Unmarked.taskNodes_eq : w.taskNodes = v.taskNodes := by
  rw [taskNodes, hw.graph, taskNodes]

theorem Faithful.of_unmarked (h : v.Faithful) : w.Faithful := by
  intro id
  rw [hw.isLit_iff, h id]
  simp only [Highlighted, Stamped, hw.taskNodes_eq, hw.highlighted, status?, hw.stamps]

theorem Refreshable.of_unmarked (h : v.Refreshable) : w.Refreshable where
  task := by
    intro id hlit
    rw [hw.taskNodes_eq]
    exact h.task id ((hw.isLit_iff id).mp hlit)
  highlighted := by
    intro id hlit
    rw [hw.highlighted]
    exact h.highlighted id ((hw.isLit_iff id).mp hlit)

end

/-! ## Sending highlights -/

variable [Renderer σ]

theorem isLit_sendAll (v : View (Recorded σ) κ) (cs : List Command) (id : String) :
    (v.sendAll cs).IsLit id ↔
      (cs.reverse.findSome? (Command.highlight? id)).or
        (v.screen.log.findSome? (Command.highlight? id)) = some true := by
  rw [IsLit, sendAll_log, List.findSome?_append]

/-- Commands that highlight no node light none. -/
theorem isLit_sendAll_of_plain (v : View (Recorded σ) κ) {cs : List Command}
    (h : ∀ c ∈ cs, ∀ id, c.highlight? id = none) (id : String) :
    (v.sendAll cs).IsLit id ↔ v.IsLit id := by
  have hnone : cs.reverse.findSome? (Command.highlight? id) = none := by
    rw [List.findSome?_eq_none_iff]
    intro c hc
    exact h c (List.mem_reverse.mp hc) id
  rw [isLit_sendAll, hnone, Option.none_or, IsLit]

/-- If all items of a kind give the same, it does not matter which of them is found first. -/
theorem findSome?_eq_ite {α β : Type} {p : α → Prop} [DecidablePred p] {f : α → Option β} {b : β}
    {items : List α} (h : ∀ a ∈ items, f a = if p a then some b else none) :
    items.findSome? f = if ∃ a ∈ items, p a then some b else none := by
  induction items with
  | nil => rfl
  | cons a as ih =>
    obtain ⟨ha, has⟩ := List.forall_mem_cons.mp h
    rw [List.findSome?_cons, ih has, ha]
    by_cases hp : p a
    · simp [hp]
    · simp [hp]

/-- Highlighting nodes by their ids sets each of them, also if an id occurs more than once. -/
theorem findSome?_highlight (on : String → Bool) (nodes : List Node) (id : String) :
    (nodes.map fun n => Command.mark (.node n.id) (.highlight (on n.id))).findSome?
        (Command.highlight? id) =
      if id ∈ nodes.map Node.id then some (on id) else none := by
  simp only [List.mem_map]
  rw [List.findSome?_map]
  refine findSome?_eq_ite fun n _ => ?_
  by_cases h : n.id = id
  · simp [Command.highlight?, h]
  · simp [Command.highlight?, h]

theorem isLit_sendAll_highlight (v : View (Recorded σ) κ) (on : String → Bool)
    (nodes : List Node) (id : String) :
    (v.sendAll (nodes.map fun n => .mark (.node n.id) (.highlight (on n.id)))).IsLit id ↔
      if id ∈ nodes.map Node.id then on id = true else v.IsLit id := by
  rw [isLit_sendAll, ← List.map_reverse, findSome?_highlight]
  by_cases h : id ∈ nodes.map Node.id
  · rw [if_pos h, if_pos (by simpa using h), Option.some_or, Option.some.injEq]
  · rw [if_neg h, if_neg (by simpa using h), Option.none_or, IsLit]

/-! ## One operation -/

section
variable (v : View (Recorded σ) κ)

theorem isLit_markStatus (s : Status) (on : Bool) (id : String) :
    (v.markStatus s on).IsLit id ↔ if v.Stamped s id then on = true else v.IsLit id := by
  have hnodes : id ∈ (v.taskNodes.filter fun n => v.status? n.id == some s).map Node.id ↔
      v.Stamped s id := by
    simp only [Stamped, List.mem_map, List.mem_filter, beq_iff_eq]
    grind
  rw [markStatus, isLit_sendAll_highlight v (fun _ => on)]
  simp only [hnodes]

@[simp] theorem markStatus_stamped (s t : Status) (on : Bool) (id : String) :
    (v.markStatus s on).Stamped t id ↔ v.Stamped t id := by
  simp [Stamped, markStatus, taskNodes, status?]

/-- Highlighting a status lights the nodes stamped with it. Of the other nodes those stay lit
that are not stamped with the old status. -/
theorem isLit_highlight_on (s : Status) (id : String) :
    (v.highlight s true).IsLit id ↔ v.Stamped s id ∨ (v.IsLit id ∧ ¬ v.Highlighted id) := by
  have hmark : ∀ w : View (Recorded σ) κ,
      ({ w.markStatus s true with highlighted := some s } : View (Recorded σ) κ).IsLit id ↔
        w.Stamped s id ∨ w.IsLit id := by
    intro w
    refine (isLit_markStatus w s true id).trans ?_
    by_cases h : w.Stamped s id <;> simp [h]
  simp only [highlight, if_true, hmark]
  cases hold : v.highlighted with
  | none => simp [Highlighted, hold]
  | some old =>
    by_cases heq : old = s
    · subst heq
      simp only [if_true, Highlighted, hold, Option.mem_def, Option.some.injEq, exists_eq_left']
      tauto
    · simp only [if_neg heq, markStatus_stamped, isLit_markStatus, Highlighted, hold,
        Option.mem_def, Option.some.injEq, exists_eq_left']
      by_cases hstamped : v.Stamped old id <;> simp [hstamped]

/-- Switching a status off puts out the nodes stamped with it. -/
theorem isLit_highlight_off (s : Status) (id : String) :
    (v.highlight s false).IsLit id ↔ v.IsLit id ∧ ¬ v.Stamped s id := by
  have hmark : (v.markStatus s false).IsLit id ↔ v.IsLit id ∧ ¬ v.Stamped s id := by
    rw [isLit_markStatus]
    by_cases h : v.Stamped s id <;> simp [h]
  rw [← hmark]
  simp only [highlight, Bool.false_eq_true, if_false]
  split <;> rfl

theorem highlight_on_highlighted (s : Status) : (v.highlight s true).highlighted = some s := rfl

theorem highlight_off_highlighted (s : Status) :
    (v.highlight s false).highlighted = if v.highlighted = some s then none else v.highlighted := by
  have hmark : (v.markStatus s false).highlighted = v.highlighted := sendAll_highlighted _ _
  simp only [highlight, Bool.false_eq_true, if_false, hmark]
  split
  · rfl
  · exact hmark

@[simp] theorem highlight_stamped (s t : Status) (on : Bool) (id : String) :
    (v.highlight s on).Stamped t id ↔ v.Stamped t id := by
  cases on with
  | true =>
    have hmark : ∀ w : View (Recorded σ) κ,
        ({ w.markStatus s true with highlighted := some s } : View (Recorded σ) κ).Stamped t id ↔
          w.Stamped t id := fun w => markStatus_stamped w s t true id
    simp only [highlight, if_true, hmark]
    split
    · split
      · rfl
      · exact markStatus_stamped v _ t false id
    · rfl
  | false =>
    rw [← markStatus_stamped v s t false id]
    simp only [highlight, Bool.false_eq_true, if_false]
    split <;> rfl

theorem highlight_on_litExactly_iff (s : Status) :
    (v.highlight s true).LitExactly s ↔
      ∀ id, v.IsLit id → v.Stamped s id ∨ v.Highlighted id := by
  refine forall_congr' fun id => ?_
  rw [isLit_highlight_on, highlight_stamped]
  tauto

/-- A refresh sets every task node right, unless no status is highlighted. -/
theorem isLit_refreshHighlight (id : String) :
    v.refreshHighlight.IsLit id ↔
      if v.highlighted.isSome ∧ id ∈ v.taskNodes.map Node.id then v.Highlighted id
      else v.IsLit id := by
  unfold refreshHighlight
  cases hold : v.highlighted with
  | none => simp
  | some s =>
    simp only
    rw [isLit_sendAll_highlight v (fun i => v.status? i == some s)]
    by_cases h : id ∈ v.taskNodes.map Node.id
    · simp only [h, if_true, Option.isSome_some, and_self, Highlighted, hold, Option.mem_def,
        Option.some.injEq, exists_eq_left', Stamped, true_and, beq_iff_eq]
    · simp only [h, if_false, and_false]

@[simp] theorem refreshHighlight_stamped (s : Status) (id : String) :
    v.refreshHighlight.Stamped s id ↔ v.Stamped s id := by
  unfold refreshHighlight
  split <;> simp [Stamped, taskNodes, status?]

@[simp] theorem refreshHighlight_highlighted :
    v.refreshHighlight.highlighted = v.highlighted := by
  unfold refreshHighlight
  split <;> simp [*]

/-- Records change stamps; what is lit stays lit, and what is not stays dark. -/
theorem isLit_applyRecords (records : List RunRecord) (id : String) :
    (v.applyRecords records).IsLit id ↔ v.IsLit id := by
  unfold applyRecords
  simp only
  rw [isLit_sendAll_of_plain, isLit_sendAll_of_plain]
  · rfl
  · simp [Command.highlight?]
  · simp [markEdge, Command.highlight?]

@[simp] theorem applyRecords_taskNodes (records : List RunRecord) :
    (v.applyRecords records).taskNodes = v.taskNodes := by
  simp [applyRecords, taskNodes]

@[simp] theorem applyRecords_highlighted (records : List RunRecord) :
    (v.applyRecords records).highlighted = v.highlighted := by
  simp [applyRecords]

end

/-! ## Steps -/

section
variable {v : View (Recorded σ) κ}

/-- A refresh makes up for changed stamps. -/
theorem Refreshable.refreshHighlight (h : v.Refreshable) : v.refreshHighlight.Faithful := by
  intro id
  have hsame : v.refreshHighlight.Highlighted id ↔ v.Highlighted id := by simp [Highlighted]
  rw [hsame, isLit_refreshHighlight]
  by_cases hset : v.highlighted.isSome ∧ id ∈ v.taskNodes.map Node.id
  · rw [if_pos hset]
  · rw [if_neg hset]
    constructor
    · intro hlit
      exact absurd ⟨h.highlighted id hlit, h.task id hlit⟩ hset
    · intro hhighlighted
      obtain ⟨_, hs, hstamped⟩ := hhighlighted
      exact absurd ⟨Option.isSome_of_mem hs, hstamped.1⟩ hset

theorem Faithful.highlight_on (h : v.Faithful) (s : Status) : (v.highlight s true).Faithful := by
  intro id
  have hnew : (v.highlight s true).Highlighted id ↔ v.Stamped s id := by
    simp [Highlighted, highlight_on_highlighted]
  rw [hnew, isLit_highlight_on, h id]
  tauto

theorem Faithful.highlight_off (h : v.Faithful) (s : Status) : (v.highlight s false).Faithful := by
  intro id
  rw [isLit_highlight_off, h id]
  simp only [Highlighted, highlight_off_highlighted, highlight_stamped]
  constructor
  · intro hlit
    obtain ⟨⟨t, ht, hstamped⟩, hne⟩ := hlit
    have hother : v.highlighted ≠ some s := by
      intro hs
      rw [hs, Option.mem_some] at ht
      exact hne (ht ▸ hstamped)
    rw [if_neg hother]
    exact ⟨t, ht, hstamped⟩
  · intro hlit
    obtain ⟨t, ht, hstamped⟩ := hlit
    split at ht
    · cases ht
    · rename_i hother
      refine ⟨⟨t, ht, hstamped⟩, ?_⟩
      intro hs
      exact hother (hs.unique hstamped ▸ ht)

/-- Only new records can make a faithful screen false. -/
theorem Faithful.apply (h : v.Faithful) {op : Op κ} (hop : ∀ records, op ≠ .applyRecords records) :
    (op.apply v).Faithful := by
  cases hmarks : op.marks with
  | false => exact h.of_unmarked (op.unmarked hmarks v)
  | true =>
    cases op with
    | applyRecords records => exact absurd rfl (hop records)
    | highlight s on =>
      cases on with
      | true => exact h.highlight_on s
      | false => exact h.highlight_off s
    | refreshHighlight => exact h.refreshable.refreshHighlight
    | _ => cases hmarks

theorem Refreshable.apply (h : v.Refreshable) {op : Op κ} (hop : ∀ s on, op ≠ .highlight s on) :
    (op.apply v).Refreshable := by
  cases hmarks : op.marks with
  | false => exact h.of_unmarked (op.unmarked hmarks v)
  | true =>
    cases op with
    | applyRecords records =>
      refine ⟨?_, ?_⟩
      · intro id hlit
        rw [Op.apply, applyRecords_taskNodes]
        exact h.task id ((isLit_applyRecords v records id).mp hlit)
      · intro id hlit
        rw [Op.apply, applyRecords_highlighted]
        exact h.highlighted id ((isLit_applyRecords v records id).mp hlit)
    | highlight s on => exact absurd rfl (hop s on)
    | refreshHighlight => exact h.refreshHighlight.refreshable
    | _ => cases hmarks

/-! ## Runs -/

/-- A run in which new records are followed by a refresh, at once or at least before the next
change of the highlight. -/
inductive Refreshed : List (Op κ) → Prop
  | nil : Refreshed []
  | step (op : Op κ) {ops : List (Op κ)} (hop : ∀ records, op ≠ .applyRecords records)
      (h : Refreshed ops) : Refreshed (op :: ops)
  | update (records : List RunRecord) (between : List (Op κ)) {ops : List (Op κ)}
      (hbetween : ∀ s on, .highlight s on ∉ between) (h : Refreshed ops) :
      Refreshed (.applyRecords records :: (between ++ .refreshHighlight :: ops))

theorem Refreshable.run (h : v.Refreshable) {ops : List (Op κ)}
    (hops : ∀ s on, .highlight s on ∉ ops) : (v.run ops).Refreshable := by
  induction ops generalizing v with
  | nil => exact h
  | cons op ops ih =>
    have hop : ∀ s on, op ≠ .highlight s on := by
      intro s on heq
      exact hops s on (heq ▸ List.mem_cons_self)
    exact ih (h.apply hop) fun s on hmem => hops s on (List.mem_cons_of_mem op hmem)

theorem Faithful.run (h : v.Faithful) {ops : List (Op κ)} (hops : Refreshed ops) :
    (v.run ops).Faithful := by
  induction hops generalizing v with
  | nil => exact h
  | step op hop _ ih => exact ih (h.apply hop)
  | update records between hbetween _ ih =>
    rw [run_cons, run_append, run_cons]
    have hrecords : ((Op.applyRecords records).apply v).Refreshable :=
      h.refreshable.apply (by simp)
    exact ih (hrecords.run hbetween).refreshHighlight

theorem mount_faithful {b : Backend σ} {options : ViewOptions} {g : Graph}
    (h : mount b.recorded options g = .ok v) : v.Faithful := by
  obtain ⟨_, _, hhighlighted, _, hlog⟩ := mount_eq_ok h
  intro id
  have hdark : ¬ v.IsLit id := by
    rw [IsLit, hlog]
    exact Option.some_ne_none _ ∘ Eq.symm
  simp [hdark, Highlighted, hhighlighted]

end

/-! ## What is lit after a run -/

/-- In any run in which new records are followed by a refresh, the nodes that are lit are those
with the highlighted status. Nothing is lit if no status is highlighted. -/
theorem run_faithful {b : Backend σ} {options : ViewOptions} {g : Graph} {v : View (Recorded σ) κ}
    (h : mount b.recorded options g = .ok v) (ops : List (Op κ)) (hops : Refreshed ops) :
    (v.run ops).Faithful ∧
      ((v.run ops).highlighted = none → ∀ id, ¬ (v.run ops).IsLit id) := by
  have hfaithful := (mount_faithful h).run hops
  refine ⟨hfaithful, ?_⟩
  intro hnone id hlit
  obtain ⟨_, hs, _⟩ := (hfaithful id).mp hlit
  rw [hnone] at hs
  cases hs

/-- Two tasks, one after the other. -/
def pair : Graph where
  origin := .pipeline
  nodes := [{ id := "a", label := "a", description := "a", kind := .task },
    { id := "b", label := "b", description := "b", kind := .task }]
  edges := [.flow "a" "b"]

def pairView : View (Recorded EmptyScreen) Unit where
  screen := { screen := {}, log := [.render, .setVisible false] }
  graph := pair
  layout := .choose .pipeline 2 .horizontal
  config := {}

theorem mount_pair : mount EmptyScreen.backend.recorded {} pair = .ok pairView := rfl

/-- The highlight goes with the status from one task to the other. -/
def pairRun : List (Op Unit) :=
  [.settle, .applyRecords [{ node := "a", status := .running }], .refreshHighlight,
    .highlight .running true,
    .applyRecords [{ node := "a", status := .succeeded }, { node := "b", status := .running }],
    .resize {}, .refreshHighlight]

theorem pairRun_refreshed : Refreshed pairRun := by
  refine .step _ (by simp) (.update _ [] (by simp) (.step _ (by simp) ?_))
  exact .update _ [.resize {}] (by simp) .nil

theorem run_faithful_pair :
    mount EmptyScreen.backend.recorded {} pair = .ok pairView ∧ Refreshed pairRun ∧
      (pairView.run pairRun).IsLit "b" ∧ ¬ (pairView.run pairRun).IsLit "a" := by
  obtain ⟨hfaithful, _⟩ := run_faithful mount_pair pairRun pairRun_refreshed
  refine ⟨mount_pair, pairRun_refreshed, ?_, ?_⟩
  · rw [hfaithful "b"]
    exact ⟨.running, rfl, by decide +kernel⟩
  · rw [hfaithful "a"]
    rintro ⟨s, hs, hstamped⟩
    obtain rfl : .running = s := Option.some.inj hs
    exact absurd hstamped (by decide +kernel)

/-- After a status was highlighted, the nodes that are lit are those with the status exactly if
no node was lit before with a stamp other than this status and the one that was highlighted
then. In particular this is so if all records before were followed by a refresh. -/
theorem run_highlight_litExactly_iff {b : Backend σ} {options : ViewOptions} {g : Graph}
    {v : View (Recorded σ) κ} (h : mount b.recorded options g = .ok v) (ops : List (Op κ))
    (s : Status) :
    ((v.run (ops ++ [.highlight s true])).LitExactly s ↔
      ∀ id, (v.run ops).IsLit id → (v.run ops).Stamped s id ∨ (v.run ops).Highlighted id) ∧
    (Refreshed ops → (v.run (ops ++ [.highlight s true])).LitExactly s) := by
  have hlast : v.run (ops ++ [.highlight s true]) = (v.run ops).highlight s true := by
    rw [run_append]
    rfl
  rw [hlast, highlight_on_litExactly_iff]
  refine ⟨Iff.rfl, ?_⟩
  intro hops id hlit
  exact .inr (((mount_faithful h).run hops id).mp hlit)

theorem run_highlight_litExactly_pair :
    mount EmptyScreen.backend.recorded {} pair = .ok pairView ∧ Refreshed pairRun ∧
      (pairView.run (pairRun ++ [.highlight .succeeded true])).LitExactly .succeeded ∧
      (pairView.run (pairRun ++ [.highlight .succeeded true])).Stamped .succeeded "a" := by
  obtain ⟨_, hexact⟩ := run_highlight_litExactly_iff mount_pair pairRun .succeeded
  exact ⟨mount_pair, pairRun_refreshed, hexact pairRun_refreshed, by decide +kernel⟩

/-- A node that was lit while it was running, and succeeded without a refresh, stays lit beside
the nodes that have failed. -/
theorem stale_not_litExactly :
    mount EmptyScreen.backend.recorded {} pair = .ok pairView ∧
      ¬ (pairView.run [.applyRecords [{ node := "a", status := .running }],
        .highlight .running true, .applyRecords [{ node := "a", status := .succeeded }],
        .highlight .failed true]).LitExactly .failed := by
  refine ⟨mount_pair, ?_⟩
  intro hexact
  have hstamped := (hexact "a").mp (by decide +kernel)
  exact absurd hstamped (by decide +kernel)

end View
end TaskGraph
