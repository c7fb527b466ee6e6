-- SUMMARY: The commands that each operation on a view sends, as lists computed from the view.
import TaskGraph.Proofs.ViewCommands

/-!
# Calls of a view

Which commands an operation sends is decided by the view before it. With these lists at
hand, a run of operations is a run of commands, and statements about what a renderer is
told are statements about lists. One equation says all that an operation does; what it
leaves alone is read off from it.
-/
namespace TaskGraph

/-- The command restyles an item. -/
def Command.isMark : Command → Bool
  | .mark _ _ => true
  | _ => false

/-- The command draws, removes, shows or hides the whole graph. -/
def Command.isStaging : Command → Bool
  | .render | .destroy | .setVisible _ => true
  | _ => false

theorem Command.isStaging_of_isMark {c : Command} (h : c.isMark) : c.isStaging = false := by
  cases c with
  | mark i m => rfl
  | _ => cases h

namespace View

open Renderer (performAll performAll_append)

variable {σ κ : Type} [Renderer σ]

/-! ## What an operation sends -/

section
variable (v : View σ κ)

def fitLargeCalls : List Command :=
  let least := v.config.zoom.minRatio
  if v.overflows least then
    [.center, .zoomTo least (Renderer.centerPoint (Renderer.perform .center v.screen))]
  else [.fit]

def fitCalls : List Command := if v.overflows 1 then v.fitLargeCalls else [.fit]

def fitOrCenterCalls : List Command := if v.overflows 1 then v.fitLargeCalls else [.center]

/-- The stamps after new records. -/
def recordStamps (records : List RunRecord) : Stamps :=
  (v.taskNodes.map fun n => (n.id, statusFrom records n.id)).foldl
    (fun stamps (id, s) => stamps.set id s) v.stamps

def recordCalls (records : List RunRecord) : List Command :=
  (v.taskNodes.map fun n => .mark (.node n.id) (.status (statusFrom records n.id))) ++
    v.graph.edges.map { v with stamps := v.recordStamps records }.markEdge

def statusCalls (s : Status) (on : Bool) : List Command :=
  (v.taskNodes.filter fun n => v.status? n.id == some s).map fun n =>
    .mark (.node n.id) (.highlight on)

/-- What is sent to switch off a status that is highlighted, unless it is the given one. -/
def switchCalls (s : Status) : List Command :=
  match v.highlighted with
  | some old => if old = s then [] else v.statusCalls old false
  | none => []

def highlightCalls (s : Status) (on : Bool) : List Command :=
  if on then v.switchCalls s ++ v.statusCalls s true else v.statusCalls s false

def refreshCalls : List Command :=
  match v.highlighted with
  | none => []
  | some s => v.taskNodes.map fun n =>
      .mark (.node n.id) (.highlight (v.status? n.id == some s))

end

/-- The commands that an operation sends. -/
def Op.calls : Op κ → View σ κ → List Command
  | .settle, v => if v.pending then v.fitOrCenterCalls ++ [.setVisible true] else []
  | .fitOrCenter, v => v.fitOrCenterCalls
  | .fit, v => v.fitCalls
  | .zoomTo percent, v => [.zoomTo (percent / 100) (Renderer.centerPoint v.screen)]
  | .resize size, _ => [.resize size]
  | .applyRecords records, v => v.recordCalls records
  | .highlight s on, v => v.highlightCalls s on
  | .refreshHighlight, v => v.refreshCalls
  | .listen _, _ => []
  | .hover _ _, _ => []

/-! ## What an operation does -/

/-- The operation that shows the view. -/
def Op.settles : Op κ → Bool
  | .settle => true
  | _ => false

theorem Op.settles_iff {op : Op κ} : op.settles = true ↔ op = .settle := by
  cases op <;> simp [settles]

/-- The stamps after an operation. -/
def Op.stamps : Op κ → View σ κ → Stamps
  | .applyRecords records, v => v.recordStamps records
  | _, v => v.stamps

/-- The highlighted status after an operation. -/
def Op.highlighted : Op κ → View σ κ → Option Status
  | .highlight s on, v =>
    if on then some s else if v.highlighted = some s then none else v.highlighted
  | _, v => v.highlighted

def Op.listener : Op κ → View σ κ → Option κ
  | .listen k, _ => some k
  | _, v => v.listener

section
variable (v : View σ κ)

@[simp] theorem sendAll_statusCalls (cs : List Command) (s : Status) (on : Bool) :
    (v.sendAll cs).statusCalls s on = v.statusCalls s on := by
  rw [sendAll_eq]
  rfl

theorem sendAll_append (cs ds : List Command) :
    v.sendAll (cs ++ ds) = (v.sendAll cs).sendAll ds :=
  List.foldl_append

theorem fitLarge_eq : v.fitLarge = v.sendAll v.fitLargeCalls := by
  unfold fitLarge fitLargeCalls
  simp only
  split <;> rfl

theorem fit_eq : v.fit = v.sendAll v.fitCalls := by
  unfold fit fitCalls
  split
  · exact fitLarge_eq v
  · rfl

theorem fitOrCenter_eq : v.fitOrCenter = v.sendAll v.fitOrCenterCalls := by
  unfold fitOrCenter fitOrCenterCalls
  split
  · exact fitLarge_eq v
  · rfl

theorem settle_of_pending (h : v.pending) :
    v.settle = (true, { v.sendAll (v.fitOrCenterCalls ++ [.setVisible true]) with
      pending := false }) := by
  rw [settle, if_pos h, fitOrCenter_eq]
  simp only [sendAll_eq, performAll_append]
  rfl

theorem settle_of_settled (h : v.pending = false) : v.settle = (false, v) := by
  rw [settle, h]
  rfl

theorem applyRecords_eq (records : List RunRecord) :
    v.applyRecords records =
      { v.sendAll (v.recordCalls records) with stamps := v.recordStamps records } := by
  unfold applyRecords recordCalls recordStamps
  simp only [sendAll_eq, performAll_append, List.map_map]
  rfl

theorem markStatus_eq (s : Status) (on : Bool) :
    v.markStatus s on = v.sendAll (v.statusCalls s on) :=
  rfl

theorem highlight_on_eq (s : Status) :
    v.highlight s true = { v.sendAll (v.highlightCalls s true) with highlighted := some s } := by
  unfold highlight highlightCalls switchCalls
  cases v.highlighted with
  | none => rfl
  | some old =>
    by_cases h : old = s
    · simp only [if_true, if_pos h, List.nil_append]
      rfl
    · simp only [if_true, if_neg h, markStatus_eq, sendAll_statusCalls, sendAll_append]

theorem highlight_off_eq (s : Status) :
    v.highlight s false = { v.sendAll (v.highlightCalls s false) with
      highlighted := if v.highlighted = some s then none else v.highlighted } := by
  unfold highlight highlightCalls
  simp only [Bool.false_eq_true, if_false, markStatus_eq, sendAll_highlighted]
  split
  · rfl
  · rw [sendAll_eq]

theorem refreshHighlight_eq : v.refreshHighlight = v.sendAll v.refreshCalls := by
  unfold refreshHighlight refreshCalls
  cases v.highlighted <;> rfl

/-- All that an operation does: it sends its calls and sets the stamps, the highlighted status
and the listener; settling is done with. -/
theorem Op.apply_eq (op : Op κ) :
    op.apply v = { v with
      screen := performAll (op.calls v) v.screen
      stamps := op.stamps v
      highlighted := op.highlighted v
      listener := op.listener v
      pending := !op.settles && v.pending } := by
  cases op with
  | settle =>
    cases h : v.pending with
    | true =>
      simp only [apply, calls, settle_of_pending v h, h, if_true, sendAll_eq]
      rfl
    | false =>
      simp only [apply, calls, settle_of_settled v h, h, Bool.false_eq_true, if_false]
      rw [Bool.and_false, ← h]
      rfl
  | fitOrCenter => rw [apply, fitOrCenter_eq, sendAll_eq]; rfl
  | fit => rw [apply, fit_eq, sendAll_eq]; rfl
  | zoomTo percent => rfl
  | resize size => rfl
  | applyRecords records => rw [apply, applyRecords_eq, sendAll_eq]; rfl
  | highlight s on =>
    cases on with
    | true => rw [apply, highlight_on_eq, sendAll_eq]; rfl
    | false => rw [apply, highlight_off_eq, sendAll_eq]; rfl
  | refreshHighlight => rw [apply, refreshHighlight_eq, sendAll_eq]; rfl
  | listen k => rfl
  | hover id shape => rfl

end

namespace Op

variable (op : Op κ) (v : View σ κ)

@[simp] theorem apply_screen : (op.apply v).screen = performAll (op.calls v) v.screen := by
  rw [apply_eq]

@[simp] theorem apply_graph : (op.apply v).graph = v.graph := by rw [apply_eq]
@[simp] theorem apply_config : (op.apply v).config = v.config := by rw [apply_eq]
@[simp] theorem apply_stamps : (op.apply v).stamps = op.stamps v := by rw [apply_eq]

@[simp] theorem apply_highlighted : (op.apply v).highlighted = op.highlighted v := by
  rw [apply_eq]

@[simp] theorem apply_pending : (op.apply v).pending = (!op.settles && v.pending) := by
  rw [apply_eq]

end Op

/-! ## Kinds of commands -/

section
variable (v : View σ κ)

/-- Fitting restyles nothing, and neither shows nor hides. -/
theorem fitLargeCalls_plain : ∀ c ∈ v.fitLargeCalls, c.isMark = false ∧ c.isStaging = false := by
  unfold fitLargeCalls
  simp only
  split <;> simp [Command.isMark, Command.isStaging]

theorem fitCalls_plain : ∀ c ∈ v.fitCalls, c.isMark = false ∧ c.isStaging = false := by
  unfold fitCalls
  split
  · exact v.fitLargeCalls_plain
  · simp [Command.isMark, Command.isStaging]

theorem fitOrCenterCalls_plain :
    ∀ c ∈ v.fitOrCenterCalls, c.isMark = false ∧ c.isStaging = false := by
  unfold fitOrCenterCalls
  split
  · exact v.fitLargeCalls_plain
  · simp [Command.isMark, Command.isStaging]

omit [Renderer σ] in
theorem recordCalls_isMark (records : List RunRecord) :
    ∀ c ∈ v.recordCalls records, c.isMark := by
  simp [recordCalls, markEdge, Command.isMark, or_imp, forall_and]

omit [Renderer σ] in
theorem statusCalls_isMark (s : Status) (on : Bool) : ∀ c ∈ v.statusCalls s on, c.isMark := by
  intro c hc
  obtain ⟨n, _, rfl⟩ := List.mem_map.mp hc
  rfl

omit [Renderer σ] in
theorem highlightCalls_isMark (s : Status) (on : Bool) :
    ∀ c ∈ v.highlightCalls s on, c.isMark := by
  have hswitch : ∀ c ∈ v.switchCalls s, c.isMark := by
    unfold switchCalls
    split
    · split
      · simp
      · exact v.statusCalls_isMark _ _
    · simp
  unfold highlightCalls
  split
  · intro c hc
    cases List.mem_append.mp hc with
    | inl h => exact hswitch c h
    | inr h => exact v.statusCalls_isMark s true c h
  · exact v.statusCalls_isMark s false

omit [Renderer σ] in
theorem refreshCalls_isMark : ∀ c ∈ v.refreshCalls, c.isMark := by
  unfold refreshCalls
  split <;> simp [Command.isMark]

/-- Operations send marks only, or none. -/
theorem Op.calls_isMark (op : Op κ) : ∀ c ∈ op.calls v, c.isMark = op.marks := by
  cases op with
  | settle =>
    intro c hc
    cases h : v.pending with
    | true =>
      simp only [calls, h, if_true, List.mem_append, List.mem_singleton] at hc
      cases hc with
      | inl hfit => exact (v.fitOrCenterCalls_plain c hfit).1
      | inr hshow => rw [hshow]; rfl
    | false => simp [calls, h] at hc
  | fitOrCenter => exact fun c hc => (v.fitOrCenterCalls_plain c hc).1
  | fit => exact fun c hc => (v.fitCalls_plain c hc).1
  | zoomTo percent => simp [calls, Command.isMark, marks]
  | resize size => simp [calls, Command.isMark, marks]
  | applyRecords records => exact v.recordCalls_isMark records
  | highlight s on => exact v.highlightCalls_isMark s on
  | refreshHighlight => exact v.refreshCalls_isMark
  | listen k => simp [calls]
  | hover id shape => simp [calls]

/-- No operation renders, destroys or hides, and only the first settling shows. -/
theorem Op.calls_staging (op : Op κ) :
    (op.calls v).filter Command.isStaging =
      if op.settles && v.pending then [.setVisible true] else [] := by
  have hplain {cs : List Command} (h : ∀ c ∈ cs, c.isStaging = false) :
      cs.filter Command.isStaging = [] := by simpa using h
  have hmarks (h : op.marks) : (op.calls v).filter Command.isStaging = [] :=
    hplain fun c hc => Command.isStaging_of_isMark ((op.calls_isMark v c hc).trans h)
  cases op with
  | settle =>
    cases h : v.pending with
    | true =>
      simp only [calls, h, if_true, List.filter_append,
        hplain fun c hc => (v.fitOrCenterCalls_plain c hc).2]
      rfl
    | false => simp [calls, h]
  | fitOrCenter => exact hplain fun c hc => (v.fitOrCenterCalls_plain c hc).2
  | fit => exact hplain fun c hc => (v.fitCalls_plain c hc).2
  | zoomTo percent => rfl
  | resize size => rfl
  | applyRecords records => exact hmarks rfl
  | highlight s on => exact hmarks rfl
  | refreshHighlight => exact hmarks rfl
  | listen k => rfl
  | hover id shape => rfl

end

/-! ## Runs and records -/

/-- The commands that a run of operations sends. -/
def runCalls (v : View σ κ) : List (Op κ) → List Command
  | [] => []
  | op :: ops => op.calls v ++ (op.apply v).runCalls ops

theorem run_screen (v : View σ κ) (ops : List (Op κ)) :
    (v.run ops).screen = performAll (v.runCalls ops) v.screen := by
  induction ops generalizing v with
  | nil => rfl
  | cons op ops ih => rw [run_cons, ih, op.apply_screen, runCalls, performAll_append]

theorem run_sent (v : View (Recorded σ) κ) (ops : List (Op κ)) :
    (v.run ops).screen.sent = v.screen.sent ++ v.runCalls ops := by
  rw [run_screen, Renderer.performAll_sent]

/-! ## Operations without marks -/

/-- From `v` to `w` no marks were sent, and the graph, the stamps and the highlighted status
are the same. -/
structure Unmarked (v w : View (Recorded σ) κ) : Prop where
  graph : w.graph = v.graph
  stamps : w.stamps = v.stamps
  highlighted : w.highlighted = v.highlighted
  sent : ∃ cs, w.screen.log = cs ++ v.screen.log ∧ ∀ i m, .mark i m ∉ cs

namespace Op

variable {op : Op κ} (hop : op.marks = false) (v : View σ κ)
include hop

omit [Renderer σ] in
theorem stamps_of_not_marks : op.stamps v = v.stamps := by
  cases op with
  | applyRecords records => cases hop
  | _ => rfl

omit [Renderer σ] in
theorem highlighted_of_not_marks : op.highlighted v = v.highlighted := by
  cases op with
  | highlight s on => cases hop
  | _ => rfl

end Op

theorem Op.unmarked (op : Op κ) (h : op.marks = false) (v : View (Recorded σ) κ) :
    Unmarked v (op.apply v) where
  graph := op.apply_graph v
  stamps := (op.apply_stamps v).trans (stamps_of_not_marks h v)
  highlighted := (op.apply_highlighted v).trans (highlighted_of_not_marks h v)
  sent := by
    refine ⟨(op.calls v).reverse, by rw [op.apply_screen, Renderer.performAll_recorded], ?_⟩
    intro i m hmem
    have hmark := op.calls_isMark v _ (List.mem_reverse.mp hmem)
    rw [h] at hmark
    cases hmark

end View
end TaskGraph
