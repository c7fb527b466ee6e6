-- SUMMARY: Operations that move or size a view and operations that restyle it do not interfere.
import TaskGraph.Proofs.Highlight

/-!
# Separation of geometry and statuses

What the operations that fit, zoom, size and show a view send depends on the geometry that the
renderer shows, and what the others send depends on stamps and the highlighted status. If
restyling an item leaves the geometry alone, each of the two parts of a run can be deleted
without a trace in the other.
-/
namespace TaskGraph

/-- What a renderer shows, apart from styles. Where single nodes are is looked at by hovering
only, which sends nothing. -/
structure Geometry where
  zoom : Float
  width : Float
  height : Float
  centerPoint : Point
  boxes : List Box

namespace Renderer

variable {σ : Type} [Renderer σ]

def geometry (r : σ) : Geometry where
  zoom := zoom r
  width := width r
  height := height r
  centerPoint := centerPoint r
  boxes := boxes r

/-- The same geometry is shown now and after any further commands. -/
def SameGeometry (r s : σ) : Prop :=
  ∀ cs, geometry (performAll cs r) = geometry (performAll cs s)

/-- Restyling an item does not change the geometry, neither at once nor by what later commands
do to it. A view cannot see to that; it is the assumed behaviour of an external renderer, whose
states of items are for looks only. -/
def MarksKeepGeometry (σ : Type) [Renderer σ] : Prop :=
  ∀ (r : σ) (i : Item) (m : Mark), SameGeometry (perform (.mark i m) r) r

namespace SameGeometry

variable {r s t : σ}

theorem refl (r : σ) : SameGeometry r r := fun _ => rfl

theorem trans (h : SameGeometry r s) (h' : SameGeometry s t) : SameGeometry r t :=
  fun cs => (h cs).trans (h' cs)

theorem performAll (h : SameGeometry r s) (cs : List Command) :
    SameGeometry (Renderer.performAll cs r) (Renderer.performAll cs s) := by
  intro ds
  rw [← performAll_append, ← performAll_append]
  exact h (cs ++ ds)

theorem perform (h : SameGeometry r s) (c : Command) :
    SameGeometry (Renderer.perform c r) (Renderer.perform c s) :=
  h.performAll [c]

variable (h : SameGeometry r s)
include h

theorem geometry_eq : geometry r = geometry s := h []
theorem zoom_eq : zoom r = zoom s := congrArg Geometry.zoom h.geometry_eq
theorem width_eq : width r = width s := congrArg Geometry.width h.geometry_eq
theorem height_eq : height r = height s := congrArg Geometry.height h.geometry_eq
theorem centerPoint_eq : centerPoint r = centerPoint s :=
  congrArg Geometry.centerPoint h.geometry_eq
theorem boxes_eq : boxes r = boxes s := congrArg Geometry.boxes h.geometry_eq

end SameGeometry

namespace MarksKeepGeometry

theorem performAll (h : MarksKeepGeometry σ) {cs : List Command} (hcs : ∀ c ∈ cs, c.isMark)
    (r : σ) : SameGeometry (Renderer.performAll cs r) r := by
  refine performAll_keeps (p := (SameGeometry · r)) ?_ (.refl r)
  intro c hc s hs
  cases c with
  | mark i m => exact (h s i m).trans hs
  | _ => cases hcs _ hc

theorem recorded (h : MarksKeepGeometry σ) : MarksKeepGeometry (Recorded σ) := by
  intro r i m cs
  rw [performAll_recorded, performAll_recorded]
  exact h r.screen i m cs

/-- It is enough that some part of the renderer, which marks leave alone, determines both what
is shown and what commands make of this part. The part may be what is shown. -/
theorem of_part {γ : Type} (part : σ → γ)
    (hmark : ∀ r i m, part (perform (.mark i m) r) = part r)
    (hshown : ∀ r s, part r = part s → geometry r = geometry s)
    (hperform : ∀ c r s, part r = part s → part (perform c r) = part (perform c s)) :
    MarksKeepGeometry σ := by
  have hall (cs : List Command) (r s : σ) (h : part r = part s) :
      part (Renderer.performAll cs r) = part (Renderer.performAll cs s) := by
    induction cs generalizing r s with
    | nil => exact h
    | cons c cs ih => exact ih _ _ (hperform c r s h)
  intro r i m cs
  exact hshown _ _ (hall cs _ _ (hmark r i m))

end MarksKeepGeometry
end Renderer

namespace View

open Renderer (SameGeometry MarksKeepGeometry)

variable {σ κ : Type} [Renderer σ]

/-! ## Operations that move the content -/

/-- The operations that fit, zoom, size or show a view. -/
def Op.moves : Op κ → Bool
  | .settle | .fitOrCenter | .fit | .zoomTo _ | .resize _ => true
  | _ => false

/-- What these operations depend on is the same in two views. -/
structure SameFrame (v w : View σ κ) : Prop where
  screen : SameGeometry v.screen w.screen
  config : v.config = w.config
  pending : v.pending = w.pending

namespace SameFrame

variable {v w : View σ κ}

section
variable (h : SameFrame v w)
include h

theorem overflows_eq (ratio : Float) : v.overflows ratio = w.overflows ratio := by
  simp only [overflows, h.screen.width_eq, h.screen.height_eq, h.screen.boxes_eq]

theorem fitLargeCalls_eq : v.fitLargeCalls = w.fitLargeCalls := by
  simp only [fitLargeCalls, h.config, h.overflows_eq, (h.screen.perform .center).centerPoint_eq]

theorem fitOrCenterCalls_eq : v.fitOrCenterCalls = w.fitOrCenterCalls := by
  simp only [fitOrCenterCalls, h.overflows_eq, h.fitLargeCalls_eq]

theorem calls_eq {op : Op κ} (hop : op.moves) : op.calls v = op.calls w := by
  cases op with
  | settle => simp only [Op.calls, h.pending, h.fitOrCenterCalls_eq]
  | fitOrCenter => exact h.fitOrCenterCalls_eq
  | fit => simp only [Op.calls, fitCalls, h.overflows_eq, h.fitLargeCalls_eq]
  | zoomTo percent => simp only [Op.calls, h.screen.centerPoint_eq]
  | resize size => rfl
  | _ => cases hop

theorem apply {op : Op κ} (hop : op.moves) : SameFrame (op.apply v) (op.apply w) where
  screen := by
    rw [op.apply_screen, op.apply_screen, h.calls_eq hop]
    exact h.screen.performAll _
  config := by rw [op.apply_config, op.apply_config, h.config]
  pending := by rw [op.apply_pending, op.apply_pending, h.pending]

end

theorem refl (v : View σ κ) : SameFrame v v := ⟨.refl v.screen, rfl, rfl⟩

end SameFrame

theorem Op.calls_isMark_of_moves {op : Op κ} (hop : op.moves = false) (v : View σ κ) :
    ∀ c ∈ op.calls v, c.isMark := by
  cases op with
  | applyRecords records => exact v.recordCalls_isMark records
  | highlight s on => exact v.highlightCalls_isMark s on
  | refreshHighlight => exact v.refreshCalls_isMark
  | listen k => simp [calls]
  | hover id shape => simp [calls]
  | _ => cases hop

theorem Op.settles_of_moves {op : Op κ} (hop : op.moves = false) : op.settles = false := by
  cases op with
  | settle => cases hop
  | _ => rfl

/-- The other operations leave the frame alone. -/
theorem SameFrame.apply_left (hmarks : MarksKeepGeometry σ) {v w : View σ κ} (h : SameFrame v w)
    {op : Op κ} (hop : op.moves = false) : SameFrame (op.apply v) w where
  screen := by
    rw [op.apply_screen]
    exact (hmarks.performAll (Op.calls_isMark_of_moves hop v) _).trans h.screen
  config := by rw [op.apply_config, h.config]
  pending := by rw [op.apply_pending, Op.settles_of_moves hop, h.pending]; rfl

/-- Without the other operations a run sends the same commands but marks. -/
theorem SameFrame.run (hmarks : MarksKeepGeometry σ) {v w : View σ κ} (h : SameFrame v w)
    (ops : List (Op κ)) :
    SameFrame (v.run ops) (w.run (ops.filter Op.moves)) ∧
      (v.runCalls ops).filter (!·.isMark) =
        (w.runCalls (ops.filter Op.moves)).filter (!·.isMark) := by
  induction ops generalizing v w with
  | nil => exact ⟨h, rfl⟩
  | cons op ops ih =>
    cases hop : op.moves with
    | true =>
      obtain ⟨hframe, hcalls⟩ := ih (h.apply hop)
      rw [List.filter_cons_of_pos hop]
      refine ⟨hframe, ?_⟩
      rw [runCalls, runCalls, List.filter_append, List.filter_append, h.calls_eq hop, hcalls]
    | false =>
      obtain ⟨hframe, hcalls⟩ := ih (h.apply_left hmarks hop)
      have hnone : (op.calls v).filter (!·.isMark) = [] := by
        simpa using Op.calls_isMark_of_moves hop v
      rw [List.filter_cons_of_neg (by simp [hop])]
      refine ⟨hframe, ?_⟩
      rw [runCalls, List.filter_append, hnone, hcalls, List.nil_append]

/-! ## Operations that restyle the content -/

/-- What stamping and highlighting depend on is the same in two views. -/
structure SameStatuses (v w : View σ κ) : Prop where
  graph : v.graph = w.graph
  stamps : v.stamps = w.stamps
  highlighted : v.highlighted = w.highlighted

namespace SameStatuses

variable {v w : View σ κ} (h : SameStatuses v w)
include h

omit [Renderer σ] in
theorem taskNodes_eq : v.taskNodes = w.taskNodes := by rw [taskNodes, taskNodes, h.graph]

omit [Renderer σ] in
theorem status?_eq (id : String) : v.status? id = w.status? id := by
  rw [status?, status?, h.stamps]

omit [Renderer σ] in
theorem recordStamps_eq (records : List RunRecord) :
    v.recordStamps records = w.recordStamps records := by
  rw [recordStamps, recordStamps, h.taskNodes_eq, h.stamps]

omit [Renderer σ] in
theorem recordCalls_eq (records : List RunRecord) :
    v.recordCalls records = w.recordCalls records := by
  simp only [recordCalls, h.taskNodes_eq, h.graph, h.recordStamps_eq]
  rfl

omit [Renderer σ] in
theorem statusCalls_eq (s : Status) (on : Bool) : v.statusCalls s on = w.statusCalls s on := by
  simp only [statusCalls, h.taskNodes_eq, h.status?_eq]

omit [Renderer σ] in
theorem highlightCalls_eq (s : Status) (on : Bool) :
    v.highlightCalls s on = w.highlightCalls s on := by
  simp only [highlightCalls, switchCalls, h.highlighted, h.statusCalls_eq]

omit [Renderer σ] in
theorem refreshCalls_eq : v.refreshCalls = w.refreshCalls := by
  simp only [refreshCalls, h.highlighted, h.taskNodes_eq, h.status?_eq]

theorem calls_eq {op : Op κ} (hop : op.marks) : op.calls v = op.calls w := by
  cases op with
  | applyRecords records => exact h.recordCalls_eq records
  | highlight s on => exact h.highlightCalls_eq s on
  | refreshHighlight => exact h.refreshCalls_eq
  | _ => cases hop

theorem apply {op : Op κ} (hop : op.marks) : SameStatuses (op.apply v) (op.apply w) where
  graph := by rw [op.apply_graph, op.apply_graph, h.graph]
  stamps := by
    rw [op.apply_stamps, op.apply_stamps]
    cases op with
    | applyRecords records => exact h.recordStamps_eq records
    | highlight s on => exact h.stamps
    | refreshHighlight => exact h.stamps
    | _ => cases hop
  highlighted := by
    rw [op.apply_highlighted, op.apply_highlighted]
    cases op with
    | applyRecords records => exact h.highlighted
    | highlight s on => simp only [Op.highlighted, h.highlighted]
    | refreshHighlight => exact h.highlighted
    | _ => cases hop

/-- The other operations leave the statuses alone. -/
theorem apply_left {op : Op κ} (hop : op.marks = false) : SameStatuses (op.apply v) w where
  graph := by rw [op.apply_graph, h.graph]
  stamps := by rw [op.apply_stamps, Op.stamps_of_not_marks hop, h.stamps]
  highlighted := by rw [op.apply_highlighted, Op.highlighted_of_not_marks hop, h.highlighted]

end SameStatuses

/-- Without the other operations a run sends the same marks. -/
theorem SameStatuses.run {v w : View σ κ} (h : SameStatuses v w) (ops : List (Op κ)) :
    SameStatuses (v.run ops) (w.run (ops.filter Op.marks)) ∧
      (v.runCalls ops).filter Command.isMark =
        (w.runCalls (ops.filter Op.marks)).filter Command.isMark := by
  induction ops generalizing v w with
  | nil => exact ⟨h, rfl⟩
  | cons op ops ih =>
    cases hop : op.marks with
    | true =>
      obtain ⟨hstatuses, hcalls⟩ := ih (h.apply hop)
      rw [List.filter_cons_of_pos hop]
      refine ⟨hstatuses, ?_⟩
      rw [runCalls, runCalls, List.filter_append, List.filter_append, h.calls_eq hop, hcalls]
    | false =>
      obtain ⟨hstatuses, hcalls⟩ := ih (h.apply_left hop)
      have hnone : (op.calls v).filter Command.isMark = [] := by
        simpa [hop] using op.calls_isMark v
      rw [List.filter_cons_of_neg (by simp [hop])]
      refine ⟨hstatuses, ?_⟩
      rw [runCalls, List.filter_append, hnone, hcalls, List.nil_append]

/-! ## Deleting one part of a run -/

/-- Two views were sent the same commands but marks and agree on zoom, size and whether they
are yet to be settled. -/
structure SameMoves (v w : View (Recorded σ) κ) : Prop where
  sent : v.screen.sent.filter (!·.isMark) = w.screen.sent.filter (!·.isMark)
  zoom : v.zoom = w.zoom
  width : Renderer.width v.screen = Renderer.width w.screen
  height : Renderer.height v.screen = Renderer.height w.screen
  pending : v.pending = w.pending

/-- Two views were sent the same marks and agree on the status of each node and on the
highlighted status. -/
structure SameMarks (v w : View (Recorded σ) κ) : Prop where
  sent : v.screen.sent.filter Command.isMark = w.screen.sent.filter Command.isMark
  status? : ∀ id, v.status? id = w.status? id
  highlighted : v.highlighted = w.highlighted

/-- On a renderer whose geometry is left alone by marks, deleting all operations on statuses and
hovering from a run changes nothing that the others send and nothing of zoom and size; deleting
all operations that move and all hovering changes no marks and no statuses. -/
theorem run_separate (hmarks : MarksKeepGeometry σ) (v : View (Recorded σ) κ)
    (ops : List (Op κ)) :
    SameMoves (v.run ops) (v.run (ops.filter Op.moves)) ∧
      SameMarks (v.run ops) (v.run (ops.filter Op.marks)) := by
  constructor
  · obtain ⟨hframe, hcalls⟩ := (SameFrame.refl v).run hmarks.recorded ops
    exact {
      sent := by rw [run_sent, run_sent, List.filter_append, List.filter_append, hcalls]
      zoom := by rw [zoom, zoom, hframe.screen.zoom_eq]
      width := hframe.screen.width_eq
      height := hframe.screen.height_eq
      pending := hframe.pending }
  · obtain ⟨hstatuses, hcalls⟩ := SameStatuses.run (v := v) ⟨rfl, rfl, rfl⟩ ops
    exact {
      sent := by rw [run_sent, run_sent, List.filter_append, List.filter_append, hcalls]
      status? := hstatuses.status?_eq
      highlighted := hstatuses.highlighted }

/-- A screen with one box on it that remembers how items are styled. -/
structure StyledScreen where
  zoom : Float := 1
  size : Extent := {}
  styles : List (Item × Mark) := []

def StyledScreen.content : Box := { maxX := 400, maxY := 300 }

instance : Renderer StyledScreen where
  perform
    | .resize size, r => { r with size }
    | .zoomTo ratio _, r => { r with zoom := ratio }
    | .fit, r => { r with zoom := r.size.width / StyledScreen.content.width }
    | .mark i m, r => { r with styles := (i, m) :: r.styles }
    | _, r => r
  zoom r := r.zoom
  width r := r.size.width
  height r := r.size.height
  centerPoint r := { x := r.size.width / 2, y := r.size.height / 2 }
  boxes _ := [StyledScreen.content]
  position? _ _ := none
  toClient _ p := p

def StyledScreen.backend : Backend StyledScreen where
  create _ _ size := .ok { size }

theorem StyledScreen.marksKeepGeometry : MarksKeepGeometry StyledScreen := by
  refine .of_part (fun r => (r.zoom, r.size)) (fun _ _ _ => rfl) ?_ ?_
  · rintro ⟨zoom, size, _⟩ ⟨_, _, _⟩ h
    obtain ⟨rfl, rfl⟩ := Prod.mk.inj h
    rfl
  · rintro c ⟨zoom, size, _⟩ ⟨_, _, _⟩ h
    obtain ⟨rfl, rfl⟩ := Prod.mk.inj h
    cases c <;> rfl

/-- Two tasks on a viewport that is too small for the content at natural size. -/
def styledView : View (Recorded StyledScreen) Unit where
  screen := { screen := { size := { width := 200, height := 150 } },
              log := [.render, .setVisible false] }
  graph := pair
  layout := .choose .pipeline 2 .horizontal
  config := {}

theorem run_separate_styled :
    MarksKeepGeometry StyledScreen ∧
      mount StyledScreen.backend.recorded { viewport := { width := 200, height := 150 } } pair =
        .ok styledView ∧
      SameMoves
        (styledView.run [.settle, .applyRecords [{ node := "a", status := .running }],
          .zoomTo 150, .highlight .running true, .hover "a" "box", .fit])
        (styledView.run [.settle, .zoomTo 150, .fit]) ∧
      SameMarks
        (styledView.run [.settle, .applyRecords [{ node := "a", status := .running }],
          .zoomTo 150, .highlight .running true, .hover "a" "box", .fit])
        (styledView.run [.applyRecords [{ node := "a", status := .running }],
          .highlight .running true]) := by
  obtain ⟨hmoves, hmarks⟩ := run_separate StyledScreen.marksKeepGeometry styledView
    [.settle, .applyRecords [{ node := "a", status := .running }], .zoomTo 150,
      .highlight .running true, .hover "a" "box", .fit]
  exact ⟨StyledScreen.marksKeepGeometry, rfl, hmoves, hmarks⟩

end View
end TaskGraph
