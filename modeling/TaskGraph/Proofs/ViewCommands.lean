-- SUMMARY: What sending commands changes in a view, and the view that was just mounted.
import TaskGraph.View.Session

/-!
# Commands of a view

Sending commands changes nothing in a view but its screen. A view that was just mounted was sent
two commands, and nothing in it is stamped or highlighted.
-/
namespace TaskGraph

namespace Renderer

variable {σ : Type} [Renderer σ]

/-- The screen after a list of commands. -/
def performAll (cs : List Command) (r : σ) : σ := cs.foldl (fun r c => perform c r) r

theorem performAll_append (cs ds : List Command) (r : σ) :
    performAll (cs ++ ds) r = performAll ds (performAll cs r) :=
  List.foldl_append

/-- A list of commands keeps what each of them keeps. -/
theorem performAll_keeps {p : σ → Prop} {cs : List Command}
    (h : ∀ c ∈ cs, ∀ r, p r → p (perform c r)) {r : σ} (hr : p r) : p (performAll cs r) := by
  induction cs generalizing r with
  | nil => exact hr
  | cons c cs ih =>
    rw [List.forall_mem_cons] at h
    exact ih h.2 (h.1 r hr)

/-- A record grows by the commands, and the screen beside it performs them. -/
theorem performAll_recorded (cs : List Command) (r : Recorded σ) :
    performAll cs r = { screen := performAll cs r.screen, log := cs.reverse ++ r.log } := by
  induction cs generalizing r with
  | nil => rfl
  | cons c cs ih =>
    rw [List.reverse_cons, List.append_assoc]
    exact ih (perform c r)

theorem performAll_sent (cs : List Command) (r : Recorded σ) :
    (performAll cs r).sent = r.sent ++ cs := by
  rw [performAll_recorded, Recorded.sent, List.reverse_append, List.reverse_reverse, Recorded.sent]

end Renderer

namespace View

open Renderer (performAll)

variable {σ κ : Type}

/-! ## Sending -/

section
variable [Renderer σ] (v : View σ κ)

theorem sendAll_eq (cs : List Command) :
    v.sendAll cs = { v with screen := performAll cs v.screen } := by
  induction cs generalizing v with
  | nil => rfl
  | cons c cs ih => exact ih (v.send c)

variable (cs : List Command)

@[simp] theorem sendAll_graph : (v.sendAll cs).graph = v.graph := by rw [sendAll_eq]
@[simp] theorem sendAll_stamps : (v.sendAll cs).stamps = v.stamps := by rw [sendAll_eq]
@[simp] theorem sendAll_highlighted : (v.sendAll cs).highlighted = v.highlighted := by
  rw [sendAll_eq]

end

/-- What was sent stands in the record, latest first. -/
theorem sendAll_log [Renderer σ] (v : View (Recorded σ) κ) (cs : List Command) :
    (v.sendAll cs).screen.log = cs.reverse ++ v.screen.log := by
  rw [sendAll_eq, Renderer.performAll_recorded]

/-! ## Runs and mounted views -/

/-- The operations that stamp or highlight nodes. -/
def Op.marks : Op κ → Bool
  | .applyRecords _ | .highlight _ _ | .refreshHighlight => true
  | _ => false

variable [Renderer σ]

@[simp] theorem run_append (v : View σ κ) (ops ops' : List (Op κ)) :
    v.run (ops ++ ops') = (v.run ops).run ops' :=
  List.foldl_append

/-- A view that was just mounted has no stamps and no highlight, is yet to be settled, and was
sent no marks. -/
theorem mount_eq_ok {b : Backend σ} {options : ViewOptions} {g : Graph} {v : View (Recorded σ) κ}
    (h : mount b.recorded options g = .ok v) :
    v.graph = g ∧ v.stamps = [] ∧ v.highlighted = none ∧ v.pending = true ∧
      v.screen.log = [.render, .setVisible false] := by
  unfold mount Backend.recorded at h
  simp only at h
  cases hb : b.create g (Layout.choose g.origin g.nodes.length options.orientation)
      options.viewport with
  | error e => simp [hb, Except.map, bind, Except.bind] at h
  | ok screen =>
    simp only [hb, Except.map, bind, Except.bind, pure, Except.pure, Except.ok.injEq] at h
    subst h
    exact ⟨rfl, rfl, rfl, rfl, rfl⟩

/-! ## A screen -/

/-- A screen that keeps its zoom and its size, and on which nothing is laid out. -/
structure EmptyScreen where
  zoom : Float := 1
  size : Extent := {}

instance : Renderer EmptyScreen where
  perform
    | .resize size, r => { r with size }
    | .zoomTo ratio _, r => { r with zoom := ratio }
    | _, r => r
  zoom r := r.zoom
  width r := r.size.width
  height r := r.size.height
  centerPoint r := { x := r.size.width / 2, y := r.size.height / 2 }
  boxes _ := []
  position? _ _ := none
  toClient _ p := p

def EmptyScreen.backend : Backend EmptyScreen where
  create _ _ size := .ok { size }

end View
end TaskGraph
