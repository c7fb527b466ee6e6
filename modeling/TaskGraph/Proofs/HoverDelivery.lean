-- SUMMARY: When hovering gives the box of a node, what is in it, and which listener is told.
import TaskGraph.Proofs.Opening

/-!
# Delivery of hovering

Hovering is answered for the first node with an id, if it may be hovered over and its place is
known. The listener that was put in place last is told the answer, and it alone; without an
answer nobody is told. A view does not change by it, so that hovering can be left out of any run.
-/
namespace TaskGraph

/-! ## The node of an id -/

/-- The node is the first one with the id. -/
def Graph.First (g : Graph) (id : String) (n : Node) : Prop :=
  ∃ before after, g.nodes = before ++ n :: after ∧ n.id = id ∧ ∀ m ∈ before, m.id ≠ id

theorem Graph.node?_eq_some_iff {g : Graph} {id : String} {n : Node} :
    g.node? id = some n ↔ g.First id n := by
  simp only [node?, First, List.find?_eq_some_iff_append, beq_iff_eq, Bool.not_eq_true',
    beq_eq_false_iff_ne]
  constructor
  · rintro ⟨hid, before, after, hnodes, hbefore⟩
    exact ⟨before, after, hnodes, hid, hbefore⟩
  · rintro ⟨before, after, hnodes, hid, hbefore⟩
    exact ⟨hid, before, after, hnodes, hbefore⟩

theorem Graph.First.unique {g : Graph} {id : String} {m n : Node} (hm : g.First id m)
    (hn : g.First id n) : m = n := by
  rw [← Graph.node?_eq_some_iff] at hm hn
  exact Option.some.inj (hm.symm.trans hn)

namespace View

variable {σ κ : Type} [Renderer σ]

/-! ## Answers -/

section
variable (v : View σ κ)

/-- The shape of the node may be hovered over, and it is known where the node is. -/
structure Hoverable (n : Node) (shape : String) : Prop where
  kind : n.kind ≠ .join
  shape : ¬ animationMarker.toList <:+: shape.toList
  placed : (Renderer.position? v.screen n.id).isSome ∨ n.x.isSome ∧ n.y.isSome

/-- The answer for a node at a place on the canvas. -/
def infoAt (n : Node) (place : Point) : HoverInfo where
  id := n.id
  description := n.description
  kind := n.kind
  x := (Renderer.toClient v.screen place).x
  y := (Renderer.toClient v.screen place).y
  width := v.config.nodeSize.width * Renderer.zoom v.screen
  height := v.config.nodeSize.height * Renderer.zoom v.screen

omit [Renderer σ] in
theorem ownPosition_isSome {n : Node} : (ownPosition n).isSome ↔ n.x.isSome ∧ n.y.isSome := by
  unfold ownPosition
  cases n.x <;> cases n.y <;> simp

theorem position?_isSome {n : Node} :
    (v.position? n).isSome ↔
      (Renderer.position? v.screen n.id).isSome ∨ n.x.isSome ∧ n.y.isSome := by
  rw [position?, Option.isSome_or, Bool.or_eq_true, ownPosition_isSome]

theorem hoverInfo?_eq (id shape : String) :
    v.hoverInfo? id shape = (v.graph.node? id).bind fun n =>
      if n.kind = .join ∨ Text.hasPart animationMarker.toList shape.toList = true then none
      else (v.position? n).map (v.infoAt n) := by
  unfold hoverInfo?
  cases v.graph.node? id with
  | none => rfl
  | some n =>
    simp only [Option.bind_eq_bind, Option.bind_some, Bool.or_eq_true, decide_eq_true_iff]
    split
    · rfl
    · cases v.position? n <;> rfl

theorem hoverInfo?_eq_some_iff {id shape : String} {info : HoverInfo} :
    v.hoverInfo? id shape = some info ↔
      ∃ n place, v.graph.First id n ∧ v.Hoverable n shape ∧ v.position? n = some place ∧
        v.infoAt n place = info := by
  simp only [hoverInfo?_eq, Option.bind_eq_some_iff, Graph.node?_eq_some_iff]
  constructor
  · rintro ⟨n, hfirst, hinfo⟩
    split at hinfo
    · cases hinfo
    · rename_i hshown
      obtain ⟨place, hplace, rfl⟩ := Option.map_eq_some_iff.mp hinfo
      rw [Text.hasPart_iff_isInfix] at hshown
      obtain ⟨hkind, hshape⟩ := not_or.mp hshown
      have hplaced := v.position?_isSome.mp (Option.isSome_of_eq_some hplace)
      exact ⟨n, place, hfirst, ⟨hkind, hshape, hplaced⟩, hplace, rfl⟩
  · rintro ⟨n, place, hfirst, ⟨hkind, hshape, _⟩, hplace, rfl⟩
    refine ⟨n, hfirst, ?_⟩
    rw [← Text.hasPart_iff_isInfix] at hshape
    rw [if_neg (not_or.mpr ⟨hkind, hshape⟩), hplace, Option.map_some]

theorem hoverInfo?_isSome_iff {id shape : String} :
    (v.hoverInfo? id shape).isSome ↔ ∃ n, v.graph.First id n ∧ v.Hoverable n shape := by
  simp only [Option.isSome_iff_exists, hoverInfo?_eq_some_iff]
  constructor
  · rintro ⟨_, n, _, hfirst, hhover, _, _⟩
    exact ⟨n, hfirst, hhover⟩
  · rintro ⟨n, hfirst, hhover⟩
    obtain ⟨place, hplace⟩ := Option.isSome_iff_exists.mp (v.position?_isSome.mpr hhover.placed)
    exact ⟨_, n, place, hfirst, hhover, hplace, rfl⟩

theorem hover_eq (id shape : String) :
    v.hover id shape = (v.hoverInfo? id shape,
      (v.hoverInfo? id shape).toList.flatMap fun info => v.listener.toList.map (·, info)) := by
  unfold hover
  cases v.hoverInfo? id shape <;> cases v.listener <;> rfl

end

/-! ## Listeners -/

/-- The listener that an operation puts in place. -/
def Op.listener? : Op κ → Option κ
  | .listen k => some k
  | _ => none

/-- Whether the operation is hovering. -/
def Op.isHover : Op κ → Bool
  | .hover _ _ => true
  | _ => false

theorem Op.apply_listener (op : Op κ) (v : View σ κ) :
    (op.apply v).listener = op.listener?.or v.listener := by
  rw [op.apply_eq]
  cases op <;> rfl

/-- The view was reached, and the listeners `ks` were put in place on the way, in this order. -/
inductive ReachedWith (b : Backend σ) (options : ViewOptions) :
    List κ → View (Recorded σ) κ → Prop where
  | opened {v : View (Recorded σ) κ} (h : Opened b options v) : ReachedWith b options [] v
  | apply {ks : List κ} {v : View (Recorded σ) κ} (h : ReachedWith b options ks v) (op : Op κ) :
      ReachedWith b options (ks ++ op.listener?.toList) (op.apply v)
  | redraw {ks : List κ} {v : View (Recorded σ) κ} (h : ReachedWith b options ks v) (screen : σ) :
      ReachedWith b options ks { v with screen := { v.screen with screen } }

variable {b : Backend σ} {options : ViewOptions}

theorem ReachedWith.reachable {ks : List κ} {v : View (Recorded σ) κ}
    (h : ReachedWith b options ks v) : Reachable b options v := by
  induction h with
  | opened h => exact .opened h
  | apply _ op ih => exact ih.apply op
  | redraw _ screen ih => exact ih.redraw screen

theorem Reachable.exists_listeners {v : View (Recorded σ) κ} (h : Reachable b options v) :
    ∃ ks, ReachedWith b options ks v := by
  induction h with
  | opened h => exact ⟨[], .opened h⟩
  | apply _ op ih =>
    obtain ⟨ks, hks⟩ := ih
    exact ⟨_, hks.apply op⟩
  | redraw _ screen ih =>
    obtain ⟨ks, hks⟩ := ih
    exact ⟨ks, hks.redraw screen⟩

theorem Opened.listener {v : View (Recorded σ) κ} (h : Opened b options v) : v.listener = none := by
  obtain ⟨g, hg⟩ := h.exists_mount
  simp only [mount_eq] at hg
  generalize b.recorded.create g _ _ = made at hg
  cases made with
  | error e => cases hg
  | ok screen =>
    cases hg
    rfl

/-- The last listener is in place. -/
theorem ReachedWith.listener {ks : List κ} {v : View (Recorded σ) κ}
    (h : ReachedWith b options ks v) : v.listener = ks.getLast? := by
  induction h with
  | opened h => exact h.listener
  | apply _ op ih =>
    rw [op.apply_listener, ih]
    cases op.listener? <;> simp
  | redraw _ _ ih => exact ih

/-! ## Hovering in a run -/

/-- Without hovering a run leads to the same view and sends the same commands. -/
theorem run_filter_isHover (v : View σ κ) (ops : List (Op κ)) :
    v.run (ops.filter (!·.isHover)) = v.run ops ∧
      v.runCalls (ops.filter (!·.isHover)) = v.runCalls ops := by
  induction ops generalizing v with
  | nil => exact ⟨rfl, rfl⟩
  | cons op ops ih =>
    obtain ⟨hrun, hcalls⟩ := ih (op.apply v)
    cases op with
    | hover id shape => exact ⟨hrun, hcalls⟩
    | _ => exact ⟨hrun, congrArg (_ ++ ·) hcalls⟩

/-- Every reachable view is reached with some listeners. Hovering is answered exactly if the first
node with the id may be hovered over at the shape and its place is known. The answer is about that
node, and the last of the listeners is told it once, if there is one; without an answer nobody is
told. No hovering leaves a trace in a run. -/
theorem hover_delivered {v : View (Recorded σ) κ} (h : Reachable b options v) (id shape : String) :
    (∃ ks, ReachedWith b options ks v) ∧ ∀ ks, ReachedWith b options ks v →
      ((v.hover id shape).1.isSome ↔ ∃ n, v.graph.First id n ∧ v.Hoverable n shape) ∧
      (∀ info, (v.hover id shape).1 = some info →
        (∃ n place, v.graph.First id n ∧ v.position? n = some place ∧ info = v.infoAt n place) ∧
        (v.hover id shape).2 = ks.getLast?.toList.map (·, info)) ∧
      ((v.hover id shape).1 = none → (v.hover id shape).2 = []) ∧
      ∀ ops, v.run (ops.filter (!·.isHover)) = v.run ops ∧
        v.runCalls (ops.filter (!·.isHover)) = v.runCalls ops := by
  refine ⟨h.exists_listeners, ?_⟩
  intro ks hks
  rw [hover_eq, hks.listener]
  refine ⟨v.hoverInfo?_isSome_iff, ?_, ?_, v.run_filter_isHover⟩
  · intro info hinfo
    obtain ⟨n, place, hfirst, _, hplace, hat⟩ := v.hoverInfo?_eq_some_iff.mp hinfo
    refine ⟨⟨n, place, hfirst, hplace, hat.symm⟩, ?_⟩
    simp only at hinfo ⊢
    rw [hinfo, Option.toList_some, List.flatMap_singleton]
  · intro hnone
    simp only at hnone ⊢
    rw [hnone, Option.toList_none, List.flatMap_nil]

def placedTask : Node where
  id := "a"
  label := "a"
  description := "a task"
  kind := .task
  x := some 10
  y := some 20

/-- The id of the task is that of a join node too. -/
def placedGraph : Graph where
  origin := .workflow
  nodes := [placedTask, { id := "a", label := "", description := "", kind := .join }]
  edges := []

def placedView : View (Recorded EmptyScreen) Nat where
  screen := { screen := {}, log := [.render, .setVisible false] }
  graph := placedGraph
  layout := .choose .workflow 2 .horizontal
  config := {}

/-- Another listener takes the place of the first one. -/
def placedRun : List (Op Nat) := [.listen 1, .settle, .listen 2]

theorem hover_delivered_placed :
    ReachedWith EmptyScreen.backend {} [1, 2] (placedView.run placedRun) ∧
      (∃ info, (placedView.run placedRun).hover "a" "box" = (some info, [(2, info)]) ∧
        info.description = "a task") ∧
      (placedView.run placedRun).hover "a" "animate_dot" = (none, []) ∧
      (placedView.run placedRun).run [.hover "a" "box", .fit] =
        (placedView.run placedRun).run [.fit] := by
  have hreach : ReachedWith EmptyScreen.backend {} [1, 2] (placedView.run placedRun) :=
    (((ReachedWith.opened (.mount placedGraph rfl)).apply (.listen 1)).apply .settle).apply
      (.listen 2)
  have hfirst : placedGraph.First "a" placedTask := ⟨[], _, rfl, rfl, by simp⟩
  obtain ⟨hbox, htold, _, hrun⟩ := (hover_delivered hreach.reachable "a" "box").2 _ hreach
  obtain ⟨hdot, _, hsilent, _⟩ := (hover_delivered hreach.reachable "a" "animate_dot").2 _ hreach
  refine ⟨hreach, ?_, ?_, (hrun [.hover "a" "box", .fit]).1.symm⟩
  · have hsome := hbox.mpr ⟨placedTask, hfirst, by decide, by decide, .inr ⟨rfl, rfl⟩⟩
    obtain ⟨info, hinfo⟩ := Option.isSome_iff_exists.mp hsome
    obtain ⟨⟨n, place, hn, _, rfl⟩, hlast⟩ := htold info hinfo
    exact ⟨_, Prod.ext hinfo hlast, congrArg Node.description (hn.unique hfirst)⟩
  · have hnone : ((placedView.run placedRun).hover "a" "animate_dot").1 = none := by
      rw [← Option.not_isSome_iff_eq_none, hdot]
      rintro ⟨_, _, hhover⟩
      exact hhover.shape (by decide)
    exact Prod.ext hnone (hsilent hnone)

end View
end TaskGraph
