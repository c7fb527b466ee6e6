-- SUMMARY: A view is opened hidden and shown once, by its first settling; what a failed opening asks of the host.
import TaskGraph.Proofs.Highlight

/-!
# Opening and settling

A view that was opened was sent to hide and to render. Whatever is done with it then, it is shown
once, by the first settling, right after this has fitted the content, and nothing hides, renders or
destroys it. To tell what is asked of a host even when no view comes out of it, opening is also
given over any host, and compared on a host that takes notes.
-/
namespace TaskGraph.View

variable {σ κ : Type} [Renderer σ]

/-! ## Opening -/

/-- The view that a host has made and hidden, and that was rendered. -/
theorem mount_eq (b : Backend σ) (options : ViewOptions) (g : Graph) :
    let layout := Layout.choose g.origin g.nodes.length options.orientation
    (mount b options g : Except RenderError (View σ κ)) =
      (b.create g layout options.viewport).map fun screen =>
        ({ screen, graph := g, layout, config := options.config } : View σ κ).sendAll
          [.setVisible false, .render] := by
  unfold mount
  simp only
  cases b.create g (Layout.choose g.origin g.nodes.length options.orientation)
    options.viewport <;> rfl

theorem openText_eq (b : Backend σ) (options : ViewOptions) (c : Compiler)
    (launch : Option Launch) (text : Option String) :
    (openText b options c launch text : Except ViewError (View σ κ)) =
      match c.compileText launch text with
      | .error e => .error (.document e)
      | .ok g => (mount b options g).mapError .render := by
  unfold openText
  cases c.compileText launch text <;> rfl

theorem mapError_eq_ok_iff {ε ε' α : Type} {x : Except ε α} {f : ε → ε'} {a : α} :
    x.mapError f = .ok a ↔ x = .ok a := by
  cases x <;> simp [Except.mapError]

/-- The view was mounted or opened from a text. -/
inductive Opened (b : Backend σ) (options : ViewOptions) (v : View (Recorded σ) κ) : Prop where
  | mount (g : Graph) (h : View.mount b.recorded options g = .ok v)
  | openText (c : Compiler) (launch : Option Launch) (text : Option String)
      (h : View.openText b.recorded options c launch text = .ok v)

theorem Opened.exists_mount {b : Backend σ} {options : ViewOptions} {v : View (Recorded σ) κ}
    (h : Opened b options v) : ∃ g, View.mount b.recorded options g = .ok v := by
  cases h with
  | mount g h => exact ⟨g, h⟩
  | openText c launch text h =>
    rw [openText_eq] at h
    cases hg : c.compileText launch text with
    | error e => simp [hg] at h
    | ok g =>
      simp only [hg] at h
      exact ⟨g, mapError_eq_ok_iff.mp h⟩

theorem Opened.pending {b : Backend σ} {options : ViewOptions} {v : View (Recorded σ) κ}
    (h : Opened b options v) : v.pending = true := by
  obtain ⟨g, hg⟩ := h.exists_mount
  obtain ⟨_, _, _, hpending, _⟩ := mount_eq_ok hg
  exact hpending

theorem Opened.sent {b : Backend σ} {options : ViewOptions} {v : View (Recorded σ) κ}
    (h : Opened b options v) : v.screen.sent = [.setVisible false, .render] := by
  obtain ⟨g, hg⟩ := h.exists_mount
  obtain ⟨_, _, _, _, hlog⟩ := mount_eq_ok hg
  rw [Recorded.sent, hlog]
  rfl

/-- The view was opened, and then operations were applied to it, while its renderer may have
changed by itself or been changed by the host. -/
inductive Reachable (b : Backend σ) (options : ViewOptions) : View (Recorded σ) κ → Prop where
  | opened {v : View (Recorded σ) κ} (h : Opened b options v) : Reachable b options v
  | apply {v : View (Recorded σ) κ} (h : Reachable b options v) (op : Op κ) :
      Reachable b options (op.apply v)
  | redraw {v : View (Recorded σ) κ} (h : Reachable b options v) (screen : σ) :
      Reachable b options { v with screen := { v.screen with screen } }

theorem Reachable.run {b : Backend σ} {options : ViewOptions} {v : View (Recorded σ) κ}
    (h : Reachable b options v) (ops : List (Op κ)) : Reachable b options (v.run ops) := by
  induction ops generalizing v with
  | nil => exact h
  | cons op ops ih => exact ih (h.apply op)

/-! ## Runs -/

theorem run_pending (v : View σ κ) (ops : List (Op κ)) :
    (v.run ops).pending = (!ops.any Op.settles && v.pending) := by
  induction ops generalizing v with
  | nil => rfl
  | cons op ops ih =>
    rw [run_cons, ih, op.apply_pending, List.any_cons, Bool.not_or, Bool.and_left_comm,
      Bool.and_assoc]

/-- A run shows a view that is yet to be settled once, if it settles it, and no other. -/
theorem runCalls_staging (v : View σ κ) (ops : List (Op κ)) :
    (v.runCalls ops).filter Command.isStaging =
      if ops.any Op.settles && v.pending then [.setVisible true] else [] := by
  induction ops generalizing v with
  | nil => rfl
  | cons op ops ih =>
    rw [runCalls, List.filter_append, op.calls_staging, ih, op.apply_pending, List.any_cons]
    cases op.settles <;> cases v.pending <;> simp

theorem any_settles_iff (ops : List (Op κ)) : ops.any Op.settles = true ↔ Op.settle ∈ ops := by
  simp [Op.settles_iff]

/-- What showing and hiding a run of operations on an opened view amounts to. -/
structure ShownOnce (v : View (Recorded σ) κ) (ops : List (Op κ)) : Prop where
  /-- First the view was hidden and rendered. -/
  opening : [.setVisible false, .render] <+: (v.run ops).screen.sent
  pending : (v.run ops).pending = true ↔ Op.settle ∉ ops
  /-- The first settling is told apart. -/
  first : Op.settle ∉ ops → (v.run ops).settle.1 = true
  /-- Later ones do nothing. -/
  again : Op.settle ∈ ops → (v.run ops).settle = (false, v.run ops)
  hidden : Op.settle ∉ ops →
    (v.run ops).screen.sent.filter Command.isStaging = [.setVisible false, .render]
  shown : Op.settle ∈ ops →
    (v.run ops).screen.sent.filter Command.isStaging =
      [.setVisible false, .render, .setVisible true]
  /-- The view is shown right after the first settling has fitted the content. -/
  place : ∀ before after, ops = before ++ .settle :: after → Op.settle ∉ before →
    (v.run before).fitOrCenter.screen.sent ++ [.setVisible true] <+: (v.run ops).screen.sent

theorem shownOnce_run {v : View (Recorded σ) κ} (hpending : v.pending = true)
    (hsent : v.screen.sent = [.setVisible false, .render]) (ops : List (Op κ)) :
    ShownOnce v ops := by
  have hrun (ops : List (Op κ)) : (v.run ops).pending = true ↔ Op.settle ∉ ops := by
    rw [run_pending, hpending, ← any_settles_iff]
    simp
  have hstaging : (v.run ops).screen.sent.filter Command.isStaging =
      [.setVisible false, .render] ++
        if ops.any Op.settles then [.setVisible true] else [] := by
    rw [run_sent, hsent, List.filter_append, runCalls_staging, hpending, Bool.and_true]
    rfl
  exact {
    opening := by
      rw [run_sent, hsent]
      exact List.prefix_append _ _
    pending := hrun ops
    first := by
      intro hnone
      rw [settle_of_pending _ ((hrun ops).mpr hnone)]
    again := by
      intro hsome
      refine settle_of_settled _ ?_
      rw [← Bool.not_eq_true, hrun ops]
      exact not_not_intro hsome
    hidden := by
      intro hnone
      rw [hstaging, if_neg (by rwa [any_settles_iff])]
      rfl
    shown := by
      intro hsome
      rw [hstaging, if_pos ((any_settles_iff ops).mpr hsome)]
      rfl
    place := by
      rintro before after rfl hbefore
      have hcalls : Op.settle.calls (v.run before) =
          (v.run before).fitOrCenterCalls ++ [.setVisible true] :=
        if_pos ((hrun before).mpr hbefore)
      rw [run_append, run_cons, run_sent, Op.apply_screen, hcalls, Renderer.performAll_sent,
        fitOrCenter_eq, sendAll_eq, Renderer.performAll_sent, ← List.append_assoc]
      exact List.prefix_append _ _ }

/-! ## Opening over a host -/

/-- Makes and drives renderers with effects `m`. -/
structure Host (m : Type → Type) (σ : Type) where
  create : Graph → Layout → Extent → ExceptT RenderError m σ
  perform : Command → σ → m σ

section
variable {m : Type → Type} [Monad m]

omit [Renderer σ] in
/-- `mount`, with the requests to the host in their order. -/
def mountOn (host : Host m σ) (options : ViewOptions) (g : Graph) :
    ExceptT RenderError m (View σ κ) := do
  let layout := Layout.choose g.origin g.nodes.length options.orientation
  let screen ← host.create g layout options.viewport
  let screen ← host.perform (.setVisible false) screen
  let screen ← host.perform .render screen
  return { screen, graph := g, layout, config := options.config }

omit [Renderer σ] in
/-- `openText`, with the requests to the host in their order. -/
def openTextOn (host : Host m σ) (options : ViewOptions) (c : Compiler) (launch : Option Launch)
    (text : Option String) : ExceptT ViewError m (View σ κ) :=
  match c.compileText launch text with
  | .error e => throw (.document e)
  | .ok g => (mountOn host options g).adapt .render

end

/-- What a host is asked for. -/
inductive Request where
  | create (g : Graph) (layout : Layout) (size : Extent)
  | perform (c : Command)

/-- A host that notes what it is asked for. -/
def Host.noting (b : Backend σ) : Host (StateM (List Request)) σ where
  create g layout size := do
    modify (· ++ [.create g layout size])
    liftM (b.create g layout size)
  perform c r := do
    modify (· ++ [.perform c])
    return Renderer.perform c r

/-- What mounting a graph asks for: the renderer, and if there is one, that it hides and
renders. -/
def mountRequests (b : Backend σ) (options : ViewOptions) (g : Graph) : List Request :=
  let layout := Layout.choose g.origin g.nodes.length options.orientation
  .create g layout options.viewport ::
    match b.create g layout options.viewport with
    | .error _ => []
    | .ok _ => [.perform (.setVisible false), .perform .render]

/-- What opening a text asks for: nothing unless it compiles. -/
def openRequests (b : Backend σ) (options : ViewOptions) (c : Compiler) (launch : Option Launch)
    (text : Option String) : List Request :=
  match c.compileText launch text with
  | .error _ => []
  | .ok g => mountRequests b options g

theorem mountOn_noting (b : Backend σ) (options : ViewOptions) (g : Graph) :
    (mountOn (.noting b) options g : ExceptT _ _ (View σ κ)).run.run [] =
      (mount b options g, mountRequests b options g) := by
  rw [mount_eq]
  unfold mountOn Host.noting mountRequests
  simp only
  cases b.create g (Layout.choose g.origin g.nodes.length options.orientation)
    options.viewport <;> rfl

theorem openTextOn_noting (b : Backend σ) (options : ViewOptions) (c : Compiler)
    (launch : Option Launch) (text : Option String) :
    (openTextOn (.noting b) options c launch text : ExceptT _ _ (View σ κ)).run.run [] =
      (openText b options c launch text, openRequests b options c launch text) := by
  rw [openText_eq]
  unfold openTextOn openRequests
  cases c.compileText launch text with
  | error e => rfl
  | ok g =>
    simp only [ExceptT.run_adapt, StateT.run_map, mountOn_noting]
    rfl

/-! ## Hidden until settled -/

/-- However a view was opened and whatever was done with it, it was hidden and rendered first and
then shown once, by the first settling, or not at all. A text that does not compile is not shown
to the host, and a host that makes no renderer is asked for nothing else. -/
theorem hidden_until_settled (b : Backend σ) (options : ViewOptions) :
    (∀ v : View (Recorded σ) κ, Opened b options v → ∀ ops, ShownOnce v ops) ∧
    (∀ c launch text e, c.compileText launch text = .error e →
      (openTextOn (.noting b) options c launch text : ExceptT _ _ (View σ κ)).run.run [] =
        (.error (.document e), [])) ∧
    ∀ g e, let layout := Layout.choose g.origin g.nodes.length options.orientation
      b.create g layout options.viewport = .error e →
      (mountOn (.noting b) options g : ExceptT _ _ (View σ κ)).run.run [] =
        (.error e, [.create g layout options.viewport]) ∧
      ∀ c launch text, c.compileText launch text = .ok g →
        (openTextOn (.noting b) options c launch text : ExceptT _ _ (View σ κ)).run.run [] =
          (.error (.render e), [.create g layout options.viewport]) := by
  refine ⟨?_, ?_, ?_⟩
  · intro v hv ops
    exact shownOnce_run hv.pending hv.sent ops
  · intro c launch text e he
    rw [openTextOn_noting, openText_eq, openRequests, he]
  · intro g e layout he
    have hmount : (mount b options g : Except RenderError (View σ κ)) = .error e := by
      rw [mount_eq]
      simp only [layout] at he
      simp only [he]
      rfl
    have hrequests : mountRequests b options g = [.create g layout options.viewport] := by
      simp only [mountRequests, layout] at he ⊢
      simp only [he]
    refine ⟨by rw [mountOn_noting, hmount, hrequests], ?_⟩
    intro c launch text hg
    rw [openTextOn_noting, openText_eq, openRequests]
    simp only [hg, hmount, hrequests]
    rfl

/-- A backend that makes no renderer for a graph without nodes. -/
def selectiveBackend : Backend EmptyScreen where
  create g _ size := if g.nodes.isEmpty then .error (.backend "no nodes") else .ok { size }

theorem hidden_until_settled_pair :
    Opened selectiveBackend {} pairView ∧
      ShownOnce pairView [.fit, .settle, .zoomTo 150, .settle] ∧
      (openTextOn (.noting selectiveBackend) {} {} (some .manual) (some "a") :
        ExceptT _ _ (View EmptyScreen Unit)).run.run [] =
          (.error (.document (.malformed "not the form of a task document")), []) ∧
      (openTextOn (.noting selectiveBackend) {} {} none none :
        ExceptT _ _ (View EmptyScreen Unit)).run.run [] =
          (.error (.render (.backend "no nodes")),
            [.create (.empty .workflow) (.choose .workflow 0 .horizontal) {}]) := by
  obtain ⟨hrun, hcompile, hcreate⟩ := hidden_until_settled selectiveBackend {}
  have hopened : Opened selectiveBackend {} pairView := .mount pair rfl
  obtain ⟨_, hempty⟩ := hcreate (.empty .workflow) (.backend "no nodes") rfl
  exact ⟨hopened, hrun _ hopened _, hcompile {} (some .manual) (some "a") _ rfl,
    hempty {} none none rfl⟩

end TaskGraph.View
