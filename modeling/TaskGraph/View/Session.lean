-- SUMMARY: Runs of operations on a view.
import TaskGraph.View.Hover
import TaskGraph.View.Status

/-!
# Sessions

The operations that a host can apply to a mounted view, as data, so that
statements can be made about any run of them.
-/
namespace TaskGraph.View

inductive Op (κ : Type) where
  | settle
  | fitOrCenter
  | fit
  | zoomTo (percent : Float)
  | resize (size : Extent)
  | applyRecords (records : List RunRecord)
  | highlight (s : Status) (on : Bool)
  | refreshHighlight
  | listen (k : κ)
  | hover (id shape : String)

variable {σ κ : Type} [Renderer σ]

/-- The view after an operation. -/
def Op.apply : Op κ → View σ κ → View σ κ
  | .settle, v => v.settle.2
  | .fitOrCenter, v => v.fitOrCenter
  | .fit, v => v.fit
  | .zoomTo percent, v => v.zoomTo percent
  | .resize size, v => v.resize size
  | .applyRecords records, v => v.applyRecords records
  | .highlight s on, v => v.highlight s on
  | .refreshHighlight, v => v.refreshHighlight
  | .listen k, v => v.listen k
  | .hover _ _, v => v

/-- The view after a run of operations. -/
def run (v : View σ κ) (ops : List (Op κ)) : View σ κ := ops.foldl (fun v op => op.apply v) v

@[simp] theorem run_nil (v : View σ κ) : v.run [] = v := rfl

@[simp] theorem run_cons (v : View σ κ) (op : Op κ) (ops : List (Op κ)) :
    v.run (op :: ops) = (op.apply v).run ops := rfl

end TaskGraph.View
