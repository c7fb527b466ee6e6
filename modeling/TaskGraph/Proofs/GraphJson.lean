-- SUMMARY: A graph is read back from its JSON text, compact or indented.
import TaskGraph.Graph.Json
import TaskGraph.Proofs.Compilation
import TaskGraph.Proofs.JsonRecord

/-!
# Graphs read back from JSON

Nodes, edges and graphs are read as they were written, field by field, and their texts are
JSON that reads back. Nodes must not carry coordinates; those of a compiled graph do not.
-/
namespace TaskGraph

open Json (LawfulConstant Style Value)
open Json.Fields (optional?_absent optional?_eq required?_eq withDefault?_eq)

instance : LawfulConstant Section where
  ofName?_name s := by cases s <;> rfl

instance : LawfulConstant NodeKind where
  ofName?_name k := by cases k <;> rfl

instance : LawfulConstant EdgeKind where
  ofName?_name k := by cases k; rfl

/-! ## Nodes, edges and graphs -/

/-- The node carries no coordinates. -/
structure Node.Unplaced (n : Node) : Prop where
  x : n.x = none
  y : n.y = none

namespace Node

theorem ofJson?_toJson {n : Node} (h : n.Unplaced) : ofJson? n.toJson = some n := by
  obtain ⟨fs, hfs, hlookup⟩ := (Value.sparse_fields? rfl (by decide) :
    ∃ fs, n.toJson.fields? ["id", "label", "description", "type", "uniqueKey", "iconUrl", "x", "y"]
      = some fs ∧ _)
  have hid : fs.required? "id" Value.text? = some n.id := required?_eq (hlookup "id") rfl
  have hlabel : fs.required? "label" Value.text? = some n.label :=
    required?_eq (hlookup "label") rfl
  have hdescription : fs.required? "description" Value.text? = some n.description :=
    required?_eq (hlookup "description") rfl
  have hkind : fs.required? "type" Value.constantOf? = some n.kind :=
    required?_eq (hlookup "type") (Value.constantOf?_ofConstant n.kind)
  have hkey : fs.optional? "uniqueKey" Value.text? = some n.iconKey :=
    optional?_eq (hlookup "uniqueKey") Value.nullable?_text
  have hicon : fs.optional? "iconUrl" Value.text? = some n.icon :=
    optional?_eq (hlookup "iconUrl") Value.nullable?_text
  have hx : fs.optional? "x" Value.float? = some n.x := by
    rw [h.x]
    exact optional?_absent ((hlookup "x").trans (congrArg (Option.map Value.ofFloat) h.x)) _
  have hy : fs.optional? "y" Value.float? = some n.y := by
    rw [h.y]
    exact optional?_absent ((hlookup "y").trans (congrArg (Option.map Value.ofFloat) h.y)) _
  simp only [ofJson?, toJson, hfs, hid, hlabel, hdescription, hkind, hkey, hicon, hx, hy, bind,
    Option.bind, pure]

theorem toJson_writable {n : Node} (h : n.Unplaced) : n.toJson.Writable := by
  refine .sparse ?_
  simp [h.x, h.y]

end Node

namespace Edge

theorem ofJson?_toJson (e : Edge) : ofJson? e.toJson = some e := by
  obtain ⟨fs, hfs, hlookup⟩ := (Value.sparse_fields? rfl (by decide) :
    ∃ fs, e.toJson.fields? ["source", "target", "type", "label"] = some fs ∧ _)
  have hsource : fs.required? "source" Value.text? = some e.source :=
    required?_eq (hlookup "source") rfl
  have htarget : fs.required? "target" Value.text? = some e.target :=
    required?_eq (hlookup "target") rfl
  have hkind : fs.withDefault? "type" .flow Value.constantOf? = some e.kind :=
    withDefault?_eq (hlookup "type") (Value.constantOf?_ofConstant e.kind) .flow
  have hlabel : fs.optional? "label" Value.text? = some e.label :=
    optional?_eq (hlookup "label") Value.nullable?_text
  simp only [ofJson?, toJson, hfs, hsource, htarget, hkind, hlabel, bind, Option.bind, pure]

theorem toJson_writable (e : Edge) : e.toJson.Writable := by
  refine .sparse ?_
  simp

end Edge

namespace Graph

/-- No node carries coordinates. -/
def Unplaced (g : Graph) : Prop := ∀ n ∈ g.nodes, n.Unplaced

theorem ofJson?_toJson {g : Graph} (h : g.Unplaced) : ofJson? g.toJson = some g := by
  obtain ⟨fs, hfs, hlookup⟩ := (Value.record_fields? rfl (by decide) :
    ∃ fs, g.toJson.fields? ["dslKind", "nodes", "edges"] = some fs ∧ _)
  have horigin : fs.required? "dslKind" Value.constantOf? = some g.origin :=
    required?_eq (hlookup "dslKind") (Value.constantOf?_ofConstant g.origin)
  have hnodes : fs.required? "nodes" (Value.listOf? Node.ofJson?) = some g.nodes :=
    required?_eq (hlookup "nodes")
      (Value.listOf?_array fun n hn => Node.ofJson?_toJson (h n hn))
  have hedges : fs.required? "edges" (Value.listOf? Edge.ofJson?) = some g.edges :=
    required?_eq (hlookup "edges") (Value.listOf?_array fun e _ => Edge.ofJson?_toJson e)
  simp only [ofJson?, toJson, hfs, horigin, hnodes, hedges, bind, Option.bind, pure]

theorem toJson_writable {g : Graph} (h : g.Unplaced) : g.toJson.Writable := by
  have hnodes : (Value.array (g.nodes.map Node.toJson)).Writable := by
    refine .array _ ?_
    rw [List.forall_mem_map]
    exact fun n hn => Node.toJson_writable (h n hn)
  have hedges : (Value.array (g.edges.map Edge.toJson)).Writable := by
    refine .array _ ?_
    rw [List.forall_mem_map]
    exact fun e _ => Edge.toJson_writable e
  refine .record _ ?_
  simp [hnodes, hedges]

/-- A graph without coordinates is read back from its text, however this is laid out. -/
theorem parse?_render {g : Graph} (h : g.Unplaced) (style : Style) :
    (Value.parse? (g.toJson.render style)).bind ofJson? = some g := by
  rw [Value.parse?_render (toJson_writable h), Option.bind_some, ofJson?_toJson h]

end Graph

/-! ## Compiled graphs -/

theorem Task.node_unplaced (t : Task) : t.node.Unplaced := by
  unfold Task.node
  split
  · exact ⟨rfl, rfl⟩
  · split <;> exact ⟨rfl, rfl⟩

theorem Trigger.node_unplaced (t : Trigger) : t.node.Unplaced := by
  unfold Trigger.node
  split <;> exact ⟨rfl, rfl⟩

theorem Graph.Unplaced.withIcons {g : Graph} (h : g.Unplaced) (c : Compiler) :
    (c.withIcons g).Unplaced := by
  rw [c.withIcons_eq]
  refine List.forall_mem_map.mpr fun n hn => ?_
  obtain ⟨icon, hicon⟩ := c.decorate_eq n
  rw [hicon]
  exact ⟨(h n hn).x, (h n hn).y⟩

theorem Compiler.unplaced_compile (c : Compiler) (launch : Launch) (d : Document) :
    (c.compile launch d).Unplaced :=
  Graph.Unplaced.withIcons (Document.forall_mem_withTrigger_nodes Task.node_unplaced
    (fun _ => ⟨rfl, rfl⟩) (fun _ => ⟨rfl, rfl⟩) Trigger.node_unplaced d _) c

theorem Compiler.compileText_of_parse (c : Compiler) (launch : Launch) {text : String}
    {d : Document} (hblank : Text.allBlank text = false) (hparse : Document.parse text = .ok d) :
    c.compileText (some launch) (some text) = .ok (c.compile launch d) := by
  simp [compileText, Option.filter, hblank, hparse, bind, Except.bind, pure, Except.pure]

theorem Compiler.unplaced_compileText {c : Compiler} {launch : Option Launch}
    {text : Option String} {g : Graph} (h : c.compileText launch text = .ok g) : g.Unplaced := by
  unfold Compiler.compileText at h
  split at h
  · next text launch _ =>
    cases hd : Document.parse text with
    | error e => simp [hd] at h
    | ok d =>
      simp only [hd, bind, Except.bind, pure, Except.pure, Except.ok.injEq] at h
      exact h ▸ c.unplaced_compile launch d
  · obtain rfl := Except.ok.inj h
    exact List.forall_mem_nil _

/-- A graph whose nodes carry no coordinates is read back from its JSON text, compact or indented,
and such are all graphs that a compiler gives. -/
theorem graph_json_roundtrip (style : Style) :
    (∀ g : Graph, g.Unplaced →
      (Value.parse? (g.toJson.render style)).bind Graph.ofJson? = some g) ∧
    ∀ (c : Compiler) (launch : Option Launch) (text : Option String) (g : Graph),
      c.compileText launch text = .ok g →
      (Value.parse? (g.toJson.render style)).bind Graph.ofJson? = some g :=
  ⟨fun _ h => Graph.parse?_render h style,
    fun _ _ _ _ h => Graph.parse?_render (Compiler.unplaced_compileText h) style⟩

/-- A graph with texts that must be escaped, and with fields that are empty or absent. -/
def escapedGraph : Graph where
  origin := .workflow
  nodes := [
    { id := "\\a\"", label := "", description := "\\u0041 \\n \n\t\x00\x1f", kind := .task,
      iconKey := some "", icon := some "\\/" },
    { id := "b\x7f", label := "日本", description := "😀", kind := .join }]
  edges := [.flow "\\a\"" "b\x7f", { source := "b\x7f", target := "?", label := some "\x0c\r" }]

/-- A pipeline of one task. -/
def soleTask : Document where
  pipeline := some [{ ref := "a", tag := "t" }]

theorem graph_json_roundtrip_escaped :
    escapedGraph.Unplaced ∧
      (Value.parse? (escapedGraph.toJson.render .indented)).bind Graph.ofJson? =
        some escapedGraph ∧
      ({} : Compiler).compileText (some .webhook) (some "pipeline:\n- ref: a\n  task: t\n") =
        .ok (({} : Compiler).compile .webhook soleTask) ∧
      (Value.parse? ((({} : Compiler).compile .webhook soleTask).toJson.render .indented)).bind
        Graph.ofJson? = some (({} : Compiler).compile .webhook soleTask) := by
  obtain ⟨hunplaced, hcompiled⟩ := graph_json_roundtrip .indented
  have hescaped : escapedGraph.Unplaced := by
    intro n hn
    rcases List.mem_pair.mp hn with rfl | rfl <;> exact ⟨rfl, rfl⟩
  have hsole : ({} : Compiler).compileText (some .webhook)
      (some "pipeline:\n- ref: a\n  task: t\n") = .ok (({} : Compiler).compile .webhook soleTask) :=
    Compiler.compileText_of_parse {} .webhook (by decide +kernel)
      (Document.parse_of_toOption (by decide +kernel))
  exact ⟨hescaped, hunplaced _ hescaped, hsole, hcompiled _ _ _ _ hsole⟩

end TaskGraph
