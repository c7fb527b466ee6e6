-- SUMMARY: Icons are those of a search through the catalog, and nothing but icons depends on it.
import Std.Data.HashMap.Lemmas
import TaskGraph.Proofs.Compilation

/-!
# Icons by search

The index of a catalog holds the first entry for each type and each webhook, so looking an
icon up gives what a search from the front finds. An entry that repeats the type and the
webhook of earlier ones is never reached. Before icons are looked up no node has one, and only
webhooks and tasks have a key, so a compiled graph without a catalog says which icons there
will be.
-/
namespace TaskGraph
namespace Catalog

/-! ## Searching a catalog -/

/-- The icon of the first entry that matches a node of some kind with a key. -/
def search? (c : Catalog) (kind : NodeKind) (key : String) : Option String :=
  match kind with
  | .webhook => (c.find? (·.webhook == some key)).bind (·.icon)
  | .task => (c.find? (·.type == key)).bind (·.icon)
  | _ => none

/-- An entry that no search reaches behind the given ones. -/
structure Entry.Repeats (e : Entry) (earlier : Catalog) : Prop where
  type : ∃ f ∈ earlier, f.type = e.type
  webhook : ∀ w ∈ e.webhook, ∃ f ∈ earlier, f.webhook = some w

/-- An item that satisfies `p` only if an earlier one does is never found. -/
theorem find?_skip {p : Entry → Bool} {earlier : Catalog} {e : Entry} (later : Catalog)
    (h : p e → ∃ f ∈ earlier, p f) :
    (earlier ++ e :: later).find? p = (earlier ++ later).find? p := by
  rw [List.find?_append, List.find?_append, List.find?_cons]
  cases hp : p e with
  | false => rfl
  | true =>
    have hfound : (earlier.find? p).isSome := by
      simpa [List.find?_isSome] using h hp
    obtain ⟨f, hf⟩ := Option.isSome_iff_exists.mp hfound
    rw [hf, Option.some_or, Option.some_or]

theorem search?_skip {earlier : Catalog} {e : Entry} (h : e.Repeats earlier) (later : Catalog)
    (kind : NodeKind) (key : String) :
    search? (earlier ++ e :: later) kind key = search? (earlier ++ later) kind key := by
  cases kind with
  | webhook =>
    rw [search?, search?, find?_skip later]
    intro he
    obtain ⟨f, hf, hkey⟩ := h.webhook key (by simpa using he)
    exact ⟨f, hf, by simpa using hkey⟩
  | task =>
    rw [search?, search?, find?_skip later]
    intro he
    obtain ⟨f, hf, htype⟩ := h.type
    exact ⟨f, hf, by simpa [htype] using he⟩
  | _ => rfl

/-! ## The index -/

namespace Index

/-- Notes an entry under its key, unless there is an earlier one with that key. -/
def note (key : Entry → Option String) (m : Std.HashMap String Entry) (e : Entry) :
    Std.HashMap String Entry :=
  match key e with
  | some k => m.insertIfNew k e
  | none => m

variable (key : Entry → Option String)

theorem getElem?_note (m : Std.HashMap String Entry) (e : Entry) (k : String) :
    (note key m e)[k]? = m[k]?.or (if key e = some k then some e else none) := by
  unfold note
  cases hkey : key e with
  | none => simp
  | some l =>
    rw [Std.HashMap.getElem?_insertIfNew]
    by_cases hl : l = k
    · subst hl
      by_cases hm : l ∈ m <;> simp [hm]
    · simp [hl]

/-- What is noted for a key is the first entry that has it. -/
theorem getElem?_foldl_note (c : Catalog) (m : Std.HashMap String Entry) (k : String) :
    (c.foldl (note key) m)[k]? = m[k]?.or (c.find? (key · == some k)) := by
  -- What the index holds already comes from earlier entries, and so takes precedence.
  induction c generalizing m with
  | nil => simp
  | cons e es ih =>
    rw [List.foldl_cons, ih, getElem?_note, Option.or_assoc, List.find?_cons]
    by_cases he : key e = some k
    · simp [he]
    · simp [he, beq_false_of_ne he]

theorem byType_ofCatalog (c : Catalog) :
    (ofCatalog c).byType = c.foldl (note fun e => some e.type) {} :=
  (List.foldl_hom byType fun _ _ => rfl).symm

theorem byWebhook_ofCatalog (c : Catalog) :
    (ofCatalog c).byWebhook = c.foldl (note (·.webhook)) {} :=
  (List.foldl_hom byWebhook fun _ _ => rfl).symm

/-- Looking up and searching agree. -/
theorem icon?_ofCatalog (c : Catalog) (kind : NodeKind) (k : String) :
    (ofCatalog c).icon? kind k = c.search? kind k := by
  cases kind with
  | webhook => simp [icon?, search?, byWebhook_ofCatalog, getElem?_foldl_note]
  | task => simp [icon?, search?, byType_ofCatalog, getElem?_foldl_note]
  | _ => rfl

end Index
end Catalog

/-! ## Nodes before they have icons -/

/-- A node that has no icon yet, and a key for one only if it is a webhook or a task. -/
structure Node.Iconless (n : Node) : Prop where
  icon : n.icon = none
  kind : n.iconKey ≠ none → n.kind = .webhook ∨ n.kind = .task

theorem Task.runNode_iconless (t : Task) : t.runNode.Iconless := ⟨rfl, fun _ => .inr rfl⟩

theorem Task.node_iconless (t : Task) : t.node.Iconless := by
  unfold Task.node
  split
  · exact ⟨rfl, fun h => absurd rfl h⟩
  · split
    · exact ⟨rfl, fun h => absurd rfl h⟩
    · exact t.runNode_iconless

theorem Join.keyNode_iconless (k : String) : (Join.keyNode k).Iconless :=
  ⟨rfl, fun h => absurd rfl h⟩

theorem Trigger.node_iconless (t : Trigger) : t.node.Iconless := by
  cases t with
  | cron schedule => exact ⟨rfl, fun h => absurd rfl h⟩
  | webhook name => cases name <;> exact ⟨rfl, fun _ => .inl rfl⟩

/-! ## The icons of a compiled graph -/

/-- The icon of a node by a search through the catalog. Shell tasks have the same icon whatever the
catalog holds. -/
def Node.searchIcon (n : Node) (catalog : Catalog) (shellIcon : String) : Option String :=
  match n.iconKey with
  | none => none
  | some key => if key = "shell" then some shellIcon else catalog.search? n.kind key

theorem Node.Iconless.withIcon_eq {n : Node} (h : n.Iconless) (catalog : Catalog)
    (shellIcon : String) :
    n.withIcon (.ofCatalog catalog) shellIcon =
      { n with icon := n.searchIcon catalog shellIcon } := by
  obtain ⟨id, label, description, kind, iconKey, icon, x, y⟩ := n
  obtain rfl : icon = none := h.icon
  cases iconKey with
  | none => rfl
  | some key =>
    simp only [Node.withIcon, Node.searchIcon, Catalog.Index.icon?_ofCatalog]
    rfl

namespace Compiler

/-- A compiler with a catalog. -/
def withCatalog (catalog : Catalog) (shellIcon : String) : Compiler :=
  { catalog := some catalog, shellIcon }

variable (launch : Launch) (d : Document)

theorem iconless_compile (shellIcon : String) :
    ∀ n ∈ (({ shellIcon } : Compiler).compile launch d).nodes, n.Iconless :=
  Document.forall_mem_withTrigger_nodes Task.node_iconless Task.runNode_iconless
    Join.keyNode_iconless Trigger.node_iconless d _

theorem compile_withCatalog (catalog : Catalog) (shellIcon other : String) :
    (withCatalog catalog shellIcon).compile launch d =
      { ({ shellIcon := other } : Compiler).compile launch d with
        nodes := (({ shellIcon := other } : Compiler).compile launch d).nodes.map fun n =>
          { n with icon := n.searchIcon catalog shellIcon } } := by
  have hnodes := List.map_congr_left fun n hn =>
    (iconless_compile launch d other n hn).withIcon_eq catalog shellIcon
  -- Without a catalog the graph is left as it is behind its trigger.
  exact congrArg (fun nodes => { d.graph.withTrigger _ with nodes }) hnodes

end Compiler

/-- A graph that was compiled with a catalog differs in its icons alone from the one that was
compiled without. No node of the latter has an icon, and only webhooks and tasks have a key for
one. The icons are those of a search through the catalog, so that they are the same without an
entry that repeats earlier ones. -/
theorem compile_icons_searched (launch : Launch) (d : Document) (catalog : Catalog)
    (shellIcon other : String) :
    let bare := ({ shellIcon := other } : Compiler).compile launch d
    (Compiler.withCatalog catalog shellIcon).compile launch d =
        { bare with
          nodes := bare.nodes.map fun n =>
            { n with icon := n.searchIcon catalog shellIcon } } ∧
      (∀ n ∈ bare.nodes, n.Iconless) ∧
      ∀ earlier e later, catalog = earlier ++ e :: later → e.Repeats earlier →
        (Compiler.withCatalog catalog shellIcon).compile launch d =
          (Compiler.withCatalog (earlier ++ later) shellIcon).compile launch d := by
  refine ⟨Compiler.compile_withCatalog launch d catalog shellIcon other,
    Compiler.iconless_compile launch d other, ?_⟩
  rintro earlier e later rfl hrepeats
  have hsearch : ∀ n : Node, n.searchIcon (earlier ++ e :: later) shellIcon =
      n.searchIcon (earlier ++ later) shellIcon := by
    intro n
    unfold Node.searchIcon
    simp only [Catalog.search?_skip hrepeats]
  rw [Compiler.compile_withCatalog launch d _ shellIcon other,
    Compiler.compile_withCatalog launch d _ shellIcon other]
  simp only [hsearch]

/-- A catalog whose second entry has no icon. -/
def hookCatalog : Catalog :=
  [{ type := "h", webhook := some "hook", icon := some "h.svg" }, { type := "t" }]

/-- An entry with an icon, behind others with its type and its webhook. -/
def lateEntry : Catalog.Entry := { type := "t", webhook := some "hook", icon := some "t.svg" }

def hookedPipeline : Document where
  trigger := some { webhook := some "hook@ci" }
  pipeline := some [{ ref := "a", tag := "t" }, { ref := "b", tag := "t", image := some "alpine" }]

theorem compile_icons_searched_hooked :
    lateEntry.Repeats hookCatalog ∧
      ((Compiler.withCatalog (hookCatalog ++ [lateEntry]) "s.svg").compile .webhook
          hookedPipeline).nodes.map Node.icon = [some "h.svg", none, some "s.svg"] ∧
      (Compiler.withCatalog (hookCatalog ++ [lateEntry]) "s.svg").compile .webhook hookedPipeline =
        (Compiler.withCatalog hookCatalog "s.svg").compile .webhook hookedPipeline := by
  obtain ⟨hgraph, _, hskip⟩ := compile_icons_searched .webhook hookedPipeline
    (hookCatalog ++ [lateEntry]) "s.svg" "shell.svg"
  have hlate : lateEntry.Repeats hookCatalog := by
    refine ⟨by decide, ?_⟩
    rintro w hw
    obtain rfl : "hook" = w := Option.some.inj hw
    decide
  refine ⟨hlate, ?_, hskip hookCatalog lateEntry [] rfl hlate⟩
  rw [hgraph, List.map_map]
  decide +kernel

end TaskGraph
