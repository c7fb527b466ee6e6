-- SUMMARY: The order of sources in a join key, which text a key is, and which lists of sources have the same key.
import Mathlib.Data.List.Sort
import TaskGraph.Compiler.Join

/-!
# Join keys

The order of sources is total and antisymmetric, whatever the lower case of a text
is, so that there is one way only to put a list of sources in order: a key is the text
of that list. Sorting forgets the order of a list and nothing else. Joining the sorted
ids can be undone as long as no id contains the separator.
-/
namespace TaskGraph.Join

/-! ## The order of sources -/

/-- The order of sources as a comparison: lower case first, then the texts themselves,
greater ones before smaller ones. -/
def compareSources : String → String → Ordering :=
  compareLex (compareOn Text.lowercase) (fun a b => compare b a)

instance : Std.TransCmp compareSources :=
  inferInstanceAs (Std.TransCmp (compareLex _ _))

theorem precedes_eq_isLE (a b : String) : precedes a b = (compareSources a b).isLE := by
  unfold precedes compareSources compareLex compareOn
  cases compare (Text.lowercase a) (Text.lowercase b) <;> rfl

theorem precedes_total (a b : String) : precedes a b = true ∨ precedes b a = true := by
  have hswap : compareSources b a = (compareSources a b).swap := Std.OrientedCmp.eq_swap
  rw [precedes_eq_isLE, precedes_eq_isLE, hswap]
  cases compareSources a b <;> simp

theorem precedes_trans {a b c : String} (hab : precedes a b = true) (hbc : precedes b c = true) :
    precedes a c = true := by
  rw [precedes_eq_isLE] at hab hbc ⊢
  exact Std.TransCmp.isLE_trans hab hbc

/-- Ties are broken by the texts themselves, so only equal texts are tied. -/
theorem eq_of_precedes {a b : String} (hab : precedes a b = true) (hba : precedes b a = true) :
    a = b := by
  rw [precedes_eq_isLE] at hab hba
  have htie : compareSources a b = .eq := Std.OrientedCmp.isLE_antisymm hab hba
  obtain ⟨_, htext⟩ := compareLex_eq_eq.mp htie
  exact (Std.LawfulEqOrd.eq_of_compare htext).symm

instance : Std.Total (precedes · · = true) := ⟨precedes_total⟩
instance : IsTrans String (precedes · · = true) := ⟨fun _ _ _ => precedes_trans⟩
instance : Std.Antisymm (precedes · · = true) := ⟨fun _ _ => eq_of_precedes⟩

/-- How one source stands before another in a key: by lower case, or if that is the same, the
greater text first. -/
def InKeyOrder (a b : String) : Prop :=
  Text.lowercase a < Text.lowercase b ∨ Text.lowercase a = Text.lowercase b ∧ b ≤ a

instance (a b : String) : Decidable (InKeyOrder a b) := inferInstanceAs (Decidable (_ ∨ _))

theorem compare_eq_lt_iff {a b : String} : compare a b = .lt ↔ a < b :=
  compareOfLessAndEq_eq_lt

theorem isLE_compare_iff {a b : String} : (compare a b).isLE = true ↔ a ≤ b := by
  rw [← String.not_lt, ← compare_eq_lt_iff, ← Std.OrientedCmp.gt_iff_lt, Ordering.isLE_iff_ne_gt]

theorem precedes_iff {a b : String} : precedes a b = true ↔ InKeyOrder a b := by
  have heq : compare (Text.lowercase a) (Text.lowercase b) = .eq ↔
      Text.lowercase a = Text.lowercase b := Std.compare_eq_iff_eq
  unfold precedes InKeyOrder
  rw [← compare_eq_lt_iff, ← isLE_compare_iff, ← heq]
  cases compare (Text.lowercase a) (Text.lowercase b) <;> simp

/-! ## Keys -/

/-- A form of the key that evaluates by structural recursion. -/
theorem key_eq_insertionSort :
    key = fun sources => "_".intercalate (sources.insertionSort (precedes · · = true)) := by
  funext sources
  unfold key
  rw [← List.mergeSort_eq_insertionSort]
  simp

/-- The text is the sources in the order of keys, with the separator between them. -/
def SpellsKey (sources : List String) (text : String) : Prop :=
  ∃ sorted : List String,
    sorted.Perm sources ∧ sorted.Pairwise InKeyOrder ∧ text = "_".intercalate sorted

/-- The order decides all, not how it is brought about. -/
theorem key_eq_iff {sources : List String} {text : String} :
    key sources = text ↔ SpellsKey sources text := by
  have hsorted : (sources.insertionSort (precedes · · = true)).Pairwise (precedes · · = true) :=
    List.pairwise_insertionSort _ sources
  have hperm : (sources.insertionSort (precedes · · = true)).Perm sources :=
    List.perm_insertionSort _ sources
  rw [key_eq_insertionSort]
  constructor
  · intro htext
    exact ⟨_, hperm, hsorted.imp precedes_iff.mp, htext.symm⟩
  · intro hspells
    obtain ⟨sorted, hperm', hpairwise, rfl⟩ := hspells
    have hsame : sources.insertionSort (precedes · · = true) = sorted :=
      (hperm.trans hperm'.symm).eq_of_pairwise' hsorted (hpairwise.imp precedes_iff.mpr)
    exact congrArg "_".intercalate hsame

/-- A key does not depend on the order of the sources. -/
theorem key_of_perm {as bs : List String} (h : as.Perm bs) : key as = key bs := by
  obtain ⟨sorted, hperm, hpairwise, htext⟩ := key_eq_iff.mp (Eq.refl (key bs))
  exact key_eq_iff.mpr ⟨sorted, hperm.trans h.symm, hpairwise, htext⟩

/-- The ids in a key can be read off it if none of them contains the separator. -/
theorem split_key {sources : List String} (hne : sources ≠ [])
    (hsep : ∀ s ∈ sources, '_' ∉ s.toList) :
    ((key sources).split '_').toList.map (·.copy) = sources.mergeSort precedes := by
  have hsep' : ∀ s ∈ sources.mergeSort precedes, '_' ∉ s.toList := by
    intro s hs
    exact hsep s (List.mem_mergeSort.mp hs)
  have hne' : sources.mergeSort precedes ≠ [] := by
    intro h
    exact hne (List.perm_nil.mp (h ▸ (List.mergeSort_perm sources precedes).symm))
  have hsplit := String.toList_split_intercalate hsep'
  rw [if_neg hne'] at hsplit
  exact hsplit

/-- Without the separator in any id, lists with one key are reorderings of each other. -/
theorem perm_of_key_eq {as bs : List String} (has : as ≠ []) (hbs : bs ≠ [])
    (hsepA : ∀ a ∈ as, '_' ∉ a.toList) (hsepB : ∀ b ∈ bs, '_' ∉ b.toList)
    (h : key as = key bs) : as.Perm bs := by
  have hsort : as.mergeSort precedes = bs.mergeSort precedes := by
    rw [← split_key has hsepA, ← split_key hbs hsepB, h]
  have hA : (as.mergeSort precedes).Perm as := List.mergeSort_perm as precedes
  have hB : (bs.mergeSort precedes).Perm bs := List.mergeSort_perm bs precedes
  rw [hsort] at hA
  exact hA.symm.trans hB

/-- The key of two or more sources contains the separator. -/
theorem separator_mem_key {sources : List String} (h : 2 ≤ sources.length) :
    '_' ∈ (key sources).toList := by
  have hlen : 2 ≤ (sources.mergeSort precedes).length := by
    rwa [List.length_mergeSort]
  unfold key
  match sources.mergeSort precedes, hlen with
  | a :: b :: rest, _ => simp

/-- A key is the only text that its sources spell, and the same in whatever order they are given.
As long as no id contains the separator, the key tells its sources up to their order, empty ids
included, and the key of two or more sources is no such id. -/
theorem key_canonical (as bs : List String) :
    (∀ text, key as = text ↔ SpellsKey as text) ∧
    (as.Perm bs → key as = key bs) ∧
    (as ≠ [] → bs ≠ [] → (∀ a ∈ as, '_' ∉ a.toList) → (∀ b ∈ bs, '_' ∉ b.toList) →
      key as = key bs → as.Perm bs) ∧
    (2 ≤ as.length → ∀ id : String, '_' ∉ id.toList → key as ≠ id) := by
  refine ⟨fun _ => key_eq_iff, key_of_perm, perm_of_key_eq, ?_⟩
  intro hlen id hid hkey
  exact hid (hkey ▸ separator_mem_key hlen)

/-- One id is empty, and two differ in case only. -/
theorem key_canonical_blank :
    SpellsKey ["B", "", "b"] "_b_B" ∧ key ["B", "", "b"] = "_b_B" ∧
      ["B", "", "b"].Perm ["b", "B", ""] ∧ key ["B", "", "b"] = key ["b", "B", ""] ∧
      key ["B", "", "b"] ≠ "bB" := by
  obtain ⟨htext, hkey, hperm, hid⟩ := key_canonical ["B", "", "b"] ["b", "B", ""]
  have hspells : SpellsKey ["B", "", "b"] "_b_B" :=
    ⟨["", "b", "B"], by decide, by decide +kernel, rfl⟩
  have hsame : key ["B", "", "b"] = key ["b", "B", ""] := hkey (by decide)
  exact ⟨hspells, (htext _).mpr hspells,
    hperm (by simp) (by simp) (by decide) (by decide) hsame, hsame, hid (by decide) "bB" (by decide)⟩

end TaskGraph.Join
