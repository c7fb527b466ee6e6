-- SUMMARY: The fields of a record are found again in the object that it is written as.
import Mathlib.Data.List.Nodup
import TaskGraph.Json.Fields
import TaskGraph.Proofs.JsonText

/-!
# Records written and read

An object with all names of a record, the absent fields left out, has just the fields that are
present. Each of them is then read as it was written.
-/
namespace TaskGraph.Json

variable {α : Type}

/-! ## Fields -/

/-- The fields that have a value. -/
def Fields.present (fields : List (String × Option Value)) : Fields :=
  fields.filterMap fun (name, v) => v.map (name, ·)

namespace Fields

variable {fields : List (String × Option Value)}

theorem mem_present {f : String × Value} : f ∈ present fields ↔ (f.1, some f.2) ∈ fields := by
  obtain ⟨name, v⟩ := f
  simp [present]

theorem lookup_eq_none {β : Type} {fs : List (String × β)} {name : String}
    (h : name ∉ fs.map Prod.fst) : fs.lookup name = none := by
  rw [List.lookup_eq_none_iff]
  intro f hf
  have hne : name ≠ f.1 := fun heq => h (heq ▸ List.mem_map_of_mem hf)
  simpa using hne

theorem names_present_sublist :
    ((present fields).map Prod.fst).Sublist (fields.map Prod.fst) := by
  induction fields with
  | nil => exact .slnil
  | cons f fields ih =>
    obtain ⟨name, v⟩ := f
    cases v with
    | none => exact ih.cons name
    | some v => exact ih.cons_cons name

theorem lookup_present (hnodup : (fields.map Prod.fst).Nodup) (name : String) :
    (present fields).lookup name = (fields.lookup name).join := by
  induction fields with
  | nil => rfl
  | cons f fields ih =>
    obtain ⟨k, v⟩ := f
    rw [List.map_cons, List.nodup_cons] at hnodup
    obtain ⟨hk, hrest⟩ := hnodup
    cases v with
    | some v =>
      have hcons : present ((k, some v) :: fields) = (k, v) :: present fields := rfl
      rw [hcons, List.lookup_cons, List.lookup_cons, ih hrest]
      cases name == k <;> rfl
    | none =>
      have hcons : present ((k, none) :: fields) = present fields := rfl
      rw [hcons, List.lookup_cons, ih hrest]
      cases h : name == k with
      | false => rfl
      | true =>
        obtain rfl : name = k := eq_of_beq h
        rw [lookup_eq_none hk]
        rfl

/-- The members of an object with distinct names of a record. -/
theorem ofMembers?_map {names : List String} {fs : Fields} (hnodup : (fs.map Prod.fst).Nodup)
    (hnames : ∀ f ∈ fs, f.1 ∈ names) :
    ofMembers? names (fs.map fun (name, v) => (some name, v)) = some fs := by
  induction fs with
  | nil => rfl
  | cons f fs ih =>
    obtain ⟨k, v⟩ := f
    rw [List.map_cons, List.nodup_cons] at hnodup
    rw [List.forall_mem_cons] at hnames
    have hrest := ih hnodup.2 hnames.2
    have hnew : fs.lookup k = none := lookup_eq_none hnodup.1
    simp only [List.map_cons, ofMembers?, hrest, bind, Option.bind]
    rw [if_pos hnames.1, hnew]
    rfl

theorem required?_eq {fs : Fields} {name : String} {v : Value} {read : Value → Option α} {a : α}
    (hlookup : fs.lookup name = some v) (hread : read v = some a) :
    fs.required? name read = some a := by
  rw [required?, hlookup]
  exact hread

theorem withDefault?_eq {fs : Fields} {name : String} {v : Value} {read : Value → Option α}
    {a : α} (hlookup : fs.lookup name = some v) (hread : read v = some a) (default : α) :
    fs.withDefault? name default read = some a := by
  rw [withDefault?, hlookup]
  exact hread

theorem optional?_absent {fs : Fields} {name : String} (hlookup : fs.lookup name = none)
    (read : Value → Option α) : fs.optional? name read = some none := by
  rw [optional?, withDefault?, hlookup]

/-- A field is read as it was written, or as absent if it was left out. -/
theorem optional?_eq {fs : Fields} {name : String} {o : Option α} {write : α → Value}
    {read : Value → Option α} (hlookup : fs.lookup name = o.map write)
    (hread : ∀ a, (write a).nullable? read = some (some a)) :
    fs.optional? name read = some o := by
  cases o with
  | none => exact optional?_absent hlookup read
  | some a =>
    rw [optional?, withDefault?, hlookup]
    exact hread a

end Fields

namespace Value

theorem record_fields? {names : List String} {fields : Fields}
    (hnames : fields.map Prod.fst = names) (hnodup : names.Nodup) :
    ∃ fs, (record fields).fields? names = some fs ∧
      ∀ name, fs.lookup name = fields.lookup name := by
  subst hnames
  exact ⟨fields, Fields.ofMembers?_map hnodup fun _ hf => List.mem_map_of_mem hf, fun _ => rfl⟩

/-- The fields of a record from which the absent ones were left out. -/
theorem sparse_fields? {names : List String} {fields : List (String × Option Value)}
    (hnames : fields.map Prod.fst = names) (hnodup : names.Nodup) :
    ∃ fs, (sparse fields).fields? names = some fs ∧
      ∀ name, fs.lookup name = (fields.lookup name).join := by
  subst hnames
  refine ⟨Fields.present fields, ?_, Fields.lookup_present hnodup⟩
  refine Fields.ofMembers?_map (Fields.names_present_sublist.nodup hnodup) ?_
  intro f hf
  exact List.mem_map_of_mem (Fields.mem_present.mp hf)

theorem Writable.sparse {fields : List (String × Option Value)}
    (h : ∀ f ∈ fields, ∀ v ∈ f.2, Writable v) : Writable (sparse fields) := by
  refine .record _ ?_
  intro f hf
  exact h _ (Fields.mem_present.mp hf) f.2 rfl

/-! ## Kinds of values -/

attribute [simp] Writable.text

theorem nullable?_text (s : String) : (text s).nullable? text? = some (some s) := rfl

theorem listOf?_array {read : Value → Option α} {write : α → Value} {as : List α}
    (h : ∀ a ∈ as, read (write a) = some a) :
    (array (as.map write)).listOf? read = some as := by
  have hmap : (as.map write).mapM read = some as := by
    induction as with
    | nil => rfl
    | cons a as ih =>
      rw [List.forall_mem_cons] at h
      simp [h.1, ih h.2]
  exact hmap

end Value

/-- Every constant is found by its name. -/
class LawfulConstant (α : Type) [Constant α] : Prop where
  ofName?_name : ∀ a : α, Constant.ofName? (Constant.name a) = some a

section
variable [Constant α] (a : α)

theorem Value.constantOf?_ofConstant [LawfulConstant α] : (ofConstant a).constantOf? = some a :=
  LawfulConstant.ofName?_name a

@[simp] theorem Value.Writable.constant : Writable (ofConstant a) := .text _

end

end TaskGraph.Json
