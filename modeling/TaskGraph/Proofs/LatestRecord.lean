-- SUMMARY: Which record of a node counts: no other one started later, and none behind it as late.
import Mathlib.Data.List.Induction
import Mathlib.Data.List.Nodup
import Mathlib.Order.WithBot
import TaskGraph.RunRecord

/-!
# The latest record

Among the records of a node the order in the list matters only where start times are equal: the
last of the greatest counts. A list read from the front either keeps the record that counts so
far or passes to the next one, so that everything follows from what one more record at the end
changes.
-/
namespace TaskGraph.RunRecord

/-- The start time, where no start time is before every other. -/
def start (r : RunRecord) : WithBot Nat := r.startTime.elim ⊥ WithBot.some

theorem start_eq_iff {a b : RunRecord} : a.start = b.start ↔ a.startTime = b.startTime := by
  unfold start
  cases a.startTime <;> cases b.startTime <;> simp

theorem notAfter_iff {a b : RunRecord} : a.notAfter b ↔ a.start ≤ b.start := by
  unfold notAfter start
  cases a.startTime <;> cases b.startTime <;> simp

/-! ## One more record -/

/-- The record that counts, if `r` stands behind the records of the same node. -/
def passOn (best : Option RunRecord) (r : RunRecord) : Option RunRecord :=
  match best with
  | some b => if b.notAfter r then some r else some b
  | none => some r

variable {records : List RunRecord} {node : String}

theorem latest?_concat_of_ne {r : RunRecord} (h : r.node ≠ node) :
    latest? (records ++ [r]) node = latest? records node := by
  simp [latest?, h]

theorem latest?_concat {r : RunRecord} (h : r.node = node) :
    latest? (records ++ [r]) node = passOn (latest? records node) r := by
  simp only [latest?, List.filter_append, List.filter_singleton, h, beq_self_eq_true,
    List.foldl_append]
  rfl

/-- Some record counts as soon as there is one. -/
theorem latest?_eq_none_iff : latest? records node = none ↔ ∀ r ∈ records, r.node ≠ node := by
  induction records using List.reverseRecOn with
  | nil => simp [latest?]
  | append_singleton records r ih =>
    by_cases h : r.node = node
    · have hsome : passOn (latest? records node) r ≠ none := by
        unfold passOn
        split
        · split <;> simp
        · simp
      rw [latest?_concat h]
      simp [hsome, h]
    · rw [latest?_concat_of_ne h, ih]
      simp [or_imp, forall_and, h]

/-! ## The record that counts -/

/-- The record `r` at the position `p` is one of the node. None of the node started later, and all
that stand behind it started earlier. -/
structure CountsAt (records : List RunRecord) (node : String) (p : Nat) (r : RunRecord) : Prop where
  get : records[p]? = some r
  of_node : r.node = node
  greatest : ∀ a ∈ records, a.node = node → a.start ≤ r.start
  last : ∀ q a, p < q → records[q]? = some a → a.node = node → a.start < r.start

namespace CountsAt

variable {p : Nat} {r : RunRecord}

theorem mem (h : CountsAt records node p r) : r ∈ records := List.mem_of_getElem? h.get

/-- There is one such position only. -/
theorem unique (h : CountsAt records node p r) {p' : Nat} {r' : RunRecord}
    (h' : CountsAt records node p' r') : r = r' := by
  rcases Nat.lt_trichotomy p p' with hlt | rfl | hlt
  · exact absurd (h.last p' r' hlt h'.get h'.of_node) (h'.greatest r h.mem h.of_node).not_gt
  · exact Option.some.inj (h.get.symm.trans h'.get)
  · exact absurd (h'.last p r hlt h.get h.of_node) (h.greatest r' h'.mem h'.of_node).not_gt

/-- A record at the end makes no difference, unless it is one of the node and started as late. -/
theorem concat (h : CountsAt records node p r) {a : RunRecord}
    (ha : a.node = node → a.start < r.start) : CountsAt (records ++ [a]) node p r where
  get := by
    rw [List.getElem?_append_left (List.getElem?_eq_some_iff.mp h.get).1]
    exact h.get
  of_node := h.of_node
  greatest := by
    intro b hb hnode
    cases List.mem_append.mp hb with
    | inl hold => exact h.greatest b hold hnode
    | inr hnew =>
      obtain rfl := List.mem_singleton.mp hnew
      exact (ha hnode).le
  last := by
    intro q b hq hb hnode
    rcases lt_or_ge q records.length with hold | hnew
    · rw [List.getElem?_append_left hold] at hb
      exact h.last q b hq hb hnode
    · rw [List.getElem?_append_right hnew] at hb
      obtain rfl := List.mem_singleton.mp (List.mem_of_getElem? hb)
      exact ha hnode

theorem of_concat (hnode : r.node = node) (h : ∀ a ∈ records, a.node = node → a.start ≤ r.start) :
    CountsAt (records ++ [r]) node records.length r where
  get := List.getElem?_concat_length
  of_node := hnode
  greatest := by
    intro a ha hanode
    cases List.mem_append.mp ha with
    | inl hold => exact h a hold hanode
    | inr hnew => rw [List.mem_singleton.mp hnew]
  last := by
    intro q a hq ha _
    have hlength := (List.getElem?_eq_some_iff.mp ha).1
    rw [List.length_append, List.length_singleton] at hlength
    omega

end CountsAt

theorem exists_countsAt {r : RunRecord} (h : latest? records node = some r) :
    ∃ p, CountsAt records node p r := by
  -- The record that counts stays the same or is the new one, at the end.
  induction records using List.reverseRecOn generalizing r with
  | nil => simp [latest?] at h
  | append_singleton records a ih =>
    by_cases ha : a.node = node
    · rw [latest?_concat ha] at h
      cases hbest : latest? records node with
      | none =>
        rw [hbest] at h
        obtain rfl : a = r := Option.some.inj h
        have hnone := latest?_eq_none_iff.mp hbest
        exact ⟨_, .of_concat ha fun b hb hnode => absurd hnode (hnone b hb)⟩
      | some b =>
        obtain ⟨p, hp⟩ := ih hbest
        rw [hbest, passOn] at h
        split at h
        · rename_i hle
          obtain rfl : a = r := Option.some.inj h
          have hle : b.start ≤ a.start := notAfter_iff.mp hle
          exact ⟨_, .of_concat ha fun c hc hnode => (hp.greatest c hc hnode).trans hle⟩
        · rename_i hlt
          obtain rfl : b = r := Option.some.inj h
          have hlt : a.start < b.start := lt_of_not_ge (mt notAfter_iff.mpr hlt)
          exact ⟨p, hp.concat fun _ => hlt⟩
    · rw [latest?_concat_of_ne ha] at h
      obtain ⟨p, hp⟩ := ih h
      exact ⟨p, hp.concat fun hnode => absurd hnode ha⟩

theorem CountsAt.latest?_eq {p : Nat} {r : RunRecord} (h : CountsAt records node p r) :
    latest? records node = some r := by
  cases hlatest : latest? records node with
  | none => exact absurd h.of_node (latest?_eq_none_iff.mp hlatest r h.mem)
  | some r' =>
    obtain ⟨p', h'⟩ := exists_countsAt hlatest
    rw [h.unique h']

/-! ## Other records and other orders -/

/-- Start times that are all different decide by themselves. -/
theorem latest?_perm {reordered : List RunRecord} (hperm : records.Perm reordered)
    (hdistinct : ((records.filter (·.node == node)).map RunRecord.startTime).Nodup) :
    latest? reordered node = latest? records node := by
  cases hlatest : latest? records node with
  | none =>
    rw [latest?_eq_none_iff] at hlatest ⊢
    intro r hr
    exact hlatest r (hperm.mem_iff.mpr hr)
  | some r =>
    obtain ⟨p, hp⟩ := exists_countsAt hlatest
    have hsome : latest? reordered node ≠ none := by
      rw [Ne, latest?_eq_none_iff]
      exact fun hnone => hnone r (hperm.mem_iff.mp hp.mem) hp.of_node
    obtain ⟨r', hr'⟩ := Option.ne_none_iff_exists'.mp hsome
    obtain ⟨p', hp'⟩ := exists_countsAt hr'
    have hmem : r ∈ records.filter (·.node == node) := by simp [hp.mem, hp.of_node]
    have hmem' : r' ∈ records.filter (·.node == node) := by
      simp [hperm.mem_iff.mpr hp'.mem, hp'.of_node]
    -- Each is among the records that the other one is the greatest of.
    have hstart : r'.start = r.start := le_antisymm
      (hp.greatest r' (hperm.mem_iff.mpr hp'.mem) hp'.of_node)
      (hp'.greatest r (hperm.mem_iff.mp hp.mem) hp.of_node)
    rw [hr', List.inj_on_of_nodup_map hdistinct hmem' hmem (start_eq_iff.mp hstart)]

/-- No record counts for a node exactly if there is none of it, and a record counts exactly if it
stands where no other one of the node started later, and none behind it as late. Records of other
nodes make no difference, and neither does the order, if all records of the node started at
different times. -/
theorem latest_iff_countsAt (records : List RunRecord) (node : String) :
    (latest? records node = none ↔ ∀ r ∈ records, r.node ≠ node) ∧
    (∀ r, latest? records node = some r ↔ ∃ p, CountsAt records node p r) ∧
    (∀ others, others.filter (·.node == node) = records.filter (·.node == node) →
      latest? others node = latest? records node) ∧
    ∀ reordered, records.Perm reordered →
      ((records.filter (·.node == node)).map RunRecord.startTime).Nodup →
      latest? reordered node = latest? records node := by
  refine ⟨latest?_eq_none_iff, ?_, ?_, ?_⟩
  · intro r
    exact ⟨exists_countsAt, fun ⟨_, h⟩ => h.latest?_eq⟩
  · intro others h
    rw [latest?, latest?, h]
  · intro reordered hperm hdistinct
    exact latest?_perm hperm hdistinct

/-- Two runs of one task started at the same time, and one is still to start. -/
def retried : List RunRecord :=
  [{ node := "a", status := .failed, startTime := some 5 },
    { node := "b", status := .running, startTime := some 9 },
    { node := "a", status := .succeeded, startTime := some 5 },
    { node := "a", status := .waiting }]

theorem latest_iff_countsAt_retried :
    (∃ p, CountsAt retried "a" p { node := "a", status := .succeeded, startTime := some 5 }) ∧
      latest? (retried.eraseIdx 1) "a" = latest? retried "a" ∧
      ((retried.tail.filter (·.node == "a")).map RunRecord.startTime).Nodup ∧
      latest? retried.tail.reverse "a" = latest? retried.tail "a" := by
  obtain ⟨_, hcounts, hothers, _⟩ := latest_iff_countsAt retried "a"
  obtain ⟨_, _, _, hperm⟩ := latest_iff_countsAt retried.tail "a"
  have hdistinct : ((retried.tail.filter (·.node == "a")).map RunRecord.startTime).Nodup := by
    decide
  exact ⟨(hcounts _).mp (by decide), hothers _ (by decide), hdistinct,
    hperm _ (List.reverse_perm _).symm hdistinct⟩

end TaskGraph.RunRecord
