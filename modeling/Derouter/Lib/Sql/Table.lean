import Mathlib.Data.List.Basic
import Mathlib.Data.List.Perm.Basic

-- Tables as SQLite keeps them: records under strictly ascending rowids. A `SELECT` without an
-- `ORDER BY` returns its rows in an arbitrary order, which is the choice of a `Plan`.

namespace Sql

universe u v

abbrev Rowid := Int

@[ext]
structure Table (α : Type u) where
  rows   : List (Rowid × α)
  sorted : rows.Pairwise (·.1 < ·.1)

-- An order in which a query returns the rows that it selects.
structure Plan (α : Type u) where
  order : List α → List α
  perm  : ∀ l, (order l).Perm l

namespace Plan

variable {α : Type u} {plan : Plan α} {l : List α}

-- The plan that keeps the order of the table.
def scan : Plan α where
  order := id
  perm  := .refl

@[simp]
theorem mem_order : a ∈ plan.order l ↔ a ∈ l :=
  plan.perm l |>.mem_iff

-- The first row of a query, as `query_row` reads it.
def first (plan : Plan α) (l : List α) : Option α :=
  (plan.order l).head?

theorem mem_of_first (h : plan.first l = some a) : a ∈ l :=
  plan.mem_order.mp <| List.mem_of_head? h

theorem first_eq_none_iff : plan.first l = none ↔ l = [] := by
  have h := plan.perm l
  simp only [first, List.head?_eq_none_iff]
  constructor <;> intro hl
  case mp  => exact List.nil_perm.mp <| hl ▸ h
  case mpr => exact List.perm_nil.mp <| hl ▸ h

theorem exists_first (h : a ∈ l) : ∃ b, plan.first l = some b := by
  cases hf : plan.first l
  case some b => exact ⟨b, rfl⟩
  case none   => exact absurd (first_eq_none_iff.mp hf) <| List.ne_nil_of_mem h

end Plan

namespace Table

variable {α : Type u} {t : Table α} {i j : Rowid} {a : α}

instance : EmptyCollection (Table α) where
  emptyCollection := ⟨[], .nil⟩

def get? (t : Table α) (i : Rowid) : Option α :=
  t.rows.lookup i

@[simp]
theorem get?_empty : (∅ : Table α).get? i = none :=
  rfl

theorem mem_rows_iff : (i, a) ∈ t.rows ↔ t.get? i = some a := by
  have hs := t.sorted
  simp only [get?]
  generalize t.rows = l at hs
  induction l
  case nil => simp
  case cons r l hi =>
    obtain ⟨k, b⟩ := r
    have ⟨hr, hl⟩ := List.pairwise_cons.mp hs
    by_cases h : i = k
    case pos =>
      subst h
      have : (i, a) ∉ l := fun hm => absurd (hr _ hm) (Int.lt_irrefl _)
      simp [this, eq_comm]
    case neg =>
      have hb : (i == k) = false := by simpa using h
      simp [List.lookup_cons, hi hl, h, hb]

theorem filter_rows_eq :
    t.rows.filter (fun r => decide (r.1 = i)) = ((t.get? i).map (i, ·)).toList := by
  have hs := t.sorted
  simp only [get?]
  generalize t.rows = l at hs
  induction l
  case nil => simp
  case cons r l hi =>
    obtain ⟨k, b⟩ := r
    have ⟨hr, hl⟩ := List.pairwise_cons.mp hs
    by_cases h : k = i
    case pos =>
      subst h
      have hn : l.filter (fun r => decide (r.1 = k)) = [] := by
        refine List.filter_eq_nil_iff.mpr fun q hq he => ?_
        exact Int.ne_of_gt (hr q hq) (of_decide_eq_true he)
      simp [hn]
    case neg =>
      have hb : (i == k) = false := beq_false_of_ne fun he => h he.symm
      simp [List.lookup_cons, hi hl, h, hb]

-- The rowid that SQLite gives to the next inserted row: one past the largest rowid in use.
def nextRowid (t : Table α) : Rowid :=
  match t.rows.getLast? with
  | none   => 1
  | some r => r.1 + 1

theorem lt_nextRowid (h : r ∈ t.rows) : r.1 < t.nextRowid := by
  have hs := t.sorted
  simp only [nextRowid]
  cases hl : t.rows.getLast?
  case none => simp [List.getLast?_eq_none_iff.mp hl] at h
  case some m =>
    obtain ⟨l, hl⟩ := List.getLast?_eq_some_iff.mp hl
    rw [hl] at hs h
    have hm := List.pairwise_append.mp hs |>.2.2
    rcases List.mem_append.mp h with h | h
    · exact Int.lt_add_one_of_le <| Int.le_of_lt <| hm r h m List.mem_cons_self
    · exact List.mem_singleton.mp h ▸ Int.lt_succ _

@[simp]
theorem get?_nextRowid : t.get? t.nextRowid = none := by
  cases h : t.get? t.nextRowid
  case none => rfl
  case some => exact absurd (lt_nextRowid <| mem_rows_iff.mpr h) (Int.lt_irrefl _)

theorem ne_nextRowid (h : t.get? i = some a) : i ≠ t.nextRowid := by
  rintro rfl
  simp at h

def insert (t : Table α) (a : α) : Table α where
  rows   := t.rows ++ [(t.nextRowid, a)]
  sorted := by
    refine List.pairwise_append.mpr ⟨t.sorted, List.pairwise_singleton _ _, fun r hr s hs => ?_⟩
    rw [List.mem_singleton.mp hs]
    exact lt_nextRowid hr

theorem get?_insert : (t.insert a).get? i = if i = t.nextRowid then some a else t.get? i := by
  by_cases h : i = t.nextRowid
  case pos =>
    have hn : t.rows.lookup t.nextRowid = none := t.get?_nextRowid
    simp [get?, insert, List.lookup_append, h, hn]
  case neg =>
    have hb : (i == t.nextRowid) = false := by simpa using h
    simp [get?, insert, List.lookup_append, List.lookup_cons, hb, h]

theorem get?_insert_of_some (h : t.get? i = some b) : (t.insert a).get? i = some b := by
  rw [get?_insert, if_neg <| ne_nextRowid h, h]

theorem get?_insert_cases (h : (t.insert a).get? i = some b) :
    (i = t.nextRowid ∧ b = a) ∨ t.get? i = some b := by
  rw [get?_insert] at h
  split at h
  case isTrue hi => exact .inl ⟨hi, Option.some.inj h |>.symm⟩
  case isFalse   => exact .inr h

-- Rewrites the record of one row, as an `UPDATE .. WHERE rowid = ?` does.
def update (t : Table α) (i : Rowid) (f : α → α) : Table α where
  rows   := t.rows.map fun r => if r.1 = i then (r.1, f r.2) else r
  sorted := by
    refine List.pairwise_map.mpr <| t.sorted.imp fun {r s} h => ?_
    split <;> split <;> exact h

theorem get?_update : (t.update i f).get? j = if j = i then (t.get? j).map f else t.get? j := by
  simp only [get?, update]
  generalize t.rows = l
  induction l
  case nil => simp
  case cons r l hl =>
    obtain ⟨k, b⟩ := r
    by_cases hj : j = k
    case pos =>
      subst hj
      by_cases hi : j = i <;> simp [hi]
    case neg =>
      have hb : (j == k) = false := by simpa using hj
      by_cases hi : k = i <;> simp only [List.map_cons, List.lookup_cons, hi, hb, hl, if_true, if_false]
      simp [← hi, hb]

@[simp]
theorem get?_update_self : (t.update i f).get? i = (t.get? i).map f := by
  simp [get?_update]

theorem get?_update_ne (h : j ≠ i) : (t.update i f).get? j = t.get? j := by
  simp [get?_update, h]

theorem get?_update_cases (h : (t.update i f).get? j = some b) :
    (j = i ∧ ∃ a, t.get? i = some a ∧ b = f a) ∨ (j ≠ i ∧ t.get? j = some b) := by
  rw [get?_update] at h
  split at h
  case isFalse hj => exact .inr ⟨hj, h⟩
  case isTrue hj =>
    subst hj
    obtain ⟨a, ha, rfl⟩ := Option.map_eq_some_iff.mp h
    exact .inl ⟨rfl, a, ha, rfl⟩

@[simp]
theorem isSome_get?_update : ((t.update i f).get? j).isSome = (t.get? j).isSome := by
  rw [get?_update]
  split <;> simp

-- The table without one row, as a `DELETE .. WHERE rowid = ?` leaves it.
def delete (t : Table α) (i : Rowid) : Table α where
  rows   := t.rows.filter (·.1 ≠ i)
  sorted := t.sorted.filter _

theorem get?_delete : (t.delete i).get? j = if j = i then none else t.get? j := by
  apply Option.ext
  intro a
  rw [← mem_rows_iff]
  simp only [delete, List.mem_filter, mem_rows_iff]
  split <;> simp_all

theorem delete_update {f : α → α} : (t.update j f).delete i = (t.delete i).update j f := by
  ext1
  simp only [delete, update, List.filter_map]
  congr 1
  refine List.filter_congr fun r _ => ?_
  simp only [Function.comp_apply]
  split <;> rfl

-- The rows that satisfy a `WHERE` clause, in the order of the table.
def select (t : Table α) (p : Rowid → α → Bool) : List (Rowid × α) :=
  t.rows.filter fun r => p r.1 r.2

theorem mem_select {p : Rowid → α → Bool} :
    (i, a) ∈ t.select p ↔ t.get? i = some a ∧ p i a = true := by
  simp [select, mem_rows_iff]

end Table
end Sql
