import Derouter.Lib.Sql.Table

-- What is left of a table when some of its columns are blanked out.

namespace Sql

universe u v

variable {α : Type u} {β : Type v}

namespace Table

variable {t : Table α} {f : α → β} {i : Rowid} {a : α}

def map (f : α → β) (t : Table α) : Table β where
  rows   := t.rows.map fun r => (r.1, f r.2)
  sorted := List.pairwise_map.mpr t.sorted

@[simp]
theorem get?_map : (t.map f).get? i = (t.get? i).map f := by
  simp only [get?, map]
  generalize t.rows = l
  induction l
  case nil => rfl
  case cons r l hi =>
    obtain ⟨j, b⟩ := r
    rw [List.map_cons, List.lookup_cons, List.lookup_cons, hi]
    cases i == j <;> rfl

@[simp]
theorem nextRowid_map : (t.map f).nextRowid = t.nextRowid := by
  simp only [nextRowid, map, List.getLast?_map]
  cases t.rows.getLast? <;> rfl

theorem map_insert : (t.insert a).map f = (t.map f).insert (f a) := by
  ext1
  have hr : ((t.map f).insert (f a)).rows = (t.map f).rows ++ [((t.map f).nextRowid, f a)] := rfl
  rw [hr, nextRowid_map]
  exact List.map_append

theorem map_update {f g g' : α → α} (hf : ∀ a, f (f a) = f a) (h : ∀ a, f (g' (f a)) = f (g a)) :
    ((t.map f).update i g').map f = (t.update i g).map f := by
  ext1
  simp only [map, update, List.map_map]
  refine List.map_congr_left fun r _ => ?_
  simp only [Function.comp_apply]
  split
  case isTrue  => rw [h]
  case isFalse => rw [hf]

end Table

namespace Plan

variable {plan : Plan α} {f : α → α} {l : List α}

-- The order of the rows does not depend on what is blanked out.
def Respects (plan : Plan α) (f : α → α) : Prop :=
  ∀ l, plan.order (l.map f) = (plan.order l).map f

theorem scan_respects : (scan : Plan α).Respects f :=
  fun _ => rfl

theorem Respects.first_map (h : plan.Respects f) : plan.first (l.map f) = (plan.first l).map f := by
  rw [first, first, h l, List.head?_map]

end Plan
end Sql
