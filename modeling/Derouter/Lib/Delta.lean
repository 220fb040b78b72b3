import Mathlib.Data.List.Nodup
import Mathlib.Logic.Function.Basic

-- Change feeds of a map. An entry sets the value of a key, and `none` removes the key.

namespace Delta

universe u v

variable {κ : Type u} {α : Type v} [DecidableEq κ] {m m' : κ → Option α} {e : κ × Option α}
variable {es es' : List (κ × Option α)}

def apply (m : κ → Option α) (e : κ × Option α) : κ → Option α :=
  Function.update m e.1 e.2

@[simp]
theorem apply_self {a : Option α} : apply m (k, a) k = a :=
  Function.update_self ..

theorem apply_of_ne (h : k ≠ e.1) : apply m e k = m k :=
  Function.update_of_ne h ..

theorem apply_apply {a b : Option α} : apply (apply m (k, a)) (k, b) = apply m (k, b) :=
  Function.update_idem ..

def fold (m : κ → Option α) (es : List (κ × Option α)) : κ → Option α :=
  es.foldl apply m

theorem fold_append : fold m (es ++ es') = fold (fold m es) es' :=
  List.foldl_append

theorem fold_of_not_mem (h : k ∉ es.map (·.1)) : fold m es k = m k := by
  induction es generalizing m
  case nil => rfl
  case cons e es hi =>
    simp only [List.map_cons, List.mem_cons, not_or] at h
    calc
      fold m (e :: es) k = fold (apply m e) es k := rfl
      _                  = apply m e k           := hi h.2
      _                  = m k                   := apply_of_ne h.1

theorem fold_eq (hs : ∀ e ∈ es, m' e.1 = e.2) (hr : ∀ k, k ∉ es.map (·.1) → m' k = m k) :
    fold m es = m' := by
  induction es generalizing m
  case nil => exact funext fun k => (hr k List.not_mem_nil).symm
  case cons e es hi =>
    refine hi (fun e' he => hs e' (List.mem_cons_of_mem _ he)) fun k hk => ?_
    by_cases he : k = e.1
    case pos => rw [he, hs e List.mem_cons_self, apply_self]
    case neg =>
      rw [apply_of_ne he]
      exact hr k (by simp [he] at hk ⊢; exact hk)

-- A feed is the exact difference of two maps: it leads from one to the other, no entry is
-- redundant, and no key comes twice.
structure Exact (m : κ → Option α) (es : List (κ × Option α)) (m' : κ → Option α) : Prop where
  folds   : fold m es = m'
  changes : ∀ pre e post, es = pre ++ e :: post → apply (fold m pre) e ≠ fold m pre
  nodup   : (es.map (·.1)).Nodup

-- The same, said of each entry on its own. The order of the entries does not matter.
structure Tracks (m : κ → Option α) (es : List (κ × Option α)) (m' : κ → Option α) : Prop where
  sets  : ∀ e ∈ es, m' e.1 = e.2
  fresh : ∀ e ∈ es, m e.1 ≠ e.2
  rest  : ∀ k, k ∉ es.map (·.1) → m' k = m k
  nodup : (es.map (·.1)).Nodup

namespace Tracks

omit [DecidableEq κ] in
theorem nil : Tracks m [] m where
  sets  := fun _ h => absurd h List.not_mem_nil
  fresh := fun _ h => absurd h List.not_mem_nil
  rest  := fun _ _ => rfl
  nodup := .nil

omit [DecidableEq κ] in
theorem perm (h : Tracks m es m') (hp : es.Perm es') : Tracks m es' m' where
  sets  := fun e he => h.sets e (hp.mem_iff.mpr he)
  fresh := fun e he => h.fresh e (hp.mem_iff.mpr he)
  rest  := fun k hk => h.rest k ((hp.map _).mem_iff.not.mpr hk)
  nodup := (hp.map _).nodup_iff.mp h.nodup

theorem cons (h : Tracks m es m') (hk : e.1 ∉ es.map (·.1)) (he : m' e.1 ≠ e.2) :
    Tracks m (e :: es) (apply m' e) where
  sets := by
    intro e' h'
    cases List.mem_cons.mp h'
    case inl h' => rw [h', apply_self]
    case inr h' =>
      have hn : e'.1 ≠ e.1 := fun hn => hk (hn ▸ List.mem_map_of_mem h')
      rw [apply_of_ne hn, h.sets e' h']
  fresh := by
    intro e' h'
    cases List.mem_cons.mp h'
    case inl h' => exact h' ▸ h.rest e.1 hk ▸ he
    case inr h' => exact h.fresh e' h'
  rest := by
    intro k hk'
    simp only [List.map_cons, List.mem_cons, not_or] at hk'
    rw [apply_of_ne hk'.1, h.rest k hk'.2]
  nodup := List.nodup_cons.mpr ⟨hk, h.nodup⟩

theorem exact (h : Tracks m es m') : Exact m es m' where
  folds   := fold_eq h.sets h.rest
  nodup   := h.nodup
  changes := by
    intro pre e post he heq
    have hn := h.nodup
    rw [he, List.map_append, List.map_cons] at hn
    have hk : e.1 ∉ pre.map (·.1) := fun hk =>
      (List.nodup_append.mp hn).2.2 e.1 hk e.1 List.mem_cons_self rfl
    have hm : e ∈ es := he ▸ List.mem_append_right _ List.mem_cons_self
    have hv := congrFun heq e.1
    rw [apply_self, fold_of_not_mem hk] at hv
    exact h.fresh e hm hv.symm

end Tracks
end Delta
