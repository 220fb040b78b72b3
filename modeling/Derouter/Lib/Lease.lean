import Mathlib.Data.Option.Basic
import Mathlib.Logic.Function.Basic

-- Maps whose keys are leased to holders. The end of a holder frees all of its keys at once.

namespace Lease

universe u v w

inductive Event (κ : Type u) (ω : Type v) (α : Type w)
  | granted (key : κ) (holder : ω) (value : α)
  | ended (holder : ω)

variable {κ : Type u} {ω : Type v} {α : Type w} {e : Event κ ω α} {es : List (Event κ ω α)}

-- The latest grant of a key is one of the value to the holder, who has not ended since. The events
-- are listed from the latest one on.
def Stands (es : List (Event κ ω α)) (k : κ) (h : ω) (a : α) : Prop :=
  ∃ since before, es = since ++ .granted k h a :: before ∧ (∀ h' a', .granted k h' a' ∉ since) ∧
    .ended h ∉ since

theorem not_stands_nil : ¬Stands ([] : List (Event κ ω α)) k h a := by
  rintro ⟨since, before, he, -⟩
  exact List.append_ne_nil_of_right_ne_nil since (List.cons_ne_nil _ before) he.symm

theorem stands_cons_iff : Stands (e :: es) k h a ↔ e = .granted k h a ∨
    (Stands es k h a ∧ (∀ h' a', e ≠ .granted k h' a') ∧ e ≠ .ended h) := by
  constructor
  case mp =>
    rintro ⟨since, before, he, hg, hn⟩
    cases since
    case nil => exact .inl (List.cons.inj he).1
    case cons e' since =>
      obtain ⟨rfl, rfl⟩ := List.cons.inj he
      simp only [List.mem_cons, not_or] at hg hn
      exact .inr ⟨⟨since, before, rfl, fun h' a' => (hg h' a').2, hn.2⟩,
        fun h' a' => (hg h' a').1 ∘ Eq.symm, hn.1 ∘ Eq.symm⟩
  case mpr =>
    rintro (rfl | ⟨⟨since, before, rfl, hg, hn⟩, hg', hn'⟩)
    case inl => exact ⟨[], es, rfl, fun _ _ => List.not_mem_nil, List.not_mem_nil⟩
    case inr =>
      refine ⟨e :: since, before, rfl, fun h' a' => ?_, ?_⟩
      · simpa [hg] using (hg' h' a').symm
      · simpa [hn] using hn'.symm

variable [DecidableEq κ] [DecidableEq ω]

def apply (m : κ → Option (ω × α)) : Event κ ω α → κ → Option (ω × α)
  | .granted k h a => Function.update m k (some (h, a))
  | .ended h       => fun k => (m k).filter fun p => decide (p.1 ≠ h)

-- The map that a history leads to.
def map (es : List (Event κ ω α)) : κ → Option (ω × α) :=
  es.foldr (fun e m => apply m e) fun _ => none

@[simp]
theorem map_cons : map (e :: es) = apply (map es) e :=
  rfl

theorem map_eq_some_iff : map es k = some (h, a) ↔ Stands es k h a := by
  induction es
  case nil          => exact iff_of_false (by simp [map]) not_stands_nil
  case cons e es hi =>
    rw [stands_cons_iff, ← hi, map_cons]
    cases e
    case granted k' h' a' =>
      by_cases hk : k = k'
      case pos => simp [apply, hk, eq_comm]
      case neg => simp [apply, eq_comm, hk]
    case ended h' => simp [apply, Option.filter_eq_some_iff, @eq_comm _ h']

instance [DecidableEq α] : Decidable (Stands es k h a) :=
  decidable_of_iff (map es k = some (h, a)) map_eq_some_iff

-- The end of the first holder does not free the key of the second one.
example : Stands [.ended 0, .granted 7 1 true, .granted 5 0 false] 7 1 true ∧
    ¬Stands [.ended 0, .granted 7 1 true, .granted 5 0 false] 5 0 false := by
  decide

end Lease
