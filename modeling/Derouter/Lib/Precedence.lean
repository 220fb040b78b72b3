import Derouter.Lib.Correlation

-- Lists in which some elements need what others before them have given.

namespace Precedence

universe u v

variable {α : Type u} {κ : Type v} {need give : α → Option κ} {l l' : List α} {a : α}

def Ordered (need give : α → Option κ) (l : List α) : Prop :=
  ∀ before a after, l = before ++ a :: after → ∀ k, need a = some k → k ∈ before.filterMap give

namespace Ordered

theorem nil : Ordered need give [] :=
  fun _ _ _ h => by simp at h

theorem concat_iff : Ordered need give (l ++ [a]) ↔
    Ordered need give l ∧ ∀ k, need a = some k → k ∈ l.filterMap give := by
  simp only [Ordered, Correlation.concat_eq_append_cons_iff]
  constructor
  case mp =>
    intro h
    refine ⟨?_, h l a [] (.inl ⟨rfl, rfl, rfl⟩)⟩
    rintro before b after rfl
    exact h before b (after ++ [a]) (.inr ⟨after, rfl, rfl⟩)
  case mpr =>
    rintro ⟨hl, ha⟩ before b after (⟨rfl, rfl, _⟩ | ⟨after', _, rfl⟩)
    · exact ha
    · exact hl before b after' rfl

theorem of_append (h : Ordered need give (l ++ l')) : Ordered need give l := by
  rintro before a after rfl
  exact h before a (after ++ l') (by simp)

theorem insert (h : Ordered need give (l ++ l')) (hn : need a = none) :
    Ordered need give (l ++ a :: l') := by
  induction l' using List.reverseRecOn
  case nil              => exact concat_iff.mpr ⟨by simpa using h, by simp [hn]⟩
  case append_singleton l' b hi =>
    rw [← List.append_assoc] at h
    rw [← List.cons_append, ← List.append_assoc]
    obtain ⟨h, hb⟩ := concat_iff.mp h
    refine concat_iff.mpr ⟨hi h, fun k hk => ?_⟩
    have hm := hb k hk
    simp only [List.mem_filterMap, List.mem_append, List.mem_cons] at hm ⊢
    obtain ⟨x, hx, hg⟩ := hm
    exact ⟨x, hx.imp_right .inr, hg⟩

end Ordered
end Precedence
