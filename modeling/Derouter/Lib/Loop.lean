import Mathlib.Data.List.Basic

-- Loops over a list whose body may fail, with invariants that know what is left of the list.

namespace Loop

universe u v w

variable {α : Type u} {β : Type v} {f : β → α → Option β} {l : List α} {b c : β}

theorem invariant {I : List α → β → Prop} (h : l.foldlM f b = some c) (h₁ : I l b)
    (hs : ∀ a rest b c, I (a :: rest) b → f b a = some c → I rest c) : I [] c := by
  induction l generalizing b
  case nil =>
    rw [List.foldlM_nil] at h
    exact Option.some.inj h ▸ h₁
  case cons a rest hi =>
    rw [List.foldlM_cons] at h
    have ⟨b', hb, h⟩ := Option.bind_eq_some_iff.mp h
    exact hi h <| hs a rest b b' h₁ hb

theorem total {I : List α → β → Prop} (h₁ : I l b)
    (hs : ∀ a rest b, I (a :: rest) b → ∃ c, f b a = some c ∧ I rest c) :
    ∃ c, l.foldlM f b = some c ∧ I [] c := by
  induction l generalizing b
  case nil => exact ⟨b, rfl, h₁⟩
  case cons a rest hi =>
    have ⟨b', hb, h'⟩ := hs a rest b h₁
    have ⟨c, hc, hc'⟩ := hi h'
    exact ⟨c, by rw [List.foldlM_cons, hb, Option.bind_eq_bind, Option.bind_some, hc], hc'⟩

theorem foldlM_map {g : β → β} (h : ∀ b a, f (g b) a = (f b a).map g) :
    l.foldlM f (g b) = (l.foldlM f b).map g := by
  induction l generalizing b
  case nil => rfl
  case cons a rest hi =>
    rw [List.foldlM_cons, List.foldlM_cons, h]
    cases f b a
    case none    => rfl
    case some b' => exact hi

-- A loop that adds one partial map after the other to what it has. No key may come twice, and none of
-- them does if the maps have no key in common.
theorem merge {κ γ : Type*} (view : β → κ → Option γ) (part : α → κ → Option γ)
    (hs : ∀ a ∈ l, ∀ b, (∀ k, (part a k).isSome → view b k = none) →
      ∃ c, f b a = some c ∧ ∀ k x, view c k = some x ↔ part a k = some x ∨ view b k = some x)
    (hd : l.Pairwise fun a a' => ∀ k, (part a k).isSome → part a' k = none)
    (hf : ∀ a ∈ l, ∀ k, (part a k).isSome → view b k = none) :
    ∃ c, l.foldlM f b = some c ∧
      ∀ k x, view c k = some x ↔ (∃ a ∈ l, part a k = some x) ∨ view b k = some x := by
  induction l generalizing b
  case nil => exact ⟨b, rfl, fun k x => by simp⟩
  case cons a l hi =>
    obtain ⟨ha, hd⟩ := List.pairwise_cons.mp hd
    obtain ⟨b', hb, hv⟩ := hs a List.mem_cons_self b (hf a List.mem_cons_self)
    have hf' : ∀ a' ∈ l, ∀ k, (part a' k).isSome → view b' k = none := by
      intro a' hm k hp
      refine Option.eq_none_iff_forall_ne_some.mpr fun x hx => ?_
      cases (hv k x).mp hx
      case inl hx => simp [ha a' hm k (by simp [hx])] at hp
      case inr hx => simp [hf a' (List.mem_cons_of_mem _ hm) k hp] at hx
    obtain ⟨c, hc, hv'⟩ := hi (fun a' hm => hs a' (List.mem_cons_of_mem _ hm)) hd hf'
    refine ⟨c, by rw [List.foldlM_cons, hb]; exact hc, fun k x => ?_⟩
    rw [hv', hv, ← or_assoc, or_comm (b := part a k = some x), List.exists_mem_cons_iff]

theorem mapM_eq_none_iff {γ : Type v} {g : α → Option γ} :
    l.mapM g = none ↔ ∃ a ∈ l, g a = none := by
  induction l
  case nil => simp
  case cons a l hi =>
    rw [List.mapM_cons, List.exists_mem_cons_iff, ← hi]
    cases hg : g a
    case none   => simp
    case some b => cases l.mapM g <;> simp

theorem mapM_eq_map {γ : Type v} {g : α → Option γ} {f : α → γ} (h : ∀ a ∈ l, g a = some (f a)) :
    l.mapM g = some (l.map f) := by
  induction l
  case nil => rfl
  case cons a l hi =>
    obtain ⟨ha, hl⟩ := List.forall_mem_cons.mp h
    rw [List.mapM_cons, ha, hi hl]
    rfl

theorem mem_mapM_iff {γ : Type v} {g : α → Option γ} {l' : List γ} {b : γ}
    (h : l.mapM g = some l') : b ∈ l' ↔ ∃ a ∈ l, g a = some b := by
  induction l generalizing l'
  case nil =>
    obtain rfl := Option.some.inj h
    simp
  case cons a l hi =>
    simp only [List.mapM_cons, Option.bind_eq_bind, Option.bind_eq_some_iff] at h
    obtain ⟨c, hc, t, ht, he⟩ := h
    obtain rfl := Option.some.inj he
    rw [List.mem_cons, hi ht, List.exists_mem_cons_iff, hc, Option.some_inj, eq_comm]

theorem map_mapM {γ : Type v} {δ : Type w} {g : α → Option γ} {p : γ → δ} {q : α → δ}
    (hg : ∀ a b, g a = some b → p b = q a) {l' : List γ} (h : l.mapM g = some l') :
    l'.map p = l.map q := by
  induction l generalizing l'
  case nil =>
    obtain rfl := Option.some.inj h
    rfl
  case cons a l hi =>
    simp only [List.mapM_cons, Option.bind_eq_bind, Option.bind_eq_some_iff] at h
    obtain ⟨b, hb, t, ht, he⟩ := h
    obtain rfl := Option.some.inj he
    rw [List.map_cons, List.map_cons, hg a b hb, hi ht]

end Loop
