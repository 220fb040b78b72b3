import Mathlib.Data.List.Basic

-- Labelled transition systems. A label names the party that moves and the inputs it moves on, so
-- that a run can be read back as a schedule.

namespace Transition

universe u v

variable {σ : Type u} {ι : Type v} {step : σ → ι → σ → Prop}

-- A run lists the state before each step next to the label of that step.
inductive Run (step : σ → ι → σ → Prop) : σ → List (σ × ι) → σ → Prop
  | nil {s}              : Run step s [] s
  | cons {s₁ l s₂ tr s₃} : step s₁ l s₂ → Run step s₂ tr s₃ → Run step s₁ ((s₁, l) :: tr) s₃

-- Every step of a run meets a condition on the state before it and on its label.
def Meets (cond : σ → ι → Prop) (tr : List (σ × ι)) : Prop :=
  ∀ p ∈ tr, cond p.1 p.2

theorem Meets.head {cond : σ → ι → Prop} {tr} (h : Meets cond ((s, l) :: tr)) : cond s l :=
  h (s, l) List.mem_cons_self

theorem Meets.tail {cond : σ → ι → Prop} {tr} (h : Meets cond (p :: tr)) : Meets cond tr :=
  fun q hq => h q (List.mem_cons_of_mem _ hq)

namespace Run

theorem single {s₁ s₂ : σ} {l : ι} (h : step s₁ l s₂) : Run step s₁ [(s₁, l)] s₂ :=
  .cons h .nil

theorem trans {s₁ s₂ s₃ : σ} {tr₁ tr₂} (r₁ : Run step s₁ tr₁ s₂) (r₂ : Run step s₂ tr₂ s₃) :
    Run step s₁ (tr₁ ++ tr₂) s₃ := by
  induction r₁
  case nil           => exact r₂
  case cons h _ hi   => exact .cons h (hi r₂)

theorem restrict {cond : σ → ι → Prop} {s₁ s₂ : σ} {tr} (r : Run step s₁ tr s₂)
    (hc : Meets cond tr) : Run (fun s l s' => step s l s' ∧ cond s l) s₁ tr s₂ := by
  induction r
  case nil         => exact .nil
  case cons e _ hi => exact .cons ⟨e, hc.head⟩ (hi hc.tail)

theorem invariant {I : σ → Prop} {s₁ s₂ : σ} {tr} (r : Run step s₁ tr s₂) (h₁ : I s₁)
    (hs : ∀ s l s', I s → step s l s' → I s') : I s₂ := by
  induction r
  case nil         => exact h₁
  case cons e _ hi => exact hi (hs _ _ _ h₁ e)

-- The induction principle for invariants that a condition on the steps protects.
theorem invariant_of_meets {I : σ → Prop} {cond : σ → ι → Prop} {s₁ s₂ : σ} {tr}
    (r : Run step s₁ tr s₂) (hc : Meets cond tr) (h₁ : I s₁)
    (hs : ∀ s l s', I s → cond s l → step s l s' → I s') : I s₂ := by
  induction r
  case nil         => exact h₁
  case cons e _ hi => exact hi hc.tail (hs _ _ _ h₁ hc.head e)

theorem meets_of_invariant {I : σ → Prop} {cond cond' : σ → ι → Prop} {s₁ s₂ : σ} {tr}
    (r : Run step s₁ tr s₂) (hc : Meets cond tr) (h₁ : I s₁)
    (hs : ∀ s l s', I s → cond s l → step s l s' → I s')
    (h : ∀ s l s', I s → step s l s' → cond' s l) : Meets cond' tr := by
  induction r
  case nil         => simp [Meets]
  case cons e _ hi =>
    exact List.forall_mem_cons.mpr ⟨h _ _ _ h₁ e, hi hc.tail (hs _ _ _ h₁ hc.head e)⟩

theorem meets_iff {I : σ → Prop} {cond cond' : σ → ι → Prop} {s₁ s₂ : σ} {tr}
    (r : Run step s₁ tr s₂) (h₁ : I s₁) (hi : ∀ s l s', I s → step s l s' → I s')
    (hc : ∀ s l, I s → (cond s l ↔ cond' s l)) : Meets cond tr ↔ Meets cond' tr := by
  induction r
  case nil         => exact iff_of_true (by simp [Meets]) (by simp [Meets])
  case cons e _ ih =>
    have ih := ih (hi _ _ _ h₁ e)
    simp only [Meets, List.forall_mem_cons] at ih ⊢
    rw [ih, hc _ _ h₁]

-- Every state that a run visits, its last one included.
def Always (P : σ → Prop) (tr : List (σ × ι)) (s : σ) : Prop :=
  (∀ p ∈ tr, P p.1) ∧ P s

theorem always_of_meets {I : σ → Prop} {cond : σ → ι → Prop} {s₁ s₂ : σ} {tr}
    (r : Run step s₁ tr s₂) (hc : Meets cond tr) (h₁ : I s₁)
    (hs : ∀ s l s', I s → cond s l → step s l s' → I s') : Always I tr s₂ := by
  induction r
  case nil => exact ⟨nofun, h₁⟩
  case cons e _ hi =>
    have ⟨ht, h₂⟩ := hi hc.tail (hs _ _ _ h₁ hc.head e)
    exact ⟨List.forall_mem_cons.mpr ⟨h₁, ht⟩, h₂⟩

theorem Always.imp {P Q : σ → Prop} {tr : List (σ × ι)} (h : Always P tr s) (hi : ∀ s, P s → Q s) :
    Always Q tr s :=
  ⟨fun p hp => hi p.1 (h.1 p hp), hi s h.2⟩

-- When a step keeps `P` exactly if it meets `cond`, then `P` holds all along a run exactly if all of
-- the run's steps meet `cond`.
theorem always_iff_meets {I P : σ → Prop} {cond : σ → ι → Prop} {s₁ s₂ : σ} {tr}
    (r : Run step s₁ tr s₂) (h₁ : I s₁) (hp : P s₁) (hi : ∀ s l s', I s → step s l s' → I s')
    (hs : ∀ s l s', I s → P s → step s l s' → (P s' ↔ cond s l)) :
    Always P tr s₂ ↔ Meets cond tr := by
  induction r
  case nil => simp [Always, Meets, hp]
  case cons s l s' tr s'' e r ih =>
    have hc := hs _ _ _ h₁ hp e
    by_cases hp' : P s'
    case pos =>
      have ih := ih (hi _ _ _ h₁ e) hp'
      simp only [Always, Meets, List.forall_mem_cons] at ih ⊢
      rw [← ih]
      simp [hp, hc.mp hp']
    case neg =>
      have hv : ¬Always P tr s'' := by
        intro ⟨h, h'⟩
        cases r
        case nil  => exact hp' h'
        case cons => exact hp' (h _ List.mem_cons_self)
      simp only [Always, Meets, List.forall_mem_cons]
      exact ⟨fun h => absurd ⟨h.1.2, h.2⟩ hv, fun h => absurd (hc.mpr h.1) hp'⟩

end Run

-- The step relation of a function that is undefined where the label is not enabled.
def ofFn (f : σ → ι → Option σ) : σ → ι → σ → Prop :=
  fun s l s' => f s l = some s'

-- Runs a schedule and records the state before each step.
def exec (f : σ → ι → Option σ) : σ → List ι → Option (List (σ × ι) × σ)
  | s, []      => some ([], s)
  | s, l :: ls =>
    match f s l with
    | none    => none
    | some s' => (exec f s' ls).map fun p => ((s, l) :: p.1, p.2)

theorem Run.of_exec {f : σ → ι → Option σ} {s₁ s₂ : σ} {ls : List ι} {tr}
    (h : exec f s₁ ls = some (tr, s₂)) : Run (ofFn f) s₁ tr s₂ := by
  induction ls generalizing s₁ tr
  case nil =>
    simp only [exec, Option.some.injEq, Prod.mk.injEq] at h
    obtain ⟨rfl, rfl⟩ := h
    exact .nil
  case cons l ls hi =>
    simp only [exec] at h
    cases hf : f s₁ l
    case none => simp [hf] at h
    case some s' =>
      simp only [hf, Option.map_eq_some_iff, Prod.mk.injEq] at h
      obtain ⟨⟨tr', s''⟩, he, rfl, rfl⟩ := h
      exact .cons hf (hi he)

theorem exec_labels {f : σ → ι → Option σ} {s₁ s₂ : σ} {ls : List ι} {tr}
    (h : exec f s₁ ls = some (tr, s₂)) : tr.map (·.2) = ls := by
  induction ls generalizing s₁ tr
  case nil =>
    simp only [exec, Option.some.injEq, Prod.mk.injEq] at h
    rw [← h.1, List.map_nil]
  case cons l ls hi =>
    simp only [exec] at h
    cases hf : f s₁ l
    case none => simp [hf] at h
    case some s' =>
      simp only [hf, Option.map_eq_some_iff, Prod.mk.injEq] at h
      obtain ⟨⟨tr', s''⟩, he, rfl, rfl⟩ := h
      rw [List.map_cons, hi he]

-- The run of a schedule, for a property of its last state that can be evaluated.
theorem Run.of_schedule (f : σ → ι → Option σ) (s₁ : σ) (ls : List ι) (check : σ → Bool)
    (h : (exec f s₁ ls).any (check ·.2) = true) :
    ∃ tr s₂, Run (ofFn f) s₁ tr s₂ ∧ tr.map (·.2) = ls ∧ check s₂ = true := by
  have ⟨⟨tr, s₂⟩, he, hc⟩ := Option.any_eq_true _ _ |>.mp h
  exact ⟨tr, s₂, .of_exec he, exec_labels he, hc⟩

theorem Run.of_checked (f : σ → ι → Option σ) (s₁ : σ) (ls : List ι) (ok : σ → ι → Bool)
    (check : σ → Bool)
    (h : (exec f s₁ ls).any (fun p => p.1.all (fun q => ok q.1 q.2) && check p.2) = true) :
    ∃ tr s₂, Run (ofFn f) s₁ tr s₂ ∧ Meets (fun s l => ok s l = true) tr ∧ check s₂ = true := by
  have ⟨⟨tr, s₂⟩, he, hc⟩ := Option.any_eq_true _ _ |>.mp h
  have ⟨ho, hc⟩ := Bool.and_eq_true_iff.mp hc
  exact ⟨tr, s₂, .of_exec he, List.all_eq_true.mp ho, hc⟩

theorem Run.foldl (f : σ → ι → σ) (s : σ) (ls : List ι) :
    ∃ tr, Run (ofFn fun s l => some (f s l)) s tr (ls.foldl f s) ∧ tr.map (·.2) = ls := by
  induction ls generalizing s
  case nil => exact ⟨[], .nil, rfl⟩
  case cons l ls hi =>
    have ⟨tr, r, ht⟩ := hi (f s l)
    exact ⟨(s, l) :: tr, .cons rfl r, by rw [List.map_cons, ht]⟩

theorem Meets.of_labels {cond : σ → ι → Prop} {tr : List (σ × ι)} {ls : List ι}
    (ht : tr.map (·.2) = ls) (h : ∀ l ∈ ls, ∀ s, cond s l) : Meets cond tr :=
  fun p hp => h p.2 (ht ▸ List.mem_map_of_mem hp) p.1

end Transition
