import Mathlib.Data.List.Basic

-- Systems that give an output for each input, what of a state and of the inputs the outputs can depend
-- on, and which inputs the outputs of others can depend on.

namespace Noninterference

universe u v w

variable {σ : Type u} {ι : Type v} {ο : Type w}

-- The outputs for the inputs of a run, one after the other.
def outputs (next : σ → ι → σ × ο) : σ → List ι → List ο
  | _, []      => []
  | s, l :: ls => (next s l).2 :: outputs next (next s l).1 ls

-- Neither an output nor what is kept of the next state can tell whether the state and the input were
-- reduced to what is kept of them.
structure Unwinds (next : σ → ι → σ × ο) (keepState : σ → σ) (keepInput : ι → ι) (cond : ι → Prop) :
    Prop where
  output : ∀ s l, cond l → (next (keepState s) (keepInput l)).2 = (next s l).2
  state  : ∀ s l, cond l → keepState (next (keepState s) (keepInput l)).1 = keepState (next s l).1

variable {next : σ → ι → σ × ο} {keepState : σ → σ} {keepInput : ι → ι} {cond : ι → Prop}
variable {s s' : σ} {l l' : ι} {ls ls' : List ι}

namespace Unwinds

theorem output_eq (h : Unwinds next keepState keepInput cond) (hs : keepState s = keepState s')
    (hl : keepInput l = keepInput l') (hc : cond l) (hc' : cond l') :
    (next s l).2 = (next s' l').2 := by
  rw [← h.output s l hc, ← h.output s' l' hc', hs, hl]

theorem state_eq (h : Unwinds next keepState keepInput cond) (hs : keepState s = keepState s')
    (hl : keepInput l = keepInput l') (hc : cond l) (hc' : cond l') :
    keepState (next s l).1 = keepState (next s' l').1 := by
  rw [← h.state s l hc, ← h.state s' l' hc', hs, hl]

-- Two runs that differ in nothing that is kept have the same outputs.
theorem outputs_eq (h : Unwinds next keepState keepInput cond) (hs : keepState s = keepState s')
    (hl : ls.map keepInput = ls'.map keepInput) (hc : ∀ l ∈ ls, cond l) (hc' : ∀ l ∈ ls', cond l) :
    outputs next s ls = outputs next s' ls' := by
  induction ls generalizing s s' ls'
  case nil =>
    obtain rfl := List.map_eq_nil_iff.mp hl.symm
    rfl
  case cons l ls hi =>
    obtain ⟨l', ls', rfl, hl', hls⟩ := List.map_eq_cons_iff.mp hl.symm
    obtain ⟨hc, ht⟩ := List.forall_mem_cons.mp hc
    obtain ⟨hc', ht'⟩ := List.forall_mem_cons.mp hc'
    rw [outputs, outputs, h.output_eq hs hl'.symm hc hc',
      hi (h.state_eq hs hl'.symm hc hc') hls.symm ht ht']

end Unwinds

variable {sees : ι → Bool} {along : σ → ι → Prop} {alike : σ → σ → Prop}

end Noninterference
