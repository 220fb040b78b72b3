import Mathlib.Data.List.Sort
import Mathlib.Order.Defs.LinearOrder
import Derouter.Lib.Sql.Table

-- Paging through a table by a key: each query starts after the key of the last row of the page before.

namespace Sql
namespace Paging

universe u v

variable {α : Type u} {κ : Type v} [LinearOrder κ]

section

variable (key : α → κ) (rows : List α)

-- The rows after a cursor.
def after (cursor : κ) : List α :=
  rows.filter (cursor < key ·)

def page (plan : Plan α) (limit : Nat) (cursor : κ) : List α :=
  (plan.order (after key rows cursor)).take limit

-- The pages up to the first empty one, one behind the other. The rows of each come in an order of
-- their own. There is no result when the fuel does not suffice.
def collect (plans : Nat → Plan α) (limit : Nat) : Nat → Nat → κ → Option (List α)
  | 0, _, _ => none
  | fuel + 1, k, cursor =>
    match (page key rows (plans k) limit cursor).getLast? with
    | none   => some []
    | some a =>
      (collect plans limit fuel (k + 1) (key a)).map (page key rows (plans k) limit cursor ++ ·)

end

variable {key : α → κ} {rows : List α} {plan : Plan α} {limit : Nat} {cursor : κ} {a : α}

theorem mem_after : a ∈ after key rows cursor ↔ a ∈ rows ∧ cursor < key a := by
  simp [after]

theorem mem_of_mem_page (h : a ∈ page key rows plan limit cursor) : a ∈ after key rows cursor :=
  plan.mem_order.mp (List.mem_of_mem_take h)

theorem page_eq_nil_iff (hl : 0 < limit) :
    page key rows plan limit cursor = [] ↔ after key rows cursor = [] := by
  rw [page, List.take_eq_nil_iff, or_iff_right (Nat.ne_of_gt hl)]
  constructor <;> intro h
  case mp  => exact List.nil_perm.mp (h ▸ plan.perm _)
  case mpr => exact List.perm_nil.mp (h ▸ plan.perm _)

theorem length_page :
    (page key rows plan limit cursor).length = min limit (after key rows cursor).length := by
  rw [page, List.length_take, (plan.perm _).length_eq]

theorem after_key (h : a ∈ after key rows cursor) :
    after key rows (key a) = (after key rows cursor).filter (key a < key ·) := by
  rw [after, after, List.filter_filter]
  refine List.filter_congr fun b _ => ?_
  have hc : cursor < key a := (mem_after.mp h).2
  by_cases hb : key a < key b <;> simp [hb]
  exact hc.trans hb

theorem length_after_lt (h : a ∈ after key rows cursor) :
    (after key rows (key a)).length < (after key rows cursor).length := by
  rw [after_key h, List.length_filter_lt_length_iff_exists]
  exact ⟨a, h, by simp⟩

-- Every page gets the cursor further, so the pages come to an end.
theorem exists_collect (plans : Nat → Plan α) {fuel : Nat} (k : Nat)
    (hf : (after key rows cursor).length < fuel) :
    ∃ l, collect key rows plans limit fuel k cursor = some l := by
  induction fuel generalizing k cursor
  case zero => contradiction
  case succ fuel hi =>
    simp only [collect]
    split
    case h_1 => exact ⟨_, rfl⟩
    case h_2 a ha =>
      have ha := mem_of_mem_page (List.mem_of_getLast? ha)
      have hlt := length_after_lt ha
      obtain ⟨l, hl⟩ : ∃ l, collect key rows plans limit fuel (k + 1) (key a) = some l :=
        hi (k + 1) (by omega)
      exact ⟨_, by rw [hl, Option.map_some]⟩

theorem mem_after_of_collect {plans : Nat → Plan α} {fuel k : Nat} {l : List α}
    (h : collect key rows plans limit fuel k cursor = some l) (ha : a ∈ l) :
    a ∈ after key rows cursor := by
  induction fuel generalizing k cursor l
  case zero => contradiction
  case succ fuel hi =>
    simp only [collect] at h
    split at h
    case h_1 =>
      obtain rfl := Option.some.inj h
      contradiction
    case h_2 b hb =>
      obtain ⟨l', hl, rfl⟩ := Option.map_eq_some_iff.mp h
      cases List.mem_append.mp ha
      case inl ha => exact mem_of_mem_page ha
      case inr ha =>
        have hm := hi hl ha
        rw [after_key (mem_of_mem_page (List.mem_of_getLast? hb))] at hm
        exact (List.mem_filter.mp hm).1

theorem eq_of_ascending {l l' : List α} (h : l.Pairwise (key · < key ·))
    (h' : l'.Pairwise (key · < key ·)) (hm : ∀ a, a ∈ l ↔ a ∈ l') : l = l' := by
  have : Std.Irrefl fun a b : α => key a < key b := ⟨fun _ => lt_irrefl _⟩
  have : Std.Antisymm fun a b : α => key a < key b := ⟨fun _ _ hl hl' => absurd hl' (lt_asymm hl)⟩
  exact h.eq_of_mem_iff h' hm

theorem after_getLast_take (hs : rows.Pairwise (key · < key ·))
    (ha : ((after key rows cursor).take limit).getLast? = some a) :
    after key rows (key a) = (after key rows cursor).drop limit := by
  have hm := List.mem_of_mem_take (List.mem_of_getLast? ha)
  have hs : (after key rows cursor).Pairwise (key · < key ·) := hs.filter _
  rw [after_key hm]
  generalize after key rows cursor = l at *
  obtain ⟨init, hi⟩ := List.getLast?_eq_some_iff.mp ha
  rw [← List.take_append_drop limit l, List.pairwise_append, hi, List.pairwise_append] at hs
  obtain ⟨⟨_, _, hia⟩, _, hd⟩ := hs
  have hn : (l.take limit).filter (key a < key ·) = [] := by
    rw [hi, List.filter_eq_nil_iff]
    intro b hb
    cases List.mem_append.mp hb
    case inl hb => simpa using le_of_lt (hia b hb a List.mem_cons_self)
    case inr hb => simp [List.mem_singleton.mp hb]
  have hk : (l.drop limit).filter (key a < key ·) = l.drop limit := by
    rw [List.filter_eq_self]
    intro b hb
    simpa using hd a (List.mem_append_right _ List.mem_cons_self) b hb
  conv_lhs => rw [← List.take_append_drop limit l, List.filter_append, hn, hk, List.nil_append]

-- The first rows of each page, in the order of its query, are the first rows that are left.
def InOrder (plans : Nat → Plan α) (limit k : Nat) (l : List α) : Prop :=
  ∀ m, ((plans (k + m)).order (l.drop (m * limit))).take limit = (l.drop (m * limit)).take limit

theorem inOrder_nil {plans : Nat → Plan α} {k : Nat} : InOrder plans limit k [] := by
  intro m
  rw [List.drop_nil, List.perm_nil.mp ((plans (k + m)).perm [])]

theorem inOrder_iff {plans : Nat → Plan α} {k : Nat} {l : List α} : InOrder plans limit k l ↔
    ((plans k).order l).take limit = l.take limit ∧ InOrder plans limit (k + 1) (l.drop limit) := by
  constructor
  case mp =>
    intro h
    refine ⟨by simpa using h 0, fun m => ?_⟩
    have h := h (m + 1)
    rwa [Nat.add_mul, Nat.one_mul, Nat.add_comm (m * limit), ← List.drop_drop,
      Nat.add_comm m, ← Nat.add_assoc] at h
  case mpr =>
    rintro ⟨h₀, h⟩ m
    cases m
    case zero   => simpa using h₀
    case succ m =>
      have h := h m
      rwa [List.drop_drop, Nat.add_comm limit, ← Nat.succ_mul, Nat.add_assoc, Nat.add_comm 1] at h

-- The pages are all that is left, in ascending order, exactly if each of them begins with what comes
-- first.
theorem collect_eq_iff {plans : Nat → Plan α} {fuel k : Nat} (hs : rows.Pairwise (key · < key ·))
    (hl : 0 < limit) (hf : (after key rows cursor).length < fuel) :
    collect key rows plans limit fuel k cursor = some (after key rows cursor) ↔
      InOrder plans limit k (after key rows cursor) := by
  induction fuel generalizing k cursor
  case zero => contradiction
  case succ fuel hi =>
    simp only [collect]
    split
    case h_1 hp =>
      have hn := (page_eq_nil_iff hl).mp (List.getLast?_eq_none_iff.mp hp)
      simp [hn, inOrder_nil]
    case h_2 a ha =>
      have hlt := length_after_lt (mem_of_mem_page (List.mem_of_getLast? ha))
      rw [inOrder_iff]
      constructor
      case mp =>
        intro h
        obtain ⟨l, hc, he⟩ := Option.map_eq_some_iff.mp h
        have hp : page key rows (plans k) limit cursor = (after key rows cursor).take limit := by
          rw [List.prefix_iff_eq_take.mp ⟨l, he⟩, length_page, ← List.take_eq_take_min]
        rw [hp] at ha he
        have hr := after_getLast_take hs ha
        have hd : l = (after key rows cursor).drop limit :=
          List.append_cancel_left (he.trans (List.take_append_drop limit _).symm)
        rw [hd, ← hr] at hc
        exact ⟨hp, hr ▸ (hi (by omega)).mp hc⟩
      case mpr =>
        rintro ⟨hp, ho⟩
        have hp : page key rows (plans k) limit cursor = (after key rows cursor).take limit := hp
        rw [hp] at ha ⊢
        have hr := after_getLast_take hs ha
        rw [← hr] at ho
        rw [(hi (by omega)).mpr ho, Option.map_some, hr, List.take_append_drop]

end Paging
end Sql
