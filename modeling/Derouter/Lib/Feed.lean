import Derouter.Lib.Delta

-- A replica of a map that is fed by the changes to the map, and by copies of the whole map. A copy may
-- overtake changes that were made before it was taken.

namespace Feed

universe u v

inductive Item (κ : Type u) (α : Type v)
  | change (e : κ × Option α)
  | copy (m : κ → Option α)

variable {κ : Type u} {α : Type v} [DecidableEq κ] {k : κ} {v : Option α} {m : κ → Option α}
variable {replica : Option (κ → Option α)} {item : Item κ α} {items pre post : List (Item κ α)}

-- There is no replica before the first copy.
def take (replica : Option (κ → Option α)) : Item κ α → Option (κ → Option α)
  | .change e => replica.map (Delta.apply · e)
  | .copy m   => some m

-- What an item says about a key.
def Item.value? (k : κ) : Item κ α → Option (Option α)
  | change e => if k = e.1 then some e.2 else none
  | copy m   => some (m k)

-- What the last item says that says something about a key.
def last (k : κ) : List (Item κ α) → Option (Option α)
  | []            => none
  | item :: items => (last k items).or (item.value? k)

theorem last_append : last k (pre ++ post) = (last k post).or (last k pre) := by
  induction pre
  case nil            => simp [last]
  case cons item _ hi => rw [List.cons_append, last, hi, last, Option.or_assoc]

theorem last_map_isSome_iff {es : List (κ × Option α)} :
    (last k (es.map Item.change)).isSome ↔ k ∈ es.map (·.1) := by
  induction es
  case nil          => simp [last]
  case cons e es hi =>
    rw [List.map_cons, List.map_cons, last, List.mem_cons, Option.isSome_or, Bool.or_eq_true, hi]
    by_cases hk : k = e.1 <;> simp [Item.value?, hk]

theorem last_map_eq_some {es : List (κ × Option α)} (h : last k (es.map Item.change) = some x) :
    ∃ e ∈ es, k = e.1 ∧ e.2 = x := by
  induction es
  case nil          => simp [last] at h
  case cons e es hi =>
    rw [List.map_cons, last, Option.or_eq_some_iff] at h
    cases h
    case inl h =>
      obtain ⟨e', he', hk⟩ := hi h
      exact ⟨e', List.mem_cons_of_mem _ he', hk⟩
    case inr h =>
      by_cases hk : k = e.1
      case pos =>
        rw [Item.value?, if_pos hk] at h
        exact ⟨e, List.mem_cons_self, hk, Option.some.inj h.2⟩
      case neg => simp [Item.value?, hk] at h

theorem take_eq_some (h : take replica item = some m) :
    item.value? k = some (m k) ∨ item.value? k = none ∧ ∃ m', replica = some m' ∧ m' k = m k := by
  cases item
  case copy m' =>
    obtain rfl : m' = m := Option.some.inj h
    exact .inl rfl
  case change e =>
    obtain ⟨m', hm', rfl⟩ := Option.map_eq_some_iff.mp h
    by_cases hk : k = e.1
    case pos => exact .inl (by simp [Item.value?, Delta.apply, hk])
    case neg => exact .inr ⟨by simp [Item.value?, hk], m', hm', (Delta.apply_of_ne hk).symm⟩

-- Once all items are taken, a replica holds the given value of a key: the last item about the key
-- says so, or no item says anything and the replica holds the value already.
structure Leads (replica : Option (κ → Option α)) (items : List (Item κ α)) (k : κ) (v : Option α) :
    Prop where
  said   : ∀ x, last k items = some x → x = v
  unsaid : last k items = none → ∀ m, replica = some m → m k = v

namespace Leads

theorem nil : Leads (none : Option (κ → Option α)) [] k v where
  said   := by simp [last]
  unsaid := by simp

theorem eq (h : Leads (some m) [] k v) : m k = v :=
  h.unsaid rfl m rfl

theorem take (h : Leads replica (item :: items) k v) : Leads (Feed.take replica item) items k v where
  said x hx := h.said x (by rw [last, hx, Option.some_or])
  unsaid hn m hm := by
    have hl : last k (item :: items) = item.value? k := by rw [last, hn, Option.none_or]
    cases take_eq_some (k := k) hm
    case inl hv => exact h.said _ (hl.trans hv)
    case inr hv =>
      obtain ⟨hv, m', hm', he⟩ := hv
      exact he ▸ h.unsaid (hl.trans hv) m' hm'

theorem skip (h : Leads none (pre ++ post) k v) : Leads none post k v where
  said x hx := h.said x (by rw [last_append, hx, Option.some_or])
  unsaid    := by simp

theorem append (h : Leads replica items k v) {es : List (κ × Option α)}
    (hs : ∀ e ∈ es, k = e.1 → e.2 = v') (hr : k ∉ es.map (·.1) → v' = v) :
    Leads replica (items ++ es.map .change) k v' := by
  by_cases hk : k ∈ es.map (·.1)
  case pos =>
    obtain ⟨y, hy⟩ := Option.isSome_iff_exists.mp (last_map_isSome_iff.mpr hk)
    have hl : last k (items ++ es.map .change) = some y := by rw [last_append, hy, Option.some_or]
    refine ⟨fun x hx => ?_, fun hn => by simp [hl] at hn⟩
    obtain rfl := Option.some.inj (hx.symm.trans hl)
    obtain ⟨e, he, hk, rfl⟩ := last_map_eq_some hy
    exact hs e he hk
  case neg =>
    have hn : last k (es.map Item.change) = none := by
      rwa [← Option.not_isSome_iff_eq_none, last_map_isSome_iff]
    have hl : last k (items ++ es.map .change) = last k items := by
      rw [last_append, hn, Option.none_or]
    rw [hr hk]
    exact ⟨fun x hx => h.said x (hl ▸ hx), fun hn => h.unsaid (hl ▸ hn)⟩

-- A copy that is taken now may come in anywhere between the items: those behind it say what the key
-- is now, or say nothing.
theorem insert (h : Leads replica (pre ++ post) k (m k)) :
    Leads replica (pre ++ .copy m :: post) k (m k) := by
  have hl : last k (pre ++ .copy m :: post) = some ((last k post).getD (m k)) := by
    rw [last_append, last, Item.value?]
    cases last k post <;> rfl
  constructor
  case unsaid => simp [hl]
  case said =>
    intro x hx
    obtain rfl := Option.some.inj (hl.symm.trans hx)
    cases hp : last k post
    case none   => rfl
    case some y => exact h.said y (by rw [last_append, hp, Option.some_or])

end Leads
end Feed
