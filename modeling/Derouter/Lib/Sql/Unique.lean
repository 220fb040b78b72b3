import Derouter.Lib.Sql.Table

-- Tables with unique indexes. A record occupies keys, one for each unique index that covers it, and
-- a partial index is one in which some records occupy no key.

namespace Sql

universe u v

variable {α : Type u} {κ : Type v} [DecidableEq κ] {keys : α → List κ}

structure UniqueTable (α : Type u) {κ : Type v} (keys : α → List κ) extends Table α where
  unique : ∀ {i j a b k},
    toTable.get? i = some a → toTable.get? j = some b → k ∈ keys a → k ∈ keys b → i = j

namespace UniqueTable

variable {t : UniqueTable α keys} {i j : Rowid} {a b : α}

instance : EmptyCollection (UniqueTable α keys) where
  emptyCollection := ⟨∅, fun h => nomatch h⟩

-- No row but the `i`-th one occupies a key of the record `a`.
def Free (t : UniqueTable α keys) (i : Rowid) (a : α) : Prop :=
  ∀ r ∈ t.rows, r.1 ≠ i → ∀ k ∈ keys a, k ∉ keys r.2

instance : Decidable (t.Free i a) :=
  inferInstanceAs <| Decidable (∀ r ∈ t.rows, r.1 ≠ i → ∀ k ∈ keys a, k ∉ keys r.2)

omit [DecidableEq κ] in
theorem free_iff :
    t.Free i a ↔ ∀ j b, t.get? j = some b → j ≠ i → ∀ k ∈ keys a, k ∉ keys b := by
  simp only [Free, Prod.forall, Table.mem_rows_iff]

-- The rows that occupy a key of the record `a` in one of the targeted indexes.
def conflicts (t : UniqueTable α keys) (target : κ → Bool) (a : α) : List (Rowid × α) :=
  t.rows.filter fun r => (keys a).any fun k => target k && decide (k ∈ keys r.2)

theorem mem_conflicts {target : κ → Bool} :
    (i, b) ∈ t.conflicts target a ↔
      t.get? i = some b ∧ ∃ k ∈ keys a, target k = true ∧ k ∈ keys b := by
  simp [conflicts, Table.mem_rows_iff]

-- The target of an `ON CONFLICT` clause that names none.
abbrev anyIndex : κ → Bool :=
  fun _ => true

theorem no_conflicts_of_free {target : κ → Bool}
    (h : ∀ j b, t.get? j = some b → ∀ k ∈ keys a, k ∉ keys b) : t.conflicts target a = [] := by
  refine List.eq_nil_iff_forall_not_mem.mpr fun ⟨j, b⟩ hm => ?_
  obtain ⟨hb, k, hk, _, hk'⟩ := mem_conflicts.mp hm
  exact h j b hb k hk hk'

omit [DecidableEq κ] in
theorem unique_insert (h : t.Free t.nextRowid a) {i j : Rowid} {b c : α} {k : κ}
    (hi : (t.toTable.insert a).get? i = some b) (hj : (t.toTable.insert a).get? j = some c)
    (hb : k ∈ keys b) (hc : k ∈ keys c) : i = j := by
  rw [free_iff] at h
  rcases Table.get?_insert_cases hi with ⟨rfl, rfl⟩ | hi' <;>
    rcases Table.get?_insert_cases hj with ⟨rfl, rfl⟩ | hj'
  · rfl
  · exact absurd hc <| h _ _ hj' (Table.ne_nextRowid hj') _ hb
  · exact absurd hb <| h _ _ hi' (Table.ne_nextRowid hi') _ hc
  · exact t.unique hi' hj' hb hc

omit [DecidableEq κ] in
theorem unique_update {f : α → α} (ha : t.get? i = some a) (h : t.Free i (f a)) {j l : Rowid}
    {b c : α} {k : κ} (hj : (t.toTable.update i f).get? j = some b)
    (hl : (t.toTable.update i f).get? l = some c) (hb : k ∈ keys b) (hc : k ∈ keys c) : j = l := by
  rw [free_iff] at h
  rcases Table.get?_update_cases hj with ⟨rfl, _, hj', rfl⟩ | ⟨hn, hj'⟩ <;>
    rcases Table.get?_update_cases hl with ⟨rfl, _, hl', rfl⟩ | ⟨hn', hl'⟩
  · rfl
  · cases ha.symm.trans hj'
    exact absurd hc <| h _ _ hl' hn' _ hb
  · cases ha.symm.trans hl'
    exact absurd hb <| h _ _ hj' hn _ hc
  · exact t.unique hj' hl' hb hc

-- `INSERT`, which fails when an index already holds a key of the new record.
def insert? (t : UniqueTable α keys) (a : α) : Option (Rowid × UniqueTable α keys) :=
  if h : t.Free t.nextRowid a then
    some (t.nextRowid, { toTable := t.toTable.insert a, unique := unique_insert h })
  else
    none

-- `UPDATE` of the row `i`, which fails when another row holds a key of the new record.
def update? (t : UniqueTable α keys) (i : Rowid) (f : α → α) : Option (UniqueTable α keys) :=
  match ha : t.get? i with
  | none   => some t
  | some a =>
    if h : t.Free i (f a) then
      some { toTable := t.toTable.update i f, unique := unique_update ha h }
    else
      none

-- `UPDATE` of the row `i` by a function that adds no keys, which cannot fail.
def rewrite (t : UniqueTable α keys) (i : Rowid) (f : α → α) (h : ∀ a, keys (f a) ⊆ keys a) :
    UniqueTable α keys where
  toTable := t.toTable.update i f
  unique  := by
    intro j l b c k hj hl hb hc
    rcases Table.get?_update_cases hj with ⟨rfl, _, hj', rfl⟩ | ⟨_, hj'⟩ <;>
      rcases Table.get?_update_cases hl with ⟨rfl, _, hl', rfl⟩ | ⟨_, hl'⟩
    · rfl
    · exact t.unique hj' hl' (h _ hb) hc
    · exact t.unique hj' hl' hb (h _ hc)
    · exact t.unique hj' hl' hb hc

-- `INSERT .. ON CONFLICT (target) DO UPDATE SET f RETURNING ROWID`. A conflict outside the target
-- fails the statement, and so does an update that collides with a further row. When several rows
-- conflict, the plan chooses the one that is updated.
def upsert? (t : UniqueTable α keys) (plan : Plan (Rowid × α)) (target : κ → Bool) (f : α → α)
    (a : α) : Option (Rowid × UniqueTable α keys) :=
  match plan.first <| t.conflicts target a with
  | none   => t.insert? a
  | some r =>
    if t.conflicts (fun k => !target k) a = [] then
      (t.update? r.1 f).map fun t => (r.1, t)
    else
      none

private theorem update?_some (ha : t.get? i = some a) {f : α → α} (h : t.Free i (f a)) :
    t.update? i f = some { toTable := t.toTable.update i f, unique := unique_update ha h } := by
  simp only [update?]
  split
  case h_1 hn   => simp [hn] at ha
  case h_2 a' h' =>
    cases ha.symm.trans h'
    exact dif_pos h

theorem insert?_eq_some (h : t.insert? a = some (i, t')) :
    t.Free t.nextRowid a ∧ i = t.nextRowid ∧ t'.toTable = t.toTable.insert a := by
  simp only [insert?] at h
  split at h
  case isFalse => contradiction
  case isTrue hf =>
    obtain ⟨rfl, rfl⟩ := Prod.mk.inj <| Option.some.inj h
    exact ⟨hf, rfl, rfl⟩

theorem insert?_of_free (h : t.Free t.nextRowid a) :
    ∃ t', t.insert? a = some (t.nextRowid, t') := by
  simp only [insert?, dif_pos h]
  exact ⟨_, rfl⟩

theorem update?_eq_some {f : α → α} (ha : t.get? i = some a) (h : t.update? i f = some t') :
    t.Free i (f a) ∧ t'.toTable = t.toTable.update i f := by
  by_cases hf : t.Free i (f a)
  case pos =>
    rw [update?_some ha hf] at h
    exact ⟨hf, Option.some.inj h ▸ rfl⟩
  case neg =>
    simp only [update?] at h
    split at h
    case h_1 hn    => simp [hn] at ha
    case h_2 a' h' =>
      cases ha.symm.trans h'
      simp [hf] at h

theorem update?_of_free {f : α → α} (ha : t.get? i = some a) (h : t.Free i (f a)) :
    ∃ t', t.update? i f = some t' ∧ t'.toTable = t.toTable.update i f :=
  ⟨_, update?_some ha h, rfl⟩

theorem upsert?_cases {plan : Plan (Rowid × α)} {target : κ → Bool} {f : α → α}
    (h : t.upsert? plan target f a = some (i, t')) :
    (t.Free t.nextRowid a ∧ i = t.nextRowid ∧ t'.toTable = t.toTable.insert a) ∨
    (∃ b, t.get? i = some b ∧ (∃ k ∈ keys a, target k = true ∧ k ∈ keys b) ∧ t.Free i (f b) ∧
      t'.toTable = t.toTable.update i f) := by
  simp only [upsert?] at h
  split at h
  case h_1 => exact .inl <| insert?_eq_some h
  case h_2 r hr =>
    split at h <;> try contradiction
    obtain ⟨t'', hu, he⟩ := Option.map_eq_some_iff.mp h
    obtain ⟨rfl, rfl⟩ := Prod.mk.inj he
    have ⟨hb, hk⟩ := mem_conflicts.mp <| Plan.mem_of_first hr
    exact .inr ⟨_, hb, hk, update?_eq_some hb hu⟩

theorem upsert?_of_free {plan : Plan (Rowid × α)} {target : κ → Bool} {f : α → α}
    (h : ∀ j b, t.get? j = some b → ∀ k ∈ keys a, k ∉ keys b) :
    ∃ t', t.upsert? plan target f a = some (t.nextRowid, t') := by
  have hc : t.conflicts target a = [] := no_conflicts_of_free h
  have hf : t.Free t.nextRowid a := free_iff.mpr fun j b hb _ => h j b hb
  have ⟨t', ht⟩ := insert?_of_free hf
  exact ⟨t', by simp [upsert?, Plan.first_eq_none_iff.mpr hc, ht]⟩

theorem upsert?_of_conflict {plan : Plan (Rowid × α)} {target : κ → Bool} {f : α → α}
    (hb : t.get? i = some b) (hk : ∃ k ∈ keys a, target k = true ∧ k ∈ keys b)
    (hi : ∀ j c, t.get? j = some c → ∀ k ∈ keys a, k ∈ keys c → j = i ∧ target k = true)
    (hf : t.Free i (f b)) :
    ∃ t', t.upsert? plan target f a = some (i, t') := by
  have ⟨⟨j, c⟩, hr⟩ := plan.exists_first <| mem_conflicts.mpr ⟨hb, hk⟩
  have ⟨hc, k, hk, _, hk'⟩ := mem_conflicts.mp <| Plan.mem_of_first hr
  obtain ⟨rfl, -⟩ := hi j c hc k hk hk'
  have ⟨t', ht, _⟩ := update?_of_free hb hf
  have hn : t.conflicts (fun k => !target k) a = [] := by
    refine List.eq_nil_iff_forall_not_mem.mpr fun ⟨l, d⟩ hm => ?_
    obtain ⟨hd, k, hk, ht, hk'⟩ := mem_conflicts.mp hm
    simp [(hi l d hd k hk hk').2] at ht
  exact ⟨t', by simp [upsert?, hr, hn, ht]⟩

omit [DecidableEq κ] in
theorem nodup_select (t : UniqueTable α keys) {p : Rowid → α → Bool} {key : α → κ}
    (hk : ∀ a, key a ∈ keys a) : ((t.select p).map fun r => key r.2).Nodup := by
  have hs : (t.select p).Pairwise (·.1 < ·.1) := t.sorted.filter _
  refine List.pairwise_map.mpr <| hs.imp_of_mem fun {r r'} hr hr' hlt he => ?_
  have hr := (Table.mem_select.mp hr).1
  have hr' := (Table.mem_select.mp hr').1
  exact Int.ne_of_lt hlt <| t.unique hr hr' (hk r.2) (he ▸ hk r'.2)

end UniqueTable
end Sql
