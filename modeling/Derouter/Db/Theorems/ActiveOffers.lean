import Derouter.Db.Theorems.Offers
import Derouter.Lib.Delta

open Sql

namespace Derouter

-- `provider_peer_id`, `protocol_id` and `offer_id`.
abbrev OfferKey :=
  PeerId × String × String

namespace Database

variable {db db' db'' : Database} {source : PeerId} {r s : OfferSnapshotRow} {i j : Rowid}

-- The rowid and the payload of the active snapshot of an offer.
def activeOffers (db : Database) (key : OfferKey) : Option (Rowid × String) :=
  db.offerSnapshots.rows.findSome? fun r =>
    if r.2 = .provided key.1 key.2.1 key.2.2 r.2.protocolPayload then
      some (r.1, r.2.protocolPayload)
    else
      none

private theorem activeOffers_some (h : db.activeOffers (q, p, o) = some (i, l)) :
    db.offerSnapshots.get? i = some (.provided q p o l) := by
  have ⟨⟨j, s⟩, hj, hs⟩ := List.exists_of_findSome?_eq_some h
  split at hs <;> try contradiction
  case isTrue he =>
    obtain ⟨h₁, h₂⟩ := Prod.mk.inj <| Option.some.inj hs
    simp only at he h₁ h₂
    rw [← h₁, ← h₂, ← he]
    exact Table.mem_rows_iff.mp hj

theorem activeOffers_eq_some_iff : db.activeOffers (q, p, o) = some (i, l) ↔
    db.offerSnapshots.get? i = some (.provided q p o l) := by
  refine ⟨activeOffers_some, fun h => ?_⟩
  cases hv : db.activeOffers (q, p, o)
  case none =>
    have hn := List.findSome?_eq_none_iff.mp hv (i, .provided q p o l) <| Table.mem_rows_iff.mpr h
    simp [OfferSnapshotRow.provided] at hn
  case some v =>
    obtain ⟨j, l'⟩ := v
    have h' := activeOffers_some hv
    have hi : j = i := Offers.rowid_unique h' h
    rw [hi, h] at h'
    have hl : l = l' := congrArg (·.protocolPayload) (Option.some.inj h')
    rw [hi, hl]

theorem activeOffers_eq_none_iff : db.activeOffers (q, p, o) = none ↔
    ∀ l, ¬db.Offers q p o l := by
  constructor
  case mp =>
    intro h l ⟨i, hi⟩
    rw [activeOffers_eq_some_iff.mpr hi] at h
    contradiction
  case mpr =>
    intro h
    cases hv : db.activeOffers (q, p, o)
    case none   => rfl
    case some v => exact absurd ⟨v.1, activeOffers_some hv⟩ (h v.2)

theorem activeOffers_congr (h : db'.offerSnapshots = db.offerSnapshots) :
    db'.activeOffers = db.activeOffers := by
  funext key
  simp only [activeOffers, h]

private theorem activeOffers_ext {m : OfferKey → Option (Rowid × String)}
    (h : ∀ q p o i l, db.offerSnapshots.get? i = some (.provided q p o l) ↔
      m (q, p, o) = some (i, l)) : db.activeOffers = m := by
  funext ⟨q, p, o⟩
  apply Option.ext
  intro ⟨i, l⟩
  rw [← h q p o i l]
  exact activeOffers_eq_some_iff

private theorem update_eq_some_iff {m : OfferKey → Option (Rowid × String)} {key key' : OfferKey}
    {a : Option (Rowid × String)} : Function.update m key a key' = some v ↔
      (key' = key ∧ a = some v) ∨ (key' ≠ key ∧ m key' = some v) := by
  by_cases h : key' = key
  case pos => simp [h]
  case neg => simp [h]

theorem activeOffers_deactivateSnapshot
    (h : db.offerSnapshots.get? i = some (.provided q p o l)) :
    (db.deactivateSnapshot i).activeOffers = Delta.apply db.activeOffers ((q, p, o), none) := by
  apply activeOffers_ext
  intro q' p' o' j l'
  rw [Delta.apply, update_eq_some_iff, activeOffers_eq_some_iff]
  constructor
  case mp =>
    intro hj
    have ⟨hn, hj⟩ := provided_of_deactivateSnapshot hj
    refine .inr ⟨fun he => hn ?_, hj⟩
    obtain ⟨rfl, rfl, rfl⟩ : q' = q ∧ p' = p ∧ o' = o := by simpa using he
    exact Offers.rowid_unique hj h
  case mpr =>
    intro hj
    cases hj
    case inl hj => exact absurd hj.2 (by simp)
    case inr hj =>
      have hn : j ≠ i := by
        intro hi
        rw [hi, h] at hj
        have he : q = q' ∧ p = p' ∧ o = o' ∧ l = l' := by simpa [OfferSnapshotRow.provided] using hj.2
        exact hj.1 (by rw [he.1, he.2.1, he.2.2.1])
      rw [deactivateSnapshot_rows, if_neg hn, hj.2]

theorem not_active_of_none (hn : db.activeOffers (q, p, o) = none)
    (hs : db.offerSnapshots.get? i = some s) (h : s.SameOffer (.provided q p o l)) :
    s.active = false :=
  Bool.eq_false_iff.mpr fun ha => activeOffers_eq_none_iff.mp hn _ <| .of_active hs h ha

theorem not_otherActive_of_none (hn : db.activeOffers (q, p, o) = none) :
    ¬db.OtherActive (.provided q p o l) := by
  intro ⟨j, s, hs, he, ha, _⟩
  rw [not_active_of_none hn hs he] at ha
  contradiction

theorem activeOffers_none_of_untargeted
    (h : db.upsertSnapshot? plan (fun _ => false) (.provided q p o l) = some (i, db')) :
    db.activeOffers (q, p, o) = none := by
  refine activeOffers_eq_none_iff.mpr fun l' ⟨j, hj⟩ => ?_
  have ⟨_, _, hc⟩ := upsertSnapshot?_cases h
  cases hc
  case inr hc =>
    have ⟨_, _, ⟨_, _, ht, _⟩, _⟩ := hc
    contradiction
  case inl hc =>
    have ⟨hi, ht⟩ := hc
    have hj' := upsertSnapshot?_keeps_active h hj rfl
    have hi' : db'.offerSnapshots.get? i = some (.provided q p o l) := by
      rw [ht, hi, Table.get?_insert, if_pos rfl]
    exact Table.ne_nextRowid hj <| (Offers.rowid_unique hj' hi').trans hi

theorem activeOffers_upsertSnapshot?
    (h : db.upsertSnapshot? plan target (.provided q p o l) = some (i, db'))
    (hn : db.activeOffers (q, p, o) = none) :
    db'.activeOffers = Delta.apply db.activeOffers ((q, p, o), some (i, l)) := by
  have hr := upsertSnapshot?_rows_of_not_otherActive h rfl (not_otherActive_of_none hn)
  apply activeOffers_ext
  intro q' p' o' j l'
  rw [Delta.apply, update_eq_some_iff, activeOffers_eq_some_iff, hr j]
  by_cases hj : j = i
  case pos =>
    rw [if_pos hj, hj]
    constructor
    case mp =>
      intro he
      obtain ⟨h₁, h₂, h₃, h₄⟩ : q = q' ∧ p = p' ∧ o = o' ∧ l = l' := by
        simpa [OfferSnapshotRow.provided] using he
      exact .inl ⟨by rw [h₁, h₂, h₃], by rw [h₄]⟩
    case mpr =>
      intro he
      cases he
      case inl he =>
        obtain ⟨h₁, h₂, h₃⟩ : q' = q ∧ p' = p ∧ o' = o := by simpa using he.1
        have hl : l = l' := by simpa using he.2
        rw [h₁, h₂, h₃, hl]
      case inr he =>
        have hk := upsertSnapshot?_keeps_active h he.2 rfl
        obtain ⟨h₁, h₂, h₃, _⟩ : q = q' ∧ p = p' ∧ o = o' ∧ l = l' := by
          simpa [hr, hj, OfferSnapshotRow.provided] using hk
        exact absurd (by rw [h₁, h₂, h₃]) he.1
  case neg =>
    rw [if_neg hj]
    constructor
    case mp =>
      intro he
      refine .inr ⟨fun hk => ?_, he⟩
      have hv := activeOffers_eq_some_iff.mpr he
      rw [hk, hn] at hv
      contradiction
    case mpr =>
      intro he
      cases he
      case inl he => exact absurd (by simpa using he.2) (fun hi : i = j ∧ l = l' => hj hi.1.symm)
      case inr he => exact he.2

end Database
end Derouter
