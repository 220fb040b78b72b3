import Derouter.Db.Offers

open Sql

namespace Derouter

namespace Database

variable {db db' : Database} {i j : Rowid} {r s : OfferSnapshotRow}

theorem ensurePeer_offerSnapshots : (db.ensurePeer p).offerSnapshots = db.offerSnapshots := by
  simp only [ensurePeer]
  split <;> rfl

theorem ensurePeer_serviceJobs : (db.ensurePeer p).serviceJobs = db.serviceJobs := by
  simp only [ensurePeer]
  split <;> rfl

-- The schema allows one active snapshot per offer.
theorem active_unique {s' : OfferSnapshotRow} (hs : db.offerSnapshots.get? i = some s)
    (hs' : db.offerSnapshots.get? j = some s') (ho : s.SameOffer s') (ha : s.active = true)
    (ha' : s'.active = true) : i = j := by
  obtain ⟨_, hk, hk'⟩ := OfferSnapshotRow.exists_shared_key_iff.mpr ⟨ho, .inr ⟨ha, ha'⟩⟩
  exact db.offerSnapshots.unique hs hs' hk hk'

-- All that an upsert of an offer snapshot does: it inserts the new row where no unique index
-- forbids it, or it activates a row that conflicts with the new one.
theorem upsertSnapshot?_cases (h : db.upsertSnapshot? plan target r = some (i, db')) :
    db'.serviceJobs = db.serviceJobs ∧ db'.peers = db.peers ∧
    ((i = db.offerSnapshots.nextRowid ∧
        db'.offerSnapshots.toTable = db.offerSnapshots.toTable.insert r) ∨
      (∃ b, db.offerSnapshots.get? i = some b ∧ (∃ k ∈ r.keys, target k = true ∧ k ∈ b.keys) ∧
        db'.offerSnapshots.toTable = db.offerSnapshots.toTable.update i .activate)) := by
  simp only [upsertSnapshot?] at h
  split at h <;> try contradiction
  split at h <;> try contradiction
  case _ t hu =>
    obtain ⟨rfl, rfl⟩ := Prod.mk.inj <| Option.some.inj h
    refine ⟨rfl, rfl, ?_⟩
    rcases UniqueTable.upsert?_cases hu with ⟨_, hi, ht⟩ | ⟨b, hb, hk, _, ht⟩
    · exact .inl ⟨hi, ht⟩
    · exact .inr ⟨b, hb, hk, ht⟩

theorem upsertSnapshot?_keeps (h : db.upsertSnapshot? plan target r = some (i, db'))
    (hs : db.offerSnapshots.get? j = some s) :
    db'.offerSnapshots.get? j = some s ∨
      (j = i ∧ db'.offerSnapshots.get? j = some s.activate) := by
  obtain ⟨_, _, ⟨_, ht⟩ | ⟨_, _, _, ht⟩⟩ := upsertSnapshot?_cases h
  case inl => exact .inl <| ht ▸ Table.get?_insert_of_some hs
  case inr =>
    by_cases hj : j = i
    case pos =>
      subst hj
      exact .inr ⟨rfl, by rw [ht, Table.get?_update_self, hs, Option.map_some]⟩
    case neg => exact .inl <| by rw [ht, Table.get?_update_ne hj, hs]

theorem upsertSnapshot?_keeps_active (h : db.upsertSnapshot? plan target r = some (i, db'))
    (hs : db.offerSnapshots.get? j = some s) (ha : s.active = true) :
    db'.offerSnapshots.get? j = some s := by
  have he : s.activate = s := by rw [OfferSnapshotRow.activate, ← ha]
  rcases upsertSnapshot?_keeps h hs with h | ⟨_, h⟩
  · exact h
  · rwa [he] at h

end Database

-- Some other payload of the same offer is active.
def Database.OtherActive (db : Database) (r : OfferSnapshotRow) : Prop :=
  ∃ i s, db.offerSnapshots.get? i = some s ∧ s.SameOffer r ∧ s.active = true ∧
    s.protocolPayload ≠ r.protocolPayload

namespace Database

variable {db db' : Database} {i j : Rowid} {r b : OfferSnapshotRow}
  {plan : Plan (Rowid × OfferSnapshotRow)} {target : OfferSnapshotKey → Bool}

-- A row that shares a key with a new active row is the new row but for its activity, unless another
-- payload of the offer is active.
theorem activate_of_not_otherActive (ha : r.active = true) (hn : ¬db.OtherActive r)
    (hb : db.offerSnapshots.get? j = some b) (hk : ∃ k ∈ b.keys, k ∈ r.keys) : b.activate = r := by
  have ⟨hs, hp⟩ := OfferSnapshotRow.exists_shared_key_iff.mp hk
  have hp : b.protocolPayload = r.protocolPayload := by
    cases hp
    case inl hp => exact hp
    case inr hb' => exact not_imp_comm.mp (fun hp => ⟨j, b, hb, hs, hb'.1, hp⟩) hn
  have ⟨h₁, h₂, h₃⟩ := hs
  rw [OfferSnapshotRow.activate, h₁, h₂, h₃, hp, ← ha]

theorem activate_of_protocolPayload (ha : r.active = true)
    (hk : ∃ k ∈ r.keys, k.isProtocolPayload = true ∧ k ∈ b.keys) : b.activate = r := by
  have ⟨k, hr, hp, hb⟩ := hk
  cases k
  case mainActive => contradiction
  case protocolPayload =>
    have hr := OfferSnapshotRow.protocolPayload_mem_keys.mp hr
    have ⟨h₁, h₂, h₃, h₄⟩ := OfferSnapshotRow.protocolPayload_mem_keys.mp hb
    rw [OfferSnapshotRow.activate, ← h₁, ← h₂, ← h₃, ← h₄, hr.1, hr.2.1, hr.2.2.1, hr.2.2.2, ← ha]

-- Where the rows that conflict in the targeted indexes are the new one but for their activity, an
-- upsert leaves the new row under the rowid that it returns, and the other rows as they are.
theorem upsertSnapshot?_rows (h : db.upsertSnapshot? plan target r = some (i, db'))
    (hn : ∀ j b, db.offerSnapshots.get? j = some b →
      (∃ k ∈ r.keys, target k = true ∧ k ∈ b.keys) → b.activate = r) (j : Rowid) :
    db'.offerSnapshots.get? j = if j = i then some r else db.offerSnapshots.get? j := by
  have ⟨_, _, hc⟩ := upsertSnapshot?_cases h
  cases hc
  case inl hc =>
    have ⟨hi, ht⟩ := hc
    rw [ht, hi, Table.get?_insert]
  case inr hc =>
    have ⟨b, hb, hk, ht⟩ := hc
    rw [ht, Table.get?_update]
    by_cases hj : j = i
    case pos => rw [if_pos hj, if_pos hj, hj, hb, Option.map_some, hn i b hb hk]
    case neg => rw [if_neg hj, if_neg hj]

theorem upsertSnapshot?_rows_of_untargeted (h : db.upsertSnapshot? plan (fun _ => false) r = some (i, db'))
    (j : Rowid) :
    db'.offerSnapshots.get? j = if j = i then some r else db.offerSnapshots.get? j := by
  refine upsertSnapshot?_rows h (fun _ _ _ hk => ?_) j
  obtain ⟨_, _, ht, _⟩ := hk
  contradiction

theorem upsertSnapshot?_rows_of_not_otherActive
    (h : db.upsertSnapshot? plan target r = some (i, db')) (ha : r.active = true)
    (hn : ¬db.OtherActive r) (j : Rowid) :
    db'.offerSnapshots.get? j = if j = i then some r else db.offerSnapshots.get? j :=
  upsertSnapshot?_rows h (fun _ _ hb ⟨k, hk, _, hk'⟩ =>
    activate_of_not_otherActive ha hn hb ⟨k, hk', hk⟩) j

theorem upsertSnapshot?_returns (h : db.upsertSnapshot? plan target r = some (i, db'))
    (ha : r.active = true) (hn : ¬db.OtherActive r) : db'.offerSnapshots.get? i = some r := by
  rw [upsertSnapshot?_rows_of_not_otherActive h ha hn i, if_pos rfl]

theorem deactivateSnapshot_rows (j : Rowid) : (db.deactivateSnapshot i).offerSnapshots.get? j =
    if j = i then (db.offerSnapshots.get? j).map .deactivate else db.offerSnapshots.get? j :=
  Table.get?_update

theorem upsertSnapshot?_of_upsert? (hp : db.HasPeer r.providerPeerId)
    (h : ∃ i t, db.offerSnapshots.upsert? plan target .activate r = some (i, t)) :
    ∃ i db', db.upsertSnapshot? plan target r = some (i, db') := by
  obtain ⟨i, t, h⟩ := h
  simp only [upsertSnapshot?, dif_pos hp]
  split
  case h_1 hu => simp [hu] at h
  case h_2     => exact ⟨_, _, rfl⟩

theorem upsertSnapshot?_of_new (hp : db.HasPeer r.providerPeerId)
    (hn : ∀ j b, db.offerSnapshots.get? j = some b → ¬b.SameOffer r) :
    ∃ i db', db.upsertSnapshot? plan target r = some (i, db') := by
  have h : ∃ t, db.offerSnapshots.upsert? plan target .activate r = some (_, t) :=
    UniqueTable.upsert?_of_free fun j b hb k hk hk' =>
      hn j b hb (OfferSnapshotRow.exists_shared_key_iff.mp ⟨k, hk', hk⟩).1
  exact upsertSnapshot?_of_upsert? hp ⟨_, h⟩

theorem upsertSnapshot?_total (hp : db.HasPeer r.providerPeerId) (ha : r.active = true)
    (hn : ∀ j b, db.offerSnapshots.get? j = some b → b.SameOffer r → b.active = false)
    (ht : ∀ k : OfferSnapshotKey, k.isProtocolPayload = true → target k = true) :
    ∃ i db', db.upsertSnapshot? plan target r = some (i, db') := by
  apply upsertSnapshot?_of_upsert? hp
  -- The only key that a row can share with the new one is the one of its payload.
  have hk : ∀ j b, db.offerSnapshots.get? j = some b → ∀ k ∈ r.keys, k ∈ b.keys →
      k.isProtocolPayload = true := by
    intro j b hb k hr hk
    cases k
    case protocolPayload => rfl
    case mainActive =>
      have ⟨_, h₁, h₂, h₃⟩ := OfferSnapshotRow.mainActive_mem_keys.mp hr
      have ⟨hb', h₄, h₅, h₆⟩ := OfferSnapshotRow.mainActive_mem_keys.mp hk
      have hs : b.SameOffer r := ⟨h₄.symm.trans h₁, h₅.symm.trans h₂, h₆.symm.trans h₃⟩
      rw [hn j b hb hs] at hb'
      contradiction
  by_cases hf : ∀ j b, db.offerSnapshots.get? j = some b → ∀ k ∈ r.keys, k ∉ b.keys
  case pos =>
    have h : ∃ t, db.offerSnapshots.upsert? plan target .activate r = some (_, t) :=
      UniqueTable.upsert?_of_free hf
    exact ⟨_, h⟩
  case neg =>
    push Not at hf
    obtain ⟨j, b, hb, k, hr, hb'⟩ := hf
    have hk' := hk j b hb k hr hb'
    have hj : ∀ l c, db.offerSnapshots.get? l = some c → ∀ k' ∈ r.keys, k' ∈ c.keys → l = j := by
      intro l c hc k' hr' hc'
      have he : k' = k := OfferSnapshotRow.eq_of_isProtocolPayload hr' hr (hk l c hc k' hr' hc') hk'
      exact db.offerSnapshots.unique hc hb (he ▸ hc') hb'
    have ha : b.activate = r := activate_of_protocolPayload ha ⟨k, hr, hk', hb'⟩
    refine ⟨j, UniqueTable.upsert?_of_conflict hb ⟨k, hr, ht k hk', hb'⟩ (fun l c hc k' hr' hc' =>
      ⟨hj l c hc k' hr' hc', ht k' (hk l c hc k' hr' hc')⟩) ?_⟩
    rw [ha, UniqueTable.free_iff]
    exact fun l c hc hl k' hr' hc' => hl (hj l c hc k' hr' hc')

theorem upsertSnapshot?_same (h : db.upsertSnapshot? plan target r = some (i, db'))
    (hs : db.offerSnapshots.get? j = some s)
    (hc : ¬db.OtherActive r → s.SameKey r → s.active = true) :
    db'.offerSnapshots.get? j = some s := by
  cases upsertSnapshot?_keeps h hs
  case inl hk => exact hk
  case inr hk =>
    obtain ⟨rfl, hk⟩ := hk
    by_cases hs' : s.active = true
    case pos => exact upsertSnapshot?_keeps_active h hs hs'
    case neg =>
      obtain ⟨_, _, ⟨hi, _⟩ | ⟨b, hb, hsh, _⟩⟩ := upsertSnapshot?_cases h
      case inl => exact absurd hi (Table.ne_nextRowid hs)
      case inr =>
        obtain rfl := Option.some.inj (hs.symm.trans hb)
        obtain ⟨k, hr, -, hb'⟩ := hsh
        have ⟨he, hp⟩ := OfferSnapshotRow.exists_shared_key_iff.mp ⟨k, hb', hr⟩
        have hp : s.protocolPayload = r.protocolPayload := hp.resolve_right fun h => hs' h.1
        refine absurd (hc ?_ ⟨he, hp⟩) hs'
        -- Next to another active payload, the activation would violate the index.
        rintro ⟨l, o, ho, he', ho', -⟩
        have hso : s.activate.SameOffer o :=
          ⟨he.1.trans he'.1.symm, he.2.1.trans he'.2.1.symm, he.2.2.trans he'.2.2.symm⟩
        have hl := active_unique hk (upsertSnapshot?_keeps_active h ho ho') hso rfl ho'
        rw [hl, ho] at hs
        exact hs' (Option.some.inj hs ▸ ho')

-- The provider offers the payload: it is the payload of an active snapshot.
def Offers (db : Database) (providerPeerId : PeerId) (protocolId offerId protocolPayload : String) :
    Prop :=
  ∃ i, db.offerSnapshots.get? i = some (.provided providerPeerId protocolId offerId protocolPayload)

variable {source : PeerId} {p o l p' o' l' : String}

theorem Offers.of_active (hs : db.offerSnapshots.get? i = some s)
    (h : s.SameOffer (.provided source p o l)) (ha : s.active = true) :
    db.Offers source p o s.protocolPayload := by
  obtain ⟨h₁, h₂, h₃⟩ := h
  simp only [OfferSnapshotRow.provided] at h₁ h₂ h₃
  exact ⟨i, by rw [hs, OfferSnapshotRow.provided, ← h₁, ← h₂, ← h₃, ← ha]⟩

theorem Offers.rowid_unique
    (hi : db.offerSnapshots.get? i = some (.provided source p o l))
    (hj : db.offerSnapshots.get? j = some (.provided source p o l')) : i = j :=
  active_unique hi hj ⟨rfl, rfl, rfl⟩ rfl rfl

theorem upsertSnapshot?_offers
    (h : db.upsertSnapshot? plan target (.provided source p o l) = some (i, db'))
    (hn : ∀ j b, db.offerSnapshots.get? j = some b →
      (∃ k ∈ (OfferSnapshotRow.provided source p o l).keys, target k = true ∧ k ∈ b.keys) →
        b.activate = .provided source p o l) :
    db'.Offers source p' o' l' ↔
      db.Offers source p' o' l' ∨ (p' = p ∧ o' = o ∧ l' = l) := by
  have hr := upsertSnapshot?_rows h hn
  constructor
  case mp =>
    rintro ⟨j, hj⟩
    rw [hr j] at hj
    split at hj
    case isTrue => exact .inr <| by simpa [OfferSnapshotRow.provided, eq_comm] using hj
    case isFalse => exact .inl ⟨j, hj⟩
  case mpr =>
    intro ho
    cases ho
    case inl ho =>
      obtain ⟨j, hj⟩ := ho
      exact ⟨j, upsertSnapshot?_keeps_active h hj rfl⟩
    case inr he =>
      obtain ⟨h₁, h₂, h₃⟩ := he
      exact ⟨i, by rw [hr i, if_pos rfl, h₁, h₂, h₃]⟩

theorem provided_of_deactivateSnapshot
    (h : (db.deactivateSnapshot i).offerSnapshots.get? j = some (.provided source p o l)) :
    j ≠ i ∧ db.offerSnapshots.get? j = some (.provided source p o l) := by
  rw [deactivateSnapshot_rows] at h
  split at h
  case isFalse hn => exact ⟨hn, h⟩
  case isTrue =>
    have ⟨_, _, hs⟩ := Option.map_eq_some_iff.mp h
    simp [OfferSnapshotRow.deactivate, OfferSnapshotRow.provided] at hs

end Database

variable {plan : Plan (Rowid × OfferSnapshotRow)} {db db' : Database}

theorem upsert_serviceJobs (h : upsert plan db p o q l = some (i, db')) :
    db'.serviceJobs = db.serviceJobs := by
  have ⟨hj, _⟩ := Database.upsertSnapshot?_cases h
  rw [hj, Database.ensurePeer_serviceJobs]

theorem upsert_keeps_active (h : upsert plan db p o q l = some (i, db'))
    (hs : db.offerSnapshots.get? j = some s) (ha : s.active = true) :
    db'.offerSnapshots.get? j = some s := by
  rw [← Database.ensurePeer_offerSnapshots (p := p)] at hs
  exact Database.upsertSnapshot?_keeps_active h hs ha

theorem upsert_keeps (h : upsert plan db p o q l = some (i, db'))
    (hs : db.offerSnapshots.get? j = some s) :
    ∃ s', db'.offerSnapshots.get? j = some s' ∧ s.SameKey s' := by
  rw [← Database.ensurePeer_offerSnapshots (p := p)] at hs
  cases Database.upsertSnapshot?_keeps h hs
  case inl hs => exact ⟨s, hs, .refl s⟩
  case inr hs => exact ⟨s.activate, hs.2, ⟨rfl, rfl, rfl⟩, rfl⟩

theorem upsert_joined {j : JobJoin} (h : upsert plan db p o q l = some (i, db'))
    (hj : j ∈ db'.joined) :
    ∃ s, ⟨j.rowid, j.job, s⟩ ∈ db.joined ∧ s.SameKey j.snapshot := by
  have ⟨hr, hs'⟩ := Database.mem_joined_iff.mp hj
  rw [upsert_serviceJobs h] at hr
  have ⟨s, hs⟩ := db.jobSnapshot hr
  have ⟨s', hs'', hk⟩ := upsert_keeps h hs
  obtain rfl := Option.some.inj <| hs''.symm.trans hs'
  exact ⟨s, Database.mem_joined_iff.mpr ⟨hr, hs⟩, hk⟩

theorem upsert_provider (h : upsert plan db p o q l = some (i, db')) :
    ∃ r, db'.offerSnapshots.get? i = some r ∧ r.providerPeerId = p := by
  obtain ⟨_, _, hc⟩ := Database.upsertSnapshot?_cases h
  cases hc
  case inl hc =>
    obtain ⟨hi, ht⟩ := hc
    exact ⟨.provided p q o l, by rw [ht, hi, Table.get?_insert, if_pos rfl], rfl⟩
  case inr hc =>
    obtain ⟨b, hb, ⟨k, hr, _, hb'⟩, ht⟩ := hc
    have hs := (OfferSnapshotRow.exists_shared_key_iff.mp ⟨k, hb', hr⟩).1
    exact ⟨b.activate, by rw [ht, Table.get?_update_self, hb, Option.map_some], hs.1⟩

theorem upsert_returns (h : upsert plan db p o q l = some (i, db'))
    (hn : ¬db.OtherActive (.provided p q o l)) :
    db'.offerSnapshots.get? i = some (.provided p q o l) := by
  refine Database.upsertSnapshot?_returns h rfl ?_
  simpa [Database.OtherActive, Database.ensurePeer_offerSnapshots] using hn

end Derouter
