import Derouter.P2p.Theorems.Changes

open Sql

namespace Derouter

-- What a receiver has done when it has taken in a heartbeat with provider data.
structure Stored (db : Database) (source : PeerId) (heartbeat : Heartbeat)
    (details : ProviderDetails) (events : List RpcEvent) (db' : Database) : Prop where
  newer  : ¬db.Outdates source heartbeat
  frame  : db.Frame source db'
  tracks : Delta.Tracks db.activeOffers (events.filterMap RpcEvent.offerEntry?) db'.activeOffers
  peer   : ∃ peer', db'.peer? source = some peer' ∧
    peer'.theirLatestHeartbeatTimestamp = some heartbeat.timestamp ∧
    (peer'.theirProviderUpdatedAt = some details.updatedAt ∨ ∃ peer, db.peer? source = some peer ∧
      peer'.theirProviderUpdatedAt = peer.theirProviderUpdatedAt)

-- The three ways in which the handling of a heartbeat ends.
inductive Handled (db : Database) (source : PeerId) (heartbeat : Heartbeat) :
    Except HeartbeatError (List RpcEvent × Database) → Prop
  | outdated (e) (h : db.Outdates source heartbeat) : Handled db source heartbeat (.error e)
  | ignored (h : heartbeat.provider = none) : Handled db source heartbeat (.ok ([], db))
  | stored (details events db') (provider : heartbeat.provider = some details)
      (stored : Stored db source heartbeat details events db') :
      Handled db source heartbeat (.ok (events, db'))

variable {plan : Plan (Rowid × OfferSnapshotRow)} {visits : List Rowid} {now : DateTime}
variable {db db' : Database} {source : PeerId} {heartbeat : Heartbeat} {details : ProviderDetails}

private theorem handled_of_new (hp : db.peer? source = none)
    (hd : heartbeat.provider = some details) :
    ∃ r, handleHeartbeat plan visits now db source heartbeat = some r ∧
      Handled db source heartbeat r := by
  obtain ⟨db₁, h₁⟩ : ∃ db₁, db.insertPeer?
      (PeerRow.updated now details heartbeat.timestamp { peerId := source }) = some db₁ :=
    Database.insertPeer?_total hp
  have ho := Database.insertPeer?_offerSnapshots h₁
  have hp₁ := Database.peer?_insertPeer? h₁
  obtain ⟨c, hc, hf, he⟩ : ∃ c, details.offers.toList.foldlM (OfferChanges.insert plan source)
      { db := db₁ } = some c ∧ db₁.Frame source c.db ∧
        OfferChanges.Explains source details.offers db₁.activeOffers c := by
    refine OfferChanges.insert_spec (Database.hasPeer_of_peer? hp₁) fun i s hs h => ?_
    -- A provider without a peer has no snapshots.
    rw [ho] at hs
    obtain ⟨j, q, hq, hs⟩ := db.snapshotPeer hs
    exact Database.peer?_eq_none_iff.mp hp j q hq (hs.trans h)
  have hc' := OfferChanges.foldlM_peers hc fun _ _ _ => OfferChanges.upsert_peers
  simp only [handleHeartbeat, hp, hd, h₁, hc]
  refine ⟨_, rfl, .stored details _ _ hd ?_⟩
  constructor
  case newer  =>
    rintro ⟨peer, h, -⟩
    simp [hp] at h
  case frame  => exact (Database.Frame.insertPeer? h₁).trans hf
  case tracks => exact Database.activeOffers_congr ho ▸ he.tracks
  case peer   => exact ⟨_, (Database.peer?_congr hc').trans hp₁, rfl, .inl rfl⟩

private theorem not_outdates (hp : db.peer? source = some peer)
    (ht : peer.theirLatestHeartbeatTimestamp.filter (heartbeat.timestamp ≤ ·) = none)
    (hd : heartbeat.provider = some details)
    (hc : compare details.updatedAt (peer.theirProviderUpdatedAt.getD .zero) ≠ .lt) :
    ¬db.Outdates source heartbeat := by
  rintro ⟨peer', hp', ho⟩
  obtain rfl : peer = peer' := Option.some.inj (hp.symm.trans hp')
  cases ho
  case inl ho =>
    obtain ⟨stored, hs, hle⟩ := ho
    exact Option.filter_eq_none_iff.mp ht stored hs (by simpa using hle)
  case inr ho =>
    obtain ⟨details', hd', hlt⟩ := ho
    obtain rfl : details = details' := Option.some.inj (hd.symm.trans hd')
    exact hc (Int.compare_eq_lt.mpr hlt)

private theorem handled_of_equal (hp : db.peer? source = some peer)
    (ht : peer.theirLatestHeartbeatTimestamp.filter (heartbeat.timestamp ≤ ·) = none)
    (hd : heartbeat.provider = some details)
    (hc : compare details.updatedAt (peer.theirProviderUpdatedAt.getD .zero) = .eq) :
    ∃ r, handleHeartbeat plan visits now db source heartbeat = some r ∧
      Handled db source heartbeat r := by
  simp only [handleHeartbeat, hp, ht, hd, hc]
  refine ⟨_, rfl, .stored details _ _ hd ?_⟩
  constructor
  case newer  => exact not_outdates hp ht hd (by simp [hc])
  case frame  => exact .updatePeer
  case tracks => exact Database.activeOffers_congr Database.updatePeer_offerSnapshots ▸ .nil
  case peer   => exact ⟨peer.heard now heartbeat.timestamp,
    by rw [Database.peer?_updatePeer, hp, Option.map_some], rfl, .inr ⟨peer, hp, rfl⟩⟩

private theorem handled_of_greater (hp : db.peer? source = some peer)
    (ht : peer.theirLatestHeartbeatTimestamp.filter (heartbeat.timestamp ≤ ·) = none)
    (hd : heartbeat.provider = some details)
    (hc : compare details.updatedAt (peer.theirProviderUpdatedAt.getD .zero) = .gt) :
    ∃ r, handleHeartbeat plan visits now db source heartbeat = some r ∧
      Handled db source heartbeat r := by
  obtain ⟨db₁, h₁⟩ : ∃ db₁, db.updatePeer source (PeerRow.updated now details heartbeat.timestamp)
    (PeerRow.updated_peerId now details heartbeat.timestamp) = db₁ := ⟨_, rfl⟩
  have hp₁ : db₁.peer? source = some (peer.updated now details heartbeat.timestamp) := by
    rw [← h₁, Database.peer?_updatePeer, hp, Option.map_some]
  have ho₁ : db₁.offerSnapshots = db.offerSnapshots := h₁ ▸ Database.updatePeer_offerSnapshots
  have hf₁ : db.Frame source db₁ := h₁ ▸ .updatePeer
  have ⟨c, hc', hf, he⟩ : ∃ c, OfferChanges.replace plan source visits details.offers db₁ = some c ∧
      db₁.Frame source c.db ∧ OfferChanges.Explains source details.offers db₁.activeOffers c :=
    OfferChanges.replace_spec (Database.hasPeer_of_peer? hp₁)
  simp only [handleHeartbeat, hp, ht, hd, hc, h₁, hc']
  refine ⟨_, rfl, .stored details _ _ hd ?_⟩
  constructor
  case newer  => exact not_outdates hp ht hd (by simp [hc])
  case frame  => exact hf₁.trans hf
  case tracks => exact Database.activeOffers_congr ho₁ ▸ he.tracks
  case peer   => exact ⟨_, (Database.peer?_congr (OfferChanges.replace_peers hc')).trans hp₁, rfl,
    .inl rfl⟩

-- No statement of the handler fails, whatever the cursor reads.
theorem handleHeartbeat_handled :
    ∃ r, handleHeartbeat plan visits now db source heartbeat = some r ∧
      Handled db source heartbeat r := by
  cases hp : db.peer? source
  case none =>
    cases hd : heartbeat.provider
    case none =>
      simp only [handleHeartbeat, hp, hd]
      exact ⟨_, rfl, .ignored hd⟩
    case some details =>
      exact handled_of_new hp hd
  case some peer =>
    cases ht : peer.theirLatestHeartbeatTimestamp.filter (heartbeat.timestamp ≤ ·)
    case some stored =>
      simp only [handleHeartbeat, hp, ht]
      obtain ⟨hs, hle⟩ := Option.filter_eq_some_iff.mp ht
      exact ⟨_, rfl, .outdated _ ⟨peer, hp, .inl ⟨stored, hs, by simpa using hle⟩⟩⟩
    case none =>
      cases hd : heartbeat.provider
      case none =>
        simp only [handleHeartbeat, hp, ht, hd]
        exact ⟨_, rfl, .ignored hd⟩
      case some details =>
        cases hc : compare details.updatedAt (peer.theirProviderUpdatedAt.getD .zero)
        case lt =>
          simp only [handleHeartbeat, hp, ht, hd, hc]
          exact ⟨_, rfl, .outdated _ ⟨peer, hp, .inr ⟨details, hd, Int.compare_eq_lt.mp hc⟩⟩⟩
        case eq =>
          exact handled_of_equal hp ht hd hc
        case gt =>
          exact handled_of_greater hp ht hd hc

-- The source is new, or all that is stored of it is older.
def Database.Precedes (db : Database) (source : PeerId) (heartbeat : Heartbeat) : Prop :=
  db.peer? source = none ∨ ∃ peer details,
    db.peer? source = some peer ∧ heartbeat.provider = some details ∧
    (∀ stored, peer.theirLatestHeartbeatTimestamp = some stored → stored < heartbeat.timestamp) ∧
    peer.theirProviderUpdatedAt.getD .zero < details.updatedAt

theorem precedes_of_handleHeartbeat
    (h : handleHeartbeat plan visits now db source heartbeat = some (.ok (events, db')))
    (hd : heartbeat.provider = some details)
    (ho : ∀ p, db.peer? source = some p →
      p.theirProviderUpdatedAt.getD .zero < details.updatedAt) : db.Precedes source heartbeat := by
  cases hp : db.peer? source
  case none => exact .inl hp
  case some peer =>
    have hn := not_outdates_of_handleHeartbeat h
    refine .inr ⟨peer, details, hp, hd, fun stored hs => ?_, ho peer hp⟩
    exact Int.not_le.mp fun hle => hn ⟨peer, hp, .inl ⟨stored, hs, hle⟩⟩

-- The events of an accepted heartbeat are the exact difference that it makes to the active offers.
theorem handleHeartbeat_events_exact
    (h : handleHeartbeat plan visits now db source heartbeat = some (.ok (events, db'))) :
    Delta.Exact db.activeOffers (events.filterMap RpcEvent.offerEntry?) db'.activeOffers := by
  have ⟨r, hr, hh⟩ : ∃ r, handleHeartbeat plan visits now db source heartbeat = some r ∧
      Handled db source heartbeat r := handleHeartbeat_handled
  obtain rfl := Option.some.inj (h.symm.trans hr)
  cases hh
  case ignored => exact Delta.Tracks.nil.exact
  case stored hs => exact hs.tracks.exact

-- A provider replaces the payload of its only offer.
private def newPayload : Heartbeat where
  provider  := some {
    name        := none
    teaser      := none
    description := none
    offers      := OfferMap.set ∅ "protocol" "offer" ⟨"new"⟩
    updatedAt   := 1
  }
  timestamp := 1

private def oldPayload : Database :=
  .ofOffer ⟨[1]⟩ "offer" "protocol" "old"

theorem handleHeartbeat_events_exact_sample : ∃ events db',
    handleHeartbeat .scan [1] 0 oldPayload ⟨[1]⟩ newPayload = some (.ok (events, db')) ∧
      events.filterMap RpcEvent.offerEntry? =
        [((⟨[1]⟩, "protocol", "offer"), some (2, "new"))] ∧
      Delta.Exact oldPayload.activeOffers (events.filterMap RpcEvent.offerEntry?)
        db'.activeOffers := by
  have h : (handleHeartbeat .scan [1] 0 oldPayload ⟨[1]⟩ newPayload).any (fun r =>
      r.toOption.any fun r => r.1.filterMap RpcEvent.offerEntry? =
        [((⟨[1]⟩, "protocol", "offer"), some (2, "new"))]) = true := by
    decide +kernel
  obtain ⟨r, hr, hc⟩ := Option.any_eq_true _ _ |>.mp h
  cases r
  case error => simp [Except.toOption] at hc
  case ok r  => exact ⟨r.1, r.2, hr, by simpa [Except.toOption] using hc, handleHeartbeat_events_exact hr⟩

def Heartbeat.offers (heartbeat : Heartbeat) : OfferMap ProviderOffer :=
  heartbeat.provider.elim ∅ (·.offers)

-- A provider's catalogue as a database has it after a heartbeat, next to the database before.
structure Database.Synced (db : Database) (source : PeerId) (offers : OfferMap ProviderOffer)
    (db' : Database) : Prop where
  mirrors     : db'.Mirrors source offers
  -- No offer has two active snapshots.
  unique      : ∀ p o l l' i j, db'.offerSnapshots.get? i = some (.provided source p o l) →
    db'.offerSnapshots.get? j = some (.provided source p o l') → i = j
  -- An earlier snapshot of an incoming payload becomes the active one.
  reactivated : ∀ p o a i s, offers.get? p o = some a → db.offerSnapshots.get? i = some s →
    s.SameKey (.provided source p o a.protocolPayload) →
    db'.offerSnapshots.get? i = some (.provided source p o a.protocolPayload)
  frame       : db.Frame source db'

theorem Database.Mirrors.synced (h : db'.Mirrors source offers) (hf : db.Frame source db') :
    db.Synced source offers db' where
  mirrors     := h
  unique      := fun _ _ _ _ _ _ => Offers.rowid_unique
  frame       := hf
  reactivated := by
    intro p o a i s ha hs hk
    have ⟨s', hs', hk'⟩ := hf.snapshotsKeep i s hs
    have ⟨j, hj⟩ := (h p o a.protocolPayload).mpr ha
    obtain ⟨⟨h₁, h₂, h₃⟩, h₄⟩ := hk
    obtain ⟨⟨h₁', h₂', h₃'⟩, h₄'⟩ := hk'
    -- The index on the payloads leaves one row.
    have hi : i = j := by
      apply db'.offerSnapshots.unique hs' hj
      · exact OfferSnapshotRow.protocolPayload_mem_keys.mpr ⟨rfl, rfl, rfl, rfl⟩
      · refine OfferSnapshotRow.protocolPayload_mem_keys.mpr ⟨?_, ?_, ?_, ?_⟩
        · rw [← h₁', h₁]
        · rw [← h₂', h₂]
        · rw [← h₃', h₃]
        · rw [← h₄', h₄]
    rw [hi, hj]

theorem Database.Synced.active_iff (h : db.Synced source offers db')
    (hs : db.offerSnapshots.get? i = some s) (hp : s.providerPeerId = source)
    (hs' : db'.offerSnapshots.get? i = some s') (hk : s.SameKey s') :
    s'.active = true ↔ offers.get? s.protocolId s.offerId = some ⟨s.protocolPayload⟩ := by
  obtain ⟨⟨h₁, h₂, h₃⟩, h₄⟩ := hk
  constructor
  case mp =>
    intro ha
    refine (h.mirrors _ _ _).mp ⟨i, ?_⟩
    rw [hs', OfferSnapshotRow.eq_provided (h₁.symm.trans hp) ha, h₂, h₃, h₄]
  case mpr =>
    intro ho
    have hr := h.reactivated _ _ _ i s ho hs ⟨⟨hp, rfl, rfl⟩, rfl⟩
    rw [hs'] at hr
    exact Option.some.inj hr ▸ rfl

private theorem not_outdates_of_precedes (h : db.Precedes source heartbeat) :
    ¬db.Outdates source heartbeat := by
  rintro ⟨peer, hp, ho⟩
  cases h
  case inl hn => simp [hn] at hp
  case inr h =>
    obtain ⟨peer', details, hp', hd, ht, hu⟩ := h
    obtain rfl : peer = peer' := Option.some.inj (hp.symm.trans hp')
    cases ho
    case inl ho =>
      obtain ⟨stored, hs, hle⟩ := ho
      exact absurd (ht stored hs) (Int.not_lt.mpr hle)
    case inr ho =>
      obtain ⟨details', hd', hlt⟩ := ho
      obtain rfl : details = details' := Option.some.inj (hd.symm.trans hd')
      exact absurd hu (Int.not_lt.mpr <| Int.le_of_lt hlt)

-- The catalogue of a source that is new or has news is stored, whatever the order of its maps and of
-- the cursor, and whatever else the cursor reads.
theorem handleHeartbeat_synced (h : db.Precedes source heartbeat) (hv : db.Covers source visits) :
    ∃ events db', handleHeartbeat plan visits now db source heartbeat = some (.ok (events, db')) ∧
      db.Synced source heartbeat.offers db' := by
  have ⟨r, hr, hh⟩ : ∃ r, handleHeartbeat plan visits now db source heartbeat = some r ∧
      Handled db source heartbeat r := handleHeartbeat_handled
  cases hh
  case outdated ho => exact absurd ho (not_outdates_of_precedes h)
  case ignored hd =>
    refine ⟨_, _, hr, Database.Mirrors.synced (fun p o l => ?_) .refl⟩
    simp only [Heartbeat.offers, hd, Option.elim_none, OfferMap.get?_empty, reduceCtorEq, iff_false]
    cases h
    case inl hn =>
      intro ⟨i, hi⟩
      have ⟨j, q, hq, he⟩ := db.snapshotPeer hi
      exact Database.peer?_eq_none_iff.mp hn j q hq he
    case inr h =>
      obtain ⟨_, _, _, hd', _⟩ := h
      simp [hd] at hd'
  case stored details events db' hd hs =>
    refine ⟨_, _, hr, Database.Mirrors.synced ?_ hs.frame⟩
    simp only [Heartbeat.offers, hd, Option.elim_some]
    cases handleHeartbeat_accepted hr hd hv
    case stored hm => exact hm
    case equal peer peer' hp he _ _ _ =>
      -- Precedence rules out that the stored data is as new.
      cases h
      case inl hn => simp [hn] at hp
      case inr h =>
        obtain ⟨p, details', hp', hd', _, hu⟩ := h
        obtain rfl : peer = p := Option.some.inj (hp.symm.trans hp')
        obtain rfl : details = details' := Option.some.inj (hd.symm.trans hd')
        exact absurd hu (by simp [he])

theorem handleHeartbeat_synced_sample : ∃ events db',
    handleHeartbeat .scan [1] 0 oldPayload ⟨[1]⟩ newPayload = some (.ok (events, db')) ∧
      oldPayload.Synced ⟨[1]⟩ newPayload.offers db' := by
  have hp : oldPayload.peer? ⟨[1]⟩ = some { peerId := ⟨[1]⟩ } := by decide +kernel
  have hr : oldPayload.offerSnapshots.rows.map (·.1) = [1] := by decide +kernel
  refine handleHeartbeat_synced (.inr ⟨_, _, hp, rfl, fun _ h => ?_, by decide⟩) ?_
  · contradiction
  · exact hr ▸ Database.covers_rowids oldPayload ⟨[1]⟩

end Derouter
