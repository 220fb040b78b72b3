import Derouter.Db.Peers

open Sql

namespace Derouter

namespace OfferSnapshotRow

def activate (r : OfferSnapshotRow) : OfferSnapshotRow :=
  { r with active := true }

def deactivate (r : OfferSnapshotRow) : OfferSnapshotRow :=
  { r with active := false }

theorem keys_deactivate_subset (r : OfferSnapshotRow) : r.deactivate.keys ⊆ r.keys := by
  simp [keys, deactivate]

-- The snapshot that a provided offer asks for.
def provided (providerPeerId : PeerId) (protocolId offerId protocolPayload : String) :
    OfferSnapshotRow :=
  { providerPeerId, protocolId, offerId, active := true, protocolPayload }

theorem eq_provided {r : OfferSnapshotRow} (hp : r.providerPeerId = p) (ha : r.active = true) :
    r = .provided p r.protocolId r.offerId r.protocolPayload := by
  rw [provided, ← hp, ← ha]

def snapshot (r : OfferSnapshotRow) (i : Rowid) : OfferSnapshot where
  snapshotId      := i
  active          := r.active
  providerPeerId  := r.providerPeerId
  protocolId      := r.protocolId
  offerId         := r.offerId
  protocolPayload := r.protocolPayload

end OfferSnapshotRow

namespace Database

variable (db : Database)

-- Replaces the offer snapshots, where every referenced snapshot stays.
def withSnapshots (t : UniqueTable OfferSnapshotRow OfferSnapshotRow.keys)
    (hp : ∀ {i s}, t.get? i = some s →
      ∃ j p, db.peers.get? j = some p ∧ p.peerId = s.providerPeerId)
    (hs : ∀ {i s}, db.offerSnapshots.get? i = some s → ∃ s', t.get? i = some s') : Database :=
  { db with
    offerSnapshots := t
    snapshotPeer   := hp
    jobSnapshot    := fun hr => by
      have ⟨_, h⟩ := db.jobSnapshot hr
      exact hs h
  }

variable {db}

private theorem upsert_peer {t : UniqueTable OfferSnapshotRow OfferSnapshotRow.keys}
    {plan : Plan (Rowid × OfferSnapshotRow)} {target : OfferSnapshotKey → Bool}
    (hp : db.HasPeer r.providerPeerId)
    (h : db.offerSnapshots.upsert? plan target .activate r = some (i, t)) {j : Rowid}
    {s : OfferSnapshotRow} (hs : t.get? j = some s) :
    ∃ j p, db.peers.get? j = some p ∧ p.peerId = s.providerPeerId := by
  rcases UniqueTable.upsert?_cases h with ⟨_, _, ht⟩ | ⟨b, hb, _, _, ht⟩
  case inl =>
    rcases Table.get?_insert_cases (ht ▸ hs) with ⟨_, rfl⟩ | hs
    · exact hasPeer_iff.mp hp
    · exact db.snapshotPeer hs
  case inr =>
    rcases Table.get?_update_cases (ht ▸ hs) with ⟨_, c, hc, rfl⟩ | ⟨_, hs⟩
    · exact db.snapshotPeer (s := c) hc
    · exact db.snapshotPeer hs

private theorem upsert_snapshots {t : UniqueTable OfferSnapshotRow OfferSnapshotRow.keys}
    {plan : Plan (Rowid × OfferSnapshotRow)} {target : OfferSnapshotKey → Bool}
    (h : db.offerSnapshots.upsert? plan target .activate r = some (i, t)) {j : Rowid}
    {s : OfferSnapshotRow} (hs : db.offerSnapshots.get? j = some s) :
    ∃ s', t.get? j = some s' := by
  rcases UniqueTable.upsert?_cases h with ⟨_, _, ht⟩ | ⟨_, _, _, _, ht⟩
  case inl => exact ⟨s, ht ▸ Table.get?_insert_of_some hs⟩
  case inr =>
    refine Option.isSome_iff_exists.mp ?_
    rw [ht, Table.isSome_get?_update, hs]
    rfl

variable (db)

-- `INSERT INTO offer_snapshots .. ON CONFLICT (target) DO UPDATE SET active = 1 RETURNING ROWID`.
def upsertSnapshot? (plan : Plan (Rowid × OfferSnapshotRow)) (target : OfferSnapshotKey → Bool)
    (r : OfferSnapshotRow) : Option (Rowid × Database) :=
  if hp : db.HasPeer r.providerPeerId then
    match h : db.offerSnapshots.upsert? plan target .activate r with
    | none        => none
    | some (i, t) => some (i, db.withSnapshots t (upsert_peer hp h) (upsert_snapshots h))
  else
    none

-- `UPDATE offer_snapshots SET active = 0 WHERE ROWID = ?`.
def deactivateSnapshot (i : Rowid) : Database :=
  db.withSnapshots
    (db.offerSnapshots.rewrite i .deactivate OfferSnapshotRow.keys_deactivate_subset)
    (fun h => by
      rcases Table.get?_update_cases h with ⟨_, s, hs, rfl⟩ | ⟨_, hs⟩
      · exact db.snapshotPeer (s := s) hs
      · exact db.snapshotPeer hs)
    (fun h => Option.isSome_iff_exists.mp <| Table.isSome_get?_update.trans (by simp [h]))

end Database

def find (db : Database) (snapshotId : Rowid) : Option OfferSnapshot :=
  (db.offerSnapshots.get? snapshotId).map (·.snapshot snapshotId)

-- The upsert has no conflict target, and its result is unwrapped (`none`).
def upsert (plan : Plan (Rowid × OfferSnapshotRow)) (db : Database) (providerPeerId : PeerId)
    (offerId protocolId protocolPayload : String) : Option (Rowid × Database) :=
  (db.ensurePeer providerPeerId).upsertSnapshot? plan UniqueTable.anyIndex
    (.provided providerPeerId protocolId offerId protocolPayload)

-- A new database after its node has provided one offer.
def Database.ofOffer (providerPeerId : PeerId) (offerId protocolId protocolPayload : String) :
    Database :=
  match upsert .scan ∅ providerPeerId offerId protocolId protocolPayload with
  | some (_, db) => db
  | none         => ∅

end Derouter
