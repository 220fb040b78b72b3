import Derouter.Dto
import Derouter.Lib.Sql.Unique

open Sql

namespace Derouter

structure PeerRow where
  peerId                       : PeerId
  providerName                 : Option String   := none
  providerTeaser               : Option String   := none
  providerDescription          : Option String   := none
  theirProviderUpdatedAt       : Option DateTime := none
  ourProviderUpdatedAt         : Option DateTime := none
  theirLatestHeartbeatTimestamp : Option DateTime := none
  ourLatestHeartbeatTimestamp  : Option DateTime := none
deriving DecidableEq

def PeerRow.keys (r : PeerRow) : List PeerId :=
  [r.peerId]

structure OfferSnapshotRow where
  providerPeerId  : PeerId
  protocolId      : String
  offerId         : String
  protocolPayload : String
  active          : Bool
deriving DecidableEq

-- The unique indexes of `offer_snapshots`.
inductive OfferSnapshotKey
  -- Payload must be unique per triple.
  | protocolPayload (providerPeerId : PeerId) (protocolId offerId protocolPayload : String)
  -- Only one active snapshot per triple.
  | mainActive (providerPeerId : PeerId) (protocolId offerId : String)
deriving DecidableEq

namespace OfferSnapshotKey

def isProtocolPayload : OfferSnapshotKey → Bool
  | protocolPayload .. => true
  | mainActive ..      => false

end OfferSnapshotKey

namespace OfferSnapshotRow

def keys (r : OfferSnapshotRow) : List OfferSnapshotKey :=
  .protocolPayload r.providerPeerId r.protocolId r.offerId r.protocolPayload ::
    if r.active then [.mainActive r.providerPeerId r.protocolId r.offerId] else []

-- Two snapshots of the same provider's offer.
def SameOffer (r₁ r₂ : OfferSnapshotRow) : Prop :=
  r₁.providerPeerId = r₂.providerPeerId ∧ r₁.protocolId = r₂.protocolId ∧ r₁.offerId = r₂.offerId

instance : Decidable (SameOffer r₁ r₂) :=
  inferInstanceAs <| Decidable (_ ∧ _)

-- The columns that no statement rewrites.
structure SameKey (r₁ r₂ : OfferSnapshotRow) : Prop where
  sameOffer       : r₁.SameOffer r₂
  protocolPayload : r₁.protocolPayload = r₂.protocolPayload

theorem SameKey.refl (r : OfferSnapshotRow) : r.SameKey r :=
  ⟨⟨rfl, rfl, rfl⟩, rfl⟩

theorem SameKey.trans {r₁ r₂ r₃ : OfferSnapshotRow} (h : r₁.SameKey r₂) (h' : r₂.SameKey r₃) :
    r₁.SameKey r₃ := by
  obtain ⟨⟨h₁, h₂, h₃⟩, h₄⟩ := h
  obtain ⟨⟨h₁', h₂', h₃'⟩, h₄'⟩ := h'
  exact ⟨⟨h₁.trans h₁', h₂.trans h₂', h₃.trans h₃'⟩, h₄.trans h₄'⟩

theorem SameKey.eq {r₁ r₂ : OfferSnapshotRow} (h : r₁.SameKey r₂)
    (ha : r₁.active = true ↔ r₂.active = true) : r₁ = r₂ := by
  obtain ⟨⟨h₁, h₂, h₃⟩, h₄⟩ := h
  cases r₁
  cases r₂
  simp_all

theorem protocolPayload_mem_keys {r : OfferSnapshotRow} :
    .protocolPayload p i o l ∈ r.keys ↔
      p = r.providerPeerId ∧ i = r.protocolId ∧ o = r.offerId ∧ l = r.protocolPayload := by
  cases h : r.active <;> simp [keys, h]

theorem eq_of_isProtocolPayload {r : OfferSnapshotRow} {k k' : OfferSnapshotKey} (h : k ∈ r.keys)
    (h' : k' ∈ r.keys) (hk : k.isProtocolPayload = true) (hk' : k'.isProtocolPayload = true) :
    k = k' := by
  cases k <;> cases k' <;> try contradiction
  rw [protocolPayload_mem_keys] at h h'
  rw [h.1, h.2.1, h.2.2.1, h.2.2.2, h'.1, h'.2.1, h'.2.2.1, h'.2.2.2]

theorem mainActive_mem_keys {r : OfferSnapshotRow} :
    .mainActive p i o ∈ r.keys ↔
      r.active = true ∧ p = r.providerPeerId ∧ i = r.protocolId ∧ o = r.offerId := by
  cases h : r.active <;> simp [keys, h]

theorem exists_shared_key_iff {r₁ r₂ : OfferSnapshotRow} :
    (∃ k ∈ r₁.keys, k ∈ r₂.keys) ↔
      r₁.SameOffer r₂ ∧
        (r₁.protocolPayload = r₂.protocolPayload ∨ (r₁.active = true ∧ r₂.active = true)) := by
  obtain ⟨p₁, i₁, o₁, l₁, a₁⟩ := r₁
  obtain ⟨p₂, i₂, o₂, l₂, a₂⟩ := r₂
  cases a₁ <;> cases a₂ <;> simp [keys, SameOffer] <;> tauto

end OfferSnapshotRow

structure JobRow where
  offerSnapshotRowid        : Rowid
  consumerPeerId            : PeerId
  currency                  : Currency
  -- Initial job arguments (local).
  jobArgs                   : Option String
  -- Job ID unique per provider.
  providerJobId             : String
  privatePayload            : Option String       := none
  -- Reason for failure, if any. This field is used to determine if the job has failed.
  reason                    : Option String       := none
  reasonClass               : Option Int          := none
  createdAtLocal            : DateTime
  createdAtSync             : Int
  -- When the job was completed or failed, in the local clock and in the synchronized one.
  completedAtLocal          : Option DateTime     := none
  completedAtSync           : Option Int          := none
  publicPayload             : Option String       := none
  balanceDelta              : Option String       := none
  -- Computed job hash to be signed with `consumerSignature`.
  hash                      : Option (List UInt8) := none
  consumerSignature         : Option (List UInt8) := none
  -- Once this is set, the balance delta is considered to be applied.
  signatureConfirmedAtLocal : Option DateTime     := none
  confirmationError         : Option String       := none
deriving DecidableEq

-- The `SET` list of an update. No statement sets the offer snapshot of a job.
structure JobUpdate where
  set   : JobRow → JobRow
  keeps : ∀ r, (set r).offerSnapshotRowid = r.offerSnapshotRowid

-- A database that meets the constraints of its schema: the unique indexes, and the foreign keys,
-- which the bundled SQLite enforces.
structure Database where
  peers          : UniqueTable PeerRow PeerRow.keys
  offerSnapshots : UniqueTable OfferSnapshotRow OfferSnapshotRow.keys
  serviceJobs    : Table JobRow
  snapshotPeer   : ∀ {i s}, offerSnapshots.get? i = some s →
    ∃ j p, peers.get? j = some p ∧ p.peerId = s.providerPeerId
  jobSnapshot    : ∀ {i r}, serviceJobs.get? i = some r →
    ∃ s, offerSnapshots.get? r.offerSnapshotRowid = some s

-- A joined row of `service_jobs` and `offer_snapshots`.
structure JobJoin where
  rowid    : Rowid
  job      : JobRow
  snapshot : OfferSnapshotRow
deriving DecidableEq

def JobJoin.record (j : JobJoin) : JobRecord where
  jobRowid                  := j.rowid
  providerJobId             := j.job.providerJobId
  providerPeerId            := j.snapshot.providerPeerId
  consumerPeerId            := j.job.consumerPeerId
  offerId                   := j.snapshot.offerId
  offerSnapshotRowid        := j.job.offerSnapshotRowid
  offerProtocolId           := j.snapshot.protocolId
  offerPayload              := j.snapshot.protocolPayload
  offerActive               := j.snapshot.active
  currency                  := j.job.currency
  balanceDelta              := j.job.balanceDelta
  publicPayload             := j.job.publicPayload
  privatePayload            := j.job.privatePayload
  reason                    := j.job.reason
  reasonClass               := j.job.reasonClass
  createdAtLocal            := j.job.createdAtLocal
  createdAtSync             := j.job.createdAtSync
  completedAtLocal          := j.job.completedAtLocal
  completedAtSync           := j.job.completedAtSync
  signatureConfirmedAtLocal := j.job.signatureConfirmedAtLocal
  confirmationError         := j.job.confirmationError

namespace Database

instance : EmptyCollection Database where
  emptyCollection := ⟨∅, ∅, ∅, (nomatch ·), (nomatch ·)⟩

-- `INSERT INTO service_jobs`, which fails when the offer snapshot does not exist.
def insertJob? (db : Database) (r : JobRow) : Option (Rowid × Database) :=
  match hs : db.offerSnapshots.get? r.offerSnapshotRowid with
  | none   => none
  | some s =>
    some (db.serviceJobs.nextRowid, { db with
      serviceJobs := db.serviceJobs.insert r
      jobSnapshot := fun h => by
        rcases Table.get?_insert_cases h with ⟨_, rfl⟩ | h
        · exact ⟨s, hs⟩
        · exact db.jobSnapshot h
    })

-- `UPDATE service_jobs SET .. WHERE rowid = ?`.
def updateJob (db : Database) (i : Rowid) (u : JobUpdate) : Database where
  peers          := db.peers
  offerSnapshots := db.offerSnapshots
  serviceJobs    := db.serviceJobs.update i u.set
  snapshotPeer   := db.snapshotPeer
  jobSnapshot    := fun h => by
    rcases Table.get?_update_cases h with ⟨_, r, hr, rfl⟩ | ⟨_, h⟩
    · exact u.keeps r ▸ db.jobSnapshot hr
    · exact db.jobSnapshot h

-- The database without one of its jobs. No statement deletes a job, so this is only to compare with.
def withoutJob (db : Database) (i : Rowid) : Database where
  peers          := db.peers
  offerSnapshots := db.offerSnapshots
  serviceJobs    := db.serviceJobs.delete i
  snapshotPeer   := db.snapshotPeer
  jobSnapshot    := fun h => by
    rw [Table.get?_delete] at h
    split at h
    case isTrue  => contradiction
    case isFalse => exact db.jobSnapshot h

-- `service_jobs JOIN offer_snapshots ON offer_snapshots.rowid = service_jobs.offer_snapshot_rowid`.
def joined (db : Database) : List JobJoin :=
  db.serviceJobs.rows.filterMap fun r =>
    (db.offerSnapshots.get? r.2.offerSnapshotRowid).map fun s => ⟨r.1, r.2, s⟩

-- The joined rows of a provider's job ID. Nothing in the schema makes them unique.
def jobsById (db : Database) (providerPeerId : PeerId) (providerJobId : String) : List JobJoin :=
  db.joined.filter fun j =>
    decide (j.snapshot.providerPeerId = providerPeerId) && j.job.providerJobId == providerJobId

theorem mem_joined_iff {db : Database} {j : JobJoin} :
    j ∈ db.joined ↔ db.serviceJobs.get? j.rowid = some j.job ∧
      db.offerSnapshots.get? j.job.offerSnapshotRowid = some j.snapshot := by
  obtain ⟨i, r, s⟩ := j
  simp only [joined, List.mem_filterMap, Prod.exists, Table.mem_rows_iff, Option.map_eq_some_iff,
    JobJoin.mk.injEq]
  constructor
  · rintro ⟨_, _, h, _, hs, rfl, rfl, rfl⟩
    exact ⟨h, hs⟩
  · rintro ⟨h, hs⟩
    exact ⟨i, r, h, s, hs, rfl, rfl, rfl⟩

theorem mem_jobsById_iff {db : Database} {j : JobJoin} :
    j ∈ db.jobsById provider jobId ↔
      j ∈ db.joined ∧ j.snapshot.providerPeerId = provider ∧ j.job.providerJobId = jobId := by
  simp [jobsById]

end Database
end Derouter
