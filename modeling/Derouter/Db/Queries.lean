import Derouter.Db.Offers
import Derouter.Lib.Loop

open Sql

namespace Derouter

-- What a module filters offers by.
structure OfferColumns where
  protocolId     : String
  providerPeerId : PeerId

-- What a module filters jobs by.
structure JobColumns where
  protocolId     : String
  providerPeerId : PeerId
  consumerPeerId : PeerId

def OfferSnapshotRow.columns (r : OfferSnapshotRow) : OfferColumns :=
  ⟨r.protocolId, r.providerPeerId⟩

def OfferSnapshot.columns (offer : OfferSnapshot) : OfferColumns :=
  ⟨offer.protocolId, offer.providerPeerId⟩

def OfferRemoved.columns (offer : OfferRemoved) : OfferColumns :=
  ⟨offer.protocolId, offer.providerPeerId⟩

def JobJoin.columns (j : JobJoin) : JobColumns :=
  ⟨j.snapshot.protocolId, j.snapshot.providerPeerId, j.job.consumerPeerId⟩

def JobRecord.columns (job : JobRecord) : JobColumns :=
  ⟨job.offerProtocolId, job.providerPeerId, job.consumerPeerId⟩

-- The conjunct `column IN rarray(?)` of a `WHERE` clause, if there is a list for it.
def inArray {α κ : Type} [DecidableEq κ] (column : α → κ) : Option (List κ) → List (α → Bool)
  | none     => []
  | some ids => [fun a => decide (column a ∈ ids)]

def offerFilters (protocolIds : Option (List String)) (providerPeerIds : Option (List PeerId)) :
    List (OfferColumns → Bool) :=
  inArray (·.protocolId) protocolIds ++ inArray (·.providerPeerId) providerPeerIds

def jobFilters (protocolIds : Option (List String))
    (providerPeerIds consumerPeerIds : Option (List PeerId)) : List (JobColumns → Bool) :=
  inArray (·.protocolId) protocolIds ++ inArray (·.providerPeerId) providerPeerIds ++
    inArray (·.consumerPeerId) consumerPeerIds

-- Query *active* offers.
def queryActiveOffers (plan : Plan (Rowid × OfferSnapshotRow)) (db : Database)
    (protocolIds : Option (List String)) (providerPeerIds : Option (List PeerId)) :
    List OfferSnapshot :=
  let rows := db.offerSnapshots.select fun _ r =>
    r.active && (offerFilters protocolIds providerPeerIds).all (· r.columns)
  (plan.order rows).map fun r => r.2.snapshot r.1

-- A negative limit is none.
def limited (limit : Int) (l : List α) : List α :=
  if limit < 0 then l else l.take limit.toNat

def jobConjuncts (rowidCursor : Option Rowid) (protocolIds : Option (List String))
    (providerPeerIds consumerPeerIds : Option (List PeerId)) : List (JobJoin → Bool) :=
  (rowidCursor.map fun cursor (j : JobJoin) => decide (cursor < j.rowid)).toList ++
    (jobFilters protocolIds providerPeerIds consumerPeerIds).map fun f j => f j.columns

-- Without any conjunct, `WHERE` is followed by `LIMIT`, which does not parse (`none`).
def queryJobs (plan : Plan JobJoin) (db : Database) (rowidCursor : Option Rowid)
    (protocolIds : Option (List String)) (providerPeerIds consumerPeerIds : Option (List PeerId))
    (limit : Int) : Option (List JobRecord) :=
  let conjuncts := jobConjuncts rowidCursor protocolIds providerPeerIds consumerPeerIds
  if conjuncts.isEmpty then
    none
  else
    let jobs := db.joined.filter fun j => conjuncts.all (· j)
    some <| (limited limit (plan.order jobs)).map (·.record)

-- The columns of a provider. Two that may be `NULL` are read as if they could not be.
def PeerRow.record (r : PeerRow) : Option ProviderRecord :=
  match r.ourProviderUpdatedAt, r.ourLatestHeartbeatTimestamp with
  | some updatedAt, some latestHeartbeatAt => some {
      peerId      := r.peerId
      name        := r.providerName
      teaser      := r.providerTeaser
      description := r.providerDescription
      updatedAt
      latestHeartbeatAt
    }
  | _, _ => none

-- Query providers by peer IDs. Every row is unwrapped (`none`).
def queryProvidersByPeerId (plan : Plan (Rowid × PeerRow)) (db : Database)
    (providerPeerIds : List PeerId) : Option (List ProviderRecord) :=
  (plan.order <| db.peers.select fun _ r => decide (r.peerId ∈ providerPeerIds)).mapM (·.2.record)

variable {plan : Plan (Rowid × OfferSnapshotRow)} {db : Database} {s : OfferSnapshot}

theorem all_inArray {α κ : Type} [DecidableEq κ] {column : α → κ} {ids : Option (List κ)} {a : α} :
    (inArray column ids).all (· a) = true ↔ ∀ l, ids = some l → column a ∈ l := by
  cases ids
  case none   => simp [inArray]
  case some l => simp [inArray]

theorem map_inArray {α β κ : Type} [DecidableEq κ] {column : α → κ} {g : β → α}
    {ids : Option (List κ)} :
    (inArray column ids).map (fun f b => f (g b)) = inArray (fun b => column (g b)) ids := by
  cases ids <;> rfl

theorem all_offerFilters {c : OfferColumns} : (offerFilters ps qs).all (· c) = true ↔
    (∀ l, ps = some l → c.protocolId ∈ l) ∧ (∀ l, qs = some l → c.providerPeerId ∈ l) := by
  simp only [offerFilters, List.all_append, Bool.and_eq_true, all_inArray]

theorem all_jobFilters {c : JobColumns} : (jobFilters ps qs cs).all (· c) = true ↔
    (∀ l, ps = some l → c.protocolId ∈ l) ∧ (∀ l, qs = some l → c.providerPeerId ∈ l) ∧
      (∀ l, cs = some l → c.consumerPeerId ∈ l) := by
  simp only [jobFilters, List.all_append, Bool.and_eq_true, all_inArray, and_assoc]

theorem mem_queryActiveOffers_iff : s ∈ queryActiveOffers plan db ps qs ↔
    find db s.snapshotId = some s ∧ s.active = true ∧
      (offerFilters ps qs).all (· s.columns) = true := by
  simp only [queryActiveOffers, List.mem_map, Plan.mem_order, Prod.exists, Table.mem_select,
    Bool.and_eq_true, find, Option.map_eq_some_iff]
  constructor
  case mp =>
    rintro ⟨i, r, ⟨hr, ha, hf⟩, rfl⟩
    exact ⟨⟨r, hr, rfl⟩, ha, hf⟩
  case mpr =>
    rintro ⟨⟨r, hr, hs⟩, ha, hf⟩
    refine ⟨s.snapshotId, r, ⟨hr, ?_, ?_⟩, hs⟩
    · rwa [← hs] at ha
    · rwa [← hs] at hf

theorem queryJobs_eq_none_iff {plan : Plan JobJoin} :
    queryJobs plan db cursor ps qs cs limit = none ↔
      cursor = none ∧ ps = none ∧ qs = none ∧ cs = none := by
  cases cursor <;> cases ps <;> cases qs <;> cases cs <;>
    simp [queryJobs, jobConjuncts, jobFilters, inArray]

theorem PeerRow.record_eq_none_iff {r : PeerRow} :
    r.record = none ↔ r.ourProviderUpdatedAt = none ∨ r.ourLatestHeartbeatTimestamp = none := by
  cases hu : r.ourProviderUpdatedAt <;> cases hh : r.ourLatestHeartbeatTimestamp <;>
    simp [record, hu, hh]

theorem queryProvidersByPeerId_eq_none_iff {plan : Plan (Rowid × PeerRow)} {ids : List PeerId} :
    queryProvidersByPeerId plan db ids = none ↔ ∃ i r, db.peers.get? i = some r ∧ r.peerId ∈ ids ∧
      (r.ourProviderUpdatedAt = none ∨ r.ourLatestHeartbeatTimestamp = none) := by
  simp only [queryProvidersByPeerId, Loop.mapM_eq_none_iff, Plan.mem_order, Prod.exists,
    Table.mem_select, decide_eq_true_eq, PeerRow.record_eq_none_iff, and_assoc]

theorem all_jobConjuncts {j : JobJoin} : (jobConjuncts cursor ps qs cs).all (· j) = true ↔
    (∀ c, cursor = some c → c < j.rowid) ∧ (jobFilters ps qs cs).all (· j.columns) = true := by
  rw [jobConjuncts, List.all_append, Bool.and_eq_true, List.all_map]
  refine and_congr ?_ .rfl
  cases cursor <;> simp

theorem mem_limited {l : List α} (h : a ∈ limited limit l) : a ∈ l := by
  simp only [limited] at h
  split at h
  case isTrue  => exact h
  case isFalse => exact List.mem_of_mem_take h

theorem mem_of_mem_queryJobs {plan : Plan JobJoin} {jobs : List JobRecord}
    (h : queryJobs plan db cursor ps qs cs limit = some jobs) (hj : job ∈ jobs) :
    ∃ j ∈ db.joined, j.record = job ∧ (∀ c, cursor = some c → c < job.jobRowid) ∧
      (jobFilters ps qs cs).all (· job.columns) = true := by
  simp only [queryJobs] at h
  split at h <;> try contradiction
  obtain rfl := Option.some.inj h
  obtain ⟨j, hm, rfl⟩ := List.mem_map.mp hj
  obtain ⟨hd, hc⟩ := List.mem_filter.mp <| plan.mem_order.mp (mem_limited hm)
  exact ⟨j, hd, rfl, all_jobConjuncts.mp hc⟩

end Derouter
