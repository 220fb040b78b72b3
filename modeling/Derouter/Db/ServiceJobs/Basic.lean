import Derouter.Db.Schema
import Derouter.External
import Derouter.Lib.Hex

open Sql

namespace Derouter

-- How a call that does not return `Ok` ends. Both ways roll the transaction of the call back.
inductive Abort (ε : Type)
  | panic
  | error (e : ε)

abbrev Outcome (ε α : Type) :=
  Except (Abort ε) α

namespace Outcome

abbrev err (e : ε) : Outcome ε α :=
  .error (.error e)

abbrev panic : Outcome ε α :=
  .error .panic

end Outcome

structure JobHashingPayload where
  consumerPeerId     : PeerId
  providerPeerId     : PeerId
  protocolId         : String
  offerPayload       : String
  currency           : String
  providerJobId      : String
  jobCreatedAtSync   : Int
  jobPublicPayload   : String
  jobCompletedAtSync : Int
  balanceDelta       : Option String
deriving DecidableEq

-- The bytes that are fed to the hasher, one update after the other.
def JobHashingPayload.bytes (job : JobHashingPayload) : List UInt8 :=
  job.consumerPeerId.toBytes ++
  job.providerPeerId.toBytes ++
  Hex.bytes job.protocolId ++
  Hex.bytes job.offerPayload ++
  Hex.bytes job.currency ++
  Hex.bytes job.providerJobId ++
  Hex.bytes (toString job.jobCreatedAtSync) ++
  Hex.bytes job.jobPublicPayload ++
  Hex.bytes (toString job.jobCompletedAtSync) ++
  match job.balanceDelta with
  | some balanceDelta => Hex.bytes balanceDelta
  | none              => []

def hashJob (ext : External) (job : JobHashingPayload) : List UInt8 :=
  ext.sha256 job.bytes

def validateBalanceDelta (ext : External) (balanceDelta : String) : Currency → Bool
  | .polygon => ext.parsesU256 balanceDelta

-- The check that both completions make on an optional balance delta.
def validOptBalanceDelta (ext : External) (balanceDelta : Option String) (currency : Currency) :
    Bool :=
  balanceDelta.all (validateBalanceDelta ext · currency)

namespace Database

-- The query that `fail_job`, `provider_complete_job` and `find_by_job_id` share. They read different
-- columns of the row that it returns.
def jobById (plan : Plan JobJoin) (db : Database) (providerPeerId : PeerId)
    (providerJobId : String) : Option JobJoin :=
  plan.first <| db.jobsById providerPeerId providerJobId

def findByJobId (plan : Plan JobJoin) (db : Database) (providerPeerId : PeerId)
    (providerJobId : String) : Option JobRecord :=
  (db.jobById plan providerPeerId providerJobId).map JobJoin.record

-- Get a single job record.
def findByRowid (db : Database) (jobRowid : Rowid) : Option JobRecord :=
  match db.serviceJobs.get? jobRowid with
  | none   => none
  | some r => (db.offerSnapshots.get? r.offerSnapshotRowid).map fun s => JobJoin.record ⟨jobRowid, r, s⟩

theorem jobById_mem {plan : Plan JobJoin} {db : Database} {j : JobJoin}
    (h : db.jobById plan provider jobId = some j) : j ∈ db.jobsById provider jobId :=
  Plan.mem_of_first h

theorem jobById_row {plan : Plan JobJoin} {db : Database} {j : JobJoin}
    (h : db.jobById plan provider jobId = some j) : db.serviceJobs.get? j.rowid = some j.job :=
  mem_joined_iff.mp (mem_jobsById_iff.mp <| jobById_mem h).1 |>.1

theorem jobById_snapshot {plan : Plan JobJoin} {db : Database} {j : JobJoin}
    (h : db.jobById plan provider jobId = some j) :
    db.offerSnapshots.get? j.job.offerSnapshotRowid = some j.snapshot :=
  mem_joined_iff.mp (mem_jobsById_iff.mp <| jobById_mem h).1 |>.2

theorem jobById_providerPeerId {plan : Plan JobJoin} {db : Database} {j : JobJoin}
    (h : db.jobById plan provider jobId = some j) : j.snapshot.providerPeerId = provider :=
  mem_jobsById_iff.mp (jobById_mem h) |>.2.1

theorem jobById_providerJobId {plan : Plan JobJoin} {db : Database} {j : JobJoin}
    (h : db.jobById plan provider jobId = some j) : j.job.providerJobId = jobId :=
  mem_jobsById_iff.mp (jobById_mem h) |>.2.2

theorem findByJobId_eq_some {plan : Plan JobJoin} {db : Database} {r : JobRecord}
    (h : db.findByJobId plan provider jobId = some r) :
    ∃ j, db.jobById plan provider jobId = some j ∧ j.record = r :=
  Option.map_eq_some_iff.mp h

-- The foreign key makes the join of an existing job total.
theorem findByRowid_of_row {db : Database} {r : JobRow} (h : db.serviceJobs.get? i = some r) :
    ∃ s, db.offerSnapshots.get? r.offerSnapshotRowid = some s ∧
      db.findByRowid i = some (JobJoin.record ⟨i, r, s⟩) := by
  obtain ⟨s, hs⟩ := db.jobSnapshot h
  exact ⟨s, hs, by simp [findByRowid, h, hs]⟩

end Database

structure UnconfirmedJob where
  rowid             : Rowid
  providerPeerId    : PeerId
  providerJobId     : String
  hash              : List UInt8
  consumerSignature : List UInt8
deriving DecidableEq

-- Reading a row panics when its `hash` is `NULL`.
def JobJoin.unconfirmed (j : JobJoin) : Option UnconfirmedJob :=
  match j.job.hash, j.job.consumerSignature with
  | some hash, some consumerSignature => some {
      rowid          := j.rowid
      providerPeerId := j.snapshot.providerPeerId
      providerJobId  := j.job.providerJobId
      hash
      consumerSignature
    }
  | _, _ => none

-- The `WHERE` clause of the query.
def JobJoin.awaitsConfirmation (j : JobJoin) (consumerPeerId : PeerId) : Bool :=
  decide (j.job.consumerPeerId = consumerPeerId) &&
  j.job.consumerSignature.isSome &&
  j.job.signatureConfirmedAtLocal.isNone

def queryUnconfirmedJobs (plan : Plan JobJoin) (db : Database) (consumerPeerId : PeerId) :
    Option (List UnconfirmedJob) :=
  (plan.order <| db.joined.filter (·.awaitsConfirmation consumerPeerId)).mapM JobJoin.unconfirmed

end Derouter
