import Derouter.Db.ServiceJobs.Basic

open Sql

namespace Derouter

-- Create new service job entry. The insertion is unwrapped, so it panics (`none`) when the offer
-- snapshot does not exist.
def createJob (now : DateTime) (db : Database) (offerSnapshotRowid : Rowid)
    (consumerPeerId : PeerId) (currency : Currency) (jobArgs : Option String)
    (providerJobId : String) (createdAtSync : Int) : Option (Rowid × Database) :=
  db.insertJob? {
    offerSnapshotRowid
    consumerPeerId
    currency
    jobArgs
    providerJobId
    createdAtSync
    createdAtLocal := now.currentTimestamp
  }

inductive FailJobError
  | invalidJobId
  | alreadyCompleted
  | alreadyFailed (reason : String) (reasonClass : Option Int)

def JobUpdate.fail (now : DateTime) (reason : String) (reasonClass : Option Int)
    (privatePayload : Option String) : JobUpdate where
  set r := { r with
    reason           := some reason
    reasonClass      := reasonClass
    privatePayload   := privatePayload
    completedAtLocal := some now.currentTimestamp
  }
  keeps _ := rfl

def failJob (plan : Plan JobJoin) (now : DateTime) (db : Database) (providerPeerId : PeerId)
    (providerJobId reason : String) (reasonClass : Option Int) (privatePayload : Option String) :
    Outcome FailJobError Database :=
  match db.jobById plan providerPeerId providerJobId with
  | none => .err .invalidJobId
  | some j =>
    match j.job.reason with
    | some reason => .err <| .alreadyFailed reason j.job.reasonClass
    | none =>
      if j.job.completedAtLocal.isSome then
        .err .alreadyCompleted
      else
        .ok <| db.updateJob j.rowid (.fail now reason reasonClass privatePayload)

inductive SetJobConfirmationErrorResult
  | ok
  | invalidJobId
  | alreadyConfirmed
deriving DecidableEq

def JobUpdate.setConfirmationError (confirmationError : String) : JobUpdate where
  set r := { r with
    confirmationError := some confirmationError
  }
  keeps _ := rfl

-- Set the job's `confirmationError`.
def setJobConfirmationError (db : Database) (jobRowid : Rowid) (confirmationError : String) :
    SetJobConfirmationErrorResult × Database :=
  match db.serviceJobs.get? jobRowid with
  | none => (.invalidJobId, db)
  | some job =>
    if job.signatureConfirmedAtLocal.isSome then
      (.alreadyConfirmed, db)
    else
      (.ok, db.updateJob jobRowid (.setConfirmationError confirmationError))

inductive ProviderCompleteJobError
  | jobNotFound
  | alreadyCompleted (completedAtSync : Int)
  | alreadyFailed (reason : String) (reasonClass : Option Int)
  | invalidBalanceDelta

-- The private payload is only updated if the argument is not `NULL`.
def JobUpdate.providerComplete (now : DateTime) (balanceDelta privatePayload : Option String)
    (publicPayload : String) : JobUpdate where
  set r := { r with
    balanceDelta    := balanceDelta
    publicPayload   := some publicPayload
    privatePayload  := privatePayload.or r.privatePayload
    completedAtSync := some now.timestamp
  }
  keeps _ := rfl

-- Mark a job as completed, locally.
def providerCompleteJob (ext : External) (plan : Plan JobJoin) (now : DateTime) (db : Database)
    (providerPeerId : PeerId) (providerJobId : String) (balanceDelta privatePayload : Option String)
    (publicPayload : String) : Outcome ProviderCompleteJobError (Database × JobRecord) :=
  match db.jobById plan providerPeerId providerJobId with
  | none => .err .jobNotFound
  | some j =>
    match j.job.reason, j.job.completedAtSync with
    | some reason, _             => .err <| .alreadyFailed reason j.job.reasonClass
    | none, some completedAtSync => .err <| .alreadyCompleted completedAtSync
    | none, none                 =>
      if !validOptBalanceDelta ext balanceDelta j.job.currency then
        .err .invalidBalanceDelta
      else
        let db := db.updateJob j.rowid
          (.providerComplete now balanceDelta privatePayload publicPayload)
        match db.findByRowid j.rowid with
        | none           => .panic
        | some jobRecord => .ok (db, jobRecord)

inductive ProviderConfirmJobError
  -- Job not found locally.
  | jobNotFound
  -- The stored job has another Consumer peer ID.
  | consumerPeerIdMismatch
  -- The job is not marked as completed yet.
  | notCompletedYet
  | alreadyFailed
  | hashMismatch (jobRowid : Rowid) (expectedHash : List UInt8)
  -- The job's signature is already confirmed.
  | alreadyConfirmed
  | publicKeyDecodingFailed
  | signatureVerificationFailed (jobRowid : Rowid)

def JobUpdate.providerConfirm (now : DateTime) (consumerSignature : List UInt8) : JobUpdate where
  set r := { r with
    consumerSignature         := some consumerSignature
    signatureConfirmedAtLocal := some now
    confirmationError         := none
  }
  keeps _ := rfl

-- As a Provider, confirm the Consumer's signature on a previously completed job.
def providerConfirmJob (ext : External) (plan : Plan JobJoin) (now : DateTime) (db : Database)
    (consumerPeerId providerPeerId : PeerId) (providerJobId : String)
    (jobHash consumerPublicKey consumerSignature : List UInt8) :
    Outcome ProviderConfirmJobError Database :=
  match db.findByJobId plan providerPeerId providerJobId with
  | none => .err .jobNotFound
  | some job =>
    if job.consumerPeerId ≠ consumerPeerId then
      .err .consumerPeerIdMismatch
    else if job.signatureConfirmedAtLocal.isSome then
      .err .alreadyConfirmed
    else if job.completedAtSync.isNone then
      .err .notCompletedYet
    else if job.reason.isSome then
      .err .alreadyFailed
    else
      match job.publicPayload, job.completedAtSync with
      | some publicPayload, some completedAtSync =>
        let expectedHash := hashJob ext {
          consumerPeerId     := job.consumerPeerId
          providerPeerId     := job.providerPeerId
          protocolId         := job.offerProtocolId
          offerPayload       := job.offerPayload
          currency           := job.currency.code
          providerJobId      := providerJobId
          jobPublicPayload   := publicPayload
          jobCompletedAtSync := completedAtSync
          balanceDelta       := job.balanceDelta.map Hex.encodeString
          jobCreatedAtSync   := job.createdAtSync
        }
        if jobHash ≠ expectedHash then
          .err <| .hashMismatch job.jobRowid expectedHash
        else
          match ext.tryDecodeProtobuf consumerPublicKey with
          | none => .err .publicKeyDecodingFailed
          | some publicKey =>
            if !ext.verify publicKey jobHash consumerSignature then
              .err <| .signatureVerificationFailed job.jobRowid
            else
              .ok <| db.updateJob job.jobRowid (.providerConfirm now consumerSignature)
      -- `job.public_payload.unwrap()` and `job.completed_at_sync.unwrap()`.
      | _, _ => .panic

inductive ConsumerCompleteJobError
  | invalidJobId
  | consumerPeerIdMismatch
  | alreadyFailed (reason : String) (reasonClass : Option Int)
  | alreadyCompleted
  | invalidBalanceDelta

-- The private payload is only updated if the argument is not `NULL`.
def JobUpdate.consumerComplete (now : DateTime) (balanceDelta : Option String)
    (publicPayload : String) (privatePayload : Option String) (completedAtSync : Int)
    (jobHash consumerSignature : List UInt8) : JobUpdate where
  set r := { r with
    balanceDelta      := balanceDelta
    publicPayload     := some publicPayload
    privatePayload    := privatePayload.or r.privatePayload
    completedAtLocal  := some now
    completedAtSync   := some completedAtSync
    hash              := some jobHash
    consumerSignature := some consumerSignature
  }
  keeps _ := rfl

-- On the Consumer side, mark a synced job as completed, and sign it.
def consumerCompleteJob (ext : External) (plan : Plan JobJoin) (now : DateTime) (db : Database)
    (consumerPeerId providerPeerId : PeerId) (providerJobId : String) (balanceDelta : Option String)
    (publicPayload : String) (privatePayload : Option String) (completedAtSync : Int)
    (signFn : List UInt8 → List UInt8) :
    Outcome ConsumerCompleteJobError (Database × JobRecord) :=
  match db.findByJobId plan providerPeerId providerJobId with
  | none => .err .invalidJobId
  | some job =>
    if job.consumerPeerId ≠ consumerPeerId then
      .err .consumerPeerIdMismatch
    else
      match job.reason with
      | some reason => .err <| .alreadyFailed reason job.reasonClass
      | none =>
        if job.completedAtLocal.isSome then
          .err .alreadyCompleted
        else if !validOptBalanceDelta ext balanceDelta job.currency then
          .err .invalidBalanceDelta
        else
          let balanceDelta := balanceDelta.map Hex.encodeString
          let jobHash := hashJob ext {
            consumerPeerId     := job.consumerPeerId
            providerPeerId     := job.providerPeerId
            protocolId         := job.offerProtocolId
            offerPayload       := job.offerPayload
            currency           := job.currency.code
            providerJobId      := job.providerJobId
            jobPublicPayload   := publicPayload
            jobCompletedAtSync := completedAtSync
            jobCreatedAtSync   := job.createdAtSync
            balanceDelta       := balanceDelta
          }
          let consumerSignature := signFn jobHash
          let db := db.updateJob job.jobRowid (.consumerComplete now balanceDelta publicPayload
            privatePayload completedAtSync jobHash consumerSignature)
          .ok (db, { job with
            balanceDelta     := balanceDelta
            publicPayload    := some publicPayload
            privatePayload   := privatePayload.or job.privatePayload
            completedAtLocal := some now
            completedAtSync  := some completedAtSync
          })

inductive ConsumerConfirmJobError
  | invalidJobId
  | notSignedYet
  | alreadyConfirmed

def JobUpdate.consumerConfirm (now : DateTime) : JobUpdate where
  set r := { r with
    signatureConfirmedAtLocal := some now.currentTimestamp
    confirmationError         := none
  }
  keeps _ := rfl

-- Mark a previosly completed job as confirmed after an actual by-wire confirmation took place.
def consumerConfirmJob (now : DateTime) (db : Database) (jobRowid : Rowid) :
    Outcome ConsumerConfirmJobError (Database × JobRecord) :=
  match db.serviceJobs.get? jobRowid with
  | none => .err .invalidJobId
  | some job =>
    if job.signatureConfirmedAtLocal.isSome then
      .err .alreadyConfirmed
    else if job.consumerSignature.isNone then
      .err .notSignedYet
    else
      let db := db.updateJob jobRowid (.consumerConfirm now)
      match db.findByRowid jobRowid with
      | none           => .panic
      | some jobRecord => .ok (db, jobRecord)

end Derouter
