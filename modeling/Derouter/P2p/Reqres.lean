import Derouter.Db.ServiceJobs.Operations
import Derouter.Rpc.Procedure
import Derouter.State

open Sql

namespace Derouter

-- Consumer asks Provider to create a new job.
structure CreateJobRequest where
  protocolId   : String
  offerId      : String
  offerPayload : String
  currency     : Currency
  jobArgs      : Option String
deriving DecidableEq

inductive CreateJobResponse
  | ok (providerJobId : String) (createdAtSync : Int)
  | offerNotFound
  | offerPayloadMismatch
  | invalidJobArgs (error : String)
  | busy

-- Consumer queries a job.
structure GetJobRequest where
  providerJobId : String
deriving DecidableEq

inductive GetJobResponse
  | ok (publicPayload balanceDelta : Option String) (createdAtSync : Int)
      (completedAtSync : Option Int)
  -- May also indicate authorization error.
  | jobNotFound
deriving DecidableEq

-- Consumer sends a completed job signature.
structure ConfirmJobRequest where
  providerJobId     : String
  jobHash           : List UInt8
  consumerPublicKey : List UInt8
  consumerSignature : List UInt8
deriving DecidableEq

inductive ConfirmJobResponse
  | ok
  -- Provider claims to not being able to find the job locally.
  | jobNotFound
  -- Provider claims that the job has not been completed yet.
  | notCompletedYet
  -- Provider claims that the job has already been marked as failed.
  | alreadyFailed
  -- Provider expects another job hash.
  | hashMismatch (expectedHash : List UInt8)
  -- Provider claims the public key to be invalid.
  | invalidPublicKey
  -- Provider claims the signature to be invalid.
  | invalidSignature
  -- The hash and signature is valid, but the job is already confirmed.
  | alreadyConfirmed
  | unexpectedResponse
deriving DecidableEq

-- The provider stays locked from the search for the offer to the answer of its module, so that the
-- offer is the same at both ends. The module's `reply` is missing when its connection has ended,
-- which panics. The job is stored at the time `later`.
def handleCreateJobRequest (now later : DateTime) (uuid : String) (reply : Option InboundResponseFrameData)
    (db : Database) (provider : ProviderState) (fromPeerId : PeerId) (request : CreateJobRequest) :
    Option (CreateJobResponse × Database) :=
  match provider.findOffer request.protocolId request.offerId with
  | none => none
  | some none => some (.offerNotFound, db)
  | some (some offer) =>
    if offer.provided.protocolPayload = request.offerPayload then
      let createdAtSync := now.timestamp
      match reply with
      | none => none
      | some (.providerCreateJob .ok) =>
        match createJob later db offer.provided.snapshotRowid fromPeerId request.currency
          request.jobArgs uuid createdAtSync with
        | none         => none
        | some (_, db) => some (.ok uuid createdAtSync, db)
      | some (.providerCreateJob .busy)               => some (.busy, db)
      | some (.providerCreateJob (.invalidJobArgs e)) => some (.invalidJobArgs e, db)
      | some _                                        => some (.busy, db)
    else
      some (.offerPayloadMismatch, db)

def handleGetJobRequest (plan : Plan JobJoin) (ourPeerId : PeerId) (db : Database)
    (fromPeerId : PeerId) (request : GetJobRequest) : GetJobResponse :=
  match db.findByJobId plan ourPeerId request.providerJobId with
  | none => .jobNotFound
  | some job =>
    if fromPeerId = job.consumerPeerId then
      .ok job.publicPayload job.balanceDelta job.createdAtSync job.completedAtSync
    else
      .jobNotFound

-- The response to an unsuccessful confirmation, together with the job row and the error text that
-- are stored before it is sent.
def ProviderConfirmJobError.response (request : ConfirmJobRequest) :
    ProviderConfirmJobError → ConfirmJobResponse × Option (Rowid × String)
  | .jobNotFound             => (.jobNotFound, none)
  | .consumerPeerIdMismatch  => (.jobNotFound, none)
  | .alreadyConfirmed        => (.alreadyConfirmed, none)
  | .alreadyFailed           => (.alreadyFailed, none)
  | .notCompletedYet         => (.notCompletedYet, none)
  | .publicKeyDecodingFailed => (.invalidPublicKey, none)
  | .hashMismatch jobRowid expectedHash => (
      .hashMismatch expectedHash,
      some (
        jobRowid,
        "Hash mismatch (got " ++ Hex.encode request.jobHash ++
          ", expected " ++ Hex.encode expectedHash ++ ")"
      )
    )
  | .signatureVerificationFailed jobRowid =>
    (.invalidSignature, some (jobRowid, "Signature verification failed"))

-- A panic sends no response (`none`).
def handleConfirmJobRequest (ext : External) (plan : Plan JobJoin) (now : DateTime)
    (ourPeerId : PeerId) (db : Database) (fromPeerId : PeerId) (request : ConfirmJobRequest) :
    Option ConfirmJobResponse × Database :=
  match providerConfirmJob ext plan now db fromPeerId ourPeerId request.providerJobId
    request.jobHash request.consumerPublicKey request.consumerSignature with
  | .ok db               => (some .ok, db)
  | .error .panic        => (none, db)
  | .error (.error e)    =>
    match e.response request with
    | (response, none) => (some response, db)
    | (response, some (jobRowid, confirmationError)) =>
      match setJobConfirmationError db jobRowid confirmationError with
      | (.ok, db)               => (some response, db)
      -- Job ID must be valid at this point.
      | (.invalidJobId, db)     => (none, db)
      | (.alreadyConfirmed, db) => (some response, db)

end Derouter
