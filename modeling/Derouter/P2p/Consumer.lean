import Derouter.Db.Offers
import Derouter.P2p.Reqres

open Sql

namespace Derouter

-- Rendering of an error response, which is stored with the job. A hash mismatch shows nothing but
-- the hash.
def ConfirmJobResponse.debug : ConfirmJobResponse → String
  | ok                => "Ok"
  | jobNotFound       => "JobNotFound"
  | notCompletedYet   => "NotCompletedYet"
  | alreadyFailed     => "AlreadyFailed"
  | hashMismatch hash => Hex.encode hash
  | invalidPublicKey  => "InvalidPublicKey"
  | invalidSignature  => "InvalidSignature"
  | alreadyConfirmed  => "AlreadyConfirmed"
  | unexpectedResponse => "UnexpectedResponse"

-- The request to confirm a job.
def UnconfirmedJob.request (ext : External) (publicKey : ext.PublicKey) (job : UnconfirmedJob) :
    ConfirmJobRequest where
  providerJobId     := job.providerJobId
  jobHash           := job.hash
  consumerPublicKey := ext.encodeProtobuf publicKey
  consumerSignature := job.consumerSignature

-- The second half of `confirm_job`, once the response (`none`, if it is of another kind) is there.
-- There is no result where the source panics.
def confirmJob (now : DateTime) (db : Database) (job : UnconfirmedJob) :
    Option ConfirmJobResponse → Option Database
  | some .ok =>
    match consumerConfirmJob now db job.rowid with
    | .ok (db, _)                       => some db
    -- The job was confirmed before the request completed.
    | .error (.error .alreadyConfirmed) => some db
    | .error _                          => none
  -- The job is already confirmed on the Provider side.
  | some .alreadyConfirmed => some db
  | response =>
    let error := response.getD .unexpectedResponse
    match setJobConfirmationError db job.rowid error.debug with
    | (.ok, db)               => some db
    | (.alreadyConfirmed, db) => some db
    | (.invalidJobId, _)      => none

-- The first half of `handle_consumer_create_job_request`: the request to the Provider, unless the
-- offer is not found locally or inactive.
def consumerCreateJobRequest (db : Database) (offerSnapshotId : Rowid) (currency : Currency)
    (jobArgs : Option String) : Option CreateJobRequest :=
  match find db offerSnapshotId with
  | none          => none
  | some snapshot =>
    if !snapshot.active then
      none
    else
      some {
        protocolId   := snapshot.protocolId
        offerId      := snapshot.offerId
        offerPayload := snapshot.protocolPayload
        currency
        jobArgs
      }

-- Its second half, once the response is there. Only a created job is stored.
def consumerCreateJob (now : DateTime) (db : Database) (consumerPeerId : PeerId)
    (offerSnapshotId : Rowid) (request : CreateJobRequest) :
    CreateJobResponse → Option (Rowid × Database)
  | .ok providerJobId createdAtSync =>
    createJob now db offerSnapshotId consumerPeerId request.currency request.jobArgs providerJobId
      createdAtSync
  | _ => none

end Derouter
