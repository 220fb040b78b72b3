import Derouter.P2p.Consumer
import Derouter.ProviderNode

open Sql Transition

namespace Derouter

-- The synchronized terms that a job is completed with.
structure Terms where
  balanceDelta    : Option String
  publicPayload   : String
  completedAtSync : Int
deriving DecidableEq

namespace JobOp

def consumerTerms : JobOp → Option Terms
  | consumerComplete _ _ _ _ _ delta pub _ completedAtSync _ => some ⟨delta, pub, completedAtSync⟩
  | _ => none

def providerTerms : JobOp → Option Terms
  | providerComplete _ now _ _ delta _ pub => some ⟨delta, pub, now.timestamp⟩
  | _ => none

end JobOp

-- The creation of a job by the Consumer at the Provider.
inductive Creation
  | requested (offerSnapshotId : Rowid) (request : CreateJobRequest)
  | answered (offerSnapshotId : Rowid) (request : CreateJobRequest) (response : CreateJobResponse)
      (providerRow : Rowid)
  | created (consumerRow providerRow : Rowid)
  | aborted

-- A spawned `confirm_job`, which processes at most one response.
inductive Attempt
  | waiting (job : UnconfirmedJob)
  | finished (job : UnconfirmedJob) (response : ConfirmJobResponse)
  | failed (job : UnconfirmedJob)
  | panicked (job : UnconfirmedJob)
deriving DecidableEq

def Attempt.job : Attempt → UnconfirmedJob
  | waiting job    => job
  | finished job _ => job
  | failed job     => job
  | panicked job   => job

-- A Consumer node and a Provider node. A request for confirmation may arrive any number of times,
-- and all responses that it ever got stay in the network, under the index of their attempt.
structure Parties where
  consumer      : Database
  provider      : Node
  creations     : List Creation                   := []
  attempts      : List Attempt                    := []
  responses     : List (Nat × ConfirmJobResponse) := []
  -- The rows that either side has completed, and with which terms.
  consumerTerms : List (Rowid × Terms)            := []
  providerTerms : List (Rowid × Terms)            := []

namespace Parties

inductive Label
  -- Operations on the jobs of either node, for any peers and modules.
  | consumerOp (op : JobOp)
  | providerOp (op : JobOp)
  -- The modules of the Provider come and go.
  | providerOffers (action : Node.Action)
  | requestCreation (offerSnapshotId : Rowid) (currency : Currency) (jobArgs : Option String)
  | answerCreation (k : Nat) (now later : DateTime) (uuid : String) (reply : Option InboundResponseFrameData)
  | finishCreation (k : Nat) (now : DateTime)
  -- A turn of the confirmation loop, if the Provider is among the known peers.
  | confirmationLoop (plan : Plan JobJoin)
  | handleConfirmation (k : Nat) (plan : Plan JobJoin) (now : DateTime)
  | finishConfirmation (k : Nat) (now : DateTime) (response : ConfirmJobResponse)
  | outboundFailure (k : Nat)

variable (ext : External) (keypair : ext.Keypair) (provider : PeerId)

def record (terms : Option Terms) (i : Option Rowid) (l : List (Rowid × Terms)) :
    List (Rowid × Terms) :=
  match terms, i with
  | some terms, some i => (i, terms) :: l
  | _, _               => l

-- The state after a step, or `none` where the label is not enabled.
def next (s : Parties) : Label → Option Parties
  | .consumerOp op =>
    if op.Local (ext.peerId keypair) then
      let (db, i) := op.exec ext s.consumer
      some { s with consumer := db, consumerTerms := record op.consumerTerms i s.consumerTerms }
    else
      none
  | .providerOp op =>
    if op.Local provider then
      let (db, i) := op.exec ext s.provider.db
      some { s with
        provider      := { s.provider with db }
        providerTerms := record op.providerTerms i s.providerTerms
      }
    else
      none
  | .providerOffers action =>
    if action.changesOffers then
      some { s with provider := s.provider.perform ext provider action }
    else
      none
  | .requestCreation i currency jobArgs =>
    match find s.consumer i, consumerCreateJobRequest s.consumer i currency jobArgs with
    | some snapshot, some request =>
      if snapshot.providerPeerId = provider then
        some { s with creations := s.creations ++ [.requested i request] }
      else
        none
    | _, _ => none
  | .answerCreation k now later uuid reply =>
    match s.creations[k]? with
    | some (.requested i request) =>
      -- No peer can dial itself.
      if ext.peerId keypair = provider then
        none
      else
        match handleCreateJobRequest now later uuid reply s.provider.db s.provider.provider
          (ext.peerId keypair) request with
        | some (response, db) => some { s with
            provider  := { s.provider with db }
            creations := s.creations.set k
              (.answered i request response s.provider.db.serviceJobs.nextRowid)
          }
        | none => some { s with creations := s.creations.set k .aborted }
    | _ => none
  | .finishCreation k now =>
    match s.creations[k]? with
    | some (.answered i request response providerRow) =>
      match consumerCreateJob now s.consumer (ext.peerId keypair) i request response with
      | some (consumerRow, db) => some { s with
          consumer  := db
          creations := s.creations.set k (.created consumerRow providerRow)
        }
      | none => some { s with creations := s.creations.set k .aborted }
    | _ => none
  | .confirmationLoop plan =>
    match queryUnconfirmedJobs plan s.consumer (ext.peerId keypair) with
    | none      => none
    | some jobs =>
      let jobs := jobs.filter fun job => decide (job.providerPeerId = provider)
      some { s with attempts := s.attempts ++ jobs.map .waiting }
  | .handleConfirmation k plan now =>
    match s.attempts[k]? with
    | some attempt =>
      let request := attempt.job.request ext (ext.publicKey keypair)
      match handleConfirmJobRequest ext plan now provider s.provider.db (ext.peerId keypair)
        request with
      | (some response, db) => some { s with
          provider  := { s.provider with db }
          responses := (k, response) :: s.responses
        }
      | (none, db) => some { s with provider := { s.provider with db } }
    | none => none
  | .finishConfirmation k now response =>
    match s.attempts[k]? with
    | some (.waiting job) =>
      if (k, response) ∈ s.responses then
        match confirmJob now s.consumer job (some response) with
        | some db => some { s with
            consumer := db
            attempts := s.attempts.set k (.finished job response)
          }
        | none => some { s with attempts := s.attempts.set k (.panicked job) }
      else
        none
    | _ => none
  | .outboundFailure k =>
    match s.attempts[k]? with
    | some (.waiting job) => some { s with attempts := s.attempts.set k (.failed job) }
    | _                   => none

def step : Parties → Label → Parties → Prop :=
  ofFn (next ext keypair provider)

-- The Consumer 1, which knows of an offer, and the Provider 0.
def sample : Parties where
  consumer := .ofOffer ⟨[0]⟩ "offer" "protocol" "payload"
  provider := .start ∅ 0

-- A schedule in which the sample parties create a job, complete it with the same terms, and start to
-- confirm it.
def sampleCompletion (balanceDelta : Option String) : List Label := [
  .providerOffers (.provide .scan 0 0 ⟨"protocol", "offer", "payload"⟩),
  .requestCreation 1 .polygon none,
  .answerCreation 0 0 0 "job" (some <| .providerCreateJob .ok),
  .finishCreation 0 0,
  .providerOp (.providerComplete .scan 0 ⟨[0]⟩ "job" balanceDelta none "done"),
  .consumerOp (.consumerComplete .scan 0 ⟨[1]⟩ ⟨[0]⟩ "job" balanceDelta "done" none 0
    (External.sample.sign ⟨[1]⟩)),
  .confirmationLoop .scan,
  .handleConfirmation 0 .scan 0
]

end Parties
end Derouter
