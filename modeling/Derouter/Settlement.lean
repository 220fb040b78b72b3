import Derouter.NodeDatabase
import Derouter.Parties.Agreement

open Sql Transition

namespace Derouter

-- The two nodes, and what the Provider has answered to the Consumer about its jobs. An answer may reach
-- a module of the Consumer at any later time.
structure Settlement where
  parties : Parties
  told    : List (String × GetJobResponse) := []
  -- The node loop of the Provider has ended or is stuck, so that it answers nothing until a restart.
  stopped : Bool                           := false

-- The node loop of the Provider answers a request of the Consumer.
def Parties.Label.isAnswer : Parties.Label → Bool
  | answerCreation ..     => true
  | handleConfirmation .. => true
  | _                     => false

def Parties.Label.isRestart : Parties.Label → Bool
  | providerOffers (.restart _) => true
  | _                           => false

namespace Settlement

inductive Label
  | party (l : Parties.Label)
  | getJob (plan : Plan JobJoin) (providerJobId : String)
  -- The node loop of the Provider panics on the message of another peer, gets stuck, or exits.
  | stop

variable (ext : External) (keypair : ext.Keypair) (provider : PeerId) (s : Settlement)

-- The node loop of the Provider panics on a request of the Consumer.
def panics : Parties.Label → Bool
  | .answerCreation k now later uuid reply =>
    match s.parties.creations[k]? with
    | some (.requested _ request) => (handleCreateJobRequest now later uuid reply
        s.parties.provider.db s.parties.provider.provider (ext.peerId keypair) request).isNone
    | _ => false
  | .handleConfirmation k plan now =>
    match s.parties.attempts[k]? with
    | some attempt => (handleConfirmJobRequest ext plan now provider s.parties.provider.db
        (ext.peerId keypair) (attempt.job.request ext (ext.publicKey keypair))).1.isNone
    | none => false
  | _ => false

def next : Label → Option Settlement
  | .party l =>
    if s.stopped && l.isAnswer then
      none
    else
      (s.parties.next ext keypair provider l).map fun parties => { s with
        parties
        stopped := !l.isRestart && (s.stopped || s.panics ext keypair provider l)
      }
  | .getJob plan jobId =>
    if s.stopped then
      none
    else
      let response := handleGetJobRequest plan provider s.parties.provider.db (ext.peerId keypair)
        ⟨jobId⟩
      some { s with told := (jobId, response) :: s.told }
  | .stop => some { s with stopped := true }

def step : Settlement → Label → Settlement → Prop :=
  ofFn (next ext keypair provider)

-- The Consumer stores a job of the Provider when the Provider has created it, which is a step of its
-- own, and its modules complete the job with the terms that the Provider has told.
def Follows (s : Settlement) : JobOp → Prop
  | .create _ i .. => ∀ snapshot, s.parties.consumer.offerSnapshots.get? i = some snapshot →
    snapshot.providerPeerId ≠ provider
  | .consumerComplete _ _ _ p jobId delta pub _ t _ => p = provider →
    ∃ createdAtSync, (jobId, .ok pub delta createdAtSync t) ∈ s.told
  | _ => True

-- The Provider makes new job IDs, and no offer takes the place of one that is still active.
def Label.Faithful (s : Settlement) : Label → Prop
  | .party l => l.FreshJobId provider s.parties ∧
    match l with
    | .providerOffers action => ¬action.Supersedes provider s.parties.provider
    | .consumerOp op         => op.SignsWith ext keypair ∧ s.Follows provider op
    | _                      => True
  | _ => True

end Settlement

-- The Provider has a row of the Consumer's job under this ID, of which `P` holds.
def Database.Serves (consumer provider : PeerId) (db : Database) (jobId : String)
    (P : JobJoin → Prop) : Prop :=
  ∃ j ∈ db.jobsById provider jobId, j.job.consumerPeerId = consumer ∧ P j

-- The Provider has confirmed the job, as the response tells, unless it has failed it.
def Database.Answers (consumer provider : PeerId) (db : Database) (jobId : String)
    (response : ConfirmJobResponse) : Prop :=
  ((response = .ok ∨ response = .alreadyConfirmed) ∧
    db.Serves consumer provider jobId (·.job.signatureConfirmedAtLocal.isSome)) ∨
  (response = .alreadyFailed ∧ db.Serves consumer provider jobId (·.job.reason.isSome))

def Settlement.Settles (consumer provider : PeerId) (s : Settlement) : Prop :=
  ∀ k response, (k, response) ∈ s.parties.responses → ∃ a, s.parties.attempts[k]? = some a ∧
    s.parties.provider.db.Answers consumer provider a.job.providerJobId response

end Derouter
