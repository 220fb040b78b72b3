import Derouter.Db.ServiceJobs.JobOp
import Derouter.Lib.Transition
import Derouter.P2p.Reqres
import Derouter.Rpc.Provide

open Sql Transition

namespace Derouter
namespace Node

-- What can happen at a node that serves as a Provider: its modules provide offers, leave, and end
-- their jobs, other peers send requests, and the node restarts on the same database.
inductive Action
  | provide (plan : Plan (Rowid × OfferSnapshotRow)) (now : DateTime) (connection : Nat)
      (request : ProviderProvideRequest)
  | close (now : DateTime) (connection : Nat)
  | restart (now : DateTime)
  | createJob (now later : DateTime) (uuid : String) (reply : Option InboundResponseFrameData)
      (fromPeerId : PeerId) (request : CreateJobRequest)
  | providerCompleteJob (plan : Plan JobJoin) (now : DateTime) (providerPeerId : PeerId)
      (providerJobId : String) (balanceDelta privatePayload : Option String)
      (publicPayload : String)
  | failJob (plan : Plan JobJoin) (now : DateTime) (providerPeerId : PeerId)
      (providerJobId reason : String) (reasonClass : Option Int) (privatePayload : Option String)
  | confirmJob (plan : Plan JobJoin) (now : DateTime) (fromPeerId : PeerId)
      (request : ConfirmJobRequest)

-- The actions that do not touch the jobs.
def Action.changesOffers : Action → Bool
  | provide ..  => true
  | close ..    => true
  | restart ..  => true
  | _           => false

def perform (ext : External) (ourPeerId : PeerId) (node : Node) : Action → Node
  | .provide plan now c request =>
    (handleProviderProvideRequest plan now ourPeerId node c request).2
  | .close now c   => closeConnection now node c
  | .restart now   => start node.db now
  | .createJob now later uuid reply fromPeerId request =>
    match handleCreateJobRequest now later uuid reply node.db node.provider fromPeerId request with
    | some (_, db) => { node with db }
    | none         => node
  | .providerCompleteJob plan now provider jobId delta priv pub =>
    let op := JobOp.providerComplete plan now provider jobId delta priv pub
    { node with db := (op.exec ext node.db).1 }
  | .failJob plan now provider jobId reason reasonClass priv =>
    let op := JobOp.fail plan now provider jobId reason reasonClass priv
    { node with db := (op.exec ext node.db).1 }
  | .confirmJob plan now fromPeerId request =>
    let (_, db) := handleConfirmJobRequest ext plan now ourPeerId node.db fromPeerId request
    { node with db }

def step (ext : External) (ourPeerId : PeerId) : Node → Action → Node → Prop :=
  ofFn fun node action => some (node.perform ext ourPeerId action)

end Node
end Derouter
