import Derouter.Lib.Delta
import Derouter.Lib.Transition
import Derouter.P2p.Consumer
import Derouter.P2p.Heartbeat
import Derouter.ProviderNode

open Sql Transition

namespace Derouter

-- What a subscriber's copy of the jobs takes from an event.
def RpcEvent.jobEntry? : RpcEvent → Option (Rowid × Option JobRecord)
  | jobUpdated job => some (job.jobRowid, some job)
  | _              => none

-- The events of `confirm_job`, which it sends while it holds the database.
def confirmJobEvents (now : DateTime) (db : Database) (job : UnconfirmedJob) :
    Option ConfirmJobResponse → List RpcEvent
  | some .ok =>
    match consumerConfirmJob now db job.rowid with
    | .ok (_, jobRecord) => [.jobUpdated jobRecord]
    | .error _           => []
  | _ => []

-- The handlers of a node that write jobs or offer snapshots.
inductive Handler
  -- What it does as a Provider.
  | provider (action : Node.Action)
  | heartbeat (plan : Plan (Rowid × OfferSnapshotRow)) (visits : List Rowid) (now : DateTime)
      (source : PeerId) (heartbeat : Heartbeat)
  | consumerCreateJob (now : DateTime) (offerSnapshotId : Rowid) (request : CreateJobRequest)
      (response : CreateJobResponse)
  | consumerCompleteJob (plan : Plan JobJoin) (now : DateTime) (providerPeerId : PeerId)
      (providerJobId : String) (balanceDelta : Option String) (publicPayload : String)
      (privatePayload : Option String) (completedAtSync : Int)
  | confirmJob (now : DateTime) (job : UnconfirmedJob) (response : Option ConfirmJobResponse)

-- The node after a handler, and the events that it has sent. A panic sends none.
def Node.handle (ext : External) (keypair : ext.Keypair) (node : Node) :
    Handler → Node × List RpcEvent
  | .provider action => (node.perform ext (ext.peerId keypair) action, [])
  | .heartbeat plan visits now source heartbeat =>
    match handleHeartbeat plan visits now node.db source heartbeat with
    | some (.ok (events, db)) => ({ node with db }, events)
    | _                       => (node, [])
  | .consumerCreateJob now offerSnapshotId request response =>
    match consumerCreateJob now node.db (ext.peerId keypair) offerSnapshotId request response with
    | some (_, db) => ({ node with db }, [])
    | none         => (node, [])
  | .consumerCompleteJob plan now provider jobId delta pub priv completedAt =>
    match consumerCompleteJob ext plan now node.db (ext.peerId keypair) provider jobId delta pub priv
      completedAt (ext.sign keypair) with
    | .ok (db, jobRecord) => ({ node with db }, [.jobUpdated jobRecord])
    | .error _            => (node, [])
  | .confirmJob now job response =>
    match confirmJob now node.db job response with
    | some db => ({ node with db }, confirmJobEvents now node.db job response)
    | none    => (node, [])

-- A node, and a module with a subscription to all jobs: the events that are on their way to it, and
-- its own copy of the jobs.
structure JobsView where
  node    : Node
  pending : List RpcEvent := []
  copy    : Rowid → Option JobRecord

namespace JobsView

-- The module starts from the current records.
def start (node : Node) : JobsView where
  node := node
  copy := node.db.findByRowid

inductive Label
  | handle (handler : Handler)
  -- The module gets the next event.
  | receive

def next (ext : External) (keypair : ext.Keypair) (s : JobsView) : Label → JobsView
  | .handle handler =>
    let (node, events) := s.node.handle ext keypair handler
    { s with node, pending := s.pending ++ events }
  | .receive =>
    match s.pending with
    | [] => s
    | event :: pending => { s with
        pending
        copy := Delta.fold s.copy (event.jobEntry?).toList
      }

-- A heartbeat's cursor gets to all active snapshots of its source.
def Enabled (s : JobsView) : Label → Prop
  | .handle (.heartbeat _ visits _ source _) => s.node.db.Covers source visits
  | _                                        => True

def step (ext : External) (keypair : ext.Keypair) (s : JobsView) (l : Label) (s' : JobsView) :
    Prop :=
  s.Enabled l ∧ s' = s.next ext keypair l

-- When no event is on its way, the module's copy of every job is the stored record.
def Current (s : JobsView) : Prop :=
  s.pending = [] → ∀ i, s.copy i = s.node.db.findByRowid i

end JobsView
end Derouter
