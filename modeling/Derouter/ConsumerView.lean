import Derouter.PeerView
import Derouter.Server.Tracked

open Noninterference Sql

namespace Derouter

-- A job without the numbers that the database gives to rows.
structure JobContent where
  job      : JobRow
  snapshot : OfferSnapshotRow

def JobJoin.content (j : JobJoin) : JobContent where
  job      := { j.job with offerSnapshotRowid := 0 }
  snapshot := j.snapshot

-- The job of a Consumer with the Provider.
structure JobContent.Of (consumer provider : PeerId) (t : JobContent) : Prop where
  consumerPeerId : t.job.consumerPeerId = consumer
  providerPeerId : t.snapshot.providerPeerId = provider

namespace Database

def Shows (db : Database) (t : JobContent) : Prop :=
  ∃ j ∈ db.joined, j.content = t

-- Looks for a job by its ID, and updates it if its content tells so.
def amend (plan : Plan JobJoin) (db : Database) (providerPeerId : PeerId) (providerJobId : String)
    (decide : JobContent → Option JobUpdate) : Database :=
  match db.jobById plan providerPeerId providerJobId with
  | none   => db
  | some j =>
    match decide j.content with
    | none   => db
    | some u => db.updateJob j.rowid u

end Database

-- An update neither reads the numbers of a row nor makes it another job.
structure JobUpdate.Portable (u : JobUpdate) : Prop where
  number         : ∀ r, { u.set r with offerSnapshotRowid := 0 } =
    u.set { r with offerSnapshotRowid := 0 }
  consumerPeerId : ∀ r, (u.set r).consumerPeerId = r.consumerPeerId
  providerJobId  : ∀ r, (u.set r).providerJobId = r.providerJobId

-- What an offer of a module stands for: its payload, and the snapshot that it names.
def ProvidedOffer.resolve (db : Database) (provided : ProvidedOffer) :
    String × Option OfferSnapshotRow :=
  (provided.protocolPayload, db.offerSnapshots.get? provided.snapshotRowid)

namespace PeerView.Label

-- The node makes new job IDs, and is no Consumer of its own offers.
def Apart (self : PeerId) (node : Node) : Label → Prop
  | handle (.provider (.createJob _ _ uuid ..))         => ¬node.db.HasJob self uuid
  | handle (.heartbeat _ _ _ source _)                  => source ≠ self
  | handle (.consumerCreateJob _ offerSnapshotId _ _)   => ∀ s,
    node.db.offerSnapshots.get? offerSnapshotId = some s → s.providerPeerId ≠ self
  | handle (.consumerCompleteJob _ _ providerPeerId ..) => providerPeerId ≠ self
  | handle (.confirmJob _ job _)                        => ∀ j ∈ node.db.joined,
    j.rowid = job.rowid → j.snapshot.providerPeerId ≠ self
  | _                                                   => True

-- The node loop ends with a handler of its own that panics, or with a heartbeat that cannot be
-- published. The streams of job connections have tasks of their own, and no heartbeat of another peer
-- makes a handler panic.
def ends : Label → Sent → Bool
  | jobRequest _ _ (.jobConnection ..), _ => false
  | _, .createJobResponse none            => true
  | _, .jobResponse none                  => true
  | _, .heartbeat none                    => true
  | _, .heartbeat (some (.error _))       => true
  | _, _                                  => false

end PeerView.Label

-- The process of a node. It ends with the node loop, and does nothing until it is started again with
-- the same database.
structure NodeProcess where
  node  : Node
  ended : Bool := false

namespace NodeProcess

def next (ext : External) (keypair : ext.Keypair) (s : NodeProcess) (l : PeerView.Label) :
    NodeProcess × PeerView.Sent :=
  if s.ended then
    match l with
    | .handle (.provider (.restart now)) => ({ node := .start s.node.db now }, .nothing)
    | _                                  => (s, .nothing)
  else
    let (node, sent) := PeerView.next ext keypair s.node l
    ({ node, ended := l.ends sent }, sent)

end NodeProcess

namespace ConsumerView

-- What a node keeps of its offers and its jobs.
structure Sound (ourPeerId : PeerId) (node : Node) : Prop where
  registered : node.Registered
  own        : node.db.OwnActive ourPeerId
  distinct   : node.db.DistinctJobIds ourPeerId
  backed     : node.Backed ourPeerId

-- Two nodes that a Consumer cannot tell apart, where the first one may have more jobs of others. The
-- rows of the two may have other numbers.
structure Alike (ourPeerId consumer : PeerId) (node node' : Node) : Prop where
  sound       : Sound ourPeerId node
  sound'      : Sound ourPeerId node'
  connections : ∀ c, node.connections.lookup c = node'.connections.lookup c
  counter     : node.provider.moduleIdsCounter = node'.provider.moduleIdsCounter
  map         : ∀ p o, node.provider.offersModuleMap.get? p o =
    node'.provider.offersModuleMap.get? p o
  modules     : ∀ m, (node.provider.modules.lookup m).isSome ↔
    (node'.provider.modules.lookup m).isSome
  held        : ∀ m p o, (node.provider.held m p o).map (ProvidedOffer.resolve node.db) =
    (node'.provider.held m p o).map (ProvidedOffer.resolve node'.db)
  snapshots   : ∀ s, s.providerPeerId = ourPeerId → ((∃ i, node.db.offerSnapshots.get? i = some s) ↔
    ∃ i, node'.db.offerSnapshots.get? i = some s)
  jobs        : ∀ t, t.Of consumer ourPeerId → (node.db.Shows t ↔ node'.db.Shows t)
  ids         : ∀ jobId, node'.db.HasJob ourPeerId jobId → node.db.HasJob ourPeerId jobId

end ConsumerView
end Derouter
