import Derouter.Db.Queries
import Derouter.P2p.Consumer
import Derouter.Rpc.Provide

open Sql

namespace Derouter

-- The requests of a module with their contents, next to the choices of the queries and the time that
-- their handlers read.
inductive RpcRequest
  | failJob (plan : Plan JobJoin) (now : DateTime) (providerPeerId : PeerId)
      (providerJobId reason : String) (reasonClass : Option Int) (privatePayload : Option String)
  | consumerCompleteJob (plan : Plan JobJoin) (now : DateTime) (providerPeerId : PeerId)
      (providerJobId publicPayload : String) (privatePayload balanceDelta : Option String)
      (completedAtSync : Int)
  | consumerCreateJob (offerSnapshotId : Rowid) (currency : Currency) (jobArgs : Option String)
  | consumerGetJob (providerPeerId : PeerId) (providerJobId : String)
  | consumerOpenJobConnection (providerPeerId : PeerId) (providerJobId : String)
  | providerCompleteJob (plan : Plan JobJoin) (now : DateTime) (providerPeerId : PeerId)
      (providerJobId : String) (balanceDelta : Option String) (publicPayload : String)
      (privatePayload : Option String)
  | providerProvide (plan : Plan (Rowid × OfferSnapshotRow)) (now : DateTime)
      (request : ProviderProvideRequest)
  | queryJobs (plan : Plan JobJoin) (databaseRowIdCursor : Option Rowid)
      (protocolIds : Option (List String)) (providerPeerIds consumerPeerIds : Option (List PeerId))
      (limit : Int)
  | queryOfferSnapshots (snapshotIds : List Rowid)
  | queryActiveProviders
  | queryActiveOffers (protocolIds : Option (List String)) (providerPeerIds : Option (List PeerId))
  | queryProviders (plan : Plan (Rowid × PeerRow)) (providerPeerIds : List PeerId)
  | querySystem
  | cancelSubscription (subscriptionId : UInt32)
  | subscribeToActiveOffers (protocolIds providerPeerIds : Option (List String))
  | subscribeToActiveProviders
  | subscribeToJobs (protocolIds providerPeerIds consumerPeerIds : Option (List String))

-- Whether the handler of the request takes the provider mutex.
def RpcRequest.locks : RpcRequest → Bool
  | providerProvide .. => true
  | _                  => false

inductive FailJobResponse
  | ok
  | jobNotFound
  | alreadyCompleted
  | alreadyFailed (reason : String) (reasonClass : Option Int)
deriving DecidableEq

inductive ConsumerCompleteJobResponse
  | ok
  | invalidJobId
  | invalidConsumerPeerId
  | alreadyFailed (reason : String) (reasonClass : Option Int)
  | alreadyCompleted
  | invalidBalanceDelta
deriving DecidableEq

inductive ProviderCompleteJobResponse
  | ok (completedAtSync : Int)
  | jobNotFound
  | alreadyCompleted (completedAtSync : Int)
  | alreadyFailed (reason : String) (reasonClass : Option Int)
  | invalidBalanceDelta
deriving DecidableEq

inductive JobsQueryResponse
  | ok (jobs : List JobRecord)
  | invalidLimit
deriving DecidableEq

inductive ProvidersQueryResponse
  | ok (providers : List ProviderRecord)
  | length
deriving DecidableEq

-- The handlers give the response, unless they panic (`none`), and the database after them.

def handleFailJobRequest (plan : Plan JobJoin) (now : DateTime) (db : Database)
    (providerPeerId : PeerId) (providerJobId reason : String) (reasonClass : Option Int)
    (privatePayload : Option String) : Option FailJobResponse × Database :=
  match failJob plan now db providerPeerId providerJobId reason reasonClass privatePayload with
  | .ok db                            => (some .ok, db)
  | .error (.error .invalidJobId)     => (some .jobNotFound, db)
  | .error (.error .alreadyCompleted) => (some .alreadyCompleted, db)
  | .error (.error (.alreadyFailed reason reasonClass)) =>
    (some <| .alreadyFailed reason reasonClass, db)
  | .error .panic                     => (none, db)

def handleConsumerCompleteJobRequest (ext : External) (keypair : ext.Keypair) (plan : Plan JobJoin)
    (now : DateTime) (db : Database) (providerPeerId : PeerId) (providerJobId publicPayload : String)
    (privatePayload balanceDelta : Option String) (completedAtSync : Int) :
    Option ConsumerCompleteJobResponse × Database :=
  match consumerCompleteJob ext plan now db (ext.peerId keypair) providerPeerId providerJobId
    balanceDelta publicPayload privatePayload completedAtSync (ext.sign keypair) with
  | .ok (db, _)                             => (some .ok, db)
  | .error (.error .invalidJobId)           => (some .invalidJobId, db)
  | .error (.error .consumerPeerIdMismatch) => (some .invalidConsumerPeerId, db)
  | .error (.error (.alreadyFailed reason reasonClass)) =>
    (some <| .alreadyFailed reason reasonClass, db)
  | .error (.error .alreadyCompleted)       => (some .alreadyCompleted, db)
  | .error (.error .invalidBalanceDelta)    => (some .invalidBalanceDelta, db)
  | .error .panic                           => (none, db)

def handleProviderCompleteJobRequest (ext : External) (plan : Plan JobJoin) (now : DateTime)
    (db : Database) (providerPeerId : PeerId) (providerJobId : String)
    (balanceDelta : Option String) (publicPayload : String) (privatePayload : Option String) :
    Option ProviderCompleteJobResponse × Database :=
  match providerCompleteJob ext plan now db providerPeerId providerJobId balanceDelta privatePayload
    publicPayload with
  | .ok (db, jobRecord) =>
    match jobRecord.completedAtSync with
    | some completedAtSync => (some <| .ok completedAtSync, db)
    | none                 => (none, db)
  | .error (.error .jobNotFound)         => (some .jobNotFound, db)
  | .error (.error .invalidBalanceDelta) => (some .invalidBalanceDelta, db)
  | .error (.error (.alreadyFailed reason reasonClass)) =>
    (some <| .alreadyFailed reason reasonClass, db)
  | .error (.error (.alreadyCompleted completedAtSync)) =>
    (some <| .alreadyCompleted completedAtSync, db)
  | .error .panic                        => (none, db)

def handleJobsQueryRequest (plan : Plan JobJoin) (db : Database) (databaseRowIdCursor : Option Rowid)
    (protocolIds : Option (List String)) (providerPeerIds consumerPeerIds : Option (List PeerId))
    (limit : Int) : Option JobsQueryResponse :=
  if limit < 1 ∨ limit > 100 then
    some .invalidLimit
  else
    (queryJobs plan db databaseRowIdCursor protocolIds providerPeerIds consumerPeerIds limit).map .ok

def handleProvidersQueryRequest (plan : Plan (Rowid × PeerRow)) (db : Database)
    (providerPeerIds : List PeerId) : Option ProvidersQueryResponse :=
  if providerPeerIds.length > 100 then
    some .length
  else
    (queryProvidersByPeerId plan db providerPeerIds).map .ok

-- How the handler of a request goes on.
inductive HandlerEnd
  | returns (node : Node)
  -- It hands a request for another peer over to the node loop.
  | requests
  | panics (node : Node)

namespace HandlerEnd

def ofResponse (node : Node) : Option α → HandlerEnd
  | some _ => returns node
  | none   => panics node

end HandlerEnd

def Node.handleInboundRequest (ext : External) (keypair : ext.Keypair) (node : Node)
    (connection : Nat) : RpcRequest → HandlerEnd
  | .failJob plan now providerPeerId providerJobId reason reasonClass privatePayload =>
    let (response, db) := handleFailJobRequest plan now node.db providerPeerId providerJobId reason
      reasonClass privatePayload
    .ofResponse { node with db } response
  | .consumerCompleteJob plan now providerPeerId providerJobId publicPayload privatePayload
      balanceDelta completedAtSync =>
    let (response, db) := handleConsumerCompleteJobRequest ext keypair plan now node.db
      providerPeerId providerJobId publicPayload privatePayload balanceDelta completedAtSync
    .ofResponse { node with db } response
  | .consumerCreateJob offerSnapshotId currency jobArgs =>
    match consumerCreateJobRequest node.db offerSnapshotId currency jobArgs with
    | some _ => .requests
    | none   => .returns node
  | .consumerGetJob .. => .requests
  | .providerCompleteJob plan now providerPeerId providerJobId balanceDelta publicPayload
      privatePayload =>
    let (response, db) := handleProviderCompleteJobRequest ext plan now node.db providerPeerId
      providerJobId balanceDelta publicPayload privatePayload
    .ofResponse { node with db } response
  | .providerProvide plan now request =>
    let (response, node) := handleProviderProvideRequest plan now (ext.peerId keypair) node
      connection request
    .ofResponse node response
  | .queryJobs plan cursor protocolIds providerPeerIds consumerPeerIds limit =>
    .ofResponse node <| handleJobsQueryRequest plan node.db cursor protocolIds providerPeerIds
      consumerPeerIds limit
  | .queryProviders plan providerPeerIds =>
    .ofResponse node <| handleProvidersQueryRequest plan node.db providerPeerIds
  -- The others spawn a task, or read what is there, or touch nothing but their connection.
  | .consumerOpenJobConnection .. => .returns node
  | .queryOfferSnapshots _        => .returns node
  | .queryActiveProviders         => .returns node
  | .queryActiveOffers ..         => .returns node
  | .querySystem                  => .returns node
  | .cancelSubscription _         => .returns node
  | .subscribeToActiveOffers ..   => .returns node
  | .subscribeToActiveProviders   => .returns node
  | .subscribeToJobs ..           => .returns node

end Derouter
