import Derouter.Dto

namespace Derouter

-- The requests of a module that have no effect on its connection, other than their response.
inductive Procedure
  | failJob
  | consumerCompleteJob
  | consumerCreateJob
  | consumerGetJob
  | consumerOpenJobConnection
  | providerCompleteJob
  | providerProvide
  | queryJobs
  | queryOfferSnapshots
  | queryActiveProviders
  | queryActiveOffers
  | queryProviders
  | querySystem
deriving DecidableEq

-- The procedures whose handler may leave the response to a task that it spawns.
def Procedure.maySpawn : Procedure → Bool
  | consumerCreateJob         => true
  | consumerOpenJobConnection => true
  | _                         => false

inductive InboundRequestFrameData
  | call (procedure : Procedure)
  | cancelSubscription (subscriptionId : UInt32)
  | subscribeToJobs (protocolIds providerPeerIds consumerPeerIds : Option (List String))
  | subscribeToActiveOffers (protocolIds providerPeerIds : Option (List String))
  | subscribeToActiveProviders

structure InboundRequestFrame where
  -- Incremented on their side.
  id   : UInt32
  data : InboundRequestFrameData

inductive ProviderCreateJobResponse
  -- Provider module accepted the job.
  | ok
  -- Provided `jobArgs` are invalid per protocol.
  | invalidJobArgs (error : String)
  -- Temporarily busy.
  | busy
deriving DecidableEq

inductive ProviderPrepareJobConnectionResponse
  -- Includes the module-defined connection nonce.
  | ok (nonce : String)
  | jobNotFound
  | busy
deriving DecidableEq

-- What a module may answer to a request that it gets.
inductive InboundResponseFrameData
  | ack
  | providerCreateJob (response : ProviderCreateJobResponse)
  | providerPrepareJobConnection (response : ProviderPrepareJobConnectionResponse)
deriving DecidableEq

structure InboundResponseFrame where
  -- The `id` of the outbound request that this response is for.
  id   : UInt32
  data : InboundResponseFrameData

inductive InboundFrame
  | request (frame : InboundRequestFrame)
  | response (frame : InboundResponseFrame)

inductive OutboundRequestFrameData
  | eventOfferRemoved (subscriptionId : UInt32) (payload : OfferRemoved)
  | eventOfferUpdated (subscriptionId : UInt32) (payload : OfferSnapshot)
  | eventProviderHeartbeat (subscriptionId : UInt32) (payload : ProviderHeartbeat)
  | eventProviderUpdated (subscriptionId : UInt32) (payload : ProviderRecord)
  | eventJobUpdated (subscriptionId : UInt32) (payload : JobRecord)
  -- Sent to a Provider module when Consumer asks for a new job.
  | providerCreateJob (providerPeerId : PeerId) (protocolId offerId providerJobId : String)
      (createdAtSync : Int) (jobArgs : Option String)
  -- Sent to a Provider module when Consumer wants to open a job connection.
  | providerPrepareJobConnection (providerPeerId : PeerId) (providerJobId : String)
  -- Sent after the preparation of the job connection is verified.
  | providerOpenJobConnection (connectionId : UInt64) (nonce : String)
deriving DecidableEq

inductive CancelSubscriptionResponse
  | ok
  | invalidSubscriptionId
deriving DecidableEq

inductive SubscriptionResponse
  | ok (subscriptionId : UInt32)
  | invalidPeerId (peerId : String)
deriving DecidableEq

inductive OutboundResponseFrameData
  | call (procedure : Procedure)
  | cancelSubscription (response : CancelSubscriptionResponse)
  | subscribeToJobs (response : SubscriptionResponse)
  | subscribeToActiveOffers (response : SubscriptionResponse)
  | subscribeToActiveProviders (response : SubscriptionResponse)
deriving DecidableEq

inductive OutboundFrame
  -- The `id` is an ever-incrementing (per RPC connection) request counter.
  | request (id : UInt32) (data : OutboundRequestFrameData)
  -- The `id` is the one of the inbound request.
  | response (id : UInt32) (data : OutboundResponseFrameData)
deriving DecidableEq

-- A request for the module, next to the channel on which its response is awaited. There is no such
-- channel (`none`) if nobody awaits the response.
structure OutboundRequestEnvelope where
  frameData  : OutboundRequestFrameData
  responseTx : Option Nat

-- Whoever decodes what the client has written: `serde_cbor` and the parser of peer IDs.
structure Decoder where
  inboundFrame : List UInt8 → Option InboundFrame
  peerId       : String → Option PeerId

end Derouter
