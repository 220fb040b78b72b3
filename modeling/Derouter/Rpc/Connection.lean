import Derouter.Lib.Transition
import Derouter.Rpc.Procedure
import Derouter.State
import Derouter.Util.Cbor

open Framing Transition

namespace Derouter

inductive Subscription
  -- Each list would filter jobs by the according ID, if set.
  | jobs (protocolIds : Option (List String)) (providerPeerIds consumerPeerIds : Option (List PeerId))
  | activeOffers (protocolIds : Option (List String)) (providerPeerIds : Option (List PeerId))
  | activeProviders
deriving DecidableEq

namespace Subscription

def checkAgainstOffer (protocolIds : Option (List String)) (providerPeerIds : Option (List PeerId))
    (offerProtocolId : String) (offerProviderPeerId : PeerId) : Bool :=
  match protocolIds with
  | some protocolIds => protocolIds.contains offerProtocolId
  | none =>
    match providerPeerIds with
    | some providerPeerIds => decide (offerProviderPeerId ∈ providerPeerIds)
    | none                 => true

def checkAgainstJob (protocolIds : Option (List String))
    (providerPeerIds consumerPeerIds : Option (List PeerId)) (job : JobRecord) : Bool :=
  match protocolIds with
  | some protocolIds => protocolIds.contains job.offerProtocolId
  | none =>
    match providerPeerIds with
    | some providerPeerIds => decide (job.providerPeerId ∈ providerPeerIds)
    | none =>
      match consumerPeerIds with
      | some consumerPeerIds => decide (job.consumerPeerId ∈ consumerPeerIds)
      | none                 => true

-- The frame that notifies the subscription with this ID, if the event is for it.
def eventFrame (id : UInt32) : Subscription → RpcEvent → Option OutboundRequestFrameData
  | activeOffers protocolIds providerPeerIds, .offerRemoved data =>
    if checkAgainstOffer protocolIds providerPeerIds data.protocolId data.providerPeerId then
      some <| .eventOfferRemoved id data
    else
      none
  | activeOffers protocolIds providerPeerIds, .offerUpdated data =>
    if checkAgainstOffer protocolIds providerPeerIds data.protocolId data.providerPeerId then
      some <| .eventOfferUpdated id data
    else
      none
  | activeProviders, .providerHeartbeat data => some <| .eventProviderHeartbeat id data
  | activeProviders, .providerUpdated data   => some <| .eventProviderUpdated id data
  | jobs protocolIds providerPeerIds consumerPeerIds, .jobUpdated data =>
    if checkAgainstJob protocolIds providerPeerIds consumerPeerIds data then
      some <| .eventJobUpdated id data
    else
      none
  | _, _ => none

end Subscription

-- Where a connection loop is.
inductive ConnectionPc
  -- It polls the branches of its `select!`.
  | select
  -- It handles a request. The response is left to a task if the handler `spawns` one.
  | handling (request : InboundRequestFrame) (spawns : Bool)
  -- It awaits `outbound_tx.send(..)`, with the response of a handler.
  | answering (frame : OutboundFrame)
  -- It awaits `outbound_tx.send(..)`, with a request from the other queue.
  | forwarding (frame : OutboundFrame)
  -- It awaits `outbound_request_tx.send(..)`, as long as there are frames left.
  | notifying (frames : List OutboundRequestFrameData)
  -- It writes a frame to the stream.
  | writing (frame : OutboundFrame)
  -- It has left the loop.
  | closing

-- A module's connection. Its first stream is the RPC stream.
structure Connection where
  rpcStream               : CborStream                            := {}
  outbound                : List OutboundFrame                    := []
  outboundRequests        : List OutboundRequestEnvelope          := []
  outboundRequestsCounter : UInt32                                := 0
  inboundResponseTxs      : HashMap UInt32 (Option Nat)           := ∅
  subscriptionsCounter    : UInt32                                := 0
  subscriptions           : HashMap UInt32 Subscription           := ∅
  -- What `event_rx` returns next: the events, and how many of them were missed.
  events                  : List (Except Nat RpcEvent)            := []
  cancelled               : Bool                                  := false
  pc                      : ConnectionPc                          := .select
  -- The responses that were passed on to those who await them, and the frames that were written.
  replies                 : List (Nat × InboundResponseFrameData) := []
  written                 : List OutboundFrame                    := []

namespace Connection

-- The capacity of both queues.
def capacity : Nat :=
  16

variable (decoder : Decoder) (c : Connection)

def handleEvent (event : RpcEvent) : List OutboundRequestFrameData :=
  c.subscriptions.entries.filterMap fun s => s.2.eventFrame s.1 event

def parsePeerIds : List String → Except String (List PeerId)
  | [] => .ok []
  | raw :: raws =>
    match decoder.peerId raw with
    | none        => .error raw
    | some peerId => (parsePeerIds raws).map (peerId :: ·)

def parsePeerIds? : Option (List String) → Except String (Option (List PeerId))
  | none      => .ok none
  | some raws => (parsePeerIds decoder raws).map some

def subscribe (subscription : Except String Subscription) : SubscriptionResponse × Connection :=
  match subscription with
  | .error raw       => (.invalidPeerId raw, c)
  | .ok subscription =>
    (.ok c.subscriptionsCounter, { c with
      subscriptionsCounter := c.subscriptionsCounter + 1
      subscriptions        := c.subscriptions.insert c.subscriptionsCounter subscription
    })

-- A handler is done, and sends its response if no task does so.
def handleInboundRequest (request : InboundRequestFrame) (spawns : Bool) : Connection :=
  let answer (c : Connection) (data : OutboundResponseFrameData) : Connection :=
    { c with pc := .answering <| .response request.id data }
  match request.data with
  | .call procedure =>
    if procedure.maySpawn && spawns then { c with pc := .select } else answer c (.call procedure)
  | .cancelSubscription subscriptionId =>
    match c.subscriptions.lookup subscriptionId with
    | none   => answer c (.cancelSubscription .invalidSubscriptionId)
    | some _ =>
      answer { c with subscriptions := c.subscriptions.erase subscriptionId } (.cancelSubscription .ok)
  | .subscribeToJobs protocolIds providerPeerIds consumerPeerIds =>
    let (response, c) := c.subscribe do
      let providerPeerIds ← parsePeerIds? decoder providerPeerIds
      let consumerPeerIds ← parsePeerIds? decoder consumerPeerIds
      return .jobs protocolIds providerPeerIds consumerPeerIds
    answer c (.subscribeToJobs response)
  | .subscribeToActiveOffers protocolIds providerPeerIds =>
    let (response, c) := c.subscribe do
      let providerPeerIds ← parsePeerIds? decoder providerPeerIds
      return .activeOffers protocolIds providerPeerIds
    answer c (.subscribeToActiveOffers response)
  | .subscribeToActiveProviders =>
    let (response, c) := c.subscribe <| .ok .activeProviders
    answer c (.subscribeToActiveProviders response)

def handleInboundResponse (response : InboundResponseFrame) : Connection :=
  match c.inboundResponseTxs.lookup response.id with
  | none => c
  | some inboundResponseTx => { c with
    inboundResponseTxs := c.inboundResponseTxs.erase response.id
    replies            := c.replies ++ inboundResponseTx.toList.map (·, response.data)
  }

-- The branches below the reader, from top to bottom. The first one that is ready drops the others,
-- and with them the future of the reader.
def pollQueues : Connection :=
  match c.outbound, c.outboundRequests, c.events with
  | frame :: outbound, _, _ => { c with
      rpcStream := c.rpcStream.dropFuture
      outbound
      pc        := .writing frame
    }
  | [], envelope :: outboundRequests, _ => { c with
      rpcStream          := c.rpcStream.dropFuture
      outboundRequests
      inboundResponseTxs := c.inboundResponseTxs.insert c.outboundRequestsCounter envelope.responseTx
      pc                 := .forwarding <| .request c.outboundRequestsCounter envelope.frameData
    }
  | [], [], .ok event :: events => { c with
      rpcStream := c.rpcStream.dropFuture
      events
      pc        := .notifying <| c.handleEvent event
    }
  | [], [], .error _ :: events => { c with rpcStream := c.rpcStream.dropFuture, events }
  | [], [], [] => c

-- Polls a biased `select!`. If it gets to handle a request, then the handler may spawn a task.
def pollSelect (spawns : Bool) : Connection :=
  if c.cancelled then
    { c with pc := .closing }
  else
    let (result, rpcStream) := c.rpcStream.nextCbor
    let c := { c with rpcStream }
    match result with
    | .some body =>
      match decoder.inboundFrame body with
      | some (.request request)   => { c with pc := .handling request spawns }
      | some (.response response) => c.handleInboundResponse response
      -- "CBOR decoding failed".
      | none                      => c
    | .err     => c
    -- Reader EOF.
    | .none    => { c with pc := .closing }
    | .pending => c.pollQueues

inductive Label
  -- The client sends a frame, or closes its side.
  | send (frame : Frame)
  | close
  -- The next bytes arrive.
  | arrive (n : Nat)
  | cancel
  | broadcast (event : RpcEvent)
  -- The broadcast channel overwrites the oldest events.
  | lag (n : Nat)
  -- Other tasks put a response or a request into the queues, which have room for it.
  | respond (id : UInt32) (data : OutboundResponseFrameData)
  | request (envelope : OutboundRequestEnvelope)
  | poll (spawns : Bool)
  -- The loop gets on after its poll: it has handled the request, or what it awaits has come.
  | handled
  | sends
  | wrote

def next : Label → Option Connection
  | .send frame =>
    if c.rpcStream.eof then none else some { c with rpcStream := c.rpcStream.send frame }
  | .close           => some { c with rpcStream := c.rpcStream.close }
  | .arrive n        => some { c with rpcStream := c.rpcStream.arrive n }
  | .cancel          => some { c with cancelled := true }
  | .broadcast event => some { c with events := c.events ++ [.ok event] }
  | .lag n           => some { c with events := .error n :: c.events.drop n }
  | .respond id data =>
    if c.outbound.length < capacity then
      some { c with outbound := c.outbound ++ [.response id data] }
    else
      none
  | .request envelope =>
    if c.outboundRequests.length < capacity then
      some { c with outboundRequests := c.outboundRequests ++ [envelope] }
    else
      none
  | .poll spawns =>
    match c.pc with
    | .select => some <| c.pollSelect decoder spawns
    | _       => none
  | .handled =>
    match c.pc with
    | .handling request spawns => some <| c.handleInboundRequest decoder request spawns
    | _                        => none
  | .sends =>
    match c.pc with
    | .answering frame =>
      if c.outbound.length < capacity then
        some { c with outbound := c.outbound ++ [frame], pc := .select }
      else
        none
    | .forwarding frame =>
      if c.outbound.length < capacity then
        some { c with
          outbound                := c.outbound ++ [frame]
          outboundRequestsCounter := c.outboundRequestsCounter + 1
          pc                      := .select
        }
      else
        none
    | .notifying [] => some { c with pc := .select }
    | .notifying (frameData :: frames) =>
      if c.outboundRequests.length < capacity then
        some { c with
          outboundRequests := c.outboundRequests ++ [{ frameData, responseTx := none }]
          pc               := .notifying frames
        }
      else
        none
    | _ => none
  | .wrote =>
    match c.pc with
    | .writing frame => some { c with written := c.written ++ [frame], pc := .select }
    | _              => none

abbrev step : Connection → Label → Connection → Prop :=
  ofFn <| next decoder

end Connection
end Derouter
