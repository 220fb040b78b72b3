import Derouter.Lib.Feed
import Derouter.JobsView
import Derouter.P2p.Theorems.Changes
import Derouter.Rpc.Filters

open Sql Transition

namespace Derouter

-- What a module takes from the frames of its subscription.
def OutboundRequestFrameData.offerEntry? :
    OutboundRequestFrameData → Option (OfferKey × Option (Rowid × String))
  | eventOfferRemoved _ offer => RpcEvent.offerEntry? (.offerRemoved offer)
  | eventOfferUpdated _ offer => RpcEvent.offerEntry? (.offerUpdated offer)
  | _                         => none

-- The map of the offers that a query has returned.
def offersMap (offers : List OfferSnapshot) (key : OfferKey) : Option (Rowid × String) :=
  offers.findSome? fun offer =>
    if key = (offer.providerPeerId, offer.protocolId, offer.offerId) then
      some (offer.snapshotId, offer.protocolPayload)
    else
      none

-- The offer's columns in its key.
def OfferKey.columns (key : OfferKey) : OfferColumns :=
  ⟨key.2.1, key.1⟩

-- A node, and a module that has opened a connection to subscribe to active offers. It keeps a copy of
-- them, from the response to a query and from the frames of the subscription that are on their way to
-- it.
structure OffersView where
  node       : Node
  -- What was broadcast since the connection was opened, and the connection has not heard of.
  events     : List RpcEvent                                := []
  subscribed : Bool                                         := false
  pending    : List (Feed.Item OfferKey (Rowid × String))     := []
  copy       : Option (OfferKey → Option (Rowid × String)) := none

namespace OffersView

inductive Label
  | handle (handler : Handler)
  | subscribe
  -- The connection hears of the next event.
  | hear
  -- The broadcast channel overwrites the oldest events.
  | lag (n : Nat)
  -- The module, once it has subscribed, queries the offers with the lists of its subscription. The
  -- response overtakes all but the first frames that are on their way.
  | query (plan : Plan (Rowid × OfferSnapshotRow)) (first : Nat)
  -- The module gets the next frame or response.
  | receive

def Label.Lags : Label → Prop
  | lag _ => True
  | _     => False

variable (id : UInt32) (protocolIds : Option (List String)) (providerPeerIds : Option (List PeerId))

-- What the frames for the subscription say that events give rise to.
def told (events : List RpcEvent) : List (Feed.Item OfferKey (Rowid × String)) :=
  let subscription := Subscription.activeOffers protocolIds providerPeerIds
  let frames       := events.filterMap (subscription.eventFrame id)
  (frames.filterMap fun frame => frame.offerEntry?).map .change

def next (ext : External) (keypair : ext.Keypair) (s : OffersView) : Label → OffersView
  | .handle handler =>
    let (node, events) := s.node.handle ext keypair handler
    { s with node, events := s.events ++ events }
  | .subscribe => { s with subscribed := true }
  | .hear =>
    match s.events with
    | []              => s
    | event :: events =>
      if s.subscribed then
        { s with events, pending := s.pending ++ told id protocolIds providerPeerIds [event] }
      else
        { s with events }
  | .lag n => { s with events := s.events.drop n }
  | .query plan first =>
    if s.subscribed then
      let offers := queryActiveOffers plan s.node.db protocolIds providerPeerIds
      { s with pending := s.pending.take first ++ .copy (offersMap offers) :: s.pending.drop first }
    else
      s
  | .receive =>
    match s.pending with
    | []              => s
    | item :: pending => { s with pending, copy := Feed.take s.copy item }

def step (ext : External) (keypair : ext.Keypair) : OffersView → Label → OffersView → Prop :=
  ofFn fun s l => some <| s.next id protocolIds providerPeerIds ext keypair l

-- The active offers that the query would return.
def selected (db : Database) (key : OfferKey) : Option (Rowid × String) :=
  if (offerFilters protocolIds providerPeerIds).all (· key.columns) then db.activeOffers key else none

-- When no event is left to hear of and nothing is on its way to the module, its copy holds the active
-- offers that its lists select, of every provider but the node itself. Unless there are two lists, it
-- holds nothing else.
def Current (ext : External) (keypair : ext.Keypair) (s : OffersView) : Prop :=
  s.events = [] → s.pending = [] → ∀ m, s.copy = some m → ∀ key : OfferKey, key.1 ≠ ext.peerId keypair →
    ((offerFilters protocolIds providerPeerIds).all (· key.columns) = true ∨
      protocolIds = none ∨ providerPeerIds = none) →
    m key = selected protocolIds providerPeerIds s.node.db key

end OffersView
end Derouter
