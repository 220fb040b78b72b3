import Derouter.Lib.Transition
import Derouter.P2p.Heartbeat
import Derouter.Rpc.Provide

open Sql Transition

namespace Derouter

-- What is read back from a written `ProviderDetails`. The maps have no order, and an empty one is as
-- good as a missing one.
structure ProviderDetails.Reads (received sent : ProviderDetails) : Prop where
  name        : received.name = sent.name
  teaser      : received.teaser = sent.teaser
  description : received.description = sent.description
  offers      : ∀ p o, received.offers.get? p o = sent.offers.get? p o
  updatedAt   : received.updatedAt = sent.updatedAt.tsSeconds

structure Heartbeat.Reads (received sent : Heartbeat) : Prop where
  provider  : Option.Rel ProviderDetails.Reads received.provider sent.provider
  timestamp : received.timestamp = sent.timestamp.tsSeconds

-- What is read back if the maps keep their order.
def Heartbeat.read (sent : Heartbeat) : Heartbeat where
  provider  := sent.provider.map fun details =>
    { details with updatedAt := details.updatedAt.tsSeconds }
  timestamp := sent.timestamp.tsSeconds

theorem Heartbeat.read_reads (sent : Heartbeat) : sent.read.Reads sent where
  timestamp := rfl
  provider  := by
    cases h : sent.provider
    case none         => simp [read, h, Option.rel_none_none]
    case some details => simpa [read, h] using ⟨rfl, rfl, rfl, fun _ _ => rfl, rfl⟩

-- A Provider with its modules, its clock and its heartbeats, next to a receiver of the heartbeats.
structure Catalogue where
  sender    : Node
  clock     : DateTime
  -- A published heartbeat can be delivered late, more than once, or never.
  published : List Heartbeat := []
  receiver  : Database
  -- The provider data that the receiver has returned `Ok` for, each next to its database afterwards.
  accepted  : List (ProviderDetails × Database) := []

namespace Catalogue

def start (db : Database) (now : DateTime) (receiver : Database) : Catalogue where
  sender   := .start db now
  clock    := now
  receiver := receiver

inductive Label
  | provide (plan : Plan (Rowid × OfferSnapshotRow)) (now : DateTime) (connection : Nat)
      (request : ProviderProvideRequest)
  | close (now : DateTime) (connection : Nat)
  | tick (now : DateTime) (publish : Heartbeat → Option PublishError)
  | deliver (sent received : Heartbeat) (plan : Plan (Rowid × OfferSnapshotRow))
      (visits : List Rowid) (now : DateTime)

variable (config : ProviderConfig) (self : PeerId) (s : Catalogue)

-- The sender's clock does not go back. The receiver's one is not compared with anything.
def Enabled : Label → Prop
  | .provide _ now _ _                => s.clock ≤ now
  | .close now _                      => s.clock ≤ now
  | .tick now _                       => s.clock ≤ now
  | .deliver sent received _ visits _ =>
    sent ∈ s.published ∧ received.Reads sent ∧ s.receiver.Covers self visits

def next : Label → Catalogue
  | .provide plan now c request =>
    let (_, sender) := handleProviderProvideRequest plan now self s.sender c request
    { s with sender, clock := now }
  | .close now c => { s with sender := closeConnection now s.sender c, clock := now }
  | .tick now publish =>
    match maybeSendHeartbeat config publish now s.sender.provider with
    | some (.ok (some heartbeat)) =>
      { s with published := heartbeat :: s.published, clock := now }
    | _ => { s with clock := now }
  | .deliver _ received plan visits now =>
    match handleHeartbeat plan visits now s.receiver self received with
    | some (.ok (_, receiver)) =>
      match received.provider with
      | none         => { s with receiver }
      | some details => { s with receiver, accepted := (details, receiver) :: s.accepted }
    | _ => s

def step (s : Catalogue) (l : Label) (s' : Catalogue) : Prop :=
  s.Enabled self l ∧ s' = s.next config self l

end Catalogue
end Derouter
