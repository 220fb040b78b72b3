import Derouter.Lib.Lease
import Derouter.Lib.Transition
import Derouter.P2p.Heartbeat
import Derouter.Rpc.Provide

open Sql Transition

namespace Derouter

-- The offers that a node provides, next to what was provided and which connections have ended so far.
structure Registry where
  node       : Node
  -- The number of modules that have been registered.
  registered : Nat                                              := 0
  history    : List (Lease.Event (String × String) Nat String) := []

namespace Registry

inductive Label
  | provide (plan : Plan (Rowid × OfferSnapshotRow)) (now : DateTime) (connection : Nat)
      (request : ProviderProvideRequest)
  -- A connection ends through the exit of its loop.
  | close (now : DateTime) (connection : Nat)

def start (db : Database) (now : DateTime) : Registry where
  node := .start db now

-- A request registers a module if its connection has none, unless the offer is a duplicate.
def registers (node : Node) (connection : Nat) (request : ProviderProvideRequest) : Bool :=
  (node.provider.offersModuleMap.get? request.protocolId request.offerId).isNone &&
    (node.connections.lookup connection).isNone

def next (self : PeerId) (s : Registry) : Label → Registry
  | .provide plan now c request =>
    let (response, node) := handleProviderProvideRequest plan now self s.node c request
    let key := (request.protocolId, request.offerId)
    {
      node
      registered := s.registered + (registers s.node c request).toNat
      history    := if response = some .ok then
        .granted key c request.protocolPayload :: s.history
      else
        s.history
    }
  | .close now c => { s with
      node    := closeConnection now s.node c
      history := .ended c :: s.history
    }

def step (self : PeerId) : Registry → Label → Registry → Prop :=
  ofFn fun s l => some (s.next self l)

-- The last successful request to provide the offer came from the connection, with the payload, and
-- the connection has not ended since.
def Provides (s : Registry) (p o : String) (c : Nat) (payload : String) : Prop :=
  Lease.Stands s.history (p, o) c payload

end Registry

-- All that is unwrapped when the module of a connection is cleaned up is there.
def Node.CleansUp (node : Node) (connection : Nat) : Prop :=
  ∀ moduleId, node.connections.lookup connection = some moduleId → ∃ module map,
    node.provider.modules.lookup moduleId = some module ∧
    ProviderState.removeProtocols node.provider.offersModuleMap
      (module.offers.entries.map fun e => (e.1, e.2)) = .ok map

end Derouter
