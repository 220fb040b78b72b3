import Derouter.Db.Offers
import Derouter.State

open Sql

namespace Derouter

structure ProviderProvideRequest where
  protocolId      : String
  offerId         : String
  protocolPayload : String

inductive ProviderProvideResponse
  | ok
  -- The backend is already providing an offer with the same protocol and offer IDs.
  | duplicateOffer (protocolId offerId : String)
deriving DecidableEq

-- The part of a node's state that serves its Provider modules. A connection is listed once it has a
-- provider module, under a number that tells it from the other connections.
structure Node where
  db          : Database
  provider    : ProviderState
  connections : HashMap Nat UInt32 := ∅

namespace Node

def start (db : Database) (now : DateTime) : Node where
  db       := db
  provider := { lastUpdatedAt := now }

-- A panic ends the connection's task without a cleanup, and keeps what was written so far.
def panicked (node : Node) (connection : Nat) (provider : ProviderState) : Node :=
  { node with provider, connections := node.connections.erase connection }

-- So does what ends the tasks of several connections from outside of their handlers.
def drop (node : Node) (connections : List Nat) : Node := { node with
  connections := connections.foldl (fun m c => m.erase c) node.connections
}

end Node

-- Find or create new provider state module. The counter wraps around, and a panic (`none`) leaves
-- the new module behind.
def ProviderState.findOrCreateModule (provider : ProviderState) (outboundRequestTx : Nat) :
    Option UInt32 → Option (UInt32 × ProviderModuleState) × ProviderState
  | some moduleId => ((provider.modules.lookup moduleId).map (moduleId, ·), provider)
  | none =>
    let moduleId := provider.moduleIdsCounter
    let module   := { outboundRequestTx }
    let found    := if (provider.modules.lookup moduleId).isSome then none else some (moduleId, module)
    (found, { provider.setModule moduleId module with moduleIdsCounter := moduleId + 1 })

-- Provide an offer until the RPC connection shuts down. The provider stays locked all along. There
-- is no response (`none`) if the handler panics.
def handleProviderProvideRequest (plan : Plan (Rowid × OfferSnapshotRow)) (now : DateTime)
    (ourPeerId : PeerId) (node : Node) (connection : Nat) (request : ProviderProvideRequest) :
    Option ProviderProvideResponse × Node :=
  let protocolId := request.protocolId
  let offerId    := request.offerId
  -- Look for existing offer.
  if (node.provider.offersModuleMap.get? protocolId offerId).isSome then
    (some <| .duplicateOffer protocolId offerId, node)
  else
    match node.provider.findOrCreateModule connection (node.connections.lookup connection) with
    | (none, provider) => (none, node.panicked connection provider)
    | (some (moduleId, module), provider) =>
      let module   := { module with offers := module.offers.ensureProtocol protocolId }
      let provider := provider.setModule moduleId module
      match upsert plan node.db ourPeerId offerId protocolId request.protocolPayload with
      | none => (none, node.panicked connection provider)
      | some (snapshotRowid, db) =>
        let provided := { snapshotRowid, protocolPayload := request.protocolPayload }
        let provider := provider.setModule moduleId {
          module with offers := module.offers.set protocolId offerId provided
        }
        -- `unwrap_none`, when the new offer has replaced another one.
        if (module.offers.get? protocolId offerId).isSome then
          (none, { node with db }.panicked connection provider)
        else
          (some .ok, {
            db
            provider    := { provider with
              offersModuleMap := provider.offersModuleMap.set protocolId offerId moduleId
              lastUpdatedAt   := now
            }
            connections := node.connections.insert connection moduleId
          })

namespace ProviderState

-- The removals stop with the map as it is when they unwrap a missing entry (`error`).
def removeOffers (offers : HashMap String UInt32) :
    List String → Except (HashMap String UInt32) (HashMap String UInt32)
  | []                  => .ok offers
  | offerId :: offerIds =>
    match offers.lookup offerId with
    | none   => .error offers
    | some _ => removeOffers (offers.erase offerId) offerIds

def removeProtocols (map : OfferMap UInt32) :
    List (String × HashMap String ProvidedOffer) → Except (OfferMap UInt32) (OfferMap UInt32)
  | [] => .ok map
  | (protocolId, moduleOffers) :: protocols =>
    match map.lookup protocolId with
    | none => .error map
    | some offers =>
      match removeOffers offers moduleOffers.keys with
      | .error offers => .error <| map.insert protocolId offers
      | .ok offers    =>
        let map := map.insert protocolId offers
        removeProtocols (if offers.keys = [] then map.erase protocolId else map) protocols

end ProviderState

-- What the connection loop does after its end: it cleans up its provider module.
def closeConnection (now : DateTime) (node : Node) (connection : Nat) : Node :=
  match node.connections.lookup connection with
  | none => node
  | some moduleId =>
    let node := { node with connections := node.connections.erase connection }
    match node.provider.modules.lookup moduleId with
    | none => node
    | some module =>
      let provider  := { node.provider with modules := node.provider.modules.erase moduleId }
      let protocols := module.offers.entries.map fun e => (e.1, e.2)
      match ProviderState.removeProtocols provider.offersModuleMap protocols with
      | .error map => { node with provider := { provider with offersModuleMap := map } }
      | .ok map    => { node with
        provider := { provider with offersModuleMap := map, lastUpdatedAt := now }
      }

end Derouter
