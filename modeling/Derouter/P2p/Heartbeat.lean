import Derouter.Db.Offers
import Derouter.State

open Sql

namespace Derouter

structure ProviderOffer where
  protocolPayload : String
deriving DecidableEq

structure ProviderDetails where
  name        : Option String
  teaser      : Option String
  description : Option String
  -- `ProtocolId` => `OfferId` => `Offer`.
  offers      : OfferMap ProviderOffer
  -- When was the provider last updated at, in peer's clock.
  updatedAt   : DateTime

structure Heartbeat where
  provider  : Option ProviderDetails
  -- The heartbeat timestamp in peer's clock.
  timestamp : DateTime

-- `libp2p::gossipsub::PublishError`.
inductive PublishError
  | signingError
  | messageTooLarge
  | transformFailed
  | duplicate
  | insufficientPeers
  | allQueuesFull
deriving DecidableEq

-- Without enough peers, the node waits for its next heartbeat.
def PublishError.isFatal : PublishError → Bool
  | insufficientPeers => false
  | allQueuesFull     => false
  | _                 => true

namespace ProviderState

-- `insert(..).unwrap_none()`: no two modules provide the same offer.
def addHeartbeatOffer (protocolId : String) (offers : OfferMap ProviderOffer) (offerId : String)
    (provided : ProvidedOffer) : Option (OfferMap ProviderOffer) :=
  if (offers.get? protocolId offerId).isSome then
    none
  else
    some <| offers.set protocolId offerId ⟨provided.protocolPayload⟩

def addHeartbeatProtocol (offers : OfferMap ProviderOffer) (protocolId : String)
    (provided : HashMap String ProvidedOffer) : Option (OfferMap ProviderOffer) :=
  provided.entries.foldlM (fun offers e => addHeartbeatOffer protocolId offers e.1 e.2)
    (offers.ensureProtocol protocolId)

-- The offers of all modules.
def heartbeatOffers (s : ProviderState) : Option (OfferMap ProviderOffer) :=
  s.modules.entries.foldlM (fun offers module =>
    module.2.offers.entries.foldlM (fun offers e => addHeartbeatProtocol offers e.1 e.2) offers) ∅

end ProviderState

-- Publishes a heartbeat, unless there is nothing to offer. It returns what it has published, and
-- panics (`none`) when two modules provide the same offer.
def maybeSendHeartbeat (config : ProviderConfig) (publish : Heartbeat → Option PublishError)
    (now : DateTime) (provider : ProviderState) : Option (Except PublishError (Option Heartbeat)) :=
  if provider.modules.entries.all fun module => decide (module.2.offers.entries = []) then
    some <| .ok none
  else
    match provider.heartbeatOffers with
    | none => none
    | some offers =>
      let message : Heartbeat := {
        provider  := some {
          name        := config.name
          teaser      := config.teaser
          description := config.description
          offers
          updatedAt   := provider.lastUpdatedAt
        }
        timestamp := now
      }
      match publish message with
      | none       => some <| .ok <| some message
      | some error => some <| if error.isFatal then .error error else .ok none

inductive HeartbeatError
  -- "Outdated heartbeat timestamp: stored = {}, incoming = {}"
  | outdatedTimestamp (stored incoming : DateTime)
  -- "{:?}'s provider updated_at value {} is less than stored ({})"
  | outdatedUpdate (source : PeerId) (incoming stored : DateTime)

-- What a transaction that stores a heartbeat has written so far, next to its events.
structure OfferChanges where
  db      : Database
  updated : List OfferSnapshot := []
  removed : List OfferRemoved  := []

-- The active snapshots of a provider are among the rows that a cursor gets to.
def Database.Covers (db : Database) (source : PeerId) (visits : List Rowid) : Prop :=
  ∀ i p o l, db.offerSnapshots.get? i = some (.provided source p o l) → i ∈ visits

namespace OfferChanges

variable (plan : Plan (Rowid × OfferSnapshotRow)) (source : PeerId)

-- Writes a snapshot of an incoming offer, where a failure of the statement is a panic.
def upsert (target : OfferSnapshotKey → Bool) (protocolId offerId protocolPayload : String)
    (changes : OfferChanges) : Option OfferChanges :=
  let row := OfferSnapshotRow.provided source protocolId offerId protocolPayload
  match changes.db.upsertSnapshot? plan target row with
  | none => none
  | some (snapshotId, db) =>
    some { changes with db, updated := changes.updated ++ [row.snapshot snapshotId] }

def deactivate (i : Rowid) (changes : OfferChanges) : OfferChanges :=
  { changes with db := changes.db.deactivateSnapshot i }

-- The cursor over the active snapshots reads the row `i`.
def visit (offers : OfferMap ProviderOffer) (changes : OfferChanges) (i : Rowid) :
    Option OfferChanges :=
  match changes.db.offerSnapshots.get? i with
  | none     => some changes
  | some row =>
    if row.providerPeerId = source ∧ row.active = true then
      match offers.get? row.protocolId row.offerId with
      | some incoming =>
        if incoming.protocolPayload = row.protocolPayload then
          some changes
        else
          -- Disable due to payload change.
          (changes.deactivate i).upsert plan source OfferSnapshotKey.isProtocolPayload
            row.protocolId row.offerId incoming.protocolPayload
      | none =>
        -- Disable missing.
        some { changes.deactivate i with
          removed := changes.removed ++ [{
            snapshotId     := i
            protocolId     := row.protocolId
            providerPeerId := source
            offerId        := row.offerId
          }]
        }
    else
      some changes

-- Writes an incoming offer that has no active snapshot.
def ensure (changes : OfferChanges) : String × String × ProviderOffer → Option OfferChanges
  | (protocolId, offerId, incoming) =>
    if changes.db.offerSnapshots.rows.any fun r => decide (r.2.providerPeerId = source) &&
        r.2.protocolId == protocolId && r.2.offerId == offerId && r.2.active then
      some changes
    else
      changes.upsert plan source UniqueTable.anyIndex protocolId offerId incoming.protocolPayload

-- Writes an offer of a new peer. A plain insert targets no index, so every conflict fails it.
def insert (changes : OfferChanges) : String × String × ProviderOffer → Option OfferChanges
  | (protocolId, offerId, incoming) =>
    changes.upsert plan source (fun _ => false) protocolId offerId incoming.protocolPayload

-- The cursor is open while the loop writes: it sees the rows as they are when it gets to them, and
-- `visits` are the rows that it gets to.
def replace (visits : List Rowid) (offers : OfferMap ProviderOffer) (db : Database) :
    Option OfferChanges :=
  match visits.foldlM (visit plan source offers) { db } with
  | none         => none
  | some changes => offers.toList.foldlM (ensure plan source) changes

def events (changes : OfferChanges) : List RpcEvent :=
  changes.removed.map .offerRemoved ++ changes.updated.map .offerUpdated

end OfferChanges

namespace PeerRow

variable (now : DateTime) (details : ProviderDetails) (timestamp : DateTime)

def heard (p : PeerRow) : PeerRow :=
  { p with
    theirLatestHeartbeatTimestamp := some timestamp
    ourLatestHeartbeatTimestamp   := some now.currentTimestamp
  }

theorem heard_peerId (p : PeerRow) : (p.heard now timestamp).peerId = p.peerId :=
  rfl

def updated (p : PeerRow) : PeerRow :=
  { p with
    providerName                  := details.name
    providerTeaser                := details.teaser
    providerDescription           := details.description
    theirProviderUpdatedAt        := some details.updatedAt
    ourProviderUpdatedAt          := some now.currentTimestamp
    theirLatestHeartbeatTimestamp := some timestamp
    ourLatestHeartbeatTimestamp   := some now.currentTimestamp
  }

theorem updated_peerId (p : PeerRow) : (p.updated now details timestamp).peerId = p.peerId :=
  rfl

end PeerRow

-- Stores the provider's details in one transaction, and sends the events after it. Nothing is
-- written on an error, nor when the handler panics (`none`).
def handleHeartbeat (plan : Plan (Rowid × OfferSnapshotRow)) (visits : List Rowid) (now : DateTime)
    (db : Database) (source : PeerId) (heartbeat : Heartbeat) :
    Option (Except HeartbeatError (List RpcEvent × Database)) :=
  match db.peer? source with
  | some peer =>
    match peer.theirLatestHeartbeatTimestamp.filter (heartbeat.timestamp ≤ ·) with
    | some stored => some <| .error <| .outdatedTimestamp stored heartbeat.timestamp
    | none =>
      match heartbeat.provider with
      -- Ignoring heartbeat without provider data.
      | none => some <| .ok ([], db)
      | some details =>
        let localUpdatedAt := peer.theirProviderUpdatedAt.getD .zero
        match compare details.updatedAt localUpdatedAt with
        | .lt => some <| .error <| .outdatedUpdate source details.updatedAt localUpdatedAt
        -- Provider not updated.
        | .eq =>
          let db := db.updatePeer source (PeerRow.heard now heartbeat.timestamp)
            (PeerRow.heard_peerId now heartbeat.timestamp)
          some <| .ok ([.providerHeartbeat ⟨source, now⟩], db)
        -- Provider details updated.
        | .gt =>
          let db := db.updatePeer source (PeerRow.updated now details heartbeat.timestamp)
            (PeerRow.updated_peerId now details heartbeat.timestamp)
          match OfferChanges.replace plan source visits details.offers db with
          | none => none
          | some changes =>
            let record := {
              peerId            := source
              name              := details.name
              teaser            := details.teaser
              description       := details.description
              updatedAt         := now
              latestHeartbeatAt := now
            }
            some <| .ok (.providerUpdated record :: changes.events, changes.db)
  | none =>
    match heartbeat.provider with
    | none => some <| .ok ([], db)
    | some details =>
      -- Insert new provider peer.
      match db.insertPeer? (PeerRow.updated now details heartbeat.timestamp { peerId := source }) with
      | none => none
      | some db =>
        match details.offers.toList.foldlM (OfferChanges.insert plan source) { db } with
        | none         => none
        | some changes => some <| .ok (changes.events, changes.db)

end Derouter
