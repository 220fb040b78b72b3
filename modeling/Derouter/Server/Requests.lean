import Derouter.Db.Theorems.OwnOffers
import Derouter.JobsView.Handlers
import Derouter.Registry.Registered
import Derouter.Rpc.Theorems.Requests

open Sql

namespace Derouter

-- A write that keeps the node's own offers active.
structure Database.Writes (ext : External) (ourPeerId : PeerId) (db db' : Database) : Prop where
  advances : db.Advances ext ourPeerId True db'
  own      : db.OwnActive ourPeerId → db'.OwnActive ourPeerId

namespace Database

variable {ext : External} {self : PeerId} {db db' : Database}

theorem OwnActive.congr (h : db.OwnActive self) (hs : db'.offerSnapshots = db.offerSnapshots) :
    db'.OwnActive self := by
  rwa [OwnActive, hs]

theorem Writes.refl : db.Writes ext self db where
  advances := .kept .refl
  own      := id

theorem Writes.exec (op : JobOp) (hl : op.Local self) : db.Writes ext self (op.exec ext db).1 where
  advances := .executed op hl fun _ => trivial
  own      := fun h => h.congr <| JobOp.exec_offerSnapshots op

theorem Writes.of_snapshots (ha : db.Advances ext self True db')
    (hs : db'.offerSnapshots = db.offerSnapshots) : db.Writes ext self db' where
  advances := ha
  own      := fun h => h.congr hs

theorem Advances.snapshot {completes : Prop} (h : db.Advances ext self completes db')
    (hs : db.offerSnapshots.get? i = some s) :
    ∃ s', db'.offerSnapshots.get? i = some s' ∧ s.SameKey s' := by
  cases h
  case kept h => exact h.snapshots i s hs
  case executed op _ _ =>
    rw [JobOp.exec_offerSnapshots]
    exact ⟨s, hs, .refl s⟩

theorem Frame.own {source : PeerId} (h : db.Frame source db') (hn : source ≠ self)
    (ho : db.OwnActive self) : db'.OwnActive self := by
  intro i s hs hp
  refine ho i s ?_ hp
  exact (h.snapshotsOthers i s (hp ▸ hn.symm)).mp hs

theorem Writes.heartbeat {plan : Plan (Rowid × OfferSnapshotRow)} {message : Heartbeat}
    (h : handleHeartbeat plan visits now db source message = some (.ok (events, db')))
    (hn : source ≠ self) : db.Writes ext self db' where
  advances := .kept (.heartbeat h)
  own      := by
    obtain ⟨r, hr, hh⟩ : ∃ r, handleHeartbeat plan visits now db source message = some r ∧
        Handled db source message r := handleHeartbeat_handled
    obtain rfl := Option.some.inj (h.symm.trans hr)
    cases hh
    case ignored       => exact id
    case stored _ _ hs => exact hs.frame.own hn

end Database

namespace Node

-- A request whose handler panics on what it reads: a query of jobs with nothing to filter by, or a
-- query of a peer that was not heard of as a provider.
def Fails (node : Node) : RpcRequest → Prop
  | .queryJobs _ cursor protocolIds providerPeerIds consumerPeerIds limit =>
    1 ≤ limit ∧ limit ≤ 100 ∧ cursor = none ∧ protocolIds = none ∧ providerPeerIds = none ∧
      consumerPeerIds = none
  | .queryProviders _ providerPeerIds =>
    providerPeerIds.length ≤ 100 ∧ ∃ i r, node.db.peers.get? i = some r ∧
      r.peerId ∈ providerPeerIds ∧
      (r.ourProviderUpdatedAt = none ∨ r.ourLatestHeartbeatTimestamp = none)
  | _ => False

-- A request whose handler sends a request to another peer by way of the node loop.
def HandsOver (node : Node) : RpcRequest → Prop
  | .consumerCreateJob offerSnapshotId .. => ∃ snapshot,
    find node.db offerSnapshotId = some snapshot ∧ snapshot.active = true
  | .consumerGetJob .. => True
  | _                  => False

-- A request whose handler makes a module under the ID of a registered one, and panics.
def Overruns (node : Node) (c : Nat) : RpcRequest → Prop
  | .providerProvide _ _ request =>
    node.provider.offersModuleMap.get? request.protocolId request.offerId = none ∧
      node.connections.lookup c = none ∧
      (node.provider.modules.lookup node.provider.moduleIdsCounter).isSome
  | _ => False

-- All that the handler of a request can do.
inductive Serves (ext : External) (self : PeerId) (node : Node) (c : Nat) :
    RpcRequest → HandlerEnd → Prop
  | answers (db) (hf : ¬node.Fails request) (hh : ¬node.HandsOver request)
      (hv : ¬node.Overruns c request) (hw : node.db.Writes ext self db) :
    Serves ext self node c request (.returns { node with db })
  | provides (node' m rowid)
      (hn : node.provider.offersModuleMap.get? provide.protocolId provide.offerId = none)
      (hu : upsert plan node.db self provide.offerId provide.protocolId provide.protocolPayload =
        some (rowid, node'.db))
      (hp : node.Provided c provide m rowid node') :
    Serves ext self node c (.providerProvide plan now provide) (.returns node')
  | overrun (node') (hv : node.Overruns c (.providerProvide plan now provide))
      (ho : node.Overrun c node') :
    Serves ext self node c (.providerProvide plan now provide) (.panics node')
  | requests (hf : ¬node.Fails request) (hh : node.HandsOver request) :
    Serves ext self node c request .requests
  | fails (hf : node.Fails request) : Serves ext self node c request (.panics node)

variable {ext : External} {keypair : ext.Keypair} {node : Node} {c : Nat} {request : RpcRequest}

theorem Serves.of_isSome {response : Option α} {db : Database} (hr : response.isSome)
    (hf : ¬node.Fails request) (hh : ¬node.HandsOver request) (hv : ¬node.Overruns c request)
    (hw : node.db.Writes ext self db) :
    node.Serves ext self c request (.ofResponse { node with db } response) := by
  obtain ⟨a, rfl⟩ := Option.isSome_iff_exists.mp hr
  exact .answers db hf hh hv hw

theorem Serves.of_query {response : Option α} (hf : response = none ↔ node.Fails request)
    (hh : ¬node.HandsOver request) (hv : ¬node.Overruns c request) :
    node.Serves ext self c request (.ofResponse node response) := by
  cases response
  case none   => exact .fails (hf.mp rfl)
  case some a => exact .answers node.db (hf.not.mp (by simp)) hh hv .refl

theorem serves (hr : node.Registered) (ho : node.db.OwnActive (ext.peerId keypair)) (c : Nat)
    (request : RpcRequest) : node.Serves ext (ext.peerId keypair) c request
      (node.handleInboundRequest ext keypair c request) := by
  cases request <;> simp only [handleInboundRequest]
  case failJob =>
    refine .of_isSome handleFailJobRequest_isSome id id id ?_
    rw [handleFailJobRequest_db ext]
    exact .exec _ trivial
  case consumerCompleteJob =>
    refine .of_isSome handleConsumerCompleteJobRequest_isSome id id id ?_
    rw [handleConsumerCompleteJobRequest_db]
    exact .exec _ rfl
  case providerCompleteJob =>
    refine .of_isSome handleProviderCompleteJobRequest_isSome id id id ?_
    rw [handleProviderCompleteJobRequest_db]
    exact .exec _ trivial
  case consumerCreateJob snapshotId currency args =>
    by_cases hh : node.HandsOver (.consumerCreateJob snapshotId currency args)
    case pos =>
      obtain ⟨snapshot, hs, ha⟩ := hh
      have he : (consumerCreateJobRequest node.db snapshotId currency args).isSome := by
        simp [consumerCreateJobRequest, hs, ha]
      obtain ⟨_, he⟩ := Option.isSome_iff_exists.mp he
      rw [he]
      exact .requests id ⟨snapshot, hs, ha⟩
    case neg =>
      have he : consumerCreateJobRequest node.db snapshotId currency args = none := by
        cases hs : find node.db snapshotId
        case none => simp [consumerCreateJobRequest, hs]
        case some snapshot =>
          have ha : snapshot.active ≠ true := fun ha => hh ⟨snapshot, hs, ha⟩
          simp [consumerCreateJobRequest, hs, ha]
      rw [he]
      exact .answers node.db id hh id .refl
  case consumerGetJob => exact .requests id trivial
  case providerProvide plan now provide =>
    have he : node.ProvideEnds plan (ext.peerId keypair) c provide
        (handleProviderProvideRequest plan now (ext.peerId keypair) node c provide) :=
      hr.provideEnds <| upsert_of_ownActive ho ..
    generalize handleProviderProvideRequest plan now (ext.peerId keypair) node c provide = p at he
    cases he
    case duplicate hd =>
      exact .answers node.db id id (fun hv => by simp [hv.1] at hd) .refl
    case ok node' m rowid hn hu hp => exact .provides node' m rowid hn hu hp
    case overrun node' hn ho => exact .overrun node' ⟨hn, ho.connection, ho.module⟩ ho
  case queryJobs      => exact .of_query handleJobsQueryRequest_eq_none_iff id id
  case queryProviders => exact .of_query handleProvidersQueryRequest_eq_none_iff id id
  all_goals exact .answers node.db id id id .refl

end Node
end Derouter
