import Derouter.Server
import Derouter.Server.Requests

open Sql Transition

namespace Derouter
namespace Server

variable {ext : External} {keypair : ext.Keypair} {self : PeerId} {s s' : Server} {l : Label}

theorem unlocked_iff : s.unlocked = true ↔ s.loop.job? = none ∧ s.stream = none := by
  simp [unlocked]

theorem Background.writes {handler : Handler} (h : s.Background (ext.peerId keypair) handler) :
    ∃ db, (s.node.handle ext keypair handler).1 = { s.node with db } ∧
      s.node.db.Writes ext (ext.peerId keypair) db := by
  cases handler
  case provider action =>
    cases action
    case confirmJob plan now source request =>
      exact ⟨_, rfl, .of_snapshots .confirmJobRequest <|
        handleConfirmJobRequest_offerSnapshots request⟩
    all_goals exact False.elim h
  case heartbeat plan visits now source message =>
    simp only [Node.handle]
    split
    case h_1 hh => exact ⟨_, rfl, .heartbeat hh h.2⟩
    case h_2    => exact ⟨s.node.db, rfl, .refl⟩
  case consumerCreateJob now i request response =>
    simp only [Node.handle]
    split
    case h_2 => exact ⟨s.node.db, rfl, .refl⟩
    case h_1 hc =>
      simp only [consumerCreateJob] at hc
      split at hc <;> try contradiction
      exact ⟨_, rfl, .of_snapshots (.createJob hc) (createJob_ok hc).2.1⟩
  case consumerCompleteJob => exact False.elim h
  case confirmJob now job response =>
    simp only [Node.handle]
    split
    case h_2    => exact ⟨s.node.db, rfl, .refl⟩
    case h_1 hc => exact ⟨_, rfl, .of_snapshots (.confirmJob hc) (confirmJob_offerSnapshots hc)⟩

-- All that a step can do.
inductive Effect (ext : External) (self : PeerId) (s : Server) : Label → Server → Prop
  | accepts :
    Effect ext self s .accept { s with tasks := s.opened :: s.tasks, opened := s.opened + 1 }
  | answers (db) (hf : ¬s.node.Fails request) (hh : ¬s.node.HandsOver request)
      (hv : ¬s.node.Overruns c request) (hw : s.node.db.Writes ext self db) :
    Effect ext self s (.request c request) { s with node := { s.node with db } }
  | provides (node' m rowid) (ht : c ∈ s.tasks) (hl : s.unlocked)
      (hn : s.node.provider.offersModuleMap.get? provide.protocolId provide.offerId = none)
      (hu : upsert plan s.node.db self provide.offerId provide.protocolId provide.protocolPayload =
        some (rowid, node'.db))
      (hp : s.node.Provided c provide m rowid node') :
    Effect ext self s (.request c <| .providerProvide plan now provide) { s with node := node' }
  | overrun (node') (ht : c ∈ s.tasks) (hl : s.unlocked)
      (hv : s.node.Overruns c (.providerProvide plan now provide)) (ho : s.node.Overrun c node') :
    Effect ext self s (.request c <| .providerProvide plan now provide)
      ({ s with node := node' }.panics [c])
  | waits (hf : ¬s.node.Fails request) (hh : s.node.HandsOver request) (he : s.loop ≠ .ended) :
    Effect ext self s (.request c request) { s with awaiting := c :: s.awaiting }
  | fails (hf : s.node.Fails request ∨ (s.loop = .ended ∧ s.node.HandsOver request)) :
    Effect ext self s (.request c request) (s.panics [c])
  | resumes : Effect ext self s (.resume c) { s with awaiting := s.awaiting.filter (· ≠ c) }
  | exits (hc : s.node.connections.lookup c = none) :
    Effect ext self s (.exit now c) { s with tasks := s.tasks.filter (· ≠ c) }
  | cleansUp (node' m) (hl : s.unlocked) (hc : s.node.connections.lookup c = some m)
      (hn : s.node.Closed c m node') :
    Effect ext self s (.exit now c) { s with node := node', tasks := s.tasks.filter (· ≠ c) }
  | background (db) (hw : s.node.db.Writes ext self db) :
    Effect ext self s (.background handler) { s with node := { s.node with db } }
  | loses (hi : s.loop = .idle)
      (hf : s.node.provider.findOffer request.protocolId request.offerId = none) :
    Effect ext self s (.createJob now source request uuid) s.loopEnds
  | refuses (hf : s.node.provider.findOffer request.protocolId request.offerId ≠ none) :
    Effect ext self s (.createJob now source request uuid) s
  | finds (offer) (hi : s.loop = .idle) (hl : s.unlocked)
      (hf : s.node.provider.findOffer request.protocolId request.offerId = some (some offer))
      (hp : offer.provided.protocolPayload = request.offerPayload) :
    Effect ext self s (.createJob now source request uuid)
      { s with loop := .sends ⟨offer, source, request, uuid, now⟩ }
  | sends (job) (hl : s.loop = .sends job) :
    Effect ext self s .sendCreateJob { s with loop := .awaits job }
  | sendFails (job) (hl : s.loop = .sends job) (hr : ¬s.Receives job.offer.moduleId) :
    Effect ext self s .sendCreateJob s.loopEnds
  | replies (job reply) (hl : s.loop = .awaits job) :
    Effect ext self s (.reply c reply) { s with
      loop     := .stores job reply
      accepted := if reply = .providerCreateJob .ok then
        (c, job.providerJobId) :: s.accepted
      else
        s.accepted
    }
  | dropsReply (job) (hl : s.loop = .awaits job) (hr : ¬s.Receives job.offer.moduleId) :
    Effect ext self s .dropReply s.loopEnds
  | stores (job reply db) (hl : s.loop = .stores job reply)
      (hc : handleCreateJobRequest job.now later job.providerJobId (some reply) s.node.db
        s.node.provider job.fromPeerId job.request = some (response, db)) :
    Effect ext self s (.storeJob later) { s with node := { s.node with db }, loop := .idle }
  | storeFails (job reply) (hl : s.loop = .stores job reply)
      (hc : handleCreateJobRequest job.now later job.providerJobId (some reply) s.node.db
        s.node.provider job.fromPeerId job.request = none) :
    Effect ext self s (.storeJob later) s.loopEnds
  | stops (hi : s.loop = .idle) : Effect ext self s .stop s.loopEnds
  | opens (offer) (hf : s.node.provider.findOffer p o = some (some offer)) :
    Effect ext self s (.openStream plan source jobId) { s with stream := some offer }
  | opensNothing : Effect ext self s (.openStream plan source jobId) s
  | sendsStream : Effect ext self s .sendStream s
  | streamFails : Effect ext self s .sendStream { s with stream := none }
  | closes : Effect ext self s .closeStream { s with stream := none }
  | restarts : Effect ext self s (.restart now) (.start s.node.db now)

theorem effect (hr : s.node.Registered) (ho : s.node.db.OwnActive (ext.peerId keypair))
    (h : step ext keypair s l s') : Effect ext (ext.peerId keypair) s l s' := by
  cases l <;> simp only [step, ofFn, next] at h
  case accept => exact Option.some.inj h ▸ .accepts
  case request c request =>
    split at h <;> try contradiction
    case _ hc =>
      obtain ⟨ht, _, hl⟩ := hc
      rw [← Option.some.inj h, handleInboundRequest]
      have hs := Node.serves hr ho c request
      generalize s.node.handleInboundRequest ext keypair c request = e at hs
      cases hs
      case answers db hw hf hh hv => exact .answers db hf hh hv hw
      case provides node' m rowid hn hu hp =>
        exact .provides node' m rowid ht (hl rfl) hn hu hp
      case overrun node' hv ho => exact .overrun node' ht (hl rfl) hv ho
      case fails hf            => exact .fails (.inl hf)
      case requests hf hh =>
        simp only
        split
        case h_1 he => exact .fails (.inr ⟨he, hh⟩)
        case h_2 he => exact .waits hf hh he
  case resume c =>
    split at h <;> try contradiction
    exact Option.some.inj h ▸ .resumes
  case exit now c =>
    split at h <;> try contradiction
    case _ hc =>
      rw [← Option.some.inj h]
      cases hm : s.node.connections.lookup c
      case none =>
        rw [Node.closeConnection_none hm]
        exact .exits hm
      case some m =>
        exact .cleansUp _ m (hc.2.2.resolve_left (by simp [hm])) hm (hr.closed hm)
  case background handler =>
    split at h <;> try contradiction
    case _ hb =>
      obtain ⟨db, hd, hw⟩ := hb.writes
      rw [← Option.some.inj h, hd]
      exact .background db hw
  case createJob now source request uuid =>
    split at h <;> try contradiction
    case _ hi =>
    split at h <;> try contradiction
    case _ hs =>
    split at h
    case h_1 hf => exact Option.some.inj h ▸ .loses hi hf
    case h_2 hf => exact Option.some.inj h ▸ .refuses (by simp [hf])
    case h_3 offer hf =>
      split at h
      case isFalse => exact Option.some.inj h ▸ .refuses (by simp [hf])
      case isTrue hp =>
        have hl : s.unlocked = true := unlocked_iff.mpr ⟨by simp [hi, NodeLoop.job?], by simpa using hs⟩
        exact Option.some.inj h ▸ .finds offer hi hl hf hp
  case sendCreateJob =>
    split at h <;> try contradiction
    case _ job hl =>
      split at h
      case isTrue     => exact Option.some.inj h ▸ .sends job hl
      case isFalse hn => exact Option.some.inj h ▸ .sendFails job hl hn
  case reply c reply =>
    split at h <;> try contradiction
    case _ job hl =>
      split at h <;> try contradiction
      exact Option.some.inj h ▸ .replies job reply hl
  case dropReply =>
    split at h <;> try contradiction
    case _ job hl =>
      split at h <;> try contradiction
      case _ hn => exact Option.some.inj h ▸ .dropsReply job hl hn
  case storeJob later =>
    split at h <;> try contradiction
    case _ job reply hl =>
      split at h
      case h_1 hc   => exact Option.some.inj h ▸ .storeFails job reply hl hc
      case h_2 hc   => exact Option.some.inj h ▸ .stores job reply _ hl hc
  case stop =>
    split at h <;> try contradiction
    case _ hi => exact Option.some.inj h ▸ .stops hi
  case openStream plan source jobId =>
    split at h <;> try contradiction
    split at h
    case h_1 => exact Option.some.inj h ▸ .opensNothing
    case h_2 job _ =>
      split at h
      case isTrue => exact Option.some.inj h ▸ .opensNothing
      case isFalse =>
        split at h
        case h_1 offer hf => exact Option.some.inj h ▸ .opens offer hf
        case h_2          => exact Option.some.inj h ▸ .opensNothing
  case sendStream =>
    split at h <;> try contradiction
    split at h
    case isTrue  => exact Option.some.inj h ▸ .sendsStream
    case isFalse => exact Option.some.inj h ▸ .streamFails
  case closeStream =>
    split at h <;> try contradiction
    exact Option.some.inj h ▸ .closes
  case restart now => exact Option.some.inj h ▸ .restarts

end Server
end Derouter
