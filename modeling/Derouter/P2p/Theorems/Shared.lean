import Derouter.Db.Theorems.Shared
import Derouter.JobsView
import Derouter.P2p.Theorems.Strangers

open Sql

namespace Derouter

variable {ext : External} {plan : Plan JobJoin} {now now' : DateTime} {db : Database} {i : Rowid}
variable {provider : ProviderState} {self fromPeerId : PeerId}

-- The responses to a peer, and the database afterwards.

theorem handleCreateJobRequest_shared {request : CreateJobRequest} :
    (handleCreateJobRequest now later' uuid reply db.shared provider fromPeerId request).map
        (Prod.map id Database.shared) =
      (handleCreateJobRequest now later uuid reply db provider fromPeerId request).map
        (Prod.map id Database.shared) := by
  simp only [handleCreateJobRequest]
  split
  case h_1 => rfl
  case h_2 => simp
  case h_3 offer _ =>
    split
    case isFalse => simp
    case isTrue =>
      split
      case h_1 => rfl
      case h_2 =>
        have hc : (createJob later' db.shared offer.provided.snapshotRowid fromPeerId
            request.currency request.jobArgs uuid now.timestamp).map (Prod.map id Database.shared) =
              (createJob later db offer.provided.snapshotRowid fromPeerId request.currency
                request.jobArgs uuid now.timestamp).map (Prod.map id Database.shared) :=
          createJob_shared
        generalize createJob later' db.shared offer.provided.snapshotRowid fromPeerId
          request.currency request.jobArgs uuid now.timestamp = o' at hc
        generalize createJob later db offer.provided.snapshotRowid fromPeerId request.currency
          request.jobArgs uuid now.timestamp = o at hc
        cases o' <;> cases o <;> simp_all [Prod.map]
      all_goals simp

theorem handleGetJobRequest_shared (h : plan.Respects JobJoin.shared) {request : GetJobRequest} :
    handleGetJobRequest plan self db.shared fromPeerId request =
      handleGetJobRequest plan self db fromPeerId request := by
  simp only [handleGetJobRequest, Database.findByJobId_shared h]
  cases db.findByJobId plan self request.providerJobId <;> rfl

theorem handleConfirmJobRequest_shared (h : plan.Respects JobJoin.shared)
    {request : ConfirmJobRequest} :
    Prod.map id Database.shared
        (handleConfirmJobRequest ext plan now' self db.shared fromPeerId request) =
      Prod.map id Database.shared
        (handleConfirmJobRequest ext plan now self db fromPeerId request) := by
  have hc : (providerConfirmJob ext plan now' db.shared fromPeerId self request.providerJobId
      request.jobHash request.consumerPublicKey request.consumerSignature).map Database.shared =
        (providerConfirmJob ext plan now db fromPeerId self request.providerJobId request.jobHash
          request.consumerPublicKey request.consumerSignature).map Database.shared :=
    providerConfirmJob_shared h
  simp only [handleConfirmJobRequest]
  generalize providerConfirmJob ext plan now' db.shared fromPeerId self request.providerJobId
    request.jobHash request.consumerPublicKey request.consumerSignature = o' at hc
  generalize providerConfirmJob ext plan now db fromPeerId self request.providerJobId
    request.jobHash request.consumerPublicKey request.consumerSignature = o at hc
  cases o' <;> cases o <;> simp only [Except.map, reduceCtorEq, Except.error.injEq, Except.ok.injEq] at hc
  case ok.ok => simp [hc]
  case error.error e' e =>
    subst hc
    cases e'
    case panic => simp
    case error e =>
      dsimp only
      obtain ⟨response, _ | ⟨i, error⟩⟩ := e.response request
      case none => simp
      case some =>
        have hs : Prod.map id Database.shared (setJobConfirmationError db.shared i error) =
            Prod.map id Database.shared (setJobConfirmationError db i error) :=
          setJobConfirmationError_shared
        dsimp only
        generalize setJobConfirmationError db.shared i error = p' at hs
        generalize setJobConfirmationError db i error = p at hs
        obtain ⟨r', db'⟩ := p'
        obtain ⟨r, db⟩ := p
        simp only [Prod.map, id, Prod.mk.injEq] at hs
        obtain ⟨rfl, hs⟩ := hs
        cases r' <;> simp [hs]

theorem handleJobConnectionStream_shared (h : plan.Respects JobJoin.shared)
    {events : JobConnectionEvents} {request : JobConnectionHeadRequest} :
    handleJobConnectionStream plan events db.shared provider fromPeerId self request =
      handleJobConnectionStream plan events db provider fromPeerId self request := by
  simp only [handleJobConnectionStream, Database.findByJobId_shared h]
  cases db.findByJobId plan self request.providerJobId <;> rfl

theorem confirmJob_shared {job : UnconfirmedJob} {response : Option ConfirmJobResponse} :
    (confirmJob now' db.shared job response).map Database.shared =
      (confirmJob now db job response).map Database.shared := by
  simp only [confirmJob]
  split
  case h_1 =>
    have hc : (consumerConfirmJob now' db.shared job.rowid).map (·.1.shared) =
        (consumerConfirmJob now db job.rowid).map (·.1.shared) := consumerConfirmJob_shared
    generalize consumerConfirmJob now' db.shared job.rowid = o' at hc
    generalize consumerConfirmJob now db job.rowid = o at hc
    cases o' <;> cases o <;> simp only [Except.map, reduceCtorEq, Except.error.injEq,
      Except.ok.injEq] at hc
    case ok.ok => simp [hc]
    case error.error e' e =>
      subst hc
      split <;> simp_all
  case h_2 => simp
  case h_3 =>
    have hs : Prod.map id Database.shared (setJobConfirmationError db.shared job.rowid
        (response.getD .unexpectedResponse).debug) =
          Prod.map id Database.shared (setJobConfirmationError db job.rowid
            (response.getD .unexpectedResponse).debug) := setJobConfirmationError_shared
    generalize setJobConfirmationError db.shared job.rowid _ = p' at hs
    generalize setJobConfirmationError db job.rowid _ = p at hs
    obtain ⟨r', db'⟩ := p'
    obtain ⟨r, db⟩ := p
    simp only [Prod.map, id, Prod.mk.injEq] at hs
    obtain ⟨rfl, hs⟩ := hs
    cases r' <;> simp [hs]

theorem consumerCreateJob_shared {request : CreateJobRequest} {response : CreateJobResponse} :
    (consumerCreateJob now' db.shared self i request response).map (Prod.map id Database.shared) =
      (consumerCreateJob now db self i request response).map (Prod.map id Database.shared) := by
  cases response
  case ok => exact createJob_shared
  all_goals rfl

theorem queryUnconfirmedJobs_shared (h : plan.Respects JobJoin.shared) :
    queryUnconfirmedJobs plan db.shared self = queryUnconfirmedJobs plan db self := by
  have ha : (·.awaitsConfirmation self) ∘ JobJoin.shared = (·.awaitsConfirmation self) := by
    funext j
    cases hs : j.job.signatureConfirmedAtLocal <;>
      simp only [Function.comp_apply, JobJoin.awaitsConfirmation, JobJoin.shared, JobRow.shared, hs] <;>
        rfl
  rw [queryUnconfirmedJobs, queryUnconfirmedJobs, Database.joined_shared, List.filter_map, ha, h,
    List.mapM_map]
  rfl

-- What is written to the peers and to the offer snapshots goes past the jobs.
namespace Database

theorem ensurePeer_shared : db.shared.ensurePeer peerId = (db.ensurePeer peerId).shared := by
  simp only [ensurePeer]
  split
  case h_1 h =>
    split
    case h_1    => rfl
    case h_2 h' => exact absurd (h.symm.trans h') (by simp)
  case h_2 h =>
    split
    case h_1 h' => exact absurd (h'.symm.trans h) (by simp)
    case h_2 h' =>
      obtain ⟨rfl, rfl⟩ := Prod.mk.inj <| Option.some.inj (h.symm.trans h')
      rfl

theorem insertPeer?_shared {p : PeerRow} :
    db.shared.insertPeer? p = (db.insertPeer? p).map shared := by
  simp only [insertPeer?]
  split
  case h_1 h =>
    split
    case h_1    => rfl
    case h_2 h' => exact absurd (h.symm.trans h') (by simp)
  case h_2 h =>
    split
    case h_1 h' => exact absurd (h'.symm.trans h) (by simp)
    case h_2 h' =>
      obtain ⟨rfl, rfl⟩ := Prod.mk.inj <| Option.some.inj (h.symm.trans h')
      rfl

theorem updatePeer_shared {f : PeerRow → PeerRow} {hf : ∀ p, (f p).peerId = p.peerId} :
    db.shared.updatePeer peerId f hf = (db.updatePeer peerId f hf).shared := by
  simp only [updatePeer]
  split
  case h_1 h =>
    split
    case h_1    => rfl
    case h_2 h' => exact absurd (h.symm.trans h') (by simp)
  case h_2 h =>
    split
    case h_1 h' => exact absurd (h'.symm.trans h) (by simp)
    case h_2 h' =>
      obtain ⟨rfl, rfl⟩ := Prod.mk.inj <| Option.some.inj (h.symm.trans h')
      rfl

theorem upsertSnapshot?_shared {plan : Plan (Rowid × OfferSnapshotRow)} {r : OfferSnapshotRow} :
    db.shared.upsertSnapshot? plan target r =
      (db.upsertSnapshot? plan target r).map (Prod.map id shared) := by
  simp only [upsertSnapshot?]
  by_cases hp : db.HasPeer r.providerPeerId
  case neg => rw [dif_neg hp, dif_neg (show ¬db.shared.HasPeer _ from hp), Option.map_none]
  case pos =>
    rw [dif_pos hp, dif_pos (show db.shared.HasPeer _ from hp)]
    split
    case h_1 h =>
      split
      case h_1    => rfl
      case h_2 h' => exact absurd (h.symm.trans h') (by simp)
    case h_2 h =>
      split
      case h_1 h' => exact absurd (h'.symm.trans h) (by simp)
      case h_2 h' =>
        obtain ⟨rfl, rfl⟩ := Prod.mk.inj <| Option.some.inj (h.symm.trans h')
        rfl

end Database

namespace OfferChanges

variable {changes : OfferChanges} {source : PeerId} {offers : OfferMap ProviderOffer}
variable {snapshots : Plan (Rowid × OfferSnapshotRow)}

def shared (changes : OfferChanges) : OfferChanges :=
  { changes with db := changes.db.shared }

theorem upsert_shared : upsert snapshots source target p o l changes.shared =
    (upsert snapshots source target p o l changes).map shared := by
  simp only [upsert, shared, Database.upsertSnapshot?_shared]
  cases changes.db.upsertSnapshot? snapshots target _ <;> rfl

theorem visit_shared : visit snapshots source offers changes.shared i =
    (visit snapshots source offers changes i).map shared := by
  have hg : changes.shared.db.offerSnapshots.get? i = changes.db.offerSnapshots.get? i := rfl
  have hd : changes.shared.deactivate i = (changes.deactivate i).shared := rfl
  simp only [visit, hg, hd, upsert_shared]
  split
  case h_1 => rfl
  case h_2 =>
    split
    case isFalse => rfl
    case isTrue =>
      split
      case h_2 => rfl
      case h_1 => split <;> rfl

theorem ensure_shared : ensure snapshots source changes.shared e =
    (ensure snapshots source changes e).map shared := by
  have hr : changes.shared.db.offerSnapshots = changes.db.offerSnapshots := rfl
  simp only [ensure, hr, upsert_shared]
  split <;> rfl

theorem insert_shared : insert snapshots source changes.shared e =
    (insert snapshots source changes e).map shared :=
  upsert_shared

theorem replace_shared : replace snapshots source visits offers db.shared =
    (replace snapshots source visits offers db).map shared := by
  have hv : visits.foldlM (visit snapshots source offers) (shared { db }) =
      (visits.foldlM (visit snapshots source offers) { db }).map shared :=
    Loop.foldlM_map fun _ _ => visit_shared
  rw [replace, replace, show OfferChanges.mk db.shared [] [] = shared { db } from rfl, hv]
  cases visits.foldlM (visit snapshots source offers) { db }
  case none => rfl
  case some => exact Loop.foldlM_map fun _ _ => ensure_shared

end OfferChanges

theorem handleHeartbeat_shared {snapshots : Plan (Rowid × OfferSnapshotRow)} {message : Heartbeat} :
    handleHeartbeat snapshots visits now db.shared source message =
      (handleHeartbeat snapshots visits now db source message).map
        (Except.map (Prod.map id Database.shared)) := by
  have hp : db.shared.peer? source = db.peer? source := Database.peer?_congr rfl
  simp only [handleHeartbeat, hp, Database.updatePeer_shared, Database.insertPeer?_shared,
    OfferChanges.replace_shared]
  split
  case h_1 =>
    split
    case h_1 => rfl
    case h_2 =>
      split
      case h_1 => rfl
      case h_2 =>
        split
        case h_1 => rfl
        case h_2 => rfl
        case h_3 =>
          cases OfferChanges.replace snapshots source visits _ _ <;> rfl
  case h_2 =>
    split
    case h_1 => rfl
    case h_2 details _ =>
      cases db.insertPeer? _
      case none => rfl
      case some db =>
        have hl : details.offers.toList.foldlM (OfferChanges.insert snapshots source)
            (OfferChanges.shared { db }) = (details.offers.toList.foldlM
              (OfferChanges.insert snapshots source) { db }).map OfferChanges.shared :=
          Loop.foldlM_map fun _ _ => OfferChanges.insert_shared
        simp only [Option.map_some]
        rw [show OfferChanges.mk db.shared [] [] = OfferChanges.shared { db } from rfl, hl]
        cases details.offers.toList.foldlM (OfferChanges.insert snapshots source) { db } <;> rfl

-- The node without its local data.
def Node.shared (node : Node) : Node :=
  { node with db := node.db.shared }

theorem upsert_shared {snapshots : Plan (Rowid × OfferSnapshotRow)} :
    upsert snapshots db.shared p o q l =
      (upsert snapshots db p o q l).map (Prod.map id Database.shared) := by
  rw [upsert, upsert, Database.ensurePeer_shared, Database.upsertSnapshot?_shared]

theorem handleProviderProvideRequest_shared {snapshots : Plan (Rowid × OfferSnapshotRow)}
    {node : Node} {request : ProviderProvideRequest} :
    handleProviderProvideRequest snapshots now self node.shared connection request =
      Prod.map id Node.shared
        (handleProviderProvideRequest snapshots now self node connection request) := by
  have hp : node.shared.provider = node.provider := rfl
  have hc : node.shared.connections = node.connections := rfl
  have hd : node.shared.db = node.db.shared := rfl
  simp only [handleProviderProvideRequest, hp, hc, hd, upsert_shared]
  split
  case isTrue => rfl
  case isFalse =>
    split
    case h_1 => rfl
    case h_2 =>
      cases upsert snapshots node.db self _ _ _
      case none => rfl
      case some =>
        simp only [Option.map_some, Prod.map]
        split <;> rfl

theorem closeConnection_shared {node : Node} :
    closeConnection now node.shared connection = (closeConnection now node connection).shared := by
  have hp : node.shared.provider = node.provider := rfl
  have hc : node.shared.connections = node.connections := rfl
  simp only [closeConnection, hp, hc]
  split
  case h_1 => rfl
  case h_2 =>
    split
    case h_1 => rfl
    case h_2 => split <;> rfl

end Derouter
