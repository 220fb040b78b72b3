import Derouter.Db.Theorems.Records
import Derouter.JobsView
import Derouter.P2p.Theorems.Reqres
import Derouter.P2p.Theorems.Sync
import Derouter.Rpc.Theorems.Provide

open Sql Transition

namespace Derouter

-- The texts of the errors that a Provider stores with a job.
def hashMismatchError (jobHash expectedHash : List UInt8) : String :=
  "Hash mismatch (got " ++ Hex.encode jobHash ++ ", expected " ++ Hex.encode expectedHash ++ ")"

def signatureVerificationError : String :=
  "Signature verification failed"

-- A confirmation that changes no job. Where it gets as far as comparing the hashes, the error that it
-- ends with is the stored one, or there is no error to be stored.
def ConfirmJobRequest.Quiet (ext : External) (plan : Plan JobJoin) (self : PeerId) (db : Database)
    (fromPeerId : PeerId) (request : ConfirmJobRequest) : Prop :=
  ∀ j hash, db.jobById plan self request.providerJobId = some j →
    j.job.consumerPeerId = fromPeerId → j.job.signatureConfirmedAtLocal = none →
    j.job.reason = none → j.providerHash ext = some hash →
    (request.jobHash ≠ hash →
      j.job.confirmationError = some (hashMismatchError request.jobHash hash)) ∧
    (request.jobHash = hash → ∀ key, ext.tryDecodeProtobuf request.consumerPublicKey = some key →
      ext.verify key request.jobHash request.consumerSignature = false ∧
        j.job.confirmationError = some signatureVerificationError)

-- A step of a Provider that changes no job's record: the branches that write are not taken.
def Node.Action.Quiet (ext : External) (self : PeerId) (node : Node) : Node.Action → Prop
  | .provide _ _ _ request =>
    let row := OfferSnapshotRow.provided self request.protocolId request.offerId
      request.protocolPayload
    node.provider.offersModuleMap.get? request.protocolId request.offerId = none →
      ¬node.db.OtherActive row →
        ∀ j ∈ node.db.joined, j.snapshot.SameKey row → j.snapshot.active = true
  | .close ..   => True
  | .restart .. => True
  | .createJob _ _ _ reply _ request => ∀ offer,
    node.provider.findOffer request.protocolId request.offerId = some (some offer) →
      offer.provided.protocolPayload = request.offerPayload →
        reply = some (.providerCreateJob .ok) →
          node.db.offerSnapshots.get? offer.provided.snapshotRowid = none
  | .providerCompleteJob plan _ provider jobId delta _ _ => ∀ j,
    node.db.jobById plan provider jobId = some j → j.job.reason = none →
      j.job.completedAtSync = none → validOptBalanceDelta ext delta j.job.currency = false
  | .failJob plan _ provider jobId _ _ _ => ∀ j,
    node.db.jobById plan provider jobId = some j → j.job.reason = none →
      j.job.completedAtLocal.isSome = true
  | .confirmJob plan _ fromPeerId request => request.Quiet ext plan self node.db fromPeerId

-- A handler that changes no job's record, unless it is one of the two that send the record.
def Handler.Quiet (ext : External) (self : PeerId) (node : Node) : Handler → Prop
  | .provider action => action.Quiet ext self node
  | .heartbeat _ _ _ source message => ∀ details, message.provider = some details →
    node.db.Precedes source message →
      ∀ j ∈ node.db.joined, j.snapshot.providerPeerId = source →
        (j.snapshot.active = true ↔ details.offers.get? j.snapshot.protocolId j.snapshot.offerId =
          some ⟨j.snapshot.protocolPayload⟩)
  | .consumerCreateJob _ offerSnapshotId _ response => ∀ jobId createdAt,
    response = .ok jobId createdAt → node.db.offerSnapshots.get? offerSnapshotId = none
  | .consumerCompleteJob .. => True
  | .confirmJob _ job response => response ≠ some .ok → response ≠ some .alreadyConfirmed →
    ∀ r, node.db.serviceJobs.get? job.rowid = some r → r.signatureConfirmedAtLocal = none →
      r.confirmationError = some (response.getD .unexpectedResponse).debug

variable {ext : External} {keypair : ext.Keypair} {node : Node} {db db' : Database}

-- The entries of the events lead from the records before to the records after.
def Announces (db : Database) (events : List RpcEvent) (db' : Database) : Prop :=
  Delta.fold db.findByRowid (events.filterMap RpcEvent.jobEntry?) = db'.findByRowid

theorem Announces.of_eq (h : db'.findByRowid = db.findByRowid) : Announces db [] db' :=
  h.symm

theorem setJobConfirmationError_quiet
    (h : ∀ r, db.serviceJobs.get? i = some r → r.signatureConfirmedAtLocal = none →
      r.confirmationError = some error) :
    (setJobConfirmationError db i error).2.findByRowid = db.findByRowid := by
  cases setJobConfirmationError_cases db i error
  case inl hc =>
    obtain ⟨e, _, hc⟩ := hc
    rw [hc]
  case inr hc =>
    obtain ⟨r, hr, hs, hc⟩ := hc
    rw [hc]
    refine Database.findByRowid_of_set_eq fun r' hr' => ?_
    obtain rfl := Option.some.inj (hr.symm.trans hr')
    simp only [JobUpdate.setConfirmationError, ← h r hr hs]

theorem confirmJobRequest_findByRowid {request : ConfirmJobRequest}
    (h : request.Quiet ext plan self db source) :
    (handleConfirmJobRequest ext plan now self db source request).2.findByRowid = db.findByRowid := by
  simp only [handleConfirmJobRequest]
  split
  case h_1 hc =>
    obtain ⟨j, key, hj, hp, hs, hr, hh, hk, hv, _⟩ := providerConfirmJob_ok hc
    have hq := (h j _ hj hp hs hr hh).2 rfl key hk |>.1
    simp [hv] at hq
  case h_2 => rfl
  case h_3 e hc =>
    split
    case h_1 => rfl
    case h_2 response i error he =>
      have hs : (setJobConfirmationError db i error).2.findByRowid = db.findByRowid := by
        refine setJobConfirmationError_quiet fun r hr hs => ?_
        cases providerConfirmJob_error hc request
        case inl hn => simp [he] at hn
        case inr hd =>
          obtain ⟨j, hash, hj, hp, hs', hr', hh, hd⟩ := hd
          obtain ⟨hm, hv⟩ := h j hash hj hp hs' hr' hh
          cases hd
          case inl hd =>
            obtain ⟨rfl, hd⟩ := hd
            obtain ⟨rfl, rfl⟩ := Prod.mk.inj <| Option.some.inj (Prod.mk.inj he).2
            obtain rfl := Option.some.inj (hr.symm.trans (Database.jobById_row hj))
            exact hm hd
          case inr hd =>
            obtain ⟨rfl, hd, key, hk, -⟩ := hd
            obtain ⟨rfl, rfl⟩ := Prod.mk.inj <| Option.some.inj (Prod.mk.inj he).2
            obtain rfl := Option.some.inj (hr.symm.trans (Database.jobById_row hj))
            exact hv hd key hk |>.2
      split <;> simp_all

theorem perform_findByRowid {action : Node.Action} (h : action.Quiet ext self node) :
    (node.perform ext self action).db.findByRowid = node.db.findByRowid := by
  cases action
  case close   => rw [Node.perform, closeConnection_db]
  case restart => rfl
  case failJob plan now provider jobId why cls priv =>
    simp only [Node.perform, JobOp.exec]
    split
    case h_2 => rfl
    case h_1 hf =>
      obtain ⟨j, hj, hr, hc, _⟩ := failJob_ok hf
      exact absurd (h j hj hr) (by simp [hc])
  case providerCompleteJob plan now provider jobId delta priv pub =>
    simp only [Node.perform, JobOp.exec]
    split
    case h_2 => rfl
    case h_1 hf =>
      obtain ⟨j, hj, hr, hc, hv, _⟩ := providerCompleteJob_ok hf
      exact absurd hv (by simp [h j hj hr hc])
  case createJob now later uuid reply source request =>
    simp only [Node.perform]
    split
    case h_2 => rfl
    case h_1 response db hc =>
      cases handleCreateJobRequest_cases hc
      case inl he => rw [he.1]
      case inr he =>
        obtain ⟨offer, i, hf, hp, hr, hs⟩ := he
        have hn := h offer hf hp (handleCreateJobRequest_reply (hr ▸ hc))
        obtain ⟨_, _, _, _, s, hs⟩ := Database.insertJob?_eq_some hs
        simp [hn] at hs
  case provide plan now c request =>
    have hc : handleProviderProvideRequest plan now self node c request =
      (_, node.perform ext self (.provide plan now c request)) := rfl
    cases handleProviderProvideRequest_cases hc
    case inl he => rw [he.1]
    case inr he =>
      obtain ⟨hn, i, hu, _⟩ := he
      refine Database.findByRowid_of_snapshots (upsert_serviceJobs hu) fun k r hr => ?_
      obtain ⟨s, hs⟩ := node.db.jobSnapshot hr
      rw [hs]
      refine Database.upsertSnapshot?_same hu (by rwa [Database.ensurePeer_offerSnapshots]) ?_
      intro ho hk
      refine h hn ?_ ⟨k, r, s⟩ (Database.mem_joined_iff.mpr ⟨hr, hs⟩) hk
      simpa [Database.OtherActive, Database.ensurePeer_offerSnapshots] using ho
  case confirmJob plan now source request => exact confirmJobRequest_findByRowid h

theorem handleHeartbeat_jobEntries
    (h : handleHeartbeat plan visits now db source message = some (.ok (events, db'))) :
    events.filterMap RpcEvent.jobEntry? = [] := by
  have hc : ∀ c : OfferChanges, c.events.filterMap RpcEvent.jobEntry? = [] := by
    intro c
    simp [OfferChanges.events, List.filterMap_append, List.filterMap_map, RpcEvent.jobEntry?]
  simp only [handleHeartbeat] at h
  split at h
  case h_1 =>
    split at h
    case h_1 => cases h
    case h_2 =>
    split at h
    case h_1 => cases h; rfl
    case h_2 =>
    split at h
    case h_1 => cases h
    case h_2 => cases h; rfl
    case h_3 =>
    split at h
    case h_1 => cases h
    case h_2 c _ => cases h; exact hc c
  case h_2 =>
    split at h
    case h_1 => cases h; rfl
    case h_2 =>
    split at h
    case h_1 => cases h
    case h_2 =>
    split at h
    case h_1 => cases h
    case h_2 c _ => cases h; exact hc c

theorem handleHeartbeat_findByRowid
    (h : handleHeartbeat plan visits now node.db source message = some (.ok (events, db')))
    (hv : node.db.Covers source visits)
    (hq : (Handler.heartbeat plan visits now source message).Quiet ext self node) :
    db'.findByRowid = node.db.findByRowid := by
  obtain ⟨r, hr, hh⟩ : ∃ r, handleHeartbeat plan visits now node.db source message = some r ∧
      Handled node.db source message r := handleHeartbeat_handled
  obtain rfl := Option.some.inj (h.symm.trans hr)
  cases hh
  case ignored => rfl
  case stored details hd hs =>
    refine Database.findByRowid_of_snapshots hs.frame.serviceJobs fun i r hr => ?_
    obtain ⟨s, hi⟩ := node.db.jobSnapshot hr
    by_cases hp : s.providerPeerId = source
    case neg => exact ((hs.frame.snapshotsOthers _ s hp).mpr hi).trans hi.symm
    case pos =>
      cases handleHeartbeat_accepted h hd hv
      case equal ho => rw [ho]
      case stored ho _ _ hm =>
        have ha := hq details hd (precedes_of_handleHeartbeat h hd ho) ⟨i, r, s⟩
          (Database.mem_joined_iff.mpr ⟨hr, hi⟩) hp
        obtain ⟨s', hi', hk⟩ := hs.frame.snapshotsKeep _ s hi
        have ha' := (Database.Mirrors.synced hm hs.frame).active_iff hi hp hi' hk
        rw [hi, hi', hk.eq (ha.trans ha'.symm)]

theorem announces_consumerCompleteJob
    (h : consumerCompleteJob ext plan now db consumer provider jobId delta pub priv t sign =
      .ok (db', jobRecord)) : Announces db [.jobUpdated jobRecord] db' := by
  obtain ⟨j, hj, _, _, _, _, _, u, _, _, rfl, rfl⟩ := consumerCompleteJob_ok h
  have hf := Database.findByRowid_of_update (u := u) (Database.jobById_row hj)
    (Database.jobById_snapshot hj)
  exact (Database.findByRowid_updateJob.trans (by rw [hf]; rfl)).symm

theorem announces_consumerConfirmJob (h : consumerConfirmJob now db i = .ok (db', jobRecord)) :
    Announces db [.jobUpdated jobRecord] db' := by
  have hf := consumerConfirmJob_record h
  obtain ⟨_, _, _, _, rfl, rfl⟩ := consumerConfirmJob_ok h
  exact (Database.findByRowid_updateJob.trans (by rw [hf]; rfl)).symm

theorem confirmJob_announces (h : confirmJob now db job response = some db')
    (hq : response ≠ some .ok → response ≠ some .alreadyConfirmed →
      ∀ r, db.serviceJobs.get? job.rowid = some r → r.signatureConfirmedAtLocal = none →
        r.confirmationError = some (response.getD .unexpectedResponse).debug) :
    Announces db (confirmJobEvents now db job response) db' := by
  simp only [confirmJob] at h
  split at h
  case h_1 =>
    simp only [confirmJobEvents]
    split at h
    case h_1 hc =>
      rw [hc]
      exact Option.some.inj h ▸ announces_consumerConfirmJob hc
    case h_2 hc =>
      rw [hc]
      exact .of_eq (Option.some.inj h ▸ rfl)
    case h_3 => contradiction
  case h_2 => exact .of_eq (Option.some.inj h ▸ rfl)
  case h_3 ho ha =>
    have he := setJobConfirmationError_quiet (hq ho ha)
    have hn : confirmJobEvents now db job response = [] := by simp only [confirmJobEvents]
    rw [hn]
    split at h <;> try contradiction
    case _ hs => exact .of_eq (by rw [← Option.some.inj h, ← he, hs])
    case _ hs => exact .of_eq (by rw [← Option.some.inj h, ← he, hs])

theorem handle_announces {handler : Handler} (hq : handler.Quiet ext (ext.peerId keypair) node)
    (hv : JobsView.Enabled { node, copy := c } (.handle handler)) :
    Announces node.db (node.handle ext keypair handler).2 (node.handle ext keypair handler).1.db := by
  cases handler
  case provider action => exact .of_eq (perform_findByRowid hq)
  case heartbeat plan visits now source message =>
    simp only [Node.handle]
    split
    case h_2 => exact .of_eq rfl
    case h_1 events db' h =>
      rw [Announces, handleHeartbeat_jobEntries h]
      exact (handleHeartbeat_findByRowid h hv hq).symm
  case consumerCreateJob now i request response =>
    simp only [Node.handle]
    split
    case h_2 => exact .of_eq rfl
    case h_1 h =>
      simp only [consumerCreateJob] at h
      split at h <;> try contradiction
      case _ jobId createdAt =>
        obtain ⟨_, _, _, _, s, hs⟩ := Database.insertJob?_eq_some h
        have hn := hq jobId createdAt rfl
        simp [hn] at hs
  case consumerCompleteJob =>
    simp only [Node.handle]
    split
    case h_2   => exact .of_eq rfl
    case h_1 h => exact announces_consumerCompleteJob h
  case confirmJob now job response =>
    simp only [Node.handle]
    split
    case h_2   => exact .of_eq rfl
    case h_1 h => exact confirmJob_announces h hq

namespace JobsView

-- The copy, once all events on their way have arrived, is what is stored.
def Tracks (s : JobsView) : Prop :=
  Delta.fold s.copy (s.pending.filterMap RpcEvent.jobEntry?) = s.node.db.findByRowid

def Label.Quiet (ext : External) (keypair : ext.Keypair) (s : JobsView) : Label → Prop
  | .handle handler => handler.Quiet ext (ext.peerId keypair) s.node
  | .receive        => True

variable {s s' : JobsView}

theorem tracks_step {l : Label} (h : s.Tracks) (hq : l.Quiet ext keypair s)
    (hs : step ext keypair s l s') : s'.Tracks := by
  obtain ⟨hv, rfl⟩ := hs
  cases l
  case handle handler =>
    have ha := handle_announces (c := s.copy) hq hv
    rw [Announces, ← h, ← Delta.fold_append] at ha
    simp only [Tracks, next, List.filterMap_append]
    exact ha
  case receive =>
    simp only [next]
    split
    case h_1 => exact h
    case h_2 event pending hp =>
      have he : (event :: pending).filterMap RpcEvent.jobEntry? =
          event.jobEntry?.toList ++ pending.filterMap RpcEvent.jobEntry? := by
        rw [List.filterMap_cons]
        cases event.jobEntry? <;> rfl
      rw [Tracks, ← Delta.fold_append, ← he, ← hp]
      exact h

-- In every run in which no handler changes a record without sending it, the module's copy is current
-- whenever no event is on its way.
theorem current_of_run (r : Run (step ext keypair) (start node) tr s)
    (h : Meets (fun s l => l.Quiet ext keypair s) tr) : s.Current := by
  have ht := r.invariant_of_meets (I := Tracks) h rfl fun _ _ _ => tracks_step
  intro hp i
  rw [Tracks, hp] at ht
  exact congrFun ht i

-- A node that stores a job of the peer 1 at the peer 0.
private def withJob : Node :=
  let db := Database.ofOffer ⟨[0]⟩ "offer" "protocol" "payload"
  .start (((createJob 0 db 1 ⟨[1]⟩ .polygon none "job" 0).map (·.2)).getD db) 0

private def complete : Label :=
  .handle <| .consumerCompleteJob .scan 0 ⟨[0]⟩ "job" none "done" none 0

private def fail : Label :=
  .handle <| .provider <| .failJob .scan 0 ⟨[0]⟩ "job" "reason" none none

-- The Consumer completes the job.
theorem current_of_run_sample : ∃ tr s,
    Run (step .sample (PeerId.mk [1])) (start withJob) tr s ∧ s.pending = [] ∧
      ((s.copy 1).bind (·.publicPayload)) = some "done" ∧ s.Current := by
  have r : Run (step .sample (PeerId.mk [1])) (start withJob) _ _ :=
    .cons (l := complete) ⟨True.intro, rfl⟩ <| .cons (l := Label.receive) ⟨True.intro, rfl⟩ .nil
  refine ⟨_, _, r, by decide +kernel, by decide +kernel, current_of_run r ?_⟩
  simp only [Meets, List.forall_mem_cons]
  exact ⟨trivial, trivial, fun _ hm => absurd hm List.not_mem_nil⟩

-- A module fails the job, and no event tells of it.
theorem not_current : ¬∀ (ext : External) (keypair : ext.Keypair) (node : Node)
    (tr : List (JobsView × Label)) (s : JobsView),
    Run (step ext keypair) (start node) tr s → s.Current := by
  intro h
  have r : Run (step .sample (PeerId.mk [1])) (start withJob) _ _ :=
    .cons (l := fail) ⟨trivial, rfl⟩ .nil
  have hc := h _ _ _ _ _ r (by decide +kernel) 1
  have hn : ((start withJob).copy 1).bind (·.reason) ≠
      (((start withJob).next .sample (PeerId.mk [1]) fail).node.db.findByRowid 1).bind (·.reason) := by
    decide +kernel
  exact hn (congrArg (·.bind (·.reason)) hc)

end JobsView
end Derouter
