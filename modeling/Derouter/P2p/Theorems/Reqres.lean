import Derouter.Db.Theorems.JobOp
import Derouter.P2p.Consumer

open Sql

namespace Derouter

variable {ext : External} {plan : Plan JobJoin} {now later : DateTime} {db db' : Database}
variable {provider : ProviderState} {self consumer : PeerId}

theorem handleCreateJobRequest_cases {request : CreateJobRequest}
    (h : handleCreateJobRequest now later uuid reply db provider consumer request =
      some (response, db')) :
    (db' = db ∧ ∀ jobId createdAt, response ≠ .ok jobId createdAt) ∨
    (∃ offer i, provider.findOffer request.protocolId request.offerId = some (some offer) ∧
      offer.provided.protocolPayload = request.offerPayload ∧
      response = .ok uuid now.timestamp ∧
      createJob later db offer.provided.snapshotRowid consumer request.currency request.jobArgs uuid
        now.timestamp = some (i, db')) := by
  simp only [handleCreateJobRequest] at h
  split at h
  case h_1 => contradiction
  case h_2 =>
    obtain ⟨rfl, rfl⟩ := Prod.mk.inj <| Option.some.inj h
    exact .inl ⟨rfl, nofun⟩
  case h_3 offer hf =>
    split at h
    case isFalse =>
      obtain ⟨rfl, rfl⟩ := Prod.mk.inj <| Option.some.inj h
      exact .inl ⟨rfl, nofun⟩
    case isTrue hp =>
      split at h
      case h_1 => contradiction
      case h_2 =>
        split at h
        case h_1 => contradiction
        case h_2 i _ hc =>
          obtain ⟨rfl, rfl⟩ := Prod.mk.inj <| Option.some.inj h
          exact .inr ⟨offer, i, hf, hp, rfl, hc⟩
      all_goals
        obtain ⟨rfl, rfl⟩ := Prod.mk.inj <| Option.some.inj h
        exact .inl ⟨rfl, nofun⟩

theorem handleCreateJobRequest_reply {request : CreateJobRequest}
    (h : handleCreateJobRequest now later uuid reply db provider consumer request =
      some (.ok jobId createdAt, db')) : reply = some (.providerCreateJob .ok) := by
  simp only [handleCreateJobRequest] at h
  split at h <;> try simp at h
  case h_3 =>
    split at h <;> try simp at h
    case isTrue =>
      split at h <;> try simp at h
      case h_2 => rfl

theorem handleCreateJobRequest_accepted {request : CreateJobRequest}
    (h : handleCreateJobRequest now later uuid reply db provider consumer request =
      some (.ok jobId t, db')) : reply = some (.providerCreateJob .ok) := by
  simp only [handleCreateJobRequest] at h
  split at h <;> try simp at h
  split at h <;> try simp at h
  split at h <;> try simp at h
  rfl

theorem providerConfirmJob_error
    (h : providerConfirmJob ext plan now db consumer self jobId jobHash key sig =
      .error (.error e)) (request : ConfirmJobRequest) :
    (e.response request).2 = none ∨ ∃ j hash, db.jobById plan self jobId = some j ∧
      j.job.consumerPeerId = consumer ∧ j.job.signatureConfirmedAtLocal = none ∧
      j.job.reason = none ∧ j.providerHash ext = some hash ∧
      ((e = .hashMismatch j.rowid hash ∧ jobHash ≠ hash) ∨
        (e = .signatureVerificationFailed j.rowid ∧ jobHash = hash ∧
          ∃ publicKey, ext.tryDecodeProtobuf key = some publicKey ∧
            ext.verify publicKey jobHash sig = false)) := by
  simp only [providerConfirmJob, Database.findByJobId] at h
  split at h
  case h_1 => exact .inl <| by cases h; rfl
  case h_2 job hj =>
    obtain ⟨j, hj', rfl⟩ := Option.map_eq_some_iff.mp hj
    split at h
    case isTrue => exact .inl <| by cases h; rfl
    case isFalse hn =>
    split at h
    case isTrue => exact .inl <| by cases h; rfl
    case isFalse hs =>
    split at h
    case isTrue => exact .inl <| by cases h; rfl
    case isFalse =>
    split at h
    case isTrue => exact .inl <| by cases h; rfl
    case isFalse hr =>
    split at h
    case h_2 => cases h
    case h_1 pub t hp ht =>
    have he := Database.jobById_providerJobId hj'
    simp only [JobJoin.record, not_not, Option.not_isSome_iff_eq_none] at hn hs hr hp ht
    have hh : j.providerHash ext =
        some (hashJob ext <| j.hashingPayload pub t (j.job.balanceDelta.map Hex.encodeString)) := by
      simp [JobJoin.providerHash, hp, ht]
    simp only [JobJoin.hashingPayload, he] at hh
    split at h
    case isTrue hm =>
      refine .inr ⟨j, _, hj', hn, hs, hr, hh, .inl ⟨?_, hm⟩⟩
      cases h
      rfl
    case isFalse hm =>
    split at h
    case h_1 => exact .inl <| by cases h; rfl
    case h_2 publicKey hk =>
    split at h
    case isFalse => cases h
    case isTrue hv =>
      refine .inr ⟨j, _, hj', hn, hs, hr, hh, .inr ⟨?_, not_not.mp hm, publicKey, hk, by simpa using hv⟩⟩
      cases h
      rfl

theorem providerConfirmJob_error_row {error : String}
    (h : providerConfirmJob ext plan now db consumer self jobId jobHash key sig =
      .error (.error e)) {request : ConfirmJobRequest}
    (hr : (e.response request).2 = some (k, error)) :
    ∃ j, db.jobById plan self jobId = some j ∧ j.rowid = k := by
  cases providerConfirmJob_error h request
  case inl hn => simp [hr] at hn
  case inr hn =>
    obtain ⟨j, _, hj, _, _, _, _, hm⟩ := hn
    refine ⟨j, hj, ?_⟩
    rcases hm with ⟨rfl, _⟩ | ⟨rfl, _⟩ <;>
      simp only [ProviderConfirmJobError.response, Option.some.injEq, Prod.mk.injEq] at hr
    · exact hr.1
    · exact hr.1

theorem handleConfirmJobRequest_ok {request : ConfirmJobRequest}
    (h : handleConfirmJobRequest ext plan now self db consumer request = (some .ok, db')) :
    providerConfirmJob ext plan now db consumer self request.providerJobId request.jobHash
      request.consumerPublicKey request.consumerSignature = .ok db' := by
  simp only [handleConfirmJobRequest] at h
  split at h
  case h_1 hc => exact hc.trans <| congrArg _ (Prod.mk.inj h).2
  case h_2    => simp at h
  case h_3 e _ =>
    have hn : (e.response request).1 ≠ .ok := by cases e <;> nofun
    split at h
    case h_1 hr =>
      have hr' := Option.some.inj (Prod.mk.inj h).1
      exact absurd hr' (by rwa [hr] at hn)
    case h_2 hr =>
      rw [hr] at hn
      split at h
      case h_2 => simp at h
      all_goals exact absurd (Option.some.inj (Prod.mk.inj h).1) hn

theorem handleConfirmJobRequest_db (request : ConfirmJobRequest) :
    (handleConfirmJobRequest ext plan now self db consumer request).2 =
      ((JobOp.providerConfirm plan now consumer self request.providerJobId request.jobHash
        request.consumerPublicKey request.consumerSignature).exec ext db).1 ∨
    ∃ i error, (handleConfirmJobRequest ext plan now self db consumer request).2 =
      ((JobOp.setConfirmationError i error).exec ext db).1 := by
  simp only [handleConfirmJobRequest, JobOp.exec]
  split
  case h_1 h => simp [h]
  case h_2 h => simp [h]
  case h_3 e h =>
    split
    case h_1 => simp [h]
    case h_2 response i error _ =>
      refine .inr ⟨i, error, ?_⟩
      rcases setJobConfirmationError_cases db i error with ⟨e, _, hs⟩ | ⟨_, _, _, hs⟩
      case inl => cases e <;> simp_all
      case inr => simp [hs]

theorem handleConfirmJobRequest_offerSnapshots (request : ConfirmJobRequest) :
    (handleConfirmJobRequest ext plan now self db consumer request).2.offerSnapshots =
      db.offerSnapshots := by
  cases handleConfirmJobRequest_db request
  case inl h => rw [h, JobOp.exec_offerSnapshots]
  case inr h =>
    obtain ⟨_, _, h⟩ := h
    rw [h, JobOp.exec_offerSnapshots]

theorem handleCreateJobRequest_offerSnapshots {request : CreateJobRequest}
    (h : handleCreateJobRequest now later uuid reply db provider consumer request =
      some (response, db')) : db'.offerSnapshots = db.offerSnapshots := by
  cases handleCreateJobRequest_cases h
  case inl h => rw [h.1]
  case inr h =>
    obtain ⟨_, _, _, _, _, h⟩ := h
    exact createJob_ok h |>.2.1

theorem setJobConfirmationError_exec (ext : External) (db : Database) (i : Rowid) (error : String) :
    (setJobConfirmationError db i error).2 = ((JobOp.setConfirmationError i error).exec ext db).1 := by
  simp only [JobOp.exec]
  split <;> simp_all

theorem confirmJob_exec (ext : External) {job : UnconfirmedJob}
    (h : confirmJob now db job response = some db') :
    db' = db ∨
      (response = some .ok ∧ db' = ((JobOp.consumerConfirm now job.rowid).exec ext db).1) ∨
      ∃ error, db' = ((JobOp.setConfirmationError job.rowid error).exec ext db).1 := by
  simp only [confirmJob] at h
  split at h
  case h_1 =>
    split at h
    case h_1 hc =>
      refine .inr (.inl ⟨rfl, ?_⟩)
      rw [← Option.some.inj h]
      simp only [JobOp.exec, hc]
    case h_2 => exact .inl (Option.some.inj h).symm
    case h_3 => contradiction
  case h_2 => exact .inl (Option.some.inj h).symm
  case h_3 =>
    refine .inr (.inr ⟨(response.getD .unexpectedResponse).debug, ?_⟩)
    rw [← setJobConfirmationError_exec]
    split at h <;> simp_all

end Derouter
