import Derouter.P2p.Theorems.Reqres

open Sql

namespace Derouter

-- What the protocol says that a Provider has checked when it answers `AlreadyConfirmed`: the request
-- carries the hash of the row, and a valid signature of that hash.
structure ConfirmJobRequest.Valid (ext : External) (j : JobJoin) (request : ConfirmJobRequest) :
    Prop where
  hash      : j.providerHash ext = some request.jobHash
  signature : ∃ key, ext.tryDecodeProtobuf request.consumerPublicKey = some key ∧
    ext.verify key request.jobHash request.consumerSignature = true

-- The row that a request finds is a confirmed job of its sender.
structure ConfirmJobRequest.Repeats (plan : Plan JobJoin) (ourPeerId : PeerId) (db : Database)
    (consumer : PeerId) (request : ConfirmJobRequest) (j : JobJoin) : Prop where
  found          : db.jobById plan ourPeerId request.providerJobId = some j
  consumerPeerId : j.job.consumerPeerId = consumer
  confirmed      : j.job.signatureConfirmedAtLocal.isSome = true

-- The Provider answers `AlreadyConfirmed` to valid requests for confirmed rows only.
def ConfirmJobRequest.ConfirmedIsValid (ext : External) (plan : Plan JobJoin) (now : DateTime)
    (ourPeerId : PeerId) (db : Database) (consumer : PeerId) (request : ConfirmJobRequest) : Prop :=
  (handleConfirmJobRequest ext plan now ourPeerId db consumer request).1 = some .alreadyConfirmed →
    ∃ j, db.jobById plan ourPeerId request.providerJobId = some j ∧
      j.job.signatureConfirmedAtLocal.isSome = true ∧ request.Valid ext j

variable {ext : External} {plan : Plan JobJoin} {now : DateTime} {db : Database}
variable {self consumer : PeerId} {request : ConfirmJobRequest}

-- The confirmation stops at a confirmed row before it looks at the hash, the key or the signature.
theorem providerConfirmJob_alreadyConfirmed_iff {jobHash key sig : List UInt8} :
    providerConfirmJob ext plan now db consumer self jobId jobHash key sig = .err .alreadyConfirmed ↔
      ∃ j, db.jobById plan self jobId = some j ∧ j.job.consumerPeerId = consumer ∧
        j.job.signatureConfirmedAtLocal.isSome = true := by
  constructor
  case mp =>
    intro h
    simp only [providerConfirmJob, Database.findByJobId] at h
    split at h
    case h_1 => cases h
    case h_2 job hj =>
      obtain ⟨j, hj', rfl⟩ := Option.map_eq_some_iff.mp hj
      split at h
      case isTrue => cases h
      case isFalse hn =>
      split at h
      case isTrue hs => exact ⟨j, hj', not_not.mp hn, hs⟩
      case isFalse   =>
      split at h
      case isTrue  => cases h
      case isFalse =>
      split at h
      case isTrue  => cases h
      case isFalse =>
      split at h
      case h_2 => cases h
      case h_1 =>
      split at h
      case isTrue  => cases h
      case isFalse =>
      split at h
      case h_1 => cases h
      case h_2 => split at h <;> cases h
  case mpr =>
    intro h
    obtain ⟨j, hj, hn, hs⟩ := h
    simp [providerConfirmJob, Database.findByJobId, hj, JobJoin.record, hn, hs]

theorem ProviderConfirmJobError.response_alreadyConfirmed_iff (e : ProviderConfirmJobError) :
    (e.response request).1 = .alreadyConfirmed ↔ e = .alreadyConfirmed := by
  cases e <;> simp [response]

theorem handleConfirmJobRequest_alreadyConfirmed_iff :
    (handleConfirmJobRequest ext plan now self db consumer request).1 = some .alreadyConfirmed ↔
      ∃ j, request.Repeats plan self db consumer j := by
  have hr : (∃ j, request.Repeats plan self db consumer j) ↔
      providerConfirmJob ext plan now db consumer self request.providerJobId request.jobHash
        request.consumerPublicKey request.consumerSignature = .err .alreadyConfirmed := by
    rw [providerConfirmJob_alreadyConfirmed_iff]
    exact exists_congr fun j => ⟨fun ⟨h₁, h₂, h₃⟩ => ⟨h₁, h₂, h₃⟩, fun ⟨h₁, h₂, h₃⟩ => ⟨h₁, h₂, h₃⟩⟩
  rw [hr]
  simp only [handleConfirmJobRequest]
  split
  case h_1 hc => simp [hc]
  case h_2 hc => simp [hc]
  case h_3 e hc =>
    have he : (e.response request).1 = .alreadyConfirmed ↔ e = .alreadyConfirmed :=
      e.response_alreadyConfirmed_iff
    rw [hc]
    split
    case h_1 hs => simp_all
    case h_2 hs =>
      -- The answers that follow a stored error are those of the hash and of the signature.
      have hn : e ≠ .alreadyConfirmed := by
        rintro rfl
        cases hs
      split <;> simp_all

-- Exactly the requests that do not repeat the confirmation of a row with other terms have the
-- documented answer.
theorem confirmedIsValid_iff_repeats_valid :
    request.ConfirmedIsValid ext plan now self db consumer ↔
      ∀ j, request.Repeats plan self db consumer j → request.Valid ext j := by
  simp only [ConfirmJobRequest.ConfirmedIsValid, handleConfirmJobRequest_alreadyConfirmed_iff]
  constructor
  case mp =>
    intro h j hj
    obtain ⟨j', hf, _, hv⟩ := h ⟨j, hj⟩
    obtain rfl := Option.some.inj <| hj.found.symm.trans hf
    exact hv
  case mpr =>
    intro h hr
    obtain ⟨j, hj⟩ := hr
    exact ⟨j, hj.found, hj.confirmed, h j hj⟩

-- A confirmed job of the peer 1 at the Provider 0, and the same peer's confirmation of other terms.
def confirmedSample : Database :=
  [
    .create 0 1 ⟨[1]⟩ .polygon none "job" 0,
    .providerComplete .scan 0 ⟨[0]⟩ "job" none none "done",
    .providerConfirm .scan 0 ⟨[1]⟩ ⟨[0]⟩ "job" (hashJob .sample signedSample) [1]
      (1 :: hashJob .sample signedSample)
  ].foldl (fun db op => (JobOp.exec .sample db op).1) <| .ofOffer ⟨[0]⟩ "offer" "protocol" "payload"
where
  signedSample : JobHashingPayload := {
    consumerPeerId     := ⟨[1]⟩
    providerPeerId     := ⟨[0]⟩
    protocolId         := "protocol"
    offerPayload       := "payload"
    currency           := Currency.polygon.code
    providerJobId      := "job"
    jobCreatedAtSync   := 0
    jobPublicPayload   := "done"
    jobCompletedAtSync := 0
    balanceDelta       := none
  }

theorem not_confirmedIsValid :
    ¬ConfirmJobRequest.ConfirmedIsValid .sample .scan 1 ⟨[0]⟩ confirmedSample ⟨[1]⟩
      ⟨"job", [], [1], []⟩ := by
  intro h
  have hc : (handleConfirmJobRequest .sample .scan 1 ⟨[0]⟩ confirmedSample ⟨[1]⟩
      ⟨"job", [], [1], []⟩).1 = some .alreadyConfirmed := by decide +kernel
  obtain ⟨j, hj, _, hv⟩ := h hc
  have hd : (confirmedSample.jobById .scan ⟨[0]⟩ "job").all
      (fun j => decide (j.providerHash .sample ≠ some [])) = true := by decide +kernel
  rw [hj, Option.all_some, decide_eq_true_iff] at hd
  exact hd hv.hash

end Derouter
