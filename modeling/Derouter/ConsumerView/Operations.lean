import Derouter.ConsumerView.Rows

open Sql

namespace Derouter

variable {ext : External} {db db' : Database} {self consumer provider : PeerId} {t : JobContent}
variable {plan : Plan JobJoin} {now : DateTime}

-- When the operations update the job that they find.
namespace JobContent

def failed (now : DateTime) (reason : String) (reasonClass : Option Int)
    (privatePayload : Option String) (t : JobContent) : Option JobUpdate :=
  if t.job.reason.isNone && t.job.completedAtLocal.isNone then
    some <| .fail now reason reasonClass privatePayload
  else
    none

def providerHash (ext : External) (t : JobContent) : Option (List UInt8) :=
  JobJoin.providerHash ext ⟨0, t.job, t.snapshot⟩

-- How a Provider answers a request for confirmation, by the job that it finds.
def confirmed (ext : External) (now : DateTime) (fromPeerId : PeerId) (request : ConfirmJobRequest)
    (t : JobContent) : Option ConfirmJobResponse × Option JobUpdate :=
  if t.job.consumerPeerId ≠ fromPeerId then
    (some .jobNotFound, none)
  else if t.job.signatureConfirmedAtLocal.isSome then
    (some .alreadyConfirmed, none)
  else if t.job.completedAtSync.isNone then
    (some .notCompletedYet, none)
  else if t.job.reason.isSome then
    (some .alreadyFailed, none)
  else
    match t.providerHash ext with
    | none => (none, none)
    | some expectedHash =>
      if request.jobHash ≠ expectedHash then
        (some <| .hashMismatch expectedHash, some <| .setConfirmationError <|
          "Hash mismatch (got " ++ Hex.encode request.jobHash ++
            ", expected " ++ Hex.encode expectedHash ++ ")")
      else
        match ext.tryDecodeProtobuf request.consumerPublicKey with
        | none => (some .invalidPublicKey, none)
        | some publicKey =>
          if !ext.verify publicKey request.jobHash request.consumerSignature then
            (some .invalidSignature, some <| .setConfirmationError "Signature verification failed")
          else
            (some .ok, some <| .providerConfirm now request.consumerSignature)

end JobContent

namespace JobContent

variable {u : JobUpdate}

theorem confirmed_eq_some {request : ConfirmJobRequest}
    (h : (t.confirmed ext now consumer request).2 = some u) :
    u.Portable ∧ t.job.consumerPeerId = consumer := by
  simp only [confirmed] at h
  split at h <;> try contradiction
  case _ hc =>
  refine ⟨?_, not_not.mp hc⟩
  split at h <;> try contradiction
  split at h <;> try contradiction
  split at h <;> try contradiction
  split at h <;> try contradiction
  split at h
  case isTrue => exact Option.some.inj h ▸ .setConfirmationError
  case isFalse =>
  split at h <;> try contradiction
  split at h
  case isTrue  => exact Option.some.inj h ▸ .setConfirmationError
  case isFalse => exact Option.some.inj h ▸ .providerConfirm

end JobContent

namespace JobJoin

variable {j : JobJoin}

@[simp]
theorem providerHash_content : j.content.providerHash ext = j.providerHash ext :=
  rfl

@[simp]
theorem consumerPeerId_content : j.content.job.consumerPeerId = j.job.consumerPeerId :=
  rfl

@[simp]
theorem reason_content : j.content.job.reason = j.job.reason :=
  rfl

@[simp]
theorem completedAtSync_content : j.content.job.completedAtSync = j.job.completedAtSync :=
  rfl

@[simp]
theorem signatureConfirmedAtLocal_content :
    j.content.job.signatureConfirmedAtLocal = j.job.signatureConfirmedAtLocal :=
  rfl

end JobJoin

theorem handleConfirmJobRequest_amend (request : ConfirmJobRequest) :
    handleConfirmJobRequest ext plan now self db consumer request =
      (match db.jobById plan self request.providerJobId with
        | none   => some .jobNotFound
        | some j => (j.content.confirmed ext now consumer request).1,
        db.amend plan self request.providerJobId
          fun t => (t.confirmed ext now consumer request).2) := by
  simp only [handleConfirmJobRequest, providerConfirmJob, Database.findByJobId, Database.amend]
  cases hj : db.jobById plan self request.providerJobId
  case none   => rfl
  case some j =>
    have hi := Database.jobById_providerJobId hj
    have hr := Database.jobById_row hj
    have he (h : j.job.signatureConfirmedAtLocal = none) (error : String) :
        setJobConfirmationError db j.rowid error =
          (.ok, db.updateJob j.rowid (.setConfirmationError error)) := by
      simp [setJobConfirmationError, hr, h]
    simp only [Option.map_some, JobContent.confirmed, JobJoin.record]
    by_cases hc : j.job.consumerPeerId = consumer
    case neg => simp [hc, ProviderConfirmJobError.response]
    subst hc
    cases hs : j.job.signatureConfirmedAtLocal
    case some => simp [hs, ProviderConfirmJobError.response]
    cases ht : j.job.completedAtSync
    case none => simp [hs, ht, ProviderConfirmJobError.response]
    case some completedAt =>
    cases hf : j.job.reason
    case some => simp [hs, ht, hf, ProviderConfirmJobError.response]
    cases hp : j.job.publicPayload
    case none => simp [hs, ht, hf, hp, JobJoin.providerHash]
    case some pub =>
    obtain ⟨expected, hd⟩ : ∃ expected, hashJob ext (j.hashingPayload pub completedAt
      (j.job.balanceDelta.map Hex.encodeString)) = expected := ⟨_, rfl⟩
    have hh : j.providerHash ext = some expected := by simp only [JobJoin.providerHash, hp, ht, hd]
    rw [JobJoin.hashingPayload, hi] at hd
    simp only [hs, ht, hf, hh, hd, Option.isSome_none, Option.isNone_some, ne_eq,
      not_true_eq_false, if_false, Bool.false_eq_true, JobJoin.consumerPeerId_content,
      JobJoin.signatureConfirmedAtLocal_content, JobJoin.completedAtSync_content,
      JobJoin.reason_content, JobJoin.providerHash_content]
    by_cases hj : request.jobHash = expected
    case neg => simp [hj, ProviderConfirmJobError.response, he hs]
    case pos =>
      cases hk : ext.tryDecodeProtobuf request.consumerPublicKey
      case none => simp [hj, ProviderConfirmJobError.response]
      case some publicKey =>
        by_cases hv : ext.verify publicKey expected request.consumerSignature = true
        case pos => simp [hj, hv]
        case neg => simp [hj, hv, ProviderConfirmJobError.response, he hs]

end Derouter
