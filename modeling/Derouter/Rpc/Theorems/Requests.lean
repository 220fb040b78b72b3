import Derouter.Db.Theorems.JobOp
import Derouter.Rpc.Requests

open Sql

namespace Derouter

variable {ext : External} {keypair : ext.Keypair} {plan : Plan JobJoin} {now : DateTime}
variable {db : Database} {provider : PeerId} {jobId : String}

-- The handlers of the requests that end a job run the operation. None of them panics.

theorem handleFailJobRequest_db (ext : External) :
    (handleFailJobRequest plan now db provider jobId why cls priv).2 =
      ((JobOp.fail plan now provider jobId why cls priv).exec ext db).1 := by
  simp only [handleFailJobRequest, JobOp.exec]
  split <;> simp_all

theorem handleFailJobRequest_isSome :
    (handleFailJobRequest plan now db provider jobId why cls priv).1.isSome := by
  simp only [handleFailJobRequest]
  split <;> try rfl
  case h_5 h =>
    simp only [failJob] at h
    repeat' split at h
    all_goals cases h

theorem handleFailJobRequest_jobNotFound_iff :
    (handleFailJobRequest plan now db provider jobId why cls priv).1 = some .jobNotFound ↔
      db.jobById plan provider jobId = none := by
  cases hj : db.jobById plan provider jobId
  case none => simp [handleFailJobRequest, failJob, hj]
  case some j =>
    simp only [handleFailJobRequest, failJob, hj]
    cases hr : j.job.reason
    case some   => simp
    case none   => cases hc : j.job.completedAtLocal <;> simp

theorem handleConsumerCompleteJobRequest_db :
    (handleConsumerCompleteJobRequest ext keypair plan now db provider jobId pub priv delta t).2 =
      ((JobOp.consumerComplete plan now (ext.peerId keypair) provider jobId delta pub priv t
        (ext.sign keypair)).exec ext db).1 := by
  simp only [handleConsumerCompleteJobRequest, JobOp.exec]
  split <;> simp_all

theorem handleConsumerCompleteJobRequest_isSome :
    (handleConsumerCompleteJobRequest ext keypair plan now db provider jobId pub priv delta
      t).1.isSome := by
  simp only [handleConsumerCompleteJobRequest]
  split <;> try rfl
  case h_7 h =>
    simp only [consumerCompleteJob] at h
    repeat' split at h
    all_goals cases h

theorem handleProviderCompleteJobRequest_db :
    (handleProviderCompleteJobRequest ext plan now db provider jobId delta pub priv).2 =
      ((JobOp.providerComplete plan now provider jobId delta priv pub).exec ext db).1 := by
  simp only [handleProviderCompleteJobRequest, JobOp.exec]
  split
  case h_1 h =>
    rw [h]
    split <;> rfl
  all_goals simp_all

theorem providerCompleteJob_ne_panic :
    providerCompleteJob ext plan now db provider jobId delta priv pub ≠ .panic := by
  intro h
  simp only [providerCompleteJob] at h
  split at h
  case h_1 => cases h
  case h_2 j hj =>
    split at h
    case h_1 => cases h
    case h_2 => cases h
    case h_3 =>
    split at h
    case isTrue => cases h
    case isFalse =>
    split at h
    case h_2 => cases h
    case h_1 hn =>
      have hr := Database.updateJob_get?_self (u := .providerComplete now delta priv pub)
        (Database.jobById_row hj)
      obtain ⟨_, _, hf⟩ := Database.findByRowid_of_row hr
      simp [hn] at hf

theorem handleProviderCompleteJobRequest_isSome :
    (handleProviderCompleteJobRequest ext plan now db provider jobId delta pub priv).1.isSome := by
  simp only [handleProviderCompleteJobRequest]
  split <;> try rfl
  case h_1 record h =>
    obtain ⟨_, _, _, _, _, rfl, _⟩ := providerCompleteJob_ok h
    rfl
  case h_6 h => exact absurd h providerCompleteJob_ne_panic

theorem handleProviderCompleteJobRequest_jobNotFound_iff :
    (handleProviderCompleteJobRequest ext plan now db provider jobId delta pub priv).1 =
      some .jobNotFound ↔ db.jobById plan provider jobId = none := by
  constructor
  case mpr =>
    intro hj
    simp [handleProviderCompleteJobRequest, providerCompleteJob, hj]
  case mp =>
    intro h
    simp only [handleProviderCompleteJobRequest] at h
    split at h
    case h_1    => split at h <;> simp at h
    case h_2 hc =>
      simp only [providerCompleteJob] at hc
      split at hc
      case h_1 hj => exact hj
      case h_2 =>
        repeat' split at hc
        all_goals cases hc
    all_goals simp at h

theorem handleJobsQueryRequest_eq_none_iff :
    handleJobsQueryRequest plan db cursor ps qs cs limit = none ↔
      1 ≤ limit ∧ limit ≤ 100 ∧ cursor = none ∧ ps = none ∧ qs = none ∧ cs = none := by
  simp only [handleJobsQueryRequest]
  split
  case isTrue h =>
    refine iff_of_false (by simp) fun hn => ?_
    omega
  case isFalse h =>
    rw [Option.map_eq_none_iff, queryJobs_eq_none_iff]
    exact ⟨fun hn => ⟨by omega, by omega, hn⟩, fun hn => hn.2.2⟩

theorem handleProvidersQueryRequest_eq_none_iff {plan : Plan (Rowid × PeerRow)} {ids : List PeerId} :
    handleProvidersQueryRequest plan db ids = none ↔
      ids.length ≤ 100 ∧ ∃ i r, db.peers.get? i = some r ∧ r.peerId ∈ ids ∧
        (r.ourProviderUpdatedAt = none ∨ r.ourLatestHeartbeatTimestamp = none) := by
  simp only [handleProvidersQueryRequest]
  split
  case isTrue h  => exact iff_of_false (by simp) fun hn => absurd hn.1 (by omega)
  case isFalse h =>
    rw [Option.map_eq_none_iff, queryProvidersByPeerId_eq_none_iff]
    exact (and_iff_right (by omega)).symm

end Derouter
