import Derouter.Db.Theorems.Rows
import Derouter.Parties.Effect
import Derouter.ProviderNode.Offers

open Sql Transition

namespace Derouter

variable {ext : External} {self provider : PeerId} {plan : Plan JobJoin} {db db' : Database}

theorem createJob_moves
    (h : createJob now db snapshot consumer currency args jobId createdAt = some (i, db')) :
    db.Moves self db' := by
  have ⟨_, _, _, hr⟩ := createJob_ok h
  exact .created ⟨rfl, rfl, rfl, rfl, rfl, rfl, rfl, rfl⟩ hr

theorem consumerCreateJob_eq_some {request : CreateJobRequest}
    (h : consumerCreateJob now db consumer k request response = some (i, db')) :
    ∃ jobId createdAt, response = .ok jobId createdAt ∧
      createJob now db k consumer request.currency request.jobArgs jobId createdAt =
        some (i, db') := by
  unfold consumerCreateJob at h
  split at h <;> try contradiction
  exact ⟨_, _, rfl, h⟩

theorem consumerCreateJob_moves {request : CreateJobRequest}
    (h : consumerCreateJob now db consumer k request response = some (i, db')) :
    db.Moves self db' := by
  have ⟨_, _, _, h⟩ := consumerCreateJob_eq_some h
  exact createJob_moves h

theorem handleConfirmJobRequest_moves {request : ConfirmJobRequest}
    (h : handleConfirmJobRequest ext plan now self db consumer request = (response, db')) :
    db.Moves self db' := by
  have hd : (handleConfirmJobRequest ext plan now self db consumer request).2 = db' :=
    congrArg Prod.snd h
  cases handleConfirmJobRequest_db request
  case inl h => exact h.symm.trans hd ▸ .exec ext db rfl
  case inr h =>
    have ⟨_, _, h⟩ := h
    exact h.symm.trans hd ▸ .exec ext db trivial

theorem handleCreateJobRequest_moves {request : CreateJobRequest}
    (h : handleCreateJobRequest now later uuid reply db state consumer request =
      some (response, db')) : db.Moves self db' := by
  cases handleCreateJobRequest_cases h
  case inl h => exact .unchanged <| congrArg _ h.1
  case inr h =>
    have ⟨_, _, _, _, _, h⟩ := h
    exact createJob_moves h

theorem confirmJob_ok {job : UnconfirmedJob} (h : confirmJob now db job (some .ok) = some db') :
    ∃ r, db'.serviceJobs.get? job.rowid = some r ∧ r.signatureConfirmedAtLocal.isSome := by
  simp only [confirmJob] at h
  split at h
  case h_1 hc =>
    obtain rfl := Option.some.inj h
    obtain ⟨r, hr, _, _, _, rfl⟩ := consumerConfirmJob_ok hc
    exact ⟨_, Database.updateJob_get?_self hr, rfl⟩
  case h_2 hc =>
    obtain rfl := Option.some.inj h
    exact consumerConfirmJob_alreadyConfirmed hc
  case h_3 => contradiction

theorem confirmJob_moves {job : UnconfirmedJob} (h : confirmJob now db job response = some db') :
    db.Moves self db' := by
  rcases confirmJob_exec .sample h with rfl | ⟨_, rfl⟩ | ⟨_, rfl⟩
  · exact .unchanged rfl
  · exact .exec .sample db trivial
  · exact .exec .sample db trivial

namespace Parties

variable {keypair : ext.Keypair} {s s' : Parties} {l : Label}

theorem moves (h : step ext keypair provider s l s') :
    s.consumer.Moves (ext.peerId keypair) s'.consumer ∧
    s.provider.db.Moves provider s'.provider.db := by
  cases effect h
  case consumerOp hl         => exact ⟨.exec ext s.consumer hl, .unchanged rfl⟩
  case providerOp hl         => exact ⟨.unchanged rfl, .exec ext s.provider.db hl⟩
  case providerOffers ha     => exact ⟨.unchanged rfl, .unchanged <| Node.perform_serviceJobs ha⟩
  case answerCreation hc     => exact ⟨.unchanged rfl, handleCreateJobRequest_moves hc⟩
  case finishCreation hc     => exact ⟨consumerCreateJob_moves hc, .unchanged rfl⟩
  case handleConfirmation hc => exact ⟨.unchanged rfl, handleConfirmJobRequest_moves hc⟩
  case finishConfirmation hc => exact ⟨confirmJob_moves hc, .unchanged rfl⟩
  all_goals exact ⟨.unchanged rfl, .unchanged rfl⟩

end Parties
end Derouter
