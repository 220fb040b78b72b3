import Derouter.ProviderNode.Offers

open Sql Transition

namespace Derouter

-- The stored signature of a job verifies the hash of its terms under a key of its Consumer.
def JobJoin.Evidence (ext : External) (j : JobJoin) : Prop :=
  ∃ signature hash key, j.job.consumerSignature = some signature ∧ j.providerHash ext = some hash ∧
    ext.toPeerId key = j.job.consumerPeerId ∧ ext.verify key hash signature = true

-- A job that this node provides is confirmed only with such an evidence.
def JobJoin.Bound (ext : External) (self : PeerId) (j : JobJoin) : Prop :=
  j.snapshot.providerPeerId = self → j.job.signatureConfirmedAtLocal.isSome → j.Evidence ext

def Database.SignaturesBound (ext : External) (self : PeerId) (db : Database) : Prop :=
  ∀ j ∈ db.joined, j.Bound ext self

variable {ext : External} {self : PeerId} {db db' : Database} {plan : Plan JobJoin}

namespace JobJoin

variable {j j' : JobJoin}

theorem Evidence.congr (h : j.Evidence ext) (ht : j.job.SameTerms j'.job)
    (hk : j.snapshot.SameKey j'.snapshot)
    (hs : j'.job.consumerSignature = j.job.consumerSignature) : j'.Evidence ext := by
  have ⟨signature, hash, key, hc, hh, hp, hv⟩ := h
  exact ⟨signature, hash, key, hs ▸ hc, providerHash_congr ht hk ▸ hh, ht.consumerPeerId ▸ hp, hv⟩

theorem Bound.congr (h : j.Bound ext self) (ht : j.job.SameTerms j'.job)
    (hk : j.snapshot.SameKey j'.snapshot)
    (hs : j'.job.consumerSignature = j.job.consumerSignature)
    (hc : j'.job.signatureConfirmedAtLocal = j.job.signatureConfirmedAtLocal) :
    j'.Bound ext self := by
  intro hp hj
  exact h (hk.sameOffer.1.trans hp) (hc ▸ hj) |>.congr ht hk hs

theorem Bound.of_unconfirmed (h : j.job.signatureConfirmedAtLocal = none) : j.Bound ext self := by
  intro _ hj
  simp [h] at hj

end JobJoin

namespace Database.SignaturesBound

theorem updateJob {u : JobUpdate} (h : db.SignaturesBound ext self)
    (hu : ∀ r s, db.serviceJobs.get? i = some r → JobJoin.Bound ext self ⟨i, r, s⟩ →
      JobJoin.Bound ext self ⟨i, u.set r, s⟩) : (db.updateJob i u).SignaturesBound ext self := by
  intro ⟨k, r', s⟩ hj
  obtain ⟨r, hr, ⟨rfl, rfl⟩ | ⟨_, rfl⟩⟩ := mem_joined_updateJob hj
  · exact hu r s (mem_joined_iff.mp hr).1 (h _ hr)
  · exact h _ hr

theorem upsert (h : db.SignaturesBound ext self) (hu : Derouter.upsert choice db p o q l = some (i, db')) :
    db'.SignaturesBound ext self := by
  intro j hj
  have ⟨s, hs, hk⟩ := upsert_joined hu hj
  exact h _ hs |>.congr ⟨rfl, rfl, rfl, rfl, rfl, rfl, rfl⟩ hk rfl rfl

theorem createJob (h : db.SignaturesBound ext self)
    (hc : createJob now db snapshot consumer currency args jobId createdAt = some (i, db')) :
    db'.SignaturesBound ext self := by
  have ⟨_, hs, _, hr⟩ := createJob_ok hc
  intro j hj
  rcases mem_joined_insert hr hs hj with hj | ⟨_, hj⟩
  · exact h _ hj
  · exact .of_unconfirmed <| hj ▸ rfl

theorem fail (h : db.SignaturesBound ext self) :
    ((JobOp.fail plan now provider jobId reason cls priv).exec ext db).1.SignaturesBound ext self := by
  simp only [JobOp.exec]
  split
  case h_2 => exact h
  case h_1 hf =>
    obtain ⟨j, _, _, _, rfl⟩ := failJob_ok hf
    refine h.updateJob fun r s _ hb => ?_
    exact hb.congr ⟨rfl, rfl, rfl, rfl, rfl, rfl, rfl⟩ ⟨⟨rfl, rfl, rfl⟩, rfl⟩ rfl rfl

theorem setConfirmationError (h : db.SignaturesBound ext self) :
    ((JobOp.setConfirmationError i error).exec ext db).1.SignaturesBound ext self := by
  simp only [JobOp.exec]
  rcases setJobConfirmationError_cases db i error with ⟨e, _, he⟩ | ⟨_, _, _, he⟩
  case inl => cases e <;> simp only [he] <;> exact h
  case inr =>
    rw [he]
    refine h.updateJob fun r s _ hb => ?_
    exact hb.congr ⟨rfl, rfl, rfl, rfl, rfl, rfl, rfl⟩ ⟨⟨rfl, rfl, rfl⟩, rfl⟩ rfl rfl

-- A confirmed job has its synchronized completion time, so its terms cannot be set once more.
theorem providerComplete (h : db.SignaturesBound ext self) :
    ((JobOp.providerComplete plan now provider jobId delta priv pub).exec ext
      db).1.SignaturesBound ext self := by
  simp only [JobOp.exec]
  split
  case h_2 => exact h
  case h_1 hf =>
    obtain ⟨j, hj, _, hc, _, _, rfl⟩ := providerCompleteJob_ok hf
    refine h.updateJob fun r s hr hb hp hs => ?_
    obtain ⟨_, _, _, _, hh, _⟩ := hb hp hs
    obtain rfl := Option.some.inj <| hr.symm.trans <| jobById_row hj
    have ht := JobJoin.providerHash_isSome hh |>.2
    simp [hc] at ht

theorem providerConfirm (h : db.SignaturesBound ext self)
    (hk : ∀ j k, db.jobById plan self jobId = some j → j.job.consumerPeerId = consumer →
      j.job.signatureConfirmedAtLocal = none → j.job.reason = none →
      j.providerHash ext = some jobHash → ext.tryDecodeProtobuf key = some k →
      ext.verify k jobHash signature = true → ext.toPeerId k = consumer) :
    ((JobOp.providerConfirm plan now consumer self jobId jobHash key signature).exec ext
      db).1.SignaturesBound ext self := by
  simp only [JobOp.exec]
  split
  case h_2 => exact h
  case h_1 hf =>
    obtain ⟨j, k, hj, hc, hs, hr, hh, hd, hv, rfl⟩ := providerConfirmJob_ok hf
    have hp := hk j k hj hc hs hr hh hd hv
    rintro ⟨i, r', s⟩ hm
    obtain ⟨r, hr', ⟨hi, hu⟩ | ⟨_, rfl⟩⟩ := mem_joined_updateJob hm
    case inr => exact h _ hr'
    case inl =>
      -- The row that was found is the row that is updated.
      obtain ⟨hr', hs'⟩ := mem_joined_iff.mp hr'
      simp only at hi hu hr' hs'
      obtain rfl := Option.some.inj <| hr'.symm.trans <| hi ▸ jobById_row hj
      obtain rfl := Option.some.inj <| hs'.symm.trans <| jobById_snapshot hj
      subst hi hu
      refine fun _ _ => ⟨signature, jobHash, k, rfl, ?_, hp.trans hc.symm, hv⟩
      rw [← hh]
      exact JobJoin.providerHash_congr ⟨rfl, rfl, rfl, rfl, rfl, rfl, rfl⟩ ⟨⟨rfl, rfl, rfl⟩, rfl⟩

end Database.SignaturesBound

private theorem JobJoin.Evidence.of_sample {j : JobJoin} (h : j.Evidence .sample) :
    j.job.consumerSignature =
      (j.providerHash .sample).map (j.job.consumerPeerId.toBytes ++ ·) := by
  have ⟨signature, hash, key, hs, hh, hp, hv⟩ := h
  rw [hs, hh, ← hp]
  exact congrArg some <| eq_of_beq hv

namespace Node

-- A confirmation that passes all checks, with a key that is not the one of the requesting peer.
def Action.ForeignKey (ext : External) (self : PeerId) (node : Node) : Action → Prop
  | .confirmJob plan _ fromPeerId request => ∃ j key,
    node.db.jobById plan self request.providerJobId = some j ∧
    j.job.consumerPeerId = fromPeerId ∧
    j.job.signatureConfirmedAtLocal = none ∧
    j.job.reason = none ∧
    j.providerHash ext = some request.jobHash ∧
    ext.tryDecodeProtobuf request.consumerPublicKey = some key ∧
    ext.verify key request.jobHash request.consumerSignature = true ∧
    ext.toPeerId key ≠ fromPeerId
  | _ => False

variable {node : Node} {action : Action}

theorem signaturesBound_perform (h : node.db.SignaturesBound ext self)
    (hk : ¬action.ForeignKey ext self node) :
    (node.perform ext self action).db.SignaturesBound ext self := by
  cases action
  case provide plan now c request =>
    have hc : handleProviderProvideRequest plan now self node c request =
      (_, node.perform ext self (.provide plan now c request)) := rfl
    rcases handleProviderProvideRequest_cases hc with ⟨hd, _⟩ | ⟨_, _, hu, _⟩
    · exact hd ▸ h
    · exact h.upsert hu
  case close   => rwa [perform, closeConnection_db]
  case restart => exact h
  case createJob =>
    simp only [perform]
    split
    case h_2 => exact h
    case h_1 hc =>
      rcases handleCreateJobRequest_cases hc with ⟨rfl, _⟩ | ⟨_, _, _, _, _, hc⟩
      · exact h
      · exact h.createJob hc
  case providerCompleteJob => exact h.providerComplete
  case failJob             => exact h.fail
  case confirmJob plan now fromPeerId request =>
    simp only [perform]
    rcases handleConfirmJobRequest_db request with he | ⟨_, _, he⟩ <;> rw [he]
    case inr => exact h.setConfirmationError
    case inl =>
      refine h.providerConfirm fun j k h₁ h₂ h₃ h₄ h₅ h₆ h₇ => ?_
      exact not_imp_comm.mp (fun hp => ⟨j, k, h₁, h₂, h₃, h₄, h₅, h₆, h₇, hp⟩) hk

-- In every run in which no confirmation passes with a foreign key, the confirmed jobs of this node
-- store signatures of their Consumers.
theorem signaturesBound_of_run {tr : List (Node × Action)} {node : Node} (hj : db.serviceJobs = ∅)
    (r : Run (step ext self) (start db now) tr node)
    (h : Meets (fun node action => ¬action.ForeignKey ext self node) tr) :
    node.db.SignaturesBound ext self := by
  refine r.invariant_of_meets (I := (·.db.SignaturesBound ext self)) h ?_ fun _ _ _ hi hc hs => ?_
  · intro j hm
    have ⟨hr, _⟩ := Database.mem_joined_iff.mp hm
    simp [start, hj] at hr
  · exact Option.some.inj hs ▸ signaturesBound_perform hi hc

-- The terms of a job that the peer 1 has created at the node 0.
private def signedTerms : JobHashingPayload where
  consumerPeerId     := ⟨[1]⟩
  providerPeerId     := ⟨[0]⟩
  protocolId         := "protocol"
  offerPayload       := "payload"
  currency           := "POL"
  providerJobId      := "job"
  jobCreatedAtSync   := 0
  jobPublicPayload   := "done"
  jobCompletedAtSync := 0
  balanceDelta       := none

-- The job is created, completed, and confirmed with a key of the peer `signer`.
private def confirmSample (signer : UInt8) : List Action := [
  .provide .scan 0 0 ⟨"protocol", "offer", "payload"⟩,
  .createJob 0 0 "job" (some <| .providerCreateJob .ok) ⟨[1]⟩
    ⟨"protocol", "offer", "payload", .polygon, none⟩,
  .providerCompleteJob .scan 0 ⟨[0]⟩ "job" none none "done",
  .confirmJob .scan 0 ⟨[1]⟩
    ⟨"job", hashJob .sample signedTerms, [signer], signer :: hashJob .sample signedTerms⟩
]

-- The node after the run, and the run that leads there.
private def confirmed (signer : UInt8) : Node :=
  (confirmSample signer).foldl (perform .sample ⟨[0]⟩) (start ∅ 0)

private theorem confirmed_run (signer : UInt8) :
    ∃ tr, Run (step .sample ⟨[0]⟩) (start ∅ 0) tr (confirmed signer) ∧
      tr.map (·.2) = confirmSample signer :=
  Run.foldl _ _ _

theorem signaturesBound_of_run_sample : ∃ tr node, Run (step .sample ⟨[0]⟩) (start ∅ 0) tr node ∧
    (node.db.joined.any fun j => j.job.signatureConfirmedAtLocal.isSome) = true ∧
    node.db.SignaturesBound .sample ⟨[0]⟩ := by
  have ⟨tr, r, ht⟩ := confirmed_run 1
  refine ⟨tr, _, r, by decide +kernel, signaturesBound_of_run rfl r <| .of_labels ht ?_⟩
  simp only [confirmSample, List.forall_mem_cons, List.not_mem_nil, false_imp_iff, implies_true,
    and_true]
  refine ⟨fun _ => id, fun _ => id, fun _ => id, fun _ ⟨_, _, _, _, _, _, _, hk, _, hp⟩ => ?_⟩
  exact hp <| Option.some.inj hk |>.symm

-- The peer 1 confirms its job with a key of the peer 2.
theorem not_signaturesBound : ¬∀ (ext : External) (self : PeerId) (now : DateTime)
    (tr : List (Node × Action)) (node : Node), Run (step ext self) (start ∅ now) tr node →
    node.db.SignaturesBound ext self := by
  intro h
  have ⟨tr, r, _⟩ := confirmed_run 2
  have hb : ∀ j ∈ (confirmed 2).db.joined, j.snapshot.providerPeerId = ⟨[0]⟩ →
      j.job.signatureConfirmedAtLocal.isSome → j.job.consumerSignature =
        (j.providerHash .sample).map (j.job.consumerPeerId.toBytes ++ ·) :=
    fun j hj hp hs => JobJoin.Evidence.of_sample <| h _ _ _ _ _ r j hj hp hs
  exact absurd hb (by decide +kernel)

end Node
end Derouter
