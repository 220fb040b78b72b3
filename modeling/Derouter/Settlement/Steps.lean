import Derouter.Settlement.Rows

open Sql Transition

namespace Derouter

variable {ext : External} {keypair : ext.Keypair} {consumer provider : PeerId} {db : Database}

theorem ProviderState.holds_of_findOffer {s : ProviderState} {offer : FoundProvidedOffer}
    (h : s.findOffer p o = some (some offer)) : s.Holds p o offer.provided := by
  simp only [findOffer] at h
  split at h
  case h_1 => simp at h
  case h_2 =>
    split at h <;> try contradiction
    case _ hp =>
    obtain ⟨m, hm, ho⟩ := Option.bind_eq_some_iff.mp hp
    obtain rfl := Option.some.inj <| Option.some.inj h
    exact ⟨_, m, hm, ho⟩

theorem handleCreateJobRequest_serves {node : Node} {request : CreateJobRequest}
    (ho : node.OffersActive provider)
    (h : handleCreateJobRequest now later uuid reply node.db node.provider consumer request =
      some (.ok jobId t, db)) :
    db.Serves consumer provider jobId fun j => j.job.currency = request.currency ∧
      j.job.createdAtSync = t ∧ j.snapshot.protocolId = request.protocolId ∧
      j.snapshot.protocolPayload = request.offerPayload := by
  cases handleCreateJobRequest_cases h
  case inl h => exact absurd rfl (h.2 jobId t)
  case inr h =>
    obtain ⟨offer, i, hf, hp, hr, hc⟩ := h
    obtain ⟨rfl, rfl⟩ := CreateJobResponse.ok.inj hr
    obtain ⟨hs, _⟩ := ho _ _ _ <| ProviderState.holds_of_findOffer hf
    obtain ⟨_, he, _, hj⟩ := createJob_ok hc
    have hj := congrArg (·.get? node.db.serviceJobs.nextRowid) hj
    simp only [Table.get?_insert] at hj
    have hm : ⟨_, _, _⟩ ∈ db.joined := Database.mem_joined_iff.mpr ⟨hj, he ▸ hs⟩
    exact ⟨_, Database.mem_jobsById_iff.mpr ⟨hm, rfl, rfl⟩, rfl, rfl, rfl, rfl, hp⟩

namespace Parties

variable {s s' : Parties} {l : Label} {j j' : JobJoin} {jobId : String}

theorem consumer_cases (h : step ext keypair provider s l s') :
    s'.consumer = s.consumer ∨ ∃ op : JobOp, op.Local (ext.peerId keypair) ∧
      s'.consumer = (op.exec ext s.consumer).1 ∧ (l = .consumerOp op ∨ (¬op.CompletesAsConsumer ∧
        (op.Creates → ∃ now i request row jobId t,
          .answered i request (.ok jobId t) row ∈ s.creations ∧ op = .create now i
            (ext.peerId keypair) request.currency request.jobArgs jobId t))) := by
  cases effect h
  case consumerOp op hl => exact .inr ⟨op, hl, rfl, .inl rfl⟩
  case finishCreation now i request response _ _ row hk hc =>
    obtain ⟨jobId, t, rfl, hj⟩ := consumerCreateJob_eq_some hc
    refine .inr ⟨.create now i (ext.peerId keypair) request.currency request.jobArgs jobId t,
      trivial, ?_, .inr ⟨id, fun _ => ⟨now, i, request, row, jobId, t, ?_, rfl⟩⟩⟩
    · simp only [JobOp.exec, hj]
    · exact List.mem_of_getElem? hk
  case finishConfirmation hc =>
    rcases confirmJob_exec ext hc with he | ⟨_, he⟩ | ⟨_, he⟩
    · exact .inl he
    · exact .inr ⟨.consumerConfirm _ _, trivial, he, .inr ⟨id, False.elim⟩⟩
    · exact .inr ⟨.setConfirmationError _ _, trivial, he, .inr ⟨id, False.elim⟩⟩
  all_goals exact .inl rfl

theorem consumer_offerSnapshots (h : step ext keypair provider s l s') :
    s'.consumer.offerSnapshots = s.consumer.offerSnapshots := by
  cases consumer_cases h
  case inl h => rw [h]
  case inr h =>
    obtain ⟨op, _, h, _⟩ := h
    rw [h, JobOp.exec_offerSnapshots]

theorem serves_step (h : step ext keypair provider s l s') {P : JobJoin → Prop}
    (hs : s.provider.db.Serves consumer provider jobId P)
    (hk : ∀ j j', P j → j.job.consumerPeerId = consumer → j.job.Evolves provider j'.job →
      j.snapshot.SameKey j'.snapshot → P j') :
    s'.provider.db.Serves consumer provider jobId P := by
  obtain ⟨j, hj, hc, hp⟩ := hs
  obtain ⟨hm, hpr, hi⟩ := Database.mem_jobsById_iff.mp hj
  obtain ⟨j', hm', _, he, hsk⟩ := provider_joined h hm
  refine ⟨j', Database.mem_jobsById_iff.mpr ⟨hm', ?_, ?_⟩, ?_, hk j j' hp hc he hsk⟩
  · exact hsk.sameOffer.1.symm.trans hpr
  · exact he.sameJob.providerJobId.symm.trans hi
  · exact he.sameJob.consumerPeerId.symm.trans hc

theorem serves_sameJob_step (h : step ext keypair provider s l s') {record : JobRecord}
    (hs : s.provider.db.Serves consumer provider jobId (record.SameJob ·.record)) :
    s'.provider.db.Serves consumer provider jobId (record.SameJob ·.record) :=
  serves_step h hs fun _ _ hp _ he hk => hp.trans <| .of_rows he.sameJob hk

theorem serves_confirmed_step (h : step ext keypair provider s l s')
    (hs : s.provider.db.Serves consumer provider jobId (·.job.signatureConfirmedAtLocal.isSome)) :
    s'.provider.db.Serves consumer provider jobId (·.job.signatureConfirmedAtLocal.isSome) :=
  serves_step h hs fun _ _ hp _ he _ => he.confirmed hp

theorem serves_reason_step (h : step ext keypair provider s l s')
    (hs : s.provider.db.Serves consumer provider jobId (·.job.reason.isSome)) :
    s'.provider.db.Serves consumer provider jobId (·.job.reason.isSome) := by
  refine serves_step h hs fun _ _ hp _ he _ => ?_
  cases he
  case inl he => exact he ▸ hp
  case inr he =>
    obtain ⟨_, _, he⟩ := he
    exact he.reason.mpr (.inl hp)

theorem serves_terms_step (h : step ext keypair provider s l s') (hn : consumer ≠ provider)
    {P : JobJoin → Prop} (hs : s.provider.db.Serves consumer provider jobId P)
    (hc : ∀ j, P j → j.job.completedAtSync.isSome)
    (hk : ∀ j j', P j → j.job.SameTerms j'.job → j.snapshot.SameKey j'.snapshot → P j') :
    s'.provider.db.Serves consumer provider jobId P :=
  serves_step h hs fun j _ hp hj he hs =>
    hk _ _ hp (he.providerTerms (hj ▸ hn) (hc j hp)).1 hs

variable {request : CreateJobRequest}

-- A request to create a job names the terms of a snapshot that the Consumer has of the Provider.
def Asks (provider : PeerId) (s : Parties) (i : Rowid) (request : CreateJobRequest) : Prop :=
  ∃ snapshot, s.consumer.offerSnapshots.get? i = some snapshot ∧
    snapshot.providerPeerId = provider ∧ snapshot.protocolId = request.protocolId ∧
    snapshot.protocolPayload = request.offerPayload

theorem Asks.step (ha : s.Asks provider i request) (h : step ext keypair provider s l s') :
    s'.Asks provider i request := by
  rw [Asks, consumer_offerSnapshots h]
  exact ha

theorem offersActive_step (h : step ext keypair provider s l s')
    (hn : ∀ action, l = .providerOffers action → ¬action.Supersedes provider s.provider)
    (ho : s.provider.OffersActive provider) : s'.provider.OffersActive provider := by
  cases effect h
  case providerOp =>
    simp only [Node.OffersActive, JobOp.exec_offerSnapshots]
    exact ho
  case providerOffers => exact ho.perform (hn _ rfl)
  case answerCreation hc =>
    simp only [Node.OffersActive, handleCreateJobRequest_offerSnapshots hc]
    exact ho
  case handleConfirmation hc =>
    have hd := congrArg (·.2.offerSnapshots) hc
    simp only [handleConfirmJobRequest_offerSnapshots] at hd
    simp only [Node.OffersActive, ← hd]
    exact ho
  all_goals exact ho

theorem answers_step (h : step ext keypair provider s l s')
    (ha : s.provider.db.Answers consumer provider jobId response) :
    s'.provider.db.Answers consumer provider jobId response :=
  ha.imp (fun ha => ⟨ha.1, serves_confirmed_step h ha.2⟩)
    fun ha => ⟨ha.1, serves_reason_step h ha.2⟩

theorem requested_cases (h : step ext keypair provider s l s')
    (hm : .requested i request ∈ s'.creations) :
    .requested i request ∈ s.creations ∨ s.Asks provider i request := by
  cases l
  case requestCreation k currency args =>
    simp only [step, ofFn, next] at h
    split at h <;> try contradiction
    case _ snapshot request' hf hr =>
    split at h <;> try contradiction
    case _ hp =>
    obtain rfl := Option.some.inj h
    cases List.mem_append.mp hm
    case inl hm => exact .inl hm
    case inr hm =>
      obtain ⟨rfl, rfl⟩ := Creation.requested.inj <| List.mem_singleton.mp hm
      obtain ⟨row, hs, rfl⟩ := Option.map_eq_some_iff.mp hf
      simp only [consumerCreateJobRequest, hf] at hr
      split at hr <;> try contradiction
      obtain rfl := Option.some.inj hr
      exact .inr ⟨row, hs, hp, rfl, rfl⟩
  all_goals
    cases effect h
    all_goals first
      | exact .inl hm
      | exact .inl <| (List.mem_or_eq_of_mem_set hm).resolve_right (by simp)

theorem answers_cases (h : step ext keypair provider s l s')
    (hm : .answered i request (.ok jobId t) row ∈ s'.creations) :
    .answered i request (.ok jobId t) row ∈ s.creations ∨
      (.requested i request ∈ s.creations ∧ ∃ now later uuid reply,
        handleCreateJobRequest now later uuid reply s.provider.db s.provider.provider
          (ext.peerId keypair) request = some (.ok jobId t, s'.provider.db)) := by
  cases effect h
  case answerCreation hk _ hc =>
    cases List.mem_or_eq_of_mem_set hm
    case inl hm => exact .inl hm
    case inr he =>
      obtain ⟨rfl, rfl, rfl, rfl⟩ := Creation.answered.inj he
      exact .inr ⟨List.mem_of_getElem? hk, _, _, _, _, hc⟩
  case requestCreation =>
    cases List.mem_append.mp hm
    case inl hm => exact .inl hm
    case inr hm => simp at hm
  case refuseCreation => exact .inl <| (List.mem_or_eq_of_mem_set hm).resolve_right (by simp)
  case finishCreation => exact .inl <| (List.mem_or_eq_of_mem_set hm).resolve_right (by simp)
  case abortCreation  => exact .inl <| (List.mem_or_eq_of_mem_set hm).resolve_right (by simp)
  all_goals exact .inl hm

theorem responses_cases (h : step ext keypair provider s l s') (hr : (k, response) ∈ s'.responses) :
    (k, response) ∈ s.responses ∨ ∃ a plan now, s.attempts[k]? = some a ∧
      s'.attempts[k]? = some a ∧ handleConfirmJobRequest ext plan now provider s.provider.db
        (ext.peerId keypair) (a.job.request ext (ext.publicKey keypair)) =
          (some response, s'.provider.db) := by
  cases l
  case handleConfirmation i plan now =>
    simp only [step, ofFn, next] at h
    split at h <;> try contradiction
    case _ a ha =>
    split at h
    case h_2 =>
      obtain rfl := Option.some.inj h
      exact .inl hr
    case h_1 hc =>
      obtain rfl := Option.some.inj h
      cases List.mem_cons.mp hr
      case inr hr => exact .inl hr
      case inl hr =>
        obtain ⟨rfl, rfl⟩ := Prod.mk.inj hr
        exact .inr ⟨a, plan, now, ha, ha, hc⟩
  all_goals
    cases effect h
    all_goals exact .inl hr

end Parties
end Derouter
