import Derouter.ConsumerView.Steps

open Sql

namespace Derouter

theorem JobJoin.eq_of_content {j j' : JobJoin} (h : j'.content = j.content) :
    ∃ i k, j' = ⟨i, { j.job with offerSnapshotRowid := k }, j.snapshot⟩ := by
  obtain ⟨i, r, s⟩ := j
  obtain ⟨i', r', s'⟩ := j'
  obtain ⟨hr, rfl⟩ := JobContent.mk.inj h
  refine ⟨i', r'.offerSnapshotRowid, ?_⟩
  cases r
  cases r'
  simp_all [JobJoin.content]

theorem answerJobRequest_of_others {ext : External} {db : Database} {request : JobRequest}
    (hn : ∀ j, db.jobById plan self request.providerJobId = some j → ¬j.content.Of consumer self) :
    answerJobRequest ext plan self provider db consumer request = .notFound db request := by
  cases hj : db.jobById plan self request.providerJobId
  case none   => exact answerJobRequest_of_none request hj
  case some j =>
    refine answerJobRequest_of_stranger request hj fun hc => ?_
    exact hn j hj ⟨hc.symm, Database.jobById_providerPeerId hj⟩

theorem handleConfirmJobRequest_of_others {ext : External} {db : Database}
    {request : ConfirmJobRequest}
    (hn : ∀ j, db.jobById plan self request.providerJobId = some j → ¬j.content.Of consumer self) :
    (handleConfirmJobRequest ext plan now self db consumer request).1 = some .jobNotFound := by
  rw [handleConfirmJobRequest_amend]
  cases hj : db.jobById plan self request.providerJobId
  case none   => rfl
  case some j =>
    have hc : j.content.job.consumerPeerId ≠ consumer := fun hc =>
      hn j hj ⟨hc, Database.jobById_providerPeerId hj⟩
    simp only [JobContent.confirmed, if_pos hc]

namespace ConsumerView
namespace Alike

variable {ext : External} {db db' : Database} {self consumer : PeerId} {node node' : Node}

theorem adds {j j' : JobJoin} (h : Alike self consumer node node') (ha : node.db.Adds j db)
    (ha' : node'.db.Adds j' db') (hc : j'.content = j.content)
    (hp : j.snapshot.providerPeerId = self) (hn : ¬node.db.HasJob self j.job.providerJobId) :
    Alike self consumer { node with db } { node' with db := db' } := by
  have hi : j'.job.providerJobId = j.job.providerJobId := congrArg (·.job.providerJobId) hc
  exact { h with
    sound     := h.sound.adds ha hn
    sound'    := h.sound'.adds ha' fun hj => hn (h.ids _ (hi ▸ hj))
    held      := by
      intro m p o
      have hr := h.sound.held_resolve (fun _ _ _ hs => ha.offerSnapshots ▸ hs) m p o
      have hr' := h.sound'.held_resolve (fun _ _ _ hs => ha'.offerSnapshots ▸ hs) m p o
      exact hr.trans <| (h.held m p o).trans hr'.symm
    snapshots := by
      rw [ha.offerSnapshots, ha'.offerSnapshots]
      exact h.snapshots
    jobs      := by
      intro t ht
      rw [ha.shows_iff, ha'.shows_iff, hc, h.jobs t ht]
    ids       := by
      intro jobId hj
      rw [ha.hasJob_iff]
      cases ha'.hasJob_iff.mp hj
      case inl hj => exact .inl (h.ids jobId hj)
      case inr hj => exact .inr ⟨hp, hi ▸ hj.2⟩
  }

theorem stores {s : OfferSnapshotRow} (h : Alike self consumer node node')
    (hs : node.db.offerSnapshots.get? i = some s) (hs' : node'.db.offerSnapshots.get? i' = some s)
    (hp : s.providerPeerId = self) (hn : ¬node.db.HasJob self jobId) (now : DateTime)
    (currency : Currency) (args : Option String) (createdAt : Int) : ∃ k db k' db',
      Derouter.createJob now node.db i consumer currency args jobId createdAt = some (k, db) ∧
      Derouter.createJob now node'.db i' consumer currency args jobId createdAt = some (k', db') ∧
      Alike self consumer { node with db } { node' with db := db' } := by
  obtain ⟨⟨k, db⟩, hc⟩ : ∃ p,
      Derouter.createJob now node.db i consumer currency args jobId createdAt = some p :=
    createJob_of_snapshot hs
  obtain ⟨⟨k', db'⟩, hc'⟩ : ∃ p,
      Derouter.createJob now node'.db i' consumer currency args jobId createdAt = some p :=
    createJob_of_snapshot hs'
  exact ⟨k, db, k', db', hc, hc', h.adds (.create hc hs) (.create hc' hs') rfl hp hn⟩

theorem createJob (h : Alike self consumer node node') (hn : ¬node.db.HasJob self uuid)
    (ext : External) (now later : DateTime) (reply : Option InboundResponseFrameData)
    (request : CreateJobRequest) :
    (handleCreateJobRequest now later uuid reply node.db node.provider consumer request).map (·.1) =
      (handleCreateJobRequest now later uuid reply node'.db node'.provider consumer request).map
        (·.1) ∧
    Alike self consumer
      (node.perform ext self (.createJob now later uuid reply consumer request))
      (node'.perform ext self (.createJob now later uuid reply consumer request)) := by
  have hf := h.findOffer request.protocolId request.offerId
  simp only [Node.perform, handleCreateJobRequest]
  rcases hs : node.provider.findOffer request.protocolId request.offerId with _ | _ | offer <;>
    rcases hs' : node'.provider.findOffer request.protocolId request.offerId with _ | _ | offer' <;>
      simp only [hs, hs', Option.map_none, Option.map_some, reduceCtorEq, Option.some.injEq,
        Prod.mk.injEq] at hf
  case none.none           => exact ⟨rfl, h⟩
  case some.none.some.none => exact ⟨rfl, h⟩
  case some.some.some.some =>
    obtain ⟨_, hr⟩ := hf
    obtain ⟨hp, hg⟩ := Prod.mk.inj hr
    by_cases hq : offer.provided.protocolPayload = request.offerPayload
    case neg =>
      have hq' : offer'.provided.protocolPayload ≠ request.offerPayload := fun hq' => hq (hp.trans hq')
      simp only [if_neg hq, if_neg hq']
      exact ⟨rfl, h⟩
    case pos =>
      have hq' : offer'.provided.protocolPayload = request.offerPayload := hp.symm.trans hq
      simp only [if_pos hq, if_pos hq']
      cases reply
      case none => exact ⟨rfl, h⟩
      case some reply =>
      cases reply
      case providerCreateJob reply =>
        cases reply
        case ok =>
          obtain ⟨s, hi, hself⟩ := h.sound.backed offer.moduleId _ _ offer.provided <|
            ProviderState.held_of_findOffer hs
          obtain ⟨_, _, _, _, hc, hc', ha⟩ := h.stores hi (hg.symm.trans hi) hself hn later
            request.currency request.jobArgs now.timestamp
          simp only [hc, hc']
          exact ⟨rfl, ha⟩
        all_goals exact ⟨rfl, h⟩
      all_goals exact ⟨rfl, h⟩

theorem confirmJob (h : Alike self consumer node node') (plan : Plan JobJoin) (now : DateTime)
    (request : ConfirmJobRequest) :
    (handleConfirmJobRequest ext plan now self node.db consumer request).1 =
      (handleConfirmJobRequest ext plan now self node'.db consumer request).1 ∧
    Alike self consumer
      { node with db := (handleConfirmJobRequest ext plan now self node.db consumer request).2 }
      { node' with db := (handleConfirmJobRequest ext plan now self node'.db consumer request).2 } := by
  constructor
  case left  =>
    rcases Database.jobById_cases h.sound.distinct h.sound'.distinct h.jobs plan plan
      request.providerJobId with ⟨j, j', hj, hj', _, hc⟩ | ⟨hn, hn'⟩
    case inl =>
      rw [handleConfirmJobRequest_amend, handleConfirmJobRequest_amend]
      simp only [hj, hj', hc]
    case inr =>
      rw [handleConfirmJobRequest_of_others hn, handleConfirmJobRequest_of_others hn']
  case right =>
    rw [handleConfirmJobRequest_amend, handleConfirmJobRequest_amend]
    dsimp only
    exact h.amend (fun _ _ hd => (JobContent.confirmed_eq_some hd).1) _ _ _

theorem answer (h : Alike self consumer node node') (plan : Plan JobJoin) (request : JobRequest) :
    (answerJobRequest ext plan self node.provider node.db consumer request).response =
      (answerJobRequest ext plan self node'.provider node'.db consumer request).response ∧
    Alike self consumer
      { node with db := (answerJobRequest ext plan self node.provider node.db consumer request).db }
      { node' with
        db := (answerJobRequest ext plan self node'.provider node'.db consumer request).db } := by
  rcases Database.jobById_cases h.sound.distinct h.sound'.distinct h.jobs plan plan
    request.providerJobId with ⟨j, j', hj, hj', _, hc⟩ | ⟨hn, hn'⟩
  case inr =>
    rw [answerJobRequest_of_others hn, answerJobRequest_of_others hn']
    cases request <;> exact ⟨rfl, h⟩
  case inl =>
    obtain ⟨i, k, rfl⟩ := JobJoin.eq_of_content hc
    cases request
    case confirmJob now request =>
      obtain ⟨hr, ha⟩ := h.confirmJob plan now request
      exact ⟨congrArg (Option.map JobResponse.confirmJob) hr, ha⟩
    case getJob request =>
      refine ⟨congrArg (some ∘ JobResponse.getJob) ?_, h⟩
      simp only [JobRequest.providerJobId] at hj hj'
      simp only [handleGetJobRequest, Database.findByJobId, hj, hj', Option.map_some,
        JobJoin.record]
    case jobConnection events request =>
      refine ⟨congrArg (Option.map JobResponse.jobConnection) ?_, h⟩
      simp only [JobRequest.providerJobId] at hj hj'
      have hf := h.findOffer j.snapshot.protocolId j.snapshot.offerId
      simp only [handleJobConnectionStream, Database.findByJobId, hj, hj', Option.map_some,
        JobJoin.record]
      rcases hs : node.provider.findOffer j.snapshot.protocolId j.snapshot.offerId with _ | _ | o <;>
        rcases hs' : node'.provider.findOffer j.snapshot.protocolId j.snapshot.offerId with _ | _ | o' <;>
          simp only [hs, hs', Option.map_none, Option.map_some, reduceCtorEq, Option.some.injEq,
            Prod.mk.injEq] at hf
      case some.some.some.some => simp only [hf.1]
      all_goals rfl

end Alike
end ConsumerView
end Derouter
