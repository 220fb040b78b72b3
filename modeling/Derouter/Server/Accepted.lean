import Derouter.Server.Tracked

open Sql Transition

namespace Derouter

-- The provider and the ID of the job that a request ends.
def RpcRequest.ends? : RpcRequest → Option (PeerId × String)
  | failJob _ _ provider jobId ..             => some (provider, jobId)
  | providerCompleteJob _ _ provider jobId .. => some (provider, jobId)
  | _                                         => none

-- The request is answered that there is no such job.
def Node.AnswersJobNotFound (ext : External) (node : Node) : RpcRequest → Prop
  | .failJob plan now provider jobId reason cls priv =>
    (handleFailJobRequest plan now node.db provider jobId reason cls priv).1 = some .jobNotFound
  | .providerCompleteJob plan now provider jobId delta pub priv =>
    (handleProviderCompleteJobRequest ext plan now node.db provider jobId delta pub priv).1 =
      some .jobNotFound
  | _ => False

theorem Node.answersJobNotFound_iff {node : Node} {request : RpcRequest}
    (h : request.ends? = some (peerId, jobId)) :
    node.AnswersJobNotFound ext request ↔ ¬node.db.HasJob peerId jobId := by
  cases request <;> try contradiction
  case failJob =>
    obtain ⟨rfl, rfl⟩ := Prod.mk.inj <| Option.some.inj h
    exact handleFailJobRequest_jobNotFound_iff.trans Database.jobById_eq_none_iff
  case providerCompleteJob =>
    obtain ⟨rfl, rfl⟩ := Prod.mk.inj <| Option.some.inj h
    exact handleProviderCompleteJobRequest_jobNotFound_iff.trans Database.jobById_eq_none_iff

namespace Server

variable (ext : External) (ourPeerId : PeerId) (s : Server)

-- The module is told of no job that it has accepted on the same connection that there is none.
def Label.FindsAccepted (l : Label) : Prop :=
  ∀ c r jobId, l = .request c r → r.ends? = some (ourPeerId, jobId) → (c, jobId) ∈ s.accepted →
    ¬s.node.AnswersJobNotFound ext r

-- The module ends a job before the node loop, which has its reply, has stored the job.
def Label.Overtakes (l : Label) : Prop :=
  ∃ c r job, l = .request c r ∧ r.ends? = some (ourPeerId, job.providerJobId) ∧
    (c, job.providerJobId) ∈ s.accepted ∧ s.loop = .stores job (.providerCreateJob .ok) ∧
    ¬s.node.db.HasJob ourPeerId job.providerJobId

-- The accepted jobs are stored, but for the one that the node loop is about to store.
def Stored : Prop :=
  ∀ c jobId, (c, jobId) ∈ s.accepted → s.node.db.HasJob ourPeerId jobId ∨
    ∃ job, s.loop = .stores job (.providerCreateJob .ok) ∧ job.providerJobId = jobId

variable {ext ourPeerId s} {keypair : ext.Keypair} {self : PeerId} {s' : Server} {l : Label}

theorem Effect.hasJob (he : Effect ext self s l s') (h : s.node.db.HasJob self jobId) :
    s'.node.db.HasJob self jobId := by
  cases he
  case answers db hf hh hw   => exact hw.advances.hasJob h
  case background db hw      => exact hw.advances.hasJob h
  case overrun node' hl ho   => exact ho.db ▸ h
  case cleansUp hn           => exact hn.db ▸ h
  case provides node' m rowid ht hl hn hu hp =>
    have ha : s.node.db.Advances ext self True node'.db := .kept <| .upsert hu
    exact ha.hasJob h
  case stores job reply db hl hc =>
    have ha : s.node.db.Advances ext self True db := .createJobRequest hc
    exact ha.hasJob h
  all_goals exact h

theorem Tracked.stores_accepted {job : JobCreation} (h : s.Tracked self)
    (hl : s.loop = .stores job (.providerCreateJob .ok))
    (hc : handleCreateJobRequest job.now later job.providerJobId (some (.providerCreateJob .ok))
      s.node.db s.node.provider job.fromPeerId job.request = some (response, db)) :
    db.HasJob self job.providerJobId := by
  obtain ⟨hf, hp⟩ := h.job job (by rw [hl, NodeLoop.job?])
  obtain ⟨r, hr, hs⟩ := h.backed _ _ _ _ (ProviderState.held_of_findOffer hf)
  simp only [handleCreateJobRequest, hf, if_pos hp] at hc
  split at hc
  case h_1 => contradiction
  case h_2 hc' =>
    obtain rfl := (Prod.mk.inj <| Option.some.inj hc).2
    exact hs ▸ createJob_hasJob hc' hr

theorem Stored.hasJob (h : s.Stored self) (ha : (c, jobId) ∈ s.accepted)
    (hn : ∀ job reply, s.loop ≠ .stores job reply) : s.node.db.HasJob self jobId := by
  cases h c jobId ha
  case inl h => exact h
  case inr h =>
    obtain ⟨_, hl, _⟩ := h
    exact absurd hl (hn _ _)

theorem Stored.step (h : s.Stored self) (ht : s.Tracked self) (he : Effect ext self s l s') :
    s'.Stored self := by
  intro c jobId ha
  have hk : s.node.db.HasJob self jobId → s'.node.db.HasJob self jobId := he.hasJob
  cases he
  case restarts               => contradiction
  case loses hi _             => exact .inl <| hk <| h.hasJob ha (by simp [hi])
  case finds hi _ _ _         => exact .inl <| hk <| h.hasJob ha (by simp [hi])
  case stops hi               => exact .inl <| hk <| h.hasJob ha (by simp [hi])
  case sends hl               => exact .inl <| hk <| h.hasJob ha (by simp [hl])
  case sendFails hl _         => exact .inl <| hk <| h.hasJob ha (by simp [hl])
  case dropsReply hl _        => exact .inl <| hk <| h.hasJob ha (by simp [hl])
  case replies job reply hl =>
    have hj (ha : (c, jobId) ∈ s.accepted) := hk <| h.hasJob ha (by simp [hl])
    simp only at ha
    split at ha
    case isFalse   => exact .inl <| hj ha
    case isTrue hr =>
      cases List.mem_cons.mp ha
      case inr ha => exact .inl <| hj ha
      case inl ha => exact .inr ⟨job, by rw [hr], (Prod.mk.inj ha).2.symm⟩
  case stores job reply db hl hc =>
    refine .inl ?_
    cases h c jobId ha
    case inl h => exact hk h
    case inr h =>
      obtain ⟨job', hl', rfl⟩ := h
      obtain ⟨rfl, rfl⟩ := NodeLoop.stores.inj <| hl.symm.trans hl'
      exact ht.stores_accepted hl hc
  case storeFails job reply hl hc =>
    obtain ⟨_, _, hs⟩ := ht.stores_total hl _
    exact absurd (hc.symm.trans hs) (by simp)
  all_goals exact (h c jobId ha).imp_left hk

theorem Stored.findsAccepted_iff (h : s.Stored self) :
    l.FindsAccepted ext self s ↔ ¬l.Overtakes self s := by
  constructor
  case mp =>
    rintro hf ⟨c, r, job, rfl, hr, ha, _, hn⟩
    exact hf c r _ rfl hr ha <| (Node.answersJobNotFound_iff hr).mpr hn
  case mpr =>
    rintro ho c r jobId rfl hr ha hn
    have hj := (Node.answersJobNotFound_iff hr).mp hn
    obtain ⟨job, hl, rfl⟩ := (h c jobId ha).resolve_left hj
    exact ho ⟨c, r, job, rfl, hr, ha, hl, hj⟩

-- In a run, a module is always told of the jobs that it has accepted exactly if it never overtakes the
-- node loop.
theorem findsAccepted_of_run (r : Run (step ext keypair) (start ∅ now) tr s) :
    Meets (fun s l => l.FindsAccepted ext (ext.peerId keypair) s) tr ↔
      Meets (fun s l => ¬l.Overtakes (ext.peerId keypair) s) tr := by
  let I (s : Server) : Prop := s.Tracked (ext.peerId keypair) ∧ s.Stored (ext.peerId keypair)
  refine r.meets_iff (I := I) ⟨tracked_start _ now, ?_⟩ ?_ fun _ _ h => h.2.findsAccepted_iff
  · exact fun _ _ ha => by simp [start] at ha
  · exact fun _ _ _ h hs => ⟨tracked_step h.1 hs,
      h.2.step h.1 <| effect h.1.registered h.1.own hs⟩

-- A module provides an offer, and accepts a job.
private def accepts : List Label := [
  .accept,
  .request 0 <| .providerProvide .scan 0 ⟨"protocol", "offer", "payload"⟩,
  .createJob 0 ⟨[1]⟩ ⟨"protocol", "offer", "payload", .polygon, none⟩ "job",
  .sendCreateJob,
  .reply 0 <| .providerCreateJob .ok
]

private def completes : RpcRequest :=
  .providerCompleteJob .scan 0 ⟨[0]⟩ "job" none "payload" none

-- It completes the job once the node loop has stored it.
theorem findsAccepted_of_run_sample : ∃ tr s, Run (step .sample ⟨[0]⟩) (start ∅ 0) tr s ∧
    (∃ p ∈ tr, p.2 = .request 0 completes ∧ (0, "job") ∈ p.1.accepted) ∧
    Meets (fun s l => l.FindsAccepted .sample ⟨[0]⟩ s) tr := by
  obtain ⟨tr, s, r, ht, hs⟩ := Run.of_schedule (fun s l => next s .sample ⟨[0]⟩ l) (start ∅ 0)
    (accepts ++ [.storeJob 0])
    (fun s => s.loop.isIdle && decide ((0, "job") ∈ s.accepted) &&
      (s.next .sample ⟨[0]⟩ <| .request 0 completes).isSome)
    (by decide +kernel)
  simp only [Bool.and_eq_true, decide_eq_true_eq, Option.isSome_iff_exists] at hs
  obtain ⟨⟨hl, ha⟩, s', hs⟩ := hs
  have r' : Run (step .sample ⟨[0]⟩) (start ∅ 0) _ s' := r.trans (.single hs)
  refine ⟨_, s', r', ⟨(s, _), by simp, rfl, ha⟩, (findsAccepted_of_run r').mpr ?_⟩
  simp only [Meets, List.forall_mem_append, List.forall_mem_singleton]
  constructor
  case left =>
    have hn : ∀ l ∈ accepts ++ [.storeJob 0], ∀ s, ¬l.Overtakes ⟨[0]⟩ s := by
      simp [accepts, Label.Overtakes, RpcRequest.ends?]
    exact Meets.of_labels ht hn
  case right =>
    rintro ⟨_, _, _, _, _, _, he, _⟩
    simp [he, NodeLoop.isIdle] at hl

-- It completes the job at once.
theorem not_findsAccepted : ¬∀ (ext : External) (keypair : ext.Keypair) (now : DateTime)
    (tr : List (Server × Label)) (s : Server), Run (step ext keypair) (start ∅ now) tr s →
    Meets (fun s l => l.FindsAccepted ext (ext.peerId keypair) s) tr := by
  intro h
  obtain ⟨tr, s, r, _, hs⟩ := Run.of_schedule (fun s l => next s .sample ⟨[0]⟩ l) (start ∅ 0) accepts
    (fun s => decide ((0, "job") ∈ s.accepted) &&
      decide ((handleProviderCompleteJobRequest .sample .scan 0 s.node.db ⟨[0]⟩ "job" none "payload"
        none).1 = some .jobNotFound) &&
      (s.next .sample ⟨[0]⟩ <| .request 0 completes).isSome)
    (by decide +kernel)
  simp only [Bool.and_eq_true, decide_eq_true_eq, Option.isSome_iff_exists] at hs
  obtain ⟨⟨ha, hn⟩, s', hs⟩ := hs
  exact h _ _ _ _ s' (r.trans (.single hs)) (s, _) (by simp) 0 completes "job" rfl rfl ha hn

end Server
end Derouter
