import Derouter.JobsView.Handlers
import Derouter.ProviderNode.Offers

open Sql Transition

namespace Derouter

-- The job that a handler stores, if it stores one: its offer snapshot and the ID at the Provider.
def Handler.creates (node : Node) : Handler → Option (Rowid × String)
  | .consumerCreateJob _ offerSnapshotId _ (.ok providerJobId _) =>
    some (offerSnapshotId, providerJobId)
  | .provider (.createJob _ _ uuid (some (.providerCreateJob .ok)) _ request) =>
    match node.provider.findOffer request.protocolId request.offerId with
    | some (some offer) =>
      if offer.provided.protocolPayload = request.offerPayload then
        some (offer.provided.snapshotRowid, uuid)
      else
        none
    | _ => none
  | _ => none

-- The ID of a job that a handler stores is not the ID of another job of its Provider.
def Handler.NewJobId (node : Node) (handler : Handler) : Prop :=
  ∀ k jobId s, handler.creates node = some (k, jobId) → node.db.offerSnapshots.get? k = some s →
    ¬node.db.HasJob s.providerPeerId jobId

-- A Provider and a job ID stand for one job, which every lookup finds.
structure Database.IdentifiesJobs (db : Database) : Prop where
  unique  : ∀ j ∈ db.joined, ∀ j' ∈ db.joined,
    j'.snapshot.providerPeerId = j.snapshot.providerPeerId →
    j'.job.providerJobId = j.job.providerJobId → j' = j
  jobById : ∀ plan, ∀ j ∈ db.joined,
    db.jobById plan j.snapshot.providerPeerId j.job.providerJobId = some j

-- The run of a node's handlers.
def Handler.step (ext : External) (keypair : ext.Keypair) : Node → Handler → Node → Prop :=
  ofFn fun node handler => some (node.handle ext keypair handler).1

variable {ext : External} {keypair : ext.Keypair} {db db' : Database} {node : Node}
variable {handler : Handler} {k : Rowid} {jobId : String}

namespace Database

theorem IdentifiesJobs.of_unique (h : ∀ j ∈ db.joined, ∀ j' ∈ db.joined,
    j'.snapshot.providerPeerId = j.snapshot.providerPeerId →
    j'.job.providerJobId = j.job.providerJobId → j' = j) : db.IdentifiesJobs where
  unique  := h
  jobById := by
    intro plan j hj
    have hm : j ∈ db.jobsById j.snapshot.providerPeerId j.job.providerJobId :=
      mem_jobsById_iff.mpr ⟨hj, rfl, rfl⟩
    obtain ⟨j', hf⟩ := plan.exists_first hm
    obtain ⟨hj', hp, hi⟩ := mem_jobsById_iff.mp (plan.mem_of_first hf)
    rw [Database.jobById, hf, h j hj j' hj' hp hi]

theorem IdentifiesJobs.of_no_jobs (h : db.serviceJobs = ∅) : db.IdentifiesJobs := by
  apply of_unique
  simp [joined_of_no_jobs h]

-- The creation of a job is what took one database to the other.
def Creates (db : Database) (k : Rowid) (jobId : String) (db' : Database) : Prop :=
  ∃ now consumer currency args t i,
    createJob now db k consumer currency args jobId t = some (i, db')

end Database

-- The foreign key is all that the creation of a job can fail at.
theorem createJob_of_snapshot (h : db.offerSnapshots.get? k = some s) :
    ∃ p, createJob now db k consumer currency args jobId t = some p := by
  obtain ⟨db', h⟩ := Database.insertJob?_of_snapshot (r := {
    offerSnapshotRowid := k
    consumerPeerId     := consumer
    currency           := currency
    jobArgs            := args
    providerJobId      := jobId
    createdAtSync      := t
    createdAtLocal     := now.currentTimestamp
  }) h
  exact ⟨_, h⟩

theorem createJob_of_no_snapshot (h : db.offerSnapshots.get? k = none) :
    createJob now db k consumer currency args jobId t = none := by
  cases hc : createJob now db k consumer currency args jobId t
  case none   => rfl
  case some p =>
    obtain ⟨_, _, _, _, s, hs⟩ := Database.insertJob?_eq_some hc
    simp [h] at hs

namespace Node

theorem handle_creates (hc : handler.creates node = some (k, jobId))
    (hs : node.db.offerSnapshots.get? k = some s) :
    node.db.Creates k jobId (node.handle ext keypair handler).1.db := by
  simp only [Handler.creates] at hc
  split at hc <;> try contradiction
  case h_1 now offerSnapshotId request providerJobId createdAt =>
    obtain ⟨rfl, rfl⟩ := Prod.mk.inj (Option.some.inj hc)
    obtain ⟨p, hp⟩ : ∃ p, createJob now node.db offerSnapshotId (ext.peerId keypair)
        request.currency request.jobArgs providerJobId createdAt = some p :=
      createJob_of_snapshot hs
    refine ⟨now, _, _, _, createdAt, p.1, hp.trans ?_⟩
    simp only [handle, consumerCreateJob, hp]
  case h_2 now later uuid fromPeerId request =>
    split at hc <;> try contradiction
    case _ offer hf =>
    split at hc <;> try contradiction
    case _ he =>
    obtain ⟨rfl, rfl⟩ := Prod.mk.inj (Option.some.inj hc)
    obtain ⟨p, hp⟩ : ∃ p, createJob later node.db offer.provided.snapshotRowid fromPeerId
        request.currency request.jobArgs uuid now.timestamp = some p :=
      createJob_of_snapshot hs
    refine ⟨later, _, _, _, now.timestamp, p.1, hp.trans ?_⟩
    simp only [handle, perform, handleCreateJobRequest, hf, he, if_true, hp]

theorem perform_isSome_get? (i : Rowid)
    (h : ∀ k jobId, (Handler.provider action).creates node = some (k, jobId) →
      node.db.offerSnapshots.get? k = none) :
    ((node.perform ext self action).db.serviceJobs.get? i).isSome =
      (node.db.serviceJobs.get? i).isSome := by
  by_cases ha : action.changesOffers
  case pos => rw [perform_serviceJobs ha]
  case neg =>
    cases action <;> simp only [Action.changesOffers, not_true] at ha
    case createJob now later uuid reply consumer request =>
      simp only [perform]
      split
      case h_2 => rfl
      case h_1 hc =>
        cases handleCreateJobRequest_cases hc
        case inl hc => rw [hc.1]
        case inr hj =>
          obtain ⟨offer, _, hf, hp, rfl, hj⟩ := hj
          obtain rfl := handleCreateJobRequest_accepted hc
          rw [createJob_of_no_snapshot (h _ uuid (by simp [Handler.creates, hf, hp]))] at hj
          contradiction
    case providerCompleteJob => exact JobOp.exec_isSome_get? id i
    case failJob             => exact JobOp.exec_isSome_get? id i
    case confirmJob request  =>
      simp only [perform]
      rcases handleConfirmJobRequest_db request with h | ⟨_, _, h⟩
      · exact h ▸ JobOp.exec_isSome_get? id i
      · exact h ▸ JobOp.exec_isSome_get? id i

theorem handle_isSome_get? (i : Rowid)
    (h : ∀ k jobId, handler.creates node = some (k, jobId) → node.db.offerSnapshots.get? k = none) :
    ((node.handle ext keypair handler).1.db.serviceJobs.get? i).isSome =
      (node.db.serviceJobs.get? i).isSome := by
  cases handler
  case provider => exact perform_isSome_get? i h
  case heartbeat =>
    simp only [handle]
    split
    case h_1 hh => rw [(Database.KeepsJobs.heartbeat hh).serviceJobs]
    case h_2    => rfl
  case consumerCreateJob now k request response =>
    simp only [handle, consumerCreateJob]
    split
    case h_2 => rfl
    case h_1 hc =>
      split at hc <;> try contradiction
      case _ jobId t =>
      rw [createJob_of_no_snapshot (h k jobId rfl)] at hc
      contradiction
  case consumerCompleteJob plan now provider jobId delta pub priv t =>
    let op : JobOp := .consumerComplete plan now (ext.peerId keypair) provider jobId delta pub priv t
      (ext.sign keypair)
    have he : ((op.exec ext node.db).1.serviceJobs.get? i).isSome =
        (node.db.serviceJobs.get? i).isSome :=
      JobOp.exec_isSome_get? id i
    simp only [op, JobOp.exec] at he
    simp only [handle]
    split <;> simp_all
  case confirmJob =>
    simp only [handle]
    split
    case h_2 => rfl
    case h_1 hc =>
      rcases confirmJob_exec ext hc with rfl | ⟨_, rfl⟩ | ⟨_, rfl⟩
      · rfl
      · exact JobOp.exec_isSome_get? id i
      · exact JobOp.exec_isSome_get? id i

theorem handle_joined_cases {j' : JobJoin}
    (hj : j' ∈ (node.handle ext keypair handler).1.db.joined) :
    (∃ k jobId s, handler.creates node = some (k, jobId) ∧
      node.db.offerSnapshots.get? k = some s ∧ j'.rowid = node.db.serviceJobs.nextRowid ∧
      j'.snapshot.providerPeerId = s.providerPeerId ∧ j'.job.providerJobId = jobId) ∨
    ∃ j ∈ node.db.joined, j'.rowid = j.rowid ∧ j.job.SameJob j'.job ∧
      j.snapshot.SameKey j'.snapshot := by
  cases (Database.Advances.handle handler).joined_cases hj
  case inr h => exact .inr h
  case inl hn =>
    refine .inl ?_
    by_cases h : ∃ k jobId s, handler.creates node = some (k, jobId) ∧
      node.db.offerSnapshots.get? k = some s
    case pos =>
      obtain ⟨k, jobId, s, hc, hs⟩ := h
      obtain ⟨_, _, _, _, _, _, hj'⟩ :
          node.db.Creates k jobId (node.handle ext keypair handler).1.db :=
        handle_creates hc hs
      obtain ⟨hi, hd, hs'⟩ := createJob_joined hj' hj hn
      obtain rfl := Option.some.inj (hs.symm.trans hs')
      exact ⟨k, jobId, _, hc, hs, hi, rfl, hd⟩
    case neg =>
      have he : ((node.handle ext keypair handler).1.db.serviceJobs.get? j'.rowid).isSome =
          (node.db.serviceJobs.get? j'.rowid).isSome := by
        refine handle_isSome_get? j'.rowid fun k jobId hc => ?_
        by_contra hs
        obtain ⟨s, hs⟩ := Option.ne_none_iff_exists'.mp hs
        exact h ⟨k, jobId, s, hc, hs⟩
      rw [hn, (Database.mem_joined_iff.mp hj).1] at he
      contradiction

theorem handle_identifiesJobs (h : node.db.IdentifiesJobs) :
    (node.handle ext keypair handler).1.db.IdentifiesJobs ↔ handler.NewJobId node := by
  have ha : node.db.Advances ext (ext.peerId keypair) handler.CompletesAsConsumer
    (node.handle ext keypair handler).1.db := .handle handler
  constructor
  case mp =>
    intro h' k jobId s hc hs hd
    -- The job that had the ID before, and the one that is created.
    obtain ⟨j₀, hj₀, hp₀, hi₀⟩ := hd
    obtain ⟨j₁, hj₁, hr₁, hb₁, hk₁⟩ := ha.joined hj₀
    obtain ⟨_, _, _, _, _, _, hj⟩ : node.db.Creates k jobId (node.handle ext keypair handler).1.db :=
      handle_creates hc hs
    obtain ⟨j₂, hj₂, hr₂, rfl, hi₂⟩ := createJob_mem_joined hj hs
    have hp : j₂.snapshot.providerPeerId = j₁.snapshot.providerPeerId :=
      hp₀.symm.trans hk₁.sameOffer.1
    have hi : j₂.job.providerJobId = j₁.job.providerJobId :=
      (hi₂.trans hi₀.symm).trans hb₁.providerJobId
    have he := h'.unique j₁ hj₁ j₂ hj₂ hp hi
    refine Table.ne_nextRowid (Database.mem_joined_iff.mp hj₀).1 ?_
    rw [← hr₁, ← he, hr₂]
  case mpr =>
    intro hn
    apply Database.IdentifiesJobs.of_unique
    intro j hj j' hj' hp hi
    cases handle_joined_cases hj <;> cases handle_joined_cases hj'
    case inl.inl h₁ h₂ =>
      obtain ⟨_, _, _, _, _, hr, _⟩ := h₁
      obtain ⟨_, _, _, _, _, hr', _⟩ := h₂
      exact Database.joined_inj hj' hj (hr'.trans hr.symm)
    case inl.inr h₁ h₂ =>
      obtain ⟨k, jobId, s, hc, hs, _, hp', hi'⟩ := h₁
      obtain ⟨j₀, hj₀, _, hb, hk⟩ := h₂
      have hp₀ := hk.sameOffer.1.trans (hp.trans hp')
      have hi₀ := hb.providerJobId.trans (hi.trans hi')
      exact absurd ⟨j₀, hj₀, hp₀, hi₀⟩ (hn k jobId s hc hs)
    case inr.inl h₁ h₂ =>
      obtain ⟨j₀, hj₀, _, hb, hk⟩ := h₁
      obtain ⟨k, jobId, s, hc, hs, _, hp', hi'⟩ := h₂
      have hp₀ := hk.sameOffer.1.trans (hp.symm.trans hp')
      have hi₀ := hb.providerJobId.trans (hi.symm.trans hi')
      exact absurd ⟨j₀, hj₀, hp₀, hi₀⟩ (hn k jobId s hc hs)
    case inr.inr h₁ h₂ =>
      obtain ⟨j₁, hj₁, hr₁, hb₁, hk₁⟩ := h₁
      obtain ⟨j₂, hj₂, hr₂, hb₂, hk₂⟩ := h₂
      have hp₀ := hk₂.sameOffer.1.trans (hp.trans hk₁.sameOffer.1.symm)
      have hi₀ := hb₂.providerJobId.trans (hi.trans hb₁.providerJobId.symm)
      obtain rfl := h.unique j₁ hj₁ j₂ hj₂ hp₀ hi₀
      exact Database.joined_inj hj' hj (hr₂.trans hr₁.symm)

variable {node' : Node} {tr : List (Node × Handler)}

-- A Provider and a job ID stand for one job all along a run exactly if no Provider answers the
-- request for a job with the ID of another job of its.
theorem identifiesJobs_iff_newJobIds (h : node.db.serviceJobs = ∅)
    (r : Run (Handler.step ext keypair) node tr node') :
    Run.Always (·.db.IdentifiesJobs) tr node' ↔
      Meets (fun node handler => handler.NewJobId node) tr := by
  refine r.always_iff_meets (I := fun _ => True) trivial (.of_no_jobs h) (fun _ _ _ _ _ => trivial) ?_
  intro node handler node' _ hi hs
  obtain rfl := Option.some.inj hs
  exact handle_identifiesJobs hi

-- A Consumer of the offer of the Provider 0, which answers that it has created a job.
private def consumer : Node :=
  .start (.ofOffer ⟨[0]⟩ "offer" "protocol" "payload") 0

private def created (jobId : String) : Handler :=
  .consumerCreateJob 0 1 ⟨"protocol", "offer", "payload", .polygon, none⟩ (.ok jobId 0)

theorem identifiesJobs_iff_newJobIds_sample : ∃ tr node,
    Run (Handler.step .sample (PeerId.mk [1])) consumer tr node ∧ node.db.joined ≠ [] ∧
      Run.Always (·.db.IdentifiesJobs) tr node := by
  have r : Run (Handler.step .sample (PeerId.mk [1])) consumer _ _ :=
    .single (l := created "job") rfl
  have hn : (created "job").NewJobId consumer := by
    intro k jobId s _ _ hd
    obtain ⟨j, hj, _⟩ := hd
    have he : consumer.db.joined = [] := by decide +kernel
    simp [he] at hj
  refine ⟨_, _, r, by decide +kernel, ?_⟩
  refine (identifiesJobs_iff_newJobIds (Table.ext (by decide +kernel)) r).mpr ?_
  simpa [Meets] using hn

-- The Provider answers a second request with the same ID.
theorem not_identifiesJobs : ¬∀ (ext : External) (keypair : ext.Keypair) (node node' : Node)
    (tr : List (Node × Handler)), node.db.serviceJobs = ∅ →
    Run (Handler.step ext keypair) node tr node' → node'.db.IdentifiesJobs := by
  intro h
  have r : Run (Handler.step .sample (PeerId.mk [1])) consumer _ _ :=
    .cons (l := created "job") rfl <| .single (l := created "job") rfl
  have hi := (h _ _ _ _ _ (Table.ext (by decide +kernel)) r).unique
  exact absurd hi (by decide +kernel)

end Node
end Derouter
