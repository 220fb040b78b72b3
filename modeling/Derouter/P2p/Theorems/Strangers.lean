import Derouter.Db.Theorems.Joined
import Derouter.P2p.Stream
import Derouter.P2p.Theorems.Reqres

open Sql

namespace Derouter

-- What a peer can ask about a job.
inductive JobRequest
  | getJob (request : GetJobRequest)
  | confirmJob (now : DateTime) (request : ConfirmJobRequest)
  | jobConnection (events : JobConnectionEvents) (request : JobConnectionHeadRequest)

def JobRequest.providerJobId : JobRequest → String
  | getJob request          => request.providerJobId
  | confirmJob _ request    => request.providerJobId
  | jobConnection _ request => request.providerJobId

inductive JobResponse
  | getJob (response : GetJobResponse)
  | confirmJob (response : ConfirmJobResponse)
  | jobConnection (response : JobConnectionHeadResponse)
deriving DecidableEq

-- The response to the peer, if there is one, what the modules are sent, and the database afterwards.
structure JobAnswer where
  response : Option JobResponse
  requests : List (UInt32 × OutboundRequestFrameData) := []
  db       : Database

def answerJobRequest (ext : External) (plan : Plan JobJoin) (ourPeerId : PeerId)
    (provider : ProviderState) (db : Database) (fromPeerId : PeerId) : JobRequest → JobAnswer
  | .getJob request => {
      response := some <| .getJob <| handleGetJobRequest plan ourPeerId db fromPeerId request
      db
    }
  | .confirmJob now request =>
    let (response, db) := handleConfirmJobRequest ext plan now ourPeerId db fromPeerId request
    { response := response.map .confirmJob, db }
  | .jobConnection events request =>
    let answer := handleJobConnectionStream plan events db provider fromPeerId ourPeerId request
    { response := answer.response.map .jobConnection, requests := answer.requests, db }

-- The job IDs of a Provider are distinct.
def Database.DistinctJobIds (db : Database) (provider : PeerId) : Prop :=
  ∀ j ∈ db.joined, ∀ j' ∈ db.joined, j.snapshot.providerPeerId = provider →
    j'.snapshot.providerPeerId = provider → j.job.providerJobId = j'.job.providerJobId → j = j'

namespace Database

variable {db : Database} {i k : Rowid} {j : JobJoin} {self : PeerId} {jobId : String}

@[simp]
theorem withoutJob_get? :
    (db.withoutJob i).serviceJobs.get? k = if k = i then none else db.serviceJobs.get? k :=
  Table.get?_delete

theorem mem_joined_withoutJob : j ∈ (db.withoutJob i).joined ↔ j ∈ db.joined ∧ j.rowid ≠ i := by
  rw [mem_joined_iff, mem_joined_iff, withoutJob_get?]
  by_cases hi : j.rowid = i <;> simp [hi, withoutJob]

theorem withoutJob_updateJob {u : JobUpdate} :
    (db.updateJob k u).withoutJob i = (db.withoutJob i).updateJob k u := by
  simp only [withoutJob, updateJob, Table.delete_update]

theorem DistinctJobIds.jobById_eq_some_iff (h : db.DistinctJobIds self) {plan : Plan JobJoin} :
    db.jobById plan self jobId = some j ↔ j ∈ db.jobsById self jobId := by
  refine ⟨jobById_mem, fun hj => ?_⟩
  obtain ⟨j', hf⟩ := plan.exists_first hj
  obtain ⟨hm, hp, hi⟩ := mem_jobsById_iff.mp hj
  obtain ⟨hm', hp', hi'⟩ := mem_jobsById_iff.mp (plan.mem_of_first hf)
  rw [jobById, hf, h j' hm' j hm hp' hp (hi'.trans hi.symm)]

theorem DistinctJobIds.withoutJob (h : db.DistinctJobIds self) :
    (db.withoutJob i).DistinctJobIds self := by
  intro j hj j' hj'
  exact h j (mem_joined_withoutJob.mp hj).1 j' (mem_joined_withoutJob.mp hj').1

theorem DistinctJobIds.jobById_cases (h : db.DistinctJobIds self) (jobId : String) (i : Rowid)
    (plan plan' : Plan JobJoin) :
    (∃ j, db.jobById plan self jobId = some j ∧ j.rowid = i ∧
      (db.withoutJob i).jobById plan' self jobId = none) ∨
    (∃ j, db.jobById plan self jobId = some j ∧ j.rowid ≠ i ∧
      (db.withoutJob i).jobById plan' self jobId = some j) ∨
    (db.jobById plan self jobId = none ∧
      (db.withoutJob i).jobById plan' self jobId = none) := by
  cases hj : db.jobById plan self jobId
  case none =>
    refine .inr (.inr ⟨rfl, ?_⟩)
    rw [jobById_eq_none_iff] at hj ⊢
    rintro ⟨j, hm, hi⟩
    exact hj ⟨j, (mem_joined_withoutJob.mp hm).1, hi⟩
  case some j =>
    obtain ⟨hm, hp, hd⟩ := mem_jobsById_iff.mp (jobById_mem hj)
    by_cases hi : j.rowid = i
    case neg =>
      refine .inr (.inl ⟨j, rfl, hi, ?_⟩)
      rw [h.withoutJob.jobById_eq_some_iff, mem_jobsById_iff, mem_joined_withoutJob]
      exact ⟨⟨hm, hi⟩, hp, hd⟩
    case pos =>
      refine .inl ⟨j, rfl, hi, ?_⟩
      rw [jobById_eq_none_iff]
      rintro ⟨j', hm', hp', hd'⟩
      obtain ⟨hm', hn⟩ := mem_joined_withoutJob.mp hm'
      obtain rfl := h j hm j' hm' hp hp' (hd.trans hd'.symm)
      exact hn hi

end Database

variable {ext : External} {plan plan' : Plan JobJoin} {now : DateTime} {db db' : Database}
variable {self stranger : PeerId} {i k : Rowid} {j : JobJoin} {provider : ProviderState}

theorem providerConfirmJob_congr {job : JobRecord} (ext : External) (now : DateTime)
    (consumer : PeerId) (jobHash key sig : List UInt8)
    (h : db.findByJobId plan self jobId = some job)
    (h' : db'.findByJobId plan' self jobId = some job) :
    (∃ e, providerConfirmJob ext plan now db consumer self jobId jobHash key sig = .error e ∧
      providerConfirmJob ext plan' now db' consumer self jobId jobHash key sig = .error e) ∨
    ∃ u, providerConfirmJob ext plan now db consumer self jobId jobHash key sig =
        .ok (db.updateJob job.jobRowid u) ∧
      providerConfirmJob ext plan' now db' consumer self jobId jobHash key sig =
        .ok (db'.updateJob job.jobRowid u) := by
  simp only [providerConfirmJob, h, h']
  by_cases h₁ : job.consumerPeerId ≠ consumer
  case pos => exact .inl ⟨_, if_pos h₁, if_pos h₁⟩
  simp only [if_neg h₁]
  by_cases h₂ : job.signatureConfirmedAtLocal.isSome = true
  case pos => exact .inl ⟨_, if_pos h₂, if_pos h₂⟩
  simp only [if_neg h₂]
  by_cases h₃ : job.completedAtSync.isNone = true
  case pos => exact .inl ⟨_, if_pos h₃, if_pos h₃⟩
  simp only [if_neg h₃]
  by_cases h₄ : job.reason.isSome = true
  case pos => exact .inl ⟨_, if_pos h₄, if_pos h₄⟩
  simp only [if_neg h₄]
  cases job.publicPayload <;> cases job.completedAtSync
  case some.some =>
    simp only
    split_ifs
    case pos => exact .inl ⟨_, rfl, rfl⟩
    case neg =>
      cases ext.tryDecodeProtobuf key
      case none => exact .inl ⟨_, rfl, rfl⟩
      case some publicKey =>
        simp only
        split_ifs
        case pos => exact .inl ⟨_, rfl, rfl⟩
        case neg => exact .inr ⟨_, rfl, rfl⟩
  all_goals exact .inl ⟨_, rfl, rfl⟩

theorem setJobConfirmationError_withoutJob (db : Database) (error : String) (hk : k ≠ i) :
    setJobConfirmationError (db.withoutJob i) k error =
      ((setJobConfirmationError db k error).1, (setJobConfirmationError db k error).2.withoutJob i) ∧
    (setJobConfirmationError db k error).2.serviceJobs.get? i = db.serviceJobs.get? i := by
  simp only [setJobConfirmationError, Database.withoutJob_get?, if_neg hk]
  cases db.serviceJobs.get? k
  case none => exact ⟨rfl, rfl⟩
  case some job =>
    simp only
    split_ifs
    case pos => exact ⟨rfl, rfl⟩
    case neg => exact ⟨by rw [Database.withoutJob_updateJob], Table.get?_update_ne hk.symm⟩

theorem handleConfirmJobRequest_withoutJob {request : ConfirmJobRequest} (ext : External)
    (now : DateTime) (consumer : PeerId) (hj : j.rowid ≠ i)
    (h : db.jobById plan self request.providerJobId = some j)
    (h' : (db.withoutJob i).jobById plan' self request.providerJobId = some j) :
    handleConfirmJobRequest ext plan' now self (db.withoutJob i) consumer request =
      ((handleConfirmJobRequest ext plan now self db consumer request).1,
        (handleConfirmJobRequest ext plan now self db consumer request).2.withoutJob i) ∧
    (handleConfirmJobRequest ext plan now self db consumer request).2.serviceJobs.get? i =
      db.serviceJobs.get? i := by
  have hf : db.findByJobId plan self request.providerJobId = some j.record := by
    rw [Database.findByJobId, h, Option.map_some]
  have hf' : (db.withoutJob i).findByJobId plan' self request.providerJobId = some j.record := by
    rw [Database.findByJobId, h', Option.map_some]
  rcases providerConfirmJob_congr ext now consumer request.jobHash request.consumerPublicKey
    request.consumerSignature hf hf' with ⟨e, he, he'⟩ | ⟨u, hu, hu'⟩
  case inr =>
    simp only [handleConfirmJobRequest, hu, hu']
    refine ⟨by rw [Database.withoutJob_updateJob], Table.get?_update_ne ?_⟩
    exact fun hi => hj hi.symm
  case inl =>
    simp only [handleConfirmJobRequest, he, he']
    cases e
    case panic => exact ⟨rfl, rfl⟩
    case error e =>
      simp only
      cases hr : e.response request
      case mk response stored =>
      cases stored
      case none => exact ⟨rfl, rfl⟩
      case some p =>
        obtain ⟨k, error⟩ := p
        have hk : k ≠ i := by
          obtain ⟨j', hj', rfl⟩ := providerConfirmJob_error_row he (congrArg (·.2) hr)
          exact Option.some.inj (h.symm.trans hj') ▸ hj
        obtain ⟨hs, hg⟩ := setJobConfirmationError_withoutJob db error hk
        simp only [hs]
        refine ⟨?_, ?_⟩
        · generalize setJobConfirmationError db k error = p
          obtain ⟨r, d⟩ := p
          cases r <;> rfl
        · revert hg
          generalize setJobConfirmationError db k error = p
          obtain ⟨r, d⟩ := p
          cases r <;> exact id

-- Two answers of databases that differ in the row of one job only: they are the same, and so are the
-- databases afterwards, up to that row, which stays.
structure JobAnswer.SameApart (db : Database) (i : Rowid) (answer answer' : JobAnswer) : Prop where
  response : answer'.response = answer.response
  requests : answer'.requests = answer.requests
  database : answer'.db = answer.db.withoutJob i
  row      : answer.db.serviceJobs.get? i = db.serviceJobs.get? i

-- What a peer is told about a job that is not there, or not its own.
def JobAnswer.notFound (db : Database) : JobRequest → JobAnswer
  | .getJob _                => { response := some <| .getJob .jobNotFound, db }
  | .confirmJob _ _          => { response := some <| .confirmJob .jobNotFound, db }
  | .jobConnection events _  => {
      response := if events.written then some <| .jobConnection .jobNotFound else none
      db
    }

theorem answerJobRequest_of_none (request : JobRequest)
    (h : db.jobById plan self request.providerJobId = none) :
    answerJobRequest ext plan self provider db stranger request = .notFound db request := by
  have hf : db.findByJobId plan self request.providerJobId = none := by
    rw [Database.findByJobId, h, Option.map_none]
  cases request <;> simp only [JobRequest.providerJobId] at hf
  case getJob     => simp only [answerJobRequest, handleGetJobRequest, hf, JobAnswer.notFound]
  case confirmJob =>
    simp only [answerJobRequest, handleConfirmJobRequest, providerConfirmJob, hf,
      ProviderConfirmJobError.response, JobAnswer.notFound, Option.map_some]
  case jobConnection events _ =>
    simp only [answerJobRequest, handleJobConnectionStream, hf, JobAnswer.notFound]
    cases events.written <;> rfl

theorem answerJobRequest_of_stranger (request : JobRequest)
    (h : db.jobById plan self request.providerJobId = some j) (hn : stranger ≠ j.job.consumerPeerId) :
    answerJobRequest ext plan self provider db stranger request = .notFound db request := by
  have hf : db.findByJobId plan self request.providerJobId = some j.record := by
    rw [Database.findByJobId, h, Option.map_some]
  have hr : stranger ≠ j.record.consumerPeerId := hn
  cases request <;> simp only [JobRequest.providerJobId] at hf
  case getJob =>
    simp only [answerJobRequest, handleGetJobRequest, hf, if_neg hr, JobAnswer.notFound]
  case confirmJob =>
    simp only [answerJobRequest, handleConfirmJobRequest, providerConfirmJob, hf, if_pos hr.symm,
      ProviderConfirmJobError.response, JobAnswer.notFound, Option.map_some]
  case jobConnection events _ =>
    simp only [answerJobRequest, handleJobConnectionStream, hf, if_pos hr, JobAnswer.notFound]
    cases events.written <;> rfl

theorem answerJobRequest_of_found (request : JobRequest) (hj : j.rowid ≠ i)
    (h : db.jobById plan self request.providerJobId = some j)
    (h' : (db.withoutJob i).jobById plan' self request.providerJobId = some j) :
    JobAnswer.SameApart db i (answerJobRequest ext plan self provider db stranger request)
      (answerJobRequest ext plan' self provider (db.withoutJob i) stranger request) := by
  have hf : (db.withoutJob i).findByJobId plan' self request.providerJobId =
      db.findByJobId plan self request.providerJobId := by
    rw [Database.findByJobId, Database.findByJobId, h, h']
  cases request <;> simp only [JobRequest.providerJobId] at h h' hf
  case getJob =>
    simp only [answerJobRequest, handleGetJobRequest, hf]
    exact ⟨rfl, rfl, rfl, rfl⟩
  case confirmJob now request =>
    obtain ⟨hc, hg⟩ := handleConfirmJobRequest_withoutJob ext now stranger hj h h'
    simp only [answerJobRequest, hc]
    exact ⟨rfl, rfl, rfl, hg⟩
  case jobConnection =>
    simp only [answerJobRequest, handleJobConnectionStream, hf]
    exact ⟨rfl, rfl, rfl, rfl⟩

theorem answerJobRequest_prepares (request : JobRequest)
    (h : r ∈ (answerJobRequest ext plan self provider db stranger request).requests)
    (hr : r.2 = .providerPrepareJobConnection self jobId) : jobId = request.providerJobId := by
  cases request
  case getJob     => contradiction
  case confirmJob => contradiction
  case jobConnection events request =>
    simp only [answerJobRequest, handleJobConnectionStream] at h
    split at h <;> try contradiction
    split at h <;> try contradiction
    split at h <;> try contradiction
    split at h <;> try contradiction
    split at h
    case h_1 =>
      obtain rfl := List.mem_singleton.mp h
      exact (OutboundRequestFrameData.providerPrepareJobConnection.inj hr).2.symm
    case h_2 =>
      simp only at h
      split at h
      case isTrue =>
        cases List.mem_cons.mp h
        case inl h =>
          obtain rfl := h
          exact (OutboundRequestFrameData.providerPrepareJobConnection.inj hr).2.symm
        case inr h =>
          obtain rfl := List.mem_singleton.mp h
          contradiction
      case isFalse =>
        obtain rfl := List.mem_singleton.mp h
        exact (OutboundRequestFrameData.providerPrepareJobConnection.inj hr).2.symm

-- A stranger to a job gets the answers of a Provider without this job, and leaves the job as it is.
-- To the stranger, the job is not found, and no module hears of it.
theorem answerJobRequest_sameApart (hd : db.DistinctJobIds self) (hj : j ∈ db.joined)
    (hn : stranger ≠ j.job.consumerPeerId) (plan plan' : Plan JobJoin) (request : JobRequest) :
    JobAnswer.SameApart db j.rowid
        (answerJobRequest ext plan self provider db stranger request)
        (answerJobRequest ext plan' self provider (db.withoutJob j.rowid) stranger request) ∧
      (j.snapshot.providerPeerId = self → request.providerJobId = j.job.providerJobId →
        answerJobRequest ext plan self provider db stranger request = .notFound db request) ∧
      (j.snapshot.providerPeerId = self → ∀ r ∈
        (answerJobRequest ext plan self provider db stranger request).requests,
          r.2 ≠ .providerPrepareJobConnection self j.job.providerJobId) := by
  have hs (hp : j.snapshot.providerPeerId = self)
      (hi : request.providerJobId = j.job.providerJobId) :
      answerJobRequest ext plan self provider db stranger request = .notFound db request := by
    refine answerJobRequest_of_stranger request ?_ hn
    rw [hd.jobById_eq_some_iff]
    exact Database.mem_jobsById_iff.mpr ⟨hj, hp, hi.symm⟩
  refine ⟨?_, hs, fun hp r hr he => ?_⟩
  · rcases hd.jobById_cases request.providerJobId j.rowid plan plan' with
      ⟨j', h, hi, h'⟩ | ⟨j', h, hi, h'⟩ | ⟨h, h'⟩
    · have hm := (Database.mem_jobsById_iff.mp <| Database.jobById_mem h).1
      obtain rfl := Database.joined_inj hm hj hi
      rw [answerJobRequest_of_stranger request h hn, answerJobRequest_of_none request h']
      cases request <;> exact ⟨rfl, rfl, rfl, rfl⟩
    · exact answerJobRequest_of_found request hi h h'
    · rw [answerJobRequest_of_none request h, answerJobRequest_of_none request h']
      cases request <;> exact ⟨rfl, rfl, rfl, rfl⟩
  · have hi := answerJobRequest_prepares request hr he
    rw [hs hp hi.symm] at hr
    cases request <;> contradiction

-- The Provider 0 with a job of the Consumer 1.
private def ofConsumer : Database :=
  ((JobOp.create 0 1 ⟨[1]⟩ .polygon none "job" 0).exec .sample <|
    .ofOffer ⟨[0]⟩ "offer" "protocol" "payload").1

theorem answerJobRequest_sameApart_sample : ∃ j ∈ ofConsumer.joined,
    j.job.consumerPeerId = ⟨[1]⟩ ∧
      JobAnswer.SameApart ofConsumer j.rowid
        (answerJobRequest .sample .scan ⟨[0]⟩ { lastUpdatedAt := 0 } ofConsumer ⟨[2]⟩
          (.getJob ⟨"job"⟩))
        (answerJobRequest .sample .scan ⟨[0]⟩ { lastUpdatedAt := 0 } (ofConsumer.withoutJob j.rowid)
          ⟨[2]⟩ (.getJob ⟨"job"⟩)) := by
  obtain ⟨j, hj, hc⟩ := List.any_eq_true.mp <|
    show (ofConsumer.joined.any fun j => decide (j.job.consumerPeerId = ⟨[1]⟩)) = true by
      decide +kernel
  have hc := of_decide_eq_true hc
  have hd : ofConsumer.DistinctJobIds ⟨[0]⟩ := by
    unfold Database.DistinctJobIds
    decide +kernel
  exact ⟨j, hj, hc, (answerJobRequest_sameApart hd hj (by simp [hc]) ..).1⟩

end Derouter
