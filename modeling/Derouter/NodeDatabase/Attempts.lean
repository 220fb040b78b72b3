import Derouter.NodeDatabase.Signed

open Sql Transition

namespace Derouter

-- A node together with the `confirm_job` tasks whose requests are on their way.
structure ConfirmingNode where
  db       : Database
  attempts : List UnconfirmedJob := []

namespace ConfirmingNode

inductive Label
  | write (op : DatabaseOp)
  -- The job confirmation loop spawns a task for each unconfirmed job whose Provider it finds among
  -- the discovered peers.
  | query (plan : Plan JobJoin) (discovered : UnconfirmedJob → Bool)
  -- Any response arrives at a task (`none`, if it is of another kind).
  | response (k : Nat) (now : DateTime) (response : Option ConfirmJobResponse)
  | outboundFailure (k : Nat)
  -- Any request arrives from any peer.
  | request (plan : Plan JobJoin) (now : DateTime) (fromPeerId : PeerId)
      (request : ConfirmJobRequest)

variable (ext : External) (keypair : ext.Keypair)

-- A handler that panics makes no step.
def step (s : ConfirmingNode) : Label → ConfirmingNode → Prop
  | .write op, s' => NodeDatabase.step ext keypair s.db op s'.db ∧ s'.attempts = s.attempts
  | .query plan discovered, s' => ∃ jobs,
    queryUnconfirmedJobs plan s.db (ext.peerId keypair) = some jobs ∧
      s' = { s with attempts := s.attempts ++ jobs.filter discovered }
  | .response k now response, s' => ∃ job db, s.attempts[k]? = some job ∧
    confirmJob now s.db job response = some db ∧
      s' = { db, attempts := s.attempts.eraseIdx k }
  | .outboundFailure k, s' =>
    k < s.attempts.length ∧ s' = { s with attempts := s.attempts.eraseIdx k }
  | .request plan now fromPeerId request, s' => ∃ response db,
    handleConfirmJobRequest ext plan now (ext.peerId keypair) s.db fromPeerId request =
      (some response, db) ∧ s' = { s with db }

-- None of the handlers of the confirmation path panics.
structure NeverPanics (s : ConfirmingNode) : Prop where
  confirmJob              : ∀ job ∈ s.attempts, ∀ now response,
    confirmJob now s.db job response ≠ none
  handleConfirmJobRequest : ∀ plan now fromPeerId request,
    (handleConfirmJobRequest ext plan now (ext.peerId keypair) s.db fromPeerId request).1 ≠ none
  providerConfirmJob      : ∀ plan now consumer provider jobId jobHash key signature,
    providerConfirmJob ext plan now s.db consumer provider jobId jobHash key signature ≠ .panic

end ConfirmingNode

-- Nodes with a key each. What they send to one another is among what may arrive anyhow.
def ConfirmingNodes.step {ι : Type} (ext : External) (keypair : ι → ext.Keypair)
    (nodes : ι → ConfirmingNode) (l : ι × ConfirmingNode.Label) (nodes' : ι → ConfirmingNode) :
    Prop :=
  (nodes l.1).step ext (keypair l.1) l.2 (nodes' l.1) ∧ ∀ i, i ≠ l.1 → nodes' i = nodes i

variable {ext : External} {keypair : ext.Keypair} {db db' : Database} {i : Rowid}

theorem JobRow.Evolves.consumerSignature_isSome {self : PeerId} {r r' : JobRow}
    (h : r.Evolves self r') (hs : r.consumerSignature.isSome) : r'.consumerSignature.isSome := by
  cases h
  case inl h => exact h ▸ hs
  case inr h =>
    obtain ⟨_, _, h⟩ := h
    cases h
    case providerConfirm  => rfl
    case consumerComplete => rfl
    all_goals exact hs

theorem Database.Advances.write (h : db.Advances ext (ext.peerId keypair) False db') :
    NodeDatabase.Write ext keypair db db' := by
  cases h
  case kept h => exact .kept h
  case executed op hl hc =>
    refine .executed op hl ?_
    cases op
    case consumerComplete => exact (hc trivial).elim
    all_goals trivial

-- A job with this row ID is signed.
def Database.HasSigned (db : Database) (i : Rowid) : Prop :=
  ∃ j ∈ db.joined, j.rowid = i ∧ j.job.consumerSignature.isSome

theorem NodeDatabase.Write.hasSigned (h : Write ext keypair db db')
    (hs : db.HasSigned i) : db'.HasSigned i := by
  obtain ⟨j, hj, hi, hs⟩ := hs
  obtain ⟨j', hj', hb⟩ := h.joined hj
  exact ⟨j', hj', hb.rowid.trans hi, hb.evolves.consumerSignature_isSome hs⟩

theorem setJobConfirmationError_ne_invalidJobId {j : JobJoin} (hj : j ∈ db.joined)
    (error : String) : (setJobConfirmationError db j.rowid error).1 ≠ .invalidJobId := by
  simp only [setJobConfirmationError, (Database.mem_joined_iff.mp hj).1]
  split <;> simp

theorem consumerConfirmJob_of_signed (now : DateTime) (h : db.HasSigned i) :
    (∃ p, consumerConfirmJob now db i = .ok p) ∨
      consumerConfirmJob now db i = .err .alreadyConfirmed := by
  obtain ⟨j, hj, rfl, hs⟩ := h
  obtain ⟨hr, _⟩ := Database.mem_joined_iff.mp hj
  obtain ⟨_, _, hf⟩ := Database.findByRowid_of_row <|
    Database.updateJob_get?_self (u := .consumerConfirm now) hr
  simp only [consumerConfirmJob, hr]
  split
  case isTrue  => exact .inr rfl
  case isFalse =>
    split
    case isTrue hn => simp [Option.isNone_iff_eq_none.mp hn] at hs
    case isFalse   => exact .inl ⟨_, by rw [hf]⟩

theorem confirmJob_ne_none {job : UnconfirmedJob} (h : db.HasSigned job.rowid) :
    confirmJob now db job response ≠ none := by
  simp only [confirmJob]
  split
  case h_1 =>
    cases consumerConfirmJob_of_signed now h
    case inl hc =>
      obtain ⟨_, hc⟩ := hc
      simp [hc]
    case inr hc => simp [hc]
  case h_2 => simp
  case h_3 =>
    obtain ⟨j, hj, hi, _⟩ := h
    have hv := setJobConfirmationError_ne_invalidJobId hj (response.getD .unexpectedResponse).debug
    rw [hi] at hv
    split
    case h_3 he => exact absurd (congrArg (·.1) he) hv
    all_goals simp

-- A synchronized completion time comes with a public payload, so both can be unwrapped.
theorem providerConfirmJob_ne_panic {ext : External} {db : Database} {plan : Plan JobJoin}
    (h : ∀ j ∈ db.joined, j.job.completedAtSync.isSome → j.job.publicPayload.isSome) :
    providerConfirmJob ext plan now db consumer provider jobId jobHash key signature ≠ .panic := by
  simp only [providerConfirmJob, Database.findByJobId]
  cases hj : db.jobById plan provider jobId
  case none   => simp
  case some j =>
    have hp := h j (Database.mem_jobsById_iff.mp <| Database.jobById_mem hj).1
    simp only [Option.map_some, JobJoin.record]
    split
    case isTrue => simp
    case isFalse =>
    split
    case isTrue => simp
    case isFalse =>
    split
    case isTrue => simp
    case isFalse hc =>
    split
    case isTrue => simp
    case isFalse =>
    split
    case h_1 =>
      split
      case isTrue => simp
      case isFalse =>
      split
      case h_1 => simp
      case h_2 => split <;> simp
    case h_2 hn =>
      rw [Option.isNone_iff_eq_none, ← ne_eq, ← Option.isSome_iff_ne_none] at hc
      obtain ⟨t, ht⟩ := Option.isSome_iff_exists.mp hc
      obtain ⟨pub, hp⟩ := Option.isSome_iff_exists.mp (hp hc)
      exact absurd ht (hn pub t hp)

theorem handleConfirmJobRequest_ne_none {plan : Plan JobJoin} {self : PeerId}
    (h : ∀ j ∈ db.joined, j.job.completedAtSync.isSome → j.job.publicPayload.isSome)
    (request : ConfirmJobRequest) :
    (handleConfirmJobRequest ext plan now self db consumer request).1 ≠ none := by
  simp only [handleConfirmJobRequest]
  split
  case h_1 => simp
  case h_2 hc => exact absurd hc (providerConfirmJob_ne_panic h)
  case h_3 e hc =>
    split
    case h_1 => simp
    case h_2 response i error he =>
      obtain ⟨j, hj, rfl⟩ := providerConfirmJob_error_row hc (congrArg (·.2) he)
      have hj := (Database.mem_jobsById_iff.mp <| Database.jobById_mem hj).1
      have hv := setJobConfirmationError_ne_invalidJobId hj error
      split
      case h_2 hs => exact absurd (congrArg (·.1) hs) hv
      all_goals simp

theorem queryUnconfirmedJobs_hasSigned {plan : Plan JobJoin} {jobs : List UnconfirmedJob}
    (h : queryUnconfirmedJobs plan db consumer = some jobs) (hj : job ∈ jobs) :
    db.HasSigned job.rowid := by
  obtain ⟨j, hm, _, _, hu⟩ := queryUnconfirmedJobs_mem h hj
  obtain ⟨hi, _, _, _, hs⟩ := JobJoin.unconfirmed_eq_some hu
  exact ⟨j, hm, hi.symm, hs ▸ rfl⟩

namespace ConfirmingNode

variable {s s' : ConfirmingNode} {l : Label}

-- Each task was spawned for a job that was signed, and that still is.
structure Sound (ext : External) (keypair : ext.Keypair) (s : ConfirmingNode) : Prop where
  consistent : ∀ j ∈ s.db.joined, j.Consistent ext keypair
  signed     : ∀ job ∈ s.attempts, s.db.HasSigned job.rowid

theorem Sound.write {attempts : List UnconfirmedJob} (h : s.Sound ext keypair)
    (hw : NodeDatabase.Write ext keypair s.db db) (ha : ∀ job ∈ attempts, job ∈ s.attempts) :
    Sound ext keypair { db, attempts } where
  consistent := hw.all h.consistent (fun _ => .of_new) fun _ _ => .becomes
  signed     := fun job hj => hw.hasSigned (h.signed job (ha job hj))

theorem Sound.step (h : s.Sound ext keypair) (hs : s.step ext keypair l s') :
    s'.Sound ext keypair := by
  cases l <;> simp only [ConfirmingNode.step] at hs
  case write =>
    obtain ⟨hw, ha⟩ := hs
    exact h.write (NodeDatabase.step_write hw) fun _ hj => ha ▸ hj
  case query =>
    obtain ⟨jobs, hq, rfl⟩ := hs
    refine ⟨h.consistent, fun job hj => ?_⟩
    cases List.mem_append.mp hj
    case inl hj => exact h.signed job hj
    case inr hj => exact queryUnconfirmedJobs_hasSigned hq (List.mem_filter.mp hj).1
  case response =>
    obtain ⟨_, _, _, hc, rfl⟩ := hs
    exact h.write (Database.Advances.confirmJob hc).write fun _ => List.mem_of_mem_eraseIdx
  case outboundFailure =>
    obtain ⟨_, rfl⟩ := hs
    exact ⟨h.consistent, fun job hj => h.signed job (List.mem_of_mem_eraseIdx hj)⟩
  case request =>
    obtain ⟨_, _, hc, rfl⟩ := hs
    have hd := congrArg (·.2) hc
    exact h.write (hd ▸ Database.Advances.confirmJobRequest).write fun _ => id

theorem Sound.neverPanics (h : s.Sound ext keypair) : s.NeverPanics ext keypair where
  confirmJob              := fun job hj _ _ => confirmJob_ne_none (h.signed job hj)
  handleConfirmJobRequest := fun _ _ _ request =>
    handleConfirmJobRequest_ne_none (fun j hj => (h.consistent j hj).publicPayload) request
  providerConfirmJob      := fun _ _ _ _ _ _ _ _ =>
    providerConfirmJob_ne_panic fun j hj => (h.consistent j hj).publicPayload

end ConfirmingNode

namespace ConfirmingNodes

variable {ι : Type} {keypair : ι → ext.Keypair} {nodes₀ nodes : ι → ConfirmingNode}
variable {tr : List ((ι → ConfirmingNode) × ι × ConfirmingNode.Label)}

-- In every state of every node, the confirmation path does not panic, whatever is sent to the node
-- and whatever else it does in the meantime.
theorem neverPanics_of_run (h : ∀ i, (nodes₀ i).db.serviceJobs = ∅ ∧ (nodes₀ i).attempts = [])
    (r : Run (step ext keypair) nodes₀ tr nodes) (i : ι) :
    (nodes i).NeverPanics ext (keypair i) := by
  have hs : ∀ i, (nodes i).Sound ext (keypair i) := by
    refine r.invariant (I := fun nodes => ∀ i, (nodes i).Sound ext (keypair i)) (fun i => ?_) ?_
    · constructor
      case consistent => simp [Database.joined_of_no_jobs (h i).1]
      case signed     => simp [(h i).2]
    · intro nodes l nodes' hs hl i
      by_cases hi : i = l.1
      case pos => exact hi ▸ (hs l.1).step hl.1
      case neg => exact hl.2 i hi ▸ hs i
  exact (hs i).neverPanics

theorem step_update [DecidableEq ι] {i : ι} {l : ConfirmingNode.Label} {s : ConfirmingNode}
    (h : (nodes i).step ext (keypair i) l s) :
    step ext keypair nodes (i, l) (Function.update nodes i s) := by
  refine ⟨?_, fun j hj => Function.update_of_ne hj ..⟩
  rwa [Function.update_self]

private def creates : JobOp :=
  .create 0 1 ⟨[1]⟩ .polygon none "job" 0

private def completes : JobOp :=
  .consumerComplete .scan 0 ⟨[1]⟩ ⟨[0]⟩ "job" none "done" none 0 (External.sample.sign ⟨[1]⟩)

private def created : Database :=
  (creates.exec .sample <| .ofOffer ⟨[0]⟩ "offer" "protocol" "payload").1

private def completed : Database :=
  (completes.exec .sample created).1

-- The node 1 completes a job at the node 0, and spawns a task that confirms it.
theorem neverPanics_of_run_sample : ∃ nodes₀ tr nodes,
    Run (step .sample fun i : Bool => if i then PeerId.mk [1] else ⟨[0]⟩) nodes₀ tr nodes ∧
      (nodes true).attempts ≠ [] ∧ (nodes true).NeverPanics .sample (PeerId.mk [1]) := by
  let nodes₀ (i : Bool) : ConfirmingNode :=
    if i then ⟨.ofOffer ⟨[0]⟩ "offer" "protocol" "payload", []⟩ else ⟨∅, []⟩
  let keypair (i : Bool) : External.sample.Keypair := if i then PeerId.mk [1] else ⟨[0]⟩
  obtain ⟨jobs, hq, hj⟩ := Option.any_eq_true _ _ |>.mp <|
    show ((queryUnconfirmedJobs .scan completed ⟨[1]⟩).any fun jobs => !jobs.isEmpty) = true by
      decide +kernel
  have h₁ : (nodes₀ true).step .sample (keypair true) (.write (.job creates)) ⟨created, []⟩ :=
    ⟨⟨⟨trivial, trivial⟩, rfl⟩, rfl⟩
  have h₂ : ConfirmingNode.step .sample (keypair true) ⟨created, []⟩ (.write (.job completes))
      ⟨completed, []⟩ := ⟨⟨⟨rfl, rfl⟩, rfl⟩, rfl⟩
  have h₃ : ConfirmingNode.step .sample (keypair true) ⟨completed, []⟩
      (.query .scan fun _ => true) ⟨completed, jobs⟩ := ⟨jobs, hq, by simp⟩
  have r : Run (step .sample keypair) nodes₀ _ _ :=
    .cons (step_update h₁) <| .cons (step_update h₂) <| .single (step_update h₃)
  refine ⟨nodes₀, _, _, r, ?_, neverPanics_of_run (fun i => ?_) r true⟩
  · rw [Function.update_self]
    simpa using hj
  · cases i
    case false => exact ⟨rfl, rfl⟩
    case true  => exact ⟨Table.ext (by decide +kernel), rfl⟩

end ConfirmingNodes
end Derouter
