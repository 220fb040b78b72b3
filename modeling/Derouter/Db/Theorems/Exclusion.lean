import Derouter.Db.Offers
import Derouter.Db.Theorems.JobOp
import Derouter.Lib.Transition

open Sql Transition

namespace Derouter

namespace JobRow

-- The columns that only a completion fills, and those that are filled after one.
structure Consistent (r : JobRow) : Prop where
  publicPayload             : r.publicPayload.isSome → r.completedAtSync.isSome
  consumerSignature         : r.consumerSignature.isSome → r.completedAtSync.isSome
  signatureConfirmedAtLocal : r.signatureConfirmedAtLocal.isSome → r.completedAtSync.isSome

variable {r r' : JobRow} {op : JobOp}

theorem New.consistent (h : r.New) : r.Consistent where
  publicPayload             := by simp [h.publicPayload]
  consumerSignature         := by simp [h.consumerSignature]
  signatureConfirmedAtLocal := by simp [h.signatureConfirmedAtLocal]

namespace Change

theorem consistent (h : r.Change op r') (hr : r.Consistent) : r'.Consistent := by
  cases h
  case fail                 => exact ⟨hr.publicPayload, hr.consumerSignature, hr.3⟩
  case setConfirmationError => exact ⟨hr.publicPayload, hr.consumerSignature, hr.3⟩
  case providerComplete     => exact ⟨fun _ => rfl, fun _ => rfl, fun _ => rfl⟩
  case providerConfirm hc   => exact ⟨fun _ => hc, fun _ => hc, fun _ => hc⟩
  case consumerComplete     => exact ⟨fun _ => rfl, fun _ => rfl, fun _ => rfl⟩
  case consumerConfirm hc   =>
    exact ⟨hr.publicPayload, hr.consumerSignature, fun _ => hr.consumerSignature hc⟩

theorem reason (h : r.Change op r') :
    r'.reason.isSome ↔ r.reason.isSome ∨ op.event = .failed := by
  cases h <;> simp [JobOp.event, JobUpdate.fail, JobUpdate.setConfirmationError, JobUpdate.providerComplete,
    JobUpdate.providerConfirm, JobUpdate.consumerComplete, JobUpdate.consumerConfirm]

theorem completedAtSync (h : r.Change op r') :
    r'.completedAtSync.isSome ↔ r.completedAtSync.isSome ∨ op.event = .completed := by
  cases h <;> simp [JobOp.event, JobUpdate.fail, JobUpdate.setConfirmationError, JobUpdate.providerComplete,
    JobUpdate.providerConfirm, JobUpdate.consumerComplete, JobUpdate.consumerConfirm]

theorem reason_of_completed (h : r.Change op r') (he : op.event = .completed) :
    r.reason = none := by
  cases h <;> first | assumption | simp [JobOp.event] at he

theorem completedAtLocal_of_failed (h : r.Change op r') (he : op.event = .failed) :
    r.reason = none ∧ r.completedAtLocal = none := by
  cases h <;> simp only [JobOp.event, reduceCtorEq] at he
  case fail hr hc => exact ⟨hr, hc⟩

end Change
end JobRow

-- The branch of `fail_job` that ends a completed job: `provider_complete_job` sets no local
-- completion time, which is all that `fail_job` looks at.
def JobOp.FailsCompleted (db : Database) (op : JobOp) : Prop :=
  op.event = .failed ∧ ∃ i r, op.addressed db = some i ∧ db.serviceJobs.get? i = some r ∧
    r.reason = none ∧ r.completedAtLocal = none ∧ r.completedAtSync.isSome

namespace JobHistory

-- Failing and completing exclude each other, in what was returned and in what is stored.
structure Exclusive (s : JobHistory) : Prop where
  events : ∀ i, ¬(s.Failed i ∧ s.Completed i)
  rows   : ∀ i r, s.db.serviceJobs.get? i = some r → r.reason.isSome →
    r.completedAtSync = none ∧ r.publicPayload = none ∧ r.signatureConfirmedAtLocal = none

-- The events of a history agree with the rows of its database.
structure Faithful (s : JobHistory) : Prop where
  consistent : ∀ {i r}, s.db.serviceJobs.get? i = some r → r.Consistent
  reason     : ∀ {i r}, s.db.serviceJobs.get? i = some r → (r.reason.isSome ↔ s.Failed i)
  completed  : ∀ {i r}, s.db.serviceJobs.get? i = some r → (r.completedAtSync.isSome ↔ s.Completed i)
  row        : ∀ {i e}, (i, e) ∈ s.events → (s.db.serviceJobs.get? i).isSome

variable {ext : External} {s : JobHistory} {op : JobOp}

theorem Exclusive.of_events (hf : s.Faithful) (h : ∀ i, ¬(s.Failed i ∧ s.Completed i)) :
    s.Exclusive where
  events := h
  rows   := by
    intro i r hr hs
    have hn : ¬r.completedAtSync.isSome := fun hc =>
      h i ⟨hf.reason hr |>.mp hs, hf.completed hr |>.mp hc⟩
    have hc := hf.consistent hr
    refine ⟨by simpa using hn, ?_, ?_⟩
    · simpa using mt hc.publicPayload hn
    · simpa using mt hc.signatureConfirmedAtLocal hn

theorem exec_cases (ext : External) (s : JobHistory) (op : JobOp) :
    s.exec ext op = s ∨
    (∃ r, r.New ∧ (s.exec ext op).db.serviceJobs = s.db.serviceJobs.insert r ∧
      (s.exec ext op).events = (s.db.serviceJobs.nextRowid, .other) :: s.events) ∨
    (∃ i r u, op.addressed s.db = some i ∧ s.db.serviceJobs.get? i = some r ∧
      r.Change op (u.set r) ∧ (s.exec ext op).db = s.db.updateJob i u ∧
      (s.exec ext op).events = (i, op.event) :: s.events) := by
  have h := op.exec_effect ext s.db
  simp only [exec]
  generalize op.exec ext s.db = p at h
  cases h
  case unchanged             => exact .inl rfl
  case created hn he hj _    => exact .inr <| .inl ⟨_, hn, hj, by simp [record, he]⟩
  case changed u ha hr hc    => exact .inr <| .inr ⟨_, _, u, ha, hr, hc, rfl, rfl⟩

theorem Faithful.exec (hf : s.Faithful) : (s.exec ext op).Faithful := by
  rcases exec_cases ext s op with h | ⟨r, hn, hj, he⟩ | ⟨i, r, u, _, hr, hc, hd, he⟩
  case inl => rwa [h]
  case inr.inl =>
    have hx : ∀ e, (s.db.serviceJobs.nextRowid, e) ∉ s.events := fun e h => by
      simpa using hf.row h
    constructor
    case consistent =>
      intro i r' h
      rcases Table.get?_insert_cases (hj ▸ h) with ⟨_, rfl⟩ | h
      · exact hn.consistent
      · exact hf.consistent h
    case reason =>
      intro i r' h
      rcases Table.get?_insert_cases (hj ▸ h) with ⟨rfl, rfl⟩ | h
      · simp [Failed, he, hn.reason, hx]
      · simp [Failed, he, hf.reason h]
    case completed =>
      intro i r' h
      rcases Table.get?_insert_cases (hj ▸ h) with ⟨rfl, rfl⟩ | h
      · simp [Completed, he, hn.completedAtSync, hx]
      · simp [Completed, he, hf.completed h]
    case row =>
      intro i e h
      rw [he, List.mem_cons] at h
      rw [hj, Table.get?_insert]
      split
      case isTrue     => rfl
      case isFalse hi =>
        rcases h with h | h
        · exact absurd (Prod.mk.inj h).1 hi
        · exact hf.row h
  case inr.inr =>
    have hg : ∀ {k r'}, (s.exec ext op).db.serviceJobs.get? k = some r' →
        (k = i ∧ r' = u.set r) ∨ (k ≠ i ∧ s.db.serviceJobs.get? k = some r') := by
      intro k r' h
      rw [hd] at h
      rcases Table.get?_update_cases h with ⟨rfl, _, hr', rfl⟩ | h
      · exact .inl ⟨rfl, by rw [Option.some.inj <| hr.symm.trans hr']⟩
      · exact .inr h
    constructor
    case consistent =>
      intro k r' h
      rcases hg h with ⟨rfl, rfl⟩ | ⟨_, h⟩
      · exact hc.consistent <| hf.consistent hr
      · exact hf.consistent h
    case reason =>
      intro k r' h
      rcases hg h with ⟨rfl, rfl⟩ | ⟨hk, h⟩
      · simp [Failed, he, hc.reason, hf.reason hr, or_comm, eq_comm]
      · simp [Failed, he, hk, hf.reason h]
    case completed =>
      intro k r' h
      rcases hg h with ⟨rfl, rfl⟩ | ⟨hk, h⟩
      · simp [Completed, he, hc.completedAtSync, hf.completed hr, or_comm, eq_comm]
      · simp [Completed, he, hk, hf.completed h]
    case row =>
      intro k e h
      rw [hd, Database.updateJob, Table.isSome_get?_update]
      rw [he, List.mem_cons] at h
      rcases h with h | h
      · simp [(Prod.mk.inj h).1, hr]
      · exact hf.row h

theorem exec_of_fails (ext : External) (hf : s.Faithful) (h : op.FailsCompleted s.db) :
    ∃ i, (s.exec ext op).Failed i ∧ (s.exec ext op).Completed i := by
  obtain ⟨he, i, r, ha, hr, hn, hl, hs⟩ := h
  cases op <;> simp only [JobOp.event, reduceCtorEq] at he
  case fail plan now provider jobId why cls priv =>
    obtain ⟨j, hj, rfl⟩ := Option.map_eq_some_iff.mp ha
    obtain rfl := Option.some.inj <| hr.symm.trans <| Database.jobById_row hj
    have hc := hf.completed hr |>.mp hs
    refine ⟨j.rowid, ?_, ?_⟩
    · simp [Failed, exec, record, JobOp.exec, JobOp.event, failJob_of_jobById hj hn hl, hj]
    · simpa [Completed, exec, record, JobOp.exec, JobOp.event, failJob_of_jobById hj hn hl, hj]
        using hc

theorem exclusive_exec_iff (hf : s.Faithful) (hx : s.Exclusive) :
    (s.exec ext op).Exclusive ↔ ¬op.FailsCompleted s.db := by
  constructor
  case mp =>
    intro h hb
    have ⟨i, hi⟩ := exec_of_fails ext hf hb
    exact h.events i hi
  case mpr =>
    intro hb
    refine .of_events hf.exec fun k ⟨hk, hk'⟩ => ?_
    rcases exec_cases ext s op with h | ⟨r, _, _, he⟩ | ⟨i, r, u, ha, hr, hc, _, he⟩
    case inl     => exact hx.events k ⟨h ▸ hk, h ▸ hk'⟩
    case inr.inl =>
      simp only [Failed, Completed, he, List.mem_cons, Prod.mk.injEq, reduceCtorEq, and_false,
        false_or] at hk hk'
      exact hx.events k ⟨hk, hk'⟩
    case inr.inr =>
      simp only [Failed, Completed, he, List.mem_cons, Prod.mk.injEq] at hk hk'
      rcases hk with ⟨rfl, hk⟩ | hk <;> rcases hk' with ⟨hi, hk'⟩ | hk'
      · exact absurd (hk.trans hk'.symm) nofun
      · have ⟨hn, hl⟩ := hc.completedAtLocal_of_failed hk.symm
        exact hb ⟨hk.symm, k, r, ha, hr, hn, hl, hf.completed hr |>.mpr hk'⟩
      · have hs := hf.reason hr |>.mpr (hi ▸ hk)
        simp [hc.reason_of_completed hk'.symm] at hs
      · exact hx.events k ⟨hk, hk'⟩

def step (ext : External) : JobHistory → JobOp → JobHistory → Prop :=
  ofFn fun s op => some (s.exec ext op)

theorem Faithful.of_empty (h : s.db.serviceJobs = ∅) (he : s.events = []) : s.Faithful := by
  constructor <;> simp [h, he]

theorem Exclusive.of_empty (h : s.db.serviceJobs = ∅) (he : s.events = []) : s.Exclusive := by
  constructor <;> simp [h, he, Failed]

-- Failing and completing exclude each other in all states of a run exactly if no call of the run
-- fails a job that the Provider's completion has completed.
theorem exclusive_iff_no_fails_completed {db : Database} {tr : List (JobHistory × JobOp)}
    {s : JobHistory} (h : db.serviceJobs = ∅) (r : Run (step ext) { db } tr s) :
    Run.Always Exclusive tr s ↔ Meets (fun s op => ¬op.FailsCompleted s.db) tr := by
  refine Run.always_iff_meets (I := Faithful) r (.of_empty h rfl) (.of_empty h rfl) ?_ ?_
  case _ =>
    intro s op s' hf h
    exact Option.some.inj h ▸ hf.exec
  case _ =>
    intro s op s' hf hx h
    exact Option.some.inj h ▸ exclusive_exec_iff hf hx

private def createSample : JobOp :=
  .create 0 1 ⟨[1]⟩ .polygon none "job" 0

private def completeSample : JobOp :=
  .providerComplete .scan 0 ⟨[0]⟩ "job" (some "1") none "done"

private def failSample : JobOp :=
  .fail .scan 0 ⟨[0]⟩ "job" "reason" none none

private def sampleHistory : JobHistory where
  db := .ofOffer ⟨[0]⟩ "offer" "protocol" "payload"

theorem exclusive_iff_no_fails_completed_sample :
    ∃ tr s, Run (step .sample) sampleHistory tr s ∧ s.Failed 1 ∧
      (Run.Always Exclusive tr s ↔ Meets (fun s op => ¬op.FailsCompleted s.db) tr) := by
  have r : Run (step .sample) sampleHistory _ _ :=
    .cons (l := createSample) rfl <| .cons (l := failSample) rfl .nil
  exact ⟨_, _, r, by unfold Failed; decide +kernel, exclusive_iff_no_fails_completed rfl r⟩

-- A job is created, completed by its Provider and then failed.
theorem not_exclusive : ¬∀ (ext : External) (db : Database) (tr : List (JobHistory × JobOp))
    (s : JobHistory), db.serviceJobs = ∅ → Run (step ext) { db } tr s → s.Exclusive := by
  intro h
  have r : Run (step .sample) sampleHistory _ _ :=
    .cons (l := createSample) rfl <| .cons (l := completeSample) rfl <|
      .cons (l := failSample) rfl .nil
  have hx := h _ _ _ _ rfl r
  refine hx.events 1 ⟨?_, ?_⟩
  · unfold Failed; decide +kernel
  · unfold Completed; decide +kernel

end JobHistory
end Derouter
