import Derouter.NodeDatabase.Rows

open Sql Transition

namespace Derouter

variable {ext : External} {keypair : ext.Keypair} {db db₀ : Database} {j j' : JobJoin}

-- What holds of each job of a node, whoever its Consumer and its Provider are.
structure JobJoin.Consistent (ext : External) (keypair : ext.Keypair) (j : JobJoin) : Prop where
  -- A node that is not the Provider of a job only signs it when it completes it as the Consumer.
  settled       : j.snapshot.providerPeerId ≠ ext.peerId keypair → j.job.consumerSignature.isSome →
    j.Settled ext keypair
  signed        : j.job.completedAtLocal.isSome → j.job.reason = none →
    j.job.hash.isSome ∧ j.job.consumerSignature.isSome
  confirmed     : j.job.signatureConfirmedAtLocal.isSome →
    j.job.consumerSignature.isSome ∧ j.job.confirmationError = none
  publicPayload : j.job.completedAtSync.isSome → j.job.publicPayload.isSome

namespace JobJoin

theorem Settled.congr (h : j.Settled ext keypair) (ht : j.job.SameTerms j'.job)
    (hk : j.snapshot.SameKey j'.snapshot) (hr : j'.job.reason = j.job.reason)
    (hl : j'.job.completedAtLocal = j.job.completedAtLocal) (hh : j'.job.hash = j.job.hash)
    (hs : j'.job.consumerSignature = j.job.consumerSignature) : j'.Settled ext keypair where
  reason            := hr ▸ h.reason
  completedAtLocal  := hl ▸ h.completedAtLocal
  completedAtSync   := ht.completedAtSync ▸ h.completedAtSync
  publicPayload     := ht.publicPayload ▸ h.publicPayload
  hash              := (hh.trans h.hash).trans (consumerHash_congr ht hk)
  consumerSignature := by rw [hs, hh, h.consumerSignature]

namespace Consistent

theorem of_new (h : j.job.New) : j.Consistent ext keypair where
  settled       := by simp [h.consumerSignature]
  signed        := by simp [h.completedAtLocal]
  confirmed     := by simp [h.signatureConfirmedAtLocal]
  publicPayload := by simp [h.completedAtSync]

theorem settled_becomes (h : j.Consistent ext keypair) (hb : j.Becomes ext keypair j')
    (hn : j'.snapshot.providerPeerId ≠ ext.peerId keypair) (hs : j'.job.consumerSignature.isSome) :
    j'.Settled ext keypair := by
  rw [hb.provider] at hn
  cases hb.job
  case inl he =>
    rw [he] at hs
    have ht : j.job.SameTerms j'.job := he ▸ ⟨rfl, rfl, rfl, rfl, rfl, rfl, rfl⟩
    exact (h.settled hn hs).congr ht hb.snapshot (he ▸ rfl) (he ▸ rfl) (he ▸ rfl) (he ▸ rfl)
  case inr he =>
    obtain ⟨op, _, hp, hcc, hc⟩ := he
    generalize hr : j'.job = r at hc hs
    cases hc
    case fail hc =>
      exact absurd (h.settled hn hs).completedAtLocal (by simp [hc])
    case providerComplete hc =>
      exact absurd (h.settled hn hs).completedAtSync (by simp [hc])
    case providerConfirm  => exact absurd (hp trivial) hn
    case consumerComplete => exact hcc trivial
    all_goals
      have ht : j.job.SameTerms j'.job := hr ▸ ⟨rfl, rfl, rfl, rfl, rfl, rfl, rfl⟩
      exact (h.settled hn hs).congr ht hb.snapshot (hr ▸ rfl) (hr ▸ rfl) (hr ▸ rfl) (hr ▸ rfl)

theorem signed_change {r r' : JobRow} {op : JobOp} (h : r.Change op r')
    (hr : r.completedAtLocal.isSome → r.reason = none → r.hash.isSome ∧ r.consumerSignature.isSome)
    (hl : r'.completedAtLocal.isSome) (hn : r'.reason = none) :
    r'.hash.isSome ∧ r'.consumerSignature.isSome := by
  cases h
  case fail             => contradiction
  case providerConfirm  => exact ⟨(hr hl hn).1, rfl⟩
  case consumerComplete => exact ⟨rfl, rfl⟩
  all_goals exact hr hl hn

theorem confirmed_change {r r' : JobRow} {op : JobOp} (h : r.Change op r')
    (hr : r.signatureConfirmedAtLocal.isSome →
      r.consumerSignature.isSome ∧ r.confirmationError = none)
    (hs : r'.signatureConfirmedAtLocal.isSome) :
    r'.consumerSignature.isSome ∧ r'.confirmationError = none := by
  cases h
  case setConfirmationError hn => exact absurd hs (by simp [JobUpdate.setConfirmationError, hn])
  case providerConfirm         => exact ⟨rfl, rfl⟩
  case consumerComplete        => exact ⟨rfl, (hr hs).2⟩
  case consumerConfirm hc      => exact ⟨hc, rfl⟩
  all_goals exact hr hs

theorem publicPayload_change {r r' : JobRow} {op : JobOp} (h : r.Change op r')
    (hr : r.completedAtSync.isSome → r.publicPayload.isSome) (hs : r'.completedAtSync.isSome) :
    r'.publicPayload.isSome := by
  cases h
  case providerComplete => rfl
  case consumerComplete => rfl
  all_goals exact hr hs

theorem becomes (h : j.Consistent ext keypair) (hb : j.Becomes ext keypair j') :
    j'.Consistent ext keypair where
  settled       := h.settled_becomes hb
  signed        := by
    cases hb.evolves
    case inl he => exact he ▸ h.signed
    case inr he =>
      obtain ⟨_, _, hc⟩ := he
      exact signed_change hc h.signed
  confirmed     := by
    cases hb.evolves
    case inl he => exact he ▸ h.confirmed
    case inr he =>
      obtain ⟨_, _, hc⟩ := he
      exact confirmed_change hc h.confirmed
  publicPayload := by
    cases hb.evolves
    case inl he => exact he ▸ h.publicPayload
    case inr he =>
      obtain ⟨_, _, hc⟩ := he
      exact publicPayload_change hc h.publicPayload

end Consistent

theorem awaitsConfirmation_signed {consumer : PeerId} (h : j.awaitsConfirmation consumer = true) :
    j.job.consumerSignature.isSome := by
  simp only [awaitsConfirmation, Bool.and_eq_true] at h
  exact h.1.2

theorem Settled.unconfirmed_isSome (h : j.Settled ext keypair) : j.unconfirmed.isSome := by
  obtain ⟨_, hh⟩ := Option.isSome_iff_exists.mp h.hash_isSome
  obtain ⟨_, hs⟩ := Option.isSome_iff_exists.mp h.consumerSignature_isSome
  simp [unconfirmed, hh, hs]

end JobJoin

namespace NodeDatabase

variable {tr : List (Database × DatabaseOp)}

theorem consistent_of_run (h : db₀.serviceJobs = ∅) (r : Run (step ext keypair) db₀ tr db) :
    ∀ j ∈ db.joined, j.Consistent ext keypair := by
  refine run_all r ?_ (fun _ => .of_new) fun _ _ => .becomes
  simp [Database.joined_of_no_jobs h]

-- What the scheduler sends to another Provider is a settled job, with the node's signature of the
-- hash of its current columns.
theorem settled_of_run (h : db₀.serviceJobs = ∅) (r : Run (step ext keypair) db₀ tr db) :
    (∀ plan jobs, queryUnconfirmedJobs plan db (ext.peerId keypair) = some jobs → ∀ job ∈ jobs,
      job.providerPeerId ≠ ext.peerId keypair → ∃ j ∈ db.joined, j.unconfirmed = some job ∧
        j.Settled ext keypair ∧ j.consumerHash ext = some job.hash ∧
        job.consumerSignature = ext.sign keypair job.hash) ∧
    (∀ j ∈ db.joined, j.awaitsConfirmation (ext.peerId keypair) = true →
      j.snapshot.providerPeerId ≠ ext.peerId keypair →
        j.Settled ext keypair ∧ j.unconfirmed.isSome) ∧
    (∀ j ∈ db.joined, j.job.completedAtLocal.isSome → j.job.reason = none →
      j.job.consumerPeerId = ext.peerId keypair →
        j.job.hash.isSome ∧ j.job.consumerSignature.isSome) := by
  have hc := consistent_of_run h r
  refine ⟨?_, ?_, fun j hj hl hr _ => (hc j hj).signed hl hr⟩
  · intro plan jobs hq job hm hn
    obtain ⟨j, hj, _, _, hu⟩ := queryUnconfirmedJobs_mem hq hm
    obtain ⟨_, hp, _, hh, hs⟩ := JobJoin.unconfirmed_eq_some hu
    have hd := (hc j hj).settled (hp ▸ hn) (hs ▸ rfl)
    refine ⟨j, hj, hu, hd, hd.hash.symm.trans hh, ?_⟩
    have he := hd.consumerSignature
    rwa [hs, hh, Option.map_some, Option.some.injEq] at he
  · intro j hj ha hn
    have hd := (hc j hj).settled hn (JobJoin.awaitsConfirmation_signed ha)
    exact ⟨hd, hd.unconfirmed_isSome⟩

-- The node 1 creates a job at the Provider 0, and completes it.
private def completes : List DatabaseOp := [
  .job (.create 0 1 ⟨[1]⟩ .polygon none "job" 0),
  .job (.consumerComplete .scan 0 ⟨[1]⟩ ⟨[0]⟩ "job" (some "1") "done" none 0
    (External.sample.sign ⟨[1]⟩))
]

theorem settled_of_run_sample : ∃ tr db jobs job,
    Run (step .sample (PeerId.mk [1])) (.ofOffer ⟨[0]⟩ "offer" "protocol" "payload") tr db ∧
      queryUnconfirmedJobs .scan db ⟨[1]⟩ = some jobs ∧ job ∈ jobs ∧
      ∃ j ∈ db.joined, j.Settled .sample (PeerId.mk [1]) ∧
        job.consumerSignature = 1 :: job.hash := by
  have ho : ∀ op ∈ completes, op.OfNode .sample (PeerId.mk [1]) := by
    simp only [completes, List.forall_mem_cons]
    exact ⟨⟨trivial, trivial⟩, ⟨rfl, rfl⟩, nofun⟩
  obtain ⟨tr, r⟩ : ∃ tr, Run (step .sample (PeerId.mk [1]))
      (.ofOffer ⟨[0]⟩ "offer" "protocol" "payload") tr
      (completes.foldl (fun db op => op.exec .sample db)
        (.ofOffer ⟨[0]⟩ "offer" "protocol" "payload")) :=
    run_foldl completes ho
  have hq : ((queryUnconfirmedJobs .scan (completes.foldl (fun db op => op.exec .sample db)
      (.ofOffer ⟨[0]⟩ "offer" "protocol" "payload")) ⟨[1]⟩).any fun jobs => jobs.any fun job =>
        decide (job.providerPeerId ≠ ⟨[1]⟩)) = true := by decide +kernel
  obtain ⟨jobs, hq, hj⟩ := Option.any_eq_true _ _ |>.mp hq
  obtain ⟨job, hm, hn⟩ := List.any_eq_true.mp hj
  obtain ⟨j, hj, _, hs, _, he⟩ :=
    (settled_of_run (Table.ext (by decide +kernel)) r).1 _ _ hq job hm (of_decide_eq_true hn)
  exact ⟨tr, _, jobs, job, r, hq, hm, j, hj, hs, he⟩

end NodeDatabase
end Derouter
