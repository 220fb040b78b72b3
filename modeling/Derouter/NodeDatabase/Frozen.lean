import Derouter.NodeDatabase.Signed

open Sql Transition

namespace Derouter

variable {ext : External} {keypair : ext.Keypair} {db db₀ : Database} {j j' : JobJoin}

namespace JobRow.Evolves

variable {r r' : JobRow} {self : PeerId}

-- Only a completion by the Consumer sets a hash, and it refuses a row with one.
theorem hash (h : r.Evolves self r') (hc : r.ConsumerCompleted) : r'.hash = r.hash := by
  cases h
  case inl h => rw [h]
  case inr h =>
    obtain ⟨_, _, h⟩ := h
    cases h
    case consumerComplete hn => exact absurd hc.completedAtLocal (by simp [hn])
    all_goals rfl

theorem signatureConfirmedAtLocal (h : r.Evolves self r')
    (hs : r.signatureConfirmedAtLocal.isSome) :
    r'.signatureConfirmedAtLocal = r.signatureConfirmedAtLocal := by
  cases h
  case inl h => rw [h]
  case inr h =>
    obtain ⟨_, _, h⟩ := h
    cases h
    case providerConfirm hn _ _ => exact absurd hs (by simp [hn])
    case consumerConfirm hn _   => exact absurd hs (by simp [hn])
    all_goals rfl

theorem consumerSignature_of_completed (h : r.Evolves self r')
    (hs : r.signatureConfirmedAtLocal.isSome) (hc : r.completedAtLocal.isSome) :
    r'.consumerSignature = r.consumerSignature := by
  cases h
  case inl h => rw [h]
  case inr h =>
    obtain ⟨_, _, h⟩ := h
    cases h
    case providerConfirm hn _ _  => exact absurd hs (by simp [hn])
    case consumerComplete hn     => exact absurd hc (by simp [hn])
    all_goals rfl

end JobRow.Evolves

-- A node that is both the Consumer and the Provider of a job.
def JobJoin.SelfDealt (ourPeerId : PeerId) (j : JobJoin) : Prop :=
  j.job.consumerPeerId = ourPeerId ∧ j.snapshot.providerPeerId = ourPeerId

-- The confirmation of a row, as it was found.
structure JobJoin.KeepsConfirmation (ourPeerId : PeerId) (j j' : JobJoin) : Prop where
  signatureConfirmedAtLocal : j'.job.signatureConfirmedAtLocal = j.job.signatureConfirmedAtLocal
  confirmationError         : j'.job.confirmationError = none
  consumerSignature         : ¬j.SelfDealt ourPeerId →
    j'.job.consumerSignature = j.job.consumerSignature

namespace JobJoin

theorem Becomes.selfDealt_iff (h : j.Becomes ext keypair j') :
    j'.SelfDealt (ext.peerId keypair) ↔ j.SelfDealt (ext.peerId keypair) := by
  rw [SelfDealt, SelfDealt, h.provider, h.evolves.sameJob.consumerPeerId]

theorem Consistent.consumerSignature_becomes (h : j.Consistent ext keypair)
    (hb : j.Becomes ext keypair j') (hs : j.job.signatureConfirmedAtLocal.isSome)
    (hn : ¬j.SelfDealt (ext.peerId keypair)) :
    j'.job.consumerSignature = j.job.consumerSignature := by
  by_cases hc : j.job.consumerPeerId = ext.peerId keypair
  case neg => exact hb.evolves.consumerSignature hc hs
  case pos =>
    have hp : j.snapshot.providerPeerId ≠ ext.peerId keypair := fun hp => hn ⟨hc, hp⟩
    have hd := h.settled hp (h.confirmed hs).1
    exact hb.evolves.consumerSignature_of_completed hs hd.completedAtLocal

theorem KeepsConfirmation.becomes {j₀ : JobJoin} (h : j₀.KeepsConfirmation (ext.peerId keypair) j)
    (hj : j.Consistent ext keypair) (hb : j.Becomes ext keypair j')
    (hs : j.job.signatureConfirmedAtLocal.isSome)
    (hd : j.SelfDealt (ext.peerId keypair) ↔ j₀.SelfDealt (ext.peerId keypair)) :
    j₀.KeepsConfirmation (ext.peerId keypair) j' where
  signatureConfirmedAtLocal :=
    (hb.evolves.signatureConfirmedAtLocal hs).trans h.signatureConfirmedAtLocal
  confirmationError         := ((hj.becomes hb).confirmed (hb.evolves.confirmed hs)).2
  consumerSignature hn      :=
    (hj.consumerSignature_becomes hb hs (hd.not.mpr hn)).trans (h.consumerSignature hn)

end JobJoin

-- A completion by the Provider that addresses the row is refused, because the job has failed or
-- because it was completed at `t`.
def JobJoin.RefusesCompletion (ext : External) (db : Database) (j : JobJoin) (t : Int) : Prop :=
  ∀ plan now provider jobId delta priv pub, db.jobById plan provider jobId = some j →
    ∃ e, providerCompleteJob ext plan now db provider jobId delta priv pub = .err e ∧
      (e = .alreadyCompleted t ∨ ∃ reason cls, e = .alreadyFailed reason cls)

theorem JobJoin.refusesCompletion (h : j.job.completedAtSync = some t) :
    j.RefusesCompletion ext db t := by
  intro plan now provider jobId delta priv pub hj
  simp only [providerCompleteJob, hj, h]
  split
  case h_1 reason _ _ _ => exact ⟨_, rfl, .inr ⟨_, _, rfl⟩⟩
  case h_2 he           =>
    obtain rfl := Option.some.inj he
    exact ⟨_, rfl, .inl rfl⟩
  case h_3 => contradiction

namespace NodeDatabase

-- What every later state of the node has at the row of `j`.
def Stays (ext : External) (keypair : ext.Keypair) (db : Database) (j : JobJoin)
    (P : Database → JobJoin → Prop) : Prop :=
  ∀ tr db', Run (step ext keypair) db tr db' → ∃ j' ∈ db'.joined, j'.rowid = j.rowid ∧ P db' j'

variable {tr : List (Database × DatabaseOp)}

theorem run_consumerCompleted {db' : Database} (r : Run (step ext keypair) db tr db')
    (hj : j ∈ db.joined) (hc : j.job.ConsumerCompleted) :
    ∃ j' ∈ db'.joined, j'.rowid = j.rowid ∧ j.job.SameTerms j'.job ∧ j'.job.hash = j.job.hash := by
  let P (j' : JobJoin) : Prop :=
    j.job.SameTerms j'.job ∧ j'.job.hash = j.job.hash ∧ j'.job.ConsumerCompleted
  have hs (j₁ j₂ : JobJoin) (h : P j₁) (hb : j₁.Becomes ext keypair j₂) : P j₂ := by
    obtain ⟨ht, hh, hc⟩ := h
    obtain ⟨ht', hc'⟩ := hb.evolves.consumerTerms hc
    exact ⟨ht.trans ht', (hb.evolves.hash hc).trans hh, hc'⟩
  have h : P j := ⟨⟨rfl, rfl, rfl, rfl, rfl, rfl, rfl⟩, rfl, hc⟩
  obtain ⟨j', hj', hi, ht, hh, _⟩ := run_row r hj h hs
  exact ⟨j', hj', hi, ht, hh⟩

theorem run_providerCompleted {db' : Database} (r : Run (step ext keypair) db tr db')
    (hj : j ∈ db.joined) (hn : j.job.consumerPeerId ≠ ext.peerId keypair)
    (hc : j.job.completedAtSync.isSome) :
    ∃ j' ∈ db'.joined, j'.rowid = j.rowid ∧ j.job.SameTerms j'.job := by
  let P (j' : JobJoin) : Prop := j.job.SameTerms j'.job ∧ j'.job.completedAtSync.isSome
  have hs (j₁ j₂ : JobJoin) (h : P j₁) (hb : j₁.Becomes ext keypair j₂) : P j₂ := by
    obtain ⟨ht, hc⟩ := h
    obtain ⟨ht', hc'⟩ := hb.evolves.providerTerms (ht.consumerPeerId ▸ hn) hc
    exact ⟨ht.trans ht', hc'⟩
  have h : P j := ⟨⟨rfl, rfl, rfl, rfl, rfl, rfl, rfl⟩, hc⟩
  obtain ⟨j', hj', hi, ht, _⟩ := run_row r hj h hs
  exact ⟨j', hj', hi, ht⟩

theorem run_confirmed {db' : Database} (r : Run (step ext keypair) db tr db') (hj : j ∈ db.joined)
    (h : j.Consistent ext keypair) (hc : j.job.signatureConfirmedAtLocal.isSome) :
    ∃ j' ∈ db'.joined, j'.rowid = j.rowid ∧ j.KeepsConfirmation (ext.peerId keypair) j' := by
  let P (j' : JobJoin) : Prop :=
    j.KeepsConfirmation (ext.peerId keypair) j' ∧ j'.Consistent ext keypair ∧
      (j'.SelfDealt (ext.peerId keypair) ↔ j.SelfDealt (ext.peerId keypair))
  have hs (j₁ j₂ : JobJoin) (h : P j₁) (hb : j₁.Becomes ext keypair j₂) : P j₂ := by
    obtain ⟨hk, hi, hd⟩ := h
    have hc₁ : j₁.job.signatureConfirmedAtLocal.isSome := hk.signatureConfirmedAtLocal ▸ hc
    exact ⟨hk.becomes hi hb hc₁ hd, hi.becomes hb, hb.selfDealt_iff.trans hd⟩
  have h : P j := ⟨⟨rfl, (h.confirmed hc).2, fun _ => rfl⟩, h, .rfl⟩
  obtain ⟨j', hj', hi, hk, _⟩ := run_row r hj h hs
  exact ⟨j', hj', hi, hk⟩

-- What a completion and a confirmation have stored stays as it is in every later state. When a node
-- deals with itself, the signature of a confirmed job is the exception.
theorem frozen_of_run (h : db₀.serviceJobs = ∅) (r : Run (step ext keypair) db₀ tr db) :
    (∀ plan now provider jobId delta pub priv t sign db₁ record,
      consumerCompleteJob ext plan now db (ext.peerId keypair) provider jobId delta pub priv t sign =
        .ok (db₁, record) →
      ∃ j ∈ db₁.joined, j.record = record ∧ Stays ext keypair db₁ j fun _ j' =>
        j.job.SameTerms j'.job ∧ j'.job.hash = j.job.hash) ∧
    (∀ plan now provider jobId delta priv pub db₁ record,
      providerCompleteJob ext plan now db provider jobId delta priv pub = .ok (db₁, record) →
      record.consumerPeerId ≠ ext.peerId keypair →
      ∃ j ∈ db₁.joined, ∃ t, j.record = record ∧ j.job.completedAtSync = some t ∧
        Stays ext keypair db₁ j fun db' j' =>
          j.job.SameTerms j'.job ∧ j'.RefusesCompletion ext db' t) ∧
    (∀ j ∈ db.joined, j.job.signatureConfirmedAtLocal.isSome →
      Stays ext keypair db j fun _ j' => j.KeepsConfirmation (ext.peerId keypair) j') := by
  refine ⟨?_, ?_, ?_⟩
  · intro plan now provider jobId delta pub priv t sign db₁ record hc
    obtain ⟨j, hj, _, _, _, _, hash, u, _, hu, he, rfl⟩ := consumerCompleteJob_ok hc
    have hj := Database.joined_updateJob (u := u) (Database.mem_jobsById_iff.mp <|
      Database.jobById_mem hj).1
    refine ⟨_, hj, he.symm, fun tr db₂ r₂ => run_consumerCompleted r₂ hj ?_⟩
    exact hu ▸ ⟨rfl, rfl⟩
  · intro plan now provider jobId delta priv pub db₁ record hc hn
    obtain ⟨j, hj, _, _, _, rfl, rfl⟩ := providerCompleteJob_ok hc
    have hj := Database.joined_updateJob (u := .providerComplete now delta priv pub)
      (Database.mem_jobsById_iff.mp <| Database.jobById_mem hj).1
    refine ⟨_, hj, now.timestamp, rfl, rfl, fun tr db₂ r₂ => ?_⟩
    obtain ⟨j', hj', hi, ht⟩ := run_providerCompleted r₂ hj hn rfl
    exact ⟨j', hj', hi, ht, JobJoin.refusesCompletion ht.completedAtSync.symm⟩
  · intro j hj hs tr db₂ r₂
    exact run_confirmed r₂ hj (consistent_of_run h r j hj) hs

private def selfDealt : JobHashingPayload where
  consumerPeerId     := ⟨[1]⟩
  providerPeerId     := ⟨[1]⟩
  protocolId         := "protocol"
  offerPayload       := "payload"
  currency           := Currency.code .polygon
  providerJobId      := "job"
  jobCreatedAtSync   := 0
  jobPublicPayload   := "done"
  jobCompletedAtSync := 0
  balanceDelta       := none

-- The node 1 completes and confirms a job with itself as the Provider.
private def confirms : List DatabaseOp := [
  .job (.create 0 1 ⟨[1]⟩ .polygon none "job" 0),
  .job (.providerComplete .scan 0 ⟨[1]⟩ "job" none none "done"),
  .job (.providerConfirm .scan 0 ⟨[1]⟩ ⟨[1]⟩ "job" selfDealt.bytes [1] (1 :: selfDealt.bytes))
]

private def isConfirmed (j : JobJoin) : Bool :=
  j.job.signatureConfirmedAtLocal.isSome

private def confirmed : Database :=
  confirms.foldl (fun db op => op.exec .sample db) (.ofOffer ⟨[1]⟩ "offer" "protocol" "payload")

private theorem run_confirms : ∃ tr, Run (step .sample (PeerId.mk [1]))
    (.ofOffer ⟨[1]⟩ "offer" "protocol" "payload") tr confirmed := by
  refine run_foldl confirms ?_
  simp only [confirms, List.forall_mem_cons]
  exact ⟨⟨trivial, trivial⟩, ⟨trivial, trivial⟩, ⟨rfl, trivial⟩, nofun⟩

theorem frozen_of_run_sample : ∃ tr db, ∃ j ∈ db.joined,
    Run (step .sample (PeerId.mk [1])) (.ofOffer ⟨[1]⟩ "offer" "protocol" "payload") tr db ∧
      j.job.signatureConfirmedAtLocal.isSome ∧
      Stays .sample (PeerId.mk [1]) db j fun _ j' => j.KeepsConfirmation ⟨[1]⟩ j' := by
  obtain ⟨tr, r⟩ := run_confirms
  obtain ⟨j, hj, hs⟩ := List.any_eq_true.mp <|
    show confirmed.joined.any isConfirmed = true by decide +kernel
  exact ⟨tr, _, j, hj, r, hs, (frozen_of_run (Table.ext (by decide +kernel)) r).2.2 j hj hs⟩

-- Afterwards, it completes the job as the Consumer.
theorem not_frozen : ¬∀ (ext : External) (keypair : ext.Keypair) (db₀ db : Database)
    (tr : List (Database × DatabaseOp)), db₀.serviceJobs = ∅ → Run (step ext keypair) db₀ tr db →
    ∀ j ∈ db.joined, j.job.signatureConfirmedAtLocal.isSome → Stays ext keypair db j fun _ j' =>
      j'.job.signatureConfirmedAtLocal = j.job.signatureConfirmedAtLocal ∧
      j'.job.consumerSignature = j.job.consumerSignature ∧ j'.job.confirmationError = none := by
  intro h
  let completes : JobOp := .consumerComplete .scan 0 ⟨[1]⟩ ⟨[1]⟩ "job" none "redone" none 0
    (External.sample.sign ⟨[1]⟩)
  obtain ⟨tr, r⟩ := run_confirms
  obtain ⟨j, hj, hs⟩ := List.any_eq_true.mp <|
    show confirmed.joined.any isConfirmed = true by decide +kernel
  have hl : (DatabaseOp.job completes).OfNode .sample (PeerId.mk [1]) := ⟨rfl, rfl⟩
  have r₂ : Run (step .sample (PeerId.mk [1])) confirmed _ _ := .single ⟨hl, rfl⟩
  obtain ⟨j', hj', hi, _, hc, _⟩ := h _ _ _ _ _ (Table.ext (by decide +kernel)) r j hj hs _ _ r₂
  have hn : ∀ j ∈ confirmed.joined, ∀ j' ∈ (completes.exec .sample confirmed).1.joined,
      j'.rowid = j.rowid → j'.job.consumerSignature ≠ j.job.consumerSignature := by
    decide +kernel
  exact hn j hj j' hj' hi hc

end NodeDatabase
end Derouter
