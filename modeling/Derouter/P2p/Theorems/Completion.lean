import Derouter.Db.Theorems.Rows
import Derouter.P2p.Consumer

open Sql Transition

namespace Derouter

-- Two records of one job, in what both sides know of it before it is completed.
structure JobRecord.SameJob (r₁ r₂ : JobRecord) : Prop where
  consumerPeerId  : r₁.consumerPeerId = r₂.consumerPeerId
  providerPeerId  : r₁.providerPeerId = r₂.providerPeerId
  offerProtocolId : r₁.offerProtocolId = r₂.offerProtocolId
  offerPayload    : r₁.offerPayload = r₂.offerPayload
  currency        : r₁.currency = r₂.currency
  providerJobId   : r₁.providerJobId = r₂.providerJobId
  createdAtSync   : r₁.createdAtSync = r₂.createdAtSync

-- What a row keeps of its completion by the Consumer until it is confirmed.
structure JobRow.SignedAs (r₀ r : JobRow) : Prop where
  sameJob          : r₀.SameJob r
  completedAtLocal : r.completedAtLocal.isSome
  completedAtSync  : r.completedAtSync.isSome
  hash             : r.hash = r₀.hash
  signature        : r.signatureConfirmedAtLocal = none → r.consumerSignature = r₀.consumerSignature

theorem JobRow.SignedAs.change {op : JobOp} {r₀ r r' : JobRow} (h : r₀.SignedAs r)
    (hc : r.Change op r') : r₀.SignedAs r' := by
  have hs := h.sameJob.trans hc.sameJob
  cases hc
  case fail hn             => exact absurd h.completedAtLocal (by simp [hn])
  case setConfirmationError => exact ⟨hs, h.2, h.3, h.4, h.5⟩
  case providerComplete hn => exact absurd h.completedAtSync (by simp [hn])
  case providerConfirm     => exact ⟨hs, h.2, h.3, h.4, nofun⟩
  case consumerComplete hn => exact absurd h.completedAtLocal (by simp [hn])
  case consumerConfirm     => exact ⟨hs, h.2, h.3, h.4, nofun⟩

variable {ext : External} {keypair : ext.Keypair} {provider : PeerId}

theorem request_of_consumerComplete {db db₁ db₂ : Database}
    (hc : consumerCompleteJob ext plan now db consumer provider jobId delta pub priv t sign =
      .ok (db₁, record))
    (run : Run (JobOp.step ext) db₁ tr db₂)
    (hq : queryUnconfirmedJobs choice db₂ consumer = some jobs) (hm : job ∈ jobs)
    (hi : job.rowid = record.jobRowid) :
    ∃ j, record = JobJoin.record j ∧ j.job.providerJobId = jobId ∧ j.job.consumerPeerId = consumer ∧
      job.providerJobId = jobId ∧
      job.hash = hashJob ext (j.hashingPayload pub t (delta.map Hex.encodeString)) ∧
      job.consumerSignature = sign job.hash := by
  obtain ⟨j, hj, hn, _, _, _, hash, u, hh, hu, rfl, rfl⟩ := consumerCompleteJob_ok hc
  have h₀ : (u.set j.job).SignedAs (u.set j.job) := by
    subst hu
    exact ⟨.refl _, rfl, rfl, rfl, fun _ => rfl⟩
  have ht : Meets (fun _ _ => True) tr := fun _ _ => trivial
  have ⟨r, hr, hs⟩ := JobOp.run_row (P := (u.set j.job).SignedAs) run ht
    ⟨_, Database.updateJob_get?_self (Database.jobById_row hj), h₀⟩ fun _ _ _ _ _ _ hc h => h.change hc
  -- The queried row is the completed one.
  have ⟨j', hj', _, hn', hu'⟩ := queryUnconfirmedJobs_mem hq hm
  have ⟨hi', _, hp, hh', hs'⟩ := JobJoin.unconfirmed_eq_some hu'
  have hr' := (Database.mem_joined_iff.mp hj').1
  rw [← hi', hi] at hr'
  obtain rfl := Option.some.inj <| hr.symm.trans hr'
  have hj₀ := Database.jobById_providerJobId hj
  have hd : job.hash = hash := by
    have h := hh'.symm.trans hs.hash
    rw [hu] at h
    exact Option.some.inj h
  have hg : job.consumerSignature = sign hash := by
    have h := hs'.symm.trans <| hs.signature hn'
    rw [hu] at h
    exact Option.some.inj h
  have hp' : job.providerJobId = jobId := by
    rw [hp, ← hs.sameJob.providerJobId, hu]
    exact hj₀
  exact ⟨_, rfl, by rw [hu]; exact hj₀, by rw [hu]; exact hn, hp', by rw [hd, hh, hu]; rfl,
    by rw [hg, hd]⟩

theorem providerHash_of_providerComplete {db db₁ db₂ : Database}
    (hc : providerCompleteJob ext plan now db provider jobId delta priv pub = .ok (db₁, record))
    (ht : record.completedAtSync = some t) (run : Run (JobOp.step ext) db₁ tr db₂)
    (hm : Meets (fun db op => op.CompletesAsConsumer → op.addressed db ≠ some record.jobRowid) tr)
    (hf : db₂.findByJobId choice provider jobId = some found)
    (hi : found.jobRowid = record.jobRowid) :
    ∃ j j', record = JobJoin.record j ∧ db₂.jobById choice provider jobId = some j' ∧
      found = JobJoin.record j' ∧ j.job.SameJob j'.job ∧
      j'.providerHash ext =
        some (hashJob ext (j.hashingPayload pub t (delta.map Hex.encodeString))) := by
  obtain ⟨j, hj, _, _, _, rfl, rfl⟩ := providerCompleteJob_ok hc
  have ⟨j', hj', he⟩ := Database.findByJobId_eq_some hf
  have hr' := Database.jobById_row hj'
  obtain rfl := he
  -- The found row is the completed one, which keeps its terms.
  have hi : j'.rowid = j.rowid := hi
  rw [hi] at hr'
  let r₀ := (JobUpdate.providerComplete now delta priv pub).set j.job
  have ⟨r, hr, hs, hb⟩ := JobOp.run_row (P := fun r => r₀.SameTerms r ∧ r₀.SameJob r) run hm
    ⟨_, Database.updateJob_get?_self (Database.jobById_row hj),
      ⟨rfl, rfl, rfl, rfl, rfl, rfl, rfl⟩, .refl _⟩
    fun _ _ r _ hc ha h ⟨hs, hb⟩ => by
      have ht : r.completedAtSync.isSome := by rw [← hs.completedAtSync]; rfl
      exact ⟨hs.trans <| h.sameTerms_of_completed (hc · ha) ht, hb.trans h.sameJob⟩
  obtain rfl := Option.some.inj <| hr.symm.trans hr'
  have hsnap : j'.snapshot = j.snapshot := by
    have hs' := Database.jobById_snapshot hj'
    rw [JobOp.run_offerSnapshots run, ← hb.offerSnapshotRowid] at hs'
    have hs₀ : db.offerSnapshots.get? r₀.offerSnapshotRowid = some j.snapshot :=
      Database.jobById_snapshot hj
    exact Option.some.inj <| hs'.symm.trans hs₀
  have ht : now.timestamp = t := Option.some.inj ht
  refine ⟨⟨j.rowid, r₀, j.snapshot⟩, j', rfl, hj', rfl, hb, ?_⟩
  have hk : JobJoin.providerHash ext ⟨j.rowid, r₀, j.snapshot⟩ = j'.providerHash ext :=
    JobJoin.providerHash_congr hs (hsnap ▸ ⟨⟨rfl, rfl, rfl⟩, rfl⟩)
  rw [← hk, ← ht]
  rfl

-- Completions with the same terms on both sides confirm: any request that the Consumer then builds
-- from its unconfirmed jobs is accepted by the Provider, as long as the Provider finds the row and has
-- neither failed nor confirmed it.
theorem providerConfirmJob_of_completions (hl : ext.Lawful)
    {dbC dbC₁ dbC₂ dbP dbP₁ dbP₂ : Database}
    (hp : providerCompleteJob ext planP nowP dbP provider jobId delta privP pub =
      .ok (dbP₁, recordP))
    (hc : consumerCompleteJob ext planC nowC dbC (ext.peerId keypair) provider jobId delta pub privC t
      (ext.sign keypair) = .ok (dbC₁, recordC))
    (ht : recordP.completedAtSync = some t) (hs : recordC.SameJob recordP)
    -- What has happened at the Provider since its completion.
    (runP : Run (JobOp.step ext) dbP₁ trP dbP₂)
    (hm : Meets (fun db op => op.CompletesAsConsumer → op.addressed db ≠ some recordP.jobRowid) trP)
    (hf : dbP₂.findByJobId plan provider jobId = some found)
    (hi : found.jobRowid = recordP.jobRowid) (hr : found.reason = none)
    (hn : found.signatureConfirmedAtLocal = none)
    -- What has happened at the Consumer since its completion.
    (runC : Run (JobOp.step ext) dbC₁ trC dbC₂)
    (hq : queryUnconfirmedJobs choice dbC₂ (ext.peerId keypair) = some jobs) (hj : job ∈ jobs)
    (hji : job.rowid = recordC.jobRowid) :
    let request := job.request ext (ext.publicKey keypair)
    ∃ dbP₃, providerConfirmJob ext plan now dbP₂ (ext.peerId keypair) provider request.providerJobId
      request.jobHash request.consumerPublicKey request.consumerSignature = .ok dbP₃ := by
  obtain ⟨jP, j', rfl, hj', rfl, hb, hh⟩ := providerHash_of_providerComplete hp ht runP hm hf hi
  obtain ⟨jC, rfl, _, hjC, hjob, hhash, hsig⟩ := request_of_consumerComplete hc runC hq hj hji
  -- Both sides have hashed the same payload.
  have he : jC.hashingPayload pub t (delta.map Hex.encodeString) =
      jP.hashingPayload pub t (delta.map Hex.encodeString) := by
    have h₁ : jC.job.consumerPeerId = jP.job.consumerPeerId := hs.consumerPeerId
    have h₂ : jC.snapshot.providerPeerId = jP.snapshot.providerPeerId := hs.providerPeerId
    have h₃ : jC.snapshot.protocolId = jP.snapshot.protocolId := hs.offerProtocolId
    have h₄ : jC.snapshot.protocolPayload = jP.snapshot.protocolPayload := hs.offerPayload
    have h₅ : jC.job.currency = jP.job.currency := hs.currency
    have h₆ : jC.job.providerJobId = jP.job.providerJobId := hs.providerJobId
    have h₇ : jC.job.createdAtSync = jP.job.createdAtSync := hs.createdAtSync
    simp only [JobJoin.hashingPayload, h₁, h₂, h₃, h₄, h₅, h₆, h₇]
  have hcons : j'.job.consumerPeerId = ext.peerId keypair := by
    have h : jC.job.consumerPeerId = jP.job.consumerPeerId := hs.consumerPeerId
    exact hb.consumerPeerId.symm.trans <| h.symm.trans hjC
  have hv : ext.verify (ext.publicKey keypair) job.hash job.consumerSignature = true :=
    hsig ▸ hl.verify_sign keypair job.hash
  have hd : j'.providerHash ext = some job.hash := by rw [hh, hhash, he]
  refine ⟨dbP₂.updateJob j'.rowid (.providerConfirm now job.consumerSignature), ?_⟩
  simp only [UnconfirmedJob.request, hjob]
  exact providerConfirmJob_of_jobById hj' hcons hn hr hd (hl.decode_encode _) hv

private def consumerKey : External.sample.Keypair :=
  PeerId.mk [1]

-- The job of the peer 1 at the peer 0, as both of them store it.
private def openJob : Database :=
  let db := Database.ofOffer ⟨[0]⟩ "offer" "protocol" "payload"
  ((createJob 0 db 1 ⟨[1]⟩ .polygon none "job" 0).map (·.2)).getD db

private def completedByProvider : Outcome ProviderCompleteJobError (Database × JobRecord) :=
  providerCompleteJob .sample .scan 0 openJob ⟨[0]⟩ "job" (some "10") none "done"

private def completedByConsumer : Outcome ConsumerCompleteJobError (Database × JobRecord) :=
  consumerCompleteJob .sample .scan 0 openJob (External.sample.peerId consumerKey) ⟨[0]⟩ "job"
    (some "10") "done" none 0 (External.sample.sign consumerKey)

-- Both completions succeed, on rows that agree, and there is one job to be confirmed.
private def completions : Bool :=
  match completedByProvider, completedByConsumer with
  | .ok (dbP, recordP), .ok (dbC, recordC) =>
    match dbP.findByJobId .scan ⟨[0]⟩ "job", queryUnconfirmedJobs .scan dbC (External.sample.peerId consumerKey) with
    | some found, some [job] =>
      decide (recordP.completedAtSync = some 0 ∧
        recordC.consumerPeerId = recordP.consumerPeerId ∧
        recordC.providerPeerId = recordP.providerPeerId ∧
        recordC.offerProtocolId = recordP.offerProtocolId ∧
        recordC.offerPayload = recordP.offerPayload ∧
        recordC.currency = recordP.currency ∧
        recordC.providerJobId = recordP.providerJobId ∧
        recordC.createdAtSync = recordP.createdAtSync ∧
        found.jobRowid = recordP.jobRowid ∧ found.reason = none ∧
        found.signatureConfirmedAtLocal = none ∧ job.rowid = recordC.jobRowid)
    | _, _ => false
  | _, _ => false

theorem providerConfirmJob_of_completions_sample :
    ∃ (dbP : Database) (recordP : JobRecord) (job : UnconfirmedJob),
      completedByProvider = .ok (dbP, recordP) ∧
      ∃ dbP', providerConfirmJob .sample .scan 0 dbP (External.sample.peerId consumerKey) ⟨[0]⟩
        job.providerJobId job.hash [1] job.consumerSignature = .ok dbP' := by
  have h : completions = true := by decide +kernel
  unfold completions at h
  split at h <;> try contradiction
  case _ dbP recordP dbC recordC hp hc =>
  split at h <;> try contradiction
  case _ found job hf hq =>
  have ⟨ht, h₁, h₂, h₃, h₄, h₅, h₆, h₇, hi, hr, hn, hji⟩ := of_decide_eq_true h
  exact ⟨dbP, recordP, job, hp, providerConfirmJob_of_completions External.sample_lawful hp hc ht
    ⟨h₁, h₂, h₃, h₄, h₅, h₆, h₇⟩ .nil nofun hf hi hr hn .nil hq List.mem_cons_self hji⟩

end Derouter
