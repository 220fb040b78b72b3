import Derouter.Db.Theorems.Exclusion
import Derouter.NodeDatabase.Signed
import Derouter.Settlement

open Sql Transition

namespace Derouter

variable {ext : External} {keypair : ext.Keypair} {consumer provider self : PeerId}
variable {db : Database} {jC jP j j' : JobJoin}

-- The rows of a job hold the terms of one completion. The Consumer stores the balance delta in hex.
structure JobJoin.Agrees (jC jP : JobJoin) : Prop where
  publicPayload   : jC.job.publicPayload = jP.job.publicPayload
  completedAtSync : jC.job.completedAtSync = jP.job.completedAtSync
  balanceDelta    : jC.job.balanceDelta = jP.job.balanceDelta.map Hex.encodeString

theorem JobJoin.Agrees.providerHash (ha : jC.Agrees jP) (hs : jC.record.SameJob jP.record) :
    jP.providerHash ext = jC.consumerHash ext := by
  have h₁ : jC.job.consumerPeerId = jP.job.consumerPeerId := hs.consumerPeerId
  have h₂ : jC.snapshot.providerPeerId = jP.snapshot.providerPeerId := hs.providerPeerId
  have h₃ : jC.snapshot.protocolId = jP.snapshot.protocolId := hs.offerProtocolId
  have h₄ : jC.snapshot.protocolPayload = jP.snapshot.protocolPayload := hs.offerPayload
  have h₅ : jC.job.currency = jP.job.currency := hs.currency
  have h₆ : jC.job.providerJobId = jP.job.providerJobId := hs.providerJobId
  have h₇ : jC.job.createdAtSync = jP.job.createdAtSync := hs.createdAtSync
  cases hp : jP.job.publicPayload <;> cases hc : jP.job.completedAtSync <;>
    simp only [JobJoin.providerHash, JobJoin.consumerHash, JobJoin.hashingPayload, h₁, h₂, h₃, h₄, h₅,
      h₆, h₇, ha.publicPayload, ha.completedAtSync, ha.balanceDelta, hp, hc]

theorem JobRecord.SameJob.of_rows (hs : j.job.SameJob j'.job) (hk : j.snapshot.SameKey j'.snapshot) :
    j.record.SameJob j'.record where
  consumerPeerId  := hs.consumerPeerId
  providerPeerId  := hk.sameOffer.1
  offerProtocolId := hk.sameOffer.2.1
  offerPayload    := hk.protocolPayload
  currency        := hs.currency
  providerJobId   := hs.providerJobId
  createdAtSync   := hs.createdAtSync

theorem JobRecord.SameJob.symm {r₁ r₂ : JobRecord} (h : r₁.SameJob r₂) : r₂.SameJob r₁ where
  consumerPeerId  := h.consumerPeerId.symm
  providerPeerId  := h.providerPeerId.symm
  offerProtocolId := h.offerProtocolId.symm
  offerPayload    := h.offerPayload.symm
  currency        := h.currency.symm
  providerJobId   := h.providerJobId.symm
  createdAtSync   := h.createdAtSync.symm

theorem JobRecord.SameJob.trans {r₁ r₂ r₃ : JobRecord} (h₁ : r₁.SameJob r₂) (h₂ : r₂.SameJob r₃) :
    r₁.SameJob r₃ where
  consumerPeerId  := h₁.consumerPeerId.trans h₂.consumerPeerId
  providerPeerId  := h₁.providerPeerId.trans h₂.providerPeerId
  offerProtocolId := h₁.offerProtocolId.trans h₂.offerProtocolId
  offerPayload    := h₁.offerPayload.trans h₂.offerPayload
  currency        := h₁.currency.trans h₂.currency
  providerJobId   := h₁.providerJobId.trans h₂.providerJobId
  createdAtSync   := h₁.createdAtSync.trans h₂.createdAtSync

theorem JobOp.exec_joined_new {op : JobOp} (h : j ∈ (op.exec ext db).1.joined)
    (hn : db.serviceJobs.get? j.rowid = none) :
    ∃ now i consumer currency args jobId t, op = .create now i consumer currency args jobId t ∧
      db.offerSnapshots.get? i = some j.snapshot ∧ j.job.consumerPeerId = consumer ∧
      j.job.currency = currency ∧ j.job.providerJobId = jobId ∧ j.job.createdAtSync = t := by
  by_cases hc : op.Creates
  case neg =>
    have hs := congrArg Option.isSome (Database.mem_joined_iff.mp h).1
    rw [exec_isSome_get? hc, hn] at hs
    contradiction
  case pos =>
    cases op <;> try contradiction
    case create now i consumer currency args jobId t =>
    simp only [exec] at h
    split at h
    case h_2 => simp [(Database.mem_joined_iff.mp h).1] at hn
    case h_1 hc =>
      obtain ⟨_, _, hs⟩ := createJob_joined hc h hn
      obtain ⟨_, _, _, hr⟩ := createJob_ok hc
      have hj := (Database.mem_joined_iff.mp h).1
      rw [hr] at hj
      cases Table.get?_insert_cases hj
      case inr hj => simp [hn] at hj
      case inl hj =>
        refine ⟨now, i, consumer, currency, args, jobId, t, rfl, hs, ?_⟩
        rw [hj.2]
        exact ⟨rfl, rfl, rfl, rfl⟩

theorem JobOp.Turns.signed_cases {op : JobOp} (h : op.Turns db j j') (hj : j ∈ db.joined)
    (hn : j.snapshot.providerPeerId ≠ self) (hl : op.Local self)
    (hs : j'.job.consumerSignature.isSome) :
    j.job.consumerSignature.isSome ∨ ∃ plan now consumer provider jobId delta pub priv t sign,
      op = .consumerComplete plan now consumer provider jobId delta pub priv t sign ∧
      j ∈ db.jobsById provider jobId ∧ j'.job.publicPayload = some pub ∧
      j'.job.completedAtSync = some t ∧ j'.job.balanceDelta = delta.map Hex.encodeString := by
  cases h.job
  case inl he => exact .inl <| he ▸ hs
  case inr he =>
    obtain ⟨ha, hc⟩ := he
    generalize hr : j'.job = r at hc hs
    cases hc
    case providerConfirm => exact absurd trivial (not_confirmsAsProvider hj hn hl ha)
    case consumerComplete =>
      obtain ⟨j₀, hj₀, hi⟩ := Option.map_eq_some_iff.mp ha
      have hm := Database.jobById_mem hj₀
      obtain rfl := Database.joined_inj (Database.mem_jobsById_iff.mp hm).1 hj hi
      exact .inr ⟨_, _, _, _, _, _, _, _, _, _, rfl, hm, rfl, rfl, rfl⟩
    all_goals exact .inl hs

namespace Database.Serves

variable {jobId : String} {P Q : JobJoin → Prop}

theorem imp (h : db.Serves consumer provider jobId P)
    (hi : ∀ j ∈ db.jobsById provider jobId, P j → Q j) : db.Serves consumer provider jobId Q := by
  obtain ⟨j, hj, hc, hp⟩ := h
  exact ⟨j, hj, hc, hi j hj hp⟩

theorem and (h : db.Serves consumer provider jobId P) (h' : db.Serves consumer provider jobId Q)
    (hu : ∀ j ∈ db.jobsById provider jobId, ∀ j' ∈ db.jobsById provider jobId, j = j') :
    db.Serves consumer provider jobId fun j => P j ∧ Q j := by
  obtain ⟨j, hj, hc, hp⟩ := h
  obtain ⟨j', hj', _, hq⟩ := h'
  exact ⟨j, hj, hc, hp, hu j' hj' j hj ▸ hq⟩

end Database.Serves
end Derouter
