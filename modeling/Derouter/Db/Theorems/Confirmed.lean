import Derouter.Db.Theorems.Joined

open Sql

namespace Derouter

-- The Consumer has completed a row, and keeps the hash of its terms with its signature.
structure JobRow.Signed (digest signature : List UInt8) (r : JobRow) : Prop where
  hash              : r.hash = some digest
  consumerSignature : r.consumerSignature = some signature
  completedAtLocal  : r.completedAtLocal.isSome

-- The Provider has confirmed a row of the Consumer, whose terms have the hash.
structure JobJoin.Accepted (ext : External) (consumer : PeerId) (digest signature : List UInt8)
    (j : JobJoin) : Prop where
  consumerPeerId    : j.job.consumerPeerId = consumer
  hash              : j.providerHash ext = some digest
  consumerSignature : j.job.consumerSignature = some signature
  confirmed         : j.job.signatureConfirmedAtLocal.isSome

def JobOp.ConfirmsAsProvider : JobOp → Prop
  | providerConfirm .. => True
  | _                  => False

def JobOp.ConfirmsAsConsumer : JobOp → Prop
  | consumerConfirm .. => True
  | _                  => False

namespace JobRow

variable {r r' : JobRow} {op : JobOp} {digest signature : List UInt8} {self : PeerId}

theorem Change.hashed (h : r.Change op r') (hc : r.hash.isSome → r.completedAtLocal.isSome) :
    r'.hash.isSome → r'.completedAtLocal.isSome := by
  cases h
  case fail             => exact fun _ => rfl
  case consumerComplete => exact fun _ => rfl
  all_goals exact hc

theorem Change.signed (h : r.Change op r') (hn : ¬op.ConfirmsAsProvider)
    (hs : r.Signed digest signature) : r'.Signed digest signature := by
  cases h
  case fail hc             => exact absurd hs.completedAtLocal (by simp [hc])
  case consumerComplete hc => exact absurd hs.completedAtLocal (by simp [hc])
  case providerConfirm     => exact absurd trivial hn
  all_goals exact ⟨hs.hash, hs.consumerSignature, hs.completedAtLocal⟩

theorem Change.confirmed_cases (h : r.Change op r') (hs : r'.signatureConfirmedAtLocal.isSome) :
    r.signatureConfirmedAtLocal.isSome ∨ op.ConfirmsAsProvider ∨ op.ConfirmsAsConsumer := by
  cases h
  case providerConfirm => exact .inr (.inl trivial)
  case consumerConfirm => exact .inr (.inr trivial)
  all_goals exact .inl hs

theorem Evolves.consumerSignature (h : r.Evolves self r') (hn : r.consumerPeerId ≠ self)
    (hs : r.signatureConfirmedAtLocal.isSome) : r'.consumerSignature = r.consumerSignature := by
  cases h
  case inl h => rw [h]
  case inr h =>
    obtain ⟨_, hl, h⟩ := h
    cases h
    case providerConfirm hc _ _  => exact absurd hs (by simp [hc])
    case consumerComplete hc _ _ => exact absurd (hc.trans hl) hn
    all_goals rfl

end JobRow

theorem JobJoin.Accepted.evolves {ext : External} {consumer self : PeerId} {j j' : JobJoin}
    (h : j.Accepted ext consumer digest signature) (hn : consumer ≠ self)
    (he : j.job.Evolves self j'.job) (hk : j.snapshot.SameKey j'.snapshot) :
    j'.Accepted ext consumer digest signature := by
  have hc : j.job.consumerPeerId ≠ self := h.consumerPeerId ▸ hn
  have ht := he.providerTerms hc (JobJoin.providerHash_isSome h.hash).2 |>.1
  constructor
  case consumerPeerId    => exact ht.consumerPeerId ▸ h.consumerPeerId
  case hash              => exact JobJoin.providerHash_congr ht hk ▸ h.hash
  case consumerSignature => exact (he.consumerSignature hc h.confirmed).trans h.consumerSignature
  case confirmed         => exact he.confirmed h.confirmed

theorem providerConfirmJob_accepted {ext : External} {db db' : Database} {self : PeerId}
    (h : providerConfirmJob ext plan now db consumer self jobId digest key signature = .ok db') :
    ∃ j ∈ db'.jobsById self jobId, j.Accepted ext consumer digest signature := by
  obtain ⟨j, _, hj, hc, _, _, hh, _, _, rfl⟩ := providerConfirmJob_ok h
  obtain ⟨hm, hp, hi⟩ := Database.mem_jobsById_iff.mp (Database.jobById_mem hj)
  have hm' := Database.joined_updateJob (u := .providerConfirm now signature) hm
  exact ⟨_, Database.mem_jobsById_iff.mpr ⟨hm', hp, hi⟩, hc, hh, rfl, rfl⟩

theorem JobOp.Turns.not_confirmsAsProvider {op : JobOp} {db : Database} {j : JobJoin}
    {self : PeerId} (hj : j ∈ db.joined) (hn : j.snapshot.providerPeerId ≠ self)
    (hl : op.Local self) (ha : op.addressed db = some j.rowid) : ¬op.ConfirmsAsProvider := by
  intro hc
  cases op <;> try contradiction
  case providerConfirm provider _ _ _ _ =>
  simp only [addressed, Option.map_eq_some_iff] at ha
  obtain ⟨j', hj', hi⟩ := ha
  obtain ⟨hr, hs⟩ := Database.mem_joined_iff.mp hj
  have hr' := Database.jobById_row hj'
  have hs' := Database.jobById_snapshot hj'
  rw [hi] at hr'
  rw [Option.some.inj (hr.symm.trans hr'), hs', Option.some.injEq] at hs
  exact hn <| hs ▸ (Database.jobById_providerPeerId hj').trans hl

end Derouter
