import Derouter.Db.Theorems.JobOp
import Derouter.Lib.Loop
import Derouter.Lib.Transition

open Sql Transition

namespace Derouter

theorem JobJoin.unconfirmed_eq_some {j : JobJoin} {job : UnconfirmedJob} (h : j.unconfirmed = some job) :
    job.rowid = j.rowid ∧ job.providerPeerId = j.snapshot.providerPeerId ∧
      job.providerJobId = j.job.providerJobId ∧ j.job.hash = some job.hash ∧
      j.job.consumerSignature = some job.consumerSignature := by
  simp only [unconfirmed] at h
  split at h <;> try contradiction
  case _ hh hs =>
    obtain rfl := Option.some.inj h
    exact ⟨rfl, rfl, rfl, hh, hs⟩

theorem queryUnconfirmedJobs_mem {plan : Plan JobJoin} {db : Database}
    (h : queryUnconfirmedJobs plan db consumer = some jobs) (hm : job ∈ jobs) :
    ∃ j ∈ db.joined, j.job.consumerPeerId = consumer ∧ j.job.signatureConfirmedAtLocal = none ∧
      j.unconfirmed = some job := by
  have ⟨j, hj, hu⟩ := (Loop.mem_mapM_iff h).mp hm
  have ⟨hj, hw⟩ := List.mem_filter.mp <| plan.mem_order.mp hj
  simp only [JobJoin.awaitsConfirmation, Bool.and_eq_true, decide_eq_true_eq,
    Option.isNone_iff_eq_none] at hw
  exact ⟨j, hj, hw.1.1, hw.2, hu⟩

namespace JobRow

-- The columns of a job that are set when it is created and that no operation changes.
structure SameJob (r₁ r₂ : JobRow) : Prop where
  offerSnapshotRowid : r₁.offerSnapshotRowid = r₂.offerSnapshotRowid
  consumerPeerId     : r₁.consumerPeerId = r₂.consumerPeerId
  currency           : r₁.currency = r₂.currency
  providerJobId      : r₁.providerJobId = r₂.providerJobId
  createdAtSync      : r₁.createdAtSync = r₂.createdAtSync

theorem SameJob.refl (r : JobRow) : r.SameJob r where
  offerSnapshotRowid := rfl
  consumerPeerId     := rfl
  currency           := rfl
  providerJobId      := rfl
  createdAtSync      := rfl

theorem SameJob.trans {r₁ r₂ r₃ : JobRow} (h₁ : r₁.SameJob r₂) (h₂ : r₂.SameJob r₃) :
    r₁.SameJob r₃ where
  offerSnapshotRowid := h₁.offerSnapshotRowid.trans h₂.offerSnapshotRowid
  consumerPeerId     := h₁.consumerPeerId.trans h₂.consumerPeerId
  currency           := h₁.currency.trans h₂.currency
  providerJobId      := h₁.providerJobId.trans h₂.providerJobId
  createdAtSync      := h₁.createdAtSync.trans h₂.createdAtSync

variable {r r' r'' : JobRow} {op : JobOp}

theorem SameTerms.trans (h₁ : r.SameTerms r') (h₂ : r'.SameTerms r'') : r.SameTerms r'' where
  consumerPeerId  := h₁.consumerPeerId.trans h₂.consumerPeerId
  currency        := h₁.currency.trans h₂.currency
  providerJobId   := h₁.providerJobId.trans h₂.providerJobId
  createdAtSync   := h₁.createdAtSync.trans h₂.createdAtSync
  completedAtSync := h₁.completedAtSync.trans h₂.completedAtSync
  publicPayload   := h₁.publicPayload.trans h₂.publicPayload
  balanceDelta    := h₁.balanceDelta.trans h₂.balanceDelta

namespace Change

theorem sameJob (h : r.Change op r') : r.SameJob r' := by
  cases h <;> exact ⟨rfl, rfl, rfl, rfl, rfl⟩

theorem sameTerms_of_completed (h : r.Change op r') (hn : ¬op.CompletesAsConsumer)
    (hc : r.completedAtSync.isSome) : r.SameTerms r' := by
  cases h
  case providerComplete hs => exact absurd hc (by simp [hs])
  case consumerComplete    => exact absurd trivial hn
  all_goals exact ⟨rfl, rfl, rfl, rfl, rfl, rfl, rfl⟩

theorem confirmed (h : r.Change op r') (hs : r.signatureConfirmedAtLocal.isSome) :
    r'.signatureConfirmedAtLocal.isSome := by
  cases h
  case providerConfirm => rfl
  case consumerConfirm => rfl
  all_goals exact hs

end Change

-- What may become of a row by an operation of the node `self`.
def Evolves (self : PeerId) (r r' : JobRow) : Prop :=
  r' = r ∨ ∃ op : JobOp, op.Local self ∧ r.Change op r'

-- A row that its Consumer has completed.
structure ConsumerCompleted (r : JobRow) : Prop where
  completedAtLocal : r.completedAtLocal.isSome
  completedAtSync  : r.completedAtSync.isSome

namespace Evolves

variable {self : PeerId}

theorem sameJob (h : r.Evolves self r') : r.SameJob r' := by
  cases h
  case inl h => exact h ▸ .refl r
  case inr h =>
    have ⟨_, _, h⟩ := h
    exact h.sameJob

theorem confirmed (h : r.Evolves self r') (hs : r.signatureConfirmedAtLocal.isSome) :
    r'.signatureConfirmedAtLocal.isSome := by
  cases h
  case inl h => exact h ▸ hs
  case inr h =>
    have ⟨_, _, h⟩ := h
    exact h.confirmed hs

theorem consumerTerms (h : r.Evolves self r') (hc : r.ConsumerCompleted) :
    r.SameTerms r' ∧ r'.ConsumerCompleted := by
  cases h
  case inl h =>
    subst h
    exact ⟨⟨rfl, rfl, rfl, rfl, rfl, rfl, rfl⟩, hc⟩
  case inr h =>
    have ⟨_, _, h⟩ := h
    cases h
    case fail hn             => exact absurd hc.completedAtLocal (by simp [hn])
    case providerComplete hn => exact absurd hc.completedAtSync (by simp [hn])
    case consumerComplete hn => exact absurd hc.completedAtLocal (by simp [hn])
    all_goals exact ⟨⟨rfl, rfl, rfl, rfl, rfl, rfl, rfl⟩, hc.1, hc.2⟩

theorem providerTerms (h : r.Evolves self r') (hn : r.consumerPeerId ≠ self)
    (hc : r.completedAtSync.isSome) : r.SameTerms r' ∧ r'.completedAtSync.isSome := by
  cases h
  case inl h =>
    subst h
    exact ⟨⟨rfl, rfl, rfl, rfl, rfl, rfl, rfl⟩, hc⟩
  case inr h =>
    have ⟨_, hl, h⟩ := h
    cases h
    case providerComplete hs     => exact absurd hc (by simp [hs])
    case consumerComplete hs _ _ => exact absurd (hs.trans hl) hn
    all_goals exact ⟨⟨rfl, rfl, rfl, rfl, rfl, rfl, rfl⟩, hc⟩

end Evolves
end JobRow

-- What an operation of the node `self` does to the jobs of its database.
inductive Database.Moves (self : PeerId) (db db' : Database) : Prop
  | unchanged (h : db'.serviceJobs = db.serviceJobs)
  | created (hn : r.New) (h : db'.serviceJobs = db.serviceJobs.insert r)
  | changed {u : JobUpdate} (hr : db.serviceJobs.get? i = some r) (hl : JobOp.Local self op)
      (hc : r.Change op (u.set r)) (h : db'.serviceJobs = db.serviceJobs.update i u.set)

namespace Database.Moves

variable {self : PeerId} {db db' : Database} {i : Rowid} {r : JobRow}

theorem exec {op : JobOp} (ext : External) (db : Database) (hl : op.Local self) :
    db.Moves self (op.exec ext db).1 := by
  have h := op.exec_effect ext db
  generalize op.exec ext db = p at h
  cases h
  case unchanged          => exact .unchanged rfl
  case created hn _ hj _  => exact .created hn hj
  case changed _ hr hc    => exact .changed hr hl hc rfl

theorem row (h : db.Moves self db') (hr : db.serviceJobs.get? i = some r) :
    ∃ r', db'.serviceJobs.get? i = some r' ∧ r.Evolves self r' := by
  cases h
  case unchanged h => exact ⟨r, h ▸ hr, .inl rfl⟩
  case created h   => exact ⟨r, h ▸ Table.get?_insert_of_some hr, .inl rfl⟩
  case changed k r₁ op u hr₁ hl hc h =>
    by_cases hi : i = k
    case neg => exact ⟨r, h ▸ (Table.get?_update_ne hi).trans hr, .inl rfl⟩
    case pos =>
      subst hi
      have he := Option.some.inj <| hr₁.symm.trans hr
      refine ⟨u.set r, ?_, .inr ⟨op, hl, he ▸ hc⟩⟩
      rw [h, Table.get?_update_self, hr, Option.map_some]

end Database.Moves

namespace JobOp

variable {ext : External} {db db' : Database} {tr : List (Database × JobOp)} {i : Rowid}

theorem run_offerSnapshots (r : Run (step ext) db tr db') :
    db'.offerSnapshots = db.offerSnapshots := by
  refine r.invariant (I := fun d => d.offerSnapshots = db.offerSnapshots) rfl ?_
  intro _ op _ hd h
  exact Option.some.inj h ▸ (exec_offerSnapshots op).trans hd

theorem run_row {P : JobRow → Prop} {cond : Database → JobOp → Prop}
    (run : Run (step ext) db tr db') (hm : Meets cond tr)
    (hr : ∃ r, db.serviceJobs.get? i = some r ∧ P r)
    (hs : ∀ db op r r', cond db op → op.addressed db = some i → r.Change op r' → P r → P r') :
    ∃ r, db'.serviceJobs.get? i = some r ∧ P r := by
  refine run.invariant_of_meets (I := fun d => ∃ r, d.serviceJobs.get? i = some r ∧ P r) hm hr ?_
  intro db₁ op db₂ ⟨r, hr, hp⟩ hc h
  have he := op.exec_effect ext db₁
  obtain rfl := Option.some.inj h
  generalize op.exec ext db₁ = p at he
  cases he
  case unchanged        => exact ⟨r, hr, hp⟩
  case created hj _     => exact ⟨r, hj ▸ Table.get?_insert_of_some hr, hp⟩
  case changed k r₁ u ha hr₁ hu =>
    by_cases hi : i = k
    case neg => exact ⟨r, (Table.get?_update_ne hi).trans hr, hp⟩
    case pos =>
      subst hi
      obtain rfl := Option.some.inj <| hr₁.symm.trans hr
      exact ⟨u.set r₁, Database.updateJob_get?_self hr, hs _ _ _ _ hc ha hu hp⟩

end JobOp
end Derouter
