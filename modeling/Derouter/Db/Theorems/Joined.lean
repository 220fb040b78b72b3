import Derouter.Db.Theorems.Offers
import Derouter.Db.Theorems.Rows

open Sql

namespace Derouter

theorem Database.joined_inj {db : Database} {j j' : JobJoin} (h : j ∈ db.joined)
    (h' : j' ∈ db.joined) (he : j.rowid = j'.rowid) : j = j' := by
  obtain ⟨i, r, s⟩ := j
  obtain ⟨i', r', s'⟩ := j'
  obtain rfl : i = i' := he
  have ⟨hr, hs⟩ := mem_joined_iff.mp h
  have ⟨hr', hs'⟩ := mem_joined_iff.mp h'
  obtain rfl := Option.some.inj <| hr.symm.trans hr'
  obtain rfl := Option.some.inj <| hs.symm.trans hs'
  rfl

theorem Database.joined_of_no_jobs {db : Database} (h : db.serviceJobs = ∅) : db.joined = [] := by
  rw [joined, h]
  rfl

theorem createJob_joined {db db' : Database} {j : JobJoin}
    (h : createJob now db k consumer currency args jobId t = some (i, db')) (hj : j ∈ db'.joined)
    (hn : db.serviceJobs.get? j.rowid = none) :
    j.rowid = db.serviceJobs.nextRowid ∧ j.job.providerJobId = jobId ∧
      db.offerSnapshots.get? k = some j.snapshot := by
  have ⟨_, hs, _, hr⟩ := createJob_ok h
  have ⟨hj, hs'⟩ := Database.mem_joined_iff.mp hj
  rw [hr] at hj
  rw [hs] at hs'
  cases Table.get?_insert_cases hj
  case inr hj => simp [hn] at hj
  case inl hj =>
    rw [hj.2] at hs'
    exact ⟨hj.1, by rw [hj.2], hs'⟩

-- A job of the provider has this ID.
def Database.HasJob (db : Database) (provider : PeerId) (jobId : String) : Prop :=
  ∃ j ∈ db.joined, j.snapshot.providerPeerId = provider ∧ j.job.providerJobId = jobId

theorem Database.jobById_eq_none_iff {db : Database} {plan : Plan JobJoin} :
    db.jobById plan provider jobId = none ↔ ¬db.HasJob provider jobId := by
  rw [jobById, Plan.first_eq_none_iff, List.eq_nil_iff_forall_not_mem]
  simp only [mem_jobsById_iff, HasJob, not_exists]

theorem createJob_mem_joined {db db' : Database}
    (h : createJob now db k consumer currency args jobId t = some (i, db'))
    (hs : db.offerSnapshots.get? k = some s) :
    ∃ j ∈ db'.joined, j.rowid = db.serviceJobs.nextRowid ∧ j.snapshot = s ∧
      j.job.providerJobId = jobId := by
  obtain ⟨_, hs', _, hr⟩ := createJob_ok h
  have hj := congrArg (·.get? db.serviceJobs.nextRowid) hr
  simp only [Table.get?_insert] at hj
  exact ⟨⟨_, _, s⟩, Database.mem_joined_iff.mpr ⟨hj, hs' ▸ hs⟩, rfl, rfl, rfl⟩

theorem createJob_hasJob {db db' : Database}
    (h : createJob now db k consumer currency args jobId t = some (i, db'))
    (hs : db.offerSnapshots.get? k = some s) : db'.HasJob s.providerPeerId jobId := by
  obtain ⟨j, hj, _, rfl, hi⟩ := createJob_mem_joined h hs
  exact ⟨j, hj, rfl, hi⟩

namespace JobOp

-- What a call makes of a joined row: it stays as it is, unless the call addresses it.
structure Turns (op : JobOp) (db : Database) (j j' : JobJoin) : Prop where
  rowid    : j'.rowid = j.rowid
  snapshot : j'.snapshot = j.snapshot
  job      : j'.job = j.job ∨ (op.addressed db = some j.rowid ∧ j.job.Change op j'.job)

variable {ext : External} {db : Database} {op : JobOp} {j j' : JobJoin}

theorem Turns.sameJob (h : op.Turns db j j') : j.job.SameJob j'.job := by
  cases h.job
  case inl h => exact h ▸ .refl _
  case inr h => exact h.2.sameJob

theorem Turns.refl : op.Turns db j j :=
  ⟨rfl, rfl, .inl rfl⟩

theorem exec_joined (ext : External) (op : JobOp) (h : j ∈ db.joined) :
    ∃ j' ∈ (op.exec ext db).1.joined, op.Turns db j j' := by
  have ⟨hr, hs⟩ := Database.mem_joined_iff.mp h
  have he := op.exec_effect ext db
  generalize op.exec ext db = p at he
  cases he
  case unchanged       => exact ⟨j, h, .refl⟩
  case created hj hs'  =>
    have hr' := hj ▸ Table.get?_insert_of_some hr
    exact ⟨j, Database.mem_joined_iff.mpr ⟨hr', hs' ▸ hs⟩, .refl⟩
  case changed i r u ha hr' hc =>
    by_cases hi : j.rowid = i
    case neg =>
      have hr' : (db.updateJob i u).serviceJobs.get? j.rowid = some j.job :=
        (Table.get?_update_ne hi).trans hr
      exact ⟨j, Database.mem_joined_iff.mpr ⟨hr', hs⟩, .refl⟩
    case pos =>
      subst hi
      obtain rfl := Option.some.inj <| hr'.symm.trans hr
      exact ⟨_, Database.joined_updateJob h, rfl, rfl, .inr ⟨ha, hc⟩⟩

theorem exec_joined_cases (h : j' ∈ (op.exec ext db).1.joined) :
    (j'.rowid = db.serviceJobs.nextRowid ∧ j'.job.New) ∨ ∃ j ∈ db.joined, op.Turns db j j' := by
  have he := op.exec_effect ext db
  generalize op.exec ext db = p at he h
  cases he
  case unchanged         => exact .inr ⟨j', h, .refl⟩
  case created hn _ hj hs =>
    cases Database.mem_joined_insert hj hs h
    case inl h => exact .inr ⟨j', h, .refl⟩
    case inr h => exact .inl ⟨h.1, h.2 ▸ hn⟩
  case changed i r u ha hr hc =>
    obtain ⟨r', hj, hu⟩ := Database.mem_joined_updateJob h
    refine .inr ⟨_, hj, rfl, rfl, ?_⟩
    cases hu
    case inr hu => exact .inl hu.2
    case inl hu =>
      obtain ⟨hi, hu⟩ := hu
      have hr' := (Database.mem_joined_iff.mp hj).1
      rw [hi] at hr'
      obtain rfl := Option.some.inj <| hr.symm.trans hr'
      exact .inr ⟨by rw [ha, hi], hu ▸ hc⟩

def Creates : JobOp → Prop
  | create .. => True
  | _         => False

theorem exec_isSome_get? (h : ¬op.Creates) (i : Rowid) :
    ((op.exec ext db).1.serviceJobs.get? i).isSome = (db.serviceJobs.get? i).isSome := by
  cases op <;> simp only [exec]
  case create => exact absurd trivial h
  case setConfirmationError k error =>
    rcases setJobConfirmationError_cases db k error with ⟨e, he, h⟩ | ⟨_, _, _, h⟩
    case inl => cases e <;> simp_all
    case inr => exact h ▸ Table.isSome_get?_update
  case fail =>
    split <;> try rfl
    case _ hc =>
      obtain ⟨_, _, _, _, rfl⟩ := failJob_ok hc
      exact Table.isSome_get?_update
  case providerComplete =>
    split <;> try rfl
    case _ hc =>
      obtain ⟨_, _, _, _, _, _, rfl⟩ := providerCompleteJob_ok hc
      exact Table.isSome_get?_update
  case providerConfirm =>
    split <;> try rfl
    case _ hc =>
      obtain ⟨_, _, _, _, _, _, _, _, _, rfl⟩ := providerConfirmJob_ok hc
      exact Table.isSome_get?_update
  case consumerComplete =>
    split <;> try rfl
    case _ hc =>
      obtain ⟨_, _, _, _, _, _, _, _, _, _, _, rfl⟩ := consumerCompleteJob_ok hc
      exact Table.isSome_get?_update
  case consumerConfirm =>
    split <;> try rfl
    case _ hc =>
      obtain ⟨_, _, _, _, _, rfl⟩ := consumerConfirmJob_ok hc
      exact Table.isSome_get?_update

end JobOp
end Derouter
