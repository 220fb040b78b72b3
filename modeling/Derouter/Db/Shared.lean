import Derouter.Db.ServiceJobs.JobOp
import Derouter.Lib.Sql.Projection

open Sql

namespace Derouter

-- What is left of a job without what the schema calls local. Of the reason for its failure and of the
-- two times, whether they are set is kept.
def JobRow.shared (r : JobRow) : JobRow := { r with
  jobArgs                   := none
  privatePayload            := none
  reason                    := r.reason.map fun _ => ""
  reasonClass               := none
  createdAtLocal            := .zero
  completedAtLocal          := r.completedAtLocal.map fun _ => .zero
  signatureConfirmedAtLocal := r.signatureConfirmedAtLocal.map fun _ => .zero
  confirmationError         := none
}

def JobJoin.shared (j : JobJoin) : JobJoin :=
  { j with job := j.job.shared }

def JobRecord.shared (r : JobRecord) : JobRecord := { r with
  privatePayload            := none
  reason                    := r.reason.map fun _ => ""
  reasonClass               := none
  createdAtLocal            := .zero
  completedAtLocal          := r.completedAtLocal.map fun _ => .zero
  signatureConfirmedAtLocal := r.signatureConfirmedAtLocal.map fun _ => .zero
  confirmationError         := none
}

def Database.shared (db : Database) : Database where
  peers          := db.peers
  offerSnapshots := db.offerSnapshots
  serviceJobs    := db.serviceJobs.map JobRow.shared
  snapshotPeer   := db.snapshotPeer
  jobSnapshot    := fun h => by
    obtain ⟨r, hr, rfl⟩ := Option.map_eq_some_iff.mp (Table.get?_map.symm.trans h)
    exact db.jobSnapshot (r := r) hr

@[simp]
theorem JobRow.shared_shared (r : JobRow) : r.shared.shared = r.shared := by
  simp [shared, Function.comp_def]

@[simp]
theorem JobJoin.record_shared (j : JobJoin) : j.shared.record = j.record.shared :=
  rfl

namespace Database

variable {db db' : Database} {i : Rowid} {plan : Plan JobJoin} {provider : PeerId} {jobId : String}

theorem shared_congr (hp : db.peers = db'.peers) (hs : db.offerSnapshots = db'.offerSnapshots)
    (hj : db.serviceJobs.map JobRow.shared = db'.serviceJobs.map JobRow.shared) :
    db.shared = db'.shared := by
  simp only [shared, hp, hs, hj]

@[simp]
theorem shared_shared : db.shared.shared = db.shared := by
  refine shared_congr rfl rfl (Table.ext ?_)
  simp [shared, Table.map, Function.comp_def]

theorem updateJob_shared {u u' : JobUpdate} (h : ∀ r, (u'.set r.shared).shared = (u.set r).shared) :
    (db.shared.updateJob i u').shared = (db.updateJob i u).shared :=
  shared_congr rfl rfl (Table.map_update JobRow.shared_shared h)

theorem joined_shared : db.shared.joined = db.joined.map JobJoin.shared := by
  simp only [joined, shared, Table.map, List.filterMap_map, List.map_filterMap]
  refine List.filterMap_congr fun r _ => ?_
  simp only [Function.comp_apply, Option.map_map]
  rfl

theorem jobsById_shared :
    db.shared.jobsById provider jobId = (db.jobsById provider jobId).map JobJoin.shared := by
  rw [jobsById, jobsById, joined_shared, List.filter_map]
  rfl

theorem jobById_shared (h : plan.Respects JobJoin.shared) :
    db.shared.jobById plan provider jobId = (db.jobById plan provider jobId).map JobJoin.shared := by
  rw [jobById, jobById, jobsById_shared, h.first_map]

theorem findByJobId_shared (h : plan.Respects JobJoin.shared) :
    db.shared.findByJobId plan provider jobId =
      (db.findByJobId plan provider jobId).map JobRecord.shared := by
  rw [findByJobId, findByJobId, jobById_shared h, Option.map_map, Option.map_map]
  rfl

end Database
end Derouter
