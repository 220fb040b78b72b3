import Derouter.Db.Theorems.JobOp
import Derouter.Lib.Delta

open Sql

namespace Derouter
namespace Database

variable {db db' : Database} {i : Rowid} {u : JobUpdate}

theorem findByRowid_updateJob : (db.updateJob i u).findByRowid =
    Delta.apply db.findByRowid (i, (db.updateJob i u).findByRowid i) := by
  funext j
  by_cases hj : j = i
  case pos => rw [hj, Delta.apply_self]
  case neg =>
    rw [Delta.apply_of_ne hj]
    have hr : (db.updateJob i u).serviceJobs.get? j = db.serviceJobs.get? j := by
      rw [updateJob_get?, if_neg hj]
    simp only [findByRowid, hr]
    rfl

theorem findByRowid_of_update (hr : db.serviceJobs.get? i = some r)
    (hs : db.offerSnapshots.get? r.offerSnapshotRowid = some s) :
    (db.updateJob i u).findByRowid i = some (JobJoin.record ⟨i, u.set r, s⟩) := by
  have hs' : (db.updateJob i u).offerSnapshots.get? (u.set r).offerSnapshotRowid = some s := by
    rw [u.keeps]
    exact hs
  simp only [findByRowid, updateJob_get?_self hr, hs', Option.map_some]

theorem findByRowid_of_set_eq (h : ∀ r, db.serviceJobs.get? i = some r → u.set r = r) :
    (db.updateJob i u).findByRowid = db.findByRowid := by
  funext j
  have hr : (db.updateJob i u).serviceJobs.get? j = db.serviceJobs.get? j := by
    rw [updateJob_get?]
    split
    case isFalse => rfl
    case isTrue hj =>
      cases hr : db.serviceJobs.get? j
      case none   => rfl
      case some r => rw [Option.map_some, h r (hj ▸ hr)]
  simp only [findByRowid, hr]
  rfl

theorem findByRowid_of_snapshots (hj : db'.serviceJobs = db.serviceJobs)
    (hs : ∀ i r, db.serviceJobs.get? i = some r →
      db'.offerSnapshots.get? r.offerSnapshotRowid = db.offerSnapshots.get? r.offerSnapshotRowid) :
    db'.findByRowid = db.findByRowid := by
  funext i
  simp only [findByRowid, hj]
  split
  case h_1      => rfl
  case h_2 r hr => rw [hs i r hr]

end Database
end Derouter
