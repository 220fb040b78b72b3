import Derouter.Db.ServiceJobs.JobOp
import Derouter.Db.Theorems.Operations

open Sql

namespace Derouter

namespace JobRow

-- A row as `create_job` inserts it.
structure New (r : JobRow) : Prop where
  reason                    : r.reason = none
  completedAtLocal          : r.completedAtLocal = none
  completedAtSync           : r.completedAtSync = none
  publicPayload             : r.publicPayload = none
  balanceDelta              : r.balanceDelta = none
  hash                      : r.hash = none
  consumerSignature         : r.consumerSignature = none
  signatureConfirmedAtLocal : r.signatureConfirmedAtLocal = none

-- How an operation that returns `Ok` rewrites the row that it addresses. The premises are the columns
-- that the operation guards on.
inductive Change : JobOp → JobRow → JobRow → Prop
  | fail (hr : r.reason = none) (hc : r.completedAtLocal = none) :
    Change (.fail plan now provider jobId why cls priv) r ((JobUpdate.fail now why cls priv).set r)
  | setConfirmationError (hs : r.signatureConfirmedAtLocal = none) :
    Change (.setConfirmationError i error) r ((JobUpdate.setConfirmationError error).set r)
  | providerComplete (hr : r.reason = none) (hc : r.completedAtSync = none) :
    Change (.providerComplete plan now provider jobId delta priv pub) r
      ((JobUpdate.providerComplete now delta priv pub).set r)
  | providerConfirm (hs : r.signatureConfirmedAtLocal = none) (hr : r.reason = none)
      (hc : r.completedAtSync.isSome) :
    Change (.providerConfirm plan now consumer provider jobId jobHash key signature) r
      ((JobUpdate.providerConfirm now signature).set r)
  | consumerComplete (hn : r.consumerPeerId = consumer) (hr : r.reason = none)
      (hc : r.completedAtLocal = none) :
    Change (.consumerComplete plan now consumer provider jobId delta pub priv t sign) r
      ((JobUpdate.consumerComplete now (delta.map Hex.encodeString) pub priv t digest
        (sign digest)).set r)
  | consumerConfirm (hs : r.signatureConfirmedAtLocal = none) (hc : r.consumerSignature.isSome) :
    Change (.consumerConfirm now i) r ((JobUpdate.consumerConfirm now).set r)

end JobRow

theorem JobJoin.providerHash_isSome {j : JobJoin} (h : j.providerHash ext = some digest) :
    j.job.publicPayload.isSome ∧ j.job.completedAtSync.isSome := by
  simp only [providerHash] at h
  split at h
  case h_1 hp ht => simp [hp, ht]
  case h_2       => contradiction

namespace JobOp

-- All that a call can do to the database: nothing, the insertion of a row, or a change of the row
-- that it addresses.
inductive Effect (db : Database) (op : JobOp) : Database × Option Rowid → Prop
  | unchanged : Effect db op (db, none)
  | created (hn : r.New) (he : op.event = .other)
      (hj : db'.serviceJobs = db.serviceJobs.insert r) (hs : db'.offerSnapshots = db.offerSnapshots) :
    Effect db op (db', some db.serviceJobs.nextRowid)
  | changed {u : JobUpdate} (ha : op.addressed db = some i) (hr : db.serviceJobs.get? i = some r)
      (hc : r.Change op (u.set r)) :
    Effect db op (db.updateJob i u, some i)

theorem exec_effect (ext : External) (db : Database) (op : JobOp) : op.Effect db (op.exec ext db) := by
  cases op <;> simp only [exec]
  case create =>
    split
    case h_2 => exact .unchanged
    case h_1 h =>
      have ⟨hi, hs, _, hj⟩ := createJob_ok h
      exact hi ▸ .created ⟨rfl, rfl, rfl, rfl, rfl, rfl, rfl, rfl⟩ rfl hj hs
  case fail =>
    split
    case h_2 => exact .unchanged
    case h_1 h =>
      obtain ⟨j, hj, hr, hc, rfl⟩ := failJob_ok h
      simp only [hj, Option.map_some]
      exact .changed (by simp [addressed, hj]) (Database.jobById_row hj) (.fail hr hc)
  case setConfirmationError i error =>
    rcases setJobConfirmationError_cases db i error with ⟨e, he, h⟩ | ⟨r, hr, hs, h⟩
    case inl =>
      cases e
      case ok => contradiction
      all_goals exact h ▸ .unchanged
    case inr => exact h ▸ .changed rfl hr (.setConfirmationError hs)
  case providerComplete =>
    split
    case h_2 => exact .unchanged
    case h_1 h =>
      obtain ⟨j, hj, hr, hc, _, rfl, rfl⟩ := providerCompleteJob_ok h
      exact .changed (by simp [addressed, hj]) (Database.jobById_row hj) (.providerComplete hr hc)
  case providerConfirm =>
    split
    case h_2 => exact .unchanged
    case h_1 h =>
      obtain ⟨j, _, hj, _, hs, hr, hh, _, _, rfl⟩ := providerConfirmJob_ok h
      have hc := JobJoin.providerHash_isSome hh |>.2
      simp only [hj, Option.map_some]
      exact .changed (by simp [addressed, hj]) (Database.jobById_row hj) (.providerConfirm hs hr hc)
  case consumerComplete =>
    split
    case h_2 => exact .unchanged
    case h_1 h =>
      obtain ⟨j, hj, hn, hr, hc, _, _, _, _, rfl, rfl, rfl⟩ := consumerCompleteJob_ok h
      exact .changed (by simp [addressed, hj]) (Database.jobById_row hj)
        (.consumerComplete hn hr hc)
  case consumerConfirm now i =>
    split
    case h_2 => exact .unchanged
    case h_1 db' job h =>
      obtain ⟨r, hr, hs, hc, hi, rfl⟩ := consumerConfirmJob_ok h
      rw [hi]
      exact .changed rfl hr (.consumerConfirm hs hc)

theorem exec_offerSnapshots (op : JobOp) : (op.exec ext db).1.offerSnapshots = db.offerSnapshots := by
  have h := op.exec_effect ext db
  generalize op.exec ext db = p at h
  cases h <;> first | rfl | assumption

end JobOp
end Derouter
