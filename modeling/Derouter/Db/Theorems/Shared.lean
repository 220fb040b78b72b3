import Derouter.Db.Shared
import Derouter.Db.Theorems.Records

open Sql

namespace Derouter

variable {ext : External} {plan : Plan JobJoin} {now now' : DateTime} {db : Database} {i : Rowid}
variable {consumer provider : PeerId} {jobId : String}

theorem Database.insertJob?_shared {r r' : JobRow} (h : r'.shared = r.shared) :
    (db.shared.insertJob? r').map (Prod.map id shared) =
      (db.insertJob? r).map (Prod.map id shared) := by
  have ho : r'.offerSnapshotRowid = r.offerSnapshotRowid :=
    show r'.shared.offerSnapshotRowid = r.shared.offerSnapshotRowid by rw [h]
  cases hs : db.offerSnapshots.get? r.offerSnapshotRowid
  case none =>
    have hn : db.insertJob? r = none := by
      refine Option.eq_none_iff_forall_ne_some.mpr fun p hp => ?_
      obtain ⟨_, _, _, _, s, he⟩ := insertJob?_eq_some hp
      exact absurd (hs.symm.trans he) (by simp)
    have hn' : db.shared.insertJob? r' = none := by
      refine Option.eq_none_iff_forall_ne_some.mpr fun p hp => ?_
      obtain ⟨_, _, _, _, s, he⟩ := insertJob?_eq_some hp
      exact absurd (hs.symm.trans (ho ▸ he)) (by simp)
    rw [hn, hn']
  case some s =>
    obtain ⟨db₁, h₁⟩ := insertJob?_of_snapshot hs
    obtain ⟨db₂, h₂⟩ : ∃ db₂, db.shared.insertJob? r' = some (_, db₂) :=
      insertJob?_of_snapshot (ho ▸ hs)
    obtain ⟨_, hj₁, hs₁, hp₁, _⟩ := insertJob?_eq_some h₁
    obtain ⟨_, hj₂, hs₂, hp₂, _⟩ := insertJob?_eq_some h₂
    have hi : db.shared.serviceJobs.nextRowid = db.serviceJobs.nextRowid := Table.nextRowid_map
    have hm : db₂.serviceJobs.map JobRow.shared = db₁.serviceJobs.map JobRow.shared := by
      rw [hj₁, hj₂, Table.map_insert, Table.map_insert, h]
      exact congrArg (Table.insert · r.shared) (congrArg Database.serviceJobs db.shared_shared)
    rw [h₁, h₂, hi, Option.map_some, Option.map_some, Prod.map, Prod.map,
      shared_congr (hp₂.trans hp₁.symm) (hs₂.trans hs₁.symm) hm]

theorem createJob_shared {args args' : Option String} :
    (createJob now' db.shared snapshot consumer currency args' jobId createdAt).map
        (Prod.map id Database.shared) =
      (createJob now db snapshot consumer currency args jobId createdAt).map
        (Prod.map id Database.shared) :=
  Database.insertJob?_shared rfl

theorem failJob_shared (h : plan.Respects JobJoin.shared) :
    (failJob plan now' db.shared provider jobId reason' cls' priv').toOption.map Database.shared =
      (failJob plan now db provider jobId reason cls priv).toOption.map Database.shared := by
  simp only [failJob, Database.jobById_shared h]
  cases db.jobById plan provider jobId
  case none   => rfl
  case some j =>
    have hu : (db.shared.updateJob j.rowid (.fail now' reason' cls' priv')).shared =
        (db.updateJob j.rowid (.fail now reason cls priv)).shared :=
      Database.updateJob_shared fun r => by simp [JobUpdate.fail, JobRow.shared, Function.comp_def]
    cases hr : j.job.reason <;> cases hc : j.job.completedAtLocal <;>
      simp [JobJoin.shared, JobRow.shared, hr, hc, Except.toOption, hu]

theorem setJobConfirmationError_shared {error error' : String} :
    Prod.map id Database.shared (setJobConfirmationError db.shared i error') =
      Prod.map id Database.shared (setJobConfirmationError db i error) := by
  have hr : db.shared.serviceJobs.get? i = (db.serviceJobs.get? i).map JobRow.shared :=
    Table.get?_map
  have hu : (db.shared.updateJob i (.setConfirmationError error')).shared =
      (db.updateJob i (.setConfirmationError error)).shared :=
    Database.updateJob_shared fun r => by
      simp [JobUpdate.setConfirmationError, JobRow.shared, Function.comp_def]
  simp only [setJobConfirmationError, hr]
  cases db.serviceJobs.get? i
  case none   => simp
  case some r => cases hc : r.signatureConfirmedAtLocal <;> simp [JobRow.shared, hc, hu]

theorem providerCompleteJob_shared (h : plan.Respects JobJoin.shared) {priv priv' : Option String} :
    (providerCompleteJob ext plan now db.shared provider jobId delta priv' pub).toOption.map
        (·.1.shared) =
      (providerCompleteJob ext plan now db provider jobId delta priv pub).toOption.map
        (·.1.shared) := by
  simp only [providerCompleteJob, Database.jobById_shared h]
  cases hj : db.jobById plan provider jobId
  case none   => rfl
  case some j =>
    have hu : (db.shared.updateJob j.rowid (.providerComplete now delta priv' pub)).shared =
        (db.updateJob j.rowid (.providerComplete now delta priv pub)).shared :=
      Database.updateJob_shared fun r => by
        simp [JobUpdate.providerComplete, JobRow.shared, Function.comp_def]
    have hr := Database.jobById_row hj
    have hr' : db.shared.serviceJobs.get? j.rowid = some j.job.shared :=
      Table.get?_map.trans (by rw [hr, Option.map_some])
    have hs := Database.jobById_snapshot hj
    have hf := Database.findByRowid_of_update (u := .providerComplete now delta priv pub) hr hs
    have hf' := Database.findByRowid_of_update (u := .providerComplete now delta priv' pub) hr' hs
    cases hn : j.job.reason <;> cases hc : j.job.completedAtSync <;>
      cases hv : validOptBalanceDelta ext delta j.job.currency <;>
        simp [JobJoin.shared, JobRow.shared, hn, hc, hv, Except.toOption, hf, hf', hu]

theorem providerConfirmJob_shared (h : plan.Respects JobJoin.shared) :
    (providerConfirmJob ext plan now' db.shared consumer provider jobId jobHash key sig).map
        Database.shared =
      (providerConfirmJob ext plan now db consumer provider jobId jobHash key sig).map
        Database.shared := by
  simp only [providerConfirmJob, Database.findByJobId_shared h]
  cases db.findByJobId plan provider jobId
  case none => rfl
  case some job =>
    have hu : (db.shared.updateJob job.jobRowid (.providerConfirm now' sig)).shared =
        (db.updateJob job.jobRowid (.providerConfirm now sig)).shared :=
      Database.updateJob_shared fun r => by
        simp [JobUpdate.providerConfirm, JobRow.shared, Function.comp_def]
    simp only [Option.map_some, JobRecord.shared, Option.isSome_map]
    split
    case isTrue => rfl
    case isFalse =>
      split
      case isTrue => rfl
      case isFalse =>
        split
        case isTrue => rfl
        case isFalse =>
          split
          case isTrue => rfl
          case isFalse =>
            split
            case h_2 => rfl
            case h_1 =>
              split
              case isTrue => rfl
              case isFalse =>
                split
                case h_1 => rfl
                case h_2 =>
                  split
                  case isTrue  => rfl
                  case isFalse => exact congrArg Except.ok hu

theorem consumerCompleteJob_shared (h : plan.Respects JobJoin.shared) {priv priv' : Option String} :
    (consumerCompleteJob ext plan now' db.shared consumer provider jobId delta pub priv' t
        sign).toOption.map (·.1.shared) =
      (consumerCompleteJob ext plan now db consumer provider jobId delta pub priv t
        sign).toOption.map (·.1.shared) := by
  simp only [consumerCompleteJob, Database.findByJobId_shared h]
  cases db.findByJobId plan provider jobId
  case none => rfl
  case some job =>
    have hu (hash : List UInt8) : (db.shared.updateJob job.jobRowid (.consumerComplete now'
        (delta.map Hex.encodeString) pub priv' t hash (sign hash))).shared =
          (db.updateJob job.jobRowid (.consumerComplete now (delta.map Hex.encodeString) pub priv t
            hash (sign hash))).shared :=
      Database.updateJob_shared fun r => by
        simp [JobUpdate.consumerComplete, JobRow.shared, Function.comp_def]
    simp only [Option.map_some, JobRecord.shared]
    split
    case isTrue => rfl
    case isFalse =>
      cases job.reason
      case some => rfl
      case none =>
        cases job.completedAtLocal
        case some => rfl
        case none =>
          cases validOptBalanceDelta ext delta job.currency
          case false => rfl
          case true  => exact congrArg some (hu _)

theorem consumerConfirmJob_shared :
    (consumerConfirmJob now' db.shared i).map (·.1.shared) =
      (consumerConfirmJob now db i).map (·.1.shared) := by
  have hr : db.shared.serviceJobs.get? i = (db.serviceJobs.get? i).map JobRow.shared :=
    Table.get?_map
  have hu : (db.shared.updateJob i (.consumerConfirm now')).shared =
      (db.updateJob i (.consumerConfirm now)).shared :=
    Database.updateJob_shared fun r => by
      simp [JobUpdate.consumerConfirm, JobRow.shared, Function.comp_def]
  cases hj : db.serviceJobs.get? i
  case none => simp [consumerConfirmJob, hr, hj]
  case some r =>
    rw [hj, Option.map_some] at hr
    obtain ⟨s, hs⟩ := db.jobSnapshot hj
    have hf := Database.findByRowid_of_update (u := .consumerConfirm now) hj hs
    have hf' := Database.findByRowid_of_update (u := .consumerConfirm now') hr hs
    cases hc : r.signatureConfirmedAtLocal <;> cases hg : r.consumerSignature <;>
      simp [consumerConfirmJob, hj, hr, JobRow.shared, hc, hg, hf, hf', hu, Except.map]

end Derouter
