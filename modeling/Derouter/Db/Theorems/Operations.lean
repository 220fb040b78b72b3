import Derouter.Db.ServiceJobs.Operations

open Sql

namespace Derouter

namespace Database

variable {db db' : Database} {i j : Rowid} {r : JobRow}

theorem updateJob_get? {u : JobUpdate} :
    (db.updateJob i u).serviceJobs.get? j =
      if j = i then (db.serviceJobs.get? j).map u.set else db.serviceJobs.get? j :=
  Table.get?_update

theorem updateJob_get?_self {u : JobUpdate} (h : db.serviceJobs.get? i = some r) :
    (db.updateJob i u).serviceJobs.get? i = some (u.set r) := by
  rw [updateJob_get?, if_pos rfl, h, Option.map_some]

theorem insertJob?_eq_some (h : db.insertJob? r = some (i, db')) :
    i = db.serviceJobs.nextRowid ∧ db'.serviceJobs = db.serviceJobs.insert r ∧
      db'.offerSnapshots = db.offerSnapshots ∧ db'.peers = db.peers ∧
      ∃ s, db.offerSnapshots.get? r.offerSnapshotRowid = some s := by
  simp only [insertJob?] at h
  split at h
  case h_1 => contradiction
  case h_2 s hs =>
    obtain ⟨rfl, rfl⟩ := Prod.mk.inj <| Option.some.inj h
    exact ⟨rfl, rfl, rfl, rfl, s, hs⟩

theorem insertJob?_of_snapshot (h : db.offerSnapshots.get? r.offerSnapshotRowid = some s) :
    ∃ db', db.insertJob? r = some (db.serviceJobs.nextRowid, db') := by
  simp only [insertJob?]
  split
  case h_1 hn => simp [hn] at h
  case h_2    => exact ⟨_, rfl⟩

theorem findByRowid_eq_some (h : db.findByRowid i = some record) :
    ∃ j : JobJoin, j.rowid = i ∧ db.serviceJobs.get? i = some j.job ∧
      db.offerSnapshots.get? j.job.offerSnapshotRowid = some j.snapshot ∧ j.record = record := by
  simp only [findByRowid] at h
  split at h
  case h_1 => contradiction
  case h_2 r hr =>
    obtain ⟨s, hs, he⟩ := Option.map_eq_some_iff.mp h
    exact ⟨⟨i, r, s⟩, rfl, hr, hs, he⟩

theorem mem_joined_updateJob {j : JobJoin} {u : JobUpdate} (h : j ∈ (db.updateJob i u).joined) :
    ∃ r, ⟨j.rowid, r, j.snapshot⟩ ∈ db.joined ∧
      ((j.rowid = i ∧ j.job = u.set r) ∨ (j.rowid ≠ i ∧ j.job = r)) := by
  have ⟨hj, hs⟩ := mem_joined_iff.mp h
  rcases Table.get?_update_cases hj with ⟨hi, r, hr, he⟩ | ⟨hi, hr⟩
  case inl =>
    have hs : db.offerSnapshots.get? r.offerSnapshotRowid = some j.snapshot := by
      rw [← u.keeps, ← he]
      exact hs
    exact ⟨r, mem_joined_iff.mpr ⟨hi ▸ hr, hs⟩, .inl ⟨hi, he⟩⟩
  case inr => exact ⟨j.job, mem_joined_iff.mpr ⟨hr, hs⟩, .inr ⟨hi, rfl⟩⟩

theorem joined_updateJob {j : JobJoin} {u : JobUpdate} (h : j ∈ db.joined) :
    ⟨j.rowid, u.set j.job, j.snapshot⟩ ∈ (db.updateJob j.rowid u).joined := by
  obtain ⟨hr, hs⟩ := mem_joined_iff.mp h
  exact mem_joined_iff.mpr ⟨updateJob_get?_self hr, (u.keeps j.job).symm ▸ hs⟩

theorem mem_joined_insert {j : JobJoin} (hj : db'.serviceJobs = db.serviceJobs.insert r)
    (hs : db'.offerSnapshots = db.offerSnapshots) (h : j ∈ db'.joined) :
    j ∈ db.joined ∨ (j.rowid = db.serviceJobs.nextRowid ∧ j.job = r) := by
  have ⟨h, hs'⟩ := mem_joined_iff.mp h
  rcases Table.get?_insert_cases (hj ▸ h) with h | h
  case inl => exact .inr h
  case inr => exact .inl <| mem_joined_iff.mpr ⟨h, hs ▸ hs'⟩

end Database

-- The columns of a job that its hash is made of.
structure JobRow.SameTerms (r₁ r₂ : JobRow) : Prop where
  consumerPeerId  : r₁.consumerPeerId = r₂.consumerPeerId
  currency        : r₁.currency = r₂.currency
  providerJobId   : r₁.providerJobId = r₂.providerJobId
  createdAtSync   : r₁.createdAtSync = r₂.createdAtSync
  completedAtSync : r₁.completedAtSync = r₂.completedAtSync
  publicPayload   : r₁.publicPayload = r₂.publicPayload
  balanceDelta    : r₁.balanceDelta = r₂.balanceDelta

-- The payload that both sides hash for a joined row and the terms of its completion. The balance
-- delta of the terms is the one that is already hex-encoded.
def JobJoin.hashingPayload (j : JobJoin) (publicPayload : String) (completedAtSync : Int)
    (balanceDelta : Option String) : JobHashingPayload where
  consumerPeerId     := j.job.consumerPeerId
  providerPeerId     := j.snapshot.providerPeerId
  protocolId         := j.snapshot.protocolId
  offerPayload       := j.snapshot.protocolPayload
  currency           := j.job.currency.code
  providerJobId      := j.job.providerJobId
  jobCreatedAtSync   := j.job.createdAtSync
  jobPublicPayload   := publicPayload
  jobCompletedAtSync := completedAtSync
  balanceDelta       := balanceDelta

-- The hash of a completed row as the Provider stores it, with its balance delta in plain.
def JobJoin.providerHash (ext : External) (j : JobJoin) : Option (List UInt8) :=
  match j.job.publicPayload, j.job.completedAtSync with
  | some publicPayload, some completedAtSync => some <| hashJob ext <|
      j.hashingPayload publicPayload completedAtSync (j.job.balanceDelta.map Hex.encodeString)
  | _, _ => none

theorem JobJoin.providerHash_congr {ext : External} {j₁ j₂ : JobJoin}
    (ht : j₁.job.SameTerms j₂.job) (hk : j₁.snapshot.SameKey j₂.snapshot) :
    j₁.providerHash ext = j₂.providerHash ext := by
  simp only [providerHash, hashingPayload, ht.consumerPeerId, ht.currency, ht.providerJobId,
    ht.createdAtSync, ht.completedAtSync, ht.publicPayload, ht.balanceDelta, hk.protocolPayload,
    hk.sameOffer.1, hk.sameOffer.2.1]

variable {ext : External} {plan : Plan JobJoin} {now : DateTime} {db db' : Database}
variable {consumer provider : PeerId} {jobId : String}

theorem createJob_ok
    (h : createJob now db snapshot consumer currency args jobId createdAt = some (i, db')) :
    i = db.serviceJobs.nextRowid ∧ db'.offerSnapshots = db.offerSnapshots ∧ db'.peers = db.peers ∧
      db'.serviceJobs = db.serviceJobs.insert {
        offerSnapshotRowid := snapshot
        consumerPeerId     := consumer
        currency           := currency
        jobArgs            := args
        providerJobId      := jobId
        createdAtSync      := createdAt
        createdAtLocal     := now.currentTimestamp
      } := by
  have ⟨hi, hj, hs, hp, _⟩ := Database.insertJob?_eq_some h
  exact ⟨hi, hs, hp, hj⟩

theorem failJob_ok (h : failJob plan now db provider jobId reason cls priv = .ok db') :
    ∃ j, db.jobById plan provider jobId = some j ∧ j.job.reason = none ∧
      j.job.completedAtLocal = none ∧ db' = db.updateJob j.rowid (.fail now reason cls priv) := by
  simp only [failJob] at h
  split at h
  case h_1 => contradiction
  case h_2 j hj =>
    split at h
    case h_1 => contradiction
    case h_2 hr =>
      split at h
      case isTrue    => contradiction
      case isFalse hc => exact ⟨j, hj, hr, by simpa using hc, Except.ok.inj h |>.symm⟩

theorem failJob_of_jobById (hj : db.jobById plan provider jobId = some j)
    (hr : j.job.reason = none) (hc : j.job.completedAtLocal = none) :
    failJob plan now db provider jobId reason cls priv =
      .ok (db.updateJob j.rowid (.fail now reason cls priv)) := by
  simp [failJob, hj, hr, hc]

theorem setJobConfirmationError_cases (db : Database) (i : Rowid) (error : String) :
    (∃ e, e ≠ .ok ∧ setJobConfirmationError db i error = (e, db)) ∨
    (∃ r, db.serviceJobs.get? i = some r ∧ r.signatureConfirmedAtLocal = none ∧
      setJobConfirmationError db i error =
        (.ok, db.updateJob i (.setConfirmationError error))) := by
  simp only [setJobConfirmationError]
  split
  case h_1 => exact .inl ⟨.invalidJobId, nofun, rfl⟩
  case h_2 r hr =>
    split
    case isTrue     => exact .inl ⟨.alreadyConfirmed, nofun, rfl⟩
    case isFalse hc => exact .inr ⟨r, hr, by simpa using hc, rfl⟩

theorem providerCompleteJob_ok
    (h : providerCompleteJob ext plan now db provider jobId delta priv pub = .ok (db', record)) :
    ∃ j, db.jobById plan provider jobId = some j ∧ j.job.reason = none ∧
      j.job.completedAtSync = none ∧ validOptBalanceDelta ext delta j.job.currency = true ∧
      record = JobJoin.record
        ⟨j.rowid, (JobUpdate.providerComplete now delta priv pub).set j.job, j.snapshot⟩ ∧
      db' = db.updateJob j.rowid (.providerComplete now delta priv pub) := by
  simp only [providerCompleteJob] at h
  split at h
  case h_1 => contradiction
  case h_2 j hj =>
    split at h <;> try contradiction
    case h_3 hr hc =>
      split at h
      case isTrue => contradiction
      case isFalse hv =>
        split at h
        case h_1 => contradiction
        case h_2 hf =>
          obtain ⟨rfl, rfl⟩ := Prod.mk.inj <| Except.ok.inj h
          obtain ⟨⟨i, r, s⟩, hi, hr', hs', rfl⟩ := Database.findByRowid_eq_some hf
          simp only [Database.updateJob_get?, if_true, Database.jobById_row hj, Option.map_some,
            Option.some.injEq] at hi hr' hs'
          subst hi hr'
          have hs : db.offerSnapshots.get? j.job.offerSnapshotRowid = some s := hs'
          obtain rfl := Option.some.inj <| hs.symm.trans <| Database.jobById_snapshot hj
          exact ⟨j, hj, hr, hc, by simpa using hv, rfl, rfl⟩

theorem providerConfirmJob_ok
    (h : providerConfirmJob ext plan now db consumer provider jobId jobHash key sig = .ok db') :
    ∃ j publicKey, db.jobById plan provider jobId = some j ∧ j.job.consumerPeerId = consumer ∧
      j.job.signatureConfirmedAtLocal = none ∧ j.job.reason = none ∧
      j.providerHash ext = some jobHash ∧ ext.tryDecodeProtobuf key = some publicKey ∧
      ext.verify publicKey jobHash sig = true ∧
      db' = db.updateJob j.rowid (.providerConfirm now sig) := by
  simp only [providerConfirmJob, Database.findByJobId] at h
  split at h
  case h_1 => contradiction
  case h_2 job hj =>
    obtain ⟨j, hj', rfl⟩ := Option.map_eq_some_iff.mp hj
    split at h <;> try contradiction
    case _ hn =>
    split at h <;> try contradiction
    case _ hs =>
    split at h <;> try contradiction
    split at h <;> try contradiction
    case _ hr =>
    split at h <;> try contradiction
    case _ pub t hp ht =>
    split at h <;> try contradiction
    case _ hh =>
    split at h <;> try contradiction
    case _ publicKey hk =>
    split at h <;> try contradiction
    case _ hv =>
      have he := Database.jobById_providerJobId hj'
      simp only [JobJoin.record, not_not, Option.not_isSome_iff_eq_none, Bool.not_eq_true',
        Bool.not_eq_false] at hn hs hr hp ht hh hv
      refine ⟨j, publicKey, hj', hn, hs, hr, ?_, hk, hv, Except.ok.inj h |>.symm⟩
      simp [JobJoin.providerHash, hp, ht, hh, JobJoin.hashingPayload, he]

theorem providerConfirmJob_of_jobById (hj : db.jobById plan provider jobId = some j)
    (hc : j.job.consumerPeerId = consumer) (hs : j.job.signatureConfirmedAtLocal = none)
    (hr : j.job.reason = none) (hh : j.providerHash ext = some jobHash)
    (hk : ext.tryDecodeProtobuf key = some publicKey) (hv : ext.verify publicKey jobHash sig = true) :
    providerConfirmJob ext plan now db consumer provider jobId jobHash key sig =
      .ok (db.updateJob j.rowid (.providerConfirm now sig)) := by
  have he := Database.jobById_providerJobId hj
  simp only [JobJoin.providerHash] at hh
  split at hh <;> try contradiction
  case _ pub t hp ht =>
    subst hc
    simp only [JobJoin.hashingPayload, he, Option.some.injEq] at hh
    simp [providerConfirmJob, Database.findByJobId, hj, JobJoin.record, hs, hr, hp, ht, hh, hk, hv]

theorem consumerCompleteJob_ok
    (h : consumerCompleteJob ext plan now db consumer provider jobId delta pub priv t sign =
      .ok (db', record)) :
    ∃ j, db.jobById plan provider jobId = some j ∧ j.job.consumerPeerId = consumer ∧
      j.job.reason = none ∧ j.job.completedAtLocal = none ∧
      validOptBalanceDelta ext delta j.job.currency = true ∧
      ∃ hash u, hash = hashJob ext (j.hashingPayload pub t (delta.map Hex.encodeString)) ∧
        u = .consumerComplete now (delta.map Hex.encodeString) pub priv t hash (sign hash) ∧
        record = JobJoin.record ⟨j.rowid, u.set j.job, j.snapshot⟩ ∧
        db' = db.updateJob j.rowid u := by
  simp only [consumerCompleteJob, Database.findByJobId] at h
  split at h
  case h_1 => contradiction
  case h_2 job hj =>
    obtain ⟨j, hj', rfl⟩ := Option.map_eq_some_iff.mp hj
    split at h <;> try contradiction
    case _ hn =>
    split at h <;> try contradiction
    case _ hr =>
    split at h <;> try contradiction
    case _ hc =>
    split at h <;> try contradiction
    case _ hv =>
      simp only [JobJoin.record, not_not, Option.not_isSome_iff_eq_none, Bool.not_eq_true',
        Bool.not_eq_false] at hn hc hv
      obtain ⟨rfl, rfl⟩ := Prod.mk.inj <| Except.ok.inj h
      exact ⟨j, hj', hn, hr, hc, hv, _, _, rfl, rfl, rfl, rfl⟩

theorem consumerConfirmJob_ok (h : consumerConfirmJob now db i = .ok (db', record)) :
    ∃ r, db.serviceJobs.get? i = some r ∧ r.signatureConfirmedAtLocal = none ∧
      r.consumerSignature.isSome ∧ record.jobRowid = i ∧
      db' = db.updateJob i (.consumerConfirm now) := by
  simp only [consumerConfirmJob] at h
  split at h
  case h_1 => contradiction
  case h_2 r hr =>
    split at h <;> try contradiction
    case _ hs =>
    split at h <;> try contradiction
    case _ hc =>
    split at h <;> try contradiction
    case _ hf =>
      obtain ⟨rfl, rfl⟩ := Prod.mk.inj <| Except.ok.inj h
      obtain ⟨j, hi, _, _, rfl⟩ := Database.findByRowid_eq_some hf
      have hc : r.consumerSignature.isSome := by simpa [Option.isSome_iff_ne_none] using hc
      exact ⟨r, hr, by simpa using hs, hc, hi, rfl⟩

theorem consumerConfirmJob_record (h : consumerConfirmJob now db i = .ok (db', record)) :
    db'.findByRowid i = some record := by
  simp only [consumerConfirmJob] at h
  split at h
  case h_1 => contradiction
  case h_2 =>
    split at h <;> try contradiction
    split at h <;> try contradiction
    split at h <;> try contradiction
    case _ hf =>
      obtain ⟨rfl, rfl⟩ := Prod.mk.inj <| Except.ok.inj h
      exact hf

theorem consumerConfirmJob_alreadyConfirmed
    (h : consumerConfirmJob now db i = .error (.error .alreadyConfirmed)) :
    ∃ r, db.serviceJobs.get? i = some r ∧ r.signatureConfirmedAtLocal.isSome := by
  simp only [consumerConfirmJob] at h
  split at h
  case h_1 => simp at h
  case h_2 r hr =>
    split at h
    case isTrue hs => exact ⟨r, hr, hs⟩
    case isFalse   =>
      split at h
      case isTrue => simp at h
      case isFalse => split at h <;> simp at h

end Derouter
