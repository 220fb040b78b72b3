import Derouter.ConsumerView

open Sql

namespace Derouter

variable {db db' : Database} {self consumer provider : PeerId} {t : JobContent} {u : JobUpdate}
variable {plan plan' : Plan JobJoin} {decide : JobContent → Option JobUpdate} {i : Rowid}

def JobContent.update (u : JobUpdate) (t : JobContent) : JobContent :=
  { t with job := u.set t.job }

def JobJoin.update (u : JobUpdate) (j : JobJoin) : JobJoin :=
  { j with job := u.set j.job }

namespace JobUpdate.Portable

theorem content (hu : u.Portable) (j : JobJoin) : (j.update u).content = j.content.update u := by
  simp only [JobJoin.content, JobJoin.update, JobContent.update, hu.number]

theorem of_iff (hu : u.Portable) : (t.update u).Of consumer provider ↔ t.Of consumer provider := by
  constructor
  case mp  => exact fun h => ⟨hu.consumerPeerId t.job ▸ h.consumerPeerId, h.providerPeerId⟩
  case mpr => exact fun h => ⟨(hu.consumerPeerId t.job).trans h.consumerPeerId, h.providerPeerId⟩

theorem keeps (hu : u.Portable) (j : JobJoin) :
    (if j.rowid = i then j.update u else j).snapshot = j.snapshot ∧
      (if j.rowid = i then j.update u else j).job.providerJobId = j.job.providerJobId := by
  split
  case isTrue  => exact ⟨rfl, hu.providerJobId j.job⟩
  case isFalse => exact ⟨rfl, rfl⟩

theorem fail : (JobUpdate.fail now reason reasonClass priv).Portable :=
  ⟨fun _ => rfl, fun _ => rfl, fun _ => rfl⟩

theorem setConfirmationError : (JobUpdate.setConfirmationError error).Portable :=
  ⟨fun _ => rfl, fun _ => rfl, fun _ => rfl⟩

theorem providerComplete : (JobUpdate.providerComplete now delta priv pub).Portable :=
  ⟨fun _ => rfl, fun _ => rfl, fun _ => rfl⟩

theorem providerConfirm : (JobUpdate.providerConfirm now signature).Portable :=
  ⟨fun _ => rfl, fun _ => rfl, fun _ => rfl⟩

theorem consumerComplete :
    (JobUpdate.consumerComplete now delta pub priv completedAt digest signature).Portable :=
  ⟨fun _ => rfl, fun _ => rfl, fun _ => rfl⟩

theorem consumerConfirm : (JobUpdate.consumerConfirm now).Portable :=
  ⟨fun _ => rfl, fun _ => rfl, fun _ => rfl⟩

end JobUpdate.Portable

namespace Database

theorem mem_joined_updateJob_iff {j' : JobJoin} : j' ∈ (db.updateJob i u).joined ↔
    ∃ j ∈ db.joined, j' = if j.rowid = i then j.update u else j := by
  constructor
  case mp =>
    intro h
    obtain ⟨r, hj, hc⟩ := mem_joined_updateJob h
    refine ⟨_, hj, ?_⟩
    obtain ⟨k, r', s⟩ := j'
    rcases hc with ⟨hi, he⟩ | ⟨hi, he⟩
    case inl => simp_all [JobJoin.update]
    case inr => simp_all
  case mpr =>
    rintro ⟨j, hj, rfl⟩
    split
    case isTrue hi  => exact hi ▸ joined_updateJob hj
    case isFalse hi =>
      obtain ⟨hr, hs⟩ := mem_joined_iff.mp hj
      exact mem_joined_iff.mpr ⟨(Table.get?_update_ne hi).trans hr, hs⟩

theorem shows_updateJob_of_ne (hu : u.Portable)
    (hi : ∀ j ∈ db.joined, j.rowid = i → ¬j.content.Of consumer self) (ht : t.Of consumer self) :
    (db.updateJob i u).Shows t ↔ db.Shows t := by
  constructor
  case mp =>
    rintro ⟨j', hj', rfl⟩
    obtain ⟨j, hj, rfl⟩ := mem_joined_updateJob_iff.mp hj'
    split at ht
    case isTrue he =>
      rw [hu.content, hu.of_iff] at ht
      exact absurd ht (hi j hj he)
    case isFalse he =>
      rw [if_neg he]
      exact ⟨j, hj, rfl⟩
  case mpr =>
    rintro ⟨j, hj, rfl⟩
    have he : j.rowid ≠ i := fun he => hi j hj he ht
    exact ⟨j, mem_joined_updateJob_iff.mpr ⟨j, hj, (if_neg he).symm⟩, rfl⟩

theorem shows_updateJob {j : JobJoin} (hu : u.Portable) (hd : db.DistinctJobIds self)
    (hj : j ∈ db.joined) (hp : j.snapshot.providerPeerId = self) (ht : t.Of consumer self) :
    (db.updateJob j.rowid u).Shows t ↔
      t = j.content.update u ∨ (db.Shows t ∧ t.job.providerJobId ≠ j.job.providerJobId) := by
  constructor
  case mp =>
    rintro ⟨j', hj', rfl⟩
    obtain ⟨j₀, hj₀, rfl⟩ := mem_joined_updateJob_iff.mp hj'
    split
    case isTrue he =>
      obtain rfl := joined_inj hj₀ hj he
      exact .inl (hu.content j₀)
    case isFalse he =>
      rw [if_neg he] at ht
      refine .inr ⟨⟨j₀, hj₀, rfl⟩, fun hi => he ?_⟩
      rw [hd j₀ hj₀ j hj ht.providerPeerId hp hi]
  case mpr =>
    rintro (rfl | ⟨⟨j₀, hj₀, rfl⟩, hn⟩)
    case inl =>
      refine ⟨j.update u, mem_joined_updateJob_iff.mpr ⟨j, hj, (if_pos rfl).symm⟩, ?_⟩
      exact hu.content j
    case inr =>
      have he : j₀.rowid ≠ j.rowid := fun he => hn (joined_inj hj₀ hj he ▸ rfl)
      exact ⟨j₀, mem_joined_updateJob_iff.mpr ⟨j₀, hj₀, (if_neg he).symm⟩, rfl⟩

theorem hasJob_updateJob_iff (hu : u.Portable) :
    (db.updateJob i u).HasJob provider jobId ↔ db.HasJob provider jobId := by
  constructor
  case mp =>
    rintro ⟨j', hj', hp, hi⟩
    obtain ⟨j, hj, rfl⟩ := mem_joined_updateJob_iff.mp hj'
    rw [(hu.keeps j).1] at hp
    rw [(hu.keeps j).2] at hi
    exact ⟨j, hj, hp, hi⟩
  case mpr =>
    rintro ⟨j, hj, hp, hi⟩
    exact ⟨_, mem_joined_updateJob_iff.mpr ⟨j, hj, rfl⟩, (hu.keeps j).1 ▸ hp, (hu.keeps j).2 ▸ hi⟩

theorem DistinctJobIds.updateJob (hd : db.DistinctJobIds self) (hu : u.Portable) :
    (db.updateJob i u).DistinctJobIds self := by
  intro j₁' h₁' j₂' h₂' hp₁ hp₂ hi
  obtain ⟨j₁, h₁, rfl⟩ := mem_joined_updateJob_iff.mp h₁'
  obtain ⟨j₂, h₂, rfl⟩ := mem_joined_updateJob_iff.mp h₂'
  rw [(hu.keeps j₁).1] at hp₁
  rw [(hu.keeps j₂).1] at hp₂
  rw [(hu.keeps j₁).2, (hu.keeps j₂).2] at hi
  rw [hd j₁ h₁ j₂ h₂ hp₁ hp₂ hi]

-- What is done to the jobs of a Provider is elsewhere for a Consumer if its own jobs stay.
structure Elsewhere (ourPeerId consumer : PeerId) (db db' : Database) : Prop where
  own      : ∀ i s, s.providerPeerId = ourPeerId →
    (db'.offerSnapshots.get? i = some s ↔ db.offerSnapshots.get? i = some s)
  jobs     : ∀ t, t.Of consumer ourPeerId → (db'.Shows t ↔ db.Shows t)
  ids      : ∀ jobId, db.HasJob ourPeerId jobId → db'.HasJob ourPeerId jobId
  distinct : db.DistinctJobIds ourPeerId → db'.DistinctJobIds ourPeerId

namespace Elsewhere

theorem refl : db.Elsewhere self consumer db where
  own      := fun _ _ _ => .rfl
  jobs     := fun _ _ => .rfl
  ids      := fun _ => id
  distinct := id

theorem updateJob (hu : u.Portable)
    (hi : ∀ j ∈ db.joined, j.rowid = i → ¬j.content.Of consumer self) :
    db.Elsewhere self consumer (db.updateJob i u) where
  own      := fun _ _ _ => .rfl
  jobs     := fun _ ht => shows_updateJob_of_ne hu hi ht
  ids      := fun _ => (hasJob_updateJob_iff hu).mpr
  distinct := fun hd => hd.updateJob hu

theorem amend (hu : ∀ t u, decide t = some u → u.Portable)
    (hd : ∀ j u, db.jobById plan provider jobId = some j → decide j.content = some u →
      ¬j.content.Of consumer self) :
    db.Elsewhere self consumer (db.amend plan provider jobId decide) := by
  simp only [Database.amend]
  split
  case h_1 => exact .refl
  case h_2 j hf =>
    split
    case h_1     => exact .refl
    case h_2 u h =>
      refine .updateJob (hu _ u h) fun j' hj' he => ?_
      obtain rfl := joined_inj hj' (mem_jobsById_iff.mp (jobById_mem hf)).1 he
      exact hd _ u hf h

end Elsewhere

theorem hasJob_amend_iff (hu : ∀ t u, decide t = some u → u.Portable) :
    (db.amend plan provider jobId decide).HasJob self jobId' ↔ db.HasJob self jobId' := by
  simp only [amend]
  split
  case h_1 => rfl
  case h_2 =>
    split
    case h_1     => rfl
    case h_2 u h => exact hasJob_updateJob_iff (hu _ u h)

theorem jobById_cases (hd : db.DistinctJobIds self) (hd' : db'.DistinctJobIds self)
    (hs : ∀ t, t.Of consumer self → (db.Shows t ↔ db'.Shows t)) (plan plan' : Plan JobJoin)
    (jobId : String) :
    (∃ j j', db.jobById plan self jobId = some j ∧ db'.jobById plan' self jobId = some j' ∧
      j.content.Of consumer self ∧ j'.content = j.content) ∨
    ((∀ j, db.jobById plan self jobId = some j → ¬j.content.Of consumer self) ∧
      ∀ j, db'.jobById plan' self jobId = some j → ¬j.content.Of consumer self) := by
  have hf {d d' : Database} {p p' : Plan JobJoin} {j : JobJoin} (hd' : d'.DistinctJobIds self)
      (hs : ∀ t, t.Of consumer self → d.Shows t → d'.Shows t) (hj : d.jobById p self jobId = some j)
      (ho : j.content.Of consumer self) :
      ∃ j', d'.jobById p' self jobId = some j' ∧ j'.content = j.content := by
    obtain ⟨hm, hp, hi⟩ := mem_jobsById_iff.mp (jobById_mem hj)
    obtain ⟨j', hm', he⟩ := hs j.content ho ⟨j, hm, rfl⟩
    have hk : j'.snapshot = j.snapshot := congrArg (·.snapshot) he
    have hi' : j'.job.providerJobId = j.job.providerJobId := congrArg (·.job.providerJobId) he
    refine ⟨j', hd'.jobById_eq_some_iff.mpr (mem_jobsById_iff.mpr ⟨hm', ?_, hi'.trans hi⟩), he⟩
    rw [hk, hp]
  by_cases h : ∃ j, db.jobById plan self jobId = some j ∧ j.content.Of consumer self
  case pos =>
    obtain ⟨j, hj, ho⟩ := h
    obtain ⟨j', hj', he⟩ := hf hd' (fun t ht => (hs t ht).mp) hj ho
    exact .inl ⟨j, j', hj, hj', ho, he⟩
  case neg =>
    refine .inr ⟨fun j hj ho => h ⟨j, hj, ho⟩, fun j' hj' ho => h ?_⟩
    obtain ⟨j, hj, he⟩ := hf hd (fun t ht => (hs t ht).mpr) hj' ho
    exact ⟨j, hj, he ▸ ho⟩

theorem mem_joined_create (hj : db'.serviceJobs = db.serviceJobs.insert r)
    (ho : db'.offerSnapshots = db.offerSnapshots)
    (hs : db.offerSnapshots.get? r.offerSnapshotRowid = some s) {j : JobJoin} :
    j ∈ db'.joined ↔ j ∈ db.joined ∨ j = ⟨db.serviceJobs.nextRowid, r, s⟩ := by
  rw [mem_joined_iff, mem_joined_iff, hj, ho]
  obtain ⟨k, r', s'⟩ := j
  constructor
  case mp =>
    rintro ⟨hr, hs'⟩
    cases Table.get?_insert_cases hr
    case inr hr => exact .inl ⟨hr, hs'⟩
    case inl hr =>
      obtain ⟨rfl, rfl⟩ := hr
      obtain rfl := Option.some.inj (hs'.symm.trans hs)
      exact .inr rfl
  case mpr =>
    rintro (⟨hr, hs'⟩ | he)
    case inl => exact ⟨Table.get?_insert_of_some hr, hs'⟩
    case inr =>
      obtain ⟨rfl, rfl, rfl⟩ := JobJoin.mk.inj he
      exact ⟨by rw [Table.get?_insert, if_pos rfl], hs⟩

-- A database after the creation of a job.
structure Adds (db : Database) (j : JobJoin) (db' : Database) : Prop where
  offerSnapshots : db'.offerSnapshots = db.offerSnapshots
  joined         : ∀ j', j' ∈ db'.joined ↔ j' ∈ db.joined ∨ j' = j

namespace Adds

variable {j : JobJoin}

theorem create (hc : createJob now db i consumer currency args jobId createdAt = some (k, db'))
    (hs : db.offerSnapshots.get? i = some s) : db.Adds {
      rowid    := db.serviceJobs.nextRowid
      snapshot := s
      job      := {
        offerSnapshotRowid := i
        consumerPeerId     := consumer
        currency           := currency
        jobArgs            := args
        providerJobId      := jobId
        createdAtSync      := createdAt
        createdAtLocal     := now.currentTimestamp
      }
    } db' := by
  obtain ⟨_, ho, _, hj⟩ := createJob_ok hc
  exact ⟨ho, fun _ => mem_joined_create hj ho hs⟩

theorem shows_iff (ha : db.Adds j db') : db'.Shows t ↔ db.Shows t ∨ t = j.content := by
  simp only [Shows, ha.joined]
  constructor
  case mp =>
    rintro ⟨j', hj' | rfl, rfl⟩
    · exact .inl ⟨j', hj', rfl⟩
    · exact .inr rfl
  case mpr =>
    rintro (⟨j', hj', rfl⟩ | rfl)
    · exact ⟨j', .inl hj', rfl⟩
    · exact ⟨j, .inr rfl, rfl⟩

theorem hasJob_iff (ha : db.Adds j db') : db'.HasJob provider jobId ↔
    db.HasJob provider jobId ∨ (j.snapshot.providerPeerId = provider ∧ j.job.providerJobId = jobId) := by
  simp only [HasJob, ha.joined]
  constructor
  case mp =>
    rintro ⟨j', hj' | rfl, h⟩
    · exact .inl ⟨j', hj', h⟩
    · exact .inr h
  case mpr =>
    rintro (⟨j', hj', h⟩ | h)
    · exact ⟨j', .inl hj', h⟩
    · exact ⟨j, .inr rfl, h⟩

theorem distinct (ha : db.Adds j db') (hd : db.DistinctJobIds self)
    (hn : j.snapshot.providerPeerId = self → ¬db.HasJob self j.job.providerJobId) :
    db'.DistinctJobIds self := by
  intro j₁ h₁ j₂ h₂ hp₁ hp₂ hi
  rcases (ha.joined j₁).mp h₁ with h₁ | rfl <;> rcases (ha.joined j₂).mp h₂ with h₂ | rfl
  · exact hd j₁ h₁ j₂ h₂ hp₁ hp₂ hi
  · exact absurd ⟨j₁, h₁, hp₁, hi⟩ (hn hp₂)
  · exact absurd ⟨j₂, h₂, hp₂, hi.symm⟩ (hn hp₁)
  · rfl

theorem elsewhere (ha : db.Adds j db') (ho : ¬j.content.Of consumer self)
    (hn : j.snapshot.providerPeerId = self → ¬db.HasJob self j.job.providerJobId) :
    db.Elsewhere self consumer db' where
  own      := fun _ _ _ => by rw [ha.offerSnapshots]
  jobs     := fun t ht => by
    rw [ha.shows_iff, or_iff_left]
    exact fun he => ho (he ▸ ht)
  ids      := fun _ h => ha.hasJob_iff.mpr (.inl h)
  distinct := fun hd => ha.distinct hd hn

end Adds
end Database
end Derouter
