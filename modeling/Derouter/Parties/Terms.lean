import Derouter.Parties.Rows

open Sql Transition

namespace Derouter

-- The fields that both nodes keep about a job under synchronized names.
structure JobRow.Synchronized (r₁ r₂ : JobRow) : Prop where
  providerJobId   : r₁.providerJobId = r₂.providerJobId
  currency        : r₁.currency = r₂.currency
  createdAtSync   : r₁.createdAtSync = r₂.createdAtSync
  completedAtSync : r₁.completedAtSync = r₂.completedAtSync
  publicPayload   : r₁.publicPayload = r₂.publicPayload
  balanceDelta    : r₁.balanceDelta = r₂.balanceDelta

namespace Database

variable {self consumer provider : PeerId} {db db' : Database} {i j : Rowid} {t : Terms}

-- The row of a job that the Consumer has created at the Provider.
def Created (consumer : PeerId) (currency : Currency) (jobId : String) (createdAt : Int)
    (db : Database) (i : Rowid) : Prop :=
  ∃ r, db.serviceJobs.get? i = some r ∧ r.consumerPeerId = consumer ∧ r.currency = currency ∧
    r.providerJobId = jobId ∧ r.createdAtSync = createdAt

-- The Consumer stores the balance delta in its hex encoding.
def ConsumerHolds (db : Database) (i : Rowid) (t : Terms) : Prop :=
  ∃ r, db.serviceJobs.get? i = some r ∧ r.completedAtLocal.isSome ∧
    r.completedAtSync = some t.completedAtSync ∧ r.publicPayload = some t.publicPayload ∧
    r.balanceDelta = t.balanceDelta.map Hex.encodeString

-- The Provider stores the balance delta as it is.
def ProviderHolds (provider : PeerId) (db : Database) (i : Rowid) (t : Terms) : Prop :=
  ∃ r, db.serviceJobs.get? i = some r ∧ (r.consumerPeerId ≠ provider →
    r.completedAtSync = some t.completedAtSync ∧ r.publicPayload = some t.publicPayload ∧
    r.balanceDelta = t.balanceDelta)

theorem created_createJob
    (h : createJob now db snapshot consumer currency args jobId createdAt = some (i, db')) :
    db'.Created consumer currency jobId createdAt i := by
  obtain ⟨rfl, _, _, hj⟩ := createJob_ok h
  exact ⟨_, by rw [hj, Table.get?_insert, if_pos rfl], rfl, rfl, rfl, rfl⟩

theorem Created.moves (hc : db.Created consumer currency jobId createdAt i)
    (h : db.Moves self db') : db'.Created consumer currency jobId createdAt i := by
  have ⟨_, hr, h₁, h₂, h₃, h₄⟩ := hc
  have ⟨r', hr', he⟩ := h.row hr
  have hs := he.sameJob
  exact ⟨r', hr', hs.consumerPeerId ▸ h₁, hs.currency ▸ h₂, hs.providerJobId ▸ h₃,
    hs.createdAtSync ▸ h₄⟩

theorem ConsumerHolds.moves (hc : db.ConsumerHolds i t) (h : db.Moves self db') :
    db'.ConsumerHolds i t := by
  have ⟨_, hr, hl, ht, hp, hd⟩ := hc
  have ⟨r', hr', he⟩ := h.row hr
  have ⟨hs, hc⟩ := he.consumerTerms ⟨hl, by simp [ht]⟩
  exact ⟨r', hr', hc.completedAtLocal, hs.completedAtSync ▸ ht, hs.publicPayload ▸ hp,
    hs.balanceDelta ▸ hd⟩

theorem ProviderHolds.moves (hc : db.ProviderHolds provider i t) (h : db.Moves provider db') :
    db'.ProviderHolds provider i t := by
  have ⟨r, hr, hh⟩ := hc
  have ⟨r', hr', he⟩ := h.row hr
  refine ⟨r', hr', fun hn => ?_⟩
  have hn : r.consumerPeerId ≠ provider := he.sameJob.consumerPeerId ▸ hn
  have ⟨ht, hp, hd⟩ := hh hn
  have ⟨hs, _⟩ := he.providerTerms hn (by simp [ht])
  exact ⟨hs.completedAtSync ▸ ht, hs.publicPayload ▸ hp, hs.balanceDelta ▸ hd⟩
end Database

namespace JobOp

variable {ext : External} {db : Database} {op : JobOp} {t : Terms} {i : Rowid}

theorem consumerHolds_exec (ht : op.consumerTerms = some t) (hi : (op.exec ext db).2 = some i) :
    (op.exec ext db).1.ConsumerHolds i t := by
  cases op <;> simp only [consumerTerms, reduceCtorEq, Option.some.injEq] at ht
  subst ht
  simp only [exec] at hi ⊢
  split at hi <;> try contradiction
  case _ hc =>
    obtain ⟨j, hj, _, _, _, _, _, _, _, rfl, rfl, rfl⟩ := consumerCompleteJob_ok hc
    obtain rfl := Option.some.inj hi
    exact ⟨_, Database.updateJob_get?_self (Database.jobById_row hj), rfl, rfl, rfl, rfl⟩

theorem providerHolds_exec (ht : op.providerTerms = some t) (hi : (op.exec ext db).2 = some i) :
    (op.exec ext db).1.ProviderHolds self i t := by
  cases op <;> simp only [providerTerms, reduceCtorEq, Option.some.injEq] at ht
  subst ht
  simp only [exec] at hi ⊢
  split at hi <;> try contradiction
  case _ hc =>
    obtain ⟨j, hj, _, _, _, rfl, rfl⟩ := providerCompleteJob_ok hc
    obtain rfl := Option.some.inj hi
    exact ⟨_, Database.updateJob_get?_self (Database.jobById_row hj), fun _ => ⟨rfl, rfl, rfl⟩⟩

end JobOp

namespace Parties

variable {ext : External} {keypair : ext.Keypair} {provider : PeerId} {s s' : Parties} {l : Label}

-- A row of either node for one job: the Provider's one was created for another peer.
def LinkedRows (consumer provider : PeerId) (s : Parties) (i j : Rowid) : Prop :=
  ∃ currency jobId createdAt, consumer ≠ provider ∧
    s.consumer.Created consumer currency jobId createdAt i ∧
    s.provider.db.Created consumer currency jobId createdAt j

-- What the rows hold of the messages and calls of the past.
structure Recorded (consumer provider : PeerId) (s : Parties) : Prop where
  answered      : ∀ {i request jobId createdAt j},
    .answered i request (.ok jobId createdAt) j ∈ s.creations → consumer ≠ provider ∧
      s.provider.db.Created consumer request.currency jobId createdAt j
  created       : ∀ {i j}, .created i j ∈ s.creations → s.LinkedRows consumer provider i j
  consumerTerms : ∀ {i t}, (i, t) ∈ s.consumerTerms → s.consumer.ConsumerHolds i t
  providerTerms : ∀ {i t}, (i, t) ∈ s.providerTerms → s.provider.db.ProviderHolds provider i t

theorem mem_record {log : List (Rowid × Terms)} (h : (i, t) ∈ record terms row log) :
    (i, t) ∈ log ∨ (terms = some t ∧ row = some i) := by
  unfold record at h
  split at h
  case h_1 =>
    cases List.mem_cons.mp h
    case inl h =>
      obtain ⟨rfl, rfl⟩ := Prod.mk.inj h
      exact .inr ⟨rfl, rfl⟩
    case inr h => exact .inl h
  case h_2 => exact .inl h

theorem answered_cases (h : step ext keypair provider s l s')
    (hm : .answered i request (.ok jobId createdAt) j ∈ s'.creations) :
    .answered i request (.ok jobId createdAt) j ∈ s.creations ∨
    (ext.peerId keypair ≠ provider ∧
      s'.provider.db.Created (ext.peerId keypair) request.currency jobId createdAt j) := by
  cases effect h
  case answerCreation hn hc =>
    cases List.mem_or_eq_of_mem_set hm
    case inl hm => exact .inl hm
    case inr he =>
      obtain ⟨rfl, rfl, rfl, rfl⟩ := Creation.answered.inj he
      cases handleCreateJobRequest_cases hc
      case inl hc => exact absurd rfl (hc.2 _ _)
      case inr hc =>
        have ⟨_, _, _, _, hr, hj⟩ := hc
        obtain ⟨rfl, rfl⟩ := CreateJobResponse.ok.inj hr
        have hi := (createJob_ok hj).1
        exact .inr ⟨hn, hi ▸ Database.created_createJob hj⟩
  case requestCreation =>
    cases List.mem_append.mp hm
    case inl hm => exact .inl hm
    case inr hm => simp at hm
  case refuseCreation => exact .inl <| (List.mem_or_eq_of_mem_set hm).resolve_right nofun
  case finishCreation => exact .inl <| (List.mem_or_eq_of_mem_set hm).resolve_right nofun
  case abortCreation  => exact .inl <| (List.mem_or_eq_of_mem_set hm).resolve_right nofun
  all_goals exact .inl hm

theorem created_cases (h : step ext keypair provider s l s') (hm : .created i j ∈ s'.creations) :
    .created i j ∈ s.creations ∨
    ∃ k request jobId createdAt, .answered k request (.ok jobId createdAt) j ∈ s.creations ∧
      s'.consumer.Created (ext.peerId keypair) request.currency jobId createdAt i := by
  cases effect h
  case finishCreation hk hc =>
    cases List.mem_or_eq_of_mem_set hm
    case inl hm => exact .inl hm
    case inr he =>
      obtain ⟨rfl, rfl⟩ := Creation.created.inj he
      obtain ⟨jobId, createdAt, rfl, hc⟩ := consumerCreateJob_eq_some hc
      exact .inr ⟨_, _, jobId, createdAt, List.mem_of_getElem? hk, Database.created_createJob hc⟩
  case requestCreation =>
    cases List.mem_append.mp hm
    case inl hm => exact .inl hm
    case inr hm => simp at hm
  case answerCreation => exact .inl <| (List.mem_or_eq_of_mem_set hm).resolve_right nofun
  case refuseCreation => exact .inl <| (List.mem_or_eq_of_mem_set hm).resolve_right nofun
  case abortCreation  => exact .inl <| (List.mem_or_eq_of_mem_set hm).resolve_right nofun
  all_goals exact .inl hm

theorem consumerTerms_cases (h : step ext keypair provider s l s')
    (hm : (i, t) ∈ s'.consumerTerms) :
    (i, t) ∈ s.consumerTerms ∨ s'.consumer.ConsumerHolds i t := by
  cases effect h
  case consumerOp op _ =>
    cases mem_record hm
    case inl hm => exact .inl hm
    case inr hm => exact .inr <| op.consumerHolds_exec hm.1 hm.2
  all_goals exact .inl hm

theorem providerTerms_cases (h : step ext keypair provider s l s')
    (hm : (i, t) ∈ s'.providerTerms) :
    (i, t) ∈ s.providerTerms ∨ s'.provider.db.ProviderHolds provider i t := by
  cases effect h
  case providerOp op _ =>
    cases mem_record hm
    case inl hm => exact .inl hm
    case inr hm => exact .inr <| op.providerHolds_exec hm.1 hm.2
  all_goals exact .inl hm

theorem Recorded.step (hr : s.Recorded (ext.peerId keypair) provider)
    (h : step ext keypair provider s l s') : s'.Recorded (ext.peerId keypair) provider := by
  have ⟨hc, hp⟩ := moves h
  constructor
  case answered =>
    intro i request jobId createdAt j hm
    cases answered_cases h hm
    case inl hm =>
      have ⟨hn, hj⟩ := hr.answered hm
      exact ⟨hn, hj.moves hp⟩
    case inr hm => exact hm
  case created =>
    intro i j hm
    cases created_cases h hm
    case inl hm =>
      have ⟨currency, jobId, createdAt, hn, hi, hj⟩ := hr.created hm
      exact ⟨currency, jobId, createdAt, hn, hi.moves hc, hj.moves hp⟩
    case inr hm =>
      have ⟨_, request, jobId, createdAt, ha, hi⟩ := hm
      have ⟨hn, hj⟩ := hr.answered ha
      exact ⟨request.currency, jobId, createdAt, hn, hi, hj.moves hp⟩
  case consumerTerms =>
    intro i t hm
    cases consumerTerms_cases h hm
    case inl hm => exact (hr.consumerTerms hm).moves hc
    case inr hm => exact hm
  case providerTerms =>
    intro i t hm
    cases providerTerms_cases h hm
    case inl hm => exact (hr.providerTerms hm).moves hp
    case inr hm => exact hm

theorem recorded_of_run {consumer : Database} {node : Node} {tr : List (Parties × Label)}
    (r : Run (Parties.step ext keypair provider) { consumer, provider := node } tr s) :
    s.Recorded (ext.peerId keypair) provider := by
  refine r.invariant ?_ fun _ _ _ hr h => hr.step h
  constructor <;> exact fun h => nomatch h

-- For every job that was created through the network and completed with the same terms on both
-- sides, the synchronized fields of the two rows agree exactly if the hex encoding of the balance
-- delta is the balance delta itself.
theorem synchronized_iff_no_balance_delta {consumer : Database} {node : Node}
    {tr : List (Parties × Label)} {i j : Rowid} {t : Terms} {rc rp : JobRow}
    (r : Run (Parties.step ext keypair provider) { consumer, provider := node } tr s)
    (hl : .created i j ∈ s.creations) (hi : (i, t) ∈ s.consumerTerms) (hj : (j, t) ∈ s.providerTerms)
    (hc : s.consumer.serviceJobs.get? i = some rc)
    (hp : s.provider.db.serviceJobs.get? j = some rp) :
    rc.Synchronized rp ↔ t.balanceDelta = none ∨ t.balanceDelta = some "" := by
  have hr := recorded_of_run r
  have ⟨_, _, _, hn, ⟨_, hc', _, hc₂, hc₃, hc₄⟩, _, hp', hp₁, hp₂, hp₃, hp₄⟩ := hr.created hl
  have ⟨_, hi', _, hi₁, hi₂, hi₃⟩ := hr.consumerTerms hi
  have ⟨_, hj', hh⟩ := hr.providerTerms hj
  obtain rfl := Option.some.inj <| hc.symm.trans hc'
  obtain rfl := Option.some.inj <| hp.symm.trans hp'
  obtain rfl := Option.some.inj <| hc.symm.trans hi'
  obtain rfl := Option.some.inj <| hp.symm.trans hj'
  have ⟨hj₁, hj₂, hj₃⟩ := hh (hp₁ ▸ hn)
  have hd : rc.balanceDelta = rp.balanceDelta ↔
      t.balanceDelta = none ∨ t.balanceDelta = some "" := by
    rw [hi₃, hj₃]
    cases t.balanceDelta
    case none       => simp
    case some delta => simp [Hex.encodeString_eq_self_iff]
  rw [← hd]
  constructor
  case mp  => exact fun h => h.balanceDelta
  case mpr => exact fun h =>
    ⟨hc₃.trans hp₃.symm, hc₂.trans hp₂.symm, hc₄.trans hp₄.symm, hi₁.trans hj₁.symm,
      hi₂.trans hj₂.symm, h⟩

-- The job of the first creation is completed with the balance delta and confirmed on both sides.
private def settles (balanceDelta : Option String) (s : Parties) : Bool :=
  s.creations.any (fun | .created 1 1 => true | _ => false) &&
  s.consumerTerms.contains (1, ⟨balanceDelta, "done", 0⟩) &&
  s.providerTerms.contains (1, ⟨balanceDelta, "done", 0⟩) &&
  (s.consumer.serviceJobs.get? 1).any (·.signatureConfirmedAtLocal.isSome) &&
  (s.provider.db.serviceJobs.get? 1).any (·.signatureConfirmedAtLocal.isSome)

private theorem settles_iff {delta : Option String} (h : settles delta s = true) :
    .created 1 1 ∈ s.creations ∧ (1, ⟨delta, "done", 0⟩) ∈ s.consumerTerms ∧
      (1, ⟨delta, "done", 0⟩) ∈ s.providerTerms ∧
      (∃ rc, s.consumer.serviceJobs.get? 1 = some rc ∧ rc.signatureConfirmedAtLocal.isSome) ∧
      ∃ rp, s.provider.db.serviceJobs.get? 1 = some rp ∧ rp.signatureConfirmedAtLocal.isSome := by
  simp only [settles, Bool.and_eq_true, List.contains_iff_mem, Option.any_eq_true] at h
  obtain ⟨⟨⟨⟨hl, hi⟩, hj⟩, hc⟩, hp⟩ := h
  have ⟨creation, hm, hl⟩ := List.any_eq_true.mp hl
  split at hl <;> try contradiction
  exact ⟨hm, hi, hj, hc, hp⟩

theorem synchronized_iff_no_balance_delta_sample :
    ∃ (tr : List (Parties × Label)) (s : Parties) (rc rp : JobRow),
      Run (Parties.step .sample ⟨[1]⟩ ⟨[0]⟩) sample tr s ∧ .created 1 1 ∈ s.creations ∧
      rc.signatureConfirmedAtLocal.isSome ∧ rp.signatureConfirmedAtLocal.isSome ∧
      rc.Synchronized rp := by
  have ⟨tr, s, r, _, hs⟩ := Run.of_schedule (next .sample ⟨[1]⟩ ⟨[0]⟩) sample
    (sampleCompletion none ++ [.finishConfirmation 0 0 .ok]) (settles none) (by decide +kernel)
  have ⟨hl, hi, hj, ⟨rc, hc, hc'⟩, rp, hp, hp'⟩ := settles_iff hs
  have hs := synchronized_iff_no_balance_delta r hl hi hj hc hp |>.mpr (.inl rfl)
  exact ⟨tr, s, rc, rp, r, hl, hc', hp', hs⟩

-- A job is settled for the balance delta "1", which the Consumer stores as "31".
theorem not_synchronized : ¬∀ (ext : External) (keypair : ext.Keypair) (provider : PeerId)
    (consumer : Database) (node : Node) (tr : List (Parties × Label)) (s : Parties) (i j : Rowid)
    (t : Terms) (rc rp : JobRow),
    Run (Parties.step ext keypair provider) { consumer, provider := node } tr s →
    .created i j ∈ s.creations → (i, t) ∈ s.consumerTerms → (j, t) ∈ s.providerTerms →
    s.consumer.serviceJobs.get? i = some rc → s.provider.db.serviceJobs.get? j = some rp →
    rc.signatureConfirmedAtLocal.isSome → rp.signatureConfirmedAtLocal.isSome →
    rc.Synchronized rp := by
  intro h
  have ⟨tr, s, r, _, hs⟩ := Run.of_schedule (next .sample ⟨[1]⟩ ⟨[0]⟩) sample
    (sampleCompletion (some "1") ++ [.finishConfirmation 0 0 .ok])
    (fun s => settles (some "1") s && (s.consumer.serviceJobs.get? 1).map (·.balanceDelta) !=
      (s.provider.db.serviceJobs.get? 1).map (·.balanceDelta)) (by decide +kernel)
  simp only [Bool.and_eq_true, bne_iff_ne, ne_eq] at hs
  have ⟨hl, hi, hj, ⟨rc, hc, hc'⟩, rp, hp, hp'⟩ := settles_iff hs.1
  have hd := (h _ _ _ _ _ _ _ _ _ _ _ _ r hl hi hj hc hp hc' hp').balanceDelta
  exact hs.2 (by rw [hc, hp, Option.map_some, Option.map_some, hd])

end Parties
end Derouter
