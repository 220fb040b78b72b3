import Derouter.Db.Theorems.Confirmed
import Derouter.P2p.Theorems.Completion
import Derouter.Parties.Rows
import Derouter.ProviderNode.Offers

open Sql Transition

namespace Derouter

variable {ext : External} {self provider consumer : PeerId} {db db' : Database}

namespace Database

-- The Consumer holds the row of a job that it asks the Provider to confirm.
def Signs (provider : PeerId) (db : Database) (job : UnconfirmedJob) : Prop :=
  ∃ j ∈ db.joined, j.rowid = job.rowid ∧ j.snapshot.providerPeerId = provider ∧
    j.job.providerJobId = job.providerJobId ∧ j.job.Signed job.hash job.consumerSignature

-- The Provider has confirmed its row of a job.
def Accepts (ext : External) (consumer provider : PeerId) (db : Database) (jobId : String)
    (digest signature : List UInt8) : Prop :=
  ∃ j ∈ db.jobsById provider jobId, j.Accepted ext consumer digest signature

end Database

namespace Parties

variable {keypair : ext.Keypair} {s s' : Parties} {l : Label} {k : Nat} {a : Attempt}
variable {j : JobJoin}

-- `consumer_confirm_job` is only called when a response arrives, which is a step of its own for the
-- jobs of the Provider.
def Label.Honest (provider : PeerId) (s : Parties) : Label → Prop
  | .consumerOp op => op.ConfirmsAsConsumer → ∀ j ∈ s.consumer.joined,
    op.addressed s.consumer = some j.rowid → j.snapshot.providerPeerId ≠ provider
  | _ => True

-- The protocol by which the two nodes confirm their jobs.
def protocol (ext : External) (keypair : ext.Keypair) (provider : PeerId) (s : Parties) (l : Label)
    (s' : Parties) : Prop :=
  step ext keypair provider s l s' ∧ l.Honest provider s

theorem consumer_exec (h : step ext keypair provider s l s') :
    s'.consumer = s.consumer ∨ ∃ op : JobOp, op.Local (ext.peerId keypair) ∧
      s'.consumer = (op.exec ext s.consumer).1 ∧
      (op.ConfirmsAsConsumer → l = .consumerOp op ∨ ∃ k job, (k, .ok) ∈ s.responses ∧
        s.attempts[k]? = some (.waiting job) ∧ op.addressed s.consumer = some job.rowid) := by
  cases effect h
  case consumerOp op hl      => exact .inr ⟨op, hl, rfl, fun _ => .inl rfl⟩
  case finishCreation k now i request response row j db hk hc =>
    obtain ⟨jobId, createdAt, _, hc⟩ := consumerCreateJob_eq_some hc
    refine .inr ⟨.create now i (ext.peerId keypair) request.currency request.jobArgs jobId createdAt,
      trivial, ?_, False.elim⟩
    simp only [JobOp.exec, hc]
  case finishConfirmation k now job response db hk hc =>
    simp only [step, ofFn, next, hk] at h
    split at h <;> try contradiction
    case _ hm =>
    rcases confirmJob_exec ext hc with he | ⟨hr, he⟩ | ⟨_, he⟩
    · exact .inl he
    · obtain rfl := Option.some.inj hr
      exact .inr ⟨.consumerConfirm _ job.rowid, trivial, he, fun _ => .inr ⟨k, job, hm, hk, rfl⟩⟩
    · exact .inr ⟨.setConfirmationError job.rowid _, trivial, he, False.elim⟩
  all_goals exact .inl rfl

theorem attempts_cases (h : step ext keypair provider s l s') :
    (∃ plan jobs, queryUnconfirmedJobs plan s.consumer (ext.peerId keypair) = some jobs ∧
      s'.consumer = s.consumer ∧ s'.attempts = s.attempts ++
        (jobs.filter fun job => decide (job.providerPeerId = provider)).map .waiting) ∨
    (∃ k a a', s.attempts[k]? = some a ∧ s'.attempts = s.attempts.set k a' ∧ a'.job = a.job) ∨
    s'.attempts = s.attempts := by
  cases l
  case confirmationLoop plan =>
    simp only [step, ofFn, next] at h
    split at h <;> try contradiction
    case _ jobs hq =>
      obtain rfl := Option.some.inj h
      exact .inl ⟨plan, jobs, hq, rfl, rfl⟩
  case finishConfirmation =>
    simp only [step, ofFn, next] at h
    split at h <;> try contradiction
    case _ hk =>
    split at h <;> try contradiction
    split at h
    all_goals
      obtain rfl := Option.some.inj h
      exact .inr <| .inl ⟨_, _, _, hk, rfl, rfl⟩
  case outboundFailure =>
    simp only [step, ofFn, next] at h
    split at h <;> try contradiction
    case _ hk =>
      obtain rfl := Option.some.inj h
      exact .inr <| .inl ⟨_, _, _, hk, rfl, rfl⟩
  all_goals
    cases effect h
    all_goals exact .inr <| .inr rfl

theorem attempt_cases (h : step ext keypair provider s l s') (ha : a ∈ s'.attempts) :
    (∃ a' ∈ s.attempts, a'.job = a.job) ∨ (s'.consumer = s.consumer ∧
      a.job.providerPeerId = provider ∧ ∃ j ∈ s.consumer.joined, j.unconfirmed = some a.job) := by
  rcases attempts_cases h with h | h | h
  case inl =>
    obtain ⟨_, _, hq, hc, h⟩ := h
    cases List.mem_append.mp (h ▸ ha)
    case inl ha => exact .inl ⟨a, ha, rfl⟩
    case inr ha =>
      obtain ⟨job, hj, rfl⟩ := List.mem_map.mp ha
      have ⟨hj, hp⟩ := List.mem_filter.mp hj
      have ⟨j, hm, _, _, hu⟩ := queryUnconfirmedJobs_mem hq hj
      exact .inr ⟨hc, of_decide_eq_true hp, j, hm, hu⟩
  case inr.inl =>
    obtain ⟨_, a₀, _, hk, h, he⟩ := h
    cases List.mem_or_eq_of_mem_set (h ▸ ha)
    case inl ha => exact .inl ⟨a, ha, rfl⟩
    case inr ha => exact .inl ⟨a₀, List.mem_of_getElem? hk, ha ▸ he.symm⟩
  case inr.inr => exact .inl ⟨a, h ▸ ha, rfl⟩

theorem attempt_keeps (h : step ext keypair provider s l s') (ha : s.attempts[k]? = some a) :
    ∃ a' : Attempt, s'.attempts[k]? = some a' ∧ a'.job = a.job := by
  rcases attempts_cases h with h | h | h
  case inl =>
    obtain ⟨_, _, _, _, h⟩ := h
    refine ⟨a, ?_, rfl⟩
    rw [h, List.getElem?_append_left (List.getElem?_eq_some_iff.mp ha).1, ha]
  case inr.inl =>
    obtain ⟨i, a₀, a', hi, h, he⟩ := h
    by_cases hk : i = k
    case neg => exact ⟨a, by rw [h, List.getElem?_set_ne hk, ha], rfl⟩
    case pos =>
      subst hk
      obtain rfl := Option.some.inj <| hi.symm.trans ha
      exact ⟨a', by rw [h, List.getElem?_set_self (List.getElem?_eq_some_iff.mp ha).1], he⟩
  case inr.inr => exact ⟨a, h ▸ ha, rfl⟩

theorem provider_snapshot {snapshot : OfferSnapshotRow} (h : step ext keypair provider s l s')
    (hs : s.provider.db.offerSnapshots.get? i = some snapshot) :
    ∃ snapshot', s'.provider.db.offerSnapshots.get? i = some snapshot' ∧
      snapshot.SameKey snapshot' := by
  cases effect h
  case providerOp => exact ⟨snapshot, by rwa [JobOp.exec_offerSnapshots], .refl _⟩
  case providerOffers action _ => exact Node.perform_keeps ext provider action hs
  case answerCreation hc =>
    exact ⟨snapshot, handleCreateJobRequest_offerSnapshots hc ▸ hs, .refl _⟩
  case handleConfirmation hc =>
    have hd := congrArg (·.2.offerSnapshots) hc
    rw [handleConfirmJobRequest_offerSnapshots] at hd
    exact ⟨snapshot, hd ▸ hs, .refl _⟩
  all_goals exact ⟨snapshot, hs, .refl _⟩

theorem provider_joined (h : step ext keypair provider s l s') (hj : j ∈ s.provider.db.joined) :
    ∃ j' ∈ s'.provider.db.joined, j'.rowid = j.rowid ∧ j.job.Evolves provider j'.job ∧
      j.snapshot.SameKey j'.snapshot := by
  have ⟨hr, hs⟩ := Database.mem_joined_iff.mp hj
  have ⟨r', hr', he⟩ := (moves h).2.row hr
  have ⟨s', hs', hk⟩ : ∃ s₁, s'.provider.db.offerSnapshots.get? j.job.offerSnapshotRowid = some s₁ ∧
      j.snapshot.SameKey s₁ := provider_snapshot h hs
  refine ⟨⟨j.rowid, r', s'⟩, Database.mem_joined_iff.mpr ⟨hr', ?_⟩, rfl, he, hk⟩
  rwa [← he.sameJob.offerSnapshotRowid]

-- Every job that the Consumer has confirmed is confirmed by the Provider, with the signature of the
-- Consumer and for the terms that the Consumer has hashed.
def Agreement (ext : External) (consumer provider : PeerId) (s : Parties) : Prop :=
  ∀ j ∈ s.consumer.joined, j.snapshot.providerPeerId = provider →
    j.job.signatureConfirmedAtLocal.isSome → ∃ digest signature, j.job.Signed digest signature ∧
      s.provider.db.Accepts ext consumer provider j.job.providerJobId digest signature

-- What the attempts and the responses tell of the rows of both nodes.
structure Witnessed (ext : External) (consumer provider : PeerId) (s : Parties) : Prop where
  hashed    : ∀ j ∈ s.consumer.joined, j.job.hash.isSome → j.job.completedAtLocal.isSome
  attempts  : ∀ a ∈ s.attempts, s.consumer.Signs provider a.job
  responses : ∀ k, (k, .ok) ∈ s.responses → ∃ a, s.attempts[k]? = some a ∧
    s.provider.db.Accepts ext consumer provider a.job.providerJobId a.job.hash
      a.job.consumerSignature
  agreement : s.Agreement ext consumer provider

theorem accepts_step (h : step ext keypair provider s l s') (hn : ext.peerId keypair ≠ provider)
    (ha : s.provider.db.Accepts ext (ext.peerId keypair) provider jobId digest signature) :
    s'.provider.db.Accepts ext (ext.peerId keypair) provider jobId digest signature := by
  obtain ⟨j, hj, ha⟩ := ha
  have ⟨hm, hp, hi⟩ := Database.mem_jobsById_iff.mp hj
  have ⟨j', hm', _, he, hk⟩ := provider_joined h hm
  refine ⟨j', Database.mem_jobsById_iff.mpr ⟨hm', ?_, ?_⟩, ha.evolves hn he hk⟩
  · exact hk.sameOffer.1.symm.trans hp
  · exact he.sameJob.providerJobId.symm.trans hi

theorem signs_step (h : step ext keypair provider s l s') (hn : ext.peerId keypair ≠ provider)
    {job : UnconfirmedJob} (hs : s.consumer.Signs provider job) :
    s'.consumer.Signs provider job := by
  cases consumer_exec h
  case inl h => exact h ▸ hs
  case inr h =>
    obtain ⟨op, hl, hc, _⟩ := h
    obtain ⟨j, hj, hi, hp, hd, hs⟩ := hs
    have ⟨j', hj', ht⟩ := op.exec_joined ext hj
    refine ⟨j', hc ▸ hj', ht.rowid.trans hi, ht.snapshot ▸ hp, ?_, ?_⟩
    · exact ht.sameJob.providerJobId.symm.trans hd
    · cases ht.job
      case inl he => exact he ▸ hs
      case inr he =>
        have hn : j.snapshot.providerPeerId ≠ ext.peerId keypair := hp ▸ hn.symm
        exact he.2.signed (JobOp.Turns.not_confirmsAsProvider hj hn hl he.1) hs

theorem hashed_step (h : step ext keypair provider s l s')
    (hh : ∀ j ∈ s.consumer.joined, j.job.hash.isSome → j.job.completedAtLocal.isSome) :
    ∀ j ∈ s'.consumer.joined, j.job.hash.isSome → j.job.completedAtLocal.isSome := by
  intro j' hj'
  cases consumer_exec h
  case inl h => exact hh j' (h ▸ hj')
  case inr h =>
    obtain ⟨op, _, hc, _⟩ := h
    cases JobOp.exec_joined_cases (hc ▸ hj')
    case inl hn => simp [hn.2.hash]
    case inr hj =>
      obtain ⟨j, hj, ht⟩ := hj
      cases ht.job
      case inl he => exact he ▸ hh j hj
      case inr he => exact he.2.hashed (hh j hj)

theorem attempts_step (h : step ext keypair provider s l s') (hn : ext.peerId keypair ≠ provider)
    (hw : s.Witnessed ext (ext.peerId keypair) provider) (ha : a ∈ s'.attempts) :
    s'.consumer.Signs provider a.job := by
  cases attempt_cases h ha
  case inl ha =>
    obtain ⟨a', ha, he⟩ := ha
    exact he ▸ signs_step h hn (hw.attempts a' ha)
  case inr ha =>
    obtain ⟨hc, hp, j, hj, hu⟩ := ha
    have ⟨hi, hp', hd, hh, hs⟩ := JobJoin.unconfirmed_eq_some hu
    have hl := hw.hashed j hj (by simp [hh])
    exact hc ▸ ⟨j, hj, hi.symm, hp'.symm.trans hp, hd.symm, hh, hs, hl⟩

theorem response_cases (h : step ext keypair provider s l s') (hr : (k, .ok) ∈ s'.responses) :
    (k, .ok) ∈ s.responses ∨ ∃ a, s'.attempts[k]? = some a ∧
      s'.provider.db.Accepts ext (ext.peerId keypair) provider a.job.providerJobId a.job.hash
        a.job.consumerSignature := by
  cases l
  case handleConfirmation i plan now =>
    simp only [step, ofFn, next] at h
    split at h <;> try contradiction
    case _ a ha =>
    split at h
    case h_2 =>
      obtain rfl := Option.some.inj h
      exact .inl hr
    case h_1 response db hc =>
      obtain rfl := Option.some.inj h
      cases List.mem_cons.mp hr
      case inr hr => exact .inl hr
      case inl hr =>
        obtain ⟨rfl, rfl⟩ := Prod.mk.inj hr
        exact .inr ⟨a, ha, providerConfirmJob_accepted (handleConfirmJobRequest_ok hc)⟩
  all_goals
    cases effect h
    all_goals exact .inl hr

theorem responses_step (h : step ext keypair provider s l s') (hn : ext.peerId keypair ≠ provider)
    (hw : s.Witnessed ext (ext.peerId keypair) provider) (hr : (k, .ok) ∈ s'.responses) :
    ∃ a, s'.attempts[k]? = some a ∧ s'.provider.db.Accepts ext (ext.peerId keypair) provider
      a.job.providerJobId a.job.hash a.job.consumerSignature := by
  cases response_cases h hr
  case inr hr => exact hr
  case inl hr =>
    obtain ⟨a, ha, hp⟩ := hw.responses k hr
    have ⟨a', ha', he⟩ := attempt_keeps h ha
    exact ⟨a', ha', he ▸ accepts_step h hn hp⟩

theorem agreement_step (h : protocol ext keypair provider s l s')
    (hn : ext.peerId keypair ≠ provider) (hw : s.Witnessed ext (ext.peerId keypair) provider) :
    s'.Agreement ext (ext.peerId keypair) provider := by
  obtain ⟨h, hl⟩ := h
  intro j' hj' hp hc
  -- The row before the step, where it is confirmed.
  have hk : ∀ j ∈ s.consumer.joined, j.snapshot = j'.snapshot → j.job.SameJob j'.job →
      (∀ digest signature, j.job.Signed digest signature → j'.job.Signed digest signature) →
      j.job.signatureConfirmedAtLocal.isSome → ∃ digest signature, j'.job.Signed digest signature ∧
        s'.provider.db.Accepts ext (ext.peerId keypair) provider j'.job.providerJobId digest
          signature := by
    intro j hj hs hb hk hc
    have ⟨digest, signature, hs, ha⟩ := hw.agreement j hj (hs ▸ hp) hc
    exact ⟨digest, signature, hk _ _ hs, hb.providerJobId ▸ accepts_step h hn ha⟩
  cases consumer_exec h
  case inl he => exact hk j' (he ▸ hj') rfl (.refl _) (fun _ _ => id) hc
  case inr he =>
    obtain ⟨op, hlo, he, ho⟩ := he
    cases JobOp.exec_joined_cases (he ▸ hj')
    case inl hj => simp [hj.2.signatureConfirmedAtLocal] at hc
    case inr hj =>
    obtain ⟨j, hj, ht⟩ := hj
    cases ht.job
    case inl hb =>
      exact hk j hj ht.snapshot.symm ht.sameJob (fun _ _ hs => hb ▸ hs) (hb ▸ hc)
    case inr hb =>
      obtain ⟨ha, hb⟩ := hb
      have hne : j.snapshot.providerPeerId ≠ ext.peerId keypair := ht.snapshot ▸ hp ▸ hn.symm
      have hno := JobOp.Turns.not_confirmsAsProvider hj hne hlo ha
      rcases hb.confirmed_cases hc with hc' | hc' | hc'
      case inl => exact hk j hj ht.snapshot.symm ht.sameJob (fun _ _ => hb.signed hno) hc'
      case inr.inl => exact absurd hc' hno
      case inr.inr =>
        cases ho hc'
        case inl ho =>
          -- The Consumer does not confirm the job of its own accord.
          subst ho
          exact absurd (ht.snapshot ▸ hp) (hl hc' j hj ha)
        case inr ho =>
          obtain ⟨k, job, hr, hk, hi⟩ := ho
          -- The row is the one that the attempt asks to confirm.
          obtain ⟨a, hk', hacc⟩ := hw.responses k hr
          obtain rfl := Option.some.inj <| hk.symm.trans hk'
          obtain ⟨j₀, hj₀, hi₀, _, hd, hs⟩ := hw.attempts _ (List.mem_of_getElem? hk)
          have hij : j₀.rowid = j.rowid := hi₀.trans <| Option.some.inj <| hi.symm.trans ha
          have hjob : j₀.job = j.job := by
            have hr₀ := (Database.mem_joined_iff.mp hj₀).1
            have hr₁ := (Database.mem_joined_iff.mp hj).1
            exact Option.some.inj <| hr₀.symm.trans <| hij ▸ hr₁
          have hd : (Attempt.waiting job).job.providerJobId = j'.job.providerJobId := by
            rw [← hd, hjob, ht.sameJob.providerJobId]
          exact ⟨_, _, hb.signed hno (hjob ▸ hs), hd ▸ accepts_step h hn hacc⟩

theorem Witnessed.step (hw : s.Witnessed ext (ext.peerId keypair) provider)
    (hn : ext.peerId keypair ≠ provider) (h : protocol ext keypair provider s l s') :
    s'.Witnessed ext (ext.peerId keypair) provider where
  hashed    := hashed_step h.1 hw.hashed
  attempts  := fun _ => attempts_step h.1 hn hw
  responses := fun _ => responses_step h.1 hn hw
  agreement := agreement_step h hn hw

-- The Provider has one row under each of its job IDs.
def UniqueJobIds (provider : PeerId) (s : Parties) : Prop :=
  ∀ jobId, ∀ j ∈ s.provider.db.jobsById provider jobId,
    ∀ j' ∈ s.provider.db.jobsById provider jobId, j = j'

-- The UUID that the Provider generates for a job is a new one.
def Label.FreshJobId (provider : PeerId) (s : Parties) : Label → Prop
  | .providerOp (.create _ i _ _ _ jobId _) => ∀ snapshot,
    s.provider.db.offerSnapshots.get? i = some snapshot → snapshot.providerPeerId = provider →
      s.provider.db.jobsById provider jobId = []
  | .answerCreation _ _ _ uuid _ => s.provider.db.jobsById provider uuid = []
  | _ => True

theorem provider_joined_cases (h : step ext keypair provider s l s')
    (hj : j ∈ s'.provider.db.joined) :
    s.provider.db.serviceJobs.get? j.rowid = none ∨ ∃ j₀ ∈ s.provider.db.joined,
      j₀.rowid = j.rowid ∧ j₀.job.SameJob j.job ∧ j₀.snapshot.SameKey j.snapshot := by
  cases hr : s.provider.db.serviceJobs.get? j.rowid
  case none => exact .inl rfl
  case some r =>
    have ⟨s₀, hs⟩ := s.provider.db.jobSnapshot hr
    have hm : ⟨j.rowid, r, s₀⟩ ∈ s.provider.db.joined := Database.mem_joined_iff.mpr ⟨hr, hs⟩
    have ⟨j', hj', hi, he, hk⟩ := provider_joined h hm
    obtain rfl := Database.joined_inj hj' hj hi
    exact .inr ⟨_, hm, rfl, he.sameJob, hk⟩

theorem provider_created (h : step ext keypair provider s l s') (hf : l.FreshJobId provider s)
    (hj : j ∈ s'.provider.db.joined) (hn : s.provider.db.serviceJobs.get? j.rowid = none)
    (hp : j.snapshot.providerPeerId = provider) :
    j.rowid = s.provider.db.serviceJobs.nextRowid ∧
      s.provider.db.jobsById provider j.job.providerJobId = [] := by
  obtain ⟨hr, hs⟩ := Database.mem_joined_iff.mp hj
  have hno (he : (s'.provider.db.serviceJobs.get? j.rowid).isSome =
      (s.provider.db.serviceJobs.get? j.rowid).isSome) : False := by simp [hn, hr] at he
  cases effect h
  case providerOp op _ =>
    cases op
    case create now k consumer currency args jobId t _ =>
      cases hc : createJob now s.provider.db k consumer currency args jobId t
      case none => simp [JobOp.exec, hc, hn] at hr
      case some p =>
        simp only [JobOp.exec, hc] at hj
        obtain ⟨hi, hd, hs⟩ := createJob_joined hc hj hn
        exact ⟨hi, hd ▸ hf _ hs hp⟩
    all_goals exact absurd (JobOp.exec_isSome_get? id _) hno
  case providerOffers action ha =>
    refine absurd ?_ hno
    rw [Node.perform_serviceJobs ha]
  case answerCreation hc =>
    cases handleCreateJobRequest_cases hc
    case inl hc => exact absurd (by rw [hc.1]) hno
    case inr hc =>
      obtain ⟨_, _, _, _, _, hc⟩ := hc
      obtain ⟨hi, hd, _⟩ := createJob_joined hc hj hn
      exact ⟨hi, hd ▸ hf⟩
  case handleConfirmation request _ _ _ _ hc =>
    have hd := congrArg (·.2.serviceJobs.get? j.rowid) hc
    cases handleConfirmJobRequest_db request
    case inl he =>
      rw [he] at hd
      exact absurd (hd ▸ JobOp.exec_isSome_get? id _) hno
    case inr he =>
      obtain ⟨_, _, he⟩ := he
      rw [he] at hd
      exact absurd (hd ▸ JobOp.exec_isSome_get? id _) hno
  all_goals exact absurd rfl hno

theorem UniqueJobIds.step (hu : s.UniqueJobIds provider) (h : step ext keypair provider s l s')
    (hf : l.FreshJobId provider s) : s'.UniqueJobIds provider := by
  -- The rows that the ID has before the step.
  have old {j j₀ : JobJoin} {jobId : String} (hj : j ∈ s'.provider.db.jobsById provider jobId)
      (hj₀ : j₀ ∈ s.provider.db.joined) (hb : j₀.job.SameJob j.job)
      (hk : j₀.snapshot.SameKey j.snapshot) : j₀ ∈ s.provider.db.jobsById provider jobId := by
    have ⟨_, hp, hd⟩ := Database.mem_jobsById_iff.mp hj
    refine Database.mem_jobsById_iff.mpr ⟨hj₀, hk.sameOffer.1.trans hp, ?_⟩
    exact hb.providerJobId.trans hd
  -- The rows that the ID has if one of them is new.
  have new {j : JobJoin} {jobId : String} (hj : j ∈ s'.provider.db.jobsById provider jobId)
      (hn : s.provider.db.serviceJobs.get? j.rowid = none) :
      j.rowid = s.provider.db.serviceJobs.nextRowid ∧ s.provider.db.jobsById provider jobId = [] := by
    have ⟨hm, hp, hd⟩ := Database.mem_jobsById_iff.mp hj
    exact hd ▸ provider_created h hf hm hn hp
  intro jobId j hj j' hj'
  have hm := (Database.mem_jobsById_iff.mp hj).1
  have hm' := (Database.mem_jobsById_iff.mp hj').1
  refine Database.joined_inj hm hm' ?_
  rcases provider_joined_cases h hm, provider_joined_cases h hm' with
    ⟨hn | ⟨j₀, hj₀, hi, hb, hk⟩, hn' | ⟨j₁, hj₁, hi', hb', hk'⟩⟩
  case inl.inl => exact (new hj hn).1.trans (new hj' hn').1.symm
  case inl.inr => simpa [(new hj hn).2] using old hj' hj₁ hb' hk'
  case inr.inl => simpa [(new hj' hn').2] using old hj hj₀ hb hk
  case inr.inr =>
    have he := hu jobId _ (old hj hj₀ hb hk) _ (old hj' hj₁ hb' hk')
    exact hi.symm.trans <| he ▸ hi'

theorem witnessed_of_run {consumer : Database} {node : Node} {tr : List (Parties × Label)}
    (hn : ext.peerId keypair ≠ provider) (hc : consumer.serviceJobs = ∅)
    (r : Run (protocol ext keypair provider) { consumer, provider := node } tr s) :
    s.Witnessed ext (ext.peerId keypair) provider := by
  have hj := Database.joined_of_no_jobs hc
  refine r.invariant ?_ fun _ _ _ hw h => hw.step hn h
  constructor
  case hashed    => simp [hj]
  case attempts  => simp
  case responses => simp
  case agreement => simp [Agreement, hj]

-- In every run of the protocol, the jobs that the Consumer has confirmed are confirmed at the Provider,
-- with the same signature and with the same hash. There is no other row of such a job, as the
-- Provider generates new job IDs.
theorem agreement_of_run {consumer : Database} {node : Node} {tr : List (Parties × Label)}
    {jC : JobJoin} (hn : ext.peerId keypair ≠ provider) (hc : consumer.serviceJobs = ∅)
    (hp : node.db.serviceJobs = ∅)
    (r : Run (protocol ext keypair provider) { consumer, provider := node } tr s)
    (hj : jC ∈ s.consumer.joined) (hpr : jC.snapshot.providerPeerId = provider)
    (hs : jC.job.signatureConfirmedAtLocal.isSome) :
    ∃ jP ∈ s.provider.db.jobsById provider jC.job.providerJobId,
      jP.job.consumerPeerId = ext.peerId keypair ∧
      jP.job.signatureConfirmedAtLocal.isSome ∧
      jC.job.consumerSignature.isSome ∧ jP.job.consumerSignature = jC.job.consumerSignature ∧
      jC.job.hash.isSome ∧ jP.providerHash ext = jC.job.hash ∧
      (Meets (fun s l => l.FreshJobId provider s) tr →
        ∀ j ∈ s.provider.db.jobsById provider jC.job.providerJobId, j = jP) := by
  have hw := witnessed_of_run hn hc r
  obtain ⟨digest, signature, hd, jP, hm, ha⟩ := hw.agreement jC hj hpr hs
  refine ⟨jP, hm, ha.consumerPeerId, ha.confirmed, ?_, ?_, ?_, ?_, ?_⟩
  · rw [hd.consumerSignature, Option.isSome_some]
  · rw [hd.consumerSignature, ha.consumerSignature]
  · rw [hd.hash, Option.isSome_some]
  · rw [hd.hash, ha.hash]
  · intro hf j hj
    refine r.invariant_of_meets (I := UniqueJobIds provider) hf ?_ ?_ _ j hj jP hm
    · intro jobId j hj
      simp [Database.jobsById, Database.joined_of_no_jobs hp] at hj
    · exact fun _ _ _ hu hl h => hu.step h.1 hl

-- The job of the sample is confirmed on both sides.
theorem agreement_of_run_sample : ∃ tr s, ∃ jC ∈ s.consumer.joined,
    ∃ jP ∈ s.provider.db.jobsById ⟨[0]⟩ jC.job.providerJobId,
      Run (protocol .sample ⟨[1]⟩ ⟨[0]⟩) sample tr s ∧
      jC.job.signatureConfirmedAtLocal.isSome ∧ jP.job.signatureConfirmedAtLocal.isSome ∧
      jP.job.consumerSignature = jC.job.consumerSignature ∧
      jP.providerHash .sample = jC.job.hash := by
  have ⟨tr, s, r, ht, hs⟩ := Run.of_schedule (next .sample ⟨[1]⟩ ⟨[0]⟩) sample
    (sampleCompletion none ++ [.finishConfirmation 0 0 .ok])
    (fun s => s.consumer.joined.any fun j => decide (j.snapshot.providerPeerId = ⟨[0]⟩) &&
      j.job.signatureConfirmedAtLocal.isSome) (by decide +kernel)
  obtain ⟨jC, hj, hc⟩ := List.any_eq_true.mp hs
  have ⟨hp, hc⟩ := Bool.and_eq_true_iff.mp hc
  have hl : Meets (fun s l => Label.Honest ⟨[0]⟩ s l) tr := by
    refine Meets.of_labels ht fun l hl s => ?_
    simp only [sampleCompletion, List.cons_append, List.nil_append, List.mem_cons,
      List.not_mem_nil, or_false] at hl
    rcases hl with rfl | rfl | rfl | rfl | rfl | rfl | rfl | rfl | rfl
    case inr.inr.inr.inr.inr.inl => exact fun h => h.elim
    all_goals trivial
  have r := r.restrict hl
  have hn : External.sample.peerId (PeerId.mk [1]) ≠ ⟨[0]⟩ := by decide
  have ⟨jP, hm, _, hcP, _, hsig, _, hh, _⟩ := agreement_of_run hn
    (Table.ext (by decide +kernel)) (Table.ext (by decide +kernel)) r hj (of_decide_eq_true hp) hc
  exact ⟨tr, s, jC, hj, jP, hm, r, hc, hcP, hsig, hh⟩

end Parties
end Derouter
