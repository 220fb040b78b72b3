import Derouter.Settlement.Steps

open Sql Transition

namespace Derouter

variable {ext : External} {keypair : ext.Keypair} {consumer provider self : PeerId}
variable {db db' : Database} {j : JobJoin}

theorem providerConfirmJob_of_hash {publicKey : ext.PublicKey}
    (hj : db.jobById plan self jobId = some j) (hc : j.job.consumerPeerId = consumer)
    (hh : j.providerHash ext = some jobHash) (hk : ext.tryDecodeProtobuf key = some publicKey)
    (hv : ext.verify publicKey jobHash sig = true) :
    providerConfirmJob ext plan now db consumer self jobId jobHash key sig =
      if j.job.signatureConfirmedAtLocal.isSome then .err .alreadyConfirmed
      else if j.job.reason.isSome then .err .alreadyFailed
      else .ok (db.updateJob j.rowid (.providerConfirm now sig)) := by
  obtain ⟨t, ht⟩ := Option.isSome_iff_exists.mp (JobJoin.providerHash_isSome hh).2
  cases hs : j.job.signatureConfirmedAtLocal
  case some => simp [providerConfirmJob, Database.findByJobId, hj, JobJoin.record, hc, hs]
  case none =>
    cases hr : j.job.reason
    case some => simp [providerConfirmJob, Database.findByJobId, hj, JobJoin.record, hc, hs, hr, ht]
    case none => exact providerConfirmJob_of_jobById hj hc hs hr hh hk hv

theorem handleConfirmJobRequest_settles {publicKey : ext.PublicKey} {job : UnconfirmedJob}
    (hd : ext.tryDecodeProtobuf (ext.encodeProtobuf publicKey) = some publicKey)
    (hv : ext.verify publicKey job.hash job.consumerSignature = true)
    (hu : ∀ j ∈ db.jobsById self job.providerJobId, ∀ j' ∈ db.jobsById self job.providerJobId, j = j')
    (hs : db.Serves consumer self job.providerJobId (·.providerHash ext = some job.hash))
    (plan : Plan JobJoin) (now : DateTime) :
    ∃ response db', handleConfirmJobRequest ext plan now self db consumer (job.request ext publicKey) =
        (some response, db') ∧ db'.Answers consumer self job.providerJobId response := by
  obtain ⟨j, hj, hc, hh⟩ := hs
  have hf : db.jobById plan self job.providerJobId = some j := by
    cases hf : db.jobById plan self job.providerJobId
    case none =>
      obtain ⟨hm, hp, hi⟩ := Database.mem_jobsById_iff.mp hj
      exact absurd ⟨j, hm, hp, hi⟩ (Database.jobById_eq_none_iff.mp hf)
    case some => exact congrArg some <| hu _ (Database.jobById_mem hf) j hj
  have ho : providerConfirmJob ext plan now db consumer self job.providerJobId job.hash
      (ext.encodeProtobuf publicKey) job.consumerSignature = _ :=
    providerConfirmJob_of_hash hf hc hh hd hv
  simp only [handleConfirmJobRequest, UnconfirmedJob.request]
  split at ho
  case isTrue hs =>
    rw [ho]
    exact ⟨_, _, rfl, .inl ⟨.inr rfl, j, hj, hc, hs⟩⟩
  case isFalse =>
    split at ho
    case isTrue hr =>
      rw [ho]
      exact ⟨_, _, rfl, .inr ⟨rfl, j, hj, hc, hr⟩⟩
    case isFalse =>
      rw [ho]
      obtain ⟨j', hj', ha⟩ := providerConfirmJob_accepted ho
      exact ⟨_, _, rfl, .inl ⟨.inl rfl, j', hj', ha.consumerPeerId, ha.confirmed⟩⟩

namespace Settlement

variable {s s' : Settlement} {l : Label}

-- What the Provider has told of a completed job.
def Told (consumer provider : PeerId) (s : Settlement) : Prop :=
  ∀ jobId pub delta createdAtSync t,
    (jobId, .ok (some pub) delta createdAtSync (some t)) ∈ s.told →
      s.parties.provider.db.Serves consumer provider jobId fun j =>
        j.job.publicPayload = some pub ∧ j.job.balanceDelta = delta ∧ j.job.completedAtSync = some t

-- What the nodes hold of each other's rows and messages.
structure Backed (ext : External) (keypair : ext.Keypair) (provider : PeerId) (s : Settlement) :
    Prop where
  unique     : s.parties.UniqueJobIds provider
  offers     : s.parties.provider.OffersActive provider
  requested  : ∀ i request, .requested i request ∈ s.parties.creations →
    s.parties.Asks provider i request
  answered   : ∀ i request jobId t row,
    .answered i request (.ok jobId t) row ∈ s.parties.creations → s.parties.Asks provider i request ∧
      s.parties.provider.db.Serves (ext.peerId keypair) provider jobId fun j =>
        j.job.currency = request.currency ∧ j.job.createdAtSync = t ∧
          j.snapshot.protocolId = request.protocolId ∧
          j.snapshot.protocolPayload = request.offerPayload
  created    : ∀ j ∈ s.parties.consumer.joined, j.snapshot.providerPeerId = provider →
    s.parties.provider.db.Serves (ext.peerId keypair) provider j.job.providerJobId
      (j.record.SameJob ·.record)
  told       : s.Told (ext.peerId keypair) provider
  consistent : ∀ j ∈ s.parties.consumer.joined, j.Consistent ext keypair
  signed     : ∀ j ∈ s.parties.consumer.joined, j.snapshot.providerPeerId = provider →
    j.job.consumerSignature.isSome → s.parties.provider.db.Serves (ext.peerId keypair) provider
      j.job.providerJobId (j.Agrees ·)
  attempts   : ∀ a ∈ s.parties.attempts,
    ext.verify (ext.publicKey keypair) a.job.hash a.job.consumerSignature = true ∧
      s.parties.provider.db.Serves (ext.peerId keypair) provider a.job.providerJobId
        (·.providerHash ext = some a.job.hash)
  settles    : s.Settles (ext.peerId keypair) provider

variable {p : Parties} {pl : Parties.Label} {j : JobJoin}

theorem consumer_write (h : Parties.step ext keypair provider s.parties pl p)
    (hs : ∀ op, pl = .consumerOp op → op.SignsWith ext keypair) :
    NodeDatabase.Write ext keypair s.parties.consumer p.consumer := by
  cases Parties.consumer_cases h
  case inl he => exact he ▸ .kept .refl
  case inr he =>
    obtain ⟨op, hl, he, ho⟩ := he
    refine he ▸ .executed op hl ?_
    cases ho
    case inl ho => exact hs op ho
    case inr ho => cases op <;> first | trivial | exact absurd trivial ho.1

namespace Backed

theorem answered_step (hb : s.Backed ext keypair provider)
    (h : Parties.step ext keypair provider s.parties pl p)
    (hm : .answered i request (.ok jobId t) row ∈ p.creations) :
    p.Asks provider i request ∧ p.provider.db.Serves (ext.peerId keypair) provider jobId fun j =>
      j.job.currency = request.currency ∧ j.job.createdAtSync = t ∧
        j.snapshot.protocolId = request.protocolId ∧
        j.snapshot.protocolPayload = request.offerPayload := by
  cases Parties.answers_cases h hm
  case inl hm =>
    obtain ⟨ha, hs⟩ := hb.answered _ _ _ _ _ hm
    refine ⟨ha.step h, Parties.serves_step h hs fun j j' hp _ he hk => ?_⟩
    have hj := he.sameJob
    exact ⟨hj.currency ▸ hp.1, hj.createdAtSync ▸ hp.2.1, hk.sameOffer.2.1 ▸ hp.2.2.1,
      hk.protocolPayload ▸ hp.2.2.2⟩
  case inr hm =>
    obtain ⟨hm, _, _, _, _, hc⟩ := hm
    exact ⟨(hb.requested i request hm).step h, handleCreateJobRequest_serves hb.offers hc⟩

theorem created_step (hb : s.Backed ext keypair provider)
    (h : Parties.step ext keypair provider s.parties pl p)
    (hf : ∀ op, pl = .consumerOp op → s.Follows provider op) (hj : j ∈ p.consumer.joined)
    (hp : j.snapshot.providerPeerId = provider) :
    p.provider.db.Serves (ext.peerId keypair) provider j.job.providerJobId
      (j.record.SameJob ·.record) := by
  cases Parties.consumer_cases h
  case inl he => exact Parties.serves_sameJob_step h <| hb.created j (he ▸ hj) hp
  case inr he =>
    obtain ⟨op, _, he, ho⟩ := he
    rw [he] at hj
    cases JobOp.exec_joined_cases hj
    case inr hj' =>
      obtain ⟨j₀, hj₀, ht⟩ := hj'
      have hs := hb.created j₀ hj₀ (ht.snapshot ▸ hp)
      rw [ht.sameJob.providerJobId] at hs
      have hr : j.record.SameJob j₀.record :=
        .symm <| .of_rows ht.sameJob (ht.snapshot ▸ .refl _)
      exact Parties.serves_sameJob_step h <| hs.imp fun _ _ => hr.trans
    case inl hn =>
      have hn : s.parties.consumer.serviceJobs.get? j.rowid = none := hn.1 ▸ Table.get?_nextRowid
      obtain ⟨now, i, c, currency, args, jobId, t, rfl, hs, hc, hcu, hi, ht⟩ :=
        JobOp.exec_joined_new hj hn
      cases ho
      case inl ho => exact absurd hp (hf _ ho _ hs)
      case inr ho =>
        obtain ⟨_, _, request, row, _, _, hm, hop⟩ := ho.2 trivial
        obtain ⟨rfl, rfl, rfl, rfl, rfl, rfl, rfl⟩ := JobOp.create.inj hop
        obtain ⟨⟨snapshot, hsn, hsp, hpr, hpl⟩, hv⟩ := hb.answered _ _ _ _ _ hm
        obtain rfl := Option.some.inj <| hs.symm.trans hsn
        refine Parties.serves_sameJob_step h ?_
        obtain ⟨jP, hjP, hcP, h₁, h₂, h₃, h₄⟩ := hv
        obtain ⟨_, hpP, hiP⟩ := Database.mem_jobsById_iff.mp hjP
        refine ⟨jP, hi ▸ hjP, hcP, ?_⟩
        constructor
        case consumerPeerId  => exact hc.trans hcP.symm
        case providerPeerId  => exact hsp.trans hpP.symm
        case offerProtocolId => exact hpr.trans h₃.symm
        case offerPayload    => exact hpl.trans h₄.symm
        case currency        => exact hcu.trans h₁.symm
        case providerJobId   => exact hi.trans hiP.symm
        case createdAtSync   => exact ht.trans h₂.symm

theorem told_step (hb : s.Backed ext keypair provider) (hn : ext.peerId keypair ≠ provider)
    (h : Parties.step ext keypair provider s.parties pl p) :
    Told (ext.peerId keypair) provider { s with parties := p } := by
  intro jobId pub delta createdAtSync t hm
  refine Parties.serves_terms_step h hn (hb.told jobId pub delta createdAtSync t hm) ?_ ?_
  · intro j hj
    simp [hj.2.2]
  · intro j j' hj ht _
    exact ⟨ht.publicPayload ▸ hj.1, ht.balanceDelta ▸ hj.2.1, ht.completedAtSync ▸ hj.2.2⟩

theorem settled (hb : s.Backed ext keypair provider) (hn : ext.peerId keypair ≠ provider)
    (hj : j ∈ s.parties.consumer.joined) (hp : j.snapshot.providerPeerId = provider)
    (hs : j.job.consumerSignature.isSome) : j.Settled ext keypair :=
  (hb.consistent j hj).settled (hp ▸ hn.symm) hs

theorem signed_step (hb : s.Backed ext keypair provider) (hn : ext.peerId keypair ≠ provider)
    (h : Parties.step ext keypair provider s.parties pl p)
    (hf : ∀ op, pl = .consumerOp op → s.Follows provider op) (hj : j ∈ p.consumer.joined)
    (hp : j.snapshot.providerPeerId = provider) (hs : j.job.consumerSignature.isSome) :
    p.provider.db.Serves (ext.peerId keypair) provider j.job.providerJobId (j.Agrees ·) := by
  -- What the Provider has stored stays, and what is signed stays as well.
  have hk {j₀ : JobJoin} (hj₀ : j₀ ∈ s.parties.consumer.joined)
      (hp₀ : j₀.snapshot.providerPeerId = provider) (hs₀ : j₀.job.consumerSignature.isSome) :
      p.provider.db.Serves (ext.peerId keypair) provider j₀.job.providerJobId (j₀.Agrees ·) := by
    refine Parties.serves_terms_step h hn (hb.signed j₀ hj₀ hp₀ hs₀) ?_ ?_
    · exact fun _ ha => ha.completedAtSync ▸ (hb.settled hn hj₀ hp₀ hs₀).completedAtSync
    · exact fun _ _ ha ht _ => ⟨ha.publicPayload.trans ht.publicPayload,
        ha.completedAtSync.trans ht.completedAtSync, ha.balanceDelta.trans (ht.balanceDelta ▸ rfl)⟩
  cases Parties.consumer_cases h
  case inl he => exact hk (he ▸ hj) hp hs
  case inr he =>
    obtain ⟨op, hl, he, ho⟩ := he
    rw [he] at hj
    cases JobOp.exec_joined_cases hj
    case inl hj' => simp [hj'.2.consumerSignature] at hs
    case inr hj' =>
      obtain ⟨j₀, hj₀, ht⟩ := hj'
      have hp₀ : j₀.snapshot.providerPeerId = provider := ht.snapshot ▸ hp
      cases ht.signed_cases hj₀ (hp₀ ▸ hn.symm) hl hs
      case inl hs₀ =>
        have hc := hb.settled hn hj₀ hp₀ hs₀
        have he : j₀.job.Evolves (ext.peerId keypair) j.job :=
          ht.job.imp_right fun hc => ⟨op, hl, hc.2⟩
        have ht' := (he.consumerTerms ⟨hc.completedAtLocal, hc.completedAtSync⟩).1
        rw [← ht'.providerJobId]
        exact (hk hj₀ hp₀ hs₀).imp fun _ _ ha => ⟨ht'.publicPayload ▸ ha.publicPayload,
          ht'.completedAtSync ▸ ha.completedAtSync, ht'.balanceDelta ▸ ha.balanceDelta⟩
      case inr hc =>
        obtain ⟨_, _, _, pr, jobId, delta, pub, _, t, _, rfl, hm, h₁, h₂, h₃⟩ := hc
        obtain ⟨_, hpr, hi⟩ := Database.mem_jobsById_iff.mp hm
        have hl : pl = .consumerOp _ := ho.resolve_right fun ho => ho.1 trivial
        obtain ⟨c, hm⟩ := hf _ hl (hpr.symm.trans hp₀)
        rw [← ht.sameJob.providerJobId, hi]
        refine (hb.told_step hn h jobId pub delta c t hm).imp fun jP _ hP => ?_
        exact ⟨h₁.trans hP.1.symm, h₂.trans hP.2.2.symm, h₃.trans (hP.2.1 ▸ rfl)⟩

theorem attempts_step (hb : s.Backed ext keypair provider) (hl : ext.Lawful)
    (hn : ext.peerId keypair ≠ provider) (h : Parties.step ext keypair provider s.parties pl p)
    (ha : a ∈ p.attempts) :
    ext.verify (ext.publicKey keypair) a.job.hash a.job.consumerSignature = true ∧
      p.provider.db.Serves (ext.peerId keypair) provider a.job.providerJobId
        (·.providerHash ext = some a.job.hash) := by
  have hk {jobId : String} {digest : List UInt8}
      (hs : s.parties.provider.db.Serves (ext.peerId keypair) provider jobId
        (·.providerHash ext = some digest)) :
      p.provider.db.Serves (ext.peerId keypair) provider jobId (·.providerHash ext = some digest) :=
    Parties.serves_terms_step h hn hs (fun _ hh => (JobJoin.providerHash_isSome hh).2)
      fun _ _ hh ht hk => JobJoin.providerHash_congr ht hk ▸ hh
  cases Parties.attempt_cases h ha
  case inl ha =>
    obtain ⟨a', ha, he⟩ := ha
    obtain ⟨hv, hs⟩ := hb.attempts a' ha
    exact he ▸ ⟨hv, hk hs⟩
  case inr ha =>
    obtain ⟨_, hp, j, hj, hu⟩ := ha
    obtain ⟨_, hp', hi, hh, hs⟩ := JobJoin.unconfirmed_eq_some hu
    have hp : j.snapshot.providerPeerId = provider := hp'.symm.trans hp
    have hc := hb.settled hn hj hp (by simp [hs])
    refine ⟨?_, hk ?_⟩
    · have he := hc.consumerSignature
      rw [hs, hh, Option.map_some, Option.some.injEq] at he
      exact he ▸ hl.verify_sign keypair a.job.hash
    · rw [hi]
      refine (hb.signed j hj hp (by simp [hs])).and (hb.created j hj hp) (hb.unique _) |>.imp ?_
      intro jP _ hP
      rw [hP.1.providerHash hP.2, ← hc.hash, hh]

theorem confirms (hb : s.Backed ext keypair provider) (hl : ext.Lawful)
    (ha : a ∈ s.parties.attempts) (plan : Plan JobJoin) (now : DateTime) :
    ∃ response db', handleConfirmJobRequest ext plan now provider s.parties.provider.db
        (ext.peerId keypair) (a.job.request ext (ext.publicKey keypair)) = (some response, db') ∧
      db'.Answers (ext.peerId keypair) provider a.job.providerJobId response := by
  obtain ⟨hv, hs⟩ := hb.attempts a ha
  exact handleConfirmJobRequest_settles (hl.decode_encode _) hv (hb.unique _) hs plan now

theorem settles_step (hb : s.Backed ext keypair provider) (hl : ext.Lawful)
    (h : Parties.step ext keypair provider s.parties pl p) :
    Settles (ext.peerId keypair) provider { s with parties := p } := by
  intro k response hr
  cases Parties.responses_cases h hr
  case inl hr =>
    obtain ⟨a, ha, hs⟩ := hb.settles k response hr
    obtain ⟨a', ha', he⟩ := Parties.attempt_keeps h ha
    refine ⟨a', ha', ?_⟩
    rw [he]
    exact Parties.answers_step h hs
  case inr hr =>
    obtain ⟨a, plan, now, ha, ha', hc⟩ := hr
    obtain ⟨response, db', hr, hs⟩ := hb.confirms hl (List.mem_of_getElem? ha) plan now
    obtain ⟨he, rfl⟩ := Prod.mk.inj <| hr.symm.trans hc
    exact ⟨a, ha', Option.some.inj he ▸ hs⟩

end Backed

theorem Backed.congr (hb : s.Backed ext keypair provider) (hp : s'.parties = s.parties)
    (ht : s'.told = s.told) : s'.Backed ext keypair provider := by
  obtain ⟨_, _, _⟩ := s
  obtain ⟨_, _, _⟩ := s'
  obtain rfl := hp
  obtain rfl := ht
  exact { hb with }

theorem Backed.party (hb : s.Backed ext keypair provider) (hl : ext.Lawful)
    (hn : ext.peerId keypair ≠ provider) (h : Parties.step ext keypair provider s.parties pl p)
    (hf : (Label.party pl).Faithful ext keypair provider s) :
    Backed ext keypair provider { s with parties := p } := by
  obtain ⟨hj, hc⟩ := hf
  have hs : ∀ op, pl = .consumerOp op → op.SignsWith ext keypair ∧ s.Follows provider op := by
    rintro op rfl
    exact hc
  have ho : ∀ action, pl = .providerOffers action →
      ¬action.Supersedes provider s.parties.provider := by
    rintro action rfl
    exact hc
  have hw := consumer_write h fun op ho => (hs op ho).1
  constructor
  case unique     => exact hb.unique.step h hj
  case offers     => exact Parties.offersActive_step h ho hb.offers
  case requested  => exact fun i request hm =>
    (Parties.requested_cases h hm).elim (fun hm => (hb.requested i request hm).step h) (·.step h)
  case answered   => exact fun _ _ _ _ _ => hb.answered_step h
  case created    => exact fun _ => hb.created_step h fun op ho => (hs op ho).2
  case told       => exact hb.told_step hn h
  case consistent => exact hw.all hb.consistent (fun _ => .of_new) fun _ _ => .becomes
  case signed     => exact fun _ => hb.signed_step hn h fun op ho => (hs op ho).2
  case attempts   => exact fun _ => hb.attempts_step hl hn h
  case settles    => exact hb.settles_step hl h

theorem handleGetJobRequest_serves
    (h : handleGetJobRequest plan self db consumer ⟨jobId⟩ = .ok (some pub) delta createdAtSync (some t)) :
    db.Serves consumer self jobId fun j =>
      j.job.publicPayload = some pub ∧ j.job.balanceDelta = delta ∧ j.job.completedAtSync = some t := by
  simp only [handleGetJobRequest] at h
  split at h <;> try contradiction
  case _ job hf =>
  split at h <;> try contradiction
  case _ hc =>
  obtain ⟨j, hj, rfl⟩ := Database.findByJobId_eq_some hf
  obtain ⟨hp, hd, _, ht⟩ := GetJobResponse.ok.inj h
  exact ⟨j, Database.jobById_mem hj, hc.symm, hp, hd, ht⟩

theorem Backed.getJob (hb : s.Backed ext keypair provider)
    (h : step ext keypair provider s (.getJob plan jobId) s') : s'.Backed ext keypair provider := by
  simp only [step, ofFn, next] at h
  split at h <;> try contradiction
  obtain rfl := Option.some.inj h
  refine { hb with told := fun jobId pub delta createdAtSync t hm => ?_ }
  cases List.mem_cons.mp hm
  case inr hm => exact hb.told jobId pub delta createdAtSync t hm
  case inl hm =>
    obtain ⟨rfl, hr⟩ := Prod.mk.inj hm
    exact handleGetJobRequest_serves hr.symm

theorem Backed.start {consumer db : Database} (hc : consumer.serviceJobs = ∅)
    (hp : db.serviceJobs = ∅) :
    Backed ext keypair provider { parties := { consumer, provider := .start db now } } := by
  have hj := Database.joined_of_no_jobs hc
  constructor
  case unique     =>
    simp [Parties.UniqueJobIds, Database.jobsById, Node.start, Database.joined_of_no_jobs hp]
  case offers     => exact Node.offersActive_start
  case requested  => simp
  case answered   => simp
  case created    => simp [hj]
  case told       => simp [Told]
  case consistent => simp [hj]
  case signed     => simp [hj]
  case attempts   => simp
  case settles    => simp [Settles]

theorem Backed.answers {k : Nat} (hb : s.Backed ext keypair provider) (hl : ext.Lawful)
    (hs : s.stopped = false) (ha : s.parties.attempts[k]? = some a) (plan : Plan JobJoin)
    (now : DateTime) :
    ∃ response s', s.step ext keypair provider (.party <| .handleConfirmation k plan now) s' ∧
      s'.stopped = false ∧ s'.parties.responses = (k, response) :: s.parties.responses ∧
        s'.parties.provider.db.Answers (ext.peerId keypair) provider a.job.providerJobId response := by
  obtain ⟨response, db', hc, hr⟩ := hb.confirms hl (List.mem_of_getElem? ha) plan now
  let p := { s.parties with
    provider  := { s.parties.provider with db := db' }
    responses := (k, response) :: s.parties.responses
  }
  refine ⟨response, { s with parties := p, stopped := false }, ?_, rfl, rfl, hr⟩
  simp only [step, ofFn, next, Parties.next, panics, hs, ha, hc]
  rfl

end Settlement
end Derouter
