import Derouter.JobsView.Handlers
import Derouter.P2p.JobConfirmationScheduler
import Derouter.P2p.Theorems.Completion

open Sql Transition

namespace Derouter

variable {ext : External} {keypair : ext.Keypair} {self : PeerId} {db db' : Database}

theorem JobJoin.awaitsConfirmation_iff {j : JobJoin} : j.awaitsConfirmation self = true ↔
    j.job.consumerPeerId = self ∧ j.job.consumerSignature.isSome ∧
      j.job.signatureConfirmedAtLocal = none := by
  simp [awaitsConfirmation, and_assoc]

theorem JobJoin.awaitsConfirmation_congr {j j' : JobJoin} (h : j.job = j'.job) :
    j.awaitsConfirmation self = j'.awaitsConfirmation self := by
  rw [awaitsConfirmation, awaitsConfirmation, h]

theorem JobOp.Turns.awaitsConfirmation {op : JobOp} {j j' : JobJoin} (h : op.Turns db j j')
    (hn : ¬op.CompletesAsConsumer) (ha : j'.awaitsConfirmation self = true) :
    j.awaitsConfirmation self = true := by
  cases h.job
  case inl h => exact JobJoin.awaitsConfirmation_congr h ▸ ha
  case inr h =>
    obtain ⟨hp, hs, hc⟩ := JobJoin.awaitsConfirmation_iff.mp ha
    have hk := h.2.sameJob.consumerPeerId.trans hp
    refine JobJoin.awaitsConfirmation_iff.mpr ⟨hk, ?_⟩
    generalize j'.job = r' at h hs hc
    cases h.2
    case fail                 => exact ⟨hs, hc⟩
    case setConfirmationError => exact ⟨hs, hc⟩
    case providerComplete     => exact ⟨hs, hc⟩
    case providerConfirm      => contradiction
    case consumerComplete     => exact absurd trivial hn
    case consumerConfirm      => contradiction

theorem Database.Advances.awaitsConfirmation {completes : Prop} {j' : JobJoin}
    (h : db.Advances ext self completes db') (hn : ¬completes) (hj : j' ∈ db'.joined)
    (ha : j'.awaitsConfirmation consumer = true) : ∃ j ∈ db.joined,
      j.awaitsConfirmation consumer = true ∧ j.rowid = j'.rowid ∧
        j.snapshot.providerPeerId = j'.snapshot.providerPeerId := by
  cases h
  case kept h =>
    obtain ⟨j, hj, hi, he, hk⟩ := h.joined_cases hj
    exact ⟨j, hj, JobJoin.awaitsConfirmation_congr he ▸ ha, hi.symm, hk.sameOffer.1⟩
  case executed op _ hc =>
    cases op.exec_joined_cases hj
    case inl hr =>
      have hs := (JobJoin.awaitsConfirmation_iff.mp ha).2.1
      simp [hr.2.consumerSignature] at hs
    case inr hr =>
      obtain ⟨j, hj, ht⟩ := hr
      exact ⟨j, hj, ht.awaitsConfirmation (mt hc hn) ha, ht.rowid.symm, by rw [ht.snapshot]⟩

namespace Peers

variable {peers : Peers} {items : List (PeerId × String)} {peerId : PeerId}

theorem knows_insert {addresses : Finset String} :
    Knows (AList.insert peerId' addresses peers) peerId ↔ peerId = peerId' ∨ peers.Knows peerId := by
  by_cases h : peerId = peerId'
  case pos =>
    subst h
    simp [Knows]
  case neg => simp [h, Knows, AList.lookup_insert_ne h]

theorem knows_discovered : (peers.discovered items).Knows peerId ↔
    peerId ∈ items.map (·.1) ∨ peers.Knows peerId := by
  induction items generalizing peers
  case nil => simp [discovered]
  case cons item items hi =>
    have he : peers.discovered (item :: items) = discovered (peers.insert item.1 _) items := rfl
    rw [he, hi, knows_insert, List.map_cons, List.mem_cons, or_left_comm, or_assoc]

theorem mem_newcomers : peerId ∈ peers.newcomers items ↔
    peerId ∈ items.map (·.1) ∧ ¬peers.Knows peerId := by
  simp [newcomers]

theorem knows_of_expired (h : (peers.expired items).1.Knows peerId) : peers.Knows peerId := by
  induction items generalizing peers
  case nil => exact h
  case cons item items hi =>
    simp only [expired] at h
    split at h
    case h_1 => exact h
    case h_2 hl =>
      have h := hi h
      split at h
      case isFalse =>
        cases knows_insert.mp h
        case inl he => exact he ▸ Option.isSome_of_eq_some hl
        case inr h  => exact h
      case isTrue =>
        by_cases he : peerId = item.1
        case pos => exact he ▸ Option.isSome_of_eq_some hl
        case neg => rwa [Knows, AList.lookup_erase_ne he] at h

end Peers

namespace JobConfirmationLoop

-- The loop is past the row, and gets no other look at it unless it is woken.
def Passed (j : JobJoin) : JobConfirmationLoop → Prop
  | queries          => False
  | checks jobs      => ∀ job ∈ jobs, job.rowid = j.rowid → job.providerPeerId ≠ j.snapshot.providerPeerId
  | spawns job jobs  =>
    ∀ job' ∈ job :: jobs, job'.rowid = j.rowid → job'.providerPeerId ≠ j.snapshot.providerPeerId
  | selects c p      => c ≠ .woken ∧ p ≠ .woken
  | ended            => False

variable {loop : JobConfirmationLoop} {j : JobJoin}

theorem Passed.congr {j' : JobJoin} (h : loop.Passed j) (hi : j.rowid = j'.rowid)
    (hk : j.snapshot.providerPeerId = j'.snapshot.providerPeerId) : loop.Passed j' := by
  cases loop <;> simp only [Passed, hi, hk] at h ⊢ <;> exact h

-- A notification reaches the loop if its future is there, and changes nothing otherwise.

theorem passed_notifyCompletion (hn : loop.scans = false) (h : loop.notifyCompletion.Passed j) :
    loop.Passed j ∧ loop.completion = .absent := by
  cases loop <;> try contradiction
  case selects c p =>
    cases c
    case absent  => exact ⟨h, rfl⟩
    case waiting => exact absurd rfl h.1
    case woken   => exact absurd rfl h.1

theorem passed_notifyPeers (h : loop.notifyPeers.Passed j) :
    loop.Passed j ∧ loop.peers = .absent := by
  cases loop <;> try exact ⟨h, rfl⟩
  case selects c p =>
    cases p
    case absent  => exact ⟨h, rfl⟩
    case waiting => exact absurd rfl h.2
    case woken   => exact absurd rfl h.2

end JobConfirmationLoop

namespace Scheduler

variable {s s' : Scheduler} {l : Label}

-- The job of a row is unconfirmed, and its provider is discovered.
structure Awaits (ourPeerId : PeerId) (s : Scheduler) (j : JobJoin) : Prop where
  mem         : j ∈ s.node.db.joined
  unconfirmed : j.awaitsConfirmation ourPeerId = true
  known       : s.peers.Knows j.snapshot.providerPeerId

-- A notification for a row comes when the loop is past the row, and has not created the future yet. No
-- other notification for it is to come.
def Label.Lost (ourPeerId : PeerId) (s : Scheduler) : Label → Prop
  | .notifyCompletion => s.loop.completion = .absent ∧ ∃ j, s.Awaits ourPeerId j ∧ s.loop.Passed j ∧
    s.committed = some j.rowid ∧ j.snapshot.providerPeerId ∉ s.events.newcomers
  | .notifyPeers => s.loop.peers = .absent ∧ ∃ j, s.Awaits ourPeerId j ∧ s.loop.Passed j ∧
    s.committed ≠ some j.rowid ∧ j.snapshot.providerPeerId ∈ s.events.newcomers
  | _ => False

-- What holds in any run that loses no notification.
structure Tracked (ourPeerId : PeerId) (s : Scheduler) : Prop where
  -- The database has one holder.
  exclusive : s.committed.isSome → s.loop.scans = false
  -- What the loop is past has its `confirm_job`, or is still to be notified of.
  notified  : ∀ j, s.Awaits ourPeerId j → s.loop.Passed j →
    (j.rowid, j.snapshot.providerPeerId) ∈ s.spawned ∨ s.committed = some j.rowid ∨
      j.snapshot.providerPeerId ∈ s.events.newcomers

theorem completedJob?_of_awaits {node : Node} {handler : Handler} {j' : JobJoin}
    (hj : j' ∈ (node.handle ext keypair handler).1.db.joined)
    (ha : j'.awaitsConfirmation self = true) :
    completedJob? handler (node.handle ext keypair handler).2 = some j'.rowid ∨
      ∃ j ∈ node.db.joined, j.awaitsConfirmation self = true ∧ j.rowid = j'.rowid ∧
        j.snapshot.providerPeerId = j'.snapshot.providerPeerId := by
  by_cases hc : handler.CompletesAsConsumer
  case neg =>
    have h : node.db.Advances ext (ext.peerId keypair) handler.CompletesAsConsumer _ := .handle handler
    exact .inr <| h.awaitsConfirmation hc hj ha
  case pos =>
    cases handler <;> try contradiction
    case consumerCompleteJob plan now provider jobId delta pub priv t =>
      simp only [Node.handle] at hj ⊢
      split at hj
      case h_2 => exact .inr ⟨j', hj, ha, rfl, rfl⟩
      case h_1 db record hr =>
        obtain ⟨j, _, _, _, _, _, _, u, _, _, rfl, rfl⟩ := consumerCompleteJob_ok hr
        obtain ⟨r, hm, he⟩ := Database.mem_joined_updateJob hj
        cases he
        case inl he => exact .inl (by rw [he.1]; rfl)
        case inr he =>
          rw [← he.2] at hm
          exact .inr ⟨j', hm, ha, rfl, rfl⟩

namespace Tracked

theorem moves {loop : JobConfirmationLoop} (h : s.Tracked self)
    (hx : loop.scans → s.loop.scans ∨ s.committed = none)
    (hp : ∀ j, s.Awaits self j → loop.Passed j → s.loop.Passed j) :
    { s with loop }.Tracked self where
  exclusive := by
    intro hc
    refine Bool.not_eq_true _ ▸ fun hs => ?_
    cases hx hs
    case inl hs => simp [h.exclusive hc] at hs
    case inr hn => simp [hn] at hc
  notified  := fun j ha hl => h.notified j ⟨ha.mem, ha.unconfirmed, ha.known⟩ <|
    hp j ⟨ha.mem, ha.unconfirmed, ha.known⟩ hl

theorem rests {loop : JobConfirmationLoop} (h : s.Tracked self) (hx : loop.scans = false)
    (hp : ∀ j, ¬loop.Passed j) : { s with loop }.Tracked self :=
  h.moves (fun hs => by simp [hx] at hs) fun j _ hl => absurd hl (hp j)

theorem queries (h : s.Tracked self) (hc : s.committed = none)
    (hq : queryUnconfirmedJobs plan s.node.db self = some jobs) :
    { s with loop := .checks jobs }.Tracked self := by
  refine h.moves (fun _ => .inr hc) fun j ha hp => ?_
  have hj : j ∈ plan.order (s.node.db.joined.filter (·.awaitsConfirmation self)) :=
    plan.mem_order.mpr <| List.mem_filter.mpr ⟨ha.mem, ha.unconfirmed⟩
  cases hu : j.unconfirmed
  case none =>
    have hn : queryUnconfirmedJobs plan s.node.db self = none := Loop.mapM_eq_none_iff.mpr ⟨j, hj, hu⟩
    simp [hn] at hq
  case some job =>
    obtain ⟨hi, hk, _⟩ := JobJoin.unconfirmed_eq_some hu
    exact absurd hk <| hp job ((Loop.mem_mapM_iff hq).mpr ⟨j, hj, hu⟩) hi

theorem checks (h : s.Tracked self) (hl : s.loop = .checks (job :: jobs))
    (hn : ¬s.peers.Knows job.providerPeerId) : { s with loop := .checks jobs }.Tracked self := by
  refine h.moves (fun _ => .inl (by rw [hl]; rfl)) fun j ha hp => ?_
  rw [hl]
  intro job' hm hi he
  cases List.mem_cons.mp hm
  case inl hj => exact hn (hj ▸ he ▸ ha.known)
  case inr hj => exact hp job' hj hi he

theorem spawns (h : s.Tracked self) (hl : s.loop = .spawns job jobs) :
    { s with
      loop    := .checks jobs
      spawned := (job.rowid, job.providerPeerId) :: s.spawned
    }.Tracked self where
  exclusive := fun hc => absurd (h.exclusive hc) (by simp [hl, JobConfirmationLoop.scans])
  notified  := by
    intro j ha hp
    by_cases he : job.rowid = j.rowid ∧ job.providerPeerId = j.snapshot.providerPeerId
    case pos => exact .inl (by simp [he])
    case neg =>
      refine (h.notified j ⟨ha.mem, ha.unconfirmed, ha.known⟩ ?_).imp_left (List.mem_cons_of_mem _)
      rw [hl]
      intro job' hm hi he'
      cases List.mem_cons.mp hm
      case inl hj => exact he (hj ▸ ⟨hi, he'⟩)
      case inr hj => exact hp job' hj hi he'

theorem handles (h : s.Tracked (ext.peerId keypair)) (hl : s.dbLocked = false) (handler : Handler) :
    { s with
      node      := (s.node.handle ext keypair handler).1
      committed := completedJob? handler (s.node.handle ext keypair handler).2
      spawned   := s.spawned.filter
        (some ·.1 ≠ completedJob? handler (s.node.handle ext keypair handler).2)
    }.Tracked (ext.peerId keypair) := by
  obtain ⟨hc, hs⟩ := Bool.or_eq_false_iff.mp hl
  refine ⟨fun _ => hs, fun j' ha hp => ?_⟩
  by_cases hn : completedJob? handler (s.node.handle ext keypair handler).2 = some j'.rowid
  case pos => exact .inr (.inl hn)
  case neg =>
    obtain ⟨j, hj, hu, hi, hk⟩ := (completedJob?_of_awaits ha.mem ha.unconfirmed).resolve_left hn
    have hp : s.loop.Passed j := hp.congr hi.symm hk.symm
    rcases h.notified j ⟨hj, hu, hk ▸ ha.known⟩ hp with h | h | h
    case inl =>
      refine .inl <| List.mem_filter.mpr ⟨hi ▸ hk ▸ h, ?_⟩
      simpa using Ne.symm hn
    case inr.inl => simp [h] at hc
    case inr.inr => exact .inr (.inr (hk ▸ h))

theorem notifiesCompletion (h : s.Tracked self) (hc : s.committed.isSome)
    (hn : ¬Label.notifyCompletion.Lost self s) :
    { s with committed := none, loop := s.loop.notifyCompletion }.Tracked self := by
  refine ⟨nofun, fun j ha hp => ?_⟩
  obtain ⟨hp, ha'⟩ := JobConfirmationLoop.passed_notifyCompletion (h.exclusive hc) hp
  have ha : s.Awaits self j := ⟨ha.mem, ha.unconfirmed, ha.known⟩
  rcases h.notified j ha hp with hs | hs | hs
  case inl     => exact .inl hs
  case inr.inl =>
    refine .inr (.inr ?_)
    by_contra hk
    exact hn ⟨ha', j, ha, hp, hs, hk⟩
  case inr.inr => exact .inr (.inr hs)

theorem discovers (h : s.Tracked self) (hi : s.events.isIdle) (items : List (PeerId × String)) :
    { s with
      peers   := s.peers.discovered items
      events  := .notifies (s.peers.newcomers items)
      spawned := s.spawned.filter (·.2 ∉ s.peers.newcomers items)
    }.Tracked self := by
  refine ⟨h.exclusive, fun j ha hp => ?_⟩
  by_cases hn : j.snapshot.providerPeerId ∈ s.peers.newcomers items
  case pos => exact .inr (.inr hn)
  case neg =>
    have hk : s.peers.Knows j.snapshot.providerPeerId := by
      by_contra hk
      have hm := (Peers.knows_discovered.mp ha.known).resolve_right hk
      exact hn <| Peers.mem_newcomers.mpr ⟨hm, hk⟩
    rcases h.notified j ⟨ha.mem, ha.unconfirmed, hk⟩ hp with hs | hs | hs
    case inl     => exact .inl <| List.mem_filter.mpr ⟨hs, by simpa using hn⟩
    case inr.inl => exact .inr (.inl hs)
    case inr.inr => cases he : s.events <;> simp_all [EventLoop.newcomers, EventLoop.isIdle]

theorem expires {peers : Peers} {events : EventLoop} (h : s.Tracked self) (hi : s.events.isIdle)
    (he : s.peers.expired items = (peers, found)) : { s with peers, events }.Tracked self := by
  refine ⟨h.exclusive, fun j ha hp => ?_⟩
  have hk : s.peers.Knows j.snapshot.providerPeerId :=
    Peers.knows_of_expired (by rw [he]; exact ha.known)
  rcases h.notified j ⟨ha.mem, ha.unconfirmed, hk⟩ hp with hs | hs | hs
  case inl     => exact .inl hs
  case inr.inl => exact .inr (.inl hs)
  case inr.inr => cases he : s.events <;> simp_all [EventLoop.newcomers, EventLoop.isIdle]

theorem notifiesPeers (h : s.Tracked self) (hn : ¬Label.notifyPeers.Lost self s) :
    { s with events := .idle, loop := s.loop.notifyPeers }.Tracked self := by
  refine ⟨?_, fun j ha hp => ?_⟩
  case refine_1 =>
    intro hc
    have hs := h.exclusive hc
    cases hl : s.loop <;> simp_all [JobConfirmationLoop.notifyPeers, JobConfirmationLoop.scans]
  case refine_2 =>
    obtain ⟨hp, ha'⟩ := JobConfirmationLoop.passed_notifyPeers hp
    have ha : s.Awaits self j := ⟨ha.mem, ha.unconfirmed, ha.known⟩
    rcases h.notified j ha hp with hs | hs | hs
    case inl     => exact .inl hs
    case inr.inl => exact .inr (.inl hs)
    case inr.inr =>
      refine .inr (.inl ?_)
      by_contra hk
      exact hn ⟨ha', j, ha, hp, hk, hs⟩

theorem step (h : s.Tracked (ext.peerId keypair)) (hn : ¬l.Lost (ext.peerId keypair) s)
    (hs : step ext keypair s l s') : s'.Tracked (ext.peerId keypair) := by
  cases l <;> simp only [Scheduler.step, ofFn, next] at hs
  case query plan =>
    split at hs <;> try contradiction
    case _ hl hc =>
      split at hs <;> obtain rfl := Option.some.inj hs
      case h_1    => exact h.rests rfl fun _ => id
      case h_2 hq => exact h.queries hc hq
  case check =>
    split at hs <;> try contradiction
    case _ job jobs hl =>
      split at hs <;> try contradiction
      split at hs <;> obtain rfl := Option.some.inj hs
      case isFalse hk => exact h.checks hl hk
      case isTrue =>
        refine h.moves (fun _ => .inl (by rw [hl]; rfl)) fun j _ hp => ?_
        rw [hl]
        exact hp
  case spawn =>
    split at hs <;> try contradiction
    case _ hl =>
      obtain rfl := Option.some.inj hs
      exact h.spawns hl
  case endScan =>
    split at hs <;> try contradiction
    case _ hl =>
      obtain rfl := Option.some.inj hs
      refine h.moves (fun hx => Bool.noConfusion hx) fun j _ _ => ?_
      rw [hl]
      exact List.forall_mem_nil _
  case notified =>
    split at hs <;> try contradiction
    case _ hl =>
      obtain rfl := Option.some.inj hs
      refine h.moves (fun hx => Bool.noConfusion hx) fun j _ _ => ?_
      rw [hl]
      exact ⟨Notified.noConfusion, Notified.noConfusion⟩
    case _ hl =>
      obtain rfl := Option.some.inj hs
      refine h.moves (fun hx => Bool.noConfusion hx) fun j _ hp => ?_
      rw [hl]
      exact ⟨hp.1, Notified.noConfusion⟩
  case wake =>
    split at hs <;> try contradiction
    split at hs <;> try contradiction
    obtain rfl := Option.some.inj hs
    exact h.rests rfl fun _ => id
  case shutdown =>
    split at hs <;> try contradiction
    split at hs <;> try contradiction
    obtain rfl := Option.some.inj hs
    exact h.rests rfl fun _ => id
  case handle handler =>
    split at hs <;> try contradiction
    case _ hl =>
      obtain rfl := Option.some.inj hs
      exact h.handles (Bool.not_eq_true _ ▸ hl) handler
  case notifyCompletion =>
    split at hs <;> try contradiction
    case _ hc =>
      obtain rfl := Option.some.inj hs
      exact h.notifiesCompletion hc hn
  case discovered items =>
    split at hs <;> try contradiction
    case _ hi =>
      obtain rfl := Option.some.inj hs
      exact h.discovers hi items
  case expired items =>
    split at hs <;> try contradiction
    case _ hi =>
      split at hs <;> obtain rfl := Option.some.inj hs
      case h_1 he => exact h.expires hi he
      case h_2 he => exact h.expires hi he
  case notifyPeers =>
    split at hs <;> try contradiction
    obtain rfl := Option.some.inj hs
    exact h.notifiesPeers hn

theorem confirms (h : s.Tracked self) : s.Confirms self := by
  intro hp plan jobs hq job hm hk
  obtain ⟨j, hj, hu⟩ := (Loop.mem_mapM_iff hq).mp hm
  obtain ⟨hj, ha⟩ := List.mem_filter.mp <| plan.mem_order.mp hj
  obtain ⟨hi, hk', _⟩ := JobJoin.unconfirmed_eq_some hu
  rw [hk'] at hk
  have hl : s.loop.Passed j := by
    rw [hp.loop]
    exact ⟨nofun, nofun⟩
  rcases h.notified j ⟨hj, ha, hk⟩ hl with hs | hs | hs
  case inl     => rwa [hi, hk']
  case inr.inl => simp [hp.committed] at hs
  case inr.inr =>
    have he := hp.events
    cases hv : s.events <;> simp_all [EventLoop.newcomers, EventLoop.locks]

end Tracked

theorem tracked_start (node : Node) : (Scheduler.start node).Tracked self where
  exclusive := fun hc => Bool.noConfusion hc
  notified  := fun _ _ hp => False.elim hp

-- In every run from any database that loses no notification, no wake-up is missing where the loop is
-- parked.
theorem confirms_of_run {node : Node} (r : Run (step ext keypair) (start node) tr s)
    (h : Meets (fun s l => ¬l.Lost (ext.peerId keypair) s) tr) :
    Run.Always (Scheduler.Confirms · (ext.peerId keypair)) tr s := by
  have ht : Run.Always (Scheduler.Tracked (ext.peerId keypair)) tr s :=
    r.always_of_meets h (tracked_start node) fun _ _ _ h hn hs => h.step hn hs
  exact ht.imp fun _ => Tracked.confirms

-- A node that stores a job of the peer 1 at the peer 0.
private def withJob : Node :=
  let db := Database.ofOffer ⟨[0]⟩ "offer" "protocol" "payload"
  .start (((createJob 0 db 1 ⟨[1]⟩ .polygon none "job" 0).map (·.2)).getD db) 0

private def complete : Label :=
  .handle <| .consumerCompleteJob .scan 0 ⟨[0]⟩ "job" none "done" none 0

-- The provider is discovered, and the job is completed while the loop is parked.
private def completesParked : List Label := [
  .discovered [(⟨[0]⟩, "address")], .notifyPeers, .query .scan, .endScan, .notified, .notified,
  complete, .notifyCompletion, .wake, .query .scan, .check, .spawn, .endScan, .notified, .notified
]

-- The job is completed while the loop is on its way from the scan to the `select!`.
private def completesBetween : List Label := [
  .discovered [(⟨[0]⟩, "address")], .notifyPeers, .query .scan, .endScan,
  complete, .notifyCompletion, .notified, .notified
]

private def unconfirmed (s : Scheduler) : Option (List (Rowid × PeerId)) :=
  (queryUnconfirmedJobs .scan s.node.db ⟨[1]⟩).map (·.map fun job => (job.rowid, job.providerPeerId))

theorem confirms_of_run_sample : ∃ tr s, Run (step .sample ⟨[1]⟩) (start withJob) tr s ∧
    s.loop = .selects .waiting .waiting ∧ s.spawned = [(1, ⟨[0]⟩)] ∧
    unconfirmed s = some [(1, ⟨[0]⟩)] ∧ Run.Always (Scheduler.Confirms · ⟨[1]⟩) tr s := by
  obtain ⟨tr, s, r, ht, hs⟩ := Run.of_checked (fun s l => next s .sample ⟨[1]⟩ l)
    (start withJob) completesParked
    (fun s l => match l with
      | .notifyCompletion => s.loop.completion ≠ .absent
      | .notifyPeers      => s.loop = .queries
      | _                 => true)
    (fun s => s.loop = .selects .waiting .waiting ∧ s.spawned = [(1, ⟨[0]⟩)] ∧
      unconfirmed s = some [(1, ⟨[0]⟩)])
    (by decide +kernel)
  obtain ⟨hl, hs, hu⟩ := of_decide_eq_true hs
  refine ⟨tr, s, r, hl, hs, hu, confirms_of_run r ?_⟩
  intro p hp
  have hc := ht p hp
  cases hl : p.2 <;> simp only [hl] at hc <;> try exact id
  case notifyCompletion => exact fun h => of_decide_eq_true hc h.1
  case notifyPeers =>
    rintro ⟨_, j, _, hp, _⟩
    rw [of_decide_eq_true hc] at hp
    exact hp

theorem not_confirms : ¬∀ (ext : External) (keypair : ext.Keypair) (node : Node)
    (tr : List (Scheduler × Label)) (s : Scheduler),
    Run (step ext keypair) (start node) tr s → s.Confirms (ext.peerId keypair) := by
  intro h
  obtain ⟨tr, s, r, _, hs⟩ := Run.of_schedule (fun s l => next s .sample ⟨[1]⟩ l)
    (start withJob) completesBetween
    (fun s => s.loop = .selects .waiting .waiting ∧ s.committed = none ∧ s.events.locks = false ∧
      s.peers.Knows ⟨[0]⟩ ∧ s.spawned = [] ∧ unconfirmed s = some [(1, ⟨[0]⟩)])
    (by decide +kernel)
  obtain ⟨hl, hc, he, hk, hs, hu⟩ := of_decide_eq_true hs
  obtain ⟨jobs, hq, hu⟩ := Option.map_eq_some_iff.mp hu
  obtain ⟨job, hm, hj⟩ : ∃ job ∈ jobs, (job.rowid, job.providerPeerId) = (1, ⟨[0]⟩) :=
    List.mem_map.mp (by rw [hu]; exact List.mem_singleton_self _)
  have hn := h _ _ _ _ s r ⟨hl, hc, he⟩ .scan jobs hq job hm ((Prod.mk.inj hj).2 ▸ hk)
  simp [hs] at hn

end Scheduler
end Derouter
