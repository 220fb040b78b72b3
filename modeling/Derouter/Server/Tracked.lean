import Derouter.Server.Effect

open Sql Transition

namespace Derouter

theorem ProviderState.held_of_findOffer {s : ProviderState}
    (h : s.findOffer p o = some (some found)) : s.held found.moduleId p o = some found.provided := by
  simp only [findOffer] at h
  split at h
  case h_1 => simp at h
  case h_2 =>
    split at h
    case h_1    => contradiction
    case h_2 hf =>
      obtain rfl := Option.some.inj <| Option.some.inj h
      exact hf

theorem ProviderState.isSome_of_held {s : ProviderState} (h : s.held m p o = some provided) :
    (s.modules.lookup m).isSome := by
  obtain ⟨_, h, _⟩ := held_eq_some_iff.mp h
  rw [h, Option.isSome_some]

-- The offers that the modules hold name snapshots of the node.
def Node.Backed (self : PeerId) (node : Node) : Prop :=
  ∀ m p o provided, node.provider.held m p o = some provided →
    ∃ r, node.db.offerSnapshots.get? provided.snapshotRowid = some r ∧ r.providerPeerId = self

namespace Server

variable {ext : External} {keypair : ext.Keypair} {self : PeerId} {s s' : Server} {l : Label} {db : Database}

-- What holds of a server in any run, whether or not its connections panic.
structure Tracked (ourPeerId : PeerId) (s : Server) : Prop where
  registered : s.node.Registered
  own        : s.node.db.OwnActive ourPeerId
  backed     : s.node.Backed ourPeerId
  -- No connection gets the number of another one.
  opened     : ∀ c ∈ s.tasks, c < s.opened
  receivers  : ∀ m c, s.node.provider.receiver m = some c → c < s.opened
  -- Only the connections of live tasks are listed, and such a task lists the module that it serves.
  tasks      : ∀ c m, s.node.connections.lookup c = some m → c ∈ s.tasks
  listed     : ∀ m c, s.node.provider.receiver m = some c → c ∈ s.tasks →
    s.node.connections.lookup c = some m
  -- What the holder of the mutex has found stays there.
  job        : ∀ job, s.loop.job? = some job →
    s.node.provider.findOffer job.request.protocolId job.request.offerId = some (some job.offer) ∧
      job.offer.provided.protocolPayload = job.request.offerPayload
  stream     : ∀ offer, s.stream = some offer →
    (s.node.provider.modules.lookup offer.moduleId).isSome

namespace Tracked

theorem start (h : db.OwnActive self) : (Server.start db now).Tracked self where
  registered := .start
  own        := h
  backed     := fun _ _ _ _ h => by simp [Server.start, Node.start, ProviderState.held] at h
  opened     := fun _ h => by simp [Server.start] at h
  receivers  := fun _ _ h => by simp [Server.start, Node.start, ProviderState.receiver] at h
  tasks      := fun _ _ h => by simp [Server.start, Node.start] at h
  listed     := fun _ _ h => by simp [Server.start, Node.start, ProviderState.receiver] at h
  job        := fun _ h => by simp [Server.start, NodeLoop.job?] at h
  stream     := fun _ h => by simp [Server.start] at h

theorem of_node (h : s.Tracked self) (hn : s'.node = s.node)
    (ht : s'.tasks = s.tasks ∧ s'.opened = s.opened)
    (hj : ∀ job, s'.loop.job? = some job → s.loop.job? = some job)
    (hs : ∀ offer, s'.stream = some offer → s.stream = some offer) : s'.Tracked self where
  registered := hn ▸ h.registered
  own        := hn ▸ h.own
  backed     := hn ▸ h.backed
  opened     := ht.1 ▸ ht.2 ▸ h.opened
  receivers  := hn ▸ ht.2 ▸ h.receivers
  tasks      := hn ▸ ht.1 ▸ h.tasks
  listed     := hn ▸ ht.1 ▸ h.listed
  job        := fun job hl => hn ▸ h.job job (hj job hl)
  stream     := fun offer hl => hn ▸ h.stream offer (hs offer hl)

-- The number of the new connection is not that of the receiver of any module.
theorem accepts (h : s.Tracked self) :
    { s with tasks := s.opened :: s.tasks, opened := s.opened + 1 }.Tracked self := { h with
  opened    := by
    intro c hc
    cases List.mem_cons.mp hc
    case inl hc => exact hc ▸ Nat.lt_succ_self _
    case inr hc => exact Nat.lt_succ_of_lt (h.opened c hc)
  receivers := fun m c hm => Nat.lt_succ_of_lt (h.receivers m c hm)
  tasks     := fun c m hc => List.mem_cons_of_mem _ (h.tasks c m hc)
  listed    := by
    intro m c hm hc
    have hne : c ≠ s.opened := Nat.ne_of_lt (h.receivers m c hm)
    exact h.listed m c hm (List.mem_of_ne_of_mem hne hc)
}

theorem backed_of_advances {node : Node} {completes : Prop} (h : node.Backed self)
    (ha : node.db.Advances ext self completes db) : { node with db }.Backed self := by
  intro m p o provided hh
  obtain ⟨r, hr, hp⟩ := h m p o provided hh
  obtain ⟨r', hr', hk⟩ := ha.snapshot hr
  exact ⟨r', hr', hk.sameOffer.1.symm.trans hp⟩

theorem writes (h : s.Tracked self) (hw : s.node.db.Writes ext self db) :
    { s with node := { s.node with db } }.Tracked self := { h with
  registered := h.registered.withDb _
  own        := hw.own h.own
  backed     := backed_of_advances h.backed hw.advances
}

theorem provides {node' : Node} (h : s.Tracked self) (ht : c ∈ s.tasks) (hl : s.unlocked)
    (hn : s.node.provider.offersModuleMap.get? request.protocolId request.offerId = none)
    (hu : upsert plan s.node.db self request.offerId request.protocolId request.protocolPayload =
      some (rowid, node'.db))
    (hp : s.node.Provided c request m rowid node') : { s with node := node' }.Tracked self where
  registered := hp.registered h.registered hn
  own        := h.own.upsert hu
  backed     := by
    intro i p o provided hh
    rw [hp.held] at hh
    split at hh
    case isTrue  => exact Option.some.inj hh ▸ upsert_provider hu
    case isFalse =>
      obtain ⟨r, hr, hp⟩ := h.backed i p o provided hh
      obtain ⟨r', hr', hk⟩ := upsert_keeps hu hr
      exact ⟨r', hr', hk.sameOffer.1.symm.trans hp⟩
  opened     := h.opened
  receivers  := by
    intro m' c' hm
    rw [hp.receivers] at hm
    split at hm
    case isTrue  => exact Option.some.inj hm ▸ h.opened _ ht
    case isFalse => exact h.receivers m' c' hm
  tasks      := by
    intro c' m' hc
    by_cases he : c' = c
    case pos => exact he ▸ ht
    case neg => exact h.tasks c' m' (hp.lookup_ne he ▸ hc)
  listed     := by
    intro m' c' hm hc
    rw [hp.receivers] at hm
    split at hm
    case isTrue hm' => exact hm'.1 ▸ Option.some.inj hm ▸ hp.lookup_self
    case isFalse =>
      have hl := h.listed m' c' hm hc
      by_cases he : c' = c
      case neg => exact (hp.lookup_ne he).trans hl
      case pos =>
        subst he
        rcases hp.module with ⟨hc', _⟩ | ⟨hc', _⟩
        case inl => exact hp.lookup_self.trans (hc'.symm.trans hl)
        case inr => simp [hc'] at hl
  job        := fun _ hj => by simp [(unlocked_iff.mp hl).1] at hj
  stream     := fun _ hs => by simp [(unlocked_iff.mp hl).2] at hs

theorem panics (h : s.Tracked self) (cs : List Nat) : (s.panics cs).Tracked self := { h with
  registered := h.registered.drop cs
  opened     := fun c hc => h.opened c (List.mem_of_mem_filter hc)
  tasks      := by
    intro c m hc
    obtain ⟨hn, hc⟩ := (Node.lookup_drop_eq_some_iff cs c).mp hc
    exact List.mem_filter.mpr ⟨h.tasks c m hc, by simpa using hn⟩
  listed     := by
    intro m c hm hc
    obtain ⟨hc, hn⟩ := List.mem_filter.mp hc
    exact (Node.lookup_drop_eq_some_iff cs c).mpr ⟨by simpa using hn, h.listed m c hm hc⟩
}

-- The module that the connection has replaced goes with it.
theorem overrun {node' : Node} (h : s.Tracked self) (ht : c ∈ s.tasks) (hl : s.unlocked)
    (ho : s.node.Overrun c node') : ({ s with node := node' }.panics [c]).Tracked self where
  registered := (ho.registered h.registered).drop [c]
  own        := ho.db ▸ h.own
  backed     := by
    intro m p o provided hh
    exact ho.db ▸ h.backed m p o provided (ho.held m p o provided hh)
  opened     := fun c' hc => h.opened c' (List.mem_of_mem_filter hc)
  receivers  := by
    intro m c' hm
    replace hm := (ho.receivers m).symm.trans hm
    split at hm
    case isTrue  => exact Option.some.inj hm ▸ h.opened _ ht
    case isFalse => exact h.receivers m c' hm
  tasks      := by
    intro c' m hc
    obtain ⟨hn, hc⟩ := (Node.lookup_drop_eq_some_iff [c] c').mp hc
    exact List.mem_filter.mpr ⟨h.tasks c' m (ho.connections c' ▸ hc), by simpa using hn⟩
  listed     := by
    intro m c' hm hc
    obtain ⟨hc, hn⟩ := List.mem_filter.mp hc
    have hn : c' ∉ [c] := by simpa using hn
    replace hm := (ho.receivers m).symm.trans hm
    split at hm
    case isTrue  => exact absurd (Option.some.inj hm ▸ List.mem_singleton_self c) hn
    case isFalse =>
      refine (Node.lookup_drop_eq_some_iff [c] c').mpr ⟨hn, ?_⟩
      exact (ho.connections c').trans (h.listed m c' hm hc)
  job        := fun _ hj => by simp [Server.panics, (unlocked_iff.mp hl).1] at hj
  stream     := fun _ hs => by simp [Server.panics, (unlocked_iff.mp hl).2] at hs

theorem loopEnds (h : s.Tracked self) : s.loopEnds.Tracked self := by
  have he : { s with loop := .ended }.Tracked self :=
    h.of_node rfl ⟨rfl, rfl⟩ nofun fun _ => id
  exact he.panics s.awaiting

theorem exits (h : s.Tracked self) (hc : s.node.connections.lookup c = none) :
    { s with tasks := s.tasks.filter (· ≠ c) }.Tracked self := { h with
  opened := fun c' hc => h.opened c' (List.mem_of_mem_filter hc)
  tasks  := by
    intro c' m hl
    refine List.mem_filter.mpr ⟨h.tasks c' m hl, by simp; rintro rfl; simp [hc] at hl⟩
  listed := fun m c' hm hc => h.listed m c' hm (List.mem_of_mem_filter hc)
}

theorem cleansUp {node' : Node} (h : s.Tracked self) (hl : s.unlocked)
    (hc : s.node.connections.lookup c = some m) (hn : s.node.Closed c m node') :
    { s with node := node', tasks := s.tasks.filter (· ≠ c) }.Tracked self where
  registered := hn.registered h.registered hc
  own        := by
    rw [hn.db]
    exact h.own
  backed     := by
    intro i p o provided hh
    rw [hn.held] at hh
    split at hh
    case isTrue  => contradiction
    case isFalse =>
      rw [hn.db]
      exact h.backed i p o provided hh
  opened     := fun c' hc => h.opened c' (List.mem_of_mem_filter hc)
  receivers  := fun m' c' hm => h.receivers m' c' (hn.receiver_eq_some_iff.mp hm).2
  tasks      := by
    intro c' m' hc'
    obtain ⟨hne, hc'⟩ := hn.lookup_eq_some_iff.mp hc'
    exact List.mem_filter.mpr ⟨h.tasks c' m' hc', by simpa using hne⟩
  listed     := by
    intro m' c' hm hc'
    obtain ⟨hc', hne⟩ := List.mem_filter.mp hc'
    exact hn.lookup_eq_some_iff.mpr
      ⟨by simpa using hne, h.listed m' c' (hn.receiver_eq_some_iff.mp hm).2 hc'⟩
  job        := fun _ hj => by simp [(unlocked_iff.mp hl).1] at hj
  stream     := fun _ hs => by simp [(unlocked_iff.mp hl).2] at hs

theorem stores_total {job : JobCreation} (h : s.Tracked self) (hl : s.loop = .stores job reply)
    (later : DateTime) : ∃ response db, handleCreateJobRequest job.now later job.providerJobId
      (some reply) s.node.db s.node.provider job.fromPeerId job.request = some (response, db) := by
  obtain ⟨hf, hp⟩ := h.job job (by rw [hl, NodeLoop.job?])
  obtain ⟨r, hr, _⟩ := h.backed _ _ _ _ (ProviderState.held_of_findOffer hf)
  simp only [handleCreateJobRequest, hf, if_pos hp]
  split
  case h_1 => contradiction
  case h_2 =>
    obtain ⟨db, hi⟩ := Database.insertJob?_of_snapshot (r := {
      offerSnapshotRowid := job.offer.provided.snapshotRowid
      consumerPeerId     := job.fromPeerId
      currency           := job.request.currency
      jobArgs            := job.request.jobArgs
      providerJobId      := job.providerJobId
      createdAtSync      := job.now.timestamp
      createdAtLocal     := later.currentTimestamp
    }) hr
    exact ⟨_, db, by rw [createJob, hi]⟩
  all_goals exact ⟨_, _, rfl⟩

theorem step (h : s.Tracked self) (he : Effect ext self s l s') : s'.Tracked self := by
  cases he
  case accepts                      => exact h.accepts
  case answers db hf hh hv hw       => exact h.writes hw
  case provides ht hl hn hu hp      => exact h.provides ht hl hn hu hp
  case overrun node' ht hl hv ho    => exact h.overrun ht hl ho
  case fails                        => exact h.panics _
  case exits hc                     => exact h.exits hc
  case cleansUp node' m hl hc hn    => exact h.cleansUp hl hc hn
  case background db hw             => exact h.writes hw
  case loses                        => exact h.loopEnds
  case sendFails                    => exact h.loopEnds
  case dropsReply                   => exact h.loopEnds
  case storeFails                   => exact h.loopEnds
  case stops                        => exact h.loopEnds
  case refuses                      => exact h
  case opensNothing                 => exact h
  case sendsStream                  => exact h
  case restarts                     => exact .start h.own
  case waits   => exact h.of_node rfl ⟨rfl, rfl⟩ (fun _ => id) fun _ => id
  case resumes => exact h.of_node rfl ⟨rfl, rfl⟩ (fun _ => id) fun _ => id
  case streamFails => exact h.of_node rfl ⟨rfl, rfl⟩ (fun _ => id) nofun
  case closes      => exact h.of_node rfl ⟨rfl, rfl⟩ (fun _ => id) nofun
  case sends job hl =>
    exact h.of_node rfl ⟨rfl, rfl⟩ (fun _ hj => by rwa [hl]) fun _ => id
  case replies job reply hl =>
    exact h.of_node rfl ⟨rfl, rfl⟩ (fun _ hj => by rwa [hl]) fun _ => id
  case finds offer _ hl hf hp =>
    exact { h with job := fun _ hj => Option.some.inj hj ▸ ⟨hf, hp⟩ }
  case opens offer hf =>
    have hs := ProviderState.isSome_of_held (ProviderState.held_of_findOffer hf)
    exact { h with stream := fun _ ho => Option.some.inj ho ▸ hs }
  case stores job reply db hl hc =>
    have hw : s.node.db.Writes ext self db :=
      .of_snapshots (.createJobRequest hc) (handleCreateJobRequest_offerSnapshots hc)
    exact (h.writes hw).of_node rfl ⟨rfl, rfl⟩
      (fun _ hj => by simp [NodeLoop.job?] at hj) fun _ => id

end Tracked

theorem tracked_start (self : PeerId) (now : DateTime) : (start ∅ now).Tracked self :=
  .start .of_empty

theorem tracked_step (h : s.Tracked (ext.peerId keypair)) (hs : step ext keypair s l s') :
    s'.Tracked (ext.peerId keypair) :=
  h.step <| effect h.registered h.own hs

end Server
end Derouter
