import Derouter.Db.Theorems.Offers

open Sql

namespace Derouter
namespace Database

variable {db db' db'' : Database} {source : PeerId} {r s : OfferSnapshotRow} {i j : Rowid}

-- What the handling of a peer's message leaves alone: jobs, the rows of other peers, and what
-- identifies a row.
structure Frame (source : PeerId) (db db' : Database) : Prop where
  serviceJobs     : db'.serviceJobs = db.serviceJobs
  peersKeep       : ∀ i q, db.peers.get? i = some q →
    ∃ q', db'.peers.get? i = some q' ∧ q'.peerId = q.peerId
  peersOthers     : ∀ i q, q.peerId ≠ source →
    (db'.peers.get? i = some q ↔ db.peers.get? i = some q)
  snapshotsKeep   : ∀ i s, db.offerSnapshots.get? i = some s →
    ∃ s', db'.offerSnapshots.get? i = some s' ∧ s.SameKey s'
  snapshotsOthers : ∀ i s, s.providerPeerId ≠ source →
    (db'.offerSnapshots.get? i = some s ↔ db.offerSnapshots.get? i = some s)

namespace Frame

theorem refl : Frame source db db where
  serviceJobs     := rfl
  peersKeep       := fun _ q hq => ⟨q, hq, rfl⟩
  peersOthers     := fun _ _ _ => .rfl
  snapshotsKeep   := fun _ s hs => ⟨s, hs, .refl s⟩
  snapshotsOthers := fun _ _ _ => .rfl

theorem trans (h : Frame source db db') (h' : Frame source db' db'') : Frame source db db'' where
  serviceJobs     := h'.serviceJobs.trans h.serviceJobs
  peersOthers     := fun i q hq => (h'.peersOthers i q hq).trans (h.peersOthers i q hq)
  snapshotsOthers := fun i s hs => (h'.snapshotsOthers i s hs).trans (h.snapshotsOthers i s hs)
  peersKeep       := by
    intro i q hq
    have ⟨q', hq', he⟩ := h.peersKeep i q hq
    have ⟨q'', hq'', he'⟩ := h'.peersKeep i q' hq'
    exact ⟨q'', hq'', he'.trans he⟩
  snapshotsKeep   := by
    intro i s hs
    have ⟨s', hs', hk⟩ := h.snapshotsKeep i s hs
    have ⟨s'', hs'', hk'⟩ := h'.snapshotsKeep i s' hs'
    exact ⟨s'', hs'', hk.trans hk'⟩

theorem deactivateSnapshot (h : db.offerSnapshots.get? i = some (.provided source p o l)) :
    Frame source db (db.deactivateSnapshot i) where
  serviceJobs     := rfl
  peersKeep       := fun _ q hq => ⟨q, hq, rfl⟩
  peersOthers     := fun _ _ _ => .rfl
  snapshotsKeep   := by
    intro j s hs
    rw [deactivateSnapshot_rows, hs]
    by_cases hj : j = i
    case pos => exact ⟨s.deactivate, if_pos hj, ⟨rfl, rfl, rfl⟩, rfl⟩
    case neg => exact ⟨s, if_neg hj, .refl s⟩
  snapshotsOthers := by
    intro j s hs
    rw [deactivateSnapshot_rows]
    by_cases hj : j = i
    case neg => rw [if_neg hj]
    case pos =>
      rw [if_pos hj, hj, h, Option.map_some, Option.some.injEq, Option.some.injEq]
      exact ⟨fun he => absurd (he ▸ rfl) hs, fun he => absurd (he ▸ rfl) hs⟩

theorem upsertSnapshot? (h : db.upsertSnapshot? plan target r = some (i, db'))
    (ha : r.active = true) (hn : ¬db.OtherActive r) : Frame r.providerPeerId db db' where
  serviceJobs     := upsertSnapshot?_cases h |>.1
  peersKeep       := fun _ q hq => ⟨q, (upsertSnapshot?_cases h).2.1 ▸ hq, rfl⟩
  peersOthers     := fun _ _ _ => (upsertSnapshot?_cases h).2.1 ▸ .rfl
  snapshotsKeep   := by
    intro j s hs
    cases upsertSnapshot?_keeps h hs
    case inl hs => exact ⟨s, hs, .refl s⟩
    case inr hs => exact ⟨s.activate, hs.2, ⟨rfl, rfl, rfl⟩, rfl⟩
  snapshotsOthers := by
    intro j s hs
    rw [upsertSnapshot?_rows_of_not_otherActive h ha hn j]
    by_cases hj : j = i
    case neg => rw [if_neg hj]
    case pos =>
      rw [if_pos hj]
      refine ⟨fun he => absurd (Option.some.inj he ▸ rfl) hs, fun he => ?_⟩
      have hr := upsertSnapshot?_returns h ha hn
      cases upsertSnapshot?_keeps h he
      case inl hk =>
        rw [hj, hr] at hk
        exact absurd (Option.some.inj hk ▸ rfl) hs
      case inr hk =>
        rw [hj, hr] at hk
        have hp := congrArg (·.providerPeerId) (Option.some.inj hk.2)
        exact absurd hp.symm hs

theorem updatePeer {f : PeerRow → PeerRow} {hf : ∀ p, (f p).peerId = p.peerId} :
    Frame source db (db.updatePeer source f hf) where
  serviceJobs     := updatePeer_serviceJobs
  peersKeep       := by
    intro i q hq
    rw [updatePeer_peers, hq, Option.map_some]
    refine ⟨_, rfl, ?_⟩
    split
    case isTrue  => exact hf q
    case isFalse => rfl
  peersOthers     := by
    intro i q hq
    rw [updatePeer_peers, Option.map_eq_some_iff]
    constructor
    case mp =>
      rintro ⟨q', hq', he⟩
      split at he
      case isTrue h  => exact absurd ((he ▸ hf q').trans h) hq
      case isFalse h => rwa [← he]
    case mpr => exact fun h => ⟨q, h, if_neg hq⟩
  snapshotsKeep   := fun _ s hs => ⟨s, by rwa [updatePeer_offerSnapshots], .refl s⟩
  snapshotsOthers := fun _ _ _ => by rw [updatePeer_offerSnapshots]

theorem insertPeer? {r : PeerRow} (h : db.insertPeer? r = some db') : Frame r.peerId db db' where
  serviceJobs     := insertPeer?_serviceJobs h
  peersKeep       := fun _ q hq => ⟨q, insertPeer?_peers h ▸ Table.get?_insert_of_some hq, rfl⟩
  peersOthers     := by
    intro i q hq
    rw [insertPeer?_peers h]
    refine ⟨fun hi => ?_, Table.get?_insert_of_some⟩
    cases Table.get?_insert_cases hi
    case inl he => exact absurd (congrArg (·.peerId) he.2) hq
    case inr hi => exact hi
  snapshotsKeep   := fun _ s hs => ⟨s, by rwa [insertPeer?_offerSnapshots h], .refl s⟩
  snapshotsOthers := fun _ _ _ => by rw [insertPeer?_offerSnapshots h]

theorem peer? (h : Frame source db db') (hp : p ≠ source) : db'.peer? p = db.peer? p := by
  apply Option.ext
  intro q
  rw [peer?_eq_some_iff, peer?_eq_some_iff]
  refine and_congr_right fun he => exists_congr fun i => h.peersOthers i q ?_
  rwa [he]

end Frame
end Database
end Derouter
