import Derouter.Db.Queries
import Derouter.P2p.HeartbeatLog

open Sql Transition

namespace Derouter

-- The two columns that are read as if they could not be `NULL` hold times.
structure PeerRow.Heard (r : PeerRow) : Prop where
  ourProviderUpdatedAt        : r.ourProviderUpdatedAt.isSome = true
  ourLatestHeartbeatTimestamp : r.ourLatestHeartbeatTimestamp.isSome = true

-- Whatever peers are asked for, the query returns one record for each of them that has a row.
def Database.ReadsPeers (db : Database) : Prop :=
  ∀ plan ids, ∃ records, queryProvidersByPeerId plan db ids = some records ∧
    (records.map (·.peerId)).Nodup ∧
    ∀ peerId, peerId ∈ records.map (·.peerId) ↔ peerId ∈ ids ∧ db.HasPeer peerId

variable {plan : Plan (Rowid × OfferSnapshotRow)} {visits : List Rowid} {now : DateTime}
variable {db db' : Database} {source : PeerId} {heartbeat : Heartbeat}

theorem PeerRow.record_isSome_iff {r : PeerRow} : r.record.isSome = true ↔ r.Heard := by
  rw [← Option.ne_none_iff_isSome, ne_eq, record_eq_none_iff, not_or, ← ne_eq, ← ne_eq,
    Option.ne_none_iff_isSome, Option.ne_none_iff_isSome]
  exact ⟨fun ⟨hu, hh⟩ => ⟨hu, hh⟩, fun ⟨hu, hh⟩ => ⟨hu, hh⟩⟩

theorem PeerRow.record_peerId {r : PeerRow} (h : r.record = some provider) :
    provider.peerId = r.peerId := by
  simp only [PeerRow.record] at h
  split at h
  case h_1 => exact (Option.some.inj h) ▸ rfl
  case h_2 => contradiction

theorem Database.readsPeers_iff :
    db.ReadsPeers ↔ ∀ i r, db.peers.get? i = some r → r.Heard := by
  constructor
  case mp =>
    intro h i r hr
    obtain ⟨records, hq, _⟩ := h .scan [r.peerId]
    have hn : queryProvidersByPeerId .scan db [r.peerId] ≠ none := by simp [hq]
    rw [ne_eq, queryProvidersByPeerId_eq_none_iff] at hn
    refine PeerRow.record_isSome_iff.mp <| Option.ne_none_iff_isSome.mp fun he => hn ?_
    exact ⟨i, r, hr, List.mem_singleton_self _, PeerRow.record_eq_none_iff.mp he⟩
  case mpr =>
    intro h plan ids
    cases hq : queryProvidersByPeerId plan db ids
    case none =>
      obtain ⟨i, r, hr, _, hn⟩ := queryProvidersByPeerId_eq_none_iff.mp hq
      have hs := PeerRow.record_isSome_iff.mpr <| h i r hr
      simp [PeerRow.record_eq_none_iff.mpr hn] at hs
    case some records =>
      have hm := Loop.map_mapM (p := (·.peerId)) (q := (·.2.peerId))
        (fun _ _ => PeerRow.record_peerId) hq
      have hp := (plan.perm <| db.peers.select fun _ r => decide (r.peerId ∈ ids)).map
        fun r => r.2.peerId
      refine ⟨records, rfl, ?_, fun peerId => ?_⟩
      · rw [hm]
        exact hp.nodup_iff.mpr <| db.peers.nodup_select fun r => List.mem_singleton_self _
      · rw [hm, hp.mem_iff, List.mem_map]
        simp only [Prod.exists, Table.mem_select, decide_eq_true_eq, hasPeer_iff]
        constructor
        case mp =>
          rintro ⟨i, r, ⟨hr, hi⟩, rfl⟩
          exact ⟨hi, i, r, hr, rfl⟩
        case mpr =>
          rintro ⟨hi, i, r, hr, rfl⟩
          exact ⟨i, r, ⟨hr, hi⟩, rfl⟩

-- Every row of the peers has been heard of.
def Database.AllHeard (db : Database) : Prop :=
  ∀ i r, db.peers.get? i = some r → r.Heard

namespace Database.AllHeard

theorem congr (h : db.AllHeard) (hp : db'.peers.toTable = db.peers.toTable) : db'.AllHeard :=
  fun i r hr => h i r (hp ▸ hr)

theorem updatePeer {f : PeerRow → PeerRow} {hf : ∀ p, (f p).peerId = p.peerId} (h : db.AllHeard)
    (hh : ∀ p, p.Heard → (f p).Heard) : (db.updatePeer source f hf).AllHeard := by
  intro i r hr
  rw [updatePeer_peers, Option.map_eq_some_iff] at hr
  obtain ⟨p, hp, rfl⟩ := hr
  split
  case isTrue  => exact hh p (h i p hp)
  case isFalse => exact h i p hp

theorem insertPeer? (h : db.AllHeard) (hp : p.Heard) (hi : db.insertPeer? p = some db') :
    db'.AllHeard := by
  intro i r hr
  rw [insertPeer?_peers hi] at hr
  rcases Table.get?_insert_cases hr with ⟨_, rfl⟩ | hr
  case inl => exact hp
  case inr => exact h i r hr

theorem handleHeartbeat (h : db.AllHeard)
    (hh : Derouter.handleHeartbeat plan visits now db source heartbeat = some (.ok (events, db'))) :
    db'.AllHeard := by
  simp only [Derouter.handleHeartbeat] at hh
  split at hh
  case h_1 peer hp =>
    split at hh
    case h_1 => cases hh
    case h_2 =>
      split at hh
      case h_1 => exact (Prod.mk.inj <| Except.ok.inj <| Option.some.inj hh).2 ▸ h
      case h_2 details hd =>
        split at hh
        case h_1 => cases hh
        case h_2 =>
          obtain ⟨_, rfl⟩ := Prod.mk.inj <| Except.ok.inj <| Option.some.inj hh
          exact h.updatePeer fun p hp => ⟨hp.ourProviderUpdatedAt, rfl⟩
        case h_3 =>
          split at hh
          case h_1 => contradiction
          case h_2 hr =>
            obtain ⟨_, rfl⟩ := Prod.mk.inj <| Except.ok.inj <| Option.some.inj hh
            have hu : ∀ p : PeerRow, (p.updated now details heartbeat.timestamp).Heard :=
              fun _ => ⟨rfl, rfl⟩
            have hp := congrArg (·.toTable) (OfferChanges.replace_peers hr)
            exact congr (h.updatePeer fun p _ => hu p) hp
  case h_2 hp =>
    split at hh
    case h_1 => exact (Prod.mk.inj <| Except.ok.inj <| Option.some.inj hh).2 ▸ h
    case h_2 details hd =>
      split at hh
      case h_1 => contradiction
      case h_2 db₁ hi =>
        split at hh
        case h_1 => contradiction
        case h_2 hf =>
          obtain ⟨_, rfl⟩ := Prod.mk.inj <| Except.ok.inj <| Option.some.inj hh
          have hp := OfferChanges.foldlM_peers hf fun _ _ _ => OfferChanges.upsert_peers
          exact congr (h.insertPeer? ⟨rfl, rfl⟩ hi) <| congrArg (·.toTable) hp

theorem receiveHeartbeat (h : db.AllHeard) :
    (Derouter.receiveHeartbeat plan visits now db source heartbeat).2.AllHeard := by
  simp only [Derouter.receiveHeartbeat]
  split
  case h_1 hr => exact h.handleHeartbeat hr
  case h_2    => exact h

end Database.AllHeard

theorem Database.AllHeard.upsert_iff (h : db.AllHeard)
    (hu : upsert plan db peerId o q l = some (i, db')) : db'.AllHeard ↔ db.HasPeer peerId := by
  have hp := (upsertSnapshot?_cases hu).2.1
  by_cases hh : db.HasPeer peerId
  case pos =>
    rw [ensurePeer_of_hasPeer hh] at hp
    exact iff_of_true (h.congr <| congrArg _ hp) hh
  case neg =>
    refine iff_of_false (fun hn => ?_) hh
    have hr : db'.peers.get? db.peers.nextRowid = some { peerId } := by
      rw [hp, ensurePeer_peers hh, Table.get?_insert, if_pos rfl]
    exact absurd (hn _ _ hr).ourProviderUpdatedAt (by simp)

theorem upsert_of_not_hasPeer (h : ¬db.HasPeer peerId) :
    ∃ i db', upsert plan db peerId o q l = some (i, db') := by
  refine Database.upsertSnapshot?_of_new Database.hasPeer_ensurePeer fun j b hb hs => h ?_
  rw [Database.ensurePeer_offerSnapshots] at hb
  obtain ⟨k, p, hp, he⟩ := db.snapshotPeer hb
  exact Database.hasPeer_iff.mpr ⟨k, p, hp, he.trans hs.1⟩

namespace HeartbeatLog

-- An upsert that is for a peer that a heartbeat has already stored.
def Label.ForStoredPeer (s : HeartbeatLog) : Label → Prop
  | .upsert _ providerPeerId _ _ _ => s.db.HasPeer providerPeerId
  | .handle _ _ _ _ _              => True

theorem next_allHeard_iff {s : HeartbeatLog} (h : s.db.AllHeard) (l : Label) :
    (s.next l).db.AllHeard ↔ l.ForStoredPeer s := by
  cases l
  case handle plan visits now source heartbeat => exact iff_of_true h.receiveHeartbeat trivial
  case upsert plan p o q l =>
    simp only [next, Label.ForStoredPeer]
    split
    case h_1 hu => exact h.upsert_iff hu
    case h_2 hu =>
      refine iff_of_true h <| not_not.mp fun hn => ?_
      obtain ⟨i, db', hu'⟩ : ∃ i db', upsert plan s.db p o q l = some (i, db') :=
        upsert_of_not_hasPeer hn
      simp [hu] at hu'

-- The peers stay readable exactly as long as offers are only upserted for stored peers.
theorem readsPeers_iff_forStoredPeer {tr : List (HeartbeatLog × Label)} {s : HeartbeatLog}
    (r : Run step { db := ∅ } tr s) :
    Run.Always (·.db.ReadsPeers) tr s ↔ Meets (fun s l => l.ForStoredPeer s) tr := by
  refine r.always_iff_meets (I := fun _ => True) trivial ?_ (fun _ _ _ _ _ => trivial) ?_
  · exact Database.readsPeers_iff.mpr fun i r hr => nomatch hr
  · intro s l s' _ h hs
    obtain rfl := Option.some.inj hs
    rw [Database.readsPeers_iff] at h ⊢
    exact next_allHeard_iff h l

private def heardOf : Heartbeat where
  provider  := some { name := none, teaser := none, description := none, offers := ∅, updatedAt := 1 }
  timestamp := 1

-- The peer 1 is heard of before an offer of its is stored.
theorem readsPeers_iff_forStoredPeer_sample : ∃ tr s, Run step { db := ∅ } tr s ∧
    s.db.HasPeer ⟨[1]⟩ ∧ Run.Always (·.db.ReadsPeers) tr s := by
  have r : Run step { db := ∅ } _ _ :=
    .cons (l := .handle .scan [] 0 ⟨[1]⟩ heardOf) rfl <|
      .cons (l := .upsert .scan ⟨[1]⟩ "offer" "protocol" "payload") rfl .nil
  have hp : (next { db := ∅ } (.handle .scan [] 0 ⟨[1]⟩ heardOf)).db.HasPeer ⟨[1]⟩ := by
    decide +kernel
  have hp' : (next (next { db := ∅ } (.handle .scan [] 0 ⟨[1]⟩ heardOf))
      (.upsert .scan ⟨[1]⟩ "offer" "protocol" "payload")).db.HasPeer ⟨[1]⟩ := by
    decide +kernel
  refine ⟨_, _, r, hp', (readsPeers_iff_forStoredPeer r).mpr ?_⟩
  exact List.forall_mem_cons.mpr ⟨trivial, List.forall_mem_singleton.mpr hp⟩

-- A node provides an offer, and its own peer is asked for.
theorem not_readsPeers : ¬∀ (tr : List (HeartbeatLog × Label)) (s : HeartbeatLog),
    Run step { db := ∅ } tr s → s.db.ReadsPeers := by
  intro h
  have hr := h _ _ <| .cons (l := .upsert .scan ⟨[1]⟩ "offer" "protocol" "payload") rfl .nil
  obtain ⟨records, hq, _⟩ := hr .scan [⟨[1]⟩]
  have hn : queryProvidersByPeerId .scan
      (next { db := ∅ } (.upsert .scan ⟨[1]⟩ "offer" "protocol" "payload")).db [⟨[1]⟩] = none := by
    decide +kernel
  exact nomatch hn.symm.trans hq

end HeartbeatLog
end Derouter
