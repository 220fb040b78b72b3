import Derouter.Db.Theorems.Offers
import Derouter.Lib.Loop
import Derouter.P2p.Heartbeat

open Sql

namespace Derouter

-- The offers of a provider that a database holds active snapshots of are the given ones.
def Database.Mirrors (db : Database) (source : PeerId) (offers : OfferMap ProviderOffer) : Prop :=
  ∀ p o l, db.Offers source p o l ↔ offers.get? p o = some ⟨l⟩

theorem Database.Mirrors.congr {db db' : Database} (h : db.Mirrors source offers)
    (hs : db'.offerSnapshots = db.offerSnapshots) : db'.Mirrors source offers := by
  intro p o l
  rw [← h p o l, Offers, Offers, hs]

theorem Database.Mirrors.unique {db : Database} (h : db.Mirrors source offers)
    (h' : db.Mirrors source offers') (p o : String) : offers.get? p o = offers'.get? p o := by
  apply Option.ext
  intro a
  exact (h p o a.protocolPayload).symm.trans (h' p o a.protocolPayload)

theorem Database.covers_rowids (db : Database) (source : PeerId) :
    db.Covers source (db.offerSnapshots.rows.map (·.1)) :=
  fun _ _ _ _ h => List.mem_map_of_mem (f := (·.1)) <| Table.mem_rows_iff.mpr h

namespace OfferChanges

variable {plan : Plan (Rowid × OfferSnapshotRow)} {source : PeerId} {db : Database}
variable {offers : OfferMap ProviderOffer} {changes changes' : OfferChanges}

theorem upsert_some (h : upsert plan source target p o l changes = some changes') :
    ∃ i, changes.db.upsertSnapshot? plan target (.provided source p o l) = some (i, changes'.db) := by
  simp only [upsert] at h
  split at h
  case h_1 => contradiction
  case h_2 i db hu =>
    obtain rfl := Option.some.inj h
    exact ⟨i, hu⟩

theorem upsert_peers (h : upsert plan source target p o l changes = some changes') :
    changes'.db.peers = changes.db.peers :=
  have ⟨_, hu⟩ := upsert_some h
  Database.upsertSnapshot?_cases hu |>.2.1

-- What the body of a loop over incoming offers has to do for the loop to write all of them.
def Writes (source : PeerId) (changes : OfferChanges) (p o : String) (a : ProviderOffer)
    (changes' : OfferChanges) : Prop :=
  ∀ p' o' l', changes'.db.Offers source p' o' l' ↔
    changes.db.Offers source p' o' l' ∨ (p' = p ∧ o' = o ∧ l' = a.protocolPayload)

-- The invariant is that nothing but incoming offers is active, and that an incoming offer is active
-- or still to come.
theorem mirrors_of_writes {f : OfferChanges → String × String × ProviderOffer → Option OfferChanges}
    (h : offers.toList.foldlM f changes = some changes')
    (hg : ∀ p o l, changes.db.Offers source p o l → offers.get? p o = some ⟨l⟩)
    (hf : ∀ p o a c c', (∀ l, c.db.Offers source p o l → l = a.protocolPayload) →
      f c (p, o, a) = some c' → Writes source c p o a c') :
    changes'.db.Mirrors source offers := by
  have hi := Loop.invariant (I := fun rest c =>
    (∀ e ∈ rest, e ∈ offers.toList) ∧
    (∀ p o l, c.db.Offers source p o l → offers.get? p o = some ⟨l⟩) ∧
    (∀ p o a, offers.get? p o = some a →
      (p, o, a) ∈ rest ∨ c.db.Offers source p o a.protocolPayload)) h ?start ?step
  case start =>
    exact ⟨fun _ => id, hg, fun p o a ha => .inl <| OfferMap.mem_toList_iff.mpr ha⟩
  case step =>
    intro (p, o, a) rest c c' ⟨hr, hg, ha⟩ hc
    have hp : offers.get? p o = some a := OfferMap.mem_toList_iff.mp <| hr _ List.mem_cons_self
    have hw := hf p o a c c' (fun l hl => by
      have := hg p o l hl
      rw [hp] at this
      exact congrArg (·.protocolPayload) (Option.some.inj this).symm) hc
    refine ⟨fun e he => hr e (List.mem_cons_of_mem _ he), fun p' o' l' hl => ?_, fun p' o' a' h' => ?_⟩
    · cases (hw p' o' l').mp hl
      case inl hl => exact hg p' o' l' hl
      case inr he =>
        have ⟨h₁, h₂, h₃⟩ := he
        rw [h₁, h₂, h₃, hp]
    · cases ha p' o' a' h'
      case inr hl => exact .inr <| (hw ..).mpr <| .inl hl
      case inl hm =>
        cases List.mem_cons.mp hm
        case inr hm => exact .inl hm
        case inl he =>
          have ⟨h₁, h₂⟩ := Prod.mk.inj he
          have ⟨h₂, h₃⟩ := Prod.mk.inj h₂
          exact .inr <| (hw ..).mpr <| .inr ⟨h₁, h₂, by rw [h₃]⟩
  have ⟨_, hg, ha⟩ := hi
  refine fun p o l => ⟨hg p o l, fun hl => ?_⟩
  cases ha p o ⟨l⟩ hl
  case inl hm => exact absurd hm List.not_mem_nil
  case inr hl => exact hl

theorem any_active_iff : (db.offerSnapshots.rows.any fun r =>
    decide (r.2.providerPeerId = source) && r.2.protocolId == p && r.2.offerId == o && r.2.active) =
      true ↔ ∃ l, db.Offers source p o l := by
  simp only [List.any_eq_true, Bool.and_eq_true, decide_eq_true_eq, beq_iff_eq, Prod.exists,
    Table.mem_rows_iff]
  constructor
  case mp =>
    rintro ⟨i, s, hs, ⟨⟨h₁, h₂⟩, h₃⟩, h₄⟩
    refine ⟨s.protocolPayload, i, ?_⟩
    rw [hs, ← h₁, ← h₂, ← h₃, OfferSnapshotRow.provided, ← h₄]
  case mpr =>
    rintro ⟨l, i, hs⟩
    exact ⟨i, _, hs, ⟨⟨rfl, rfl⟩, rfl⟩, rfl⟩

theorem ensure_writes (hl : ∀ l, changes.db.Offers source p o l → l = a.protocolPayload)
    (h : ensure plan source changes (p, o, a) = some changes') :
    Writes source changes p o a changes' := by
  simp only [ensure] at h
  split at h
  case isTrue ha =>
    obtain rfl := Option.some.inj h
    have ⟨l, ho⟩ := any_active_iff.mp ha
    refine fun p' o' l' => ⟨.inl, fun h => ?_⟩
    cases h
    case inl h => exact h
    case inr h =>
      have ⟨h₁, h₂, h₃⟩ := h
      rwa [h₁, h₂, h₃, ← hl l ho]
  case isFalse ha =>
    have ⟨i, hu⟩ := upsert_some h
    refine fun p' o' l' => Database.upsertSnapshot?_offers hu fun j b hb ⟨k, hk, _, hk'⟩ => ?_
    -- No other payload is active, as nothing of this offer is.
    refine Database.activate_of_not_otherActive rfl ?_ hb ⟨k, hk', hk⟩
    rintro ⟨j, s, hs, he, hs', _⟩
    exact ha <| any_active_iff.mpr ⟨_, .of_active hs he hs'⟩

theorem insert_writes (h : insert plan source changes (p, o, a) = some changes') :
    Writes source changes p o a changes' := by
  simp only [insert] at h
  have ⟨i, hu⟩ := upsert_some h
  exact fun p' o' l' => Database.upsertSnapshot?_offers hu fun _ _ _ ⟨_, _, h, _⟩ => nomatch h

theorem visit_offers (h : visit plan source offers changes i = some changes') {j : Rowid}
    (hj : changes'.db.offerSnapshots.get? j = some (.provided source p o l)) :
    offers.get? p o = some ⟨l⟩ ∨
      (j ≠ i ∧ changes.db.offerSnapshots.get? j = some (.provided source p o l)) := by
  by_cases hg : offers.get? p o = some ⟨l⟩
  case pos => exact .inl hg
  refine .inr ?_
  simp only [visit] at h
  split at h
  case h_1 hn =>
    obtain rfl := Option.some.inj h
    exact ⟨fun hji => by simp [hji, hn] at hj, hj⟩
  case h_2 row hrow =>
    split at h
    case isFalse hr =>
      obtain rfl := Option.some.inj h
      refine ⟨fun hji => hr ?_, hj⟩
      rw [hji, hrow] at hj
      exact Option.some.inj hj ▸ ⟨rfl, rfl⟩
    case isTrue hr =>
      have he : row = .provided source row.protocolId row.offerId row.protocolPayload := by
        rw [OfferSnapshotRow.provided, ← hr.1, ← hr.2]
      split at h
      case h_2 =>
        obtain rfl := Option.some.inj h
        exact Database.provided_of_deactivateSnapshot hj
      case h_1 incoming hin =>
        split at h
        case isTrue hl =>
          obtain rfl := Option.some.inj h
          refine ⟨fun hji => hg ?_, hj⟩
          rw [hji, hrow, he] at hj
          simp only [OfferSnapshotRow.provided, Option.some.injEq, OfferSnapshotRow.mk.injEq] at hj
          obtain ⟨_, h₁, h₂, h₃, _⟩ := hj
          rw [← h₁, ← h₂, ← h₃, hin, ← hl]
        case isFalse =>
          obtain ⟨k, hu⟩ := upsert_some h
          have hk := Database.upsertSnapshot?_rows hu
            (fun _ _ _ => Database.activate_of_protocolPayload rfl) j
          rw [hj] at hk
          split at hk
          case isFalse => exact Database.provided_of_deactivateSnapshot hk.symm
          case isTrue =>
            simp only [OfferSnapshotRow.provided, Option.some.injEq, OfferSnapshotRow.mk.injEq] at hk
            obtain ⟨_, h₁, h₂, h₃, _⟩ := hk
            exact absurd (by rw [h₁, h₂, h₃, hin]) hg

theorem visit_peers (h : visit plan source offers changes i = some changes') :
    changes'.db.peers = changes.db.peers := by
  simp only [visit] at h
  split at h
  case h_1 => exact Option.some.inj h ▸ rfl
  case h_2 =>
    split at h
    case isFalse => exact Option.some.inj h ▸ rfl
    case isTrue =>
      split at h
      case h_2 => exact Option.some.inj h ▸ rfl
      case h_1 =>
        split at h
        case isTrue  => exact Option.some.inj h ▸ rfl
        case isFalse =>
          have hp : changes'.db.peers = (changes.deactivate i).db.peers := upsert_peers h
          exact hp

theorem ensure_peers (h : ensure plan source changes e = some changes') :
    changes'.db.peers = changes.db.peers := by
  simp only [ensure] at h
  split at h
  case isTrue  => exact Option.some.inj h ▸ rfl
  case isFalse => exact upsert_peers h

theorem foldlM_peers {f : OfferChanges → α → Option OfferChanges} {l : List α}
    (h : l.foldlM f changes = some changes')
    (hf : ∀ a c c', f c a = some c' → c'.db.peers = c.db.peers) :
    changes'.db.peers = changes.db.peers :=
  Loop.invariant (I := fun _ c => c.db.peers = changes.db.peers) h rfl
    fun a _ c c' hi hc => (hf a c c' hc).trans hi

theorem replace_peers (h : replace plan source visits offers db = some changes) :
    changes.db.peers = db.peers := by
  simp only [replace] at h
  split at h
  case h_1 => contradiction
  case h_2 hv =>
    have h₁ := foldlM_peers hv fun _ _ _ => visit_peers
    have h₂ := foldlM_peers h fun _ _ _ => ensure_peers
    exact h₂.trans h₁

theorem replace_mirrors (h : replace plan source visits offers db = some changes)
    (hv : db.Covers source visits) : changes.db.Mirrors source offers := by
  simp only [replace] at h
  split at h
  case h_1 => contradiction
  case h_2 hl =>
    have hi := Loop.invariant (I := fun rest c => ∀ i p o l,
      c.db.offerSnapshots.get? i = some (.provided source p o l) →
        offers.get? p o = some ⟨l⟩ ∨ i ∈ rest) hl ?start ?step
    case start => exact fun i p o l hi => .inr <| hv i p o l hi
    case step =>
      intro i rest c c' hc h j p o l hj
      cases visit_offers h hj
      case inl hg => exact .inl hg
      case inr hj =>
        cases hc j p o l hj.2
        case inl hg => exact .inl hg
        case inr hm => exact .inr <| List.mem_of_ne_of_mem hj.1 hm
    refine mirrors_of_writes h (fun p o l ⟨i, ho⟩ => ?_) fun _ _ _ _ _ => ensure_writes
    cases hi i p o l ho
    case inl hg => exact hg
    case inr hm => exact absurd hm List.not_mem_nil

end OfferChanges

-- A receiver turns down a heartbeat that is not newer than the latest one, or whose provider data is
-- older than the stored one.
def Database.Outdates (db : Database) (source : PeerId) (heartbeat : Heartbeat) : Prop :=
  ∃ peer, db.peer? source = some peer ∧
    ((∃ stored, peer.theirLatestHeartbeatTimestamp = some stored ∧ heartbeat.timestamp ≤ stored) ∨
      ∃ details, heartbeat.provider = some details ∧
        details.updatedAt < peer.theirProviderUpdatedAt.getD .zero)

-- The two ways in which a receiver accepts provider data.
inductive Accepted (db : Database) (source : PeerId) (details : ProviderDetails) (db' : Database) :
    Prop
  -- It stores the details.
  | stored (peer : PeerRow)
      (older : ∀ p, db.peer? source = some p →
        p.theirProviderUpdatedAt.getD .zero < details.updatedAt)
      (found : db'.peer? source = some peer)
      (updatedAt : peer.theirProviderUpdatedAt = some details.updatedAt)
      (mirrors : db'.Mirrors source details.offers)
  -- It takes the details for the stored ones.
  | equal (peer peer' : PeerRow)
      (found : db.peer? source = some peer)
      (equal : details.updatedAt = peer.theirProviderUpdatedAt.getD .zero)
      (found' : db'.peer? source = some peer')
      (updatedAt : peer'.theirProviderUpdatedAt = peer.theirProviderUpdatedAt)
      (offers : db'.offerSnapshots = db.offerSnapshots)

variable {plan : Plan (Rowid × OfferSnapshotRow)} {db db' : Database} {source : PeerId}
variable {heartbeat : Heartbeat} {details : ProviderDetails}

theorem handleHeartbeat_accepted
    (h : handleHeartbeat plan visits now db source heartbeat = some (.ok (events, db')))
    (hd : heartbeat.provider = some details) (hv : db.Covers source visits) :
    Accepted db source details db' := by
  simp only [handleHeartbeat, hd] at h
  split at h
  case h_1 peer hp =>
    split at h
    case h_1 => simp at h
    case h_2 =>
      split at h
      case h_1 => simp at h
      case h_2 hc =>
        have he := Int.compare_eq_eq.mp hc
        have ⟨_, h⟩ := Prod.mk.inj <| Except.ok.inj <| Option.some.inj h
        subst h
        refine .equal peer (peer.heard now heartbeat.timestamp) hp he ?_ rfl
          Database.updatePeer_offerSnapshots
        rw [Database.peer?_updatePeer, hp, Option.map_some]
      case h_3 hc =>
        have hlt := Int.compare_eq_gt.mp hc
        split at h
        case h_1 => contradiction
        case h_2 changes hr =>
          have ⟨_, h⟩ := Prod.mk.inj <| Except.ok.inj <| Option.some.inj h
          subst h
          refine .stored (peer.updated now details heartbeat.timestamp) ?_ ?_ rfl ?_
          · intro p hp'
            rw [hp] at hp'
            exact Option.some.inj hp' ▸ hlt
          · rw [Database.peer?_congr (OfferChanges.replace_peers hr), Database.peer?_updatePeer, hp,
              Option.map_some]
          · refine OfferChanges.replace_mirrors hr fun i p o l hi => hv i p o l ?_
            rwa [Database.updatePeer_offerSnapshots] at hi
  case h_2 hp =>
    split at h
    case h_1 => contradiction
    case h_2 db₁ hi =>
      split at h
      case h_1 => contradiction
      case h_2 changes hf =>
        have ⟨_, h⟩ := Prod.mk.inj <| Except.ok.inj <| Option.some.inj h
        subst h
        refine .stored (PeerRow.updated now details heartbeat.timestamp { peerId := source })
          ?_ ?_ rfl ?_
        · intro p hp'
          rw [hp] at hp'
          contradiction
        · rw [Database.peer?_congr <| OfferChanges.foldlM_peers hf fun _ _ _ => OfferChanges.upsert_peers]
          exact Database.peer?_insertPeer? hi
        · refine OfferChanges.mirrors_of_writes hf (fun p o l ⟨i, ho⟩ => ?_)
            fun _ _ _ _ _ _ => OfferChanges.insert_writes
          -- A provider without a peer has no snapshots.
          rw [Database.insertPeer?_offerSnapshots hi] at ho
          have ⟨j, q, hq, he⟩ := db.snapshotPeer ho
          exact absurd he <| Database.peer?_eq_none_iff.mp hp j q hq

theorem not_outdates_of_handleHeartbeat
    (h : handleHeartbeat plan visits now db source heartbeat = some (.ok (events, db'))) :
    ¬db.Outdates source heartbeat := by
  intro ⟨peer, hp, ho⟩
  simp only [handleHeartbeat, hp] at h
  cases ho
  case inl ho =>
    have ⟨stored, hs, hle⟩ := ho
    simp [hs, Option.filter_some, hle] at h
  case inr ho =>
    have ⟨details, hd, hlt⟩ := ho
    split at h
    case h_1 => simp at h
    case h_2 => simp [hd, Int.compare_eq_lt.mpr hlt] at h

theorem handleHeartbeat_ignored (hd : heartbeat.provider = none)
    (h : handleHeartbeat plan visits now db source heartbeat = some (.ok (events, db'))) : db' = db := by
  simp only [handleHeartbeat, hd] at h
  split at h
  case h_1 =>
    split at h
    case h_1 => simp at h
    case h_2 => exact (Prod.mk.inj <| Except.ok.inj <| Option.some.inj h).2.symm
  case h_2 => exact (Prod.mk.inj <| Except.ok.inj <| Option.some.inj h).2.symm

-- Provider data as old as the stored one is accepted, and its offers are not looked at.
theorem handleHeartbeat_of_equal (hd : heartbeat.provider = some details)
    (ho : ¬db.Outdates source heartbeat) (hp : db.peer? source = some peer)
    (he : details.updatedAt = peer.theirProviderUpdatedAt.getD .zero) :
    ∃ events db', handleHeartbeat plan visits now db source heartbeat = some (.ok (events, db')) := by
  have hf : peer.theirLatestHeartbeatTimestamp.filter (heartbeat.timestamp ≤ ·) = none := by
    rw [Option.filter_eq_none_iff]
    intro stored hs hle
    exact ho ⟨peer, hp, .inl ⟨stored, hs, by simpa using hle⟩⟩
  have hc := Int.compare_eq_eq.mpr he
  simp only [handleHeartbeat, hp, hf, hd, hc]
  exact ⟨_, _, rfl⟩

end Derouter
