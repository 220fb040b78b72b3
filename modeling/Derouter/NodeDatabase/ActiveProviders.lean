import Derouter.Db.ActiveProviders
import Derouter.Db.Theorems.Operations
import Derouter.NodeDatabase
import Derouter.P2p.Theorems.Sync

open Sql Transition

namespace Derouter

-- The database of a node, and the clock of its machine.
structure ClockedDatabase where
  db  : Database
  now : DateTime

namespace ClockedDatabase

inductive Label
  | write (op : DatabaseOp)
  | tick (nanos : Nat)

-- A heartbeat is handled at the present time.
def Enabled (s : ClockedDatabase) : Label → Prop
  | .write (.heartbeat _ _ now _ _) => now = s.now
  | _                               => True

def next (ext : External) (s : ClockedDatabase) : Label → ClockedDatabase
  | .write op   => { s with db := op.exec ext s.db }
  | .tick nanos => { s with now := s.now + nanos }

def step (ext : External) (s : ClockedDatabase) (l : Label) (s' : ClockedDatabase) : Prop :=
  s.Enabled l ∧ s' = s.next ext l

-- A heartbeat of the peer brings provider data, and nothing stored outdates it.
def Hears (s : ClockedDatabase) (peerId : PeerId) : Label → Prop
  | .write (.heartbeat _ _ _ source message) =>
    source = peerId ∧ message.provider.isSome ∧ ¬s.db.Outdates source message
  | _ => False

-- The node upserts offers of its own only.
def UpsertsOwn (ourPeerId : PeerId) (_ : ClockedDatabase) : Label → Prop
  | .write (.upsert _ providerPeerId ..) => providerPeerId = ourPeerId
  | _                                    => True

end ClockedDatabase

variable {ext : External} {db db' : Database} {source peerId : PeerId}
variable {plan : Plan (Rowid × OfferSnapshotRow)} {visits : List Rowid} {now : DateTime}
variable {message : Heartbeat} {details : ProviderDetails}

theorem Database.peer?_empty : (∅ : Database).peer? peerId = none :=
  rfl

theorem Database.peer?_ensurePeer_ne (hn : peerId ≠ source) :
    (db.ensurePeer source).peer? peerId = db.peer? peerId := by
  cases hp : db.peer? peerId
  case some => exact peer?_ensurePeer hp
  case none =>
    by_cases hs : db.HasPeer source
    case pos => rw [ensurePeer_of_hasPeer hs, hp]
    case neg =>
      refine peer?_eq_none_iff.mpr fun i p hi => ?_
      rw [ensurePeer_peers hs, Table.get?_insert] at hi
      split at hi
      case isTrue  => exact Option.some.inj hi ▸ Ne.symm hn
      case isFalse => exact peer?_eq_none_iff.mp hp i p hi

theorem JobOp.exec_peers (op : JobOp) : (op.exec ext db).1.peers = db.peers := by
  cases op <;> simp only [exec]
  case create =>
    split
    case h_1 h => exact (createJob_ok h).2.2.1
    case h_2   => rfl
  case fail =>
    split
    case h_2 => rfl
    case h_1 h =>
      obtain ⟨_, _, _, _, rfl⟩ := failJob_ok h
      rfl
  case setConfirmationError i error =>
    rcases setJobConfirmationError_cases db i error with ⟨e, _, h⟩ | ⟨_, _, _, h⟩
    case inl => cases e <;> rw [h]
    case inr => exact h ▸ rfl
  case providerComplete =>
    split
    case h_2 => rfl
    case h_1 h =>
      obtain ⟨_, _, _, _, _, _, rfl⟩ := providerCompleteJob_ok h
      rfl
  case providerConfirm =>
    split
    case h_2 => rfl
    case h_1 h =>
      obtain ⟨_, _, _, _, _, _, _, _, _, rfl⟩ := providerConfirmJob_ok h
      rfl
  case consumerComplete =>
    split
    case h_2 => rfl
    case h_1 h =>
      obtain ⟨_, _, _, _, _, _, _, _, _, _, _, rfl⟩ := consumerCompleteJob_ok h
      rfl
  case consumerConfirm =>
    split
    case h_2 => rfl
    case h_1 h =>
      obtain ⟨_, _, _, _, _, rfl⟩ := consumerConfirmJob_ok h
      rfl

theorem handleHeartbeat_peer?
    (h : handleHeartbeat plan visits now db source message = some (.ok (events, db')))
    (hd : message.provider = some details) :
    (∃ r, db.peer? source = some r ∧
        db'.peer? source = some (r.heard now message.timestamp)) ∨
      ∃ r, db'.peer? source = some (PeerRow.updated now details message.timestamp r) := by
  simp only [handleHeartbeat, hd] at h
  split at h
  case h_1 r hr =>
    split at h
    case h_1 => simp at h
    case h_2 =>
      split at h
      case h_1 => simp at h
      case h_2 =>
        obtain ⟨-, rfl⟩ := Prod.mk.inj <| Except.ok.inj <| Option.some.inj h
        exact .inl ⟨r, hr, by rw [Database.peer?_updatePeer, hr]; rfl⟩
      case h_3 =>
        split at h
        case h_1 => contradiction
        case h_2 changes hc =>
          obtain ⟨-, rfl⟩ := Prod.mk.inj <| Except.ok.inj <| Option.some.inj h
          refine .inr ⟨r, ?_⟩
          rw [Database.peer?_congr (OfferChanges.replace_peers hc), Database.peer?_updatePeer, hr]
          rfl
  case h_2 =>
    split at h
    case h_1 => contradiction
    case h_2 db₁ hi =>
      split at h
      case h_1 => contradiction
      case h_2 changes hc =>
        obtain ⟨-, rfl⟩ := Prod.mk.inj <| Except.ok.inj <| Option.some.inj h
        have hp := OfferChanges.foldlM_peers hc fun _ _ _ => OfferChanges.upsert_peers
        exact .inr ⟨{ peerId := source }, (Database.peer?_congr hp).trans (Database.peer?_insertPeer? hi)⟩

namespace ClockedDatabase

-- What a step can do to the row of another peer.
inductive Rewrites (s : ClockedDatabase) (peerId : PeerId) (l : Label) : Option PeerRow → Prop
  | kept (h : ¬s.Hears peerId l) : Rewrites s peerId l (s.db.peer? peerId)
  | heard (h : s.Hears peerId l) (hr : s.db.peer? peerId = some r) (timestamp : DateTime) :
    Rewrites s peerId l (some (r.heard s.now timestamp))
  | updated (h : s.Hears peerId l) (r : PeerRow) (details : ProviderDetails)
      (timestamp : DateTime) :
    Rewrites s peerId l (some (r.updated s.now details timestamp))

variable {s s₁ s₂ : ClockedDatabase} {l : Label} {tr : List (ClockedDatabase × Label)} {self : PeerId}

private theorem rewrites_heartbeat (ext : External) :
    s.Rewrites peerId (.write (.heartbeat plan visits s.now source message))
      (((DatabaseOp.heartbeat plan visits s.now source message).exec ext s.db).peer? peerId) := by
  obtain ⟨r, hr, hh⟩ : ∃ r, handleHeartbeat plan visits s.now s.db source message = some r ∧
      Handled s.db source message r := handleHeartbeat_handled
  simp only [DatabaseOp.exec, hr]
  cases hh
  case outdated h => exact .kept fun ⟨_, _, hn⟩ => hn h
  case ignored h  => exact .kept fun ⟨_, hs, _⟩ => by simp [h] at hs
  case stored details events db' hd hs =>
    by_cases hp : source = peerId
    case neg =>
      rw [show db'.peer? peerId = s.db.peer? peerId from hs.frame.peer? (Ne.symm hp)]
      exact .kept fun ⟨he, _⟩ => hp he
    case pos =>
      subst hp
      have hh : s.Hears source (.write (.heartbeat plan visits s.now source message)) :=
        ⟨rfl, by rw [hd]; rfl, hs.newer⟩
      rcases handleHeartbeat_peer? hr hd with ⟨r, hr, hn⟩ | ⟨r, hn⟩
      case inl => exact hn ▸ .heard hh hr _
      case inr => exact hn ▸ .updated hh r details _

theorem rewrites_of_step (hn : peerId ≠ self) (ho : s.UpsertsOwn self l) (h : step ext s l s₂) :
    s.Rewrites peerId l (s₂.db.peer? peerId) := by
  obtain ⟨he, rfl⟩ := h
  cases l
  case tick => exact .kept (by simp [Hears])
  case write op =>
    cases op
    case job op =>
      have hp : (op.exec ext s.db).1.peer? peerId = s.db.peer? peerId :=
        Database.peer?_congr op.exec_peers
      exact hp ▸ .kept (by simp [Hears])
    case upsert plan p o q text =>
      obtain rfl : p = self := ho
      simp only [next, DatabaseOp.exec]
      split
      case h_2 => exact .kept (by simp [Hears])
      case h_1 h =>
        rw [Database.peer?_congr (Database.upsertSnapshot?_cases h).2.1,
          Database.peer?_ensurePeer_ne hn]
        exact .kept (by simp [Hears])
    case heartbeat =>
      obtain rfl : _ = s.now := he
      exact rewrites_heartbeat ext

-- Only what a peer has sent is stored of another peer, and no other peer was heard of before the start
-- or after the present.
structure Sound (ourPeerId : PeerId) (t₀ : DateTime) (s : ClockedDatabase) : Prop where
  paired : ∀ peerId r, peerId ≠ ourPeerId → s.db.peer? peerId = some r →
    r.ourProviderUpdatedAt.isSome
  heard  : ∀ peerId t, peerId ≠ ourPeerId → s.db.heardAt peerId = some t →
    t₀.timestamp ≤ t.timestamp ∧ t.timestamp ≤ s.now.timestamp
  start  : t₀.timestamp ≤ s.now.timestamp

variable {t₀ : DateTime}

theorem Sound.init : Sound self t₀ { db := ∅, now := t₀ } where
  paired := by simp [Database.peer?_empty]
  heard  := by simp [Database.heardAt, Database.peer?_empty]
  start  := le_refl _

theorem timestamp_currentTimestamp (t : DateTime) : t.currentTimestamp.timestamp = t.timestamp :=
  DateTime.timestamp_ofTimestamp _

theorem timestamp_mono_of_step (h : step ext s l s₂) : s.now.timestamp ≤ s₂.now.timestamp := by
  obtain ⟨-, rfl⟩ := h
  cases l
  case write => exact le_refl _
  case tick nanos =>
    have hn : (0 : Int) ≤ nanos := Int.natCast_nonneg nanos
    exact Int.ediv_le_ediv (by decide) (Int.le_add_of_nonneg_right hn)

theorem heardAt_of_step (hn : peerId ≠ self) (ho : s.UpsertsOwn self l) (hs : s.Sound self t₀)
    (h : step ext s l s₂) :
    (s.Hears peerId l ∧ s₂.db.heardAt peerId = some s.now.currentTimestamp) ∨
      (¬s.Hears peerId l ∧ s₂.db.heardAt peerId = s.db.heardAt peerId) := by
  have hr := rewrites_of_step hn ho h
  simp only [Database.heardAt]
  generalize s₂.db.peer? peerId = r at hr
  cases hr
  case kept h          => exact .inr ⟨h, rfl⟩
  case updated h _ _ _ => exact .inl ⟨h, rfl⟩
  case heard h hr _ =>
    have hu := hs.paired peerId _ hn hr
    exact .inl ⟨h, by simp only [PeerRow.heard, Option.bind_some, hu, if_true]⟩

theorem Sound.step (hs : s.Sound self t₀) (ho : s.UpsertsOwn self l) (h : s.step ext l s₂) :
    s₂.Sound self t₀ := by
  have hm := timestamp_mono_of_step h
  constructor
  case start => exact le_trans hs.start hm
  case heard =>
    intro peerId t hn ht
    rcases heardAt_of_step hn ho hs h with ⟨-, he⟩ | ⟨-, he⟩
    case inl =>
      obtain rfl : s.now.currentTimestamp = t := Option.some.inj (he.symm.trans ht)
      rw [timestamp_currentTimestamp]
      exact ⟨hs.start, hm⟩
    case inr =>
      obtain ⟨h₁, h₂⟩ := hs.heard peerId t hn (he ▸ ht)
      exact ⟨h₁, le_trans h₂ hm⟩
  case paired =>
    intro peerId r hn hr
    have hw := rewrites_of_step hn ho h
    rw [hr] at hw
    generalize hx : some r = x at hw
    cases hw
    case kept    => exact hs.paired peerId r hn hx.symm
    case updated => cases hx; rfl
    case heard hp _ =>
      cases hx
      have ho := hs.paired peerId _ hn hp
      exact ho

theorem heardSince_of_step (hn : peerId ≠ self) (c : Int) (ho : s.UpsertsOwn self l)
    (hs : s.Sound self t₀) (h : step ext s l s₂) :
    (∃ t, s₂.db.heardAt peerId = some t ∧ c ≤ t.timestamp) ↔
      (∃ t, s.db.heardAt peerId = some t ∧ c ≤ t.timestamp) ∨
        (s.Hears peerId l ∧ c ≤ s.now.timestamp) := by
  rcases heardAt_of_step hn ho hs h with ⟨hh, he⟩ | ⟨hh, he⟩
  case inr => simp [he, hh]
  case inl =>
    have ht (t) (ht : s.db.heardAt peerId = some t) : t.timestamp ≤ s.now.timestamp :=
      (hs.heard peerId t hn ht).2
    simp only [he, Option.some.injEq, exists_eq_left', timestamp_currentTimestamp, hh, true_and]
    constructor
    case mp => exact .inr
    case mpr =>
      rintro (⟨t, h, hl⟩ | hl)
      case inl => exact le_trans hl (ht t h)
      case inr => exact hl

theorem heardSince_of_run (hn : peerId ≠ self) (c : Int) (r : Run (step ext) s₁ tr s₂)
    (ho : Meets (UpsertsOwn self) tr) (hs : s₁.Sound self t₀) :
    (∃ t, s₂.db.heardAt peerId = some t ∧ c ≤ t.timestamp) ↔
      (∃ t, s₁.db.heardAt peerId = some t ∧ c ≤ t.timestamp) ∨
        ∃ q ∈ tr, q.1.Hears peerId q.2 ∧ c ≤ q.1.now.timestamp := by
  induction r
  case nil => simp
  case cons e r hi =>
    rw [hi ho.tail (hs.step ho.head e), heardSince_of_step hn c ho.head hs e]
    rw [or_assoc, List.exists_mem_cons_iff]

-- The other active providers of a new node are those whose provider data it has heard within the last
-- sixty seconds, each once.
theorem activeProviders_of_run (activePlan : Plan (Rowid × PeerRow))
    (r : Run (step ext) { db := ∅, now := t₀ } tr s) (ho : Meets (UpsertsOwn self) tr)
    (h₀ : (DateTime.ofTimestamp (t₀.timestamp - 60)).Written) (hw : s.now.Written) :
    (handleActiveProvidersQueryRequest activePlan s.now s.db).Nodup ∧
      ∀ peerId ≠ self, peerId ∈ handleActiveProvidersQueryRequest activePlan s.now s.db ↔
        ∃ q ∈ tr, q.1.Hears peerId q.2 ∧ s.now.timestamp - 60 ≤ q.1.now.timestamp := by
  refine ⟨nodup_queryActiveProviders, fun peerId hp => ?_⟩
  have hs : s.Sound self t₀ := r.invariant_of_meets ho .init fun _ _ _ hs ho h => hs.step ho h
  have hn : (∅ : Database).heardAt peerId = none := rfl
  have hr := heardSince_of_run hp (s.now.timestamp - 60) r ho .init
  simp only [hn, reduceCtorEq, false_and, exists_false, false_or] at hr
  rw [← hr, handleActiveProvidersQueryRequest, mem_queryActiveProviders_iff]
  refine exists_congr fun t => and_congr_right fun ht => ?_
  obtain ⟨hl, hu⟩ := hs.heard peerId t hp ht
  have hb := hs.start
  obtain ⟨h₀, -⟩ := h₀
  obtain ⟨-, h₁⟩ := hw
  rw [DateTime.timestamp_ofTimestamp] at h₀
  rw [DateTime.text_le_text_iff, DateTime.timestamp_ofTimestamp]
  case h  => constructor <;> rw [DateTime.timestamp_ofTimestamp] <;> omega
  case h' => constructor <;> omega
  exact .rfl

private def greeting (source : PeerId) (now : DateTime) : Label :=
  .write <| .heartbeat .scan [] now source {
    provider  := some {
      name        := none
      teaser      := none
      description := none
      offers      := ∅
      updatedAt   := 1
    }
    timestamp := now
  }

-- The peer 1 was heard of 61 seconds ago, and the peer 2 is heard of now.
theorem activeProviders_of_run_sample : ∃ tr s, Run (step .sample) { db := ∅, now := 0 } tr s ∧
    handleActiveProvidersQueryRequest .scan s.now s.db = [⟨[2]⟩] ∧
      ∃ q ∈ tr, q.1.Hears ⟨[2]⟩ q.2 ∧ s.now.timestamp - 60 ≤ q.1.now.timestamp := by
  have r : Run (step .sample) { db := ∅, now := 0 }
      [(_, greeting ⟨[1]⟩ 0), (_, .tick (61 * 10 ^ 9)), (_, greeting ⟨[2]⟩ (61 * 10 ^ 9))] _ :=
    .cons ⟨rfl, rfl⟩ <| .cons ⟨trivial, rfl⟩ <| .cons ⟨rfl, rfl⟩ .nil
  refine ⟨_, _, r, by decide +kernel, ?_⟩
  refine ((activeProviders_of_run .scan r (?own : Meets (UpsertsOwn ⟨[0]⟩) _) ?start ?finish).2 ⟨[2]⟩
    (by decide)).mp (by decide +kernel)
  case own =>
    simp only [Meets, List.forall_mem_cons]
    exact ⟨trivial, trivial, trivial, by simp⟩
  case start  => exact ⟨by decide, by decide +kernel⟩
  case finish => exact ⟨by decide, by decide +kernel⟩

end ClockedDatabase
end Derouter
