import Derouter.Lib.Transition
import Derouter.P2p.Theorems.Sync

open Sql Transition

namespace Derouter

-- The database and the events after a heartbeat. An error rolls the transaction back, as a panic
-- does.
def receiveHeartbeat (plan : Plan (Rowid × OfferSnapshotRow)) (visits : List Rowid) (now : DateTime)
    (db : Database) (source : PeerId) (heartbeat : Heartbeat) : List RpcEvent × Database :=
  match handleHeartbeat plan visits now db source heartbeat with
  | some (.ok r) => r
  | _            => ([], db)

-- A database that heartbeats of other peers and offers of our own are written to, next to the
-- heartbeats that were handled so far.
structure HeartbeatLog where
  db      : Database
  handled : List (PeerId × Heartbeat) := []

namespace HeartbeatLog

inductive Label
  | handle (plan : Plan (Rowid × OfferSnapshotRow)) (visits : List Rowid) (now : DateTime)
      (source : PeerId) (heartbeat : Heartbeat)
  | upsert (plan : Plan (Rowid × OfferSnapshotRow)) (providerPeerId : PeerId)
      (offerId protocolId protocolPayload : String)

def next (s : HeartbeatLog) : Label → HeartbeatLog
  | .handle plan visits now source heartbeat => {
      db      := (receiveHeartbeat plan visits now s.db source heartbeat).2
      handled := (source, heartbeat) :: s.handled
    }
  | .upsert plan p o q l =>
    match upsert plan s.db p o q l with
    | some (_, db) => { s with db }
    -- The upsert panics.
    | none         => s

def step : HeartbeatLog → Label → HeartbeatLog → Prop :=
  ofFn fun s l => some (s.next l)

end HeartbeatLog

-- A column that holds a time has not gone back, and a `NULL` may have become a time.
def NotBefore (t t' : Option DateTime) : Prop :=
  ∀ a, t = some a → ∃ b, t' = some b ∧ a ≤ b

-- The times of a database's peers have not gone back.
structure Database.Older (db db' : Database) (source : PeerId) : Prop where
  peer : ∀ p, db.peer? source = some p → ∃ p', db'.peer? source = some p' ∧
    NotBefore p.theirLatestHeartbeatTimestamp p'.theirLatestHeartbeatTimestamp ∧
    NotBefore p.theirProviderUpdatedAt p'.theirProviderUpdatedAt ∧
    p.theirProviderUpdatedAt.getD .zero ≤ p'.theirProviderUpdatedAt.getD .zero

variable {plan : Plan (Rowid × OfferSnapshotRow)} {visits : List Rowid} {now : DateTime}
variable {db db' db'' : Database} {source : PeerId} {heartbeat : Heartbeat}

namespace NotBefore

theorem refl : NotBefore t t :=
  fun a h => ⟨a, h, Int.le_refl a⟩

theorem trans (h : NotBefore t t') (h' : NotBefore t' t'') : NotBefore t t'' := by
  intro a ha
  have ⟨b, hb, hab⟩ := h a ha
  have ⟨c, hc, hbc⟩ := h' b hb
  exact ⟨c, hc, Int.le_trans hab hbc⟩

end NotBefore

namespace Database.Older

theorem of_peer? (h : ∀ p, db.peer? source = some p → db'.peer? source = some p) :
    db.Older db' source where
  peer p hp := ⟨p, h p hp, .refl, .refl, Int.le_refl _⟩

theorem trans (h : db.Older db' source) (h' : db'.Older db'' source) : db.Older db'' source where
  peer := by
    intro p hp
    have ⟨p', hp', ht, hu, hz⟩ := h.peer p hp
    have ⟨p'', hp'', ht', hu', hz'⟩ := h'.peer p' hp'
    exact ⟨p'', hp'', ht.trans ht', hu.trans hu', Int.le_trans hz hz'⟩

theorem of_stored (h : Stored db source heartbeat details events db')
    (hd : heartbeat.provider = some details) (q : PeerId) : db.Older db' q := by
  by_cases hq : q = source
  case neg => exact of_peer? fun p hp => (h.frame.peer? hq).trans hp
  case pos =>
    subst hq
    constructor
    intro p hp
    have ⟨p', hp', ht, hu⟩ := h.peer
    refine ⟨p', hp', fun a ha => ⟨_, ht, ?_⟩, ?_⟩
    · refine Int.not_lt.mp fun hlt => h.newer ⟨p, hp, .inl ⟨a, ha, Int.le_of_lt hlt⟩⟩
    · cases hu
      case inr hu =>
        have ⟨p'', hp'', he⟩ := hu
        obtain rfl : p = p'' := Option.some.inj (hp.symm.trans hp'')
        rw [he]
        exact ⟨.refl, Int.le_refl _⟩
      case inl hu =>
        have hle : p.theirProviderUpdatedAt.getD .zero ≤ details.updatedAt :=
          Int.not_lt.mp fun hlt => h.newer ⟨p, hp, .inr ⟨details, hd, hlt⟩⟩
        rw [hu]
        exact ⟨fun a ha => ⟨_, rfl, by rwa [ha] at hle⟩, hle⟩

theorem of_handled (h : handleHeartbeat plan visits now db source heartbeat = some r)
    (hr : Handled db source heartbeat r) (q : PeerId) :
    db.Older (receiveHeartbeat plan visits now db source heartbeat).2 q := by
  simp only [receiveHeartbeat, h]
  cases hr
  case outdated            => exact of_peer? fun _ => id
  case ignored             => exact of_peer? fun _ => id
  case stored hd hs        => exact of_stored hs hd q

theorem of_upsert (h : upsert plan db p o q l = some (i, db')) (source : PeerId) :
    db.Older db' source := by
  refine of_peer? fun p hp => ?_
  rw [peer?_congr (upsertSnapshot?_cases h).2.1]
  exact peer?_ensurePeer hp

end Database.Older

-- A database that turns down a heartbeat, or has no use for it.
def Database.Settles (db : Database) (source : PeerId) (heartbeat : Heartbeat) : Prop :=
  heartbeat.provider = none ∨ db.Outdates source heartbeat

namespace Database.Settles

theorem mono (h : db.Settles source heartbeat) (hm : db.Older db' source) :
    db'.Settles source heartbeat := by
  cases h
  case inl h => exact .inl h
  case inr h =>
    obtain ⟨p, hp, ho⟩ := h
    have ⟨p', hp', ht, _, hz⟩ := hm.peer p hp
    refine .inr ⟨p', hp', ?_⟩
    cases ho
    case inl ho =>
      obtain ⟨stored, hs, hle⟩ := ho
      have ⟨stored', hs', hle'⟩ := ht stored hs
      exact .inl ⟨stored', hs', Int.le_trans hle hle'⟩
    case inr ho =>
      obtain ⟨details, hd, hlt⟩ := ho
      exact .inr ⟨details, hd, Int.lt_of_lt_of_le hlt hz⟩

theorem of_handled (h : handleHeartbeat plan visits now db source heartbeat = some r)
    (hr : Handled db source heartbeat r) :
    (receiveHeartbeat plan visits now db source heartbeat).2.Settles source heartbeat := by
  simp only [receiveHeartbeat, h]
  cases hr
  case outdated e ho => exact .inr ho
  case ignored hd    => exact .inl hd
  case stored _ _ hs =>
    have ⟨p, hp, ht, _⟩ := hs.peer
    exact .inr ⟨p, hp, .inl ⟨_, ht, Int.le_refl _⟩⟩

theorem receiveHeartbeat_eq (h : db.Settles source heartbeat) :
    receiveHeartbeat plan visits now db source heartbeat = ([], db) := by
  have ⟨r, hr, hh⟩ : ∃ r, handleHeartbeat plan visits now db source heartbeat = some r ∧
      Handled db source heartbeat r := handleHeartbeat_handled
  simp only [receiveHeartbeat, hr]
  cases hh
  case outdated => rfl
  case ignored  => rfl
  case stored details events db' hd hs =>
    cases h
    case inl h => simp [h] at hd
    case inr h => exact absurd h hs.newer

end Database.Settles

namespace HeartbeatLog

variable {s s' : HeartbeatLog}

theorem next_older (l : Label) (source : PeerId) : s.db.Older (s.next l).db source := by
  cases l
  case handle plan visits now q heartbeat =>
    have ⟨r, hr, hh⟩ : ∃ r, handleHeartbeat plan visits now s.db q heartbeat = some r ∧
        Handled s.db q heartbeat r := handleHeartbeat_handled
    exact .of_handled hr hh source
  case upsert plan p o q l =>
    simp only [next]
    split
    case h_1 h => exact .of_upsert h source
    case h_2   => exact .of_peer? fun _ => id

theorem run_older (r : Run step s tr s') (source : PeerId) : s.db.Older s'.db source := by
  induction r
  case nil => exact .of_peer? fun _ => id
  case cons h _ hi =>
    obtain rfl := Option.some.inj h
    exact (next_older _ source).trans hi

-- All heartbeats that were handled are settled.
def Settled (s : HeartbeatLog) : Prop :=
  ∀ e ∈ s.handled, s.db.Settles e.1 e.2

theorem next_settled (h : s.Settled) (l : Label) : (s.next l).Settled := by
  cases l
  case upsert plan p o q l =>
    have hm := next_older (s := s) (.upsert plan p o q l)
    intro e he
    have he' : e ∈ s.handled := by
      simp only [next] at he
      split at he <;> exact he
    exact (h e he').mono (hm e.1)
  case handle plan visits now source heartbeat =>
    intro e he
    cases List.mem_cons.mp he
    case inr he => exact (h e he).mono (next_older (.handle plan visits now source heartbeat) e.1)
    case inl he =>
      subst he
      have ⟨r, hr, hh⟩ : ∃ r, handleHeartbeat plan visits now s.db source heartbeat = some r ∧
          Handled s.db source heartbeat r := handleHeartbeat_handled
      exact .of_handled hr hh

theorem run_settled (r : Run step s tr s') (h : s.Settled) : s'.Settled :=
  r.invariant h fun _ l _ h e => Option.some.inj e ▸ next_settled h l

-- Along a run the times of every peer do not go back, and a heartbeat that was handled by then is
-- without effect when it comes again.
theorem replay_safe (r₁ : Run step { db } tr₁ s) (r₂ : Run step s tr₂ s') :
    (∀ source, s.db.Older s'.db source) ∧
    ∀ source heartbeat, (source, heartbeat) ∈ s'.handled → ∀ plan visits now,
      receiveHeartbeat plan visits now s'.db source heartbeat = ([], s'.db) := by
  have hs := run_settled r₁ fun _ he => absurd he List.not_mem_nil
  have hs' := run_settled r₂ hs
  exact ⟨run_older r₂, fun _ _ he _ _ _ => (hs' _ he).receiveHeartbeat_eq⟩

private def announcement (updatedAt timestamp : DateTime) : Heartbeat where
  provider  := some {
    name        := none
    teaser      := none
    description := none
    offers      := OfferMap.set ∅ "protocol" "offer" ⟨"payload"⟩
    updatedAt   := updatedAt
  }
  timestamp := timestamp

private def announced : HeartbeatLog :=
  next { db := ∅ } (.handle .scan [] 2 ⟨[1]⟩ (announcement 1 2))

-- The peer 1 announces its offer, changes its details, and the first announcement comes again.
theorem replay_safe_sample : ∃ tr₁ s tr₂ s', Run step { db := ∅ } tr₁ s ∧ Run step s tr₂ s' ∧
    (s.db.peer? ⟨[1]⟩).bind (·.theirLatestHeartbeatTimestamp) = some 2 ∧
    (s'.db.peer? ⟨[1]⟩).bind (·.theirLatestHeartbeatTimestamp) = some 4 ∧
    s.db.Older s'.db ⟨[1]⟩ ∧
    receiveHeartbeat .scan [1] 5 s'.db ⟨[1]⟩ (announcement 1 2) = ([], s'.db) := by
  have r₁ : Run step { db := ∅ } _ announced := .single rfl
  have r₂ : Run step announced _ _ :=
    .single (l := .handle .scan [1] 4 ⟨[1]⟩ (announcement 3 4)) rfl
  have h := replay_safe r₁ r₂
  refine ⟨_, _, _, _, r₁, r₂, by decide +kernel, by decide +kernel, h.1 ⟨[1]⟩, h.2 ⟨[1]⟩ _ ?_ _ _ _⟩
  exact List.mem_cons_of_mem _ List.mem_cons_self

end HeartbeatLog
end Derouter
