import Derouter.Db.Queries
import Derouter.Lib.Calendar

open Sql

namespace Derouter
namespace DateTime

-- The Unix epoch, in seconds since the start of the year zero.
def unixEpoch : Int :=
  62167219200

-- The text that `CURRENT_TIMESTAMP` and `datetime` give for a time.
def text (t : DateTime) : List Char :=
  Calendar.datetime (t.timestamp + unixEpoch).toNat

-- SQLite writes the times of these years.
structure Written (t : DateTime) : Prop where
  start  : 0 ≤ t.timestamp + unixEpoch
  finish : t.timestamp + unixEpoch < Calendar.seconds

@[simp]
theorem timestamp_ofTimestamp (s : Int) : (ofTimestamp s).timestamp = s :=
  Int.mul_ediv_cancel s (by decide)

theorem text_le_text_iff {t t' : DateTime} (h : t.Written) (h' : t'.Written) :
    t.text ≤ t'.text ↔ t.timestamp ≤ t'.timestamp := by
  obtain ⟨hs, hf⟩ := h
  obtain ⟨hs', hf'⟩ := h'
  rw [text, text, Calendar.ordered_datetime.le_iff (by omega) (by omega)]
  omega

end DateTime

-- Return peer IDs of providers with recent heartbeat. A comparison with `NULL` is not true.
def queryActiveProviders (plan : Plan (Rowid × PeerRow)) (now : DateTime) (heartbeatTimeout : Nat)
    (db : Database) : List PeerId :=
  let since := DateTime.ofTimestamp (now.timestamp - heartbeatTimeout)
  (plan.order <| db.peers.select fun _ r => r.ourProviderUpdatedAt.isSome &&
    r.ourLatestHeartbeatTimestamp.any fun t => decide (since.text ≤ t.text)).map (·.2.peerId)

def handleActiveProvidersQueryRequest (plan : Plan (Rowid × PeerRow)) (now : DateTime)
    (db : Database) : List PeerId :=
  queryActiveProviders plan now 60 db

-- When a peer was last heard of as a provider.
def Database.heardAt (db : Database) (peerId : PeerId) : Option DateTime :=
  (db.peer? peerId).bind fun r =>
    if r.ourProviderUpdatedAt.isSome then r.ourLatestHeartbeatTimestamp else none

variable {plan : Plan (Rowid × PeerRow)} {now : DateTime} {heartbeatTimeout : Nat} {db : Database}

theorem mem_queryActiveProviders_iff {peerId : PeerId} :
    peerId ∈ queryActiveProviders plan now heartbeatTimeout db ↔ ∃ t, db.heardAt peerId = some t ∧
      (DateTime.ofTimestamp (now.timestamp - heartbeatTimeout)).text ≤ t.text := by
  simp only [queryActiveProviders, List.mem_map, Plan.mem_order, Prod.exists, Table.mem_select,
    Bool.and_eq_true, Option.any_eq_true, decide_eq_true_eq, Database.heardAt,
    Option.bind_eq_some_iff, Database.peer?_eq_some_iff, Option.ite_none_right_eq_some]
  constructor
  case mp =>
    rintro ⟨i, r, ⟨hr, hu, t, ht, hl⟩, rfl⟩
    exact ⟨t, ⟨r, ⟨rfl, i, hr⟩, hu, ht⟩, hl⟩
  case mpr =>
    rintro ⟨t, ⟨r, ⟨rfl, i, hr⟩, hu, ht⟩, hl⟩
    exact ⟨i, r, ⟨hr, hu, t, ht, hl⟩, rfl⟩

theorem nodup_queryActiveProviders : (queryActiveProviders plan now heartbeatTimeout db).Nodup :=
  ((plan.perm _).map _).nodup_iff.mpr <| db.peers.nodup_select fun r => List.mem_singleton_self r.peerId

end Derouter
