import Derouter.Db.Theorems.Offers

open Sql

namespace Derouter
namespace Database

-- All snapshots of a node's own offers are active: the node provides them, and deactivates none.
def OwnActive (self : PeerId) (db : Database) : Prop :=
  ∀ i s, db.offerSnapshots.get? i = some s → s.providerPeerId = self → s.active = true

variable {db db' : Database} {self : PeerId} {plan : Plan (Rowid × OfferSnapshotRow)}
  {r : OfferSnapshotRow}

theorem upsertSnapshot?_of_active (hp : db.HasPeer r.providerPeerId)
    (hs : ∀ j b, db.offerSnapshots.get? j = some b → b.SameOffer r → b.active = true) :
    ∃ i db', db.upsertSnapshot? plan UniqueTable.anyIndex r = some (i, db') := by
  apply upsertSnapshot?_of_upsert? hp
  -- Two active rows of one offer are the same row.
  have hone : ∀ j l b c, db.offerSnapshots.get? j = some b → db.offerSnapshots.get? l = some c →
      b.SameOffer r → c.SameOffer r → l = j := by
    intro j l b c hb hc hbr hcr
    have hbc : c.SameOffer b :=
      ⟨hcr.1.trans hbr.1.symm, hcr.2.1.trans hbr.2.1.symm, hcr.2.2.trans hbr.2.2.symm⟩
    exact active_unique hc hb hbc (hs l c hc hcr) (hs j b hb hbr)
  have hsame {b : OfferSnapshotRow} {k : OfferSnapshotKey} (hk : k ∈ r.keys) (hk' : k ∈ b.keys) :
      b.SameOffer r := (OfferSnapshotRow.exists_shared_key_iff.mp ⟨k, hk', hk⟩).1
  by_cases hf : ∀ j b, db.offerSnapshots.get? j = some b → ∀ k ∈ r.keys, k ∉ b.keys
  case pos =>
    have h : ∃ t, db.offerSnapshots.upsert? plan UniqueTable.anyIndex .activate r = some (_, t) :=
      UniqueTable.upsert?_of_free hf
    exact ⟨_, h⟩
  case neg =>
    push Not at hf
    obtain ⟨j, b, hb, k, hr, hb'⟩ := hf
    have hbr := hsame hr hb'
    have he : b.activate = b := by rw [OfferSnapshotRow.activate, ← hs j b hb hbr]
    refine ⟨j, UniqueTable.upsert?_of_conflict hb ⟨k, hr, rfl, hb'⟩ (fun l c hc k hk hk' =>
      ⟨hone j l b c hb hc hbr (hsame hk hk'), rfl⟩) ?_⟩
    rw [he, UniqueTable.free_iff]
    exact fun l c hc hl k hk hk' => hl (db.offerSnapshots.unique hc hb hk' hk)

theorem OwnActive.of_empty : OwnActive self ∅ :=
  fun _ _ hs => nomatch hs

end Database

variable {db db' : Database} {self : PeerId} {plan : Plan (Rowid × OfferSnapshotRow)}

theorem upsert_of_ownActive (h : db.OwnActive self) (o p l : String) :
    ∃ i db', upsert plan db self o p l = some (i, db') := by
  refine Database.upsertSnapshot?_of_active Database.hasPeer_ensurePeer fun j b hb hs => ?_
  rw [Database.ensurePeer_offerSnapshots] at hb
  exact h j b hb hs.1

theorem Database.OwnActive.upsert (h : db.OwnActive self)
    (hu : Derouter.upsert plan db self o p l = some (i, db')) : db'.OwnActive self := by
  intro j s hs hp
  obtain ⟨_, _, hc⟩ := Database.upsertSnapshot?_cases hu
  rw [ensurePeer_offerSnapshots] at hc
  rcases hc with ⟨_, ht⟩ | ⟨_, _, _, ht⟩
  case inl =>
    cases Table.get?_insert_cases (ht ▸ hs)
    case inl hs => rw [hs.2, OfferSnapshotRow.provided]
    case inr hs => exact h j s hs hp
  case inr =>
    rcases Table.get?_update_cases (ht ▸ hs) with ⟨_, s', _, rfl⟩ | ⟨_, hs⟩
    case inl => rfl
    case inr => exact h j s hs hp

end Derouter
