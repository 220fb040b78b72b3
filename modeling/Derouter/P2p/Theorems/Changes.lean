import Derouter.Db.Theorems.ActiveOffers
import Derouter.Db.Theorems.Frame
import Derouter.P2p.Theorems.Heartbeat

open Sql

namespace Derouter

-- What a subscriber's copy of the active offers takes from an event.
def RpcEvent.offerEntry? : RpcEvent → Option (OfferKey × Option (Rowid × String))
  | offerRemoved offer =>
    some ((offer.providerPeerId, offer.protocolId, offer.offerId), none)
  | offerUpdated offer =>
    some ((offer.providerPeerId, offer.protocolId, offer.offerId),
      some (offer.snapshotId, offer.protocolPayload))
  | _ => none

namespace OfferChanges

variable {plan : Plan (Rowid × OfferSnapshotRow)} {source : PeerId} {db : Database}
variable {offers : OfferMap ProviderOffer} {changes changes' : OfferChanges}

def entries (changes : OfferChanges) : List (OfferKey × Option (Rowid × String)) :=
  changes.events.filterMap RpcEvent.offerEntry?

-- All that one iteration of the loops does to the active offers: if it adds an event, then the event
-- sets an offer's payload to the incoming one, which it was not before.
inductive Effect (source : PeerId) (offers : OfferMap ProviderOffer)
    (changes changes' : OfferChanges) : Prop
  | skip (h : changes' = changes)
  | add (e : OfferKey × Option (Rowid × String))
      (source : e.1.1 = source)
      (incoming : offers.get? e.1.2.1 e.1.2.2 = e.2.map fun v => ⟨v.2⟩)
      (differs : (changes.db.activeOffers e.1).map (·.2) ≠ e.2.map (·.2))
      (db : changes'.db.activeOffers = Delta.apply changes.db.activeOffers e)
      (entries : changes'.entries.Perm (e :: changes.entries))

theorem upsert_effect (h : upsert plan source target p o l changes = some changes')
    (hn : changes.db.activeOffers (source, p, o) = none) :
    changes.db.Frame source changes'.db ∧ ∃ i,
      changes'.db.activeOffers =
        Delta.apply changes.db.activeOffers ((source, p, o), some (i, l)) ∧
      changes'.entries.Perm (((source, p, o), some (i, l)) :: changes.entries) := by
  simp only [upsert] at h
  split at h
  case h_1 => contradiction
  case h_2 i db hu =>
    obtain rfl := Option.some.inj h
    have hf := Database.Frame.upsertSnapshot? hu rfl (Database.not_otherActive_of_none hn)
    refine ⟨hf, i, Database.activeOffers_upsertSnapshot? hu hn, ?_⟩
    simp only [entries, events, List.map_append, ← List.append_assoc, List.filterMap_append]
    exact List.perm_append_singleton _ _

theorem upsert_total (hp : changes.db.HasPeer source)
    (hn : changes.db.activeOffers (source, p, o) = none)
    (ht : ∀ k : OfferSnapshotKey, k.isProtocolPayload = true → target k = true) :
    ∃ changes', upsert plan source target p o l changes = some changes' := by
  have ⟨i, db, h⟩ : ∃ i db, changes.db.upsertSnapshot? plan target (.provided source p o l) =
      some (i, db) :=
    Database.upsertSnapshot?_total hp rfl (fun _ _ => Database.not_active_of_none hn) ht
  simp only [upsert]
  rw [h]
  exact ⟨_, rfl⟩

theorem visit_effect (h : visit plan source offers changes i = some changes') :
    changes.db.Frame source changes'.db ∧ Effect source offers changes changes' := by
  simp only [visit] at h
  split at h
  case h_1 => exact Option.some.inj h ▸ ⟨.refl, .skip rfl⟩
  case h_2 row hrow =>
    split at h
    case isFalse => exact Option.some.inj h ▸ ⟨.refl, .skip rfl⟩
    case isTrue hr =>
      rw [OfferSnapshotRow.eq_provided hr.1 hr.2] at hrow
      have ha := Database.activeOffers_eq_some_iff.mpr hrow
      have hf := Database.Frame.deactivateSnapshot hrow
      have hd := Database.activeOffers_deactivateSnapshot hrow
      split at h
      case h_2 hm =>
        obtain rfl := Option.some.inj h
        refine ⟨hf, .add _ rfl hm (by simp [ha]) hd ?_⟩
        simp only [entries, events, List.map_append, List.filterMap_append, List.append_assoc]
        exact List.perm_middle
      case h_1 incoming hin =>
        split at h
        case isTrue => exact Option.some.inj h ▸ ⟨.refl, .skip rfl⟩
        case isFalse hl =>
          obtain ⟨hu, k, hv, hp⟩ := upsert_effect h <| (congrFun hd _).trans Delta.apply_self
          refine ⟨hf.trans hu, .add _ rfl hin (by simpa [ha] using Ne.symm hl) ?_ hp⟩
          exact hv.trans <| (congrArg (Delta.apply · _) hd).trans Delta.apply_apply

theorem ensure_effect (he : e ∈ offers.toList) (h : ensure plan source changes e = some changes') :
    changes.db.Frame source changes'.db ∧ Effect source offers changes changes' := by
  obtain ⟨p, o, incoming⟩ := e
  have ho := OfferMap.mem_toList_iff.mp he
  simp only [ensure] at h
  split at h
  case isTrue => exact Option.some.inj h ▸ ⟨.refl, .skip rfl⟩
  case isFalse ha =>
    have hn := Database.activeOffers_eq_none_iff.mpr fun l hl => ha (any_active_iff.mpr ⟨l, hl⟩)
    obtain ⟨hu, k, hv, hp⟩ := upsert_effect h hn
    exact ⟨hu, .add _ rfl ho (by simp [hn]) hv hp⟩

theorem insert_effect (he : e ∈ offers.toList) (h : insert plan source changes e = some changes') :
    changes.db.Frame source changes'.db ∧ Effect source offers changes changes' := by
  obtain ⟨p, o, incoming⟩ := e
  have ho := OfferMap.mem_toList_iff.mp he
  simp only [insert] at h
  obtain ⟨i, hi⟩ := upsert_some h
  have hn := Database.activeOffers_none_of_untargeted hi
  obtain ⟨hu, k, hv, hp⟩ := upsert_effect h hn
  exact ⟨hu, .add _ rfl ho (by simp [hn]) hv hp⟩

-- The events so far explain how the active offers differ from those that a map holds.
structure Explains (source : PeerId) (offers : OfferMap ProviderOffer)
    (m : OfferKey → Option (Rowid × String)) (changes : OfferChanges) : Prop where
  tracks   : Delta.Tracks m changes.entries changes.db.activeOffers
  incoming : ∀ e ∈ changes.entries,
    e.1.1 = source ∧ offers.get? e.1.2.1 e.1.2.2 = e.2.map fun v => ⟨v.2⟩

theorem Explains.start (h : db.activeOffers = m) : Explains source offers m { db } where
  tracks   := h ▸ .nil
  incoming := fun _ h => absurd h List.not_mem_nil

-- An earlier entry for the key of a new one would say the same of the incoming offers, and the new one
-- would not differ from what is active.
theorem Explains.effect (h : Explains source offers m changes)
    (he : Effect source offers changes changes') : Explains source offers m changes' := by
  cases he
  case skip he => exact he ▸ h
  case add e hs ho hd hv hp =>
    have hk : e.1 ∉ changes.entries.map (·.1) := by
      intro hk
      obtain ⟨e', he', hk⟩ := List.mem_map.mp hk
      have hm := h.incoming e' he' |>.2
      rw [hk, ho] at hm
      rw [← hk, h.tracks.sets e' he'] at hd
      have hm' := congrArg (Option.map ProviderOffer.protocolPayload) hm
      simp only [Option.map_map] at hm'
      exact hd hm'.symm
    have hn : changes.db.activeOffers e.1 ≠ e.2 := fun hn => hd (congrArg _ hn)
    constructor
    case tracks => exact hv ▸ (h.tracks.cons hk hn).perm hp.symm
    case incoming =>
      intro e' he'
      cases List.mem_cons.mp (hp.mem_iff.mp he')
      case inl he' => exact he' ▸ ⟨hs, ho⟩
      case inr he' => exact h.incoming e' he'

theorem foldlM_effect {f : OfferChanges → α → Option OfferChanges} {l : List α}
    (h : l.foldlM f changes = some changes')
    (hf : ∀ a ∈ l, ∀ c c', f c a = some c' →
      c.db.Frame source c'.db ∧ Effect source offers c c')
    (he : Explains source offers m changes) :
    changes.db.Frame source changes'.db ∧ Explains source offers m changes' := by
  have hi := Loop.invariant (I := fun rest c => (∀ a ∈ rest, a ∈ l) ∧
    changes.db.Frame source c.db ∧ Explains source offers m c) h ⟨fun _ => id, .refl, he⟩ ?step
  case step =>
    intro a rest c c' ⟨hr, hd, hc⟩ hs
    have ⟨hd', hc'⟩ := hf a (hr a List.mem_cons_self) c c' hs
    exact ⟨fun b hb => hr b (List.mem_cons_of_mem _ hb), hd.trans hd', hc.effect hc'⟩
  exact hi.2

theorem visit_total (hp : changes.db.HasPeer source) :
    ∃ changes', visit plan source offers changes i = some changes' := by
  simp only [visit]
  split
  case h_1 => exact ⟨_, rfl⟩
  case h_2 row hrow =>
    split
    case isFalse => exact ⟨_, rfl⟩
    case isTrue hr =>
      split
      case h_2 => exact ⟨_, rfl⟩
      case h_1 incoming hin =>
        split
        case isTrue => exact ⟨_, rfl⟩
        case isFalse =>
          rw [OfferSnapshotRow.eq_provided hr.1 hr.2] at hrow
          have hd := Database.activeOffers_deactivateSnapshot hrow
          exact upsert_total hp ((congrFun hd _).trans Delta.apply_self) fun _ => id

theorem ensure_total (hp : changes.db.HasPeer source) :
    ∃ changes', ensure plan source changes e = some changes' := by
  obtain ⟨p, o, incoming⟩ := e
  simp only [ensure]
  split
  case isTrue => exact ⟨_, rfl⟩
  case isFalse ha =>
    have hn := Database.activeOffers_eq_none_iff.mpr fun l hl => ha (any_active_iff.mpr ⟨l, hl⟩)
    exact upsert_total hp hn fun _ _ => rfl

theorem replace_spec (hp : db.HasPeer source) :
    ∃ changes, replace plan source visits offers db = some changes ∧
      db.Frame source changes.db ∧ Explains source offers db.activeOffers changes := by
  have ⟨c, hc, hc'⟩ := Loop.total (f := visit plan source offers) (l := visits) (b := { db })
    (I := fun _ c => c.db.HasPeer source) hp fun i _ c hp => by
      have ⟨c', hc⟩ : ∃ c', visit plan source offers c i = some c' := visit_total hp
      exact ⟨c', hc, Database.hasPeer_congr (visit_peers hc) hp⟩
  have ⟨c', hl, _⟩ := Loop.total (f := ensure plan source) (l := offers.toList)
    (I := fun _ c => c.db.HasPeer source) hc' fun e _ c hp => by
      have ⟨c', hc⟩ : ∃ c', ensure plan source c e = some c' := ensure_total hp
      exact ⟨c', hc, Database.hasPeer_congr (ensure_peers hc) hp⟩
  have ⟨hf, he⟩ := foldlM_effect hc (fun _ _ _ _ => visit_effect) <| .start rfl
  have ⟨hf', he'⟩ := foldlM_effect hl (fun _ hm _ _ => ensure_effect hm) he
  exact ⟨c', by simp only [replace, hc, hl], hf.trans hf', he'⟩

theorem insert_total (hp : changes.db.HasPeer source)
    (hn : ∀ i s, changes.db.offerSnapshots.get? i = some s →
      ¬s.SameOffer (.provided source e.1 e.2.1 e.2.2.protocolPayload)) :
    ∃ changes', insert plan source changes e = some changes' := by
  have ⟨i, db, h⟩ : ∃ i db, changes.db.upsertSnapshot? plan (fun _ => false)
      (.provided source e.1 e.2.1 e.2.2.protocolPayload) = some (i, db) :=
    Database.upsertSnapshot?_of_new hp hn
  simp only [insert, upsert]
  rw [h]
  exact ⟨_, rfl⟩

theorem insert_rows (h : insert plan source changes e = some changes')
    (hs : changes'.db.offerSnapshots.get? i = some s) :
    s = .provided source e.1 e.2.1 e.2.2.protocolPayload ∨
      changes.db.offerSnapshots.get? i = some s := by
  obtain ⟨p, o, incoming⟩ := e
  simp only [insert] at h
  obtain ⟨j, hj⟩ := upsert_some h
  rw [Database.upsertSnapshot?_rows_of_untargeted hj i] at hs
  split at hs
  case isTrue  => exact .inl (Option.some.inj hs).symm
  case isFalse => exact .inr hs

theorem insert_spec (hp : db.HasPeer source)
    (hn : ∀ i s, db.offerSnapshots.get? i = some s → s.providerPeerId ≠ source) :
    ∃ changes, offers.toList.foldlM (insert plan source) { db } = some changes ∧
      db.Frame source changes.db ∧ Explains source offers db.activeOffers changes := by
  have ⟨c, hc, _⟩ := Loop.total (f := insert plan source) (l := offers.toList) (b := { db })
    (I := fun rest c => c.db.HasPeer source ∧ (rest.map fun e => (e.1, e.2.1)).Nodup ∧
      ∀ e ∈ rest, ∀ i s, c.db.offerSnapshots.get? i = some s →
        ¬s.SameOffer (.provided source e.1 e.2.1 e.2.2.protocolPayload)) ?start ?step
  case start => exact ⟨hp, OfferMap.nodup_toList, fun _ _ i s hs h => hn i s hs h.1⟩
  case step =>
    intro e rest c ⟨hp, hu, hn⟩
    have ⟨c', hc⟩ : ∃ c', insert plan source c e = some c' :=
      insert_total hp (hn e List.mem_cons_self)
    have ⟨hm, hu⟩ := List.nodup_cons.mp hu
    refine ⟨c', hc, Database.hasPeer_congr (upsert_peers hc) hp, hu, fun e' he' i s hs h => ?_⟩
    cases insert_rows hc hs
    case inr hs => exact hn e' (List.mem_cons_of_mem _ he') i s hs h
    case inl hs =>
      obtain ⟨_, h₁, h₂⟩ := hs ▸ h
      exact hm <| List.mem_map.mpr ⟨e', he', Prod.ext h₁.symm h₂.symm⟩
  have ⟨hf, he⟩ := foldlM_effect hc (fun _ hm _ _ => insert_effect hm) <| .start rfl
  exact ⟨c, hc, hf, he⟩

end OfferChanges
end Derouter
