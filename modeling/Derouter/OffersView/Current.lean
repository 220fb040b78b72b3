import Derouter.JobsView.Handlers
import Derouter.OffersView

open Sql Transition

namespace Derouter

variable {db db' : Database} {self : PeerId} {key : OfferKey} {ps : Option (List String)}
variable {qs : Option (List PeerId)}

theorem upsert_activeOffers {plan : Plan (Rowid × OfferSnapshotRow)}
    (h : upsert plan db self o p l = some (i, db')) (hk : key.1 ≠ self) :
    db'.activeOffers key = db.activeOffers key := by
  obtain ⟨q, p', o'⟩ := key
  rw [← Database.activeOffers_congr (db.ensurePeer_offerSnapshots (p := self))]
  refine Option.ext fun ⟨j, l'⟩ => ?_
  rw [Database.activeOffers_eq_some_iff, Database.activeOffers_eq_some_iff]
  obtain ⟨_, _, hc⟩ := Database.upsertSnapshot?_cases h
  cases hc
  case inl hc =>
    obtain ⟨hi, ht⟩ := hc
    rw [ht, Table.get?_insert]
    split
    case isFalse => rfl
    case isTrue hj =>
      refine iff_of_false (fun he => hk ?_) fun he => ?_
      · exact congrArg (·.providerPeerId) (Option.some.inj he).symm
      · exact Table.ne_nextRowid he hj
  case inr hc =>
    obtain ⟨b, hb, ⟨k, hr, _, hk'⟩, ht⟩ := hc
    have hs := (OfferSnapshotRow.exists_shared_key_iff.mp ⟨k, hr, hk'⟩).1.1
    rw [ht, Table.get?_update]
    split
    case isFalse => rfl
    case isTrue hj =>
      subst hj
      rw [hb, Option.map_some]
      refine iff_of_false (fun he => hk ?_) fun he => hk ?_
      · exact (congrArg (·.providerPeerId) (Option.some.inj he)).symm.trans hs.symm
      · exact (congrArg (·.providerPeerId) (Option.some.inj he)).symm.trans hs.symm

theorem createJob_offerSnapshots {i : Rowid}
    (h : createJob now db k consumer currency args jobId t = some (i, db')) :
    db'.offerSnapshots = db.offerSnapshots := by
  have he : ((JobOp.create now k consumer currency args jobId t).exec .sample db).1 = db' := by
    simp only [JobOp.exec, h]
  exact he ▸ JobOp.exec_offerSnapshots _

-- What a handler sends says of an offer of another provider what is active of it afterwards. If it
-- says nothing, then the handler leaves the offer alone.
structure Database.Tells (db : Database) (events : List RpcEvent) (db' : Database) (key : OfferKey) :
    Prop where
  said   : ∀ e ∈ events.filterMap RpcEvent.offerEntry?, key = e.1 → e.2 = db'.activeOffers key
  unsaid : key ∉ (events.filterMap RpcEvent.offerEntry?).map (·.1) →
    db'.activeOffers key = db.activeOffers key

namespace Database.Tells

theorem of_offerSnapshots (h : db'.offerSnapshots = db.offerSnapshots)
    (he : events.filterMap RpcEvent.offerEntry? = []) : db.Tells events db' key where
  said   := by simp [he]
  unsaid := fun _ => by rw [activeOffers_congr h]

theorem heartbeat {plan : Plan (Rowid × OfferSnapshotRow)} {message : Heartbeat}
    (h : handleHeartbeat plan visits now db source message = some (.ok (events, db'))) :
    db.Tells events db' key := by
  obtain ⟨r, hr, hh⟩ : ∃ r, handleHeartbeat plan visits now db source message = some r ∧
      Handled db source message r := handleHeartbeat_handled
  obtain rfl := Option.some.inj (h.symm.trans hr)
  cases hh
  case ignored       => exact of_offerSnapshots rfl rfl
  case stored _ _ hs => exact ⟨fun e he hk => hk ▸ (hs.tracks.sets e he).symm, hs.tracks.rest key⟩

theorem perform {ext : External} {node : Node} (hk : key.1 ≠ self) (action : Node.Action) :
    node.db.Tells [] (node.perform ext self action).db key := by
  cases action
  case provide plan now c request =>
    have hc : handleProviderProvideRequest plan now self node c request =
      (_, node.perform ext self (.provide plan now c request)) := rfl
    cases handleProviderProvideRequest_cases hc
    case inl h => exact h.1 ▸ of_offerSnapshots rfl rfl
    case inr h =>
      obtain ⟨_, _, hu, _⟩ := h
      exact ⟨nofun, fun _ => upsert_activeOffers hu hk⟩
  case close now c =>
    rw [Node.perform, closeConnection_db]
    exact of_offerSnapshots rfl rfl
  case restart => exact of_offerSnapshots rfl rfl
  case createJob =>
    simp only [Node.perform]
    split
    case h_1 hc => exact of_offerSnapshots (handleCreateJobRequest_offerSnapshots hc) rfl
    case h_2    => exact of_offerSnapshots rfl rfl
  case providerCompleteJob => exact of_offerSnapshots (JobOp.exec_offerSnapshots _) rfl
  case failJob             => exact of_offerSnapshots (JobOp.exec_offerSnapshots _) rfl
  case confirmJob request  =>
    exact of_offerSnapshots (handleConfirmJobRequest_offerSnapshots request) rfl

theorem handle {ext : External} {keypair : ext.Keypair} (node : Node)
    (hk : key.1 ≠ ext.peerId keypair) (handler : Handler) :
    node.db.Tells (node.handle ext keypair handler).2 (node.handle ext keypair handler).1.db key := by
  cases handler
  case provider action => exact perform hk action
  case heartbeat =>
    simp only [Node.handle]
    split
    case h_1 h => exact heartbeat h
    case h_2   => exact of_offerSnapshots rfl rfl
  case consumerCreateJob =>
    simp only [Node.handle]
    split
    case h_2 => exact of_offerSnapshots rfl rfl
    case h_1 h =>
      simp only [consumerCreateJob] at h
      split at h <;> try contradiction
      exact of_offerSnapshots (createJob_offerSnapshots h) rfl
  case consumerCompleteJob plan now provider jobId delta pub priv t =>
    have he : ((JobOp.consumerComplete plan now (ext.peerId keypair) provider jobId delta pub priv t
        (ext.sign keypair)).exec ext node.db).1 = (node.handle ext keypair
          (.consumerCompleteJob plan now provider jobId delta pub priv t)).1.db := by
      simp only [JobOp.exec, Node.handle]
      split <;> simp_all
    refine of_offerSnapshots (he ▸ JobOp.exec_offerSnapshots _) ?_
    simp only [Node.handle]
    split <;> rfl
  case confirmJob =>
    simp only [Node.handle]
    split
    case h_2   => exact of_offerSnapshots rfl rfl
    case h_1 h =>
      refine of_offerSnapshots (confirmJob_offerSnapshots h) ?_
      simp only [confirmJobEvents]
      split
      case h_1 => split <;> rfl
      case h_2 => rfl

end Database.Tells

theorem Subscription.offerEntry?_of_eventFrame {subscription : Subscription} {id : UInt32}
    (h : subscription.eventFrame id event = some frame)
    (hf : frame.offerEntry? = some e) : event.offerEntry? = some e := by
  cases subscription <;> cases event <;> simp only [Subscription.eventFrame, reduceCtorEq] at h
  case activeOffers.offerRemoved | activeOffers.offerUpdated =>
    split at h <;> simp only [reduceCtorEq, Option.some.injEq] at h
    obtain rfl := h
    exact hf
  case activeProviders.providerHeartbeat | activeProviders.providerUpdated =>
    obtain rfl := Option.some.inj h
    simp [OutboundRequestFrameData.offerEntry?] at hf
  case jobs.jobUpdated =>
    split at h <;> simp only [reduceCtorEq, Option.some.injEq] at h
    obtain rfl := h
    simp [OutboundRequestFrameData.offerEntry?] at hf

-- An event about an offer becomes a frame of the subscription if the first list contains its ID.
theorem Subscription.eventFrame_entry_iff (id : UInt32) (he : event.offerEntry? = some e) :
    (∃ frame, (activeOffers ps qs).eventFrame id event = some frame ∧ frame.offerEntry? = some e) ↔
      checkAgainstOffer ps qs e.1.2.1 e.1.1 = true := by
  cases event <;> simp only [RpcEvent.offerEntry?, reduceCtorEq, Option.some.injEq] at he
  all_goals
    subst he
    simp only [eventFrame]
    split <;> simp_all [OutboundRequestFrameData.offerEntry?, RpcEvent.offerEntry?]

theorem OfferKey.checkAgainstOffer_eq (h : ps = none ∨ qs = none) :
    Subscription.checkAgainstOffer ps qs key.2.1 key.1 = (offerFilters ps qs).all (· key.columns) := by
  rcases h with rfl | rfl
  · cases qs <;> simp [Subscription.checkAgainstOffer, offerFilters, inArray, OfferKey.columns]
  · cases ps <;> simp [Subscription.checkAgainstOffer, offerFilters, inArray, OfferKey.columns]

theorem OfferKey.checkAgainstOffer_of_all (h : (offerFilters ps qs).all (· key.columns) = true) :
    Subscription.checkAgainstOffer ps qs key.2.1 key.1 = true := by
  obtain ⟨hp, _⟩ := all_offerFilters.mp h
  cases ps
  case none   => rw [checkAgainstOffer_eq (.inl rfl), h]
  case some l =>
    have hm : key.2.1 ∈ l := hp l rfl
    simp [Subscription.checkAgainstOffer, hm]

theorem mem_queryActiveOffers_provided {plan : Plan (Rowid × OfferSnapshotRow)}
    (h : offer ∈ queryActiveOffers plan db ps qs) :
    db.activeOffers (offer.providerPeerId, offer.protocolId, offer.offerId) =
      some (offer.snapshotId, offer.protocolPayload) := by
  obtain ⟨hf, ha, _⟩ := mem_queryActiveOffers_iff.mp h
  obtain ⟨r, hr, hs⟩ := Option.map_eq_some_iff.mp hf
  rw [Database.activeOffers_eq_some_iff, hr, ← hs]
  exact congrArg some <| OfferSnapshotRow.eq_provided rfl (by rwa [← hs] at ha)

theorem offersMap_queryActiveOffers (plan : Plan (Rowid × OfferSnapshotRow)) :
    offersMap (queryActiveOffers plan db ps qs) key = OffersView.selected ps qs db key := by
  cases hm : offersMap (queryActiveOffers plan db ps qs) key
  case some v =>
    obtain ⟨offer, ho, hv⟩ := List.exists_of_findSome?_eq_some hm
    split at hv <;> try contradiction
    case isTrue hk =>
      have hf := (mem_queryActiveOffers_iff.mp ho).2.2
      subst hk
      exact Eq.symm <| (if_pos hf).trans <| (mem_queryActiveOffers_provided ho).trans hv
  case none =>
    rw [OffersView.selected]
    split
    case isFalse => rfl
    case isTrue hf =>
      obtain ⟨q, p, o⟩ := key
      refine Eq.symm <| Database.activeOffers_eq_none_iff.mpr fun l ⟨i, hi⟩ => ?_
      have ho : (OfferSnapshotRow.provided q p o l).snapshot i ∈ queryActiveOffers plan db ps qs :=
        mem_queryActiveOffers_iff.mpr ⟨congrArg (Option.map _) hi, rfl, hf⟩
      simpa [OfferSnapshotRow.provided, OfferSnapshotRow.snapshot] using
        List.findSome?_eq_none_iff.mp hm _ ho

namespace OffersView

variable {ext : External} {keypair : ext.Keypair} {s : OffersView} {id : UInt32}

theorem selected_congr (h : db'.activeOffers key = db.activeOffers key) :
    selected ps qs db' key = selected ps qs db key := by
  rw [selected, selected, h]

theorem told_append (pre post : List RpcEvent) :
    told id ps qs (pre ++ post) = told id ps qs pre ++ told id ps qs post := by
  simp only [told, List.filterMap_append, List.map_append]

theorem mem_entries_iff {events : List RpcEvent} :
    e ∈ (events.filterMap ((Subscription.activeOffers ps qs).eventFrame id)).filterMap
        (fun frame => frame.offerEntry?) ↔
      e ∈ events.filterMap RpcEvent.offerEntry? ∧
        Subscription.checkAgainstOffer ps qs e.1.2.1 e.1.1 = true := by
  simp only [List.mem_filterMap]
  constructor
  case mp =>
    rintro ⟨frame, ⟨event, hm, hf⟩, he⟩
    have hv := Subscription.offerEntry?_of_eventFrame hf he
    exact ⟨⟨event, hm, hv⟩, (Subscription.eventFrame_entry_iff id hv).mp ⟨frame, hf, he⟩⟩
  case mpr =>
    rintro ⟨⟨event, hm, hv⟩, hc⟩
    obtain ⟨frame, hf, he⟩ := (Subscription.eventFrame_entry_iff id hv).mpr hc
    exact ⟨frame, ⟨event, hm, hf⟩, he⟩

-- What is on its way and what is still to be heard of leads the copy of a module to the active offers
-- that its lists select.
structure Settles (id : UInt32) (ps : Option (List String)) (qs : Option (List PeerId))
    (ext : External) (keypair : ext.Keypair) (s : OffersView) : Prop where
  leads : ∀ key : OfferKey, key.1 ≠ ext.peerId keypair →
    ((offerFilters ps qs).all (· key.columns) = true ∨ ps = none ∨ qs = none) →
      Feed.Leads s.copy (s.pending ++ told id ps qs s.events) key (selected ps qs s.node.db key)
  fresh : s.subscribed = false → s.pending = [] ∧ s.copy = none

theorem settles_handle (hs : s.Settles id ps qs ext keypair) (handler : Handler) :
    (s.next id ps qs ext keypair (.handle handler)).Settles id ps qs ext keypair := by
  refine ⟨fun key hk hf => ?_, hs.fresh⟩
  have ht := Database.Tells.handle s.node hk handler
  simp only [next, told_append, ← List.append_assoc]
  refine (hs.leads key hk hf).append (fun e he hk => ?_) fun hn => ?_
  case refine_1 =>
    obtain ⟨hm, hc⟩ := mem_entries_iff.mp he
    have hl : (offerFilters ps qs).all (· key.columns) = true := by
      cases hf
      case inl hf => exact hf
      case inr hf => rw [← OfferKey.checkAgainstOffer_eq hf, hk, hc]
    rw [ht.said e hm hk]
    exact (if_pos hl).symm
  case refine_2 =>
    by_cases hl : (offerFilters ps qs).all (· key.columns) = true
    case neg => exact (if_neg hl).trans (if_neg hl).symm
    case pos =>
      refine selected_congr <| ht.unsaid fun hm => hn ?_
      obtain ⟨e, he, rfl⟩ := List.mem_map.mp hm
      exact List.mem_map_of_mem (mem_entries_iff.mpr ⟨he, OfferKey.checkAgainstOffer_of_all hl⟩)

-- A connection without the subscription lets go of what it hears of.
theorem settles_hear (hs : s.Settles id ps qs ext keypair) :
    (s.next id ps qs ext keypair .hear).Settles id ps qs ext keypair := by
  simp only [next]
  split
  case h_1 => exact hs
  case h_2 event events he =>
    have ht : told id ps qs s.events = told id ps qs [event] ++ told id ps qs events := by
      rw [he, ← told_append, List.singleton_append]
    split
    case isTrue hb =>
      refine ⟨fun key hk hf => ?_, fun hn => by simp [hb] at hn⟩
      simpa only [ht, List.append_assoc] using hs.leads key hk hf
    case isFalse hb =>
      obtain ⟨hp, hc⟩ := hs.fresh (by simpa using hb)
      refine ⟨fun key hk hf => ?_, hs.fresh⟩
      have hl := hs.leads key hk hf
      rw [hp, hc, ht, List.nil_append] at hl
      simpa only [hp, hc, List.nil_append] using hl.skip

theorem settles_query (hs : s.Settles id ps qs ext keypair)
    (plan : Plan (Rowid × OfferSnapshotRow)) (first : Nat) :
    (s.next id ps qs ext keypair (.query plan first)).Settles id ps qs ext keypair := by
  simp only [next]
  split
  case isFalse => exact hs
  case isTrue hb =>
    refine ⟨fun key hk hf => ?_, fun hn => by simp [hb] at hn⟩
    have hl := hs.leads key hk hf
    rw [← List.take_append_drop first s.pending, List.append_assoc,
      ← offersMap_queryActiveOffers plan] at hl
    have hi := hl.insert
    rw [offersMap_queryActiveOffers] at hi
    simpa only [List.append_assoc, List.cons_append] using hi

theorem settles_receive (hs : s.Settles id ps qs ext keypair) :
    (s.next id ps qs ext keypair .receive).Settles id ps qs ext keypair := by
  simp only [next]
  split
  case h_1 => exact hs
  case h_2 item pending he =>
    refine ⟨fun key hk hf => ?_, fun hn => absurd (hs.fresh hn).1 (by simp [he])⟩
    have hl := hs.leads key hk hf
    rw [he, List.cons_append] at hl
    exact hl.take

theorem settles_step (hs : s.Settles id ps qs ext keypair) (hl : ¬l.Lags)
    (h : step id ps qs ext keypair s l s') : s'.Settles id ps qs ext keypair := by
  obtain rfl := Option.some.inj h
  cases l
  case handle handler   => exact settles_handle hs handler
  case subscribe        => exact ⟨hs.leads, nofun⟩
  case hear             => exact settles_hear hs
  case lag              => exact absurd trivial hl
  case query plan first => exact settles_query hs plan first
  case receive          => exact settles_receive hs

-- A node that knows an old payload of the peer 1.
private def outdated : Node :=
  .start (.ofOffer ⟨[1]⟩ "offer" "protocol" "old") 0

private def update : Heartbeat where
  provider  := some {
    name        := none
    teaser      := none
    description := none
    offers      := OfferMap.set ∅ "protocol" "offer" ⟨"new"⟩
    updatedAt   := 1
  }
  timestamp := 1

end OffersView
end Derouter
