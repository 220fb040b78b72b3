import Derouter.P2p.Theorems.Reqres
import Derouter.ProviderNode
import Derouter.Rpc.Theorems.Provide

open Sql Transition

namespace Derouter
namespace Node

variable {ext : External} {self : PeerId} {node : Node} {action : Action}

theorem perform_serviceJobs (h : action.changesOffers = true) :
    (node.perform ext self action).db.serviceJobs = node.db.serviceJobs := by
  cases action <;> simp only [Action.changesOffers, Bool.false_eq_true] at h
  case provide plan now c request =>
    have hc : handleProviderProvideRequest plan now self node c request =
      (_, node.perform ext self (.provide plan now c request)) := rfl
    cases handleProviderProvideRequest_cases hc
    case inl h => rw [h.1]
    case inr h =>
      have ⟨_, _, hu, _⟩ := h
      exact upsert_serviceJobs hu
  case close   => rw [perform, closeConnection_db]
  case restart => rfl

-- Every offer that a module holds names a snapshot of exactly what was provided, and this snapshot
-- is the only active one of its offer.
def OffersActive (self : PeerId) (node : Node) : Prop :=
  ∀ p o provided, node.provider.Holds p o provided →
    let snapshot := OfferSnapshotRow.provided self p o provided.protocolPayload
    node.db.offerSnapshots.get? provided.snapshotRowid = some snapshot ∧
    ∀ i s, node.db.offerSnapshots.get? i = some s → s.SameOffer snapshot → s.active = true →
      i = provided.snapshotRowid

-- The first half is all that there is to prove, as the schema allows one active snapshot per offer.
theorem OffersActive.of_rows (h : ∀ p o provided, node.provider.Holds p o provided →
    node.db.offerSnapshots.get? provided.snapshotRowid =
      some (.provided self p o provided.protocolPayload)) : node.OffersActive self := by
  intro p o provided hh
  have hr := h p o provided hh
  exact ⟨hr, fun i s hs he ha => Database.active_unique hs hr he ha rfl⟩

-- A request to provide an offer that is not provided, while another payload of it is still active.
def Action.Supersedes (self : PeerId) (node : Node) : Action → Prop
  | .provide _ _ _ request =>
    node.provider.offersModuleMap.get? request.protocolId request.offerId = none ∧
    node.db.OtherActive
      (.provided self request.protocolId request.offerId request.protocolPayload)
  | _ => False

theorem perform_offers (ext : External) (self : PeerId) (node : Node)
    (h : ∀ plan now c request, action ≠ .provide plan now c request) :
    (node.perform ext self action).db.offerSnapshots = node.db.offerSnapshots ∧
    ∀ p o provided, (node.perform ext self action).provider.Holds p o provided →
      node.provider.Holds p o provided := by
  cases action <;> simp only [perform]
  case provide => exact absurd rfl <| h _ _ _ _
  case close   => exact ⟨by rw [closeConnection_db], fun _ _ _ => closeConnection_holds⟩
  case restart => exact ⟨rfl, fun _ _ _ ⟨_, _, h, _⟩ => by simp [start] at h⟩
  case createJob =>
    split
    case h_2 => exact ⟨rfl, fun _ _ _ => id⟩
    case h_1 h => exact ⟨handleCreateJobRequest_offerSnapshots h, fun _ _ _ => id⟩
  case providerCompleteJob => exact ⟨JobOp.exec_offerSnapshots _, fun _ _ _ => id⟩
  case failJob             => exact ⟨JobOp.exec_offerSnapshots _, fun _ _ _ => id⟩
  case confirmJob request  =>
    exact ⟨handleConfirmJobRequest_offerSnapshots request, fun _ _ _ => id⟩

theorem perform_keeps {s : OfferSnapshotRow} (ext : External) (self : PeerId) (action : Action)
    (hs : node.db.offerSnapshots.get? i = some s) :
    ∃ s', (node.perform ext self action).db.offerSnapshots.get? i = some s' ∧ s.SameKey s' := by
  by_cases ha : ∀ plan now c request, action ≠ .provide plan now c request
  case pos => exact ⟨s, (perform_offers ext self node ha).1 ▸ hs, .refl s⟩
  case neg =>
    simp only [not_forall, not_not] at ha
    obtain ⟨plan, now, c, request, rfl⟩ := ha
    have hc : handleProviderProvideRequest plan now self node c request =
      (_, node.perform ext self (.provide plan now c request)) := rfl
    cases handleProviderProvideRequest_cases hc
    case inl h => exact ⟨s, h.1 ▸ hs, .refl s⟩
    case inr h =>
      have ⟨_, _, hu, _⟩ := h
      exact upsert_keeps hu hs

theorem OffersActive.perform (h : node.OffersActive self) (hn : ¬action.Supersedes self node) :
    (node.perform ext self action).OffersActive self := by
  by_cases ha : ∀ plan now c request, action ≠ .provide plan now c request
  case pos =>
    have ⟨hs, hh⟩ := perform_offers ext self node ha
    refine .of_rows fun p o provided hp => ?_
    rw [hs]
    exact h p o provided (hh p o provided hp) |>.1
  case neg =>
    simp only [not_forall, not_not] at ha
    obtain ⟨plan, now, c, request, rfl⟩ := ha
    refine .of_rows fun p o provided hp => ?_
    have hc : handleProviderProvideRequest plan now self node c request =
      (_, node.perform ext self (.provide plan now c request)) := rfl
    rcases handleProviderProvideRequest_cases hc with ⟨hd, hh⟩ | ⟨hm, i, hu, hh⟩
    case inl =>
      rw [hd]
      exact h p o provided (hh p o provided hp) |>.1
    case inr =>
      rcases hh p o provided hp with hp | ⟨rfl, rfl, rfl⟩
      · exact upsert_keeps_active hu (h p o provided hp).1 rfl
      · exact upsert_returns hu fun ho => hn ⟨hm, ho⟩

theorem offersActive_start {db : Database} : (start db now).OffersActive self := by
  rintro p o provided ⟨_, _, h, _⟩
  simp [start] at h

-- In every run in which no offer is provided while another payload of it is still active, the offers
-- that the modules hold name their active snapshots.
theorem offersActive_of_run {db : Database} {tr : List (Node × Action)} {node : Node}
    (r : Run (step ext self) (start db now) tr node)
    (h : Meets (fun node action => ¬action.Supersedes self node) tr) : node.OffersActive self :=
  r.invariant_of_meets h offersActive_start fun _ _ _ hi hc h => Option.some.inj h ▸ hi.perform hc

-- Two connections provide an offer one after the other.
private def provideSample (connection : Nat) (payload : String) : Action :=
  .provide .scan 0 connection ⟨"protocol", "offer", payload⟩

theorem offersActive_of_run_sample : ∃ tr node, Run (step .sample ⟨[0]⟩) (start ∅ 0) tr node ∧
    node.provider.Holds "protocol" "offer" ⟨1, "payload"⟩ ∧ node.OffersActive ⟨[0]⟩ := by
  have r : Run (step .sample ⟨[0]⟩) (start ∅ 0) _ _ :=
    .cons (l := provideSample 0 "payload") rfl .nil
  refine ⟨_, _, r, .of_module (i := 0) (by decide +kernel), offersActive_of_run r ?_⟩
  intro p hp
  obtain rfl := List.mem_singleton.mp hp
  exact fun ⟨_, _, _, h, _⟩ => nomatch h

-- An offer is provided, its module leaves, and another module provides it with a new payload.
theorem not_offersActive : ¬∀ (ext : External) (self : PeerId) (now : DateTime)
    (tr : List (Node × Action)) (node : Node), Run (step ext self) (start ∅ now) tr node →
    node.OffersActive self := by
  intro h
  have r : Run (step .sample ⟨[0]⟩) (start ∅ 0) _ _ :=
    .cons (l := provideSample 0 "old") rfl <| .cons (l := .close 0 0) rfl <|
      .cons (l := provideSample 1 "new") rfl .nil
  have ⟨hr, _⟩ := h _ _ _ _ _ r "protocol" "offer" ⟨1, "new"⟩ <|
    .of_module (i := 1) (by decide +kernel)
  exact absurd hr (by decide +kernel)

end Node
end Derouter
