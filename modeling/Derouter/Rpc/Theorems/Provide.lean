import Derouter.Db.Theorems.Offers
import Derouter.Rpc.Provide

open Sql

namespace Derouter

variable {plan : Plan (Rowid × OfferSnapshotRow)} {now : DateTime} {self : PeerId}
variable {node : Node} {c : Nat} {request : ProviderProvideRequest}

namespace ProviderState

variable {provider provider' : ProviderState}

theorem findOrCreateModule_holds (h : provider.findOrCreateModule c id? = (found, provider'))
    (hh : provider'.Holds p o provided) : provider.Holds p o provided := by
  cases id? <;> obtain ⟨-, rfl⟩ := Prod.mk.inj h
  case some => exact hh
  case none =>
    rcases holds_setModule (s := provider) hh with hm | hh
    · simp at hm
    · exact hh

theorem findOrCreateModule_module (h : provider.findOrCreateModule c id? = (some (i, m), provider'))
    (hh : m.offers.get? p o = some provided) : provider.Holds p o provided := by
  cases id? <;> obtain ⟨hf, -⟩ := Prod.mk.inj h
  case some =>
    have ⟨m', hm, he⟩ := Option.map_eq_some_iff.mp hf
    obtain ⟨rfl, rfl⟩ := Prod.mk.inj he
    exact ⟨_, _, hm, hh⟩
  case none =>
    split at hf <;> try contradiction
    obtain ⟨-, rfl⟩ := Prod.mk.inj <| Option.some.inj hf
    simp at hh

end ProviderState

theorem handleProviderProvideRequest_cases
    (h : handleProviderProvideRequest plan now self node c request = (response, node')) :
    (node'.db = node.db ∧ ∀ p o provided,
      node'.provider.Holds p o provided → node.provider.Holds p o provided) ∨
    (node.provider.offersModuleMap.get? request.protocolId request.offerId = none ∧ ∃ i,
      upsert plan node.db self request.offerId request.protocolId request.protocolPayload =
        some (i, node'.db) ∧
      ∀ p o provided, node'.provider.Holds p o provided →
        node.provider.Holds p o provided ∨
        (p = request.protocolId ∧ o = request.offerId ∧ provided = ⟨i, request.protocolPayload⟩)) := by
  simp only [handleProviderProvideRequest] at h
  split at h
  case isTrue =>
    obtain ⟨-, rfl⟩ := Prod.mk.inj h
    exact .inl ⟨rfl, fun _ _ _ => id⟩
  case isFalse hn =>
  split at h
  case h_1 hf =>
    obtain ⟨-, rfl⟩ := Prod.mk.inj h
    exact .inl ⟨rfl, fun _ _ _ => ProviderState.findOrCreateModule_holds hf⟩
  case h_2 i m provider hf =>
  -- The provider with the module found, whose map for the protocol exists.
  have hm : ∀ p o provided, (provider.setModule i { m with
      offers := m.offers.ensureProtocol request.protocolId }).Holds p o provided →
      node.provider.Holds p o provided := by
    intro p o provided hh
    rcases ProviderState.holds_setModule hh with hh | hh
    · exact ProviderState.findOrCreateModule_module hf <| by simpa using hh
    · exact ProviderState.findOrCreateModule_holds hf hh
  split at h
  case h_1 =>
    obtain ⟨-, rfl⟩ := Prod.mk.inj h
    exact .inl ⟨rfl, hm⟩
  case h_2 rowid db hu =>
  -- The provider after the insertion of the provided offer.
  have hs : ∀ p o provided, ((provider.setModule i { m with
      offers := m.offers.ensureProtocol request.protocolId }).setModule i { m with
      offers := (m.offers.ensureProtocol request.protocolId).set request.protocolId request.offerId
        ⟨rowid, request.protocolPayload⟩ }).Holds p o provided →
      node.provider.Holds p o provided ∨ (p = request.protocolId ∧ o = request.offerId ∧
        provided = ⟨rowid, request.protocolPayload⟩) := by
    intro p o provided hh
    rcases ProviderState.holds_setModule hh with hh | hh
    · rcases OfferMap.get?_set_cases hh with hh | ⟨_, hh⟩
      · exact .inr hh
      · exact .inl <| ProviderState.findOrCreateModule_module hf <| by simpa using hh
    · exact .inl <| hm p o provided hh
  have hn : node.provider.offersModuleMap.get? request.protocolId request.offerId = none := by
    simpa using hn
  split at h <;> obtain ⟨-, rfl⟩ := Prod.mk.inj h
  case isTrue  => exact .inr ⟨hn, rowid, hu, hs⟩
  case isFalse => exact .inr ⟨hn, rowid, hu, hs⟩

theorem closeConnection_db : (closeConnection now node c).db = node.db := by
  simp only [closeConnection]
  split <;> try rfl
  split <;> try rfl
  split <;> rfl

theorem closeConnection_holds (h : (closeConnection now node c).provider.Holds p o provided) :
    node.provider.Holds p o provided := by
  have he : ∀ i, { node.provider with modules := node.provider.modules.erase i }.Holds p o provided →
      node.provider.Holds p o provided := by
    rintro i ⟨j, m, hm, ho⟩
    by_cases hj : j = i
    case pos =>
      rw [hj, AList.lookup_erase] at hm
      contradiction
    case neg => exact ⟨j, m, AList.lookup_erase_ne hj ▸ hm, ho⟩
  simp only [closeConnection] at h
  split at h
  case h_1 => exact h
  case h_2 i _ =>
    split at h
    case h_1 => exact h
    case h_2 =>
      split at h
      · exact he i h
      · exact he i h

end Derouter
