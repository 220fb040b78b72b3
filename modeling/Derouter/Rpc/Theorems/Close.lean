import Derouter.Rpc.Provide

namespace Derouter
namespace ProviderState

theorem removeOffers_ok {offers : HashMap String UInt32} {offerIds : List String}
    (hn : offerIds.Nodup) (h : ∀ o ∈ offerIds, (offers.lookup o).isSome) :
    ∃ offers', removeOffers offers offerIds = .ok offers' ∧
      ∀ o, offers'.lookup o = if o ∈ offerIds then none else offers.lookup o := by
  induction offerIds generalizing offers
  case nil => exact ⟨offers, rfl, fun o => by simp⟩
  case cons offerId offerIds hi =>
    obtain ⟨hm, hn⟩ := List.nodup_cons.mp hn
    obtain ⟨_, hl⟩ := Option.isSome_iff_exists.mp (h offerId List.mem_cons_self)
    have hr : ∀ o ∈ offerIds, ((offers.erase offerId).lookup o).isSome := by
      intro o ho
      have hne : o ≠ offerId := fun he => hm (he ▸ ho)
      rw [AList.lookup_erase_ne hne]
      exact h o (List.mem_cons_of_mem _ ho)
    obtain ⟨offers', he, ho⟩ := hi hn hr
    refine ⟨offers', by rw [removeOffers, hl]; exact he, fun o => ?_⟩
    rw [ho]
    by_cases hne : o = offerId
    case pos =>
      subst hne
      simp [hm]
    case neg => simp [hne, AList.lookup_erase_ne hne]

-- The map after the removal of some offers of one protocol, which goes if it has no others.
theorem get?_prune {map : OfferMap UInt32} {offers : HashMap String UInt32} {p p' o : String} :
    OfferMap.get? (if offers.keys = [] then (map.insert p offers).erase p else map.insert p offers)
      p' o = if p' = p then offers.lookup o else map.get? p' o := by
  by_cases hp : p' = p
  case neg =>
    simp only [hp, if_false]
    split <;> simp [OfferMap.get?, AList.lookup_erase_ne hp, AList.lookup_insert_ne hp]
  case pos =>
    subst hp
    simp only [if_true]
    split
    case isFalse => simp [OfferMap.get?]
    case isTrue he =>
      have hn : offers.lookup o = none := by
        rw [AList.lookup_eq_none, AList.mem_keys, he]
        exact List.not_mem_nil
      simp [OfferMap.get?, hn]

theorem removeProtocols_ok {map : OfferMap UInt32}
    {protocols : List (String × HashMap String ProvidedOffer)}
    (hn : (protocols.map (·.1)).Nodup) (he : ∀ e ∈ protocols, e.2.keys ≠ [])
    (h : ∀ e ∈ protocols, ∀ o ∈ e.2.keys, (map.get? e.1 o).isSome) :
    ∃ map', removeProtocols map protocols = .ok map' ∧
      (∀ e ∈ protocols, ∀ o ∈ e.2.keys, map'.get? e.1 o = none) ∧
      ∀ p o, (∀ e ∈ protocols, e.1 = p → o ∉ e.2.keys) → map'.get? p o = map.get? p o := by
  induction protocols generalizing map
  case nil => exact ⟨map, rfl, fun _ h => absurd h List.not_mem_nil, fun _ _ _ => rfl⟩
  case cons e protocols hi =>
    obtain ⟨p, os⟩ := e
    obtain ⟨hm, hn⟩ := List.nodup_cons.mp hn
    have hne {e' : String × HashMap String ProvidedOffer} (he' : e' ∈ protocols) : e'.1 ≠ p := by
      rintro rfl
      exact hm (List.mem_map.mpr ⟨e', he', rfl⟩)
    have ⟨o₀, ho₀⟩ := List.exists_mem_of_ne_nil _ (he _ List.mem_cons_self)
    -- The protocol has a map, as one of the removed offers is there.
    obtain ⟨offers, hl⟩ : ∃ offers, map.lookup p = some offers := by
      have hs := h _ List.mem_cons_self o₀ ho₀
      obtain ⟨_, hs⟩ := Option.isSome_iff_exists.mp hs
      obtain ⟨offers, hl, -⟩ := Option.bind_eq_some_iff.mp hs
      exact ⟨offers, hl⟩
    have hg (o : String) : map.get? p o = offers.lookup o := by simp [OfferMap.get?, hl]
    obtain ⟨offers', hr, hl'⟩ := removeOffers_ok os.keys_nodup fun o ho =>
      hg o ▸ h _ List.mem_cons_self o ho
    let map₁ : OfferMap UInt32 :=
      if offers'.keys = [] then (map.insert p offers').erase p else map.insert p offers'
    have hg₁ {p' o : String} (hp : p' ≠ p) : map₁.get? p' o = map.get? p' o := by
      rw [get?_prune, if_neg hp]
    have hg₂ (o : String) : map₁.get? p o = offers'.lookup o := by rw [get?_prune, if_pos rfl]
    have hs₁ : ∀ e' ∈ protocols, ∀ o ∈ e'.2.keys, (map₁.get? e'.1 o).isSome := fun e' he' o ho =>
      hg₁ (hne he') ▸ h e' (List.mem_cons_of_mem _ he') o ho
    obtain ⟨map', hr', h₁, h₂⟩ := hi hn (fun e' he' => he e' (List.mem_cons_of_mem _ he')) hs₁
    refine ⟨map', ?_, ?_, ?_⟩
    · simp only [removeProtocols, hl, hr]
      exact hr'
    · intro e' he' o ho
      cases List.mem_cons.mp he'
      case inr he' => exact h₁ e' he' o ho
      case inl he' =>
        subst he'
        have hfree : ∀ e' ∈ protocols, e'.1 = p → o ∉ e'.2.keys := fun _ hm h => absurd h (hne hm)
        rw [h₂ p o hfree, hg₂, hl', if_pos ho]
    · intro p' o hfree
      rw [h₂ p' o fun e' he' => hfree e' (List.mem_cons_of_mem _ he')]
      by_cases hp : p' = p
      case neg => exact hg₁ hp
      case pos =>
        subst hp
        rw [hg₂, hl', if_neg (hfree _ List.mem_cons_self rfl), hg]

end ProviderState
end Derouter
