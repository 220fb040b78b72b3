import Derouter.Lib.Loop
import Derouter.P2p.Heartbeat

namespace Derouter

-- An offer as a heartbeat shows it.
def ProvidedOffer.heartbeat (provided : ProvidedOffer) : ProviderOffer :=
  ⟨provided.protocolPayload⟩

namespace ProviderState

variable {offers : OfferMap ProviderOffer} {p o : String} {s : ProviderState}

-- The maps from both IDs to an offer that the three loops of a heartbeat add to.
def view (offers : OfferMap ProviderOffer) (k : String × String) : Option ProviderOffer :=
  offers.get? k.1 k.2

def offerPart (p : String) (e : Σ _ : String, ProvidedOffer) (k : String × String) :
    Option ProviderOffer :=
  if k = (p, e.1) then some e.2.heartbeat else none

def protocolPart (e : Σ _ : String, HashMap String ProvidedOffer) (k : String × String) :
    Option ProviderOffer :=
  if k.1 = e.1 then (e.2.lookup k.2).map (·.heartbeat) else none

def modulePart (e : Σ _ : UInt32, ProviderModuleState) (k : String × String) :
    Option ProviderOffer :=
  (e.2.offers.get? k.1 k.2).map (·.heartbeat)

theorem exists_offerPart_iff {provided : HashMap String ProvidedOffer} {k : String × String} :
    (∃ e ∈ provided.entries, offerPart p e k = some x) ↔ protocolPart ⟨p, provided⟩ k = some x := by
  obtain ⟨p', o⟩ := k
  simp only [offerPart, protocolPart, Option.ite_none_right_eq_some, Option.some.injEq,
    Option.map_eq_some_iff, Prod.mk.injEq]
  constructor
  case mp =>
    rintro ⟨e, he, ⟨rfl, rfl⟩, rfl⟩
    exact ⟨rfl, e.2, AList.mem_lookup_iff.mpr he, rfl⟩
  case mpr =>
    rintro ⟨rfl, offer, ho, rfl⟩
    exact ⟨⟨o, offer⟩, AList.mem_lookup_iff.mp ho, ⟨rfl, rfl⟩, rfl⟩

theorem exists_protocolPart_iff {offers : OfferMap ProvidedOffer} {k : String × String} :
    (∃ e ∈ offers.entries, protocolPart e k = some x) ↔
      (offers.get? k.1 k.2).map (·.heartbeat) = some x := by
  obtain ⟨p, o⟩ := k
  simp only [protocolPart, Option.ite_none_right_eq_some, Option.map_eq_some_iff, OfferMap.get?,
    Option.bind_eq_some_iff]
  constructor
  case mp =>
    rintro ⟨e, he, rfl, offer, ho, rfl⟩
    exact ⟨offer, ⟨e.2, AList.mem_lookup_iff.mpr he, ho⟩, rfl⟩
  case mpr =>
    rintro ⟨offer, ⟨os, hp, ho⟩, rfl⟩
    exact ⟨⟨p, os⟩, AList.mem_lookup_iff.mp hp, rfl, offer, ho, rfl⟩

theorem addHeartbeatOffer_ok {e : Σ _ : String, ProvidedOffer}
    (h : ∀ k, (offerPart p e k).isSome → view offers k = none) :
    ∃ offers', addHeartbeatOffer p offers e.1 e.2 = some offers' ∧
      ∀ k x, view offers' k = some x ↔ offerPart p e k = some x ∨ view offers k = some x := by
  have hf : offers.get? p e.1 = none := h (p, e.1) (by simp [offerPart])
  refine ⟨offers.set p e.1 e.2.heartbeat, ?_, fun k x => ?_⟩
  · simp [addHeartbeatOffer, hf, ProvidedOffer.heartbeat]
  · by_cases hk : k = (p, e.1)
    case pos => simp [hk, view, offerPart, hf]
    case neg =>
      have hk' : ¬(k.1 = p ∧ k.2 = e.1) := fun h => hk (Prod.ext h.1 h.2)
      simp [hk, view, offerPart, OfferMap.get?_set_ne hk']

theorem addHeartbeatProtocol_ok {e : Σ _ : String, HashMap String ProvidedOffer}
    (h : ∀ k, (protocolPart e k).isSome → view offers k = none) :
    ∃ offers', addHeartbeatProtocol offers e.1 e.2 = some offers' ∧
      ∀ k x, view offers' k = some x ↔ protocolPart e k = some x ∨ view offers k = some x := by
  have hv (k : String × String) : view (offers.ensureProtocol e.1) k = view offers k :=
    OfferMap.get?_ensureProtocol
  have hd : e.2.entries.Pairwise fun a a' => ∀ k, (offerPart e.1 a k).isSome →
      offerPart e.1 a' k = none := by
    refine (List.nodupKeys_iff_pairwise.mp e.2.nodupKeys).imp fun hn k hk => ?_
    obtain rfl : k = _ := by simpa [offerPart] using hk
    simp [offerPart, hn]
  have hf : ∀ a ∈ e.2.entries, ∀ k, (offerPart e.1 a k).isSome →
      view (offers.ensureProtocol e.1) k = none := by
    intro a ha k hk
    obtain ⟨x, hx⟩ := Option.isSome_iff_exists.mp hk
    have hp := exists_offerPart_iff.mp ⟨a, ha, hx⟩
    exact (hv k).trans <| h k (by simp [hp])
  obtain ⟨offers', he, hm⟩ := Loop.merge view (offerPart e.1)
    (f := fun offers a => addHeartbeatOffer e.1 offers a.1 a.2)
    (fun a _ b hf => addHeartbeatOffer_ok hf) hd hf
  exact ⟨offers', he, fun k x => by rw [hm, exists_offerPart_iff, hv]⟩

theorem addHeartbeatModule_ok {e : Σ _ : UInt32, ProviderModuleState}
    (h : ∀ k, (modulePart e k).isSome → view offers k = none) :
    ∃ offers', e.2.offers.entries.foldlM (fun offers e => addHeartbeatProtocol offers e.1 e.2)
        offers = some offers' ∧
      ∀ k x, view offers' k = some x ↔ modulePart e k = some x ∨ view offers k = some x := by
  have hd : e.2.offers.entries.Pairwise fun a a' => ∀ k, (protocolPart a k).isSome →
      protocolPart a' k = none := by
    refine (List.nodupKeys_iff_pairwise.mp e.2.offers.nodupKeys).imp fun hn k hk => ?_
    simp only [protocolPart] at hk ⊢
    split at hk
    case isTrue hp => rw [hp, if_neg hn]
    case isFalse   => contradiction
  have hf : ∀ a ∈ e.2.offers.entries, ∀ k, (protocolPart a k).isSome → view offers k = none := by
    intro a ha k hk
    obtain ⟨x, hx⟩ := Option.isSome_iff_exists.mp hk
    have hp := exists_protocolPart_iff.mp ⟨a, ha, hx⟩
    exact h k (by rw [modulePart, hp, Option.isSome_some])
  obtain ⟨offers', he, hm⟩ := Loop.merge view protocolPart
    (f := fun offers e => addHeartbeatProtocol offers e.1 e.2)
    (fun a _ b hf => addHeartbeatProtocol_ok hf) hd hf
  exact ⟨offers', he, fun k x => by rw [hm, exists_protocolPart_iff, modulePart]⟩

theorem heartbeatOffers_ok (hd : ∀ i j m m' p o, s.modules.lookup i = some m →
      s.modules.lookup j = some m' → (m.offers.get? p o).isSome → (m'.offers.get? p o).isSome →
      i = j) :
    ∃ offers, s.heartbeatOffers = some offers ∧ ∀ p o x, offers.get? p o = some x ↔
      ∃ provided, s.Holds p o provided ∧ provided.heartbeat = x := by
  have hl {e : Σ _ : UInt32, ProviderModuleState} (he : e ∈ s.modules.entries) :
      s.modules.lookup e.1 = some e.2 := AList.mem_lookup_iff.mpr he
  have hp : s.modules.entries.Pairwise fun a a' => ∀ k, (modulePart a k).isSome →
      modulePart a' k = none := by
    refine (List.nodupKeys_iff_pairwise.mp s.modules.nodupKeys).imp_of_mem fun ha ha' hn k hk => ?_
    refine Option.not_isSome_iff_eq_none.mp fun hk' => hn ?_
    simp only [modulePart, Option.isSome_map] at hk hk'
    exact hd _ _ _ _ k.1 k.2 (hl ha) (hl ha') hk hk'
  obtain ⟨offers, he, hm⟩ := Loop.merge view modulePart (b := (∅ : OfferMap ProviderOffer))
    (f := fun offers module => module.2.offers.entries.foldlM
      (fun offers e => addHeartbeatProtocol offers e.1 e.2) offers)
    (fun a _ b hf => addHeartbeatModule_ok hf) hp (fun _ _ _ _ => OfferMap.get?_empty)
  refine ⟨offers, he, fun p o x => (hm (p, o) x).trans ?_⟩
  simp only [view, OfferMap.get?_empty, reduceCtorEq, or_false, modulePart, Option.map_eq_some_iff]
  constructor
  case mp =>
    rintro ⟨e, he, provided, ho, rfl⟩
    exact ⟨provided, ⟨e.1, e.2, hl he, ho⟩, rfl⟩
  case mpr =>
    rintro ⟨provided, ⟨i, m, hi, ho⟩, rfl⟩
    exact ⟨⟨i, m⟩, AList.mem_lookup_iff.mp hi, provided, ho, rfl⟩

end ProviderState
end Derouter
