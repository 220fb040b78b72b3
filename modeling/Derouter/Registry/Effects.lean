import Derouter.Registry
import Derouter.Rpc.Theorems.Close
import Derouter.Rpc.Theorems.Provide

open Sql Transition

namespace Derouter
namespace ProviderState

variable {s : ProviderState} {m m' : UInt32} {p o : String}

-- The offer as a module holds it.
def held (s : ProviderState) (moduleId : UInt32) (p o : String) : Option ProvidedOffer :=
  (s.modules.lookup moduleId).bind (·.offers.get? p o)

-- A module keeps no empty map for a protocol.
def Inhabited (s : ProviderState) : Prop :=
  ∀ i module p os, s.modules.lookup i = some module → module.offers.lookup p = some os → os ≠ ∅

theorem held_eq_some_iff : s.held m p o = some provided ↔
    ∃ module, s.modules.lookup m = some module ∧ module.offers.get? p o = some provided :=
  Option.bind_eq_some_iff

theorem holds_iff : s.Holds p o provided ↔ ∃ m, s.held m p o = some provided :=
  exists_congr fun _ => held_eq_some_iff.symm

end ProviderState

-- What a request that provides an offer does. Its module is the one of its connection, or a new one.
structure Node.Provided (node : Node) (c : Nat) (request : ProviderProvideRequest) (m : UInt32)
    (rowid : Rowid) (node' : Node) : Prop where
  module      : (node.connections.lookup c = some m ∧ (node.provider.modules.lookup m).isSome ∧
      node'.provider.moduleIdsCounter = node.provider.moduleIdsCounter) ∨
    (node.connections.lookup c = none ∧ m = node.provider.moduleIdsCounter ∧
      node.provider.modules.lookup m = none ∧ node'.provider.moduleIdsCounter = m + 1)
  connections : node'.connections = node.connections.insert c m
  map         : node'.provider.offersModuleMap =
    node.provider.offersModuleMap.set request.protocolId request.offerId m
  modules     : ∀ i, (node'.provider.modules.lookup i).isSome ↔
    i = m ∨ (node.provider.modules.lookup i).isSome
  receivers   : ∀ i, node'.provider.receiver i =
    if i = m ∧ node.connections.lookup c = none then some c else node.provider.receiver i
  held        : ∀ i p o, node'.provider.held i p o =
    if i = m ∧ p = request.protocolId ∧ o = request.offerId then
      some ⟨rowid, request.protocolPayload⟩
    else
      node.provider.held i p o
  inhabited   : node.provider.Inhabited → node'.provider.Inhabited

namespace ProviderState

variable {s s' : ProviderState} {m : UInt32} {module : ProviderModuleState}

theorem findOrCreateModule_ok {id? : Option UInt32}
    (h : s.findOrCreateModule c id? = (some (m, module), s')) :
    (id? = some m ∧ s.modules.lookup m = some module ∧ s' = s) ∨
    (id? = none ∧ m = s.moduleIdsCounter ∧ s.modules.lookup m = none ∧
      module = { outboundRequestTx := c } ∧
      s' = { s.setModule m { outboundRequestTx := c } with moduleIdsCounter := m + 1 }) := by
  cases id?
  case some i =>
    obtain ⟨hf, rfl⟩ := Prod.mk.inj h
    obtain ⟨_, hl, he⟩ := Option.map_eq_some_iff.mp hf
    obtain ⟨rfl, rfl⟩ := Prod.mk.inj he
    exact .inl ⟨rfl, hl, rfl⟩
  case none =>
    obtain ⟨hf, rfl⟩ := Prod.mk.inj h
    split at hf <;> try contradiction
    case _ hn =>
      obtain ⟨rfl, rfl⟩ := Prod.mk.inj <| Option.some.inj hf
      exact .inr ⟨rfl, rfl, by simpa using hn, rfl, rfl⟩

theorem findOrCreateModule_total {id? : Option UInt32} (c : Nat)
    (hm : ∀ m, id? = some m → (s.modules.lookup m).isSome)
    (hc : id? = none → s.modules.lookup s.moduleIdsCounter = none) :
    ∃ m module s', s.findOrCreateModule c id? = (some (m, module), s') := by
  cases id?
  case some m =>
    obtain ⟨module, hl⟩ := Option.isSome_iff_exists.mp (hm m rfl)
    exact ⟨m, module, s, by simp [findOrCreateModule, hl]⟩
  case none =>
    refine ⟨s.moduleIdsCounter, { outboundRequestTx := c },
      { s.setModule s.moduleIdsCounter { outboundRequestTx := c } with
        moduleIdsCounter := s.moduleIdsCounter + 1 }, ?_⟩
    rw [findOrCreateModule, hc rfl]
    rfl

theorem findOrCreateModule_offers {id? : Option UInt32}
    (h : s.findOrCreateModule c id? = (some (m, module), s')) :
    (∀ i, i ≠ m → s'.modules.lookup i = s.modules.lookup i) ∧
      (∀ p o, module.offers.get? p o = s.held m p o) ∧
      ∀ p os, module.offers.lookup p = some os →
        ∃ module, s.modules.lookup m = some module ∧ module.offers.lookup p = some os := by
  rcases findOrCreateModule_ok h with ⟨_, hl, rfl⟩ | ⟨_, _, hl, rfl, rfl⟩
  case inl =>
    refine ⟨fun _ _ => rfl, fun p o => ?_, fun p os hp => ⟨module, hl, hp⟩⟩
    rw [held, hl, Option.bind_some]
  case inr =>
    refine ⟨fun i hi => AList.lookup_insert_ne hi, fun p o => ?_, fun p os hp => ?_⟩
    · rw [held, hl, Option.bind_none, OfferMap.get?_empty]
    · simp at hp

theorem lookup_set_ensureProtocol {offers : OfferMap ProvidedOffer} {p p' o : String}
    {provided : ProvidedOffer} (hp : p' ≠ p) :
    ((offers.ensureProtocol p).set p o provided).lookup p' = offers.lookup p' := by
  rw [OfferMap.set, AList.lookup_insert_ne hp, OfferMap.ensureProtocol, AList.lookup_insert_ne hp]

end ProviderState

variable {plan : Plan (Rowid × OfferSnapshotRow)} {now : DateTime} {self : PeerId}
variable {node node' : Node} {c : Nat} {request : ProviderProvideRequest}

theorem handleProviderProvideRequest_ok
    (h : handleProviderProvideRequest plan now self node c request = (some .ok, node')) :
    node.provider.offersModuleMap.get? request.protocolId request.offerId = none ∧ ∃ m rowid,
      upsert plan node.db self request.offerId request.protocolId request.protocolPayload =
        some (rowid, node'.db) ∧ node.Provided c request m rowid node' := by
  simp only [handleProviderProvideRequest] at h
  split at h
  case isTrue => simp at h
  case isFalse hn =>
  split at h
  case h_1 => simp at h
  case h_2 m module provider hf =>
  split at h
  case h_1 => simp at h
  case h_2 rowid db hu =>
  split at h
  case isTrue => simp at h
  case isFalse hfree =>
  obtain ⟨-, rfl⟩ := Prod.mk.inj h
  obtain ⟨hs, ho, hp⟩ := ProviderState.findOrCreateModule_offers hf
  let offers := (module.offers.ensureProtocol request.protocolId).set request.protocolId
    request.offerId ⟨rowid, request.protocolPayload⟩
  let modules := (provider.modules.insert m
    { module with offers := module.offers.ensureProtocol request.protocolId }).insert m
      { module with offers }
  have hl (i : UInt32) : modules.lookup i =
      if i = m then some { module with offers } else node.provider.modules.lookup i := by
    by_cases hi : i = m
    case pos => rw [if_pos hi, hi, AList.lookup_insert]
    case neg => rw [if_neg hi, AList.lookup_insert_ne hi, AList.lookup_insert_ne hi, hs i hi]
  refine ⟨by simpa using hn, m, rowid, hu, ?_⟩
  constructor
  case module =>
    rcases ProviderState.findOrCreateModule_ok hf with ⟨hc, hm, rfl⟩ | ⟨hc, hm, hm', _, rfl⟩
    case inl => exact .inl ⟨hc, by rw [hm, Option.isSome_some], rfl⟩
    case inr => exact .inr ⟨hc, hm, hm', rfl⟩
  case connections => rfl
  case map =>
    rcases ProviderState.findOrCreateModule_ok hf with ⟨_, _, rfl⟩ | ⟨_, _, _, _, rfl⟩ <;> rfl
  case modules =>
    intro i
    refine (congrArg (·.isSome = true) (hl i)).to_iff.trans ?_
    by_cases hi : i = m <;> simp [hi]
  case receivers =>
    intro i
    refine (congrArg (Option.map (·.outboundRequestTx)) (hl i)).trans ?_
    by_cases hi : i = m
    case neg => simp [hi, ProviderState.receiver]
    case pos =>
      rw [if_pos hi, Option.map_some]
      rcases ProviderState.findOrCreateModule_ok hf with ⟨hc, hm, _⟩ | ⟨hc, _, _, hm, _⟩
      case inl =>
        rw [hi, if_neg fun hn => by simp [hc] at hn, ProviderState.receiver, hm, Option.map_some]
      case inr => rw [if_pos ⟨hi, hc⟩, hm]
  case held =>
    intro i p o
    refine (congrArg (·.bind fun m => m.offers.get? p o) (hl i)).trans ?_
    by_cases hi : i = m
    case neg => simp [hi, ProviderState.held]
    case pos =>
      simp only [hi, if_true, true_and, Option.bind_some]
      by_cases hk : p = request.protocolId ∧ o = request.offerId
      case pos =>
        rw [if_pos hk, hk.1, hk.2]
        exact OfferMap.get?_set_self
      case neg =>
        rw [if_neg hk, ← ho p o]
        exact (OfferMap.get?_set_ne hk).trans OfferMap.get?_ensureProtocol
  case inhabited =>
    intro hi i module' p os hm hos
    have hm := (hl i).symm.trans hm
    split at hm
    case isFalse => exact hi i module' p os hm hos
    case isTrue him =>
      obtain rfl := Option.some.inj hm
      by_cases hpr : p = request.protocolId
      case pos =>
        subst hpr
        obtain rfl := Option.some.inj <| (AList.lookup_insert _).symm.trans hos
        intro he
        have hn := AList.lookup_insert (β := fun _ => ProvidedOffer) (a := request.offerId)
          (b := ⟨rowid, request.protocolPayload⟩)
          ((module.offers.ensureProtocol request.protocolId).byProtocol request.protocolId)
        rw [he, AList.lookup_empty] at hn
        contradiction
      case neg =>
        have hos := (ProviderState.lookup_set_ensureProtocol hpr).symm.trans hos
        obtain ⟨module₀, hl₀, hos⟩ := hp p os hos
        exact hi m module₀ p os hl₀ hos

theorem handleProviderProvideRequest_duplicate (plan : Plan (Rowid × OfferSnapshotRow))
    (now : DateTime) (self : PeerId) (c : Nat)
    (h : (node.provider.offersModuleMap.get? request.protocolId request.offerId).isSome) :
    handleProviderProvideRequest plan now self node c request =
      (some (.duplicateOffer request.protocolId request.offerId), node) := by
  rw [handleProviderProvideRequest, if_pos h]

theorem handleProviderProvideRequest_total
    (hn : node.provider.offersModuleMap.get? request.protocolId request.offerId = none)
    (hm : ∀ m, node.connections.lookup c = some m → (node.provider.modules.lookup m).isSome)
    (hc : node.connections.lookup c = none →
      node.provider.modules.lookup node.provider.moduleIdsCounter = none)
    (hu : ∃ i db, upsert plan node.db self request.offerId request.protocolId
      request.protocolPayload = some (i, db))
    (hf : ∀ m, node.provider.held m request.protocolId request.offerId = none) :
    ∃ node', handleProviderProvideRequest plan now self node c request = (some .ok, node') := by
  obtain ⟨m, module, provider, hs⟩ := ProviderState.findOrCreateModule_total c hm hc
  obtain ⟨i, db, hu⟩ := hu
  have ho := (ProviderState.findOrCreateModule_offers hs).2.1 request.protocolId request.offerId
  rw [hf m] at ho
  exact ⟨_, by simp [handleProviderProvideRequest, hn, hs, hu, ho]; rfl⟩

-- What a request does whose new module gets the ID of an existing one: it puts an empty module in its
-- place.
structure Node.Overrun (node : Node) (c : Nat) (node' : Node) : Prop where
  connection  : node.connections.lookup c = none
  module      : (node.provider.modules.lookup node.provider.moduleIdsCounter).isSome
  db          : node'.db = node.db
  connections : ∀ c', node'.connections.lookup c' = node.connections.lookup c'
  map         : node'.provider.offersModuleMap = node.provider.offersModuleMap
  modules     : ∀ i, (node'.provider.modules.lookup i).isSome ↔
    (node.provider.modules.lookup i).isSome
  receivers   : ∀ i, node'.provider.receiver i =
    if i = node.provider.moduleIdsCounter then some c else node.provider.receiver i
  held        : ∀ i p o provided, node'.provider.held i p o = some provided →
    node.provider.held i p o = some provided
  inhabited   : node.provider.Inhabited → node'.provider.Inhabited

theorem handleProviderProvideRequest_overrun (plan : Plan (Rowid × OfferSnapshotRow))
    (now : DateTime) (self : PeerId)
    (hn : node.provider.offersModuleMap.get? request.protocolId request.offerId = none)
    (hc : node.connections.lookup c = none)
    (hm : (node.provider.modules.lookup node.provider.moduleIdsCounter).isSome) :
    ∃ node', handleProviderProvideRequest plan now self node c request = (none, node') ∧
      node.Overrun c node' := by
  let m := node.provider.moduleIdsCounter
  let provider := { node.provider.setModule m { outboundRequestTx := c } with
    moduleIdsCounter := m + 1 }
  have hl (i : UInt32) : provider.modules.lookup i =
      if i = m then some { outboundRequestTx := c } else node.provider.modules.lookup i := by
    by_cases hi : i = m
    case pos => rw [if_pos hi, hi]; exact AList.lookup_insert _
    case neg => rw [if_neg hi]; exact AList.lookup_insert_ne hi
  refine ⟨node.panicked c provider, ?_, ?_⟩
  · have hf : node.provider.findOrCreateModule c none = (none, provider) := by
      rw [ProviderState.findOrCreateModule, if_pos hm]
    simp [handleProviderProvideRequest, hn, hc, hf]
  constructor
  case connection => exact hc
  case module     => exact hm
  case db         => rfl
  case map        => rfl
  case connections =>
    intro c'
    by_cases he : c' = c
    case pos => rw [he, hc]; exact AList.lookup_erase ..
    case neg => exact AList.lookup_erase_ne he
  case modules =>
    intro i
    refine (congrArg (·.isSome = true) (hl i)).to_iff.trans ?_
    by_cases hi : i = m
    case pos => exact iff_of_true (by simp [hi]) (hi ▸ hm)
    case neg => simp [hi]
  case receivers =>
    intro i
    refine (congrArg (Option.map (·.outboundRequestTx)) (hl i)).trans ?_
    split <;> rfl
  case held =>
    intro i p o provided hh
    replace hh : (provider.modules.lookup i).bind (·.offers.get? p o) = some provided := hh
    rw [hl] at hh
    split at hh
    case isTrue  => simp at hh
    case isFalse => exact hh
  case inhabited =>
    intro h i module p os hi hos
    replace hi : provider.modules.lookup i = some module := hi
    rw [hl] at hi
    split at hi
    case isTrue =>
      obtain rfl := Option.some.inj hi
      simp at hos
    case isFalse => exact h i module p os hi hos

namespace Node

-- Each module belongs to the one connection that lists it, and the map of the provider has exactly
-- the offers that the modules hold.
structure Synced (node : Node) : Prop where
  module    : ∀ c m, node.connections.lookup c = some m → (node.provider.modules.lookup m).isSome
  owner     : ∀ m, (node.provider.modules.lookup m).isSome → ∃ c, node.connections.lookup c = some m
  unique    : ∀ c c' m, node.connections.lookup c = some m → node.connections.lookup c' = some m →
    c = c'
  map       : ∀ p o m, node.provider.offersModuleMap.get? p o = some m ↔
    (node.provider.held m p o).isSome
  inhabited : node.provider.Inhabited

-- What a node keeps even when connections end without a cleanup: some of its modules may belong to no
-- connection, and the map of the provider may have more than the modules hold.
structure Registered (node : Node) : Prop where
  module    : ∀ c m, node.connections.lookup c = some m → (node.provider.modules.lookup m).isSome
  unique    : ∀ c c' m, node.connections.lookup c = some m → node.connections.lookup c' = some m →
    c = c'
  mapped    : ∀ p o m, (node.provider.held m p o).isSome →
    node.provider.offersModuleMap.get? p o = some m
  inhabited : node.provider.Inhabited

theorem Synced.start {db : Database} : (Node.start db now).Synced where
  module    := fun _ _ h => nomatch h
  owner     := fun _ h => nomatch h
  unique    := fun _ _ _ h => nomatch h
  map       := fun _ _ _ => by simp [Node.start, ProviderState.held]
  inhabited := fun _ _ _ _ h => nomatch h

theorem Synced.registered (h : node.Synced) : node.Registered where
  module    := h.module
  unique    := h.unique
  mapped    := fun p o m => (h.map p o m).mpr
  inhabited := h.inhabited

namespace Registered

variable {m : UInt32} {module : ProviderModuleState}

theorem removeProtocols (h : node.Registered) (hm : node.provider.modules.lookup m = some module) :
    ∃ map, ProviderState.removeProtocols node.provider.offersModuleMap
        (module.offers.entries.map fun e => (e.1, e.2)) = .ok map ∧
      ∀ p o, map.get? p o = if (node.provider.held m p o).isSome then none
        else node.provider.offersModuleMap.get? p o := by
  have hheld (p o : String) : node.provider.held m p o = module.offers.get? p o := by
    rw [ProviderState.held, hm, Option.bind_some]
  have hmem {e : String × HashMap String ProvidedOffer}
      (he : e ∈ module.offers.entries.map fun e => (e.1, e.2)) :
      module.offers.lookup e.1 = some e.2 := by
    obtain ⟨e', he', rfl⟩ := List.mem_map.mp he
    exact AList.mem_lookup_iff.mpr he'
  have hget {e : String × HashMap String ProvidedOffer} {o : String}
      (he : e ∈ module.offers.entries.map fun e => (e.1, e.2)) :
      o ∈ e.2.keys ↔ (node.provider.held m e.1 o).isSome := by
    rw [hheld, OfferMap.get?, hmem he, Option.bind_some, AList.lookup_isSome, AList.mem_keys]
  have hn : ((module.offers.entries.map fun e => (e.1, e.2)).map (·.1)).Nodup := by
    rw [List.map_map]
    exact module.offers.keys_nodup
  have hne : ∀ e ∈ module.offers.entries.map fun e => (e.1, e.2), e.2.keys ≠ [] := by
    intro e he hk
    refine h.inhabited m module e.1 e.2 hm (hmem he) ?_
    exact AList.ext (List.map_eq_nil_iff.mp hk)
  have hs : ∀ e ∈ module.offers.entries.map fun e => (e.1, e.2), ∀ o ∈ e.2.keys,
      (node.provider.offersModuleMap.get? e.1 o).isSome := by
    intro e he o ho
    rw [h.mapped e.1 o m ((hget he).mp ho), Option.isSome_some]
  obtain ⟨map, hr, h₁, h₂⟩ := ProviderState.removeProtocols_ok hn hne hs
  refine ⟨map, hr, fun p o => ?_⟩
  split
  case isTrue ho =>
    rw [hheld, OfferMap.get?] at ho
    obtain ⟨_, ho⟩ := Option.isSome_iff_exists.mp ho
    obtain ⟨os, hp, ho⟩ := Option.bind_eq_some_iff.mp ho
    have he : (p, os) ∈ module.offers.entries.map fun e => (e.1, e.2) :=
      List.mem_map.mpr ⟨⟨p, os⟩, AList.mem_lookup_iff.mp hp, rfl⟩
    exact h₁ _ he o (AList.mem_keys.mp <| AList.lookup_isSome.mp <| by simp [ho])
  case isFalse ho =>
    refine h₂ p o fun e he hp hk => ho ?_
    exact hp ▸ (hget he).mp hk

end Registered

-- What the end of a connection does when it has a module.
structure Closed (node : Node) (c : Nat) (m : UInt32) (node' : Node) : Prop where
  db          : node'.db = node.db
  connections : node'.connections = node.connections.erase c
  modules     : node'.provider.modules = node.provider.modules.erase m
  counter     : node'.provider.moduleIdsCounter = node.provider.moduleIdsCounter
  map         : ∀ p o, node'.provider.offersModuleMap.get? p o =
    if (node.provider.held m p o).isSome then none else node.provider.offersModuleMap.get? p o

theorem Registered.cleansUp (h : node.Registered) (c : Nat) : node.CleansUp c := by
  intro m hc
  obtain ⟨module, hm⟩ := Option.isSome_iff_exists.mp (h.module c m hc)
  obtain ⟨map, hr, _⟩ := h.removeProtocols hm
  exact ⟨module, map, hm, hr⟩

theorem closeConnection_none (hc : node.connections.lookup c = none) :
    closeConnection now node c = node := by
  rw [closeConnection, hc]

theorem Registered.closed {m : UInt32} (h : node.Registered) (hc : node.connections.lookup c = some m) :
    node.Closed c m (closeConnection now node c) := by
  obtain ⟨module, hm⟩ := Option.isSome_iff_exists.mp (h.module c m hc)
  obtain ⟨map, hr, hl⟩ := h.removeProtocols hm
  have he : closeConnection now node c = { node with
      connections := node.connections.erase c
      provider    := { node.provider with
        modules         := node.provider.modules.erase m
        offersModuleMap := map
        lastUpdatedAt   := now
      }
    } := by simp [closeConnection, hc, hm, hr]
  rw [he]
  exact ⟨rfl, rfl, rfl, rfl, hl⟩

end Node
end Derouter
