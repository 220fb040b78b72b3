import Mathlib.Data.List.AList
import Derouter.Dto

open Sql

namespace Derouter

-- `std::collections::HashMap`.
abbrev HashMap (κ α : Type) :=
  AList fun _ : κ => α

-- `ProtocolId` => `OfferId` => `α`.
abbrev OfferMap (α : Type) :=
  HashMap String (HashMap String α)

namespace OfferMap

variable {α : Type} {m : OfferMap α} {p p' o o' : String} {a : α}

def get? (m : OfferMap α) (protocolId offerId : String) : Option α :=
  (m.lookup protocolId).bind (·.lookup offerId)

def byProtocol (m : OfferMap α) (protocolId : String) : HashMap String α :=
  (m.lookup protocolId).getD ∅

-- Creates the protocol's map, unless it exists.
def ensureProtocol (m : OfferMap α) (protocolId : String) : OfferMap α :=
  m.insert protocolId (m.byProtocol protocolId)

def set (m : OfferMap α) (protocolId offerId : String) (a : α) : OfferMap α :=
  m.insert protocolId ((m.byProtocol protocolId).insert offerId a)

-- The entries in the order in which two nested loops visit them.
def toList (m : OfferMap α) : List (String × String × α) :=
  m.entries.flatMap fun e => e.2.entries.map fun f => (e.1, f.1, f.2)

theorem mem_toList_iff : (p, o, a) ∈ toList m ↔ get? m p o = some a := by
  simp only [toList, get?, List.mem_flatMap, List.mem_map, Prod.mk.injEq, Sigma.exists,
    Option.bind_eq_some_iff]
  constructor
  case mp =>
    intro ⟨_, os, hp, _, _, ho, h₁, h₂, h₃⟩
    subst h₁ h₂ h₃
    exact ⟨os, AList.mem_lookup_iff.mpr hp, AList.mem_lookup_iff.mpr ho⟩
  case mpr =>
    intro ⟨os, hp, ho⟩
    exact ⟨p, os, AList.mem_lookup_iff.mp hp, o, a, AList.mem_lookup_iff.mp ho, rfl, rfl, rfl⟩

theorem nodup_toList : ((toList m).map fun e => (e.1, e.2.1)).Nodup := by
  simp only [toList, List.map_flatMap, List.map_map]
  refine List.nodup_flatMap.mpr ⟨fun e _ => ?_, ?_⟩
  case refine_1 =>
    refine List.pairwise_map.mpr <| (List.nodupKeys_iff_pairwise.mp e.2.nodupKeys).imp ?_
    exact fun hn h => hn (Prod.mk.inj h).2
  case refine_2 =>
    refine (List.nodupKeys_iff_pairwise.mp m.nodupKeys).imp fun hn a ha hb => hn ?_
    obtain ⟨_, _, ha⟩ := List.mem_map.mp ha
    obtain ⟨_, _, hb⟩ := List.mem_map.mp hb
    exact (Prod.mk.inj (ha.trans hb.symm)).1

@[simp]
theorem get?_empty : get? (∅ : OfferMap α) p o = none := by
  simp [get?]

theorem lookup_byProtocol : (byProtocol m p).lookup o = get? m p o := by
  cases h : m.lookup p <;> simp [byProtocol, get?, h]

@[simp]
theorem get?_ensureProtocol : get? (ensureProtocol m p) p' o = get? m p' o := by
  by_cases hp : p' = p
  case pos =>
    subst hp
    have hl : (byProtocol m p').lookup o = get? m p' o := lookup_byProtocol
    simp [ensureProtocol, get?, hl]
  case neg => simp [ensureProtocol, get?, AList.lookup_insert_ne hp]

@[simp]
theorem get?_set_self : get? (set m p o a) p o = some a := by
  simp [get?, set]

theorem get?_set_ne (h : ¬(p' = p ∧ o' = o)) : get? (set m p o a) p' o' = get? m p' o' := by
  by_cases hp : p' = p
  case neg => simp [get?, set, AList.lookup_insert_ne hp]
  case pos =>
    subst hp
    have ho : o' ≠ o := fun ho => h ⟨rfl, ho⟩
    have hl : ((byProtocol m p').insert o a).lookup o' = get? m p' o' := by
      rw [AList.lookup_insert_ne ho, lookup_byProtocol]
    simp [get?, set, hl]

theorem get?_set_cases (h : get? (set m p o a) p' o' = some b) :
    (p' = p ∧ o' = o ∧ b = a) ∨ (¬(p' = p ∧ o' = o) ∧ get? m p' o' = some b) := by
  by_cases he : p' = p ∧ o' = o
  case pos =>
    obtain ⟨rfl, rfl⟩ := he
    exact .inl ⟨rfl, rfl, Option.some.inj (h.symm.trans get?_set_self)⟩
  case neg => exact .inr ⟨he, get?_set_ne he ▸ h⟩

end OfferMap

inductive RpcEvent
  | offerRemoved (offer : OfferRemoved)
  | offerUpdated (offer : OfferSnapshot)
  | providerHeartbeat (provider : ProviderHeartbeat)
  | providerUpdated (provider : ProviderRecord)
  | jobUpdated (job : JobRecord)
deriving DecidableEq

structure ProviderConfig where
  name        : Option String := none
  teaser      : Option String := none
  description : Option String := none

structure ProvidedOffer where
  snapshotRowid   : Rowid
  protocolPayload : String
deriving DecidableEq

structure ProviderModuleState where
  -- The connection whose task receives what is sent.
  outboundRequestTx : Nat
  -- Synchronized with the provider's `offersModuleMap`.
  offers            : OfferMap ProvidedOffer := ∅

structure ProviderState where
  -- Ever-incrementing module ID counter.
  moduleIdsCounter : UInt32                             := 0
  -- `ModuleId` => `Module`.
  modules          : HashMap UInt32 ProviderModuleState := ∅
  -- Synchronized with the according module's `offers`.
  offersModuleMap  : OfferMap UInt32                    := ∅
  -- When the provider data has been last time updated at.
  lastUpdatedAt    : DateTime

structure FoundProvidedOffer where
  moduleId : UInt32
  provided : ProvidedOffer

namespace ProviderState

-- Panics (`none`) when the module's offers are out of sync.
def findOffer (s : ProviderState) (protocolId offerId : String) :
    Option (Option FoundProvidedOffer) :=
  match s.offersModuleMap.get? protocolId offerId with
  | none => some none
  | some moduleId =>
    match (s.modules.lookup moduleId).bind (·.offers.get? protocolId offerId) with
    | none          => none
    | some provided => some <| some { moduleId, provided }

def setModule (s : ProviderState) (moduleId : UInt32) (m : ProviderModuleState) : ProviderState :=
  { s with modules := s.modules.insert moduleId m }

-- The connection that gets the requests to a module.
def receiver (s : ProviderState) (moduleId : UInt32) : Option Nat :=
  (s.modules.lookup moduleId).map (·.outboundRequestTx)

-- The offer is held by one of the modules.
def Holds (s : ProviderState) (protocolId offerId : String) (provided : ProvidedOffer) : Prop :=
  ∃ i m, s.modules.lookup i = some m ∧ m.offers.get? protocolId offerId = some provided

variable {s : ProviderState}

theorem Holds.of_module (h : (s.modules.lookup i).bind (·.offers.get? p o) = some provided) :
    s.Holds p o provided :=
  have ⟨m, hm, ho⟩ := Option.bind_eq_some_iff.mp h
  ⟨i, m, hm, ho⟩

theorem holds_setModule (h : (s.setModule i m).Holds p o provided) :
    m.offers.get? p o = some provided ∨ s.Holds p o provided := by
  obtain ⟨j, m', hm, ho⟩ := h
  by_cases hj : j = i
  case pos =>
    subst hj
    rw [setModule, AList.lookup_insert] at hm
    exact .inl <| Option.some.inj hm ▸ ho
  case neg =>
    rw [setModule, AList.lookup_insert_ne hj] at hm
    exact .inr ⟨j, m', hm, ho⟩

end ProviderState
end Derouter
