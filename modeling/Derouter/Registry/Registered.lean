import Derouter.Registry.Effects

open Sql

namespace Derouter
namespace Node

variable {node node' : Node} {c c' : Nat} {m m' : UInt32}

-- Every module belongs to a connection that is listed.
def Owned (node : Node) : Prop :=
  ∀ m, (node.provider.modules.lookup m).isSome → ∃ c, node.connections.lookup c = some m

theorem Registered.start {db : Database} : (Node.start db now).Registered :=
  Synced.start.registered

theorem Registered.withDb (h : node.Registered) (db : Database) :
    Node.Registered { node with db } :=
  { h with }

namespace Provided

variable {request : ProviderProvideRequest} {rowid : Rowid}

theorem lookup_self (hp : node.Provided c request m rowid node') :
    node'.connections.lookup c = some m := by
  rw [hp.connections, AList.lookup_insert]

theorem lookup_ne (hp : node.Provided c request m rowid node') (hc : c' ≠ c) :
    node'.connections.lookup c' = node.connections.lookup c' := by
  rw [hp.connections, AList.lookup_insert_ne hc]

theorem eq_of_lookup (h : node.Registered) (hp : node.Provided c request m rowid node')
    (hl : node.connections.lookup c' = some m) : c' = c := by
  rcases hp.module with ⟨hc, _⟩ | ⟨_, _, hm, _⟩
  case inl => exact h.unique c' c m hl hc
  case inr => simpa [hm] using h.module c' m hl

theorem registered (h : node.Registered) (hp : node.Provided c request m rowid node')
    (hn : node.provider.offersModuleMap.get? request.protocolId request.offerId = none) :
    node'.Registered := by
  constructor
  case module =>
    intro c' m' hl
    rw [hp.modules]
    by_cases hc : c' = c
    case pos =>
      rw [hc, hp.lookup_self] at hl
      exact .inl (Option.some.inj hl).symm
    case neg => exact .inr <| h.module c' m' (hp.lookup_ne hc ▸ hl)
  case unique =>
    intro c₁ c₂ m' h₁ h₂
    by_cases hc₁ : c₁ = c <;> by_cases hc₂ : c₂ = c
    case pos => rw [hc₁, hc₂]
    case neg =>
      rw [hc₁, hp.lookup_self] at h₁
      rw [hp.lookup_ne hc₂, ← h₁] at h₂
      exact hc₁.trans (hp.eq_of_lookup h h₂).symm
    case pos =>
      rw [hc₂, hp.lookup_self] at h₂
      rw [hp.lookup_ne hc₁, ← h₂] at h₁
      exact (hp.eq_of_lookup h h₁).trans hc₂.symm
    case neg => exact h.unique c₁ c₂ m' (hp.lookup_ne hc₁ ▸ h₁) (hp.lookup_ne hc₂ ▸ h₂)
  case mapped =>
    intro p o m' hh
    rw [hp.held] at hh
    rw [hp.map]
    by_cases hk : p = request.protocolId ∧ o = request.offerId
    case pos =>
      obtain ⟨rfl, rfl⟩ := hk
      by_cases hm : m' = m
      case pos => rw [hm, OfferMap.get?_set_self]
      case neg =>
        have hh := h.mapped _ _ m' (by simpa [hm] using hh)
        simp [hn] at hh
    case neg =>
      rw [OfferMap.get?_set_ne hk]
      rw [if_neg fun he => hk he.2] at hh
      exact h.mapped p o m' hh
  case inhabited => exact hp.inhabited h.inhabited

theorem owned (h : node.Owned) (hp : node.Provided c request m rowid node') : node'.Owned := by
  intro m' hm
  cases (hp.modules m').mp hm
  case inl hm => exact ⟨c, hm ▸ hp.lookup_self⟩
  case inr hm =>
    obtain ⟨c', hc'⟩ := h m' hm
    by_cases hc : c' = c
    case neg => exact ⟨c', (hp.lookup_ne hc).trans hc'⟩
    case pos =>
      subst hc
      rcases hp.module with ⟨hc, _⟩ | ⟨hc, _⟩
      case inl => exact ⟨c', hp.lookup_self.trans (hc.symm.trans hc')⟩
      case inr => simp [hc] at hc'

end Provided

namespace Closed

theorem held (hc : node.Closed c m node') (m' : UInt32) (p o : String) :
    node'.provider.held m' p o = if m' = m then none else node.provider.held m' p o := by
  rw [ProviderState.held, hc.modules]
  split
  case isTrue hm  => rw [hm, AList.lookup_erase, Option.bind_none]
  case isFalse hm => rw [AList.lookup_erase_ne hm, ProviderState.held]

theorem receiver_eq_some_iff (hc : node.Closed c m node') :
    node'.provider.receiver m' = some c' ↔ m' ≠ m ∧ node.provider.receiver m' = some c' := by
  rw [ProviderState.receiver, hc.modules]
  by_cases h : m' = m
  case pos =>
    subst h
    simp
  case neg => simp [h, AList.lookup_erase_ne h, ProviderState.receiver]

theorem lookup_eq_some_iff (hc : node.Closed c m node') :
    node'.connections.lookup c' = some m' ↔ c' ≠ c ∧ node.connections.lookup c' = some m' := by
  rw [hc.connections]
  by_cases h : c' = c
  case pos =>
    subst h
    simp
  case neg => simp [h, AList.lookup_erase_ne h]

-- Each offer has one module, so that those of the ended connection are told apart by their module.
theorem registered (h : node.Registered) (hl : node.connections.lookup c = some m)
    (hc : node.Closed c m node') : node'.Registered := by
  constructor
  case module =>
    intro c' m' hl'
    obtain ⟨hne, hl'⟩ := hc.lookup_eq_some_iff.mp hl'
    have hm : m' ≠ m := fun he => hne (h.unique c' c m (he ▸ hl') hl)
    rw [hc.modules, AList.lookup_erase_ne hm]
    exact h.module c' m' hl'
  case unique =>
    intro c₁ c₂ m' h₁ h₂
    exact h.unique c₁ c₂ m' (hc.lookup_eq_some_iff.mp h₁).2 (hc.lookup_eq_some_iff.mp h₂).2
  case mapped =>
    intro p o m' hh
    rw [hc.held] at hh
    split at hh
    case isTrue => simp at hh
    case isFalse hm =>
      have hp := h.mapped p o m' hh
      rw [hc.map, if_neg, hp]
      intro hh'
      have hp' := h.mapped p o m hh'
      exact hm (Option.some.inj (hp.symm.trans hp'))
  case inhabited =>
    intro i module p os hm hos
    rw [hc.modules] at hm
    by_cases he : i = m
    case pos =>
      subst he
      simp at hm
    case neg => exact h.inhabited i module p os (AList.lookup_erase_ne he ▸ hm) hos

theorem owned (h : node.Owned) (hl : node.connections.lookup c = some m)
    (hc : node.Closed c m node') : node'.Owned := by
  intro m' hm
  rw [hc.modules] at hm
  by_cases he : m' = m
  case pos =>
    subst he
    simp at hm
  case neg =>
    obtain ⟨c', hl'⟩ := h m' (AList.lookup_erase_ne he ▸ hm)
    refine ⟨c', hc.lookup_eq_some_iff.mpr ⟨?_, hl'⟩⟩
    rintro rfl
    exact he (Option.some.inj (hl'.symm.trans hl))

end Closed

namespace Overrun

theorem registered (h : node.Registered) (ho : node.Overrun c node') : node'.Registered where
  module    := fun c' m hl => (ho.modules m).mpr <| h.module c' m (ho.connections c' ▸ hl)
  unique    := by
    intro c₁ c₂ m h₁ h₂
    rw [ho.connections] at h₁ h₂
    exact h.unique c₁ c₂ m h₁ h₂
  mapped    := by
    intro p o m hh
    obtain ⟨provided, hh⟩ := Option.isSome_iff_exists.mp hh
    rw [ho.map]
    exact h.mapped p o m (by rw [ho.held m p o provided hh, Option.isSome_some])
  inhabited := ho.inhabited h.inhabited

end Overrun

theorem lookup_drop (cs : List Nat) (c : Nat) : (node.drop cs).connections.lookup c =
    if c ∈ cs then none else node.connections.lookup c := by
  suffices h : ∀ connections : HashMap Nat UInt32,
      (cs.foldl (fun m c => m.erase c) connections).lookup c =
        if c ∈ cs then none else connections.lookup c from h _
  induction cs
  case nil => simp
  case cons d cs hi =>
    intro connections
    rw [List.foldl_cons, hi]
    by_cases hc : c = d
    case pos =>
      subst hc
      simp
    case neg => simp [hc, AList.lookup_erase_ne hc]

theorem lookup_drop_eq_some_iff (cs : List Nat) (c : Nat) :
    (node.drop cs).connections.lookup c = some m ↔
      c ∉ cs ∧ node.connections.lookup c = some m := by
  rw [lookup_drop]
  split <;> simp_all

theorem Registered.drop (h : node.Registered) (cs : List Nat) : (node.drop cs).Registered where
  module    := fun c m hl => h.module c m ((lookup_drop_eq_some_iff cs c).mp hl).2
  unique    := fun c c' m hl hl' => h.unique c c' m ((lookup_drop_eq_some_iff cs c).mp hl).2
    ((lookup_drop_eq_some_iff cs c').mp hl').2
  mapped    := h.mapped
  inhabited := h.inhabited

end Node

-- How a request to provide an offer ends at a node that can upsert the offer.
inductive Node.ProvideEnds (plan : Plan (Rowid × OfferSnapshotRow)) (self : PeerId) (node : Node)
    (c : Nat) (request : ProviderProvideRequest) : Option ProviderProvideResponse × Node → Prop
  | duplicate
      (taken : (node.provider.offersModuleMap.get? request.protocolId request.offerId).isSome) :
    ProvideEnds plan self node c request
      (some <| .duplicateOffer request.protocolId request.offerId, node)
  | ok (node' m rowid)
      (free : node.provider.offersModuleMap.get? request.protocolId request.offerId = none)
      (upserted : upsert plan node.db self request.offerId request.protocolId
        request.protocolPayload = some (rowid, node'.db))
      (provided : node.Provided c request m rowid node') :
    ProvideEnds plan self node c request (some .ok, node')
  | overrun (node')
      (free : node.provider.offersModuleMap.get? request.protocolId request.offerId = none)
      (overrun : node.Overrun c node') :
    ProvideEnds plan self node c request (none, node')

theorem Node.Registered.provideEnds {node : Node} (h : node.Registered)
    (hu : ∃ i db, upsert plan node.db self request.offerId request.protocolId
      request.protocolPayload = some (i, db)) :
    node.ProvideEnds plan self c request
      (handleProviderProvideRequest plan now self node c request) := by
  cases hn : node.provider.offersModuleMap.get? request.protocolId request.offerId
  case some m =>
    have ht : (node.provider.offersModuleMap.get? request.protocolId request.offerId).isSome := by
      simp [hn]
    rw [handleProviderProvideRequest_duplicate plan now self c ht]
    exact .duplicate ht
  case none =>
    by_cases ho : node.connections.lookup c = none ∧
        (node.provider.modules.lookup node.provider.moduleIdsCounter).isSome
    case pos =>
      obtain ⟨node', he, ho⟩ := handleProviderProvideRequest_overrun plan now self hn ho.1 ho.2
      exact he ▸ .overrun node' hn ho
    case neg =>
      have hf (m : UInt32) : node.provider.held m request.protocolId request.offerId = none := by
        refine Option.not_isSome_iff_eq_none.mp fun hh => ?_
        simpa [hn] using h.mapped _ _ m hh
      obtain ⟨node', he⟩ : ∃ node', handleProviderProvideRequest plan now self node c request =
          (some .ok, node') :=
        handleProviderProvideRequest_total hn (h.module c) (fun hc => by simpa [hc] using ho) hu hf
      obtain ⟨_, m, rowid, hu, hp⟩ := handleProviderProvideRequest_ok he
      exact he ▸ .ok node' m rowid hn hu hp

end Derouter
