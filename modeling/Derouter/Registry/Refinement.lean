import Derouter.Db.Theorems.OwnOffers
import Derouter.P2p.Theorems.Send
import Derouter.Registry.Registered

open Sql Transition

namespace Derouter

variable {self : PeerId} {now : DateTime}

namespace Node

variable {node node' : Node} {c : Nat} {m : UInt32} {p o : String}

namespace Provided

variable {request : ProviderProvideRequest} {rowid : Rowid}

theorem synced (h : node.Synced) (hp : node.Provided c request m rowid node')
    (hn : node.provider.offersModuleMap.get? request.protocolId request.offerId = none) :
    node'.Synced := by
  constructor
  case module    => exact (hp.registered h.registered hn).module
  case unique    => exact (hp.registered h.registered hn).unique
  case owner     => exact hp.owned h.owner
  case inhabited => exact hp.inhabited h.inhabited
  case map =>
    intro p o m'
    rw [hp.map, hp.held]
    by_cases hk : p = request.protocolId ∧ o = request.offerId
    case neg =>
      rw [OfferMap.get?_set_ne hk, if_neg (fun he => hk he.2)]
      exact h.map p o m'
    case pos =>
      have hf := (h.map p o m').not.mp (by rw [hk.1, hk.2, hn]; exact nofun)
      obtain ⟨rfl, rfl⟩ := hk
      rw [OfferMap.get?_set_self, Option.some.injEq]
      by_cases hm : m' = m
      case pos => simp [hm]
      case neg => simpa [hm, Ne.symm hm] using hf

end Provided

namespace Closed

theorem synced (h : node.Synced) (hl : node.connections.lookup c = some m)
    (hc : node.Closed c m node') : node'.Synced := by
  constructor
  case module    => exact (hc.registered h.registered hl).module
  case unique    => exact (hc.registered h.registered hl).unique
  case inhabited => exact (hc.registered h.registered hl).inhabited
  case owner     => exact hc.owned h.owner hl
  case map =>
    intro p o m'
    rw [hc.map, hc.held]
    by_cases hh : (node.provider.held m p o).isSome
    case pos =>
      have hm := (h.map p o m).mpr hh
      rw [if_pos hh]
      by_cases he : m' = m
      case pos => simp [he]
      case neg =>
        have hn := (h.map p o m').not.mp (by rw [hm, Option.some.injEq]; exact Ne.symm he)
        simpa [he] using hn
    case neg =>
      rw [if_neg hh, h.map]
      by_cases he : m' = m
      case pos => simpa [he] using hh
      case neg => simp [he]

end Closed

namespace Synced

theorem findOffer_eq_none (h : node.provider.offersModuleMap.get? p o = none) :
    node.provider.findOffer p o = some none := by
  rw [ProviderState.findOffer, h]

theorem findOffer_eq_some (h : node.Synced) (hh : node.provider.held m p o = some provided) :
    node.provider.findOffer p o = some (some ⟨m, provided⟩) := by
  have hm := (h.map p o m).mpr (by rw [hh, Option.isSome_some])
  simp only [ProviderState.findOffer, hm]
  rw [ProviderState.held] at hh
  rw [hh]

theorem findOffer_cases (h : node.Synced) (p o : String) :
    (node.provider.findOffer p o = some none ∧ node.provider.offersModuleMap.get? p o = none) ∨
    ∃ m provided, node.provider.held m p o = some provided ∧
      node.provider.findOffer p o = some (some ⟨m, provided⟩) ∧
      node.provider.offersModuleMap.get? p o = some m := by
  cases hm : node.provider.offersModuleMap.get? p o
  case none => exact .inl ⟨findOffer_eq_none hm, rfl⟩
  case some m =>
    obtain ⟨provided, hh⟩ := Option.isSome_iff_exists.mp ((h.map p o m).mp hm)
    exact .inr ⟨m, provided, hh, h.findOffer_eq_some hh, rfl⟩

end Synced
end Node
namespace Registry

variable {s s' : Registry} {l : Label}

-- The node is in step with the history. The counter has not wrapped around yet.
structure Tracked (ourPeerId : PeerId) (s : Registry) : Prop where
  synced  : s.node.Synced
  db      : s.node.db.OwnActive ourPeerId
  counter : s.node.provider.moduleIdsCounter.toNat = s.registered
  below   : ∀ m, (s.node.provider.modules.lookup m).isSome → m.toNat < s.registered
  history : ∀ p o c payload, s.Provides p o c payload ↔ ∃ m provided,
    s.node.connections.lookup c = some m ∧ s.node.provider.held m p o = some provided ∧
      provided.protocolPayload = payload

namespace Tracked

theorem start {db : Database} (h : db.OwnActive self) : (Registry.start db now).Tracked self where
  synced  := .start
  db      := h
  counter := rfl
  below   := fun _ h => nomatch h
  history := by
    intro p o c payload
    refine iff_of_false Lease.not_stands_nil ?_
    rintro ⟨_, _, h, _⟩
    contradiction

theorem lookup_counter (h : s.Tracked self) :
    s.node.provider.modules.lookup s.node.provider.moduleIdsCounter = none := by
  refine Option.not_isSome_iff_eq_none.mp fun hm => ?_
  have hb := h.below _ hm
  rw [h.counter] at hb
  exact Nat.lt_irrefl _ hb

variable {plan : Plan (Rowid × OfferSnapshotRow)} {c : Nat} {request : ProviderProvideRequest}

theorem provide_total (h : s.Tracked self) (plan : Plan (Rowid × OfferSnapshotRow)) (now : DateTime)
    (c : Nat)
    (hn : s.node.provider.offersModuleMap.get? request.protocolId request.offerId = none) :
    ∃ node', handleProviderProvideRequest plan now self s.node c request = (some .ok, node') := by
  refine handleProviderProvideRequest_total hn (h.synced.module c) (fun _ => h.lookup_counter)
    (upsert_of_ownActive h.db _ _ _) fun m => ?_
  refine Option.not_isSome_iff_eq_none.mp fun hh => ?_
  simp [(h.synced.map _ _ m).mpr hh] at hn

theorem provided (h : s.Tracked self) {m : UInt32} {rowid : Rowid} {node' : Node}
    (hn : s.node.provider.offersModuleMap.get? request.protocolId request.offerId = none)
    (hu : upsert plan s.node.db self request.offerId request.protocolId request.protocolPayload =
      some (rowid, node'.db)) (hp : s.node.Provided c request m rowid node')
    (hb : s.registered + (registers s.node c request).toNat < UInt32.size) :
    Tracked self {
      node       := node'
      registered := s.registered + (registers s.node c request).toNat
      history    := .granted (request.protocolId, request.offerId) c request.protocolPayload ::
        s.history
    } := by
  have hs := hp.synced h.synced hn
  have hf (m : UInt32) : s.node.provider.held m request.protocolId request.offerId = none := by
    refine Option.not_isSome_iff_eq_none.mp fun hh => ?_
    simp [(h.synced.map _ _ m).mpr hh] at hn
  constructor
  case synced => exact hs
  case db     => exact h.db.upsert hu
  case counter =>
    rcases hp.module with ⟨hc, _, hk⟩ | ⟨hc, hm, _, hk⟩
    case inl => simp [hk, h.counter, registers, hc]
    case inr =>
      simp only [registers, hn, hc, Option.isNone_none, Bool.and_self, Bool.toNat_true] at hb ⊢
      rw [hk, hm, UInt32.toNat_add, h.counter]
      exact Nat.mod_eq_of_lt hb
  case below =>
    intro i hi
    have hr : s.registered ≤ s.registered + (registers s.node c request).toNat :=
      Nat.le_add_right _ _
    cases (hp.modules i).mp hi
    case inr hi => exact Nat.lt_of_lt_of_le (h.below i hi) hr
    case inl hi =>
      subst hi
      rcases hp.module with ⟨hc, hm, hk⟩ | ⟨hc, hm, _, hk⟩
      case inl => exact Nat.lt_of_lt_of_le (h.below i hm) hr
      case inr => simp [registers, hn, hc, hm, h.counter]
  case history =>
    intro p o c' payload
    refine Lease.stands_cons_iff.trans ?_
    by_cases hk : p = request.protocolId ∧ o = request.offerId
    case pos =>
      obtain ⟨rfl, rfl⟩ := hk
      simp only [Lease.Event.granted.injEq, true_and, hp.held, and_self, and_true, hf]
      constructor
      case mp =>
        rintro (⟨rfl, rfl⟩ | ⟨_, hg, _⟩)
        case inl => exact ⟨m, ⟨rowid, _⟩, hp.lookup_self, if_pos rfl, rfl⟩
        case inr => exact absurd rfl (hg c request.protocolPayload)
      case mpr =>
        rintro ⟨m', provided, hl, hh, rfl⟩
        split at hh <;> try contradiction
        case isTrue he =>
          subst he
          obtain rfl := Option.some.inj hh
          exact .inl ⟨hs.unique c c' m' hp.lookup_self hl, rfl⟩
    case neg =>
      have hne : ∀ c' payload', Lease.Event.granted (request.protocolId, request.offerId) c
          request.protocolPayload ≠ Lease.Event.granted (p, o) c' payload' := by
        intro c' payload' he
        obtain ⟨hk', -, -⟩ := Lease.Event.granted.inj he
        exact hk ⟨(Prod.mk.inj hk').1.symm, (Prod.mk.inj hk').2.symm⟩
      have hold := h.history p o c' payload
      simp only [hne, false_or, ne_eq, not_false_eq_true, implies_true, reduceCtorEq, and_true]
      refine hold.trans (exists_congr fun m' => exists_congr fun provided => ?_)
      have hh : node'.provider.held m' p o = s.node.provider.held m' p o := by
        rw [hp.held, if_neg fun he => hk he.2]
      rw [hh]
      refine and_congr_left fun ⟨hh, _⟩ => ?_
      by_cases hc : c' = c
      case neg => rw [hp.lookup_ne hc]
      case pos =>
        subst hc
        rw [hp.lookup_self]
        rcases hp.module with ⟨hc, _⟩ | ⟨hc, _, hm, _⟩
        case inl => rw [hc]
        case inr =>
          -- A new module holds no other offer.
          rw [hc]
          refine iff_of_false nofun ?_
          rintro hm'
          obtain rfl := Option.some.inj hm'
          simp [ProviderState.held, hm] at hh

theorem close (h : s.Tracked self) (now : DateTime) (c : Nat) :
    (s.next self (.close now c)).Tracked self := by
  have hstands (p o : String) (c' : Nat) (payload : String) :
      Lease.Stands (.ended c :: s.history) (p, o) c' payload ↔
        c' ≠ c ∧ s.Provides p o c' payload := by
    refine Lease.stands_cons_iff.trans ?_
    simp [Provides, and_comm, @eq_comm _ c]
  cases hc : s.node.connections.lookup c
  case none =>
    have he : closeConnection now s.node c = s.node := Node.closeConnection_none hc
    rw [next, he]
    refine ⟨h.synced, h.db, h.counter, h.below, fun p o c' payload => ?_⟩
    refine (hstands p o c' payload).trans ?_
    rw [h.history]
    refine and_iff_right_of_imp ?_
    rintro ⟨m, _, hl, _⟩ rfl
    simp [hc] at hl
  case some m =>
    have hcl : s.node.Closed c m (closeConnection now s.node c) := h.synced.registered.closed hc
    constructor
    case synced  => exact hcl.synced h.synced hc
    case db      => exact hcl.db.symm ▸ h.db
    case counter => exact (congrArg UInt32.toNat hcl.counter).trans h.counter
    case below =>
      intro i hi
      refine h.below i ?_
      simp only [next, hcl.modules] at hi
      by_cases he : i = m
      case neg => rwa [AList.lookup_erase_ne he] at hi
      case pos =>
        subst he
        simp at hi
    case history =>
      intro p o c' payload
      refine (hstands p o c' payload).trans ?_
      rw [h.history, ← exists_and_left]
      refine exists_congr fun m' => ?_
      rw [← exists_and_left]
      refine exists_congr fun provided => ?_
      simp only [next, hcl.lookup_eq_some_iff, hcl.held, and_assoc]
      refine and_congr_right fun hne => and_congr_right fun hl => ?_
      have hm : m' ≠ m := fun he => hne (h.synced.unique c' c m (he ▸ hl) hc)
      rw [if_neg hm]

theorem step (h : s.registered < UInt32.size → s.Tracked self) (hs : Registry.step self s l s') :
    s'.registered < UInt32.size → s'.Tracked self := by
  intro hb
  obtain rfl := Option.some.inj hs
  cases l
  case close now c => exact (h hb).close now c
  case provide plan now c request =>
    have h := h <| Nat.lt_of_le_of_lt (Nat.le_add_right _ _) hb
    cases hm : s.node.provider.offersModuleMap.get? request.protocolId request.offerId
    case some m =>
      have hd := handleProviderProvideRequest_duplicate plan now self c (by rw [hm, Option.isSome_some])
      have hr : registers s.node c request = false := by simp [registers, hm]
      have he : s.next self (.provide plan now c request) = s := by
        simp [next, hd, hr]
      exact he.symm ▸ h
    case none =>
      obtain ⟨node', hp⟩ := h.provide_total plan now c hm
      obtain ⟨_, m, rowid, hu, he⟩ := handleProviderProvideRequest_ok hp
      have hn : s.next self (.provide plan now c request) = {
        node       := node'
        registered := s.registered + (registers s.node c request).toNat
        history    := .granted (request.protocolId, request.offerId) c request.protocolPayload ::
          s.history
      } := by simp [next, hp]
      rw [hn] at hb ⊢
      exact h.provided hm hu he hb

end Tracked

theorem tracked_of_run {db : Database} {tr : List (Registry × Label)} (hdb : db.OwnActive self)
    (r : Run (Registry.step self) (start db now) tr s) (hb : s.registered < UInt32.size) :
    s.Tracked self :=
  r.invariant (I := fun s => s.registered < UInt32.size → s.Tracked self) (fun _ => .start hdb)
    (fun _ _ _ h hs => Tracked.step h hs) hb

-- The offers of a node are one map, from what its history provides.
structure Refines (ourPeerId : PeerId) (s : Registry) : Prop where
  -- A search finds the offer that is provided, with the module of its connection.
  findOffer : ∀ p o, ∃ found?, s.node.provider.findOffer p o = some found? ∧ ∀ moduleId payload,
    (∃ found, found? = some found ∧ found.moduleId = moduleId ∧
      found.provided.protocolPayload = payload) ↔
    ∃ c, s.node.connections.lookup c = some moduleId ∧ s.Provides p o c payload
  -- A request does not panic, and is answered `DuplicateOffer` exactly if a search finds the offer.
  provide   : ∀ plan now c request,
    (s.next ourPeerId (.provide plan now c request)).registered < UInt32.size →
    ∃ response, (handleProviderProvideRequest plan now ourPeerId s.node c request).1 = some response ∧
      (response = .duplicateOffer request.protocolId request.offerId ↔
        ∃ found, s.node.provider.findOffer request.protocolId request.offerId =
          some (some found)) ∧
      (response = .ok ↔
        s.node.provider.findOffer request.protocolId request.offerId = some none)
  -- The end of a connection withdraws the offers of its module, and no others.
  close     : ∀ now c, s.node.CleansUp c ∧ ∀ p o,
    (closeConnection now s.node c).provider.findOffer p o =
      (s.node.provider.findOffer p o).map fun found? => found?.filter fun found =>
        decide (s.node.connections.lookup c ≠ some found.moduleId)
  -- A heartbeat has the provided offers.
  heartbeat : ∀ config now,
    (∀ publish, maybeSendHeartbeat config publish now s.node.provider ≠ none) ∧
    ∃ sent?, maybeSendHeartbeat config (fun _ => none) now s.node.provider = some (.ok sent?) ∧
      ∀ p o payload, (∃ message details, sent? = some message ∧ message.provider = some details ∧
        details.offers.get? p o = some ⟨payload⟩) ↔ ∃ c, s.Provides p o c payload

namespace Tracked

theorem provides_iff (h : s.Tracked self) : (∃ c, s.Provides p o c payload) ↔
    ∃ provided, s.node.provider.Holds p o provided ∧ provided.protocolPayload = payload := by
  simp only [h.history, ProviderState.holds_iff]
  constructor
  case mp =>
    rintro ⟨c, m, provided, _, hh, he⟩
    exact ⟨provided, ⟨m, hh⟩, he⟩
  case mpr =>
    rintro ⟨provided, ⟨m, hh⟩, he⟩
    obtain ⟨module, hm, _⟩ := ProviderState.held_eq_some_iff.mp hh
    obtain ⟨c, hc⟩ := h.synced.owner m (by simp [hm])
    exact ⟨c, m, provided, hc, hh, he⟩

theorem findOffer (h : s.Tracked self) (p o : String) : ∃ found?,
    s.node.provider.findOffer p o = some found? ∧ ∀ moduleId payload,
      (∃ found, found? = some found ∧ found.moduleId = moduleId ∧
        found.provided.protocolPayload = payload) ↔
      ∃ c, s.node.connections.lookup c = some moduleId ∧ s.Provides p o c payload := by
  rcases h.synced.findOffer_cases p o with ⟨hf, hn⟩ | ⟨m, provided, hh, hf, hm⟩
  case inl =>
    refine ⟨none, hf, fun moduleId payload => iff_of_false ?_ ?_⟩
    · rintro ⟨_, h, _⟩
      contradiction
    · rintro ⟨c, _, hp⟩
      obtain ⟨m, _, _, hh, _⟩ := (h.history p o c payload).mp hp
      simp [(h.synced.map p o m).mpr (by simp [hh])] at hn
  case inr =>
    refine ⟨_, hf, fun moduleId payload => ?_⟩
    constructor
    case mp =>
      rintro ⟨_, he, rfl, rfl⟩
      obtain rfl := Option.some.inj he
      obtain ⟨module, hl, _⟩ := ProviderState.held_eq_some_iff.mp hh
      obtain ⟨c, hc⟩ := h.synced.owner m (by simp [hl])
      exact ⟨c, hc, (h.history p o c _).mpr ⟨m, provided, hc, hh, rfl⟩⟩
    case mpr =>
      rintro ⟨c, hc, hp⟩
      obtain ⟨m', provided', hc', hh', he⟩ := (h.history p o c payload).mp hp
      have hm' := (h.synced.map p o m').mpr (by simp [hh'])
      obtain rfl := Option.some.inj <| hm.symm.trans hm'
      obtain rfl := Option.some.inj <| hh.symm.trans hh'
      exact ⟨_, rfl, Option.some.inj <| hc'.symm.trans hc, he⟩

theorem provide (h : s.Tracked self) (plan : Plan (Rowid × OfferSnapshotRow)) (now : DateTime)
    (c : Nat) (request : ProviderProvideRequest) : ∃ response,
    (handleProviderProvideRequest plan now self s.node c request).1 = some response ∧
      (response = .duplicateOffer request.protocolId request.offerId ↔
        ∃ found, s.node.provider.findOffer request.protocolId request.offerId =
          some (some found)) ∧
      (response = .ok ↔
        s.node.provider.findOffer request.protocolId request.offerId = some none) := by
  rcases h.synced.findOffer_cases request.protocolId request.offerId with
    ⟨hf, hn⟩ | ⟨m, provided, _, hf, hm⟩
  case inl =>
    obtain ⟨node', hp⟩ := h.provide_total plan now c hn
    exact ⟨.ok, by rw [hp], by simp [hf], by simp [hf]⟩
  case inr =>
    have hd := handleProviderProvideRequest_duplicate plan now self c (by rw [hm, Option.isSome_some])
    exact ⟨_, by rw [hd], by simp [hf], by simp [hf]⟩

theorem closes (h : s.Tracked self) (now : DateTime) (c : Nat) (p o : String) :
    (closeConnection now s.node c).provider.findOffer p o =
      (s.node.provider.findOffer p o).map fun found? => found?.filter fun found =>
        decide (s.node.connections.lookup c ≠ some found.moduleId) := by
  cases hc : s.node.connections.lookup c
  case none =>
    rw [Node.closeConnection_none hc]
    rcases h.synced.findOffer_cases p o with ⟨hf, _⟩ | ⟨_, _, _, hf, _⟩ <;>
      simp [hf, Option.filter_some]
  case some m =>
    have hcl : s.node.Closed c m (closeConnection now s.node c) := h.synced.registered.closed hc
    have hs := hcl.synced h.synced hc
    rcases h.synced.findOffer_cases p o with ⟨hf, hn⟩ | ⟨m', provided, hh, hf, hm⟩
    case inl =>
      rw [hf, Node.Synced.findOffer_eq_none]
      · rfl
      · rw [hcl.map, hn, ite_self]
    case inr =>
      rw [hf]
      by_cases he : m' = m
      case pos =>
        subst he
        rw [Node.Synced.findOffer_eq_none (by rw [hcl.map, hh, Option.isSome_some, if_pos rfl])]
        simp [Option.filter_some]
      case neg =>
        rw [hs.findOffer_eq_some (by rw [hcl.held, if_neg he, hh])]
        simp [Option.filter_some, Ne.symm he]

theorem heartbeatOffers (h : s.Tracked self) : ∃ offers,
    s.node.provider.heartbeatOffers = some offers ∧
      ∀ p o payload, offers.get? p o = some ⟨payload⟩ ↔ ∃ c, s.Provides p o c payload := by
  have hd (i j : UInt32) (m m' : ProviderModuleState) (p o : String)
      (hi : s.node.provider.modules.lookup i = some m)
      (hj : s.node.provider.modules.lookup j = some m') (hm : (m.offers.get? p o).isSome)
      (hm' : (m'.offers.get? p o).isSome) : i = j := by
    have hi := (h.synced.map p o i).mpr (by rwa [ProviderState.held, hi, Option.bind_some])
    have hj := (h.synced.map p o j).mpr (by rwa [ProviderState.held, hj, Option.bind_some])
    exact Option.some.inj <| hi.symm.trans hj
  obtain ⟨offers, he, ho⟩ := ProviderState.heartbeatOffers_ok hd
  refine ⟨offers, he, fun p o payload => ?_⟩
  simp only [ho, h.provides_iff, ProvidedOffer.heartbeat, ProviderOffer.mk.injEq]

theorem heartbeat (h : s.Tracked self) (config : ProviderConfig) (now : DateTime) :
    (∀ publish, maybeSendHeartbeat config publish now s.node.provider ≠ none) ∧
    ∃ sent?, maybeSendHeartbeat config (fun _ => none) now s.node.provider = some (.ok sent?) ∧
      ∀ p o payload, (∃ message details, sent? = some message ∧ message.provider = some details ∧
        details.offers.get? p o = some ⟨payload⟩) ↔ ∃ c, s.Provides p o c payload := by
  obtain ⟨offers, he, ho⟩ := h.heartbeatOffers
  constructor
  case left =>
    intro publish
    simp only [maybeSendHeartbeat, he]
    split
    case isTrue  => exact nofun
    case isFalse => split <;> exact nofun
  case right =>
    simp only [maybeSendHeartbeat, he]
    split
    case isFalse =>
      refine ⟨_, rfl, fun p o payload => ?_⟩
      rw [← ho]
      simp
    case isTrue hn =>
      refine ⟨none, rfl, fun p o payload => iff_of_false ?_ ?_⟩
      · rintro ⟨_, _, h, _⟩
        contradiction
      · rw [h.provides_iff]
        rintro ⟨provided, ⟨m, module, hm, hh⟩, _⟩
        have hm := of_decide_eq_true <| List.all_eq_true.mp hn ⟨m, module⟩ <|
          AList.mem_lookup_iff.mp hm
        rw [OfferMap.get?, AList.lookup, hm] at hh
        contradiction

end Tracked

-- In every run of requests to provide offers and of ends of connections, which registers fewer modules
-- than there are IDs.
theorem refines_of_run {db : Database} {tr : List (Registry × Label)} (hdb : db.OwnActive self)
    (r : Run (step self) (start db now) tr s) (hb : s.registered < UInt32.size) : s.Refines self :=
  have h := tracked_of_run hdb r hb
  {
    findOffer := h.findOffer
    provide   := fun plan now c request _ => h.provide plan now c request
    close     := fun now c => ⟨h.synced.registered.cleansUp c, h.closes now c⟩
    heartbeat := h.heartbeat
  }

-- Two connections provide one offer after the other, with different payloads.
private def provides : List Label := [
  .provide .scan 0 0 ⟨"protocol", "offer", "old"⟩,
  .provide .scan 0 1 ⟨"protocol", "offer", "new"⟩,
  .close 0 0,
  .provide .scan 0 1 ⟨"protocol", "offer", "new"⟩
]

theorem refines_of_run_sample : ∃ tr s, Run (step ⟨[0]⟩) (start ∅ 0) tr s ∧
    tr.map (·.2) = provides ∧ s.registered = 2 ∧ s.Refines ⟨[0]⟩ := by
  obtain ⟨tr, r, ht⟩ := Run.foldl (next ⟨[0]⟩) (start ∅ 0) provides
  have hr : (provides.foldl (next ⟨[0]⟩) (start ∅ 0)).registered = 2 := by decide +kernel
  exact ⟨tr, _, r, ht, hr, refines_of_run .of_empty r (by rw [hr]; decide)⟩

end Registry
end Derouter
