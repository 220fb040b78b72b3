import Derouter.ConsumerView.Rows

open Sql

namespace Derouter

variable {db db' : Database} {self consumer : PeerId} {plan plan' : Plan (Rowid × OfferSnapshotRow)}

-- An upsert of a node's own offer writes the row that it returns, and no other one. The row is new, or
-- it is the one that the offer has already.
structure Database.Upserts (ourPeerId : PeerId) (protocolId offerId payload : String) (db : Database)
    (i : Rowid) (r : OfferSnapshotRow) (db' : Database) : Prop where
  serviceJobs : db'.serviceJobs = db.serviceJobs
  rows        : ∀ k s, db'.offerSnapshots.get? k = some s ↔
    db.offerSnapshots.get? k = some s ∨ (k = i ∧ s = r)
  sameOffer   : r.SameOffer (.provided ourPeerId protocolId offerId payload)
  row         : db.offerSnapshots.get? i = some r ∨ (r = .provided ourPeerId protocolId offerId payload ∧
    ∀ k s, db.offerSnapshots.get? k = some s → ¬s.SameOffer (.provided ourPeerId protocolId offerId payload))

theorem Database.OwnActive.upserts (ho : db.OwnActive self)
    (h : Derouter.upsert plan db self o p l = some (i, db')) : ∃ r, db.Upserts self p o l i r db' := by
  obtain ⟨hj, _, hc⟩ := Database.upsertSnapshot?_cases h
  rw [ensurePeer_offerSnapshots] at hc
  cases hc
  case inl hc =>
    obtain ⟨hi, ht⟩ := hc
    have hg (k : Rowid) : db'.offerSnapshots.get? k = if k = i then
        some (.provided self p o l) else db.offerSnapshots.get? k := by
      rw [ht, hi, Table.get?_insert]
    refine ⟨.provided self p o l, hj.trans ensurePeer_serviceJobs, fun k s => ?_, ⟨rfl, rfl, rfl⟩,
      .inr ⟨rfl, fun k s hs hso => ?_⟩⟩
    case refine_1 =>
      rw [hg]
      split
      case isTrue hk =>
        subst hk
        have hn : db.offerSnapshots.get? k = none := by rw [hi, Table.get?_nextRowid]
        simp only [hn, reduceCtorEq, true_and, false_or, Option.some.injEq]
        exact eq_comm
      case isFalse hk => simp only [hk, false_and, or_false]
    case refine_2 =>
      have hne : k ≠ i := fun hk => Table.ne_nextRowid hs (hk.trans hi)
      have hs' : db'.offerSnapshots.get? k = some s := by rw [hg, if_neg hne, hs]
      have hi' : db'.offerSnapshots.get? i = some (.provided self p o l) := by rw [hg, if_pos rfl]
      exact hne <| active_unique hs' hi' hso (ho k s hs hso.1) rfl
  case inr hc =>
    obtain ⟨b, hb, ⟨k, hr, _, hb'⟩, ht⟩ := hc
    have hso := (OfferSnapshotRow.exists_shared_key_iff.mp ⟨k, hb', hr⟩).1
    have he : b.activate = b := by rw [OfferSnapshotRow.activate, ← ho i b hb hso.1]
    refine ⟨b, hj.trans ensurePeer_serviceJobs, fun k s => ?_, hso, .inl hb⟩
    rw [ht, Table.get?_update]
    split
    case isTrue hk =>
      simp only [hk, hb, he, Option.map_some, Option.some.injEq, true_and]
      exact (or_iff_left_of_imp Eq.symm).symm
    case isFalse hk => simp only [hk, false_and, or_false]

namespace Database.Upserts

variable {p o l : String} {i i' : Rowid} {r r' : OfferSnapshotRow}

theorem get?_self (hu : db.Upserts self p o l i r db') : db'.offerSnapshots.get? i = some r :=
  (hu.rows i r).mpr (.inr ⟨rfl, rfl⟩)

theorem keeps (hu : db.Upserts self p o l i r db') (hs : db.offerSnapshots.get? k = some s) :
    db'.offerSnapshots.get? k = some s :=
  (hu.rows k s).mpr (.inl hs)

theorem mem_joined_iff (hu : db.Upserts self p o l i r db') {j : JobJoin} :
    j ∈ db'.joined ↔ j ∈ db.joined := by
  rw [Database.mem_joined_iff, Database.mem_joined_iff, hu.serviceJobs]
  refine and_congr_right fun hr => ?_
  obtain ⟨s, hs⟩ := db.jobSnapshot hr
  rw [hs, hu.keeps hs]

theorem agree {d d' : Database} (hu : db.Upserts self p o l i r db')
    (hu' : d.Upserts self p o l i' r' d') (hd : d.OwnActive self)
    (hs : ∀ s, s.providerPeerId = self →
      ((∃ i, db.offerSnapshots.get? i = some s) ↔ ∃ i, d.offerSnapshots.get? i = some s)) :
    r = r' := by
  rcases hu.row with hr | ⟨hr, hn⟩ <;> rcases hu'.row with hr' | ⟨hr', hn'⟩
  · obtain ⟨k, hk⟩ := (hs r hu.sameOffer.1).mp ⟨i, hr⟩
    have hso : r.SameOffer r' := ⟨hu.sameOffer.1.trans hu'.sameOffer.1.symm,
      hu.sameOffer.2.1.trans hu'.sameOffer.2.1.symm, hu.sameOffer.2.2.trans hu'.sameOffer.2.2.symm⟩
    obtain rfl := active_unique hk hr' hso (hd k r hk hu.sameOffer.1) (hd i' r' hr' hu'.sameOffer.1)
    exact Option.some.inj (hk.symm.trans hr')
  · obtain ⟨k, hk⟩ := (hs r hu.sameOffer.1).mp ⟨i, hr⟩
    exact absurd hu.sameOffer (hn' k r hk)
  · obtain ⟨k, hk⟩ := (hs r' hu'.sameOffer.1).mpr ⟨i', hr'⟩
    exact absurd hu'.sameOffer (hn k r' hk)
  · rw [hr, hr']

end Database.Upserts

namespace ConsumerView

variable {node node' node₁ node₁' : Node} {c : Nat} {m : UInt32} {now : DateTime}
variable {request : ProviderProvideRequest}

theorem resolve_congr {provided : ProvidedOffer}
    (hb : ∃ s, db.offerSnapshots.get? provided.snapshotRowid = some s ∧ s.providerPeerId = self)
    (hs : ∀ k s, s.providerPeerId = self → db.offerSnapshots.get? k = some s →
      db'.offerSnapshots.get? k = some s) : provided.resolve db' = provided.resolve db := by
  obtain ⟨s, hg, hp⟩ := hb
  rw [ProvidedOffer.resolve, ProvidedOffer.resolve, hg, hs _ s hp hg]

theorem Sound.held_resolve (h : Sound self node) (hs : ∀ k s, s.providerPeerId = self →
    node.db.offerSnapshots.get? k = some s → db.offerSnapshots.get? k = some s) (m : UInt32)
    (p o : String) : (node.provider.held m p o).map (ProvidedOffer.resolve db) =
      (node.provider.held m p o).map (ProvidedOffer.resolve node.db) := by
  cases hh : node.provider.held m p o
  case none          => rfl
  case some provided => exact congrArg some <| resolve_congr (h.backed m p o provided hh) hs

theorem Sound.provided (h : Sound self node)
    (hu : upsert plan node.db self request.offerId request.protocolId request.protocolPayload =
      some (rowid, node₁.db))
    (hn : node.provider.offersModuleMap.get? request.protocolId request.offerId = none)
    (hp : node.Provided c request m rowid node₁) : Sound self node₁ := by
  obtain ⟨r, hr⟩ := h.own.upserts hu
  constructor
  case registered => exact hp.registered h.registered hn
  case own        => exact h.own.upsert hu
  case distinct   =>
    intro j hj j' hj'
    exact h.distinct j (hr.mem_joined_iff.mp hj) j' (hr.mem_joined_iff.mp hj')
  case backed =>
    intro i p o provided hh
    rw [hp.held] at hh
    split at hh
    case isTrue  => exact Option.some.inj hh ▸ upsert_provider hu
    case isFalse =>
      obtain ⟨s, hs, hself⟩ := h.backed i p o provided hh
      exact ⟨s, hr.keeps hs, hself⟩

-- The provider after a module has got the ID of an existing one.
def overrun (provider : ProviderState) (c : Nat) : ProviderState :=
  { provider.setModule provider.moduleIdsCounter { outboundRequestTx := c } with
    moduleIdsCounter := provider.moduleIdsCounter + 1
  }

theorem lookup_overrun (provider : ProviderState) (c : Nat) (i : UInt32) :
    (overrun provider c).modules.lookup i = if i = provider.moduleIdsCounter then
      some { outboundRequestTx := c } else provider.modules.lookup i := by
  by_cases hi : i = provider.moduleIdsCounter
  case pos =>
    rw [if_pos hi, hi]
    exact AList.lookup_insert _
  case neg =>
    rw [if_neg hi]
    exact AList.lookup_insert_ne hi

theorem held_overrun (provider : ProviderState) (c : Nat) (i : UInt32) (p o : String) :
    (overrun provider c).held i p o =
      if i = provider.moduleIdsCounter then none else provider.held i p o := by
  rw [ProviderState.held, lookup_overrun]
  split
  case isTrue  => rw [Option.bind_some, OfferMap.get?_empty]
  case isFalse => rfl

theorem handleProviderProvideRequest_overruns
    (hn : node.provider.offersModuleMap.get? request.protocolId request.offerId = none)
    (hc : node.connections.lookup c = none)
    (hm : (node.provider.modules.lookup node.provider.moduleIdsCounter).isSome) :
    handleProviderProvideRequest plan now self node c request =
      (none, node.panicked c (overrun node.provider c)) := by
  have hf : node.provider.findOrCreateModule c none = (none, overrun node.provider c) := by
    rw [ProviderState.findOrCreateModule, if_pos hm, overrun]
  simp [handleProviderProvideRequest, hn, hc, hf]

theorem Sound.overruns (h : Sound self node)
    (hn : node.provider.offersModuleMap.get? request.protocolId request.offerId = none)
    (hc : node.connections.lookup c = none)
    (hm : (node.provider.modules.lookup node.provider.moduleIdsCounter).isSome) :
    Sound self (node.panicked c (overrun node.provider c)) := by
  obtain ⟨node₁, he, ho⟩ := handleProviderProvideRequest_overrun .scan DateTime.zero self hn hc hm
  obtain ⟨-, rfl⟩ := Prod.mk.inj <|
    (handleProviderProvideRequest_overruns hn hc hm).symm.trans he
  refine ⟨ho.registered h.registered, h.own, h.distinct, fun m p o provided hh => ?_⟩
  exact h.backed m p o provided (ho.held m p o provided hh)

theorem Sound.closed (h : Sound self node) (hl : node.connections.lookup c = some m)
    (hc : node.Closed c m node₁) : Sound self node₁ where
  registered := hc.registered h.registered hl
  own        := hc.db ▸ h.own
  distinct   := hc.db ▸ h.distinct
  backed     := fun i p o provided hh => by
    rw [hc.held] at hh
    split at hh
    case isTrue  => contradiction
    case isFalse => exact hc.db ▸ h.backed i p o provided hh

theorem Sound.restart (h : Sound self node) (now : DateTime) : Sound self (.start node.db now) where
  registered := .start
  own        := h.own
  distinct   := h.distinct
  backed     := fun _ _ _ _ hh => nomatch hh

namespace Alike

theorem held_isSome (h : Alike self consumer node node') (m : UInt32) (p o : String) :
    (node.provider.held m p o).isSome = (node'.provider.held m p o).isSome := by
  have he := congrArg Option.isSome (h.held m p o)
  rwa [Option.isSome_map, Option.isSome_map] at he

theorem provided (h : Alike self consumer node node')
    (hu : upsert plan node.db self request.offerId request.protocolId request.protocolPayload =
      some (rowid, node₁.db))
    (hu' : upsert plan' node'.db self request.offerId request.protocolId request.protocolPayload =
      some (rowid', node₁'.db))
    (hn : node.provider.offersModuleMap.get? request.protocolId request.offerId = none)
    (hp : node.Provided c request m rowid node₁) (hp' : node'.Provided c request m' rowid' node₁') :
    Alike self consumer node₁ node₁' := by
  have hn' := (h.map request.protocolId request.offerId).symm.trans hn
  obtain ⟨r, hr⟩ := h.sound.own.upserts hu
  obtain ⟨r', hr'⟩ := h.sound'.own.upserts hu'
  obtain rfl := hr.agree hr' h.sound'.own h.snapshots
  have hm : m = m' ∧ node₁.provider.moduleIdsCounter = node₁'.provider.moduleIdsCounter := by
    rcases hp.module with ⟨hc, _, hk⟩ | ⟨hc, hm, _, hk⟩ <;>
      rcases hp'.module with ⟨hc', _, hk'⟩ | ⟨hc', hm', _, hk'⟩ <;> rw [h.connections, hc'] at hc
    · exact ⟨(Option.some.inj hc).symm, by rw [hk, hk', h.counter]⟩
    · contradiction
    · contradiction
    · exact ⟨by rw [hm, hm', h.counter], by rw [hk, hk', hm, hm', h.counter]⟩
  obtain ⟨rfl, hk⟩ := hm
  constructor
  case sound   => exact h.sound.provided hu hn hp
  case sound'  => exact h.sound'.provided hu' hn' hp'
  case counter => exact hk
  case connections =>
    intro c'
    rw [hp.connections, hp'.connections]
    by_cases hc : c' = c
    case pos => rw [hc, AList.lookup_insert, AList.lookup_insert]
    case neg => rw [AList.lookup_insert_ne hc, AList.lookup_insert_ne hc, h.connections]
  case map =>
    intro p o
    rw [hp.map, hp'.map]
    by_cases hk : p = request.protocolId ∧ o = request.offerId
    case pos => rw [hk.1, hk.2, OfferMap.get?_set_self, OfferMap.get?_set_self]
    case neg => rw [OfferMap.get?_set_ne hk, OfferMap.get?_set_ne hk, h.map]
  case modules =>
    intro i
    rw [hp.modules, hp'.modules, h.modules]
  case held =>
    intro i p o
    rw [hp.held, hp'.held]
    split
    case isTrue =>
      simp only [Option.map_some, ProvidedOffer.resolve, hr.get?_self, hr'.get?_self]
    case isFalse =>
      rw [h.sound.held_resolve (fun _ _ _ => hr.keeps), h.sound'.held_resolve (fun _ _ _ => hr'.keeps),
        h.held]
  case snapshots =>
    intro s hs
    simp only [hr.rows, hr'.rows, exists_or, h.snapshots s hs, exists_eq_left]
  case jobs =>
    intro t ht
    simp only [Database.Shows, hr.mem_joined_iff, hr'.mem_joined_iff]
    exact h.jobs t ht
  case ids =>
    intro jobId
    simp only [Database.HasJob, hr.mem_joined_iff, hr'.mem_joined_iff]
    exact h.ids jobId

theorem overruns (h : Alike self consumer node node')
    (hn : node.provider.offersModuleMap.get? request.protocolId request.offerId = none)
    (hc : node.connections.lookup c = none)
    (hm : (node.provider.modules.lookup node.provider.moduleIdsCounter).isSome) :
    Alike self consumer (node.panicked c (overrun node.provider c))
      (node'.panicked c (overrun node'.provider c)) := by
  have hn' := (h.map request.protocolId request.offerId).symm.trans hn
  have hc' := (h.connections c).symm.trans hc
  have hm' := h.counter ▸ (h.modules _).mp hm
  have he (c' : Nat) (node : Node) (hc : node.connections.lookup c = none) :
      (node.connections.erase c).lookup c' = node.connections.lookup c' := by
    by_cases hk : c' = c
    case pos => rw [hk, AList.lookup_erase, hc]
    case neg => rw [AList.lookup_erase_ne hk]
  constructor
  case sound     => exact h.sound.overruns hn hc hm
  case sound'    => exact h.sound'.overruns hn' hc' hm'
  case counter   => exact congrArg (· + 1) h.counter
  case map       => exact h.map
  case snapshots => exact h.snapshots
  case jobs      => exact h.jobs
  case ids       => exact h.ids
  case connections => exact fun c' => (he c' node hc).trans <| (h.connections c').trans <|
    (he c' node' hc').symm
  case modules =>
    intro i
    simp only [Node.panicked, lookup_overrun, h.counter]
    split
    case isTrue  => rfl
    case isFalse => exact h.modules i
  case held =>
    intro i p o
    simp only [Node.panicked, held_overrun, h.counter]
    split
    case isTrue  => rfl
    case isFalse => exact h.held i p o

theorem provide (h : Alike self consumer node node') (plan : Plan (Rowid × OfferSnapshotRow))
    (now : DateTime) (c : Nat) (request : ProviderProvideRequest) :
    Alike self consumer (handleProviderProvideRequest plan now self node c request).2
      (handleProviderProvideRequest plan now self node' c request).2 := by
  have hm := h.map request.protocolId request.offerId
  cases hn : node.provider.offersModuleMap.get? request.protocolId request.offerId
  case some =>
    rw [handleProviderProvideRequest_duplicate plan now self c (by simp [hn]),
      handleProviderProvideRequest_duplicate plan now self c (by simp [← hm, hn])]
    exact h
  case none =>
    have hn' := hm.symm.trans hn
    by_cases ho : node.connections.lookup c = none ∧
        (node.provider.modules.lookup node.provider.moduleIdsCounter).isSome
    case pos =>
      rw [handleProviderProvideRequest_overruns hn ho.1 ho.2,
        handleProviderProvideRequest_overruns hn' ((h.connections c).symm.trans ho.1)
          (h.counter ▸ (h.modules _).mp ho.2)]
      exact h.overruns hn ho.1 ho.2
    case neg =>
      have ht {node : Node} (hs : Sound self node)
          (hn : node.provider.offersModuleMap.get? request.protocolId request.offerId = none)
          (ho : ¬(node.connections.lookup c = none ∧
            (node.provider.modules.lookup node.provider.moduleIdsCounter).isSome)) :
          ∃ node₁, handleProviderProvideRequest plan now self node c request = (some .ok, node₁) := by
        refine handleProviderProvideRequest_total hn (hs.registered.module c)
          (fun hc => by simpa [hc] using ho) (upsert_of_ownActive hs.own _ _ _) fun m => ?_
        refine Option.not_isSome_iff_eq_none.mp fun hh => ?_
        simpa [hn] using hs.registered.mapped _ _ m hh
      have ho' : ¬(node'.connections.lookup c = none ∧
          (node'.provider.modules.lookup node'.provider.moduleIdsCounter).isSome) := by
        rwa [← h.connections, ← h.counter, ← h.modules]
      obtain ⟨node₁, he⟩ := ht h.sound hn ho
      obtain ⟨node₁', he'⟩ := ht h.sound' hn' ho'
      obtain ⟨_, m, rowid, hu, hp⟩ := handleProviderProvideRequest_ok he
      obtain ⟨_, m', rowid', hu', hp'⟩ := handleProviderProvideRequest_ok he'
      rw [he, he']
      exact h.provided hu hu' hn hp hp'

theorem closed (h : Alike self consumer node node') (hl : node.connections.lookup c = some m)
    (hc : node.Closed c m node₁) (hc' : node'.Closed c m node₁') :
    Alike self consumer node₁ node₁' := by
  have hl' := (h.connections c).symm.trans hl
  constructor
  case sound     => exact h.sound.closed hl hc
  case sound'    => exact h.sound'.closed hl' hc'
  case counter   => rw [hc.counter, hc'.counter, h.counter]
  case snapshots => exact hc.db ▸ hc'.db ▸ h.snapshots
  case jobs      => exact hc.db ▸ hc'.db ▸ h.jobs
  case ids       => exact hc.db ▸ hc'.db ▸ h.ids
  case connections =>
    intro c'
    rw [hc.connections, hc'.connections]
    by_cases he : c' = c
    case pos => rw [he, AList.lookup_erase, AList.lookup_erase]
    case neg => rw [AList.lookup_erase_ne he, AList.lookup_erase_ne he, h.connections]
  case map =>
    intro p o
    rw [hc.map, hc'.map, h.held_isSome, h.map]
  case modules =>
    intro i
    rw [hc.modules, hc'.modules]
    by_cases he : i = m
    case pos => rw [he, AList.lookup_erase, AList.lookup_erase]
    case neg => rw [AList.lookup_erase_ne he, AList.lookup_erase_ne he, h.modules]
  case held =>
    intro i p o
    rw [hc.held, hc'.held, hc.db, hc'.db]
    split
    case isTrue  => rfl
    case isFalse => exact h.held i p o

theorem close (h : Alike self consumer node node') (now : DateTime) (c : Nat) :
    Alike self consumer (closeConnection now node c) (closeConnection now node' c) := by
  cases hl : node.connections.lookup c
  case none =>
    rw [Node.closeConnection_none hl, Node.closeConnection_none ((h.connections c).symm.trans hl)]
    exact h
  case some m =>
    have hl' := (h.connections c).symm.trans hl
    exact h.closed hl (h.sound.registered.closed hl) (h.sound'.registered.closed hl')

theorem restart (h : Alike self consumer node node') (now : DateTime) :
    Alike self consumer (.start node.db now) (.start node'.db now) := by
  constructor
  case sound     => exact h.sound.restart now
  case sound'    => exact h.sound'.restart now
  case snapshots => exact h.snapshots
  case jobs      => exact h.jobs
  case ids       => exact h.ids
  all_goals intros; rfl

end Alike
end ConsumerView
end Derouter
