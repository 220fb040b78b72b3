import Derouter.ConsumerView.Offers
import Derouter.ConsumerView.Operations
import Derouter.NodeDatabase.JobIds

open Sql

namespace Derouter

theorem ProviderState.findOffer_eq (s : ProviderState) (p o : String) : s.findOffer p o =
    match s.offersModuleMap.get? p o with
    | none   => some none
    | some m => (s.held m p o).map fun provided => some ⟨m, provided⟩ := by
  simp only [findOffer, held]
  cases s.offersModuleMap.get? p o
  case none   => rfl
  case some m =>
    dsimp only
    cases (s.modules.lookup m).bind (·.offers.get? p o) <;> rfl

namespace ConsumerView

variable {ext : External} {db : Database} {self consumer provider : PeerId} {node node' : Node}
variable {decide : JobContent → Option JobUpdate} {u : JobUpdate} {plan : Plan JobJoin}

theorem Sound.elsewhere (h : Sound self node) (he : node.db.Elsewhere self consumer db) :
    Sound self { node with db } where
  registered := h.registered.withDb _
  own        := fun i s hs hp => h.own i s ((he.own i s hp).mp hs) hp
  distinct   := he.distinct h.distinct
  backed     := fun m p o provided hh => by
    obtain ⟨s, hs, hp⟩ := h.backed m p o provided hh
    exact ⟨s, (he.own _ s hp).mpr hs, hp⟩

theorem Sound.updateJob (h : Sound self node) (hu : u.Portable) (i : Rowid) :
    Sound self { node with db := node.db.updateJob i u } where
  registered := h.registered.withDb _
  own        := h.own
  distinct   := h.distinct.updateJob hu
  backed     := h.backed

theorem Sound.adds {j : JobJoin} (h : Sound self node) (ha : node.db.Adds j db)
    (hn : ¬node.db.HasJob self j.job.providerJobId) : Sound self { node with db } where
  registered := h.registered.withDb _
  own        := fun i s hs => h.own i s (ha.offerSnapshots ▸ hs)
  distinct   := ha.distinct h.distinct fun _ => hn
  backed     := fun m p o provided hh => by
    obtain ⟨s, hs, hp⟩ := h.backed m p o provided hh
    exact ⟨s, ha.offerSnapshots ▸ hs, hp⟩

namespace Alike

theorem findOffer (h : Alike self consumer node node') (p o : String) :
    (node.provider.findOffer p o).map (Option.map fun offer =>
        (offer.moduleId, offer.provided.resolve node.db)) =
      (node'.provider.findOffer p o).map (Option.map fun offer =>
        (offer.moduleId, offer.provided.resolve node'.db)) := by
  rw [ProviderState.findOffer_eq, ProviderState.findOffer_eq, h.map]
  cases node'.provider.offersModuleMap.get? p o
  case none   => rfl
  case some m =>
    have hh := congrArg (Option.map fun r => some (m, r)) (h.held m p o)
    simpa only [Option.map_map, Function.comp_def, Option.map_some] using hh

theorem elsewhere (h : Alike self consumer node node') (he : node.db.Elsewhere self consumer db) :
    Alike self consumer { node with db } node' := { h with
  sound     := h.sound.elsewhere he
  held      := fun m p o =>
    (h.sound.held_resolve (fun k s hs => (he.own k s hs).mpr) m p o).trans (h.held m p o)
  snapshots := fun s hs => (exists_congr fun i => he.own i s hs).trans (h.snapshots s hs)
  jobs      := fun t ht => (he.jobs t ht).trans (h.jobs t ht)
  ids       := fun jobId hj => he.ids jobId (h.ids jobId hj)
}

theorem elsewhere' (h : Alike self consumer node node') (he : node'.db.Elsewhere self consumer db)
    (hi : ∀ jobId, db.HasJob self jobId → node'.db.HasJob self jobId) :
    Alike self consumer node { node' with db } := { h with
  sound'    := h.sound'.elsewhere he
  held      := fun m p o =>
    (h.held m p o).trans (h.sound'.held_resolve (fun k s hs => (he.own k s hs).mpr) m p o).symm
  snapshots := fun s hs => (h.snapshots s hs).trans (exists_congr fun i => he.own i s hs).symm
  jobs      := fun t ht => (h.jobs t ht).trans (he.jobs t ht).symm
  ids       := fun jobId hj => h.ids jobId (hi jobId hj)
}

theorem updateJob {j j' : JobJoin} (h : Alike self consumer node node') (hu : u.Portable)
    (hj : j ∈ node.db.joined) (hj' : j' ∈ node'.db.joined) (ho : j.content.Of consumer self)
    (hc : j'.content = j.content) :
    Alike self consumer { node with db := node.db.updateJob j.rowid u }
      { node' with db := node'.db.updateJob j'.rowid u } := { h with
  sound  := h.sound.updateJob hu j.rowid
  sound' := h.sound'.updateJob hu j'.rowid
  jobs   := fun t ht => by
    have hi : j'.job.providerJobId = j.job.providerJobId := congrArg (·.job.providerJobId) hc
    have ho' : j'.content.Of consumer self := hc ▸ ho
    rw [Database.shows_updateJob hu h.sound.distinct hj ho.providerPeerId ht,
      Database.shows_updateJob hu h.sound'.distinct hj' ho'.providerPeerId ht, hc, hi, h.jobs t ht]
  ids    := fun jobId hj => by
    rw [Database.hasJob_updateJob_iff hu] at hj ⊢
    exact h.ids jobId hj
}

theorem amend (h : Alike self consumer node node') (hu : ∀ t u, decide t = some u → u.Portable)
    (plan : Plan JobJoin) (provider : PeerId) (jobId : String) :
    Alike self consumer { node with db := node.db.amend plan provider jobId decide }
      { node' with db := node'.db.amend plan provider jobId decide } := by
  have he (hn : ∀ j, node.db.jobById plan provider jobId = some j → ¬j.content.Of consumer self)
      (hn' : ∀ j, node'.db.jobById plan provider jobId = some j → ¬j.content.Of consumer self) :
      Alike self consumer { node with db := node.db.amend plan provider jobId decide }
        { node' with db := node'.db.amend plan provider jobId decide } := by
    have h₁ := h.elsewhere (.amend hu fun j _ hj _ => hn j hj)
    exact h₁.elsewhere' (.amend hu fun j _ hj _ => hn' j hj) fun _ =>
      (Database.hasJob_amend_iff hu).mp
  by_cases hp : provider = self
  case neg =>
    have hn {d : Database} {j : JobJoin} (hj : d.jobById plan provider jobId = some j) :
        ¬j.content.Of consumer self :=
      fun ho => hp <| (Database.jobById_providerPeerId hj).symm.trans ho.providerPeerId
    exact he (fun _ => hn) fun _ => hn
  case pos =>
    subst hp
    cases Database.jobById_cases h.sound.distinct h.sound'.distinct h.jobs plan plan jobId
    case inr hn => exact he hn.1 hn.2
    case inl hj =>
      obtain ⟨j, j', hj, hj', ho, hc⟩ := hj
      simp only [Database.amend, hj, hj', hc]
      cases hd : decide j.content
      case none   => exact h
      case some u =>
        have hm := (Database.mem_jobsById_iff.mp (Database.jobById_mem hj)).1
        have hm' := (Database.mem_jobsById_iff.mp (Database.jobById_mem hj')).1
        exact h.updateJob (hu _ u hd) hm hm' ho hc

end Alike
end ConsumerView
end Derouter
