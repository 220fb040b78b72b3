import Derouter.Catalogue
import Derouter.P2p.Theorems.Heartbeat

open Sql Transition

namespace Derouter
namespace Catalogue

variable {config : ProviderConfig} {source : PeerId} {s s' : Catalogue} {l : Label}

-- After each acceptance, the receiver's active snapshots of the sender were the accepted offers.
def Converged (source : PeerId) (s : Catalogue) : Prop :=
  ∀ a ∈ s.accepted, a.2.Mirrors source a.1.offers

-- Provider data that is not outdated has the offers of all that was accepted with its `updatedAt`,
-- which is a whole second.
def TellsApart (source : PeerId) (s : Catalogue) : Label → Prop
  | .deliver _ received _ _ _ =>
    ∀ details, received.provider = some details → ¬s.receiver.Outdates source received →
      ∀ a ∈ s.accepted, a.1.updatedAt = details.updatedAt →
        ∀ p o, a.1.offers.get? p o = details.offers.get? p o
  | _ => True

-- The receiver stores the latest `updatedAt` that it has accepted, and the snapshots that it had
-- after it has accepted it.
structure Tracked (source : PeerId) (s : Catalogue) : Prop where
  unknown : s.receiver.peer? source = none → s.accepted = []
  latest  : ∀ p, s.receiver.peer? source = some p → ∃ u, p.theirProviderUpdatedAt = some u ∧
    (∃ a ∈ s.accepted, a.1.updatedAt = u) ∧
    ∀ a ∈ s.accepted, a.1.updatedAt ≤ u ∧
      (a.1.updatedAt = u → a.2.offerSnapshots = s.receiver.offerSnapshots)

theorem tracked_start {db receiver : Database} (h : receiver.peer? source = none) :
    (start db now receiver).Tracked source where
  unknown _   := rfl
  latest p hp := by
    simp [start, h] at hp

-- What a step does to the receiver and to what it has accepted.
inductive Receives (source : PeerId) (s : Catalogue) (l : Label) (s' : Catalogue) : Prop
  | nothing (receiver : s'.receiver = s.receiver) (accepted : s'.accepted = s.accepted)
      (refuses : ∀ sent received plan visits now details,
        l = .deliver sent received plan visits now → received.provider = some details →
          ∀ events db, handleHeartbeat plan visits now s.receiver source received ≠
            some (.ok (events, db)))
  | accepts {sent received plan visits now details}
      (label    : l = .deliver sent received plan visits now)
      (provider : received.provider = some details)
      (newer    : ¬s.receiver.Outdates source received)
      (receives : Accepted s.receiver source details s'.receiver)
      (accepted : s'.accepted = (details, s'.receiver) :: s.accepted)

theorem step_receives (h : step config source s l s') : Receives source s l s' := by
  have ⟨he, hs⟩ := h
  subst hs
  cases l
  case provide => exact .nothing rfl rfl fun _ _ _ _ _ _ he => nomatch he
  case close   => exact .nothing rfl rfl fun _ _ _ _ _ _ he => nomatch he
  case tick =>
    simp only [next]
    split <;> exact .nothing rfl rfl fun _ _ _ _ _ _ he => nomatch he
  case deliver sent received plan visits now =>
    have ⟨_, _, hv⟩ := he
    simp only [next]
    split
    case h_2 hn =>
      refine .nothing rfl rfl fun _ _ _ _ _ _ he _ events db => ?_
      cases he
      exact hn events db
    case h_1 receiver hr =>
      split
      case h_1 hp =>
        refine .nothing (handleHeartbeat_ignored hp hr) rfl fun _ _ _ _ _ _ he hd => ?_
        cases he
        simp [hp] at hd
      case h_2 details hp =>
        exact .accepts rfl hp (not_outdates_of_handleHeartbeat hr) (handleHeartbeat_accepted hr hp hv) rfl

theorem Tracked.step (ht : s.Tracked source) (h : step config source s l s') :
    s'.Tracked source := by
  cases step_receives h
  case nothing hr ha hn =>
    constructor
    case unknown => rw [hr, ha]; exact ht.unknown
    case latest  => rw [hr, ha]; exact ht.latest
  case accepts details hl hp hn hr ha =>
    cases hr
    case stored peer older found updatedAt mirrors =>
      constructor
      case unknown => simp [found]
      case latest =>
        intro p hp'
        rw [found] at hp'
        cases hp'
        refine ⟨details.updatedAt, updatedAt, ⟨_, ha ▸ List.mem_cons_self, rfl⟩, fun a hm => ?_⟩
        rw [ha] at hm
        cases List.mem_cons.mp hm
        case inl he => exact he ▸ ⟨Int.le_refl _, fun _ => rfl⟩
        case inr hm =>
          have hlt : a.1.updatedAt < details.updatedAt := by
            cases hp : s.receiver.peer? source
            case none   => simp [ht.unknown hp] at hm
            case some q =>
              have ⟨u, hu, _, hl⟩ := ht.latest q hp
              have hq := older q hp
              rw [hu] at hq
              exact Int.lt_of_le_of_lt (hl a hm).1 hq
          exact ⟨Int.le_of_lt hlt, fun he => absurd he (Int.ne_of_lt hlt)⟩
    case equal peer peer' found equal found' updatedAt offers =>
      constructor
      case unknown => simp [found']
      case latest =>
        intro p hp'
        rw [found'] at hp'
        cases hp'
        have ⟨u, hu, ⟨b, hb, hbu⟩, hl⟩ := ht.latest peer found
        refine ⟨u, updatedAt.trans hu, ⟨b, ha ▸ List.mem_cons_of_mem _ hb, hbu⟩, fun a hm => ?_⟩
        rw [ha] at hm
        cases List.mem_cons.mp hm
        case inl he =>
          rw [hu] at equal
          exact he ▸ ⟨Int.le_of_eq equal, fun _ => rfl⟩
        case inr hm => exact ⟨(hl a hm).1, fun he => ((hl a hm).2 he).trans offers.symm⟩

theorem Tracked.equal (ht : s.Tracked source) (hn : ¬s.receiver.Outdates source received)
    (hp : received.provider = some details) (hm : a ∈ s.accepted)
    (he : a.1.updatedAt = details.updatedAt) :
    ∃ peer, s.receiver.peer? source = some peer ∧
      details.updatedAt = peer.theirProviderUpdatedAt.getD .zero ∧
      a.2.offerSnapshots = s.receiver.offerSnapshots := by
  cases hs : s.receiver.peer? source
  case none => simp [ht.unknown hs] at hm
  case some peer =>
    have ⟨u, hu, _, hl⟩ := ht.latest peer hs
    have hle : a.1.updatedAt ≤ u := (hl a hm).1
    have hge : u ≤ details.updatedAt := by
      apply Int.not_lt.mp
      intro hlt
      exact hn ⟨peer, hs, .inr ⟨details, hp, by rwa [hu]⟩⟩
    have heq : details.updatedAt = u := Int.le_antisymm (he ▸ hle) hge
    exact ⟨peer, rfl, by rw [hu, heq, Option.getD_some], (hl a hm).2 (he.trans heq)⟩

theorem converged_step (ht : s.Tracked source) (hc : s.Converged source)
    (h : step config source s l s') : s'.Converged source ↔ s.TellsApart source l := by
  cases step_receives h
  case nothing hr ha hn =>
    have hc' : s'.Converged source := fun a hm => hc a (ha ▸ hm)
    refine ⟨fun _ => ?_, fun _ => hc'⟩
    cases l <;> try trivial
    case deliver sent received plan visits now =>
      intro details hp ho a hm he
      have ⟨peer, hs, he, _⟩ := ht.equal ho hp hm he
      have ⟨events, db, hh⟩ : ∃ events db,
          handleHeartbeat plan visits now s.receiver source received = some (.ok (events, db)) :=
        handleHeartbeat_of_equal hp ho hs he
      exact absurd hh <| hn _ _ _ _ _ _ rfl hp events db
  case accepts details hl hp hn hr ha =>
    subst hl
    constructor
    case mp =>
      intro hc' details' hp' _ a hm he p o
      cases hp.symm.trans hp'
      have ⟨peer, hs, heq, ho⟩ := ht.equal hn hp hm he
      cases hr
      case stored older _ _ _ => exact absurd (heq ▸ older peer hs) (Int.lt_irrefl _)
      case equal offers =>
        have hm' := hc' _ (ha ▸ List.mem_cons_self)
        exact ((hc a hm).congr (offers.trans ho.symm)).unique hm' p o
    case mpr =>
      intro hd a hm
      rw [ha] at hm
      cases List.mem_cons.mp hm
      case inr hm => exact hc a hm
      case inl he =>
        subst he
        cases hr
        case stored mirrors => exact mirrors
        case equal peer peer' found equal found' updatedAt offers =>
          have ⟨u, hu, ⟨b, hb, hbu⟩, hl⟩ := ht.latest peer found
          rw [hu] at equal
          have hs := (hc b hb).congr (offers.trans ((hl b hb).2 hbu).symm)
          have hg := hd details hp hn b hb (hbu.trans equal.symm)
          exact fun p o l => by rw [hs p o l, hg]

-- In every run, each acceptance leaves the receiver with the accepted offers, if and only if no
-- delivery of the run brings other offers under an `updatedAt` that has been accepted before.
theorem converged_iff_tellsApart {db receiver : Database} {tr}
    (r : Run (step config source) (start db now receiver) tr s)
    (h : receiver.peer? source = none) :
    Run.Always (Converged source) tr s ↔ Meets (TellsApart source) tr :=
  r.always_iff_meets (tracked_start h) (fun _ hm => absurd hm List.not_mem_nil)
    (fun _ _ _ => Tracked.step) fun _ _ _ => converged_step

private def provideAt (now : DateTime) (offerId : String) : Label :=
  .provide .scan now 0 ⟨"protocol", offerId, "payload"⟩

private def tickAt (now : DateTime) : Label :=
  .tick now fun _ => none

private def deliverTo (s : Catalogue) (k : Nat) : Label :=
  let sent := s.published.getD k ⟨none, 0⟩
  .deliver sent sent.read .scan (s.receiver.offerSnapshots.rows.map (·.1)) 0

private theorem enabled_provideAt (h : s.clock ≤ now) :
    s.Enabled source (provideAt now offerId) :=
  h

private theorem enabled_tickAt (h : s.clock ≤ now) : s.Enabled source (tickAt now) :=
  h

private theorem enabled_deliverTo {k : Nat} (h : k < s.published.length) :
    s.Enabled source (s.deliverTo k) := by
  refine ⟨?_, Heartbeat.read_reads _, Database.covers_rowids _ _⟩
  rw [List.getD_eq_getElem?_getD, List.getElem?_eq_getElem h, Option.getD_some]
  exact List.getElem_mem h

theorem converged_iff_tellsApart_sample : ∃ tr s,
    Run (step {} ⟨[0]⟩) (start ∅ 0 ∅) tr s ∧ s.accepted ≠ [] ∧
      Run.Always (Converged ⟨[0]⟩) tr s := by
  have r : Run (step {} ⟨[0]⟩) (start ∅ 0 ∅) _ _ :=
    .cons (l := provideAt 1000000000 "offer") ⟨enabled_provideAt (by decide +kernel), rfl⟩ <|
      .cons (l := tickAt 1100000000) ⟨enabled_tickAt (by decide +kernel), rfl⟩ <|
        .cons (l := deliverTo _ 0) ⟨enabled_deliverTo (by decide +kernel), rfl⟩ .nil
  refine ⟨_, _, r, by decide +kernel, (converged_iff_tellsApart r rfl).mpr ?_⟩
  simp only [Meets, List.forall_mem_cons]
  exact ⟨trivial, trivial, fun _ _ _ _ hm => absurd hm List.not_mem_nil, by simp⟩

-- Another offer is provided in the second of the first one, and after a heartbeat. The heartbeat that
-- lists both offers comes with the `updatedAt` of the one that lists the first offer only.
theorem not_converged : ¬∀ (config : ProviderConfig) (source : PeerId) (db receiver : Database)
    (now : DateTime) (tr : List (Catalogue × Label)) (s : Catalogue),
    Run (step config source) (start db now receiver) tr s → receiver.peer? source = none →
      Run.Always (Converged source) tr s := by
  intro h
  have r : Run (step {} ⟨[0]⟩) (start ∅ 0 ∅) _ _ :=
    .cons (l := provideAt 1000000000 "offer") ⟨enabled_provideAt (by decide +kernel), rfl⟩ <|
      .cons (l := tickAt 1100000000) ⟨enabled_tickAt (by decide +kernel), rfl⟩ <|
        .cons (l := provideAt 1200000000 "other") ⟨enabled_provideAt (by decide +kernel), rfl⟩ <|
          .cons (l := tickAt 2100000000) ⟨enabled_tickAt (by decide +kernel), rfl⟩ <|
            .cons (l := deliverTo _ 1) ⟨enabled_deliverTo (by decide +kernel), rfl⟩ <|
              .cons (l := deliverTo _ 0) ⟨enabled_deliverTo (by decide +kernel), rfl⟩ .nil
  have ⟨_, hc⟩ := h _ _ _ _ _ _ _ r rfl
  generalize hs : next _ _ _ _ = s at hc
  have ⟨a, hm, ho, hn⟩ : ∃ a ∈ s.accepted, a.1.offers.get? "protocol" "other" = some ⟨"payload"⟩ ∧
      ∀ r ∈ a.2.offerSnapshots.rows, r.2.offerId ≠ "other" := by
    rw [← hs]
    decide +kernel
  have ⟨i, hi⟩ := (hc a hm _ _ _).mpr ho
  exact hn _ (Table.mem_rows_iff.mpr hi) rfl

end Catalogue
end Derouter
