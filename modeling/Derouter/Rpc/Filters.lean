import Derouter.Db.Queries
import Derouter.Rpc.Connection

open Sql

namespace Derouter

def OutboundRequestFrameData.subscriptionId? : OutboundRequestFrameData → Option UInt32
  | eventOfferRemoved id _      => some id
  | eventOfferUpdated id _      => some id
  | eventProviderHeartbeat id _ => some id
  | eventProviderUpdated id _   => some id
  | eventJobUpdated id _        => some id
  | _                           => none

namespace Subscription

-- How the lists of a subscription judge the offer or the job of an event, one by one and in the order
-- of the query's conjuncts. There is no judgement if the event is of another kind.
def judge : Subscription → RpcEvent → Option (List Bool)
  | activeOffers ps qs, .offerRemoved offer => some <| (offerFilters ps qs).map (· offer.columns)
  | activeOffers ps qs, .offerUpdated offer => some <| (offerFilters ps qs).map (· offer.columns)
  | activeProviders, .providerHeartbeat _   => some []
  | activeProviders, .providerUpdated _     => some []
  | jobs ps qs cs, .jobUpdated job          => some <| (jobFilters ps qs cs).map (· job.columns)
  | _, _                                    => none

-- The query with the subscription's lists selects the offer or the job of the event.
def Selects (s : Subscription) (event : RpcEvent) : Prop :=
  ∃ l, s.judge event = some l ∧ ∀ b ∈ l, b = true

theorem selects_offerUpdated_iff {plan : Plan (Rowid × OfferSnapshotRow)} {offer : OfferSnapshot}
    (h : find db offer.snapshotId = some offer) (ha : offer.active = true) :
    (activeOffers ps qs).Selects (.offerUpdated offer) ↔
      offer ∈ queryActiveOffers plan db ps qs := by
  rw [mem_queryActiveOffers_iff]
  simp [Selects, judge, h, ha]

theorem selects_of_mem_queryJobs {plan : Plan JobJoin} {records : List JobRecord}
    (h : queryJobs plan db cursor ps qs cs limit = some records) (hj : job ∈ records) :
    (jobs ps qs cs).Selects (.jobUpdated job) := by
  obtain ⟨_, _, _, _, hf⟩ := mem_of_mem_queryJobs h hj
  refine ⟨_, rfl, fun b hb => ?_⟩
  obtain ⟨f, hm, rfl⟩ := List.mem_map.mp hb
  exact List.all_eq_true.mp hf f hm

-- The first list decides: when it contains the ID of the offer or the job, the others do.
def FirstDecides (s : Subscription) (event : RpcEvent) : Prop :=
  ∀ rest, s.judge event = some (true :: rest) → ∀ b ∈ rest, b = true

theorem checkAgainstOffer_eq {c : OfferColumns} :
    checkAgainstOffer ps qs c.protocolId c.providerPeerId =
      (((offerFilters ps qs).map (· c)).head?.getD true) := by
  cases ps <;> cases qs <;> simp [checkAgainstOffer, offerFilters, inArray]

theorem checkAgainstJob_eq {job : JobRecord} :
    checkAgainstJob ps qs cs job = (((jobFilters ps qs cs).map (· job.columns)).head?.getD true) := by
  cases ps <;> cases qs <;> cases cs <;>
    simp [checkAgainstJob, jobFilters, inArray, JobRecord.columns]

-- An event is for a subscription if the first of its lists says so.
theorem eventFrame_isSome_iff {s : Subscription} {i : UInt32} :
    (s.eventFrame i event).isSome = true ↔
      ∃ l, s.judge event = some l ∧ l.head?.getD true = true := by
  cases s <;> cases event <;> simp only [eventFrame, judge, Option.isSome_none, Option.isSome_some,
    Bool.false_eq_true, reduceCtorEq, Option.some.injEq, false_and, exists_false, exists_eq_left',
    List.head?_nil, Option.getD_none]
  case activeOffers.offerRemoved offer =>
    rw [← checkAgainstOffer_eq]
    split <;> simp_all [OfferRemoved.columns]
  case activeOffers.offerUpdated offer =>
    rw [← checkAgainstOffer_eq]
    split <;> simp_all [OfferSnapshot.columns]
  case jobs.jobUpdated job =>
    rw [← checkAgainstJob_eq]
    split <;> simp_all

theorem eventFrame_subscriptionId? {s : Subscription} {i : UInt32}
    (h : s.eventFrame i event = some frame) : frame.subscriptionId? = some i := by
  cases s <;> cases event <;> simp only [eventFrame, reduceCtorEq] at h
  all_goals
    first
    | split at h <;> simp only [reduceCtorEq, Option.some.injEq] at h
    | skip
    try exact Option.some.inj h ▸ rfl
  all_goals exact h ▸ rfl

end Subscription

namespace Connection

variable {c : Connection} {id : UInt32} {event : RpcEvent}

-- The module gets a frame for its subscription.
def Notifies (c : Connection) (id : UInt32) (event : RpcEvent) : Prop :=
  ∃ frame ∈ c.handleEvent event, frame.subscriptionId? = some id

theorem notifies_iff (h : c.subscriptions.lookup i = some s) :
    c.Notifies i event ↔ (s.eventFrame i event).isSome = true := by
  constructor
  case mp =>
    rintro ⟨frame, hf, hi⟩
    obtain ⟨⟨j, s'⟩, hm, hs⟩ := List.mem_filterMap.mp hf
    have hj : i = j := Option.some.inj (hi.symm.trans (Subscription.eventFrame_subscriptionId? hs))
    have hl : c.subscriptions.lookup j = some s' := AList.mem_lookup_iff.mpr hm
    rw [← hj, h] at hl
    rw [Option.some.inj hl, hj, hs]
    rfl
  case mpr =>
    intro hs
    obtain ⟨frame, hf⟩ := Option.isSome_iff_exists.mp hs
    have hm : frame ∈ c.handleEvent event :=
      List.mem_filterMap.mpr ⟨⟨i, s⟩, AList.mem_lookup_iff.mp h, hf⟩
    exact ⟨frame, hm, Subscription.eventFrame_subscriptionId? hf⟩

-- An event is delivered to a subscription exactly if the query with the same lists selects its offer
-- or job, unless the first list lets through what another one turns down.
theorem notifies_iff_selects_iff (h : c.subscriptions.lookup i = some s) :
    (c.Notifies i event ↔ s.Selects event) ↔ s.FirstDecides event := by
  rw [notifies_iff h, Subscription.eventFrame_isSome_iff, Subscription.Selects,
    Subscription.FirstDecides]
  cases s.judge event
  case none => simp
  case some l =>
    cases l
    case nil         => simp
    case cons b rest => cases b <;> simp

-- A module that subscribes to the offers of one protocol and one provider.
private def narrow : Subscription :=
  .activeOffers (some ["protocol"]) (some [⟨[1]⟩])

private def narrowed : Connection where
  subscriptions := AList.insert 0 narrow ∅

private def offerOf (providerPeerId : PeerId) : OfferSnapshot where
  snapshotId      := 1
  active          := true
  providerPeerId  := providerPeerId
  protocolId      := "protocol"
  offerId         := "offer"
  protocolPayload := "payload"

theorem notifies_iff_selects_iff_sample :
    narrowed.Notifies 0 (.offerUpdated <| offerOf ⟨[1]⟩) ↔
      narrow.Selects (.offerUpdated <| offerOf ⟨[1]⟩) := by
  refine (notifies_iff_selects_iff (c := narrowed) rfl).mpr fun rest h => ?_
  have hj : narrow.judge (.offerUpdated <| offerOf ⟨[1]⟩) = some [true, true] := by decide
  rw [hj] at h
  obtain rfl : [true] = rest := (List.cons.inj (Option.some.inj h)).2
  exact fun _ hb => List.mem_singleton.mp hb

-- The offer of another provider is delivered as well.
theorem not_notifies_iff_selects : ¬∀ (c : Connection) (i : UInt32) (s : Subscription)
    (event : RpcEvent), c.subscriptions.lookup i = some s →
      (c.Notifies i event ↔ s.Selects event) := by
  intro h
  have hd : narrowed.Notifies 0 (.offerUpdated <| offerOf ⟨[2]⟩) :=
    ⟨.eventOfferUpdated 0 (offerOf ⟨[2]⟩), by decide, rfl⟩
  obtain ⟨l, hl, hb⟩ := (h narrowed 0 narrow _ rfl).mp hd
  have hj : narrow.judge (.offerUpdated <| offerOf ⟨[2]⟩) = some [true, false] := by decide
  rw [hj] at hl
  obtain rfl := Option.some.inj hl
  exact absurd (hb false (by simp)) (by decide)

end Connection
end Derouter
