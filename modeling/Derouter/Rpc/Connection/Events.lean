import Derouter.Rpc.Connection.Answers

open Transition

namespace Derouter

-- A frame that notifies the subscription with this ID.
def OutboundRequestFrameData.eventFor (id : UInt32) (data : OutboundRequestFrameData) :
    Option OutboundRequestFrameData :=
  if data.event?.map (·.1) = some id then some data else none

def OutboundFrame.eventFor (id : UInt32) : OutboundFrame → Option OutboundRequestFrameData
  | request _ data => data.eventFor id
  | response ..    => none

-- What a line of frames holds for a subscription.
def Flow.eventsFor (id : UInt32) (flow : Flow) : List OutboundRequestFrameData :=
  flow.frames.filterMap (·.eventFor id) ++ flow.later.filterMap (·.eventFor id)

namespace Connection

def Label.broadcast? : Label → Option RpcEvent
  | broadcast event => some event
  | _               => none

-- The broadcast events that the connection is still to hear of.
def pending (c : Connection) : List RpcEvent :=
  c.events.filterMap Except.toOption

end Connection

namespace ConnectionTasks

variable (decoder : Decoder) (id : UInt32) (s : ConnectionTasks)

def hears : Label → Option RpcEvent
  | .act l => s.connection.heard l
  | _      => none

-- The frame for a subscription that an event gives rise to at the time that the connection hears of it.
def tells (l : Label) : Option OutboundRequestFrameData :=
  (s.hears l).bind fun event =>
    (s.connection.subscriptions.lookup id).bind fun subscription => subscription.eventFrame id event

def Label.broadcast? : Label → Option RpcEvent
  | act l => l.broadcast?
  | _     => none

def Label.Lags : Label → Prop
  | act (.lag _) => True
  | _            => False

end ConnectionTasks

variable {id : UInt32}

theorem OutboundRequestFrameData.eventFor_of_eventFrame {subscription : Subscription} {i : UInt32}
    (h : subscription.eventFrame i event = some data) :
    data.eventFor id = if i = id then some data else none := by
  simp only [eventFor, Subscription.eventFrame_event? h, Option.map_some, Option.some.injEq]

theorem filterMap_entries {κ α β : Type} [DecidableEq κ] {m : HashMap κ α} {k : κ}
    {f : κ → α → Option β} (h : ∀ i a, i ≠ k → f i a = none) :
    m.entries.filterMap (fun e => f e.1 e.2) = ((m.lookup k).bind (f k)).toList := by
  obtain ⟨entries, hn⟩ := m
  simp only [AList.lookup]
  induction entries
  case nil => rfl
  case cons e entries hi =>
    obtain ⟨i, a⟩ := e
    obtain ⟨hk, hn⟩ := List.nodupKeys_cons.mp hn
    have hi := hi hn
    by_cases he : i = k
    case pos =>
      subst he
      rw [List.dlookup_eq_none.mpr hk] at hi
      rw [List.dlookup_cons_eq, List.filterMap_cons, hi]
      cases hb : f i a <;> simp [hb]
    case neg =>
      have hd : List.dlookup k (⟨i, a⟩ :: entries) = List.dlookup k entries :=
        List.dlookup_cons_ne entries ⟨i, a⟩ (Ne.symm he)
      rw [hd, List.filterMap_cons, h i a he, hi]

theorem Flow.handleEvent_eventFor {flow : Flow} {event : RpcEvent} :
    (flow.handleEvent event).filterMap (·.eventFor id) =
      ((flow.subscriptions.lookup id).bind fun s => s.eventFrame id event).toList := by
  have hf (i : UInt32) (s : Subscription) : (s.eventFrame i event).bind (·.eventFor id) =
      if i = id then s.eventFrame i event else none := by
    cases he : s.eventFrame i event
    case none => split <;> rfl
    case some => exact OutboundRequestFrameData.eventFor_of_eventFrame he
  have hm := filterMap_entries (m := flow.subscriptions) (k := id)
    (f := fun i s => (s.eventFrame i event).bind (·.eventFor id)) fun i s hi => by
      rw [hf, if_neg hi]
  simp only [hf, if_true] at hm
  rw [handleEvent, List.filterMap_filterMap, ← hm]
  simp only [hf]

theorem Flow.Moves.eventsFor {flow flow' : Flow} {l : Connection.Label}
    (h : flow.Moves l accepted spawned heard flow')
    (he : ∀ envelope, l = .request envelope → envelope.frameData.event? = none) :
    flow'.eventsFor id = flow.eventsFor id ++ (heard.bind fun event =>
      (flow.subscriptions.lookup id).bind fun s => s.eventFrame id event).toList := by
  cases h
  case rests         => simp
  case accepts       => simp [Flow.eventsFor, frames]
  case spawns        => simp [Flow.eventsFor, frames]
  case answers hi _ _ => simp [Flow.eventsFor, frames, hi, OutboundFrame.eventFor]
  case forwards i data rest hi hl =>
    rw [Flow.eventsFor, Flow.eventsFor, hl, List.filterMap_cons]
    cases hd : data.eventFor id <;> simp [frames, hi, OutboundFrame.eventFor, hd]
  case sends hi      => simp [Flow.eventsFor, frames, hi]
  case notifies      => simp [Flow.eventsFor, frames, handleEvent_eventFor]
  case responds      => simp [Flow.eventsFor, frames, OutboundFrame.eventFor]
  case requests envelope before after hl hb =>
    have hn : envelope.frameData.eventFor id = none := by
      simp [OutboundRequestFrameData.eventFor, he envelope hl]
    simp [Flow.eventsFor, frames, hb, hn]

namespace Connection

variable {decoder : Decoder} {c c' : Connection} {l : Label}

theorem handleInboundResponse_pending {response : InboundResponseFrame} :
    (c.handleInboundResponse response).pending = c.pending := by
  simp only [handleInboundResponse]
  split <;> rfl

theorem pending_pollQueues : c.event?.toList ++ c.pollQueues.pending = c.pending := by
  cases ho : c.outbound
  case cons => simp [event?, pollQueues, pending, ho]
  case nil =>
    cases hr : c.outboundRequests
    case cons => simp [event?, pollQueues, pending, ho, hr]
    case nil =>
      cases he : c.events
      case nil => simp [event?, pollQueues, pending, ho, hr, he]
      case cons e events =>
        cases e <;> simp [event?, pollQueues, pending, ho, hr, he, List.filterMap_cons, Except.toOption]

theorem pending_pollSelect {spawns : Bool} (hp : c.pc = .select) :
    (c.heard (.poll spawns)).toList ++ (c.pollSelect decoder spawns).pending = c.pending := by
  rw [heard_poll hp]
  simp only [pollSelect]
  split
  case isTrue => rfl
  case isFalse =>
    generalize c.rpcStream.nextCbor = p
    obtain ⟨result, rpcStream⟩ := p
    cases result <;> dsimp only
    case none    => rfl
    case err     => rfl
    case pending => exact pending_pollQueues (c := { c with rpcStream })
    case some body =>
      cases decoder.inboundFrame body
      case none => rfl
      case some frame =>
        cases frame <;> dsimp only
        case response => exact handleInboundResponse_pending
        case request  => rfl

theorem pending_next (h : c.next decoder l = some c') (hl : ∀ n, l ≠ .lag n) :
    (c.heard l).toList ++ c'.pending = c.pending ++ l.broadcast?.toList := by
  cases l
  case lag n => exact absurd rfl (hl n)
  case poll spawns =>
    simp only [next] at h
    split at h <;> try contradiction
    case h_1 hp =>
      obtain rfl := Option.some.inj h
      exact (pending_pollSelect hp).trans (List.append_nil _).symm
  case handled =>
    obtain ⟨request, spawns, _, hh⟩ := handles_next h
    cases hh <;> simp [heard, Label.broadcast?, pending]
  case sends =>
    simp only [next] at h
    split at h <;> (try split at h) <;> try contradiction
    all_goals
      obtain rfl := Option.some.inj h
      simp [heard, Label.broadcast?, pending]
  all_goals
    simp only [next] at h
    try split at h <;> try contradiction
    obtain rfl := Option.some.inj h
    simp [heard, Label.broadcast?, pending, Except.toOption]

theorem pending_lag (h : c.next decoder (.lag n) = some c') : c'.pending.Sublist c.pending := by
  obtain rfl := Option.some.inj h
  exact (List.drop_sublist n c.events).filterMap _

end Connection

namespace ConnectionTasks

-- Nothing is left to be written.
def Drained (s : ConnectionTasks) : Prop :=
  s.connection.pc = .select ∧ s.connection.outbound = [] ∧ s.connection.outboundRequests = []

-- What a module gets of the broadcast events in the course of a run.
structure Feeds (s : ConnectionTasks) (id : UInt32) (tr : List (ConnectionTasks × Label)) : Prop where
  -- The frames for a subscription are those that the heard events give rise to, one by one.
  ordered : s.connection.written.filterMap (·.eventFor id) <+:
    tr.filterMap fun q => q.1.tells id q.2
  all     : s.Drained → s.connection.written.filterMap (·.eventFor id) =
    tr.filterMap fun q => q.1.tells id q.2
  -- The events are heard in the order in which they are broadcast, and only a lag loses some.
  heard   : (tr.filterMap fun q => q.1.hears q.2).Sublist (tr.filterMap (·.2.broadcast?))
  missed  : (∀ q ∈ tr, ¬q.2.Lags) → (tr.filterMap fun q => q.1.hears q.2) ++ s.connection.pending =
    tr.filterMap (·.2.broadcast?)

variable {decoder : Decoder} {s s₁ s₂ : ConnectionTasks} {l : Label}
variable {tr : List (ConnectionTasks × Label)}

theorem eventsFor_step (h : step decoder s l s₂) : s₂.connection.flow.eventsFor id =
    s.connection.flow.eventsFor id ++ (s.tells id l).toList := by
  cases l
  case act l =>
    obtain ⟨connection, hc, _, he, rfl⟩ := next_act h
    exact (Connection.moves_next hc).eventsFor he
  all_goals simp only [step, ofFn, next] at h
  case finish =>
    split at h <;> try contradiction
    split at h <;> try contradiction
    case h_2 hc =>
      obtain rfl := Option.some.inj h
      simp [tells, hears, flow_respond hc, Flow.eventsFor, Flow.frames, OutboundFrame.eventFor]
  case panic =>
    split at h <;> try contradiction
    obtain rfl := Option.some.inj h
    simp [tells, hears]

theorem pending_step (h : step decoder s l s₂) (hl : ¬l.Lags) :
    (s.hears l).toList ++ s₂.connection.pending = s.connection.pending ++ l.broadcast?.toList := by
  cases l
  case act l =>
    obtain ⟨connection, hc, _, _, rfl⟩ := next_act h
    exact Connection.pending_next hc fun n hn => hl (hn ▸ trivial)
  all_goals simp only [step, ofFn, next] at h
  case finish =>
    split at h <;> try contradiction
    split at h <;> try contradiction
    case h_2 hc =>
      obtain rfl := Option.some.inj h
      exact Connection.pending_next hc (by simp)
  case panic =>
    split at h <;> try contradiction
    obtain rfl := Option.some.inj h
    simp [hears, Label.broadcast?]

theorem pending_step_of_lags (h : step decoder s l s₂) (hl : l.Lags) :
    s₂.connection.pending.Sublist s.connection.pending := by
  cases l
  case act l =>
    cases l
    case lag n =>
      obtain ⟨connection, hc, _, _, rfl⟩ := next_act h
      exact Connection.pending_lag hc
    all_goals exact absurd hl id
  all_goals exact absurd hl id

theorem filterMap_cons_toList {α β : Type} {f : α → Option β} {a : α} {l : List α} :
    (a :: l).filterMap f = (f a).toList ++ l.filterMap f := by
  cases h : f a <;> simp [h]

theorem eventsFor_of_run (r : Run (step decoder) s₁ tr s₂) : s₂.connection.flow.eventsFor id =
    s₁.connection.flow.eventsFor id ++ tr.filterMap fun q => q.1.tells id q.2 := by
  induction r
  case nil           => simp
  case cons e _ hi => rw [hi, eventsFor_step e, filterMap_cons_toList, List.append_assoc]

theorem missed_of_run (r : Run (step decoder) s₁ tr s₂) (hl : ∀ q ∈ tr, ¬q.2.Lags) :
    (tr.filterMap fun q => q.1.hears q.2) ++ s₂.connection.pending =
      s₁.connection.pending ++ tr.filterMap (·.2.broadcast?) := by
  induction r
  case nil         => simp
  case cons e _ hi =>
    obtain ⟨hl, ht⟩ := List.forall_mem_cons.mp hl
    rw [filterMap_cons_toList, List.append_assoc, hi ht, ← List.append_assoc, pending_step e hl,
      filterMap_cons_toList, List.append_assoc]

theorem heard_of_run (r : Run (step decoder) s₁ tr s₂) :
    ((tr.filterMap fun q => q.1.hears q.2) ++ s₂.connection.pending).Sublist
      (s₁.connection.pending ++ tr.filterMap (·.2.broadcast?)) := by
  induction r
  case nil               => simp
  case cons s l _ _ _ e _ hi =>
    rw [filterMap_cons_toList, filterMap_cons_toList, List.append_assoc]
    by_cases hl : l.Lags
    case neg =>
      rw [← List.append_assoc s.connection.pending, ← pending_step e hl, List.append_assoc]
      exact hi.append_left _
    case pos =>
      have hs := hi.trans ((pending_step_of_lags e hl).append_right _)
      obtain ⟨hn, hb⟩ : s.hears l = none ∧ l.broadcast? = none := by
        cases l
        case act l => cases l <;> first | exact ⟨rfl, rfl⟩ | exact absurd hl id
        all_goals exact absurd hl id
      rwa [hn, hb]

theorem eventsFor_append : ∃ rest, s.connection.flow.eventsFor id =
    s.connection.written.filterMap (·.eventFor id) ++ rest := by
  simp [Flow.eventsFor, Flow.frames, Connection.flow]

theorem eventsFor_of_drained (h : s.Drained) :
    s.connection.flow.eventsFor id = s.connection.written.filterMap (·.eventFor id) := by
  simp [Flow.eventsFor, Flow.frames, Connection.flow, h.1, h.2.1, h.2.2]

-- In every run, a subscription gets the frames of the events that the connection hears of, in their
-- order and once each, and the connection hears of all events that no lag has made it miss.
theorem feeds_of_run (r : Run (step decoder) {} tr s) : s.Feeds id tr := by
  have he : s.connection.flow.eventsFor id = tr.filterMap fun q => q.1.tells id q.2 :=
    eventsFor_of_run r
  obtain ⟨rest, hr⟩ : ∃ rest, s.connection.flow.eventsFor id =
      s.connection.written.filterMap (·.eventFor id) ++ rest := eventsFor_append
  constructor
  case ordered => exact ⟨rest, hr.symm.trans he⟩
  case all     => exact fun hd => (eventsFor_of_drained hd).symm.trans he
  case heard   => exact (List.sublist_append_left ..).trans (heard_of_run r)
  case missed  => exact missed_of_run r

private def subscribesOnce : Decoder where
  inboundFrame _ := some <| .request ⟨1, .subscribeToActiveProviders⟩
  peerId _       := none

private def heartbeatOf (byte : UInt8) : ProviderHeartbeat :=
  ⟨⟨[byte]⟩, 0⟩

-- The module subscribes, misses the first event and gets the second one.
theorem feeds_of_run_sample : ∃ tr s, Run (step subscribesOnce) {} tr s ∧
    decide (s.connection.written.filterMap (·.eventFor 0) =
      [.eventProviderHeartbeat 0 (heartbeatOf 2)]) = true ∧ s.Feeds 0 tr := by
  obtain ⟨tr, s, r, _, hc⟩ := Run.of_schedule (next subscribesOnce) {}
    [.act (.send ⟨[], by decide⟩), .act (.arrive 4), .act (.poll false), .act .handled, .act .sends,
      .act (.poll false), .act .wrote, .act (.broadcast <| .providerHeartbeat (heartbeatOf 1)),
      .act (.broadcast <| .providerHeartbeat (heartbeatOf 2)), .act (.lag 1), .act (.poll false),
      .act (.poll false), .act .sends, .act .sends, .act (.poll false), .act .sends,
      .act (.poll false), .act .wrote]
    (fun s => decide (s.connection.written.filterMap (·.eventFor 0) =
      [.eventProviderHeartbeat 0 (heartbeatOf 2)]))
    (by decide +kernel)
  exact ⟨tr, s, r, hc, feeds_of_run r⟩

end ConnectionTasks
end Derouter
