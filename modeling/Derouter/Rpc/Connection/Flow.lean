import Derouter.Rpc.Connection.Steps

open Transition

namespace Derouter

-- What a module asks for, which the response to it repeats.
inductive Method
  | call (procedure : Procedure)
  | cancelSubscription
  | subscribeToJobs
  | subscribeToActiveOffers
  | subscribeToActiveProviders
deriving DecidableEq

def Method.maySpawn : Method → Bool
  | call procedure => procedure.maySpawn
  | _              => false

def InboundRequestFrameData.method : InboundRequestFrameData → Method
  | .call procedure             => .call procedure
  | .cancelSubscription _       => .cancelSubscription
  | .subscribeToJobs ..         => .subscribeToJobs
  | .subscribeToActiveOffers .. => .subscribeToActiveOffers
  | .subscribeToActiveProviders => .subscribeToActiveProviders

def OutboundResponseFrameData.method : OutboundResponseFrameData → Method
  | .call procedure               => .call procedure
  | .cancelSubscription _         => .cancelSubscription
  | .subscribeToJobs _            => .subscribeToJobs
  | .subscribeToActiveOffers _    => .subscribeToActiveOffers
  | .subscribeToActiveProviders _ => .subscribeToActiveProviders

def Subscription.method : Subscription → Method
  | .jobs ..         => .subscribeToJobs
  | .activeOffers .. => .subscribeToActiveOffers
  | .activeProviders => .subscribeToActiveProviders

-- A request, as its response refers to it.
def InboundRequestFrame.ask (request : InboundRequestFrame) : UInt32 × Method :=
  (request.id, request.data.method)

def OutboundFrame.answer? : OutboundFrame → Option (UInt32 × Method)
  | request ..       => none
  | response id data => some (id, data.method)

-- The ID of the subscription that a response announces.
def OutboundResponseFrameData.announced? : OutboundResponseFrameData → Option (UInt32 × Method)
  | .subscribeToJobs (.ok id)            => some (id, .subscribeToJobs)
  | .subscribeToActiveOffers (.ok id)    => some (id, .subscribeToActiveOffers)
  | .subscribeToActiveProviders (.ok id) => some (id, .subscribeToActiveProviders)
  | _                                    => none

def OutboundFrame.announced? : OutboundFrame → Option (UInt32 × Method)
  | request ..      => none
  | response _ data => data.announced?

-- The subscription that an event frame is for.
def OutboundRequestFrameData.event? : OutboundRequestFrameData → Option (UInt32 × Method)
  | eventOfferRemoved id _      => some (id, .subscribeToActiveOffers)
  | eventOfferUpdated id _      => some (id, .subscribeToActiveOffers)
  | eventProviderHeartbeat id _ => some (id, .subscribeToActiveProviders)
  | eventProviderUpdated id _   => some (id, .subscribeToActiveProviders)
  | eventJobUpdated id _        => some (id, .subscribeToJobs)
  | _                           => none

def OutboundFrame.event? : OutboundFrame → Option (UInt32 × Method)
  | request _ data => data.event?
  | response ..    => none

theorem Subscription.eventFrame_event? {subscription : Subscription} {id : UInt32}
    (h : subscription.eventFrame id event = some frame) :
    frame.event? = some (id, subscription.method) := by
  cases subscription <;> cases event <;> simp only [eventFrame, reduceCtorEq] at h
  all_goals
    first
    | split at h <;> simp only [reduceCtorEq, Option.some.injEq] at h
    | skip
    try exact Option.some.inj h ▸ rfl
  all_goals exact h ▸ rfl

-- A connection as a line of frames. Those that the stream and the queue hold come first, then the one
-- that the loop holds, and then the requests that are still to get an ID.
structure Flow where
  queued               : List OutboundFrame
  inHand               : List OutboundFrame
  later                : List OutboundRequestFrameData
  handling             : Option InboundRequestFrame
  subscriptionsCounter : UInt32
  subscriptions        : HashMap UInt32 Subscription

namespace ConnectionPc

@[simp]
def writing? : ConnectionPc → List OutboundFrame
  | writing frame => [frame]
  | _             => []

@[simp]
def inHand : ConnectionPc → List OutboundFrame
  | answering frame  => [frame]
  | forwarding frame => [frame]
  | _                => []

@[simp]
def notifying? : ConnectionPc → List OutboundRequestFrameData
  | notifying frames => frames
  | _                => []

@[simp]
def handling? : ConnectionPc → Option InboundRequestFrame
  | handling request _ => some request
  | _                  => none

end ConnectionPc

namespace Connection

variable (decoder : Decoder) (c : Connection)

def flow : Flow where
  queued               := c.written ++ c.pc.writing? ++ c.outbound
  inHand               := c.pc.inHand
  later                := c.outboundRequests.map (·.frameData) ++ c.pc.notifying?
  handling             := c.pc.handling?
  subscriptionsCounter := c.subscriptionsCounter
  subscriptions        := c.subscriptions

-- The request that a poll reads.
def accepted (l : Label) : Option InboundRequestFrame :=
  match l, c.pc with
  | .poll _, .select =>
    if c.cancelled then
      none
    else
      match c.rpcStream.nextCbor.1 with
      | .some body =>
        match decoder.inboundFrame body with
        | some (.request request) => some request
        | _                       => none
      | _ => none
  | _, _ => none

-- The request that a handler leaves to a task.
def spawned (l : Label) : Option (UInt32 × Procedure) :=
  match l, c.pc with
  | .handled, .handling ⟨id, .call procedure⟩ spawns =>
    if procedure.maySpawn && spawns then some (id, procedure) else none
  | _, _ => none

-- The event that `event_rx` returns, if the queues above it are empty.
def event? : Option RpcEvent :=
  match c.outbound, c.outboundRequests, c.events with
  | [], [], .ok event :: _ => some event
  | _, _, _                => none

-- The event that a poll hears of.
def heard (l : Label) : Option RpcEvent :=
  match l, c.pc with
  | .poll _, .select =>
    if c.cancelled then
      none
    else
      match c.rpcStream.nextCbor.1 with
      | .pending => c.event?
      | _        => none
  | _, _ => none

end Connection

-- What a response says of a subscription, next to what its handler does.
inductive Subscribes (flow : Flow) (data : OutboundResponseFrameData) :
    UInt32 → HashMap UInt32 Subscription → Prop
  | announces (subscription : Subscription)
      (h : data.announced? = some (flow.subscriptionsCounter, subscription.method)) :
    Subscribes flow data (flow.subscriptionsCounter + 1)
      (flow.subscriptions.insert flow.subscriptionsCounter subscription)
  | keeps (subscriptions : HashMap UInt32 Subscription) (h : data.announced? = none)
      (hs : ∀ id s, subscriptions.lookup id = some s → flow.subscriptions.lookup id = some s) :
    Subscribes flow data flow.subscriptionsCounter subscriptions

-- The frames of a line that are to be written in this order.
def Flow.frames (flow : Flow) : List OutboundFrame :=
  flow.queued ++ flow.inHand

-- The frames that an event gives rise to.
def Flow.handleEvent (flow : Flow) (event : RpcEvent) : List OutboundRequestFrameData :=
  flow.subscriptions.entries.filterMap fun s => s.2.eventFrame s.1 event

-- All that a step of a connection does to its frames: what it reads, what it leaves to a task, the event
-- that it hears of, and how the line moves on.
inductive Flow.Moves (flow : Flow) (l : Connection.Label) :
    Option InboundRequestFrame → Option (UInt32 × Procedure) → Option RpcEvent → Flow → Prop
  | rests : Moves flow l none none none flow
  | accepts (request : InboundRequestFrame) (hn : flow.handling = none) :
    Moves flow l (some request) none none { flow with handling := some request }
  | spawns (request : InboundRequestFrame) (procedure : Procedure)
      (hh : flow.handling = some request) (hd : request.data = .call procedure)
      (hp : procedure.maySpawn = true) :
    Moves flow l none (some (request.id, procedure)) none { flow with handling := none }
  | answers (request : InboundRequestFrame) (data : OutboundResponseFrameData)
      (subscriptionsCounter : UInt32) (subscriptions : HashMap UInt32 Subscription)
      (hh : flow.handling = some request) (hi : flow.inHand = [])
      (hm : data.method = request.data.method)
      (hs : Subscribes flow data subscriptionsCounter subscriptions) :
    Moves flow l none none none { flow with
      inHand   := [.response request.id data]
      handling := none
      subscriptionsCounter
      subscriptions
    }
  | forwards (id : UInt32) (frameData : OutboundRequestFrameData)
      (rest : List OutboundRequestFrameData) (hi : flow.inHand = [])
      (hl : flow.later = frameData :: rest) :
    Moves flow l none none none { flow with inHand := [.request id frameData], later := rest }
  | sends (frame : OutboundFrame) (hi : flow.inHand = [frame]) :
    Moves flow l none none none { flow with queued := flow.queued ++ [frame], inHand := [] }
  | notifies (event : RpcEvent) :
    Moves flow l none none (some event) { flow with later := flow.later ++ flow.handleEvent event }
  | responds (id : UInt32) (data : OutboundResponseFrameData) (hl : l = .respond id data) :
    Moves flow l none none none { flow with queued := flow.queued ++ [.response id data] }
  | requests (envelope : OutboundRequestEnvelope) (before after : List OutboundRequestFrameData)
      (hl : l = .request envelope) (hb : flow.later = before ++ after) :
    Moves flow l none none none { flow with later := before ++ envelope.frameData :: after }

theorem Flow.handleEvent_event? {flow : Flow} {event : RpcEvent} {frame : OutboundRequestFrameData}
    (h : frame ∈ flow.handleEvent event) :
    ∃ id s, flow.subscriptions.lookup id = some s ∧ frame.event? = some (id, s.method) := by
  obtain ⟨⟨id, s⟩, hm, hf⟩ := List.mem_filterMap.mp h
  exact ⟨id, s, AList.mem_lookup_iff.mpr hm, Subscription.eventFrame_event? hf⟩

namespace Connection

variable {decoder : Decoder} {c c' : Connection} {l : Label} {request : InboundRequestFrame}

theorem moves_answering {data : OutboundResponseFrameData} {spawns : Bool} (c' : Connection)
    (hp : c.pc = .handling request spawns) (hm : data.method = request.data.method)
    (hs : Subscribes c.flow data c'.subscriptionsCounter c'.subscriptions)
    (ho : c'.outbound = c.outbound) (hr : c'.outboundRequests = c.outboundRequests)
    (hw : c'.written = c.written) :
    c.flow.Moves l none none none { c' with pc := .answering <| .response request.id data }.flow := by
  have hf : { c' with pc := .answering <| .response request.id data }.flow = { c.flow with
      inHand               := [.response request.id data]
      handling             := none
      subscriptionsCounter := c'.subscriptionsCounter
      subscriptions        := c'.subscriptions
    } := by
    simp [flow, hp, ho, hr, hw]
  rw [hf]
  exact .answers request data _ _ (by simp [flow, hp])
    (by simp [flow, hp]) hm hs

theorem moves_subscribe {spawns : Bool} (subscription : Except String Subscription)
    (respond : SubscriptionResponse → OutboundResponseFrameData) (hp : c.pc = .handling request spawns)
    (hm : ∀ response, (respond response).method = request.data.method)
    (ho : ∀ id, (respond (.ok id)).announced? = some (id, request.data.method))
    (he : ∀ raw, (respond (.invalidPeerId raw)).announced? = none)
    (hs : ∀ s, subscription = .ok s → s.method = request.data.method) :
    c.flow.Moves l none none none { (c.subscribe subscription).2 with
      pc := .answering <| .response request.id <| respond (c.subscribe subscription).1 }.flow := by
  cases subscription
  case error raw =>
    exact moves_answering c hp (hm _) (.keeps _ (he raw) fun _ _ h => h) rfl rfl rfl
  case ok s =>
    have ha : (respond <| .ok c.subscriptionsCounter).announced? =
        some (c.subscriptionsCounter, s.method) := by
      rw [ho, hs s rfl]
    exact moves_answering (c.subscribe (.ok s)).2 hp (hm _) (.announces s ha) rfl rfl rfl

theorem moves_handleInboundRequest {spawns : Bool} (hp : c.pc = .handling request spawns) :
    c.flow.Moves .handled none (c.spawned .handled) none
      (c.handleInboundRequest decoder request spawns).flow := by
  obtain ⟨id, data⟩ := request
  cases data
  case call procedure =>
    simp only [handleInboundRequest, spawned, hp]
    split
    case isTrue h =>
      have hf : { c with pc := .select }.flow = { c.flow with handling := none } := by
        simp [flow, hp]
      rw [hf]
      exact .spawns ⟨id, .call procedure⟩ procedure (by simp [flow, hp]) rfl
        (Bool.and_eq_true_iff.mp h).1
    case isFalse h => exact moves_answering c hp rfl (.keeps _ rfl fun _ _ h => h) rfl rfl rfl
  case cancelSubscription subscriptionId =>
    simp only [handleInboundRequest, spawned, hp]
    split
    case h_1 => exact moves_answering c hp rfl (.keeps _ rfl fun _ _ h => h) rfl rfl rfl
    case h_2 =>
      refine moves_answering { c with subscriptions := c.subscriptions.erase subscriptionId } hp rfl
        (.keeps _ rfl fun i s h => ?_) rfl rfl rfl
      by_cases hi : i = subscriptionId
      case pos =>
        rw [hi, AList.lookup_erase] at h
        contradiction
      case neg => rwa [AList.lookup_erase_ne hi] at h
  case subscribeToJobs ps qs cs =>
    have hn : c.spawned .handled = none := by simp only [spawned, hp]
    rw [hn]
    refine moves_subscribe _ .subscribeToJobs hp (fun _ => rfl) (fun _ => rfl) (fun _ => rfl)
      fun s hs => ?_
    cases hq : parsePeerIds? decoder qs <;> cases hc : parsePeerIds? decoder cs <;>
      simp only [hq, hc, bind, Except.bind, pure, Except.pure, reduceCtorEq, Except.ok.injEq] at hs
    exact hs ▸ rfl
  case subscribeToActiveOffers ps qs =>
    have hn : c.spawned .handled = none := by simp only [spawned, hp]
    rw [hn]
    refine moves_subscribe _ .subscribeToActiveOffers hp (fun _ => rfl) (fun _ => rfl)
      (fun _ => rfl) fun s hs => ?_
    cases hq : parsePeerIds? decoder qs <;>
      simp only [hq, bind, Except.bind, pure, Except.pure, reduceCtorEq, Except.ok.injEq] at hs
    exact hs ▸ rfl
  case subscribeToActiveProviders =>
    have hn : c.spawned .handled = none := by simp only [spawned, hp]
    rw [hn]
    refine moves_subscribe (.ok .activeProviders) .subscribeToActiveProviders hp (fun _ => rfl)
      (fun _ => rfl) (fun _ => rfl) fun s hs => ?_
    exact Except.ok.inj hs ▸ rfl

theorem handleInboundResponse_flow {response : InboundResponseFrame} :
    (c.handleInboundResponse response).flow = c.flow := by
  simp only [handleInboundResponse]
  split <;> rfl

theorem moves_rests (h : c'.flow = c.flow) : c.flow.Moves l none none none c'.flow :=
  h ▸ .rests

theorem moves_pollQueues (hp : c.pc = .select) :
    c.flow.Moves l none none c.event? c.pollQueues.flow := by
  cases ho : c.outbound
  case cons frame outbound =>
    simp only [pollQueues, event?, ho]
    refine moves_rests ?_
    simp [flow, hp, ho]
  case nil =>
    cases hr : c.outboundRequests
    case cons envelope rest =>
      have hl : c.flow.later = envelope.frameData :: rest.map (·.frameData) := by
        simp [flow, hp, hr]
      have hi : c.flow.inHand = [] := by simp [flow, hp]
      have hm : c.flow.Moves l none none none _ := .forwards c.outboundRequestsCounter _ _ hi hl
      simpa [pollQueues, event?, ho, hr, flow, hp] using hm
    case nil =>
      cases he : c.events
      case nil =>
        simp only [pollQueues, event?, ho, hr, he]
        exact moves_rests rfl
      case cons e events =>
        cases e
        case error n =>
          simp only [pollQueues, event?, ho, hr, he]
          refine moves_rests ?_
          simp [flow, hp, ho, hr]
        case ok event =>
          have hm : c.flow.Moves l none none (some event)
            { c.flow with later := c.flow.later ++ c.handleEvent event } := .notifies event
          simpa [pollQueues, event?, ho, hr, he, flow, hp] using hm

theorem flow_closing (hp : c.pc = .select) : { c with pc := .closing }.flow = c.flow := by
  simp [flow, hp]

theorem accepted_poll {spawns : Bool} (hp : c.pc = .select) : c.accepted decoder (.poll spawns) =
    if c.cancelled then
      none
    else
      match c.rpcStream.nextCbor.1 with
      | .some body =>
        match decoder.inboundFrame body with
        | some (.request request) => some request
        | _                       => none
      | _ => none := by
  simp only [accepted, hp]

theorem heard_poll {spawns : Bool} (hp : c.pc = .select) : c.heard (.poll spawns) =
    if c.cancelled then
      none
    else
      match c.rpcStream.nextCbor.1 with
      | .pending => c.event?
      | _        => none := by
  simp only [heard, hp]

theorem moves_pollSelect {spawns : Bool} (hp : c.pc = .select) :
    c.flow.Moves (.poll spawns) (c.accepted decoder (.poll spawns)) none (c.heard (.poll spawns))
      (c.pollSelect decoder spawns).flow := by
  rw [accepted_poll hp, heard_poll hp]
  simp only [pollSelect]
  split
  case isTrue => exact moves_rests (flow_closing hp)
  case isFalse =>
    generalize c.rpcStream.nextCbor = p
    obtain ⟨result, rpcStream⟩ := p
    cases result <;> dsimp only
    case none    => exact moves_rests (flow_closing (c := { c with rpcStream }) hp)
    case err     => exact moves_rests rfl
    case pending => exact moves_pollQueues (c := { c with rpcStream }) hp
    case some body =>
      cases decoder.inboundFrame body
      case none => exact moves_rests rfl
      case some frame =>
        cases frame <;> dsimp only
        case response => exact moves_rests handleInboundResponse_flow
        case request request =>
          have hm : c.flow.Moves (.poll spawns) (some request) none none _ :=
            .accepts request (by simp [flow, hp])
          simpa [flow, hp] using hm

theorem moves_sends (h : c.next decoder .sends = some c') : c.flow.Moves .sends none none none c'.flow := by
  simp only [next] at h
  split at h
  case h_1 frame hp =>
    split at h <;> try contradiction
    obtain rfl := Option.some.inj h
    have hm : c.flow.Moves .sends none none none _ := .sends frame (by simp [flow, hp])
    simpa [flow, hp] using hm
  case h_2 frame hp =>
    split at h <;> try contradiction
    obtain rfl := Option.some.inj h
    have hm : c.flow.Moves .sends none none none _ := .sends frame (by simp [flow, hp])
    simpa [flow, hp] using hm
  case h_3 hp =>
    refine Option.some.inj h ▸ moves_rests ?_
    simp [flow, hp]
  case h_4 hp =>
    split at h <;> try contradiction
    refine Option.some.inj h ▸ moves_rests ?_
    simp [flow, hp]
  case h_5 => contradiction

theorem moves_wrote (h : c.next decoder .wrote = some c') : c.flow.Moves .wrote none none none c'.flow := by
  simp only [next] at h
  split at h <;> try contradiction
  case h_1 hp =>
    refine Option.some.inj h ▸ moves_rests ?_
    simp [flow, hp]

theorem moves_next (h : c.next decoder l = some c') :
    c.flow.Moves l (c.accepted decoder l) (c.spawned l) (c.heard l) c'.flow := by
  cases l
  case sends => exact moves_sends h
  case wrote => exact moves_wrote h
  all_goals simp only [next] at h
  case send =>
    split at h <;> try contradiction
    exact Option.some.inj h ▸ moves_rests rfl
  case close     => exact Option.some.inj h ▸ moves_rests rfl
  case arrive    => exact Option.some.inj h ▸ moves_rests rfl
  case cancel    => exact Option.some.inj h ▸ moves_rests rfl
  case broadcast => exact Option.some.inj h ▸ moves_rests rfl
  case lag       => exact Option.some.inj h ▸ moves_rests rfl
  case poll spawns =>
    split at h <;> try contradiction
    case h_1 hp => exact Option.some.inj h ▸ moves_pollSelect hp
  case handled =>
    split at h <;> try contradiction
    case h_1 hp => exact Option.some.inj h ▸ moves_handleInboundRequest hp
  case respond id data =>
    split at h <;> try contradiction
    obtain rfl := Option.some.inj h
    have hm : c.flow.Moves (.respond id data) none none none _ := .responds id data rfl
    simpa [flow, accepted, spawned, heard] using hm
  case request envelope =>
    split at h <;> try contradiction
    obtain rfl := Option.some.inj h
    have hm : c.flow.Moves (.request envelope) none none none _ := .requests envelope _ _ rfl rfl
    simpa [flow, accepted, spawned, heard] using hm

end Connection
end Derouter
