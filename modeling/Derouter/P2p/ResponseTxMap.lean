import Derouter.Lib.Correlation
import Derouter.P2p.Mutex

open Correlation Transition

namespace Derouter.P2p

inductive Response
  | createJob (response : CreateJobResponse)
  | getJob (response : GetJobResponse)
  | confirmJob (response : ConfirmJobResponse)

-- `libp2p::request_response::OutboundFailure`.
inductive OutboundFailure
  | dialFailure
  | timeout
  | connectionClosed
  | unsupportedProtocols
  | io

abbrev InboundResponse :=
  Except OutboundFailure Response

-- `libp2p::request_response::OutboundRequestId`.
abbrev OutboundRequestId := UInt64

-- `libp2p::request_response::Event`, without the requests of other peers.
inductive ReqresEvent
  | response (requestId : OutboundRequestId) (response : Response)
  | outboundFailure (requestId : OutboundRequestId) (error : OutboundFailure)
  | inboundFailure
  | responseSent

-- How a request has ended.
def ReqresEvent.outcome? : ReqresEvent → Option (OutboundRequestId × InboundResponse)
  | response requestId message      => some (requestId, .ok message)
  | outboundFailure requestId error => some (requestId, .error error)
  | inboundFailure                  => none
  | responseSent                    => none

-- The event loop of a node, as far as it requests something of other peers for its tasks. A task awaits
-- the outcome on a channel of its own, which has the number of the task's call.
structure Requester where
  calls         : List OutboundRequestEnvelope         := []
  queue         : List (OutboundRequestEnvelope × Nat) := []
  responseTxMap : HashMap OutboundRequestId Nat        := ∅
  -- What the tasks have got.
  results       : List (Nat × InboundResponse)         := []
  ended         : Bool                                 := false
  panicked      : Bool                                 := false
  -- The requests that were sent, and the outcomes that libp2p has told of.
  log           : List (Event OutboundRequestId OutboundRequestEnvelope Nat InboundResponse) := []

namespace Requester

variable (s : Requester)

-- A task has put its request into the queue.
def call (envelope : OutboundRequestEnvelope) : Requester :=
  { s with calls := s.calls ++ [envelope], queue := s.queue ++ [(envelope, s.calls.length)] }

-- libp2p gives the next request of the queue an ID.
def send (requestId : OutboundRequestId) : Requester :=
  match s.queue with
  | []                          => s
  | (envelope, responseTx) :: queue => { s with
      queue
      responseTxMap := s.responseTxMap.insert requestId responseTx
      log           := s.log ++ [.registered requestId envelope (some responseTx)]
    }

-- "should have response receiver in the map".
def settle (requestId : OutboundRequestId) (outcome : InboundResponse) : Requester :=
  let s := { s with log := s.log ++ [Event.arrived requestId outcome] }
  match s.responseTxMap.lookup requestId with
  | none    => { s with ended := true, panicked := true }
  | some tx => { s with
      responseTxMap := s.responseTxMap.erase requestId
      results       := s.results ++ [(tx, outcome)]
    }

def handleReqresEvent (event : ReqresEvent) : Requester :=
  match event.outcome? with
  | none                      => s
  | some (requestId, outcome) => s.settle requestId outcome

inductive Label
  | call (envelope : OutboundRequestEnvelope)
  | send (requestId : OutboundRequestId)
  | event (event : ReqresEvent)
  -- The loop breaks.
  | stop

def next : Label → Option Requester
  | .call envelope  =>
    if s.ended = false ∧ s.queue.length < requestCapacity then some (s.call envelope) else none
  | .send requestId => if s.ended = false ∧ s.queue ≠ [] then some (s.send requestId) else none
  | .event event    => if s.ended = false then some (s.handleReqresEvent event) else none
  | .stop           => some { s with queue := [], responseTxMap := ∅, ended := true }

abbrev step : Requester → Label → Requester → Prop :=
  ofFn next

-- What libp2p promises: a request gets an ID that none before it had, and one outcome at most.
def Contract : Label → Prop
  | .send requestId => requestId ∉ ids s.log
  | .event event    => ∀ requestId outcome, event.outcome? = some (requestId, outcome) →
    ∃ tx, Awaits s.log requestId tx
  | _ => True

structure Delivers : Prop where
  -- The map has the channel of every outcome.
  expects : s.panicked = false
  -- A task gets the outcome of its own request, and nothing else.
  results : ∀ tx outcome, (tx, outcome) ∈ s.results ↔ ∃ requestId envelope,
    s.calls[tx]? = some envelope ∧ Event.registered requestId envelope (some tx) ∈ s.log ∧
      Event.arrived requestId outcome ∈ s.log
  once    : (s.results.map (·.1)).Nodup
  -- No channel is dropped without a result as long as the loop runs.
  held    : s.ended = false → ∀ tx < s.calls.length, tx ∈ s.queue.map (·.2) ∨
    (∃ requestId, s.responseTxMap.lookup requestId = some tx) ∨ tx ∈ s.results.map (·.1)

variable {s s' : Requester} {l : Label}

-- How the log is linked to what the tasks have asked for, and to what they have got.
structure Linked (s : Requester) : Prop where
  expects  : s.panicked = false
  ids      : (ids s.log).Nodup
  txs      : (txs s.log).Nodup
  results  : s.results = (Table.ofLog s.log).replies
  calls    : ∀ requestId envelope tx, Event.registered requestId envelope (some tx) ∈ s.log →
    s.calls[tx]? = some envelope
  arrivals : ∀ requestId outcome, Event.arrived requestId outcome ∈ s.log →
    ∃ tx, Answers s.log requestId tx outcome

-- How the map and the queue are linked to the log, as long as the loop runs.
structure Live (s : Requester) : Prop where
  pending : ∀ requestId, (s.responseTxMap.lookup requestId).map some =
    (Table.ofLog s.log).pending requestId
  txs     : txs s.log ++ s.queue.map (·.2) = List.range s.calls.length
  queue   : ∀ p ∈ s.queue, s.calls[p.2]? = some p.1

theorem linked_start : Linked {} where
  expects  := rfl
  ids      := .nil
  txs      := .nil
  results  := rfl
  calls    := by simp
  arrivals := by simp

theorem live_start : Live {} where
  pending := fun _ => rfl
  txs     := rfl
  queue   := by simp

theorem call_calls {envelope : OutboundRequestEnvelope} {tx : Nat} (h : s.calls[tx]? = some e) :
    (s.call envelope).calls[tx]? = some e :=
  (List.getElem?_append_left (List.getElem?_eq_some_iff.mp h).1).trans h

theorem linked_call {envelope : OutboundRequestEnvelope} (hs : s.Linked) :
    (s.call envelope).Linked :=
  { hs with calls := fun i e tx hm => call_calls (hs.calls i e tx hm) }

theorem live_call {envelope : OutboundRequestEnvelope} (hs : s.Live) : (s.call envelope).Live where
  pending := hs.pending
  txs     := by
    simp only [call, List.map_append, List.map_cons, List.map_nil, List.length_append,
      List.length_singleton, List.range_succ]
    rw [← List.append_assoc, hs.txs]
  queue   := by
    intro p hp
    cases List.mem_append.mp hp
    case inl hp => exact call_calls (hs.queue p hp)
    case inr hp =>
      obtain rfl := List.mem_singleton.mp hp
      simp [call]

theorem linked_send {requestId : OutboundRequestId} (hs : s.Linked) (hl : s.Live)
    (hi : requestId ∉ Correlation.ids s.log) : (s.send requestId).Linked := by
  simp only [send]
  split
  case h_1 => exact hs
  case h_2 envelope tx queue hq =>
    have ht : Correlation.txs s.log ++ (tx :: queue.map (·.2)) = List.range s.calls.length := by
      simpa [hq] using hl.txs
    constructor
    case expects => exact hs.expects
    case ids     =>
      rw [ids_concat]
      exact List.nodup_append'.mpr ⟨hs.ids, List.nodup_singleton _, by simpa [Event.request?] using hi⟩
    case txs     =>
      have hn : (Correlation.txs s.log ++ [tx] ++ queue.map (·.2)).Nodup := by
        simpa [ht] using List.nodup_range
      rw [txs_concat]
      exact hn.of_append_left
    case results => rw [Table.ofLog_concat, hs.results, Table.handle]
    case calls   =>
      intro i e tx' hm
      cases List.mem_append.mp hm
      case inl hm => exact hs.calls i e tx' hm
      case inr hm =>
        obtain ⟨rfl, rfl, rfl⟩ : i = requestId ∧ e = envelope ∧ tx' = tx := by simpa using hm
        exact hl.queue (e, tx') (hq ▸ List.mem_cons_self)
    case arrivals =>
      intro i outcome hm
      obtain ⟨tx', ha⟩ := hs.arrivals i outcome (by simpa using hm)
      exact ⟨tx', answers_concat_iff.mpr (.inl ha)⟩

theorem live_send {requestId : OutboundRequestId} (hs : s.Live) : (s.send requestId).Live := by
  simp only [send]
  split
  case h_1 => exact hs
  case h_2 envelope tx queue hq =>
    constructor
    case txs     => simpa [txs_concat, hq, Event.tx?] using hs.txs
    case queue   => exact fun p hp => hs.queue p (hq ▸ List.mem_cons_of_mem _ hp)
    case pending =>
      intro i
      rw [Table.ofLog_concat]
      by_cases he : i = requestId
      case pos =>
        subst he
        simp [Table.handle]
      case neg => simp [Table.handle, he, hs.pending]

theorem lookup_of_awaits {requestId : OutboundRequestId} (hs : s.Linked) (hl : s.Live)
    (ha : Awaits s.log requestId tx) : ∃ tx', tx = some tx' ∧
      s.responseTxMap.lookup requestId = some tx' := by
  have hp := (hl.pending requestId).trans ((Table.pending_iff hs.ids).mpr ha)
  obtain ⟨tx', ht, rfl⟩ := Option.map_eq_some_iff.mp hp
  exact ⟨tx', rfl, ht⟩

theorem linked_settle {requestId : OutboundRequestId} {outcome : InboundResponse} (hs : s.Linked)
    (hl : s.Live) (ha : Awaits s.log requestId tx) : (s.settle requestId outcome).Linked := by
  obtain ⟨tx', rfl, ht⟩ := lookup_of_awaits hs hl ha
  simp only [settle, ht]
  constructor
  case expects => exact hs.expects
  case ids     => simpa [ids_concat, Event.request?] using hs.ids
  case txs     => simpa [txs_concat, Event.tx?] using hs.txs
  case calls   => exact fun i e tx hm => hs.calls i e tx (by simpa using hm)
  case results =>
    have hp := (Table.pending_iff hs.ids).mpr ha
    rw [Table.ofLog_concat, Table.handle, hp, hs.results]
    rfl
  case arrivals =>
    intro i outcome' hm
    cases List.mem_append.mp hm
    case inl hm =>
      obtain ⟨tx', ha⟩ := hs.arrivals i outcome' hm
      exact ⟨tx', answers_concat_iff.mpr (.inl ha)⟩
    case inr hm =>
      obtain ⟨rfl, rfl⟩ : i = requestId ∧ outcome' = outcome := by simpa using hm
      exact ⟨_, answers_concat_iff.mpr (.inr ⟨rfl, ha⟩)⟩

theorem live_settle {requestId : OutboundRequestId} {outcome : InboundResponse} (hs : s.Linked)
    (hl : s.Live) (ha : Awaits s.log requestId tx) : (s.settle requestId outcome).Live := by
  obtain ⟨tx', rfl, ht⟩ := lookup_of_awaits hs hl ha
  simp only [settle, ht]
  constructor
  case txs     => simpa [txs_concat, Event.tx?] using hl.txs
  case queue   => exact hl.queue
  case pending =>
    intro i
    rw [Table.ofLog_concat]
    by_cases he : i = requestId
    case pos =>
      subst he
      simp [Table.handle]
    case neg => simp [Table.handle, he, hl.pending]

-- What the loop keeps.
def Keeps (s : Requester) : Prop :=
  s.Linked ∧ (s.ended = false → s.Live)

theorem keeps_step (hs : s.Keeps) (hc : s.Contract l) (h : step s l s') : s'.Keeps := by
  obtain ⟨hs, hl⟩ := hs
  simp only [step, ofFn] at h
  cases l <;> simp only [next, Option.ite_none_right_eq_some, Option.some.injEq] at h
  case call envelope =>
    obtain ⟨⟨he, _⟩, rfl⟩ := h
    exact ⟨linked_call hs, fun _ => live_call (hl he)⟩
  case send requestId =>
    obtain ⟨⟨he, _⟩, rfl⟩ := h
    exact ⟨linked_send hs (hl he) hc, fun _ => live_send (hl he)⟩
  case stop =>
    subst h
    exact ⟨{ hs with }, by simp⟩
  case event event =>
    obtain ⟨he, rfl⟩ := h
    simp only [handleReqresEvent]
    split
    case h_1 => exact ⟨hs, hl⟩
    case h_2 requestId outcome ho =>
      obtain ⟨tx, ha⟩ := hc requestId outcome ho
      exact ⟨linked_settle hs (hl he) ha, fun _ => live_settle hs (hl he) ha⟩

-- In every run in which libp2p keeps its promises, each task gets the outcome of its own request.
theorem delivers_of_run (r : Run step {} tr s) (hc : Meets Contract tr) : s.Delivers := by
  obtain ⟨hs, hl⟩ : s.Keeps := r.invariant_of_meets hc ⟨linked_start, fun _ => live_start⟩
    fun _ _ _ => keeps_step
  have hr (tx : Nat) (outcome : InboundResponse) : (tx, outcome) ∈ s.results ↔
      ∃ requestId, Answers s.log requestId (some tx) outcome := by
    rw [hs.results, Table.mem_replies_iff hs.ids]
  constructor
  case expects => exact hs.expects
  case once    => exact hs.results ▸ Table.nodup_replies hs.ids hs.txs
  case results =>
    intro tx outcome
    rw [hr]
    constructor
    case mp =>
      rintro ⟨requestId, ha⟩
      obtain ⟨hm, envelope, he⟩ := ha.mem
      exact ⟨requestId, envelope, hs.calls _ _ _ he, he, hm⟩
    case mpr =>
      rintro ⟨requestId, envelope, _, he, hm⟩
      obtain ⟨tx', ha⟩ := hs.arrivals requestId outcome hm
      obtain ⟨_, he'⟩ := ha.mem.2
      exact ⟨requestId, registered_inj hs.ids he he' ▸ ha⟩
  case held =>
    intro he tx ht
    have hl := hl he
    have hm : tx ∈ txs s.log ++ s.queue.map (·.2) := hl.txs ▸ List.mem_range.mpr ht
    cases List.mem_append.mp hm
    case inr hm => exact .inl hm
    case inl hm =>
      obtain ⟨e, hm, htx⟩ := List.mem_filterMap.mp hm
      cases e <;> simp only [Event.tx?, reduceCtorEq] at htx
      case registered requestId envelope _ =>
        subst htx
        cases awaits_or_answers hm
        case inl ha =>
          obtain ⟨tx', ht', hp⟩ := lookup_of_awaits hs hl ha
          exact .inr <| .inl ⟨requestId, Option.some.inj ht' ▸ hp⟩
        case inr ha =>
          obtain ⟨outcome, ha⟩ := ha
          exact .inr <| .inr <| List.mem_map_of_mem ((hr tx outcome).mpr ⟨requestId, ha⟩)

theorem step_call (envelope : OutboundRequestEnvelope)
    (h : s.ended = false ∧ s.queue.length < requestCapacity) : step s (.call envelope) (s.call envelope) :=
  if_pos h

theorem step_send (requestId : OutboundRequestId) (h : s.ended = false ∧ s.queue ≠ []) :
    step s (.send requestId) (s.send requestId) :=
  if_pos h

theorem step_event (event : ReqresEvent) (h : s.ended = false) :
    step s (.event event) (s.handleReqresEvent event) :=
  if_pos h

private def getJobOf (byte : UInt8) : OutboundRequestEnvelope :=
  ⟨⟨[byte]⟩, .getJob ⟨"job"⟩⟩

private def notFound : ReqresEvent :=
  .response 8 (.getJob .jobNotFound)

-- The second of two requests is the first to be settled.
theorem delivers_of_run_sample : ∃ tr s, Run step {} tr s ∧ s.results.map (·.1) = [1] ∧
    s.responseTxMap.lookup 7 = some 0 ∧ s.Delivers := by
  have r : Run step {} _ _ :=
    .cons (step_call (getJobOf 1) ⟨rfl, by decide⟩) <|
      .cons (step_call (getJobOf 2) ⟨rfl, by decide⟩) <|
        .cons (step_send 7 ⟨rfl, by simp [call]⟩) <|
          .cons (step_send 8 ⟨rfl, by simp [call, send]⟩) <|
            .cons (step_event notFound rfl) .nil
  refine ⟨_, _, r, by decide, by decide, delivers_of_run r ?_⟩
  simp only [Meets, List.forall_mem_cons]
  refine ⟨trivial, trivial, by simp [Contract, ids, call], ?_, ?_, by simp⟩
  · simp [Contract, ids, call, send, Event.request?]
  · intro requestId outcome h
    obtain ⟨rfl, rfl⟩ := Prod.mk.inj (Option.some.inj h)
    exact ⟨some 1, [.registered 7 (getJobOf 1) (some 0)], getJobOf 2, [], rfl, by simp⟩

end Requester
end Derouter.P2p
