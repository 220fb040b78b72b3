import Derouter.Lib.Correlation
import Derouter.Rpc.Connection.Steps

open Correlation Transition

namespace Derouter

-- A request for the module, with a channel of its own for the response. The receiving end is dropped
-- at once unless the response is `awaited`.
def OutboundRequestEnvelope.new (channels : Nat) (frameData : OutboundRequestFrameData)
    (awaited : Bool) : OutboundRequestEnvelope × Nat :=
  ({ frameData, responseTx := if awaited then some channels else none }, channels + 1)

-- The ID and the data of a request frame.
def OutboundFrame.request? : OutboundFrame → Option (UInt32 × OutboundRequestFrameData)
  | request id data => some (id, data)
  | response ..     => none

@[simp]
theorem OutboundFrame.request?_response (id : UInt32) (data : OutboundResponseFrameData) :
    (response id data).request? = none :=
  rfl

abbrev RequestEvent :=
  Event UInt32 OutboundRequestFrameData Nat InboundResponseFrameData

namespace Connection

variable (decoder : Decoder) (c : Connection)

-- The request that is registered when the reader has nothing.
def forwarded : Option RequestEvent :=
  match c.outbound, c.outboundRequests with
  | [], envelope :: _ =>
    some <| .registered c.outboundRequestsCounter envelope.frameData envelope.responseTx
  | _, _ => none

-- What a poll registers, or what arrives in it.
def polled : Option RequestEvent :=
  if c.cancelled then
    none
  else
    match c.rpcStream.nextCbor.1 with
    | .some body =>
      match decoder.inboundFrame body with
      | some (.response response) => some <| .arrived response.id response.data
      | _                         => none
    | .pending => c.forwarded
    | _        => none

def logged (l : Label) : Option RequestEvent :=
  match l, c.pc with
  | .poll _, .select => c.polled decoder
  | _, _             => none

end Connection

-- A connection, next to the number of channels that were created, and the log of the requests that
-- were registered and of the responses that have arrived.
structure ConnectionLog where
  connection : Connection        := {}
  channels   : Nat               := 0
  log        : List RequestEvent := []

namespace ConnectionLog

inductive Label
  -- Another task puts a request into the queue.
  | call (frameData : OutboundRequestFrameData) (awaited : Bool)
  -- Any other step of the connection.
  | act (l : Connection.Label)

def next (decoder : Decoder) (s : ConnectionLog) : Label → Option ConnectionLog
  | .call frameData awaited =>
    let (envelope, channels) := OutboundRequestEnvelope.new s.channels frameData awaited
    match s.connection.next decoder (.request envelope) with
    | none            => none
    | some connection => some { s with connection, channels }
  | .act (.request _) => none
  | .act l            =>
    match s.connection.next decoder l with
    | none            => none
    | some connection =>
      some { s with connection, log := s.log ++ (s.connection.logged decoder l).toList }

abbrev step (decoder : Decoder) : ConnectionLog → Label → ConnectionLog → Prop :=
  ofFn (next decoder)

-- The replies reach the requests that they answer.
structure Correlates (decoder : Decoder) (s : ConnectionLog) : Prop where
  -- The frames of different requests have different IDs, which are those under which the requests
  -- were registered.
  ids     : ((s.connection.written.filterMap OutboundFrame.request?).map (·.1)).Nodup
  carried : s.connection.written.filterMap OutboundFrame.request? <+: s.log.filterMap Event.request?
  -- Nobody gets a second reply, and a reply is the first response to the request.
  replies : (s.connection.replies.map (·.1)).Nodup
  first   : ∀ tx data, (tx, data) ∈ s.connection.replies ↔ ∃ id, Answers s.log id (some tx) data
  -- A response that is not the first one to a request is only taken off the stream.
  others  : ∀ spawns id data s', s.next decoder (.act (.poll spawns)) = some s' →
    s.connection.polled decoder = some (.arrived id data) → (∀ tx, ¬Awaits s.log id tx) →
    s'.connection = { s.connection with rpcStream := s.connection.rpcStream.nextCbor.2 }

end ConnectionLog

namespace Connection

variable {decoder : Decoder} {c c' : Connection} {l : Label}

-- The request frames that are registered, and still to be written.
def unwritten (c : Connection) : List (UInt32 × OutboundRequestFrameData) :=
  match c.pc with
  | .writing frame    => frame.request?.toList ++ c.outbound.filterMap OutboundFrame.request?
  | .answering frame  => c.outbound.filterMap OutboundFrame.request? ++ frame.request?.toList
  | .forwarding frame => c.outbound.filterMap OutboundFrame.request? ++ frame.request?.toList
  | _                 => c.outbound.filterMap OutboundFrame.request?

-- The ID of the next request. The counter goes up only after the frame is in the queue.
def nextId (c : Connection) : UInt32 :=
  match c.pc with
  | .forwarding _ => c.outboundRequestsCounter + 1
  | _             => c.outboundRequestsCounter

-- The channels of the requests that are still to be registered.
def queuedTxs (c : Connection) : List Nat :=
  c.outboundRequests.filterMap (·.responseTx)

-- A step that neither registers a request nor handles a response.
structure Quiet (c c' : Connection) : Prop where
  inboundResponseTxs : c'.inboundResponseTxs = c.inboundResponseTxs
  replies            : c'.replies = c.replies
  nextId             : c'.nextId = c.nextId
  queuedTxs          : c'.queuedTxs = c.queuedTxs
  frames             : c'.written.filterMap OutboundFrame.request? ++ c'.unwritten =
    c.written.filterMap OutboundFrame.request? ++ c.unwritten

-- What a poll does to the requests and responses.
inductive Polls (c : Connection) : Option RequestEvent → Connection → Prop
  | quiet {c' : Connection} (h : c.Quiet c') : Polls c none c'
  | arrived (id : UInt32) (data : InboundResponseFrameData) (rpcStream : CborStream) :
    Polls c (some <| .arrived id data) ({ c with rpcStream }.handleInboundResponse ⟨id, data⟩)
  | registered (envelope : OutboundRequestEnvelope) (rest : List OutboundRequestEnvelope)
      (rpcStream : CborStream) (pc : c.pc = .select) (outbound : c.outbound = [])
      (outboundRequests : c.outboundRequests = envelope :: rest) :
    Polls c
      (some <| .registered c.outboundRequestsCounter envelope.frameData envelope.responseTx)
      { c with
        rpcStream
        outboundRequests   := rest
        inboundResponseTxs := c.inboundResponseTxs.insert c.outboundRequestsCounter envelope.responseTx
        pc                 := .forwarding <| .request c.outboundRequestsCounter envelope.frameData
      }

theorem polls_pollQueues (hp : c.pc = .select) (rpcStream : CborStream) :
    c.Polls c.forwarded { c with rpcStream }.pollQueues := by
  simp only [pollQueues]
  split
  case h_1 frame outbound ho =>
    rw [show c.forwarded = none by simp [forwarded, ho]]
    refine .quiet ⟨rfl, rfl, by simp [nextId, hp], rfl, ?_⟩
    cases hf : frame.request? <;> simp [unwritten, hp, ho, hf]
  case h_2 envelope rest ho hr =>
    have hf : c.forwarded =
        some (.registered c.outboundRequestsCounter envelope.frameData envelope.responseTx) := by
      simp [forwarded, ho, hr]
    exact hf ▸ .registered envelope rest rpcStream.dropFuture hp ho hr
  case h_3 ho hr _ =>
    rw [show c.forwarded = none by simp [forwarded, ho, hr]]
    exact .quiet ⟨rfl, rfl, by simp [nextId, hp], rfl, by simp [unwritten, hp]⟩
  case h_4 ho hr _ =>
    rw [show c.forwarded = none by simp [forwarded, ho, hr]]
    exact .quiet ⟨rfl, rfl, rfl, rfl, rfl⟩
  case h_5 ho hr _ =>
    rw [show c.forwarded = none by simp [forwarded, ho, hr]]
    exact .quiet ⟨rfl, rfl, rfl, rfl, rfl⟩

theorem polls_pollSelect {spawns : Bool} (hp : c.pc = .select) :
    c.Polls (c.polled decoder) (c.pollSelect decoder spawns) := by
  simp only [pollSelect, polled]
  split
  case isTrue => exact .quiet ⟨rfl, rfl, by simp [nextId, hp], rfl, by simp [unwritten, hp]⟩
  case isFalse =>
    generalize c.rpcStream.nextCbor = p
    obtain ⟨result, rpcStream⟩ := p
    have hq : c.Quiet { c with rpcStream } := ⟨rfl, rfl, rfl, rfl, rfl⟩
    cases result
    case none    => exact .quiet ⟨rfl, rfl, by simp [nextId, hp], rfl, by simp [unwritten, hp]⟩
    case err     => exact .quiet hq
    case pending => exact polls_pollQueues hp rpcStream
    case some body =>
      dsimp only
      cases decoder.inboundFrame body
      case none => exact .quiet hq
      case some frame =>
        cases frame
        case request  =>
          exact .quiet ⟨rfl, rfl, by simp [nextId, hp], rfl, by simp [unwritten, hp]⟩
        case response => exact .arrived _ _ rpcStream

theorem request?_of_answering {request : InboundRequestFrame} {spawns : Bool} {frame : OutboundFrame}
    (h : (c.handleInboundRequest decoder request spawns).pc = .answering frame) :
    frame.request? = none := by
  simp only [handleInboundRequest] at h
  split at h
  case h_1 =>
    split at h
    case isTrue  => contradiction
    case isFalse => exact ConnectionPc.answering.inj h ▸ rfl
  case h_2 => split at h <;> exact ConnectionPc.answering.inj h ▸ rfl
  all_goals exact ConnectionPc.answering.inj h ▸ rfl

theorem quiet_next (hr : ∀ envelope, l ≠ .request envelope) (hs : ∀ spawns, l ≠ .poll spawns)
    (h : step decoder c l c') : c.Quiet c' := by
  cases l
  case request envelope => exact absurd rfl (hr envelope)
  case poll spawns      => exact absurd rfl (hs spawns)
  case handled =>
    have ⟨request, spawns, hp, hh⟩ := handles_next h
    have hc : c' = c.handleInboundRequest decoder request spawns := by
      simpa [step, ofFn, next, hp] using h.symm
    cases hh
    case spawns  => exact ⟨rfl, rfl, by simp [nextId, hp], rfl, by simp [unwritten, hp]⟩
    case answers _ frame _ _ =>
      have hf : frame.request? = none := request?_of_answering (congrArg pc hc).symm
      exact ⟨rfl, rfl, by simp [nextId, hp], rfl, by simp [unwritten, hp, hf]⟩
  all_goals simp only [step, ofFn, next] at h
  case send =>
    split at h
    case isTrue  => contradiction
    case isFalse => exact Option.some.inj h ▸ ⟨rfl, rfl, rfl, rfl, rfl⟩
  case close     => exact Option.some.inj h ▸ ⟨rfl, rfl, rfl, rfl, rfl⟩
  case arrive    => exact Option.some.inj h ▸ ⟨rfl, rfl, rfl, rfl, rfl⟩
  case cancel    => exact Option.some.inj h ▸ ⟨rfl, rfl, rfl, rfl, rfl⟩
  case broadcast => exact Option.some.inj h ▸ ⟨rfl, rfl, rfl, rfl, rfl⟩
  case lag       => exact Option.some.inj h ▸ ⟨rfl, rfl, rfl, rfl, rfl⟩
  case respond =>
    split at h
    case isTrue =>
      refine Option.some.inj h ▸ ⟨rfl, rfl, rfl, rfl, ?_⟩
      simp only [unwritten]
      split <;> simp
    case isFalse => contradiction
  case wrote =>
    split at h
    case h_1 frame hp =>
      refine Option.some.inj h ▸ ⟨rfl, rfl, by simp [nextId, hp], rfl, ?_⟩
      cases hf : frame.request? <;> simp [unwritten, hp, hf]
    case h_2 => contradiction
  case sends =>
    split at h
    case h_1 frame hp =>
      split at h
      case isTrue =>
        refine Option.some.inj h ▸ ⟨rfl, rfl, by simp [nextId, hp], rfl, ?_⟩
        cases hf : frame.request? <;> simp [unwritten, hp, hf]
      case isFalse => contradiction
    case h_2 frame hp =>
      split at h
      case isTrue =>
        refine Option.some.inj h ▸ ⟨rfl, rfl, by simp [nextId, hp], rfl, ?_⟩
        cases hf : frame.request? <;> simp [unwritten, hp, hf]
      case isFalse => contradiction
    case h_3 hp =>
      exact Option.some.inj h ▸
        ⟨rfl, rfl, by simp [nextId, hp], rfl, by simp [unwritten, hp]⟩
    case h_4 frameData frames hp =>
      split at h
      case isTrue =>
        exact Option.some.inj h ▸
          ⟨rfl, rfl, by simp [nextId, hp], by simp [queuedTxs], by simp [unwritten, hp]⟩
      case isFalse => contradiction
    case h_5 => contradiction

theorem polls_next (hr : ∀ envelope, l ≠ .request envelope) (h : step decoder c l c') :
    c.Polls (c.logged decoder l) c' := by
  cases l
  case poll spawns =>
    simp only [step, ofFn, next] at h
    split at h
    case h_1 hp =>
      simp only [logged, hp]
      exact Option.some.inj h ▸ polls_pollSelect hp
    case h_2 => contradiction
  all_goals exact .quiet <| quiet_next hr (by simp) h

-- "Inbound response with unexpected ID".
theorem handleInboundResponse_of_unexpected {response : InboundResponseFrame}
    (h : c.inboundResponseTxs.lookup response.id = none) : c.handleInboundResponse response = c := by
  rw [handleInboundResponse, h]

theorem poll_arrived {spawns : Bool} {id : UInt32} {data : InboundResponseFrameData}
    (h : c.next decoder (.poll spawns) = some c')
    (hp : c.polled decoder = some (.arrived id data)) :
    c' = { c with rpcStream := c.rpcStream.nextCbor.2 }.handleInboundResponse ⟨id, data⟩ := by
  simp only [next] at h
  split at h
  case h_2 => contradiction
  case h_1 =>
    obtain rfl := Option.some.inj h
    simp only [polled] at hp
    split at hp
    case isTrue => contradiction
    case isFalse hc =>
      split at hp
      case h_3 => contradiction
      case h_2 =>
        simp only [forwarded] at hp
        split at hp <;> simp at hp
      case h_1 body hb =>
        split at hp
        case h_2 => contradiction
        case h_1 response hd =>
          obtain ⟨rfl, rfl⟩ := Event.arrived.inj (Option.some.inj hp)
          simp only [pollSelect, hc, hb, hd]
          rfl

end Connection

namespace ConnectionLog

variable {decoder : Decoder} {s s' : ConnectionLog} {l : Label}

-- How the counter, the pending requests and both queues are linked to the log.
structure Linked (s : ConnectionLog) : Prop where
  counted : ids s.log = (List.range (ids s.log).length).map UInt32.ofNat
  nextId  : s.connection.nextId = .ofNat (ids s.log).length
  pending : ∀ id, s.connection.inboundResponseTxs.lookup id = (Table.ofLog s.log).pending id
  replies : s.connection.replies = (Table.ofLog s.log).replies
  frames  : s.connection.written.filterMap OutboundFrame.request? ++ s.connection.unwritten =
    s.log.filterMap Event.request?
  created : ∀ tx ∈ txs s.log ++ s.connection.queuedTxs, tx < s.channels
  nodup   : (txs s.log ++ s.connection.queuedTxs).Nodup

theorem linked_new : Linked {} :=
  ⟨rfl, rfl, fun _ => rfl, rfl, rfl, nofun, .nil⟩

theorem Linked.call {connection : Connection} {frameData : OutboundRequestFrameData} {awaited : Bool}
    (hl : s.Linked) (h : s.connection.next decoder
      (.request (OutboundRequestEnvelope.new s.channels frameData awaited).1) = some connection) :
    Linked { s with connection, channels := s.channels + 1 } := by
  simp only [Connection.next, OutboundRequestEnvelope.new] at h
  split at h
  case isFalse => contradiction
  case isTrue =>
    obtain rfl := Option.some.inj h
    have hc : s.channels ∉ txs s.log ++ s.connection.queuedTxs := fun hm =>
      Nat.lt_irrefl _ (hl.created _ hm)
    have hq : Connection.queuedTxs { s.connection with
        outboundRequests := s.connection.outboundRequests ++
          [{ frameData, responseTx := if awaited then some s.channels else none }] } =
        s.connection.queuedTxs ++ if awaited then [s.channels] else [] := by
      cases awaited <;> simp [Connection.queuedTxs]
    refine { hl with created := fun tx ht => ?_, nodup := ?_ }
    case _ =>
      rw [hq, ← List.append_assoc] at ht
      cases List.mem_append.mp ht
      case inl ht => exact Nat.lt_succ_of_lt (hl.created _ ht)
      case inr ht =>
        have ht : tx = s.channels := by
          cases awaited <;> simp_all
        exact ht ▸ Nat.lt_succ_self _
    case _ =>
      rw [hq, ← List.append_assoc]
      cases awaited
      case false => simpa using hl.nodup
      case true  => exact List.nodup_append'.mpr ⟨hl.nodup, List.nodup_singleton _, by simpa using hc⟩

theorem Linked.arrived {id : UInt32} {data : InboundResponseFrameData} {rpcStream : CborStream}
    (hl : s.Linked) : Linked { s with
      connection := { s.connection with rpcStream }.handleInboundResponse ⟨id, data⟩
      log        := s.log ++ [.arrived id data] } := by
  have hi : ids (s.log ++ [.arrived id data]) = ids s.log := by simp [ids_concat, Event.request?]
  have ht : txs (s.log ++ [.arrived id data]) = txs s.log := by simp [txs_concat, Event.tx?]
  have hf : (s.log ++ [Event.arrived id data]).filterMap Event.request? =
      s.log.filterMap Event.request? := by simp [Event.request?]
  have hp := hl.pending
  have hr := hl.replies
  simp only [Connection.handleInboundResponse]
  split
  case h_1 hn =>
    refine ⟨hi ▸ hl.counted, hi ▸ hl.nextId, fun id' => ?_, ?_, hf ▸ hl.frames, ht ▸ hl.created,
      ht ▸ hl.nodup⟩
    all_goals rw [Table.ofLog_concat, Table.handle_of_not_pending (hp id ▸ hn)]
    case _ => exact hp id'
    case _ => exact hr
  case h_2 tx hs =>
    refine ⟨hi ▸ hl.counted, hi ▸ hl.nextId, fun id' => ?_, ?_, hf ▸ hl.frames, ht ▸ hl.created,
      ht ▸ hl.nodup⟩
    all_goals rw [Table.ofLog_concat]
    case _ =>
      by_cases he : id' = id
      case pos =>
        subst he
        simp [Table.handle]
      case neg => simp [Table.handle, he, hp]
    case _ => simp [Table.handle, ← hp, hs, hr]

theorem Linked.registered {envelope : OutboundRequestEnvelope} {rest : List OutboundRequestEnvelope}
    {rpcStream : CborStream} (hl : s.Linked) (hp : s.connection.pc = .select)
    (ho : s.connection.outbound = [])
    (hr : s.connection.outboundRequests = envelope :: rest) : Linked { s with
      connection := { s.connection with
        rpcStream
        outboundRequests   := rest
        inboundResponseTxs := s.connection.inboundResponseTxs.insert
          s.connection.outboundRequestsCounter envelope.responseTx
        pc                 :=
          .forwarding <| .request s.connection.outboundRequestsCounter envelope.frameData }
      log        := s.log ++ [.registered s.connection.outboundRequestsCounter envelope.frameData
        envelope.responseTx] } := by
  have hc : s.connection.outboundRequestsCounter = .ofNat (ids s.log).length := by
    simpa [Connection.nextId, hp] using hl.nextId
  have hi : ids (s.log ++ [.registered s.connection.outboundRequestsCounter envelope.frameData
      envelope.responseTx]) = ids s.log ++ [s.connection.outboundRequestsCounter] := by
    simp [ids_concat, Event.request?]
  have hq : s.connection.queuedTxs = envelope.responseTx.toList ++ rest.filterMap (·.responseTx) := by
    cases he : envelope.responseTx <;> simp [Connection.queuedTxs, hr, he]
  have ht : txs (s.log ++ [.registered s.connection.outboundRequestsCounter envelope.frameData
      envelope.responseTx]) ++ rest.filterMap (·.responseTx) =
      txs s.log ++ s.connection.queuedTxs := by
    rw [txs_concat, List.append_assoc, hq, Event.tx?]
  constructor
  case counted =>
    rw [hi, List.length_append, List.length_singleton, List.range_succ, List.map_append, ← hl.counted,
      List.map_singleton, hc]
  case nextId =>
    rw [hi, List.length_append, List.length_singleton, UInt32.ofNat_add, ← hc]
    rfl
  case pending =>
    intro id
    rw [Table.ofLog_concat]
    by_cases he : id = s.connection.outboundRequestsCounter
    case pos =>
      subst he
      simp [Table.handle]
    case neg => simp [Table.handle, he, hl.pending]
  case replies => simp [Table.ofLog_concat, Table.handle, hl.replies]
  case frames =>
    have hf := hl.frames
    simp only [Connection.unwritten, hp, ho, List.filterMap_nil, List.append_nil] at hf
    simp [Connection.unwritten, OutboundFrame.request?, Event.request?, ho, hf]
  case created => exact ht ▸ hl.created
  case nodup   => exact ht ▸ hl.nodup

theorem next_act {l : Connection.Label} (hr : ∀ envelope, l ≠ .request envelope)
    (h : s.next decoder (.act l) = some s') :
    ∃ connection, s.connection.next decoder l = some connection ∧
      s' = { s with connection, log := s.log ++ (s.connection.logged decoder l).toList } := by
  rw [next] at h
  case x_1 => exact hr
  case _ =>
    split at h
    case h_1    => contradiction
    case h_2 hc => exact ⟨_, hc, (Option.some.inj h).symm⟩

theorem Linked.step (hl : s.Linked) (h : step decoder s l s') : s'.Linked := by
  cases l
  case call =>
    simp only [ConnectionLog.step, ofFn, next] at h
    split at h
    case h_1    => contradiction
    case h_2 he => exact Option.some.inj h ▸ hl.call he
  case act l =>
    have hr : ∀ envelope, l ≠ .request envelope := by
      rintro envelope rfl
      contradiction
    have ⟨connection, hc, hs⟩ := next_act hr h
    subst hs
    have hp := Connection.polls_next hr hc
    generalize s.connection.logged decoder l = e at hp ⊢
    cases hp
    case arrived    => exact hl.arrived
    case registered => exact hl.registered ‹_› ‹_› ‹_›
    case quiet hq   =>
      rw [Option.toList_none, List.append_nil]
      exact {
        counted := hl.counted
        nextId  := hq.nextId ▸ hl.nextId
        pending := hq.inboundResponseTxs ▸ hl.pending
        replies := hq.replies ▸ hl.replies
        frames  := hq.frames ▸ hl.frames
        created := hq.queuedTxs ▸ hl.created
        nodup   := hq.queuedTxs ▸ hl.nodup
      }

-- The counter does not come back to an ID before it has gone through all of them.
theorem Linked.nodup_ids (hl : s.Linked) (hn : (ids s.log).length < 2 ^ 32) : (ids s.log).Nodup := by
  rw [hl.counted]
  refine List.nodup_range.map_on fun a ha b hb he => ?_
  rw [List.mem_range] at ha hb
  have he := congrArg UInt32.toNat he
  rwa [UInt32.toNat_ofNat_of_lt' (Nat.lt_trans ha hn), UInt32.toNat_ofNat_of_lt' (Nat.lt_trans hb hn)] at he

theorem Linked.correlates (hl : s.Linked) (hn : (ids s.log).length < 2 ^ 32) :
    s.Correlates decoder := by
  have hi := hl.nodup_ids hn
  have hc : s.connection.written.filterMap OutboundFrame.request? <+:
      s.log.filterMap Event.request? := ⟨_, hl.frames⟩
  constructor
  case ids     => exact (hc.sublist.map _).nodup hi
  case carried => exact hc
  case replies =>
    rw [hl.replies]
    exact Table.nodup_replies hi (List.nodup_append'.mp hl.nodup).1
  case first =>
    intro tx data
    rw [hl.replies]
    exact Table.mem_replies_iff hi
  case others =>
    intro spawns id data s' h hp ha
    have hu : s.connection.inboundResponseTxs.lookup id = none := by
      rw [hl.pending]
      cases he : (Table.ofLog s.log).pending id
      case none    => rfl
      case some tx => exact absurd ((Table.pending_iff hi).mp he) (ha tx)
    have ⟨connection, hc, hs⟩ := next_act (l := .poll spawns) (by simp) h
    rw [hs, Connection.poll_arrived hc hp]
    exact Connection.handleInboundResponse_of_unexpected hu

-- In every run with fewer requests than there are IDs, replies reach the requests that they answer.
theorem correlates_of_run {tr} (r : Run (step decoder) {} tr s) (hn : (ids s.log).length < 2 ^ 32) :
    s.Correlates decoder :=
  (r.invariant linked_new fun _ _ _ => Linked.step).correlates hn

private def ackFrame : Framing.Frame where
  body := [0]
  fits := by decide

private def acks : Decoder where
  inboundFrame _ := some <| .response ⟨0, .ack⟩
  peerId _       := none

-- The same response arrives three times: before the request is registered, then as its response, and
-- then as a duplicate.
theorem correlates_of_run_sample : ∃ tr s, Run (step acks) {} tr s ∧
    s.connection.replies = [(0, .ack)] ∧ s.log.length = 4 ∧ s.Correlates acks := by
  let receives : List Label := [.act <| .send ackFrame, .act <| .arrive 5, .act <| .poll false]
  have ⟨tr, s, r, _, hc⟩ := Run.of_schedule (next acks) {}
    (receives ++ [.call (.providerOpenJobConnection 0 "") true, .act <| .poll false, .act .sends,
      .act <| .poll false, .act .wrote] ++ receives ++ receives)
    (fun s => s.connection.replies == [(0, .ack)] && s.log.length == 4 &&
      (ids s.log).length == 1) (by decide +kernel)
  simp only [Bool.and_eq_true, beq_iff_eq] at hc
  exact ⟨tr, s, r, hc.1.1, hc.1.2, correlates_of_run r (by rw [hc.2]; decide)⟩

end ConnectionLog
end Derouter
