import Derouter.Lib.Precedence
import Derouter.Rpc.Connection.Answers

open Precedence Transition

namespace Derouter

-- The subscriptions that are announced in some frames, in their order.
def announced (frames : List OutboundFrame) : List (UInt32 × Method) :=
  frames.filterMap OutboundFrame.announced?

namespace ConnectionTasks

-- What a module is told of its subscriptions.
structure Announces (s : ConnectionTasks) : Prop where
  -- Subscriptions get the next number each, so that they have different IDs, short of an overflow.
  ids      : (announced s.connection.written).map (·.1) =
    (List.range (announced s.connection.written).length).map UInt32.ofNat
  distinct : s.requests.length ≤ UInt32.size → (announced s.connection.written).Nodup
  -- The module knows each subscription by the time it gets its first event, and what it is for.
  first    : Ordered OutboundFrame.event? OutboundFrame.announced? s.connection.written

end ConnectionTasks

-- Subscriptions are announced in the line of frames before their events come up.
structure Flow.Announces (flow : Flow) : Prop where
  counter       : flow.subscriptionsCounter = UInt32.ofNat (announced flow.frames).length
  ids           : (announced flow.frames).map (·.1) =
    (List.range (announced flow.frames).length).map UInt32.ofNat
  subscriptions : ∀ id s, flow.subscriptions.lookup id = some s →
    (id, s.method) ∈ announced flow.frames
  later         : ∀ frame ∈ flow.later, ∀ k, frame.event? = some k → k ∈ announced flow.frames
  first         : Ordered OutboundFrame.event? OutboundFrame.announced? flow.frames

namespace Flow.Announces

variable {flow flow' : Flow} {frame : OutboundFrame}

theorem start : ({} : Connection).flow.Announces where
  counter       := rfl
  ids           := rfl
  subscriptions := by simp [Connection.flow, AList.lookup_empty]
  later         := by simp [Connection.flow]
  first         := .nil

theorem announced_concat {frames : List OutboundFrame} :
    announced (frames ++ [frame]) = announced frames ++ frame.announced?.toList := by
  rw [announced, List.filterMap_append, ← announced]
  cases h : frame.announced? <;> simp [h]

theorem ids_concat {frames : List OutboundFrame} {k : UInt32 × Method}
    (h : (announced frames).map (·.1) = (List.range (announced frames).length).map UInt32.ofNat)
    (hk : k.1 = UInt32.ofNat (announced frames).length) :
    ((announced frames ++ [k]).map (·.1)) =
      (List.range (announced frames ++ [k]).length).map UInt32.ofNat := by
  simp [List.range_succ, h, hk]

theorem answers {request : InboundRequestFrame} {data : OutboundResponseFrameData} {n : UInt32}
    {m : HashMap UInt32 Subscription} (h : flow.Announces) (hi : flow.inHand = [])
    (hs : Subscribes flow data n m) : { flow with
      inHand               := [.response request.id data]
      handling             := none
      subscriptionsCounter := n
      subscriptions        := m
    }.Announces := by
  have hf : flow.frames = flow.queued := by rw [frames, hi, List.append_nil]
  have hc (l : List OutboundFrame) : announced (l ++ [.response request.id data]) =
      announced l ++ data.announced?.toList := announced_concat
  obtain ⟨hn, hd, hu, hl, ho⟩ := h
  rw [hf] at hn hd hu hl ho
  have ho' : Ordered OutboundFrame.event? OutboundFrame.announced?
      (flow.queued ++ [.response request.id data]) :=
    Ordered.concat_iff.mpr ⟨ho, by simp [OutboundFrame.event?]⟩
  cases hs
  case keeps ha hs =>
    rw [ha, Option.toList_none] at hc
    constructor <;> simp only [frames, hc, List.append_nil]
    case counter       => exact hn
    case ids           => exact hd
    case subscriptions => exact fun id s h => hu id s (hs id s h)
    case later         => exact hl
    case first         => exact ho'
  case announces s ha =>
    rw [ha, Option.toList_some] at hc
    constructor <;> simp only [frames, hc]
    case counter       => simp [hn]
    case ids           => exact ids_concat hd hn
    case later         => exact fun frame hm k hk => List.mem_append_left _ (hl frame hm k hk)
    case first         => exact ho'
    case subscriptions =>
      intro id s' h
      by_cases he : id = flow.subscriptionsCounter
      case pos =>
        rw [he, AList.lookup_insert] at h
        simp [he, Option.some.inj h]
      case neg =>
        rw [AList.lookup_insert_ne he] at h
        exact List.mem_append_left _ (hu id s' h)

theorem moves {l : Connection.Label} (h : flow.Announces)
    (hm : flow.Moves l accepted spawned heard flow') (hl : ∀ id data, l ≠ .respond id data)
    (he : ∀ envelope, l = .request envelope → envelope.frameData.event? = none) :
    flow'.Announces := by
  cases hm
  case rests                 => exact h
  case accepts               => exact ⟨h.counter, h.ids, h.subscriptions, h.later, h.first⟩
  case spawns                => exact ⟨h.counter, h.ids, h.subscriptions, h.later, h.first⟩
  case answers hi _ hs       => exact h.answers hi hs
  case responds hr           => exact absurd hr (hl _ _)
  case forwards i frameData rest hi hr =>
    have hf : flow.frames = flow.queued := by rw [frames, hi, List.append_nil]
    have hc : announced (flow.queued ++ [.request i frameData]) = announced flow.queued :=
      announced_concat.trans (List.append_nil _)
    obtain ⟨hn, hd, hu, hl, ho⟩ := h
    rw [hf] at hn hd hu hl ho
    rw [hr] at hl
    constructor <;> simp only [frames, hc]
    case counter       => exact hn
    case ids           => exact hd
    case subscriptions => exact hu
    case later         => exact fun frame hm => hl frame (List.mem_cons_of_mem _ hm)
    case first         => exact Ordered.concat_iff.mpr ⟨ho, hl frameData List.mem_cons_self⟩
  case sends frame hi =>
    have hf : { flow with queued := flow.queued ++ [frame], inHand := [] }.frames = flow.frames := by
      simp [frames, hi]
    constructor <;> rw [hf]
    case counter       => exact h.counter
    case ids           => exact h.ids
    case subscriptions => exact h.subscriptions
    case later         => exact h.later
    case first         => exact h.first
  case notifies =>
    refine ⟨h.counter, h.ids, h.subscriptions, fun frame hm k hk => ?_, h.first⟩
    cases List.mem_append.mp hm
    case inl hm => exact h.later frame hm k hk
    case inr hm =>
      obtain ⟨id, s, hs, hv⟩ := Flow.handleEvent_event? hm
      obtain rfl := Option.some.inj (hk.symm.trans hv)
      exact h.subscriptions id s hs
  case requests envelope before after hr hb =>
    refine ⟨h.counter, h.ids, h.subscriptions, fun frame hm k hk => ?_, h.first⟩
    cases List.perm_middle.mem_iff.mp hm
    case head => simp [he envelope hr] at hk
    case tail hm => exact h.later frame (hb ▸ hm) k hk

theorem finish {id : UInt32} {procedure : Procedure} (h : flow.Announces) :
    { flow with queued := flow.queued ++ [OutboundFrame.response id (.call procedure)] }.Announces := by
  have hf : { flow with
      queued := flow.queued ++ [OutboundFrame.response id (.call procedure)] }.frames =
        flow.queued ++ OutboundFrame.response id (.call procedure) :: flow.inHand := by
    simp [frames]
  have hc : announced (flow.queued ++ OutboundFrame.response id (.call procedure) :: flow.inHand) =
      announced flow.frames := by
    have hn : (OutboundFrame.response id (.call procedure)).announced? = none := rfl
    simp [announced, frames, hn]
  constructor <;> rw [hf]
  case counter       => exact hc ▸ h.counter
  case ids           => exact hc ▸ h.ids
  case subscriptions => exact hc ▸ h.subscriptions
  case later         => exact hc ▸ h.later
  case first         => exact h.first.insert rfl

end Flow.Announces

namespace ConnectionTasks

variable {decoder : Decoder} {s s' : ConnectionTasks}

theorem flow_announces_step (hs : s.connection.flow.Announces) (h : step decoder s l s') :
    s'.connection.flow.Announces := by
  cases l
  case act l =>
    obtain ⟨connection, hc, hl, he, rfl⟩ := next_act h
    exact hs.moves (Connection.moves_next hc) hl he
  all_goals simp only [step, ofFn, next] at h
  case finish =>
    split at h <;> try contradiction
    split at h <;> try contradiction
    case h_2 hc =>
      obtain rfl := Option.some.inj h
      exact flow_respond hc ▸ hs.finish
  case panic =>
    split at h <;> try contradiction
    exact Option.some.inj h ▸ hs

theorem frames_append : ∃ rest, s.connection.flow.frames = s.connection.written ++ rest := by
  simp [Flow.frames, Connection.flow]

theorem announced_length_le : (announced s.connection.written).length ≤ s.answered.length := by
  simp only [announced, answered, List.length_filterMap_eq_countP]
  refine List.countP_mono_left fun frame _ h => ?_
  cases frame
  case request  => simp [OutboundFrame.announced?] at h
  case response => rfl

-- In every run, the subscriptions of a module are numbered one after the other, and no event frame is
-- written before the response that gives its subscription the number.
theorem announces_of_run (r : Run (step decoder) {} tr s) : s.Announces := by
  have h := r.invariant Flow.Announces.start fun _ _ _ => flow_announces_step
  obtain ⟨rest, hr⟩ := frames_append (s := s)
  have hi : (announced s.connection.written).map (·.1) =
      (List.range (announced s.connection.written).length).map UInt32.ofNat := by
    have hd := h.ids
    rw [hr, announced, List.filterMap_append, ← announced, ← announced, List.length_append,
      List.range_add, List.map_append, List.map_append] at hd
    exact List.append_inj_left hd (by simp)
  refine ⟨hi, fun hl => ?_, (hr ▸ h.first).of_append⟩
  have hn : (announced s.connection.written).length ≤ s.requests.length := by
    have ho := (accounted_of_run r).perm.length_eq
    obtain ⟨rest', hr'⟩ := answered_append (s := s)
    simp only [hr', List.length_append, List.length_map] at ho
    have ha := announced_length_le (s := s)
    omega
  refine .of_map Prod.fst (hi ▸ List.Nodup.map_on (fun i hi j hj he => ?_) List.nodup_range)
  rw [List.mem_range] at hi hj
  have hm := congrArg UInt32.toNat he
  rwa [UInt32.toNat_ofNat_of_lt' (by omega), UInt32.toNat_ofNat_of_lt' (by omega)] at hm

private def subscribes : Decoder where
  inboundFrame _ := some <| .request ⟨1, .subscribeToActiveProviders⟩
  peerId _       := none

private def heartbeat : ProviderHeartbeat :=
  ⟨⟨[0]⟩, 0⟩

-- An event is broadcast while the response is still in the queue.
theorem announces_of_run_sample : ∃ tr s, Run (step subscribes) {} tr s ∧
    decide (s.connection.written = [.response 1 (.subscribeToActiveProviders <| .ok 0),
      .request 0 (.eventProviderHeartbeat 0 heartbeat)]) = true ∧ s.Announces := by
  obtain ⟨tr, s, r, _, hc⟩ := Run.of_schedule (next subscribes) {}
    [.act (.send ⟨[], by decide⟩), .act (.arrive 4), .act (.poll false), .act .handled, .act .sends,
      .act (.broadcast <| .providerHeartbeat heartbeat), .act (.poll false), .act .wrote,
      .act (.poll false), .act .sends, .act .sends, .act (.poll false), .act .sends,
      .act (.poll false), .act .wrote]
    (fun s => decide (s.connection.written = [.response 1 (.subscribeToActiveProviders <| .ok 0),
      .request 0 (.eventProviderHeartbeat 0 heartbeat)]))
    (by decide +kernel)
  exact ⟨tr, s, r, hc, announces_of_run r⟩

end ConnectionTasks
end Derouter
