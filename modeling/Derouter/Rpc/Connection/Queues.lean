import Derouter.Rpc.Connection.Steps

open Framing Transition

namespace Derouter

namespace Connection

variable {decoder : Decoder} {c c' : Connection} {l : Label}

-- The loop awaits a send to a queue that is full, and that nobody but the loop drains.
def Blocked (c : Connection) : Prop :=
  match c.pc with
  | .answering _       => capacity ≤ c.outbound.length
  | .forwarding _      => capacity ≤ c.outbound.length
  | .notifying (_ :: _) => capacity ≤ c.outboundRequests.length
  | _                  => False

-- There is room for what the loop sends before its next poll.
def HasRoom (c : Connection) : Prop :=
  match c.pc with
  | .handling request spawns => request.AnsweredByLoop spawns → c.outbound.length < capacity
  | .answering _             => c.outbound.length < capacity
  | .forwarding _            => c.outbound.length < capacity
  | .notifying (_ :: frames) => c.outboundRequests.length + frames.length < capacity
  | _                        => True

-- A request that the loop answers is read while the outbound queue has room, and an event is received
-- by not more subscriptions than the queue of outbound requests has room for. Other tasks leave the
-- room that the loop needs.
def KeepsRoom (decoder : Decoder) (c : Connection) : Label → Prop
  | .poll spawns => c.cancelled = false →
    match c.rpcStream.nextCbor.1 with
    | .some body =>
      ∀ request, decoder.inboundFrame body = some (.request request) →
        request.AnsweredByLoop spawns → c.outbound.length < capacity
    | .pending =>
      ∀ event events, c.outbound = [] → c.outboundRequests = [] → c.events = .ok event :: events →
        (c.handleEvent event).length ≤ capacity
    | _ => True
  | .respond .. =>
    match c.pc with
    | .handling request spawns => request.AnsweredByLoop spawns → c.outbound.length + 1 < capacity
    | .answering _             => c.outbound.length + 1 < capacity
    | .forwarding _            => c.outbound.length + 1 < capacity
    | _                        => True
  | .request _ =>
    match c.pc with
    | .notifying (_ :: frames) => c.outboundRequests.length + 1 + frames.length < capacity
    | _                        => True
  | _ => True

theorem HasRoom.not_blocked (h : c.HasRoom) : ¬c.Blocked := by
  intro hb
  simp only [HasRoom] at h
  simp only [Blocked] at hb
  split at hb <;> simp_all <;> omega

theorem Handles.hasRoom {request : InboundRequestFrame} {spawns : Bool}
    (hh : Handles request spawns c c')
    (h : request.AnsweredByLoop spawns → c.outbound.length < capacity) : c'.HasRoom := by
  cases hh
  case spawns           => trivial
  case answers ha _ _ _ => exact h ha

theorem pollQueues_hasRoom : c.pc = .select → (c.pollQueues.HasRoom ↔
    ∀ event events, c.outbound = [] → c.outboundRequests = [] → c.events = .ok event :: events →
      (c.handleEvent event).length ≤ capacity) := by
  intro hp
  simp only [pollQueues]
  split
  case h_1 ho => simp [HasRoom, ho]
  case h_2 ho hr => simp [HasRoom, ho, hr, capacity]
  case h_3 event _ ho hr he =>
    simp only [HasRoom, ho, hr, he]
    constructor
    · intro h event' events _ _ he'
      obtain ⟨rfl, _⟩ : event = event' ∧ _ := by simpa using he'
      cases hf : c.handleEvent event
      case nil  => exact Nat.zero_le _
      case cons => simpa [hf, Nat.succ_le_iff] using h
    · intro h
      have h := h event _ trivial trivial rfl
      cases hf : c.handleEvent event
      case nil  => trivial
      case cons => simpa [hf, Nat.succ_le_iff] using h
  case h_4 ho hr he => simp [HasRoom, ho, hr, he, hp]
  case h_5 ho hr he => simp [HasRoom, ho, hr, he, hp]

theorem handleInboundResponse_hasRoom {response : InboundResponseFrame} (hp : c.pc = .select) :
    (c.handleInboundResponse response).HasRoom := by
  simp only [handleInboundResponse]
  split <;> simp [HasRoom, hp]

theorem pollSelect_hasRoom {spawns : Bool} (hp : c.pc = .select) :
    (c.pollSelect decoder spawns).HasRoom ↔ c.KeepsRoom decoder (.poll spawns) := by
  simp only [pollSelect, KeepsRoom]
  split
  case isTrue hc => exact iff_of_true trivial fun hn => absurd (hc.symm.trans hn) nofun
  case isFalse hc =>
    have hc : c.cancelled = false := by simpa using hc
    simp only [hc, forall_const]
    generalize c.rpcStream.nextCbor = p
    obtain ⟨result, rpcStream⟩ := p
    cases result
    case err     => exact iff_of_true (by simp [HasRoom, hp]) trivial
    case none    => exact iff_of_true trivial trivial
    case pending => exact pollQueues_hasRoom hp
    case some body =>
      dsimp only
      split
      case h_1 request hd => simp [HasRoom, hd]
      case h_2 response hd =>
        exact iff_of_true (handleInboundResponse_hasRoom hp) fun _ h => by simp [hd] at h
      case h_3 hd => exact iff_of_true (by simp [HasRoom, hp]) fun _ h => by simp [hd] at h

theorem hasRoom_step (hr : c.HasRoom) (h : step decoder c l c') :
    c'.HasRoom ↔ c.KeepsRoom decoder l := by
  cases l
  case handled =>
    have ⟨request, spawns, hp, hh⟩ := handles_next h
    simp only [HasRoom, hp] at hr
    exact iff_of_true (hh.hasRoom hr) trivial
  all_goals simp only [step, ofFn, next] at h
  case send =>
    split at h
    case isTrue  => contradiction
    case isFalse => exact iff_of_true (Option.some.inj h ▸ hr) trivial
  case close     => exact iff_of_true (Option.some.inj h ▸ hr) trivial
  case arrive    => exact iff_of_true (Option.some.inj h ▸ hr) trivial
  case cancel    => exact iff_of_true (Option.some.inj h ▸ hr) trivial
  case broadcast => exact iff_of_true (Option.some.inj h ▸ hr) trivial
  case lag       => exact iff_of_true (Option.some.inj h ▸ hr) trivial
  case respond =>
    split at h
    case isFalse => contradiction
    case isTrue =>
      obtain rfl := Option.some.inj h
      simp only [HasRoom, KeepsRoom, List.length_append, List.length_singleton] at hr ⊢
      cases hp : c.pc
      case notifying frames => cases frames <;> simp_all
      all_goals simp_all
  case request =>
    split at h
    case isFalse => contradiction
    case isTrue =>
      obtain rfl := Option.some.inj h
      simp only [HasRoom, KeepsRoom, List.length_append, List.length_singleton] at hr ⊢
      cases hp : c.pc
      case notifying frames => cases frames <;> simp_all
      all_goals simp_all
  case poll =>
    split at h
    case h_2 => contradiction
    case h_1 hp => exact Option.some.inj h ▸ pollSelect_hasRoom hp
  case sends =>
    refine iff_of_true ?_ trivial
    split at h
    case h_5 => contradiction
    case h_3 => exact Option.some.inj h ▸ trivial
    case h_4 hp =>
      split at h
      case isFalse => contradiction
      case isTrue =>
        rename_i frames _
        simp only [HasRoom, hp] at hr
        obtain rfl := Option.some.inj h
        cases frames
        case nil => trivial
        case cons =>
          simp only [HasRoom, List.length_append, List.length_singleton]
          simp only [List.length_cons] at hr
          omega
    all_goals
      split at h
      case isFalse => contradiction
      case isTrue  => exact Option.some.inj h ▸ trivial
  case wrote =>
    split at h
    case h_2 => contradiction
    case h_1 => exact iff_of_true (Option.some.inj h ▸ trivial) trivial

-- The steps that the loop takes without any other party, before its next poll.
def ownStep (decoder : Decoder) (c : Connection) (l : Label) (c' : Connection) : Prop :=
  step decoder c l c' ∧ match l with
    | .handled => True
    | .sends   => True
    | _        => False

-- The loop gets to its next poll without awaiting a full queue.
def Unblocked (decoder : Decoder) (c : Connection) : Prop :=
  ∀ tr c', Run (ownStep decoder) c tr c' → ¬c'.Blocked

theorem HasRoom.unblocked (h : c.HasRoom) : c.Unblocked decoder := by
  intro tr c' r
  have hr : c'.HasRoom := r.invariant h fun c l c' hr ⟨h, hl⟩ => by
    apply (hasRoom_step hr h).mpr
    cases l <;> trivial
  exact hr.not_blocked

theorem Handles.blocked {request : InboundRequestFrame} {spawns : Bool}
    (hh : Handles request spawns c c') (ha : request.AnsweredByLoop spawns)
    (h : capacity ≤ c.outbound.length) : c'.Blocked := by
  cases hh
  case spawns hn => exact absurd ha hn
  case answers   => exact h

theorem Unblocked.step (h : c.Unblocked decoder) (hs : ownStep decoder c l c') :
    c'.Unblocked decoder :=
  fun _ _ r => h _ _ (.cons hs r)

theorem Unblocked.hasRoom (h : c.Unblocked decoder) : c.HasRoom := by
  have hn : ¬c.Blocked := h _ _ .nil
  cases hp : c.pc <;> simp only [HasRoom, hp]
  case handling request spawns =>
    intro ha
    by_contra ho
    have hs : ownStep decoder c .handled (c.handleInboundRequest decoder request spawns) :=
      ⟨by simp only [Connection.step, ofFn, next, hp], trivial⟩
    exact h _ _ (.cons hs .nil) <| handles_handleInboundRequest.blocked ha (Nat.not_lt.mp ho)
  case answering  => simpa only [Blocked, hp, Nat.not_le] using hn
  case forwarding => simpa only [Blocked, hp, Nat.not_le] using hn
  case notifying frames =>
    induction frames generalizing c
    case nil => trivial
    case cons f frames hi =>
      have hl : c.outboundRequests.length < capacity := by
        simpa only [Blocked, hp, Nat.not_le] using hn
      have hs : ownStep decoder c .sends { c with
          outboundRequests := c.outboundRequests ++ [{ frameData := f, responseTx := none }]
          pc               := .notifying frames } :=
        ⟨by simp only [Connection.step, ofFn, next, hp, hl, if_true], trivial⟩
      have hu := h.step hs
      have hr := hi hu (hu _ _ .nil) rfl
      cases frames
      case nil => simpa using hl
      case cons =>
        simp only [List.length_append, List.length_singleton] at hr
        simp only [List.length_cons]
        omega

theorem unblocked_iff_hasRoom : c.Unblocked decoder ↔ c.HasRoom :=
  ⟨Unblocked.hasRoom, HasRoom.unblocked⟩

-- In every run, the loop never gets to await a full queue of its own, if and only if all steps keep
-- the room that it needs.
theorem unblocked_iff_keepsRoom {tr} (r : Run (step decoder) {} tr c) :
    (Run.Always (Unblocked decoder) tr c ↔ Meets (KeepsRoom decoder) tr) ∧
      (Meets (KeepsRoom decoder) tr → Run.Always (¬Blocked ·) tr c) := by
  have hr := r.always_iff_meets (I := fun _ => True) (P := HasRoom) trivial trivial
    (fun _ _ _ _ _ => trivial) fun _ _ _ _ hr h => hasRoom_step hr h
  have hu : Unblocked decoder = HasRoom := funext fun _ => propext unblocked_iff_hasRoom
  refine ⟨hu ▸ hr, fun hm => ?_⟩
  have ⟨ht, hc⟩ := hr.mpr hm
  exact ⟨fun p hp => (ht p hp).not_blocked, hc.not_blocked⟩

-- Every frame subscribes to the active providers.
private def subscribes : Decoder where
  inboundFrame _ := some <| .request ⟨0, .subscribeToActiveProviders⟩
  peerId _       := none

theorem unblocked_iff_keepsRoom_sample : ∃ tr c, Run (step subscribes) {} tr c ∧
    c.outbound.length = 1 ∧ Run.Always (¬Blocked ·) tr c := by
  have r : Run (step subscribes) {} _ _ :=
    .cons (l := Label.send .empty) rfl <| .cons (l := Label.arrive 4) rfl <|
      .cons (l := Label.poll false) rfl <| .cons (l := Label.handled) rfl <|
        .cons (l := Label.sends) rfl .nil
  refine ⟨_, _, r, by decide +kernel, (unblocked_iff_keepsRoom r).2 ?_⟩
  simp only [Meets, List.forall_mem_cons]
  exact ⟨trivial, trivial, fun _ _ _ _ => by decide, trivial, trivial, by simp⟩

-- With seventeen pipelined requests, the last response finds the queue full.
theorem not_unblocked : ¬∀ (decoder : Decoder) (tr : List (Connection × Label)) (c : Connection),
    Run (step decoder) {} tr c → Run.Always (¬Blocked ·) tr c := by
  intro h
  have ⟨tr, c, r, _, hc⟩ := Run.of_schedule (next subscribes) {}
    (List.replicate 17 (.send .empty) ++ [.arrive 68] ++
      (List.replicate 16 [.poll false, .handled, .sends]).flatten ++ [.poll false, .handled])
    (fun c => c.outbound.length == 16 && match c.pc with
      | .answering _ => true
      | _            => false)
    (by decide +kernel)
  have ⟨_, hn⟩ := h _ _ _ r
  simp only [Bool.and_eq_true, beq_iff_eq] at hc
  have ⟨ho, hp⟩ := hc
  split at hp
  case h_2 => contradiction
  case h_1 he => exact hn (by simp [Blocked, he, ho, capacity])

end Connection
end Derouter
