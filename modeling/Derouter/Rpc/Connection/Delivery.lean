import Derouter.Rpc.Connection.Steps

open Framing Transition

namespace Derouter
namespace Connection

variable {decoder : Decoder} {c c' : Connection} {l : Label}

-- The loop reads the frames that the client sends, one after the other.
def Delivers (c : Connection) : Prop :=
  c.rpcStream.Delivers

-- None of the branches below the reader is ready.
def Idle (c : Connection) : Prop :=
  c.outbound = [] ∧ c.outboundRequests = [] ∧ c.events = []

instance : Decidable c.Idle :=
  decidable_of_iff (c.outbound = [] ∧ c.outboundRequests = [] ∧ c.events.isEmpty = true) <| by
    simp [Idle]

-- While only a part of a frame has arrived, no branch below the reader is ready.
def KeepsFrame (c : Connection) : Label → Prop
  | .poll _ =>
    c.cancelled = false → Partial (c.rpcStream.reading.consumed ++ c.rpcStream.avail) → c.Idle
  | _ => True

-- What the labels do to the RPC stream.
def nextStream (c : Connection) : Label → CborStream
  | .send frame => c.rpcStream.send frame
  | .close      => c.rpcStream.close
  | .arrive n   => c.rpcStream.arrive n
  | .poll _     =>
    if c.cancelled then c.rpcStream else
      match c.rpcStream.nextCbor with
      | (.pending, rpcStream) => if c.Idle then rpcStream else rpcStream.dropFuture
      | (_, rpcStream)        => rpcStream
  | _ => c.rpcStream

theorem handleInboundResponse_rpcStream {response : InboundResponseFrame} :
    (c.handleInboundResponse response).rpcStream = c.rpcStream := by
  simp only [handleInboundResponse]
  split <;> rfl

theorem pollQueues_rpcStream : c.pollQueues.rpcStream =
    if c.Idle then c.rpcStream else c.rpcStream.dropFuture := by
  simp only [pollQueues]
  split <;> simp_all [Idle]

theorem pollSelect_rpcStream {spawns : Bool} :
    (c.pollSelect decoder spawns).rpcStream = c.nextStream (.poll spawns) := by
  simp only [pollSelect, nextStream]
  split
  case isTrue => rfl
  case isFalse =>
    generalize c.rpcStream.nextCbor = p
    obtain ⟨result, rpcStream⟩ := p
    cases result
    case some body =>
      dsimp only
      split
      case h_1 => rfl
      case h_2 => exact handleInboundResponse_rpcStream
      case h_3 => rfl
    case none    => rfl
    case err     => rfl
    case pending => exact pollQueues_rpcStream

theorem step_rpcStream (h : step decoder c l c') : c'.rpcStream = c.nextStream l := by
  cases l
  case handled =>
    have ⟨_, _, _, hh⟩ := handles_next h
    cases hh <;> rfl
  all_goals simp only [step, ofFn, next] at h
  case send =>
    split at h
    case isTrue  => contradiction
    case isFalse => exact Option.some.inj h ▸ rfl
  case poll =>
    split at h
    case h_1 => exact Option.some.inj h ▸ pollSelect_rpcStream
    case h_2 => contradiction
  case close     => exact Option.some.inj h ▸ rfl
  case arrive    => exact Option.some.inj h ▸ rfl
  case cancel    => exact Option.some.inj h ▸ rfl
  case broadcast => exact Option.some.inj h ▸ rfl
  case lag       => exact Option.some.inj h ▸ rfl
  all_goals
    repeat' split at h
    all_goals first | contradiction | exact Option.some.inj h ▸ rfl

-- Between two polls, the reader waits for bytes.
def ReaderWaits (c : Connection) : Prop :=
  c.rpcStream.reading.Waits

theorem ReaderWaits.step (hw : c.ReaderWaits) (h : step decoder c l c') : c'.ReaderWaits := by
  rw [ReaderWaits, step_rpcStream h]
  cases l <;> try exact hw
  case poll =>
    have hp := CborStream.waits_nextCbor hw
    simp only [nextStream]
    split
    case isTrue => exact hw
    case isFalse =>
      split <;> rename_i he <;> rw [he] at hp
      case h_2 => exact hp
      case h_1 =>
        split
        case isTrue  => exact hp
        case isFalse => exact Reading.waits_start

theorem delivers_step (hw : c.ReaderWaits) (hd : c.Delivers) (h : step decoder c l c') :
    c'.Delivers ↔ c.KeepsFrame l := by
  rw [Delivers, step_rpcStream h]
  cases l <;> try exact iff_of_true hd trivial
  case send   => exact iff_of_true (CborStream.Delivers.send hd) trivial
  case arrive => exact iff_of_true (CborStream.Delivers.arrive hd) trivial
  case poll =>
    have hp := CborStream.Delivers.nextCbor hd hw
    simp only [nextStream, KeepsFrame]
    split
    case isTrue hc => exact iff_of_true hd fun hn => absurd (hc.symm.trans hn) nofun
    case isFalse hc =>
      have hc : c.cancelled = false := by simpa using hc
      split
      case h_2 result rpcStream hn he =>
        rw [he] at hp
        have hf : c.rpcStream.nextCbor.1 ≠ .pending := by
          rw [he]
          exact hn
        have hp' := CborStream.Delivers.not_partial hd hw hf
        exact iff_of_true hp fun _ h => absurd h hp'
      case h_1 rpcStream he =>
        rw [he] at hp
        split
        case isTrue hi => exact iff_of_true hp fun _ _ => hi
        case isFalse hi =>
          have hw' := CborStream.waits_nextCbor hw
          rw [he] at hw'
          rw [hp.dropFuture_iff, ← CborStream.consumed_of_pending hw he, hw'.partial_iff]
          simp [hc, hi]

-- In every run, the loop reads exactly the frames that the client sends, if and only if none of its
-- polls turns to another branch while only a part of a frame has arrived.
theorem delivers_iff_keepsFrame {tr} (r : Run (step decoder) {} tr c) :
    Run.Always Delivers tr c ↔ Meets KeepsFrame tr :=
  r.always_iff_meets Reading.waits_start CborStream.delivers_new
    (fun _ _ _ => ReaderWaits.step) fun _ _ _ => delivers_step

private def zeros : Frame where
  body := [0, 0, 0, 0]
  fits := by decide

private def noFrames : Decoder where
  inboundFrame _ := none
  peerId _       := none

-- The frame arrives in two chunks, with a poll after each.
theorem delivers_iff_keepsFrame_sample : ∃ tr c, Run (step noFrames) {} tr c ∧
    c.rpcStream.read = [zeros.body] ∧ Run.Always Delivers tr c := by
  have r : Run (step noFrames) {} _ _ :=
    .cons (l := Label.send zeros) rfl <| .cons (l := Label.arrive 4) rfl <|
      .cons (l := Label.poll false) rfl <| .cons (l := Label.arrive 4) rfl <|
        .cons (l := Label.poll false) rfl .nil
  refine ⟨_, _, r, by decide +kernel, (delivers_iff_keepsFrame r).mpr ?_⟩
  simp only [Meets, List.forall_mem_cons]
  exact ⟨trivial, trivial, fun _ _ => ⟨rfl, rfl, rfl⟩, trivial, fun _ _ => ⟨rfl, rfl, rfl⟩, by simp⟩

-- An event is broadcast while the body is on its way. Its handling drops the length of the frame, and
-- the body is read as an empty frame.
theorem not_delivers : ¬∀ (decoder : Decoder) (tr : List (Connection × Label)) (c : Connection),
    Run (step decoder) {} tr c → Run.Always Delivers tr c := by
  intro h
  have ⟨tr, c, r, _, hc⟩ := Run.of_schedule (next noFrames) {}
    [.send zeros, .arrive 4, .broadcast (.providerHeartbeat ⟨⟨[0]⟩, 0⟩), .poll false, .sends,
      .arrive 4, .poll false]
    (fun c => c.rpcStream.read == [[]] && c.rpcStream.sent.map Frame.body == [zeros.body])
    (by decide +kernel)
  have ⟨_, hd⟩ := h _ _ _ r
  have hp := CborStream.Delivers.isPrefix hd
  simp only [Bool.and_eq_true, beq_iff_eq] at hc
  rw [hc.1, hc.2] at hp
  exact absurd hp (by decide)

end Connection
end Derouter
