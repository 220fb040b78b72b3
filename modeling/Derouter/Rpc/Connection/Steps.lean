import Derouter.Rpc.Connection

open Transition

namespace Derouter

-- The connection loop sends the response itself.
def InboundRequestFrame.AnsweredByLoop (request : InboundRequestFrame) (spawns : Bool) : Prop :=
  ∀ procedure, request.data = .call procedure → (procedure.maySpawn && spawns) = false

namespace Connection

variable {decoder : Decoder} {c : Connection} {request : InboundRequestFrame} {spawns : Bool}

-- All that a handler does to the connection.
inductive Handles (request : InboundRequestFrame) (spawns : Bool) (c : Connection) :
    Connection → Prop
  | spawns (h : ¬request.AnsweredByLoop spawns) : Handles request spawns c { c with pc := .select }
  | answers (h : request.AnsweredByLoop spawns) (frame : OutboundFrame)
      (subscriptionsCounter : UInt32) (subscriptions : HashMap UInt32 Subscription) :
    Handles request spawns c
      { c with subscriptionsCounter, subscriptions, pc := .answering frame }

theorem handles_subscribe {subscription : Except String Subscription} {frame : OutboundFrame}
    (h : request.AnsweredByLoop spawns) :
    Handles request spawns c { (c.subscribe subscription).2 with pc := .answering frame } := by
  cases subscription
  case error => exact .answers h frame c.subscriptionsCounter c.subscriptions
  case ok    => exact .answers h frame _ _

theorem handles_handleInboundRequest :
    Handles request spawns c (c.handleInboundRequest decoder request spawns) := by
  simp only [handleInboundRequest]
  split
  case h_1 procedure hd =>
    split
    case isTrue h => exact .spawns fun ha => by simp [ha procedure hd] at h
    case isFalse h =>
      refine .answers (fun procedure' hd' => ?_) _ c.subscriptionsCounter c.subscriptions
      cases hd.symm.trans hd'
      exact Bool.eq_false_iff.mpr h
  case h_2 hd =>
    have ha : request.AnsweredByLoop spawns := fun _ hd' => nomatch hd.symm.trans hd'
    split
    case h_1 => exact .answers ha _ c.subscriptionsCounter c.subscriptions
    case h_2 => exact .answers ha _ c.subscriptionsCounter _
  case h_3 hd => exact handles_subscribe fun _ hd' => nomatch hd.symm.trans hd'
  case h_4 hd => exact handles_subscribe fun _ hd' => nomatch hd.symm.trans hd'
  case h_5 hd => exact handles_subscribe fun _ hd' => nomatch hd.symm.trans hd'

theorem handles_next (h : c.next decoder .handled = some c') :
    ∃ request spawns, c.pc = .handling request spawns ∧ Handles request spawns c c' := by
  simp only [next] at h
  split at h
  case h_1 request spawns hp =>
    exact ⟨request, spawns, hp, Option.some.inj h ▸ handles_handleInboundRequest⟩
  case h_2 => contradiction

end Connection
end Derouter
