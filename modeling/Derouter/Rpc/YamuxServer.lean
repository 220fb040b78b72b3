import Mathlib.Logic.Function.Basic
import Derouter.Lib.Framing
import Derouter.Lib.Transition
import Derouter.State

open Framing Transition

namespace Derouter

-- The mutexes that the handlers of an RPC connection's Yamux streams share.
inductive YamuxLock
  | rpcStreamTx
  | futureConnections
  | openedConnections
deriving DecidableEq

-- Where the handler of a Yamux stream is.
inductive YamuxHandler
  | absent
  -- It has asked for `rpc_stream_tx`. The guard has a name, and lives until the handler ends.
  | locks
  -- In `read_u64`.
  | reads
  -- It has asked for `future_connections`. The guard lives until the end of the block that joins the
  -- streams.
  | finds (connectionId : UInt64)
  -- It has found the P2P stream, and has asked for `opened_connections`.
  | joins (connectionId : UInt64) (p2pStream : Nat)
  -- The first stream is the RPC stream.
  | rpc
  | ended
deriving DecidableEq

-- The Yamux streams that one RPC connection accepts. Their handlers run concurrently.
structure YamuxServer where
  handlers          : Nat → YamuxHandler     := fun _ => .absent
  -- What has arrived of each stream, and whether its peer has closed it.
  arrived           : Nat → Bytes            := fun _ => []
  closed            : Nat → Bool             := fun _ => false
  -- A mutex is fair: the first has it, and the others get it in the order in which they asked.
  queue             : YamuxLock → List Nat   := fun _ => []
  -- The stream that was sent through `rpc_stream_tx`.
  rpcStream         : Option Nat             := none
  futureConnections : HashMap UInt64 Nat     := ∅
  -- The Yamux streams that were joined, next to their P2P streams.
  openedConnections : HashMap UInt64 (Nat × Nat) := ∅

namespace YamuxServer

inductive Label
  -- A stream is accepted, and its handler asks for the first lock.
  | accept (y : Nat)
  -- The peer sends bytes on a stream, or closes it.
  | arrive (y : Nat) (bytes : Bytes)
  | close (y : Nat)
  -- The handler of a stream goes on.
  | take (y : Nat)
  | read (y : Nat)
  | find (y : Nat)
  | join (y : Nat)
  -- Another task inserts a P2P stream.
  | insert (connectionId : UInt64) (p2pStream : Nat)

variable (s : YamuxServer)

def setHandler (y : Nat) (h : YamuxHandler) : YamuxServer :=
  { s with handlers := Function.update s.handlers y h }

def ask (l : YamuxLock) (y : Nat) : YamuxServer :=
  { s with queue := Function.update s.queue l (s.queue l ++ [y]) }

def release (l : YamuxLock) (y : Nat) : YamuxServer :=
  { s with queue := Function.update s.queue l ((s.queue l).erase y) }

def Holds (l : YamuxLock) (y : Nat) : Prop :=
  (s.queue l).head? = some y

instance : Decidable (s.Holds l y) :=
  inferInstanceAs <| Decidable (_ = _)

def Waits (l : YamuxLock) (y : Nat) : Prop :=
  y ∈ (s.queue l).tail

def next : Label → Option YamuxServer
  | .accept y =>
    match s.handlers y with
    | .absent => some <| (s.setHandler y .locks).ask .rpcStreamTx y
    | _       => none
  | .arrive y bytes => some { s with arrived := Function.update s.arrived y (s.arrived y ++ bytes) }
  | .close y        => some { s with closed := Function.update s.closed y true }
  | .take y =>
    match s.handlers y with
    | .locks =>
      if s.Holds .rpcStreamTx y then
        match s.rpcStream with
        | none   => some { (s.setHandler y .rpc).release .rpcStreamTx y with rpcStream := some y }
        | some _ => some <| s.setHandler y .reads
      else
        none
    | _ => none
  | .read y =>
    match s.handlers y with
    | .reads =>
      if 8 ≤ (s.arrived y).length then
        let connectionId := UInt64.ofNat <| ofBeBytes <| (s.arrived y).take 8
        some <| (s.setHandler y (.finds connectionId)).ask .futureConnections y
      else if s.closed y then
        some <| (s.setHandler y .ended).release .rpcStreamTx y
      else
        none
    | _ => none
  | .find y =>
    match s.handlers y with
    | .finds connectionId =>
      if s.Holds .futureConnections y then
        match s.futureConnections.lookup connectionId with
        | some p2pStream =>
          let s := (s.setHandler y (.joins connectionId p2pStream)).ask .openedConnections y
          some { s with futureConnections := s.futureConnections.erase connectionId }
        | none =>
          some <| ((s.setHandler y .ended).release .futureConnections y).release .rpcStreamTx y
      else
        none
    | _ => none
  | .join y =>
    match s.handlers y with
    | .joins connectionId p2pStream =>
      if s.Holds .openedConnections y then
        let s := (((s.setHandler y .ended).release .openedConnections y).release
          .futureConnections y).release .rpcStreamTx y
        some { s with
          openedConnections := s.openedConnections.insert connectionId (y, p2pStream)
        }
      else
        none
    | _ => none
  | .insert connectionId p2pStream =>
    if s.queue .futureConnections = [] then
      some { s with futureConnections := s.futureConnections.insert connectionId p2pStream }
    else
      none

abbrev step : YamuxServer → Label → YamuxServer → Prop :=
  ofFn next

-- All eight bytes of a stream's connection ID have arrived.
def HasId (y : Nat) : Prop :=
  8 ≤ (s.arrived y).length

instance : Decidable (s.HasId y) :=
  inferInstanceAs <| Decidable (_ ≤ _)

-- A stream whose handler cannot go on before the peer sends the rest of the connection ID.
structure Stalls (y : Nat) : Prop where
  reads  : s.handlers y = .reads
  partly : ¬s.HasId y
  opened : s.closed y = false

-- No stream whose connection ID has arrived waits for a lock of a stream that stalls.
def Independent : Prop :=
  ∀ l y z, s.HasId y → s.Waits l y → s.Holds l z → ¬s.Stalls z

end YamuxServer
end Derouter
