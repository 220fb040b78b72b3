import Mathlib.Logic.Function.Basic
import Derouter.Lib.Transition
import Derouter.P2p.Stream

open Transition

namespace Derouter

inductive ConsumerOpenJobConnectionResponse
  -- The local job connection ID.
  | ok (connectionId : UInt64)
  -- The job was not found locally.
  | localJobNotFound
  | providerUnreacheable
  -- Provider claims they don't have this job.
  | providerJobNotFound
  -- Provider found the job, but refused to open a connection to it.
  | providerJobExpired
  -- Provider tells us that they're temporarily busy.
  | providerBusy
  | otherRemoteError (error : String)
  | otherLocalError (error : String)

-- What a consumer's task gets for its P2P stream: none at all, or a head response.
inductive HeadResult
  | notOpened
  | eof
  | ioError (error : String)
  | response (response : JobConnectionHeadResponse)

-- What the module is told, unless the stream is open.
def HeadResult.refusal : HeadResult → Option ConsumerOpenJobConnectionResponse
  | notOpened                          => some .providerUnreacheable
  | eof                                => some .providerUnreacheable
  | ioError error                      => some <| .otherLocalError error
  | response .ok                       => none
  | response .jobNotFound              => some .providerJobNotFound
  | response .jobExpired               => some .providerJobExpired
  | response .busy                     => some .providerBusy
  | response (.anotherError error)     => some <| .otherRemoteError error

-- Where the task of a P2P stream is.
inductive StreamTask
  | absent
  -- The task of a consumer's request waits for the head response, and then for the counter. It keeps
  -- the counter locked until it has inserted the stream.
  | opens (requestId : UInt32)
  | opened (requestId : UInt32)
  | counted (requestId : UInt32) (connectionId : UInt64)
  | inserted (requestId : UInt32) (connectionId : UInt64)
  | responds (requestId : UInt32) (response : ConsumerOpenJobConnectionResponse)
  -- The handler of an incoming stream has written an accepting head response. It does not keep the
  -- counter locked.
  | accepted (nonce : String)
  | numbered (connectionId : UInt64) (nonce : String)
  | entered (connectionId : UInt64) (nonce : String)
  | ended

-- Where the handler of a Yamux stream is.
inductive YamuxTask
  | absent
  -- It waits for `rpc_stream_tx`, and then keeps it while it reads a connection ID and looks it up.
  | waits
  | reads
  | looksUp (connectionId : UInt64)
  -- The first stream is the RPC stream.
  | rpc
  | ended
deriving DecidableEq

-- A frame for the module.
inductive Notice
  | response (requestId : UInt32) (response : ConsumerOpenJobConnectionResponse)
  | openJobConnection (connectionId : UInt64) (nonce : String)

def Notice.connectionId : Notice → Option UInt64
  | response _ (.ok connectionId)    => some connectionId
  | response _ _                     => none
  | openJobConnection connectionId _ => some connectionId

-- The P2P streams and the Yamux streams of one RPC connection.
structure Tunnels where
  -- `future_connection_counter`, and the task that has it locked.
  counter           : UInt64             := 0
  counterHolder     : Option Nat         := none
  futureConnections : HashMap UInt64 Nat := ∅
  streams           : Nat → StreamTask   := fun _ => .absent
  -- The first Yamux stream, and the one whose handler has `rpc_stream_tx` locked.
  rpcStream         : Option Nat         := none
  rpcStreamHolder   : Option Nat         := none
  yamux             : Nat → YamuxTask    := fun _ => .absent
  -- What the module was told, next to the P2P streams that it was told about.
  told              : List (Nat × Notice) := []
  -- The IDs, next to the P2P streams that they were allocated for.
  allocated         : List (UInt64 × Nat) := []
  -- The P2P streams whose entries were overwritten.
  overwritten       : List Nat            := []
  -- The IDs that were looked up.
  presented         : List UInt64         := []
  -- The Yamux streams that were joined, next to their P2P streams.
  joined            : List (Nat × Nat)    := []

namespace Tunnels

inductive Label
  -- A module asks to open a job connection, whose job is found or not.
  | request (i : Nat) (requestId : UInt32) (found : Bool)
  | head (i : Nat) (result : HeadResult)
  | count (i : Nat)
  | insert (i : Nat)
  | unlock (i : Nat)
  | tell (i : Nat)
  -- An incoming stream was accepted by the module.
  | accept (i : Nat) (nonce : String)
  -- A task is dropped, or it returns early or panics.
  | fail (i : Nat)
  -- The module opens a Yamux stream. Its handler gets `rpc_stream_tx`, reads an ID, unless that
  -- fails, and looks it up.
  | openYamux (y : Nat)
  | lock (y : Nat)
  | read (y : Nat) (connectionId : Option UInt64)
  | lookUp (y : Nat)

variable (s : Tunnels)

def setStream (i : Nat) (t : StreamTask) : Tunnels :=
  { s with streams := Function.update s.streams i t }

def setYamux (y : Nat) (t : YamuxTask) : Tunnels :=
  { s with yamux := Function.update s.yamux y t }

-- The counter goes up by one, and wraps around at its end.
def allocate (i : Nat) : Tunnels :=
  { s with counter := s.counter + 1, allocated := (s.counter + 1, i) :: s.allocated }

def insertStream (i : Nat) (connectionId : UInt64) : Tunnels :=
  { s with
    futureConnections := s.futureConnections.insert connectionId i
    overwritten       := (s.futureConnections.lookup connectionId).toList ++ s.overwritten
  }

def tell (i : Nat) (notice : Notice) : Tunnels :=
  { s with told := (i, notice) :: s.told }

def next : Label → Option Tunnels
  | .request i requestId found =>
    match s.streams i with
    | .absent =>
      if s.rpcStream = none then
        none
      else if found then
        some <| s.setStream i <| .opens requestId
      else
        some <| (s.setStream i .ended).tell i <| .response requestId .localJobNotFound
    | _ => none
  | .head i result =>
    match s.streams i with
    | .opens requestId =>
      match result.refusal with
      | some response => some <| s.setStream i <| .responds requestId response
      | none          => some <| s.setStream i <| .opened requestId
    | _ => none
  | .count i =>
    if s.counterHolder = none then
      match s.streams i with
      | .opened requestId => some {
          (s.allocate i).setStream i (.counted requestId (s.counter + 1)) with
          counterHolder := some i
        }
      | .accepted nonce => some <| (s.allocate i).setStream i <| .numbered (s.counter + 1) nonce
      | _               => none
    else
      none
  | .insert i =>
    match s.streams i with
    | .counted requestId connectionId =>
      some <| (s.insertStream i connectionId).setStream i <| .inserted requestId connectionId
    | .numbered connectionId nonce =>
      some <| (s.insertStream i connectionId).setStream i <| .entered connectionId nonce
    | _ => none
  | .unlock i =>
    match s.streams i with
    | .inserted requestId connectionId =>
      some { s.setStream i (.responds requestId (.ok connectionId)) with counterHolder := none }
    | _ => none
  | .tell i =>
    match s.streams i with
    | .responds requestId response =>
      some <| (s.setStream i .ended).tell i <| .response requestId response
    | .entered connectionId nonce =>
      some <| (s.setStream i .ended).tell i <| .openJobConnection connectionId nonce
    | _ => none
  | .accept i nonce =>
    match s.streams i with
    | .absent => if s.rpcStream = none then none else some <| s.setStream i <| .accepted nonce
    | _       => none
  | .fail i =>
    match s.streams i with
    | .absent | .ended => none
    | _ => some { s.setStream i .ended with counterHolder := s.counterHolder.filter (· ≠ i) }
  | .openYamux y =>
    match s.yamux y with
    | .absent => some <| s.setYamux y .waits
    | _       => none
  | .lock y =>
    match s.yamux y with
    | .waits =>
      if s.rpcStreamHolder = none then
        match s.rpcStream with
        | none   => some { s.setYamux y .rpc with rpcStream := some y }
        | some _ => some { s.setYamux y .reads with rpcStreamHolder := some y }
      else
        none
    | _ => none
  | .read y connectionId =>
    match s.yamux y with
    | .reads =>
      match connectionId with
      | some connectionId => some <| s.setYamux y <| .looksUp connectionId
      | none              => some { s.setYamux y .ended with rpcStreamHolder := none }
    | _ => none
  | .lookUp y =>
    match s.yamux y with
    | .looksUp connectionId =>
      let s' := { s.setYamux y .ended with
        rpcStreamHolder := none
        presented       := connectionId :: s.presented
      }
      match s.futureConnections.lookup connectionId with
      | some i => some { s' with
          futureConnections := s.futureConnections.erase connectionId
          joined            := (y, i) :: s.joined
        }
      | none => some s'
    | _ => none

abbrev step : Tunnels → Label → Tunnels → Prop :=
  ofFn next

-- The IDs that the module was told, next to their P2P streams.
def announced : List (UInt64 × Nat) :=
  s.told.filterMap fun (i, notice) => notice.connectionId.map (·, i)

structure Straight : Prop where
  announced   : (s.announced.map (·.1)).Nodup
  overwritten : s.overwritten = []
  -- Every Yamux stream and every P2P stream is joined once at most, and the RPC stream never.
  yamux       : (s.joined.map (·.1)).Nodup
  streams     : (s.joined.map (·.2)).Nodup
  rpc         : ∀ y, s.rpcStream = some y → y ∉ s.joined.map (·.1)
  -- A Yamux stream that presents an ID as the first one to do so, after the module was told, finds
  -- the P2P stream that the ID was allocated for.
  finds       : ∀ y connectionId i, s.yamux y = .looksUp connectionId →
    connectionId ∈ s.announced.map (·.1) → connectionId ∉ s.presented →
      (connectionId, i) ∈ s.allocated → s.futureConnections.lookup connectionId = some i

end Tunnels
end Derouter
