import Derouter.P2p.Reqres
import Derouter.Rpc.Connection

open Transition

namespace Derouter

-- What a connection loop cannot get on without.
inductive Need
  -- The provider mutex.
  | lock
  -- A reply that only the node loop can produce.
  | reply
deriving DecidableEq

def InboundRequestFrame.need (request : InboundRequestFrame) : Option Need :=
  match request.data with
  | .call .providerProvide => some .lock
  | .call .consumerGetJob  => some .reply
  | _                      => none

-- How far a connection loop has got with what it needs.
inductive Progress
  | start
  | waits
  -- It holds the provider mutex.
  | holds
  | finished
deriving DecidableEq

structure ConnectionTask where
  connection : Connection := {}
  -- Whether the connection has a provider module, which it cleans up at its end.
  isProvider : Bool       := false
  progress   : Progress   := .start

namespace ConnectionTask

variable (decoder : Decoder) (t : ConnectionTask)

def need : Option Need :=
  match t.connection.pc with
  | .handling request _ => request.need
  | .closing            => if t.isProvider then some .lock else none
  | _                   => none

-- The response of the connection's module was passed on.
def replied (ticket : Nat) : Bool :=
  t.connection.replies.any (·.1 == ticket)

-- The steps of the connection. A poll begins something new, and a handler ends once it has got what
-- it needs.
def next : Connection.Label → Option ConnectionTask
  | .poll spawns =>
    (t.connection.next decoder (.poll spawns)).map fun connection =>
      { t with connection, progress := .start }
  | .handled =>
    if t.need = none ∨ t.progress = .finished then
      (t.connection.next decoder .handled).map fun connection => { t with connection }
    else
      none
  | l => (t.connection.next decoder l).map fun connection => { t with connection }

-- What it did under the mutex: it has cleaned up its module, or it may have registered one.
def unlocked (registers : Bool) : ConnectionTask :=
  match t.connection.pc with
  | .closing => { t with isProvider := false, progress := .finished }
  | _        => { t with isProvider := t.isProvider || registers, progress := .finished }

end ConnectionTask

-- Where the node loop is.
inductive NodePc
  -- It waits for the next event of its `select!`.
  | idle
  -- It waits for the provider mutex, with a `CreateJob` request.
  | createJob (request : CreateJobRequest)
  -- It sends the request on to the module of this connection.
  | sends (request : CreateJobRequest) (i : Nat)
  -- It waits for the module's reply.
  | awaits (i ticket : Nat)
  -- It waits for the provider mutex, to send a heartbeat.
  | heartbeat
deriving DecidableEq

inductive Owner
  | node
  | connection (i : Nat)
  -- A task that serves an incoming stream.
  | stream
deriving DecidableEq

-- The tasks of a node that share the provider mutex.
structure Tasks where
  node       : NodePc                := .idle
  lock       : Option Owner          := none
  -- A ticket stands for the channel on which the node loop awaits a reply.
  tickets    : Nat                   := 0
  connection : Nat → ConnectionTask  := fun _ => {}

namespace Tasks

inductive Label
  | connection (i : Nat) (l : Connection.Label)
  -- A connection loop begins to wait for what it needs. It gets the mutex, and leaves it again, or
  -- the node loop answers it.
  | waits (i : Nat)
  | locks (i : Nat)
  | unlocks (i : Nat) (registers : Bool)
  | answers (i : Nat)
  -- The node loop gets a `CreateJob` request, looks for the module of its offer, sends the request
  -- on, and gets the reply.
  | createJob (request : CreateJobRequest)
  | finds (module : Option Nat)
  | sends (localPeerId : PeerId) (uuid : String) (now : DateTime)
  | replies
  -- It is time for a heartbeat.
  | tick
  | heartbeat
  -- Some other task has the mutex.
  | streamLocks
  | streamUnlocks

variable (decoder : Decoder) (s : Tasks)

def set (i : Nat) (t : ConnectionTask) : Tasks :=
  { s with connection := Function.update s.connection i t }

def next : Label → Option Tasks
  | .connection i l => ((s.connection i).next decoder l).map (s.set i)
  | .waits i =>
    if (s.connection i).need ≠ none ∧ (s.connection i).progress = .start then
      some <| s.set i { s.connection i with progress := .waits }
    else
      none
  | .locks i =>
    if (s.connection i).need = some .lock ∧ (s.connection i).progress = .waits ∧ s.lock = none then
      some { s.set i { s.connection i with progress := .holds } with lock := some <| .connection i }
    else
      none
  | .unlocks i registers =>
    if (s.connection i).progress = .holds ∧ s.lock = some (.connection i) then
      some { s.set i ((s.connection i).unlocked registers) with lock := none }
    else
      none
  | .answers i =>
    if (s.connection i).need = some .reply ∧ (s.connection i).progress = .waits ∧
        s.node = .idle then
      some <| s.set i { s.connection i with progress := .finished }
    else
      none
  | .createJob request =>
    if s.node = .idle then some { s with node := .createJob request } else none
  | .finds none =>
    match s.node with
    | .createJob _ => if s.lock = none then some { s with node := .idle } else none
    | _            => none
  | .finds (some i) =>
    match s.node with
    | .createJob request =>
      if s.lock = none ∧ (s.connection i).isProvider = true then
        some { s with node := .sends request i, lock := some .node }
      else
        none
    | _ => none
  | .sends localPeerId uuid now =>
    match s.node with
    | .sends request i =>
      let t := s.connection i
      let frameData := .providerCreateJob localPeerId request.protocolId request.offerId uuid
        now.timestamp request.jobArgs
      (t.connection.next decoder (.request { frameData, responseTx := some s.tickets })).map
        fun connection => { s.set i { t with connection } with
          node    := .awaits i s.tickets
          tickets := s.tickets + 1
        }
    | _ => none
  | .replies =>
    match s.node with
    | .awaits i ticket =>
      if (s.connection i).replied ticket then some { s with node := .idle, lock := none } else none
    | _ => none
  | .tick      => if s.node = .idle then some { s with node := .heartbeat } else none
  | .heartbeat =>
    if s.node = .heartbeat ∧ s.lock = none then some { s with node := .idle } else none
  | .streamLocks   => if s.lock = none then some { s with lock := some .stream } else none
  | .streamUnlocks => if s.lock = some .stream then some { s with lock := none } else none

abbrev step : Tasks → Label → Tasks → Prop :=
  ofFn <| next decoder

end Tasks
end Derouter
