import Derouter.P2p.Consumer
import Derouter.P2p.JobConfirmationScheduler

open Sql Transition

namespace Derouter.P2p

inductive Request
  | createJob (request : CreateJobRequest)
  | getJob (request : GetJobRequest)
  | confirmJob (request : ConfirmJobRequest)
deriving DecidableEq

-- An outbound Request-Response protocol request. The response goes straight to its task.
structure OutboundRequestEnvelope where
  targetPeerId : PeerId
  request      : Request
deriving DecidableEq

-- The capacity of the channel `reqres_request`.
def requestCapacity : Nat :=
  32

-- `libp2p::mdns::Event`.
inductive MdnsEvent
  | discovered (items : List (PeerId × String))
  | expired (items : List (PeerId × String))

-- A peer that expires without having been discovered makes the handler panic.
def MdnsEvent.handle (peers : Peers) : MdnsEvent → Peers × Bool
  | discovered items => (peers.discovered items, true)
  | expired items    => peers.expired items

-- Who locks the p2p mutex.
inductive Locker
  | node
  -- A task `confirm_job`, and the handler of a module's `GetJob` request. The guard is a temporary
  -- of the statement that sends the request, and lives until the end of this statement.
  | confirmJob (job : UnconfirmedJob)
  | getJob (providerPeerId : PeerId) (providerJobId : String)
  -- The handler of a module's `CreateJob` request takes a clone of the sender out of the mutex.
  | createJob (providerPeerId : PeerId) (request : CreateJobRequest)
  -- All others take the keypair or the sender of another channel out of it.
  | reads

namespace Locker

variable (ext : External) (publicKey : ext.PublicKey)

-- The request that is sent before the mutex is left.
def sends : Locker → Option OutboundRequestEnvelope
  | confirmJob job => some ⟨job.providerPeerId, .confirmJob <| job.request ext publicKey⟩
  | getJob providerPeerId providerJobId => some ⟨providerPeerId, .getJob ⟨providerJobId⟩⟩
  | _ => none

-- The request that is sent after the mutex was left.
def clones : Locker → Option OutboundRequestEnvelope
  | createJob providerPeerId request => some ⟨providerPeerId, .createJob request⟩
  | _ => none

end Locker

-- Where `run` is.
inductive NodePc
  -- It has not asked for the mutex yet.
  | starts
  -- It has asked for the mutex: for its keypair, or with an mDNS event to handle.
  | locks (event : Option MdnsEvent)
  -- In the `select!` of its loop.
  | idle
  -- It handles another event of the network, or sends a heartbeat.
  | busy
  | ended

-- The tasks of a node that share the p2p mutex.
structure Tasks where
  node    : NodePc                       := .starts
  peers   : Peers                        := ∅
  -- The mutex is fair: the first has it, and the others get it in the order in which they asked.
  mutex   : List Locker                  := []
  channel : List OutboundRequestEnvelope := []
  -- Those that handlers are about to send through clones of the sender.
  clones  : List OutboundRequestEnvelope := []
  -- The jobs whose `confirm_job` is still to ask for the mutex.
  spawned : List UnconfirmedJob          := []

namespace Tasks

inductive Label
  -- The job confirmation loop spawns a `confirm_job`, which later asks for the mutex.
  | spawns (job : UnconfirmedJob)
  | confirms (i : Nat)
  -- A handler asks for the mutex.
  | getJob (providerPeerId : PeerId) (providerJobId : String)
  | createJob (providerPeerId : PeerId) (request : CreateJobRequest)
  | reads
  -- The task at the mutex has done what it needs it for.
  | leaves
  -- A handler sends through its clone of the sender.
  | sends (i : Nat)
  -- The steps of `run`.
  | start
  | receives
  | takes (event : MdnsEvent)
  | locked
  | turns
  | returns
  | ends

variable (ext : External) (publicKey : ext.PublicKey) (s : Tasks)

def asks (locker : Locker) : Tasks :=
  { s with mutex := s.mutex ++ [locker] }

-- What `run` does first with the mutex, and then with each mDNS event.
def unlocked (rest : List Locker) : Option MdnsEvent → Tasks
  | none       => { s with node := .idle, mutex := rest }
  | some event =>
    match event.handle s.peers with
    | (peers, true)  => { s with node := .idle, mutex := rest, peers }
    | (peers, false) => { s with node := .ended, mutex := rest, peers, channel := [] }

-- A request gets a place in the channel. The end of `run` closes it, which makes the sender panic.
def send (envelope : OutboundRequestEnvelope) : Option Tasks :=
  match s.node with
  | .ended => some s
  | _      =>
    if s.channel.length < requestCapacity then
      some { s with channel := s.channel ++ [envelope] }
    else
      none

def next : Label → Option Tasks
  | .spawns job =>
    if s.peers.Knows job.providerPeerId then
      some { s with spawned := s.spawned ++ [job] }
    else
      none
  | .confirms i =>
    match s.spawned[i]? with
    | some job => some { s.asks (.confirmJob job) with spawned := s.spawned.eraseIdx i }
    | none     => none
  | .getJob providerPeerId providerJobId => some <| s.asks <| .getJob providerPeerId providerJobId
  | .createJob providerPeerId request    => some <| s.asks <| .createJob providerPeerId request
  | .reads                               => some <| s.asks .reads
  | .leaves =>
    match s.mutex with
    | []             => none
    | .node :: _     => none
    | locker :: rest =>
      match locker.sends ext publicKey with
      | some envelope => send { s with mutex := rest } envelope
      | none => some { s with mutex := rest, clones := s.clones ++ locker.clones.toList }
  | .sends i =>
    match s.clones[i]? with
    | some envelope => send { s with clones := s.clones.eraseIdx i } envelope
    | none          => none
  | .start =>
    match s.node with
    | .starts => some { s.asks .node with node := .locks none }
    | _       => none
  | .receives =>
    match s.node, s.channel with
    | .idle, _ :: channel => some { s with channel }
    | _, _                => none
  | .takes event =>
    match s.node with
    | .idle => some { s.asks .node with node := .locks (some event) }
    | _     => none
  | .locked =>
    match s.node, s.mutex with
    | .locks event, .node :: rest => some <| s.unlocked rest event
    | _, _                        => none
  | .turns =>
    match s.node with
    | .idle => some { s with node := .busy }
    | _     => none
  | .returns =>
    match s.node with
    | .busy => some { s with node := .idle }
    | _     => none
  | .ends =>
    match s.node with
    | .idle | .busy => some { s with node := .ended, channel := [] }
    | _             => none

abbrev step : Tasks → Label → Tasks → Prop :=
  ofFn <| next ext publicKey

-- A task has the mutex, and cannot send its request before the node loop receives one. The node
-- loop waits for the mutex.
def Circular : Prop :=
  ∃ locker rest event, s.mutex = locker :: rest ∧ (locker.sends ext publicKey).isSome ∧
    requestCapacity ≤ s.channel.length ∧ s.node = .locks event

end Tasks
end Derouter.P2p
