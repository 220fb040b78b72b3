import Derouter.JobsView
import Derouter.Rpc.Requests

open Sql Transition

namespace Derouter

-- A job that a module is asked to create, next to the offer that it was found for.
structure JobCreation where
  offer         : FoundProvidedOffer
  fromPeerId    : PeerId
  request       : CreateJobRequest
  providerJobId : String
  now           : DateTime

-- How far the node loop has got with a request to create a job. It holds the provider mutex until it
-- is idle again.
inductive NodeLoop
  | idle
  -- It sends the request on to the module.
  | sends (job : JobCreation)
  -- It waits for the module's reply.
  | awaits (job : JobCreation)
  -- The connection loop has passed on the reply, and the job is not stored yet.
  | stores (job : JobCreation) (reply : InboundResponseFrameData)
  | ended

namespace NodeLoop

def job? : NodeLoop → Option JobCreation
  | sends job    => some job
  | awaits job   => some job
  | stores job _ => some job
  | _            => none

def isIdle : NodeLoop → Bool
  | idle => true
  | _    => false

end NodeLoop

-- A node with the connection tasks that `server::run` has spawned for its modules.
structure Server where
  node     : Node
  loop     : NodeLoop                  := .idle
  -- The connections that were accepted so far. Each gets the next number.
  opened   : Nat                       := 0
  -- The connection tasks that have not ended.
  tasks    : List Nat                  := []
  -- The tasks of these whose handler waits for the node loop to take a request for another peer, or
  -- to pass on the response to it.
  awaiting : List Nat                  := []
  -- The offer for which the task of an incoming stream holds the provider mutex.
  stream   : Option FoundProvidedOffer := none
  -- The jobs whose acceptance has been read, next to the connection that it was read on.
  accepted : List (Nat × String)       := []

namespace Server

def start (db : Database) (now : DateTime) : Server where
  node := .start db now

variable (s : Server)

-- Nobody holds the provider mutex.
def unlocked : Bool :=
  s.loop.job?.isNone && s.stream.isNone

-- The task that holds the other end of the module's channel has not ended, so that it still receives
-- what is sent to the module.
def Receives (moduleId : UInt32) : Prop :=
  ∃ c ∈ s.tasks, s.node.provider.receiver moduleId = some c

instance : Decidable (s.Receives m) :=
  inferInstanceAs <| Decidable (∃ c ∈ s.tasks, _)

-- Connection tasks end by a panic, which cleans nothing up.
def panics (cs : List Nat) : Server := { s with
  node     := s.node.drop cs
  tasks    := s.tasks.filter (· ∉ cs)
  awaiting := s.awaiting.filter (· ∉ cs)
}

-- The node loop ends. Who waits for it finds its end of the channel closed, and panics.
def loopEnds : Server :=
  { s with loop := .ended }.panics s.awaiting

def handleInboundRequest (ext : External) (keypair : ext.Keypair) (c : Nat) (request : RpcRequest) :
    Server :=
  match s.node.handleInboundRequest ext keypair c request with
  | .returns node => { s with node }
  | .panics node  => { s with node }.panics [c]
  | .requests     =>
    match s.loop with
    | .ended => s.panics [c]
    | _      => { s with awaiting := c :: s.awaiting }

-- What the node loop writes on other messages, and what the tasks that requests have spawned write. A
-- peer does not get its own heartbeats.
def Background (ourPeerId : PeerId) : Handler → Prop
  | .provider (.confirmJob ..) => s.loop.isIdle = true
  | .heartbeat _ _ _ source _  => s.loop.isIdle = true ∧ source ≠ ourPeerId
  | .consumerCreateJob ..      => True
  | .confirmJob ..             => True
  | _                          => False

instance : Decidable (s.Background ourPeerId handler) := by
  unfold Background
  split <;> infer_instance

inductive Label
  | accept
  | request (c : Nat) (request : RpcRequest)
  -- The node loop has done what a handler waits for.
  | resume (c : Nat)
  -- The loop of a connection exits, and its task cleans up.
  | exit (now : DateTime) (c : Nat)
  | background (handler : Handler)
  -- The node loop gets a `CreateJob` request, sends it on, and stores the job at the time `later`.
  | createJob (now : DateTime) (fromPeerId : PeerId) (request : CreateJobRequest) (uuid : String)
  | sendCreateJob
  | reply (c : Nat) (reply : InboundResponseFrameData)
  | dropReply
  | storeJob (later : DateTime)
  -- The node loop exits, or fails.
  | stop
  -- The task of an incoming stream looks for the module of its job, and sends it requests.
  | openStream (plan : Plan JobJoin) (fromPeerId : PeerId) (providerJobId : String)
  | sendStream
  | closeStream
  | restart (now : DateTime)

def next (ext : External) (keypair : ext.Keypair) : Label → Option Server
  | .accept => some { s with tasks := s.opened :: s.tasks, opened := s.opened + 1 }
  | .request c request =>
    if c ∈ s.tasks ∧ c ∉ s.awaiting ∧ (request.locks → s.unlocked) then
      some <| s.handleInboundRequest ext keypair c request
    else
      none
  | .resume c =>
    if c ∈ s.awaiting then some { s with awaiting := s.awaiting.filter (· ≠ c) } else none
  | .exit now c =>
    if c ∈ s.tasks ∧ c ∉ s.awaiting ∧ (s.node.connections.lookup c = none ∨ s.unlocked) then
      some { s with node := closeConnection now s.node c, tasks := s.tasks.filter (· ≠ c) }
    else
      none
  | .background handler =>
    if s.Background (ext.peerId keypair) handler then
      some { s with node := (s.node.handle ext keypair handler).1 }
    else
      none
  | .createJob now fromPeerId request providerJobId =>
    match s.loop with
    | .idle =>
      if s.stream.isSome then
        none
      else
        match s.node.provider.findOffer request.protocolId request.offerId with
        | none => some s.loopEnds
        | some none => some s
        | some (some offer) =>
          if offer.provided.protocolPayload = request.offerPayload then
            some { s with loop := .sends { offer, fromPeerId, request, providerJobId, now } }
          else
            some s
    | _ => none
  | .sendCreateJob =>
    match s.loop with
    | .sends job =>
      if s.Receives job.offer.moduleId then some { s with loop := .awaits job } else some s.loopEnds
    | _ => none
  | .reply c reply =>
    match s.loop with
    | .awaits job =>
      if c ∈ s.tasks ∧ c ∉ s.awaiting ∧
          s.node.provider.receiver job.offer.moduleId = some c then
        some { s with
          loop     := .stores job reply
          accepted := if reply = .providerCreateJob .ok then
            (c, job.providerJobId) :: s.accepted
          else
            s.accepted
        }
      else
        none
    | _ => none
  | .dropReply =>
    match s.loop with
    | .awaits job => if s.Receives job.offer.moduleId then none else some s.loopEnds
    | _           => none
  | .storeJob later =>
    match s.loop with
    | .stores job reply =>
      match handleCreateJobRequest job.now later job.providerJobId (some reply) s.node.db
        s.node.provider job.fromPeerId job.request with
      | none         => some s.loopEnds
      | some (_, db) => some { s with node := { s.node with db }, loop := .idle }
    | _ => none
  | .stop =>
    match s.loop with
    | .idle => some s.loopEnds
    | _     => none
  | .openStream plan fromPeerId providerJobId =>
    if s.unlocked then
      match s.node.db.findByJobId plan (ext.peerId keypair) providerJobId with
      | none => some s
      | some job =>
        if fromPeerId ≠ job.consumerPeerId then
          some s
        else
          match s.node.provider.findOffer job.offerProtocolId job.offerId with
          | some (some offer) => some { s with stream := some offer }
          | _                 => some s
    else
      none
  | .sendStream =>
    match s.stream with
    | some offer => if s.Receives offer.moduleId then some s else some { s with stream := none }
    | none       => none
  | .closeStream => if s.stream.isSome then some { s with stream := none } else none
  | .restart now => some <| start s.node.db now

abbrev step (ext : External) (keypair : ext.Keypair) : Server → Label → Server → Prop :=
  ofFn fun s l => s.next ext keypair l

end Server
end Derouter
