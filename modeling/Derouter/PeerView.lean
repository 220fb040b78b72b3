import Derouter.Lib.Noninterference
import Derouter.P2p.Theorems.Shared

open Noninterference Sql

namespace Derouter

-- The head request that opens a job connection, and the peer that it is sent to. Nothing is opened
-- unless the job is found.
def consumerOpenJobConnectionRequest (plan : Plan JobJoin) (db : Database)
    (providerPeerId : PeerId) (providerJobId : String) : Option (PeerId × JobConnectionHeadRequest) :=
  (db.findByJobId plan providerPeerId providerJobId).map fun job =>
    (job.providerPeerId, ⟨job.providerJobId⟩)

namespace Handler

-- The handler without its local data. What a module tells a node of a job for itself is blanked out,
-- and so are the times that are for the node's own record.
def shared : Handler → Handler
  | provider (.createJob now _ uuid reply fromPeerId request) =>
    provider <| .createJob now .zero uuid reply fromPeerId request
  | provider (.providerCompleteJob plan now providerPeerId providerJobId balanceDelta _ publicPayload) =>
    provider <| .providerCompleteJob plan now providerPeerId providerJobId balanceDelta none
      publicPayload
  | provider (.failJob plan _ providerPeerId providerJobId _ _ _) =>
    provider <| .failJob plan .zero providerPeerId providerJobId "" none none
  | provider (.confirmJob plan _ fromPeerId request) =>
    provider <| .confirmJob plan .zero fromPeerId request
  | provider action => provider action
  | heartbeat plan visits now source message => heartbeat plan visits now source message
  | consumerCreateJob _ offerSnapshotId request response =>
    consumerCreateJob .zero offerSnapshotId request response
  | consumerCompleteJob plan _ providerPeerId providerJobId balanceDelta publicPayload _
      completedAtSync =>
    consumerCompleteJob plan .zero providerPeerId providerJobId balanceDelta publicPayload none
      completedAtSync
  | confirmJob _ job response => confirmJob .zero job response

-- The order in which a query for a job returns its rows does not depend on local data.
def Respects : Handler → Prop
  | provider (.providerCompleteJob plan ..) => plan.Respects JobJoin.shared
  | provider (.failJob plan ..)             => plan.Respects JobJoin.shared
  | provider (.confirmJob plan ..)          => plan.Respects JobJoin.shared
  | consumerCompleteJob plan ..             => plan.Respects JobJoin.shared
  | _                                       => True

end Handler

def JobRequest.shared : JobRequest → JobRequest
  | confirmJob _ request => confirmJob .zero request
  | request              => request

-- A node, as other peers see it.
namespace PeerView

inductive Label
  | handle (handler : Handler)
  -- A peer asks about a job.
  | jobRequest (plan : Plan JobJoin) (fromPeerId : PeerId) (request : JobRequest)
  -- A module of the node asks it to create a job, or to open a connection.
  | createJob (offerSnapshotId : Rowid) (currency : Currency) (jobArgs : Option String)
  | openJobConnection (plan : Plan JobJoin) (providerPeerId : PeerId) (providerJobId : String)
  -- The scheduler is woken up.
  | confirmJobs (plan : Plan JobJoin)
  | sendHeartbeat (config : ProviderConfig) (publish : Heartbeat → Option PublishError)
      (now : DateTime)

-- All that a node lets another peer know.
inductive Sent
  | nothing
  | createJobResponse (response : Option CreateJobResponse)
  | jobResponse (response : Option JobResponse)
  | createJobRequest (request : Option CreateJobRequest)
  | jobConnectionRequest (request : Option (PeerId × JobConnectionHeadRequest))
  | confirmJobRequests (requests : Option (List (PeerId × ConfirmJobRequest)))
  | heartbeat (result : Option (Except PublishError (Option Heartbeat)))

namespace Label

def shared : Label → Label
  | handle handler                     => handle handler.shared
  | jobRequest plan fromPeerId request => jobRequest plan fromPeerId request.shared
  | l                                  => l

def Respects : Label → Prop
  | handle handler           => handler.Respects
  | jobRequest plan ..       => plan.Respects JobJoin.shared
  | openJobConnection plan .. => plan.Respects JobJoin.shared
  | confirmJobs plan         => plan.Respects JobJoin.shared
  | _                        => True

end Label

-- The response that a handler sends to a peer.
def responds (ext : External) (keypair : ext.Keypair) (node : Node) : Handler → Sent
  | .provider (.createJob now later uuid reply fromPeerId request) =>
    .createJobResponse <| (handleCreateJobRequest now later uuid reply node.db node.provider
      fromPeerId request).map (·.1)
  | .provider (.confirmJob plan now fromPeerId request) =>
    .jobResponse <| (handleConfirmJobRequest ext plan now (ext.peerId keypair) node.db fromPeerId
      request).1.map .confirmJob
  | _ => .nothing

def next (ext : External) (keypair : ext.Keypair) (node : Node) : Label → Node × Sent
  | .handle handler => ((node.handle ext keypair handler).1, responds ext keypair node handler)
  | .jobRequest plan fromPeerId request =>
    let answer := answerJobRequest ext plan (ext.peerId keypair) node.provider node.db fromPeerId
      request
    ({ node with db := answer.db }, .jobResponse answer.response)
  | .createJob offerSnapshotId currency jobArgs =>
    (node, .createJobRequest <| consumerCreateJobRequest node.db offerSnapshotId currency jobArgs)
  | .openJobConnection plan providerPeerId providerJobId =>
    (node, .jobConnectionRequest <|
      consumerOpenJobConnectionRequest plan node.db providerPeerId providerJobId)
  | .confirmJobs plan =>
    let jobs := queryUnconfirmedJobs plan node.db (ext.peerId keypair)
    (node, .confirmJobRequests <| jobs.map fun jobs => jobs.map fun job =>
      (job.providerPeerId, job.request ext (ext.publicKey keypair)))
  | .sendHeartbeat config publish now =>
    (node, .heartbeat <| maybeSendHeartbeat config publish now node.provider)

variable {ext : External} {keypair : ext.Keypair} {node node' : Node} {l : Label}
variable {ls ls' : List Label}

theorem db_shared : node.shared.db = node.db.shared :=
  rfl

theorem shared_shared : node.shared.shared = node.shared := by
  simp only [Node.shared, Database.shared_shared]

theorem withDb_shared {db db' : Database} (h : db'.shared = db.shared) :
    Node.shared { node.shared with db := db' } = Node.shared { node with db } := by
  simp only [Node.shared, h]

theorem perform_shared {action action' : Node.Action} (ha : (Handler.provider action).Respects)
    (hs : (Handler.provider action).shared = .provider action') :
    (node.shared.perform ext p action').shared = (node.perform ext p action).shared := by
  cases action <;> obtain rfl := Handler.provider.inj hs
  case provide =>
    simp only [Node.perform, handleProviderProvideRequest_shared, Prod.map, shared_shared]
  case close =>
    simp only [Node.perform, closeConnection_shared, shared_shared]
  case restart =>
    simp only [Node.perform, Node.start, Node.shared, Database.shared_shared]
  case createJob now later uuid reply fromPeerId request =>
    have hc : (handleCreateJobRequest now .zero uuid reply node.db.shared node.provider fromPeerId
        request).map (Prod.map id Database.shared) =
          (handleCreateJobRequest now later uuid reply node.db node.provider fromPeerId request).map
            (Prod.map id Database.shared) := handleCreateJobRequest_shared
    simp only [Node.perform, db_shared]
    split <;> split <;> simp_all [Node.shared]
  case providerCompleteJob plan now provider jobId delta priv pub =>
    have hc : (providerCompleteJob ext plan now node.db.shared provider jobId delta none
        pub).toOption.map (·.1.shared) =
          (providerCompleteJob ext plan now node.db provider jobId delta priv pub).toOption.map
            (·.1.shared) := providerCompleteJob_shared ha
    simp only [Node.perform, JobOp.exec, db_shared]
    refine withDb_shared ?_
    split <;> split <;> simp_all [Except.toOption]
  case failJob plan now provider jobId reason reasonClass priv =>
    have hc : (failJob plan .zero node.db.shared provider jobId "" none none).toOption.map
        Database.shared =
          (failJob plan now node.db provider jobId reason reasonClass priv).toOption.map
            Database.shared := failJob_shared ha
    simp only [Node.perform, JobOp.exec, db_shared]
    refine withDb_shared ?_
    split <;> split <;> simp_all [Except.toOption]
  case confirmJob =>
    exact withDb_shared <| congrArg Prod.snd (handleConfirmJobRequest_shared ha)

theorem handle_shared {handler : Handler} (h : handler.Respects) :
    (node.shared.handle ext keypair handler.shared).1.shared =
      (node.handle ext keypair handler).1.shared := by
  cases handler
  case provider action =>
    obtain ⟨action', ha⟩ : ∃ action', (Handler.provider action).shared = .provider action' := by
      cases action <;> exact ⟨_, rfl⟩
    rw [ha]
    exact perform_shared h ha
  case heartbeat plan visits now source message =>
    simp only [Node.handle, Handler.shared, db_shared, handleHeartbeat_shared]
    obtain _ | _ | ⟨events, db⟩ := handleHeartbeat plan visits now node.db source message
    case none => exact shared_shared
    case some.error => exact shared_shared
    case some.ok => exact withDb_shared Database.shared_shared
  case consumerCreateJob now offerSnapshotId request response =>
    have hc : (consumerCreateJob .zero node.db.shared (ext.peerId keypair) offerSnapshotId request
        response).map (Prod.map id Database.shared) =
          (consumerCreateJob now node.db (ext.peerId keypair) offerSnapshotId request response).map
            (Prod.map id Database.shared) := consumerCreateJob_shared
    simp only [Node.handle, Handler.shared, db_shared]
    split <;> split <;> simp_all [Node.shared]
  case consumerCompleteJob plan now provider jobId delta pub priv completedAt =>
    have hc : (consumerCompleteJob ext plan .zero node.db.shared (ext.peerId keypair) provider jobId
        delta pub none completedAt (ext.sign keypair)).toOption.map (·.1.shared) =
          (consumerCompleteJob ext plan now node.db (ext.peerId keypair) provider jobId delta pub priv
            completedAt (ext.sign keypair)).toOption.map (·.1.shared) :=
      consumerCompleteJob_shared h
    simp only [Node.handle, Handler.shared, db_shared]
    split <;> split <;> simp_all [Node.shared, Except.toOption]
  case confirmJob now job response =>
    have hc : (confirmJob .zero node.db.shared job response).map Database.shared =
        (confirmJob now node.db job response).map Database.shared := confirmJob_shared
    simp only [Node.handle, Handler.shared, db_shared]
    split <;> split <;> simp_all [Node.shared]

theorem responds_shared {handler : Handler} (h : handler.Respects) :
    responds ext keypair node.shared handler.shared = responds ext keypair node handler := by
  cases handler
  case provider action =>
    cases action
    case createJob now later uuid reply fromPeerId request =>
      have hc : (handleCreateJobRequest now .zero uuid reply node.db.shared node.provider fromPeerId
          request).map (Prod.map id Database.shared) =
            (handleCreateJobRequest now later uuid reply node.db node.provider fromPeerId request).map
              (Prod.map id Database.shared) := handleCreateJobRequest_shared
      have hr := congrArg (Option.map Prod.fst) hc
      simp only [Option.map_map] at hr
      exact congrArg Sent.createJobResponse hr
    case confirmJob =>
      exact congrArg (fun p => Sent.jobResponse (p.1.map .confirmJob))
        (handleConfirmJobRequest_shared h)
    all_goals rfl
  all_goals rfl

theorem answerJobRequest_shared {request : JobRequest} (h : plan.Respects JobJoin.shared) :
    (answerJobRequest ext plan self node.provider node.db.shared fromPeerId request.shared).response =
      (answerJobRequest ext plan self node.provider node.db fromPeerId request).response ∧
    (answerJobRequest ext plan self node.provider node.db.shared fromPeerId
      request.shared).db.shared =
      (answerJobRequest ext plan self node.provider node.db fromPeerId request).db.shared := by
  cases request
  case getJob =>
    simp only [answerJobRequest, JobRequest.shared, handleGetJobRequest_shared h,
      Database.shared_shared, and_self]
  case confirmJob =>
    exact ⟨congrArg (fun p : _ × _ => p.1.map JobResponse.confirmJob)
      (handleConfirmJobRequest_shared h), congrArg Prod.snd (handleConfirmJobRequest_shared h)⟩
  case jobConnection =>
    simp only [answerJobRequest, JobRequest.shared, handleJobConnectionStream_shared h,
      Database.shared_shared, and_self]

theorem openJobConnection_shared (h : plan.Respects JobJoin.shared) :
    consumerOpenJobConnectionRequest plan node.db.shared providerPeerId providerJobId =
      consumerOpenJobConnectionRequest plan node.db providerPeerId providerJobId := by
  simp only [consumerOpenJobConnectionRequest, Database.findByJobId_shared h, Option.map_map]
  rfl

theorem unwinds : Unwinds (next ext keypair) Node.shared Label.shared Label.Respects where
  output node l h := by
    cases l
    case handle     => exact responds_shared h
    case jobRequest => exact congrArg Sent.jobResponse (answerJobRequest_shared h).1
    case createJob  => rfl
    case openJobConnection =>
      exact congrArg Sent.jobConnectionRequest (openJobConnection_shared h)
    case confirmJobs =>
      simp only [next, Label.shared, db_shared, queryUnconfirmedJobs_shared h]
    case sendHeartbeat => rfl
  state node l h := by
    cases l
    case handle     => exact handle_shared h
    case jobRequest => exact withDb_shared (answerJobRequest_shared h).2
    all_goals exact shared_shared

-- What a node lets other peers know does not depend on what is local to its jobs, over whole runs:
-- not on a private payload, the text of a failure, an error of a confirmation or its own clock, whether
-- they were there from the start or came with an operation.
theorem outputs_of_shared (hn : node.shared = node'.shared)
    (hl : ls.map Label.shared = ls'.map Label.shared) (h : ∀ l ∈ ls, l.Respects)
    (h' : ∀ l ∈ ls', l.Respects) :
    outputs (next ext keypair) node ls = outputs (next ext keypair) node' ls' :=
  unwinds.outputs_eq hn hl h h'

-- A Provider completes a job, and its Consumer asks for it. What the module has written down for
-- itself, and when the job was created by the clock of the node, is up to the run.
private def completeSample (later : DateTime) (privatePayload : String) : List Label := [
  .handle <| .provider <| .provide .scan 0 0 ⟨"protocol", "offer", "payload"⟩,
  .handle <| .provider <| .createJob 0 later "job" (some <| .providerCreateJob .ok) ⟨[1]⟩
    ⟨"protocol", "offer", "payload", .polygon, none⟩,
  .handle <| .provider <| .providerCompleteJob .scan 0 ⟨[0]⟩ "job" none privatePayload "done",
  .jobRequest .scan ⟨[1]⟩ <| .getJob ⟨"job"⟩
]

theorem outputs_of_shared_sample : completeSample 0 "x" ≠ completeSample 1 "y" ∧
    outputs (next .sample ⟨[0]⟩) (.start ∅ 0) (completeSample 0 "x") =
      outputs (next .sample ⟨[0]⟩) (.start ∅ 0) (completeSample 1 "y") ∧
    (outputs (next .sample ⟨[0]⟩) (.start ∅ 0) (completeSample 0 "x")).getLast? =
      some (.jobResponse <| some <| .getJob <| .ok "done" none 0 (some 0)) := by
  have hr (later : DateTime) (privatePayload : String) :
      ∀ l ∈ completeSample later privatePayload, l.Respects := by
    simp only [completeSample, List.forall_mem_cons, List.not_mem_nil, false_imp_iff, implies_true,
      and_true]
    exact ⟨trivial, trivial, Plan.scan_respects, Plan.scan_respects⟩
  refine ⟨by simp [completeSample], outputs_of_shared rfl rfl (hr _ _) (hr _ _), rfl⟩

end PeerView
end Derouter
