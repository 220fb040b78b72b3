import Derouter.Db.ServiceJobs.Operations
import Derouter.Lib.Transition

open Sql Transition

namespace Derouter

-- A call of one of the operations on service jobs, with all that it reads besides the database.
inductive JobOp
  | create (now : DateTime) (offerSnapshotRowid : Rowid) (consumerPeerId : PeerId)
      (currency : Currency) (jobArgs : Option String) (providerJobId : String) (createdAtSync : Int)
  | fail (plan : Plan JobJoin) (now : DateTime) (providerPeerId : PeerId)
      (providerJobId reason : String) (reasonClass : Option Int) (privatePayload : Option String)
  | setConfirmationError (jobRowid : Rowid) (confirmationError : String)
  | providerComplete (plan : Plan JobJoin) (now : DateTime) (providerPeerId : PeerId)
      (providerJobId : String) (balanceDelta privatePayload : Option String)
      (publicPayload : String)
  | providerConfirm (plan : Plan JobJoin) (now : DateTime) (consumerPeerId providerPeerId : PeerId)
      (providerJobId : String) (jobHash consumerPublicKey consumerSignature : List UInt8)
  | consumerComplete (plan : Plan JobJoin) (now : DateTime) (consumerPeerId providerPeerId : PeerId)
      (providerJobId : String) (balanceDelta : Option String) (publicPayload : String)
      (privatePayload : Option String) (completedAtSync : Int) (signFn : List UInt8 → List UInt8)
  | consumerConfirm (now : DateTime) (jobRowid : Rowid)

-- What happened to a row when an operation returned `Ok`. Only the ends of a job are told apart.
inductive JobEvent
  | failed
  | completed
  | other
deriving DecidableEq

namespace JobOp

-- The event of an operation that returns `Ok`.
def event : JobOp → JobEvent
  | fail ..             => .failed
  | providerComplete .. => .completed
  | consumerComplete .. => .completed
  | _                   => .other

-- The existing row that a call addresses.
def addressed (db : Database) : JobOp → Option Rowid
  | create ..                                   => none
  | fail plan _ provider jobId ..               => (db.jobById plan provider jobId).map (·.rowid)
  | setConfirmationError i _                    => some i
  | providerComplete plan _ provider jobId ..   => (db.jobById plan provider jobId).map (·.rowid)
  | providerConfirm plan _ _ provider jobId ..  => (db.jobById plan provider jobId).map (·.rowid)
  | consumerComplete plan _ _ provider jobId .. => (db.jobById plan provider jobId).map (·.rowid)
  | consumerConfirm _ i                         => some i

def CompletesAsConsumer : JobOp → Prop
  | consumerComplete .. => True
  | _                   => False

-- A node passes its own peer ID to the operations that act in its name.
def Local (self : PeerId) : JobOp → Prop
  | providerConfirm _ _ _ provider ..  => provider = self
  | consumerComplete _ _ consumer ..   => consumer = self
  | _                                  => True

instance : Decidable (Local self op) := by
  cases op <;> simp only [Local] <;> infer_instance

-- The database after a call, and the row for which the call returned `Ok`.
def exec (ext : External) (db : Database) : JobOp → Database × Option Rowid
  | create now snapshot consumer currency args jobId createdAt =>
    match createJob now db snapshot consumer currency args jobId createdAt with
    | some (i, db) => (db, some i)
    | none         => (db, none)
  | fail plan now provider jobId reason reasonClass priv =>
    match failJob plan now db provider jobId reason reasonClass priv with
    | .ok db'  => (db', (db.jobById plan provider jobId).map (·.rowid))
    | .error _ => (db, none)
  | setConfirmationError i error =>
    match setJobConfirmationError db i error with
    | (.ok, db) => (db, some i)
    | (_, db)   => (db, none)
  | providerComplete plan now provider jobId delta priv pub =>
    match providerCompleteJob ext plan now db provider jobId delta priv pub with
    | .ok (db, job) => (db, some job.jobRowid)
    | .error _      => (db, none)
  | providerConfirm plan now consumer provider jobId jobHash key signature =>
    match providerConfirmJob ext plan now db consumer provider jobId jobHash key signature with
    | .ok db'  => (db', (db.jobById plan provider jobId).map (·.rowid))
    | .error _ => (db, none)
  | consumerComplete plan now consumer provider jobId delta pub priv completedAt sign =>
    match consumerCompleteJob ext plan now db consumer provider jobId delta pub priv completedAt
      sign with
    | .ok (db, job) => (db, some job.jobRowid)
    | .error _      => (db, none)
  | consumerConfirm now i =>
    match consumerConfirmJob now db i with
    | .ok (db, job) => (db, some job.jobRowid)
    | .error _      => (db, none)

def step (ext : External) : Database → JobOp → Database → Prop :=
  ofFn fun db op => some (op.exec ext db).1

end JobOp

-- A database together with the events of all calls that returned `Ok` so far.
structure JobHistory where
  db     : Database
  events : List (Rowid × JobEvent) := []

namespace JobHistory

def record (op : JobOp) : Option Rowid → List (Rowid × JobEvent) → List (Rowid × JobEvent)
  | some i, events => (i, op.event) :: events
  | none,   events => events

def exec (ext : External) (s : JobHistory) (op : JobOp) : JobHistory where
  db     := (op.exec ext s.db).1
  events := record op (op.exec ext s.db).2 s.events

def Failed (s : JobHistory) (i : Rowid) : Prop :=
  (i, .failed) ∈ s.events

def Completed (s : JobHistory) (i : Rowid) : Prop :=
  (i, .completed) ∈ s.events

end JobHistory
end Derouter
