import Derouter.Db.ServiceJobs.JobOp
import Derouter.P2p.Heartbeat

open Sql Transition

namespace Derouter

-- All that is written to the jobs and the offer snapshots of a node.
inductive DatabaseOp
  | job (op : JobOp)
  | upsert (plan : Plan (Rowid × OfferSnapshotRow)) (providerPeerId : PeerId)
      (offerId protocolId protocolPayload : String)
  | heartbeat (plan : Plan (Rowid × OfferSnapshotRow)) (visits : List Rowid) (now : DateTime)
      (source : PeerId) (heartbeat : Heartbeat)

-- A node signs the jobs that it completes as a Consumer with its key.
def JobOp.SignsWith (ext : External) (keypair : ext.Keypair) : JobOp → Prop
  | consumerComplete _ _ _ _ _ _ _ _ _ sign => sign = ext.sign keypair
  | _                                        => True

namespace DatabaseOp

-- What fails or panics is rolled back.
def exec (ext : External) (db : Database) : DatabaseOp → Database
  | job op => (op.exec ext db).1
  | upsert plan p o q l =>
    match Derouter.upsert plan db p o q l with
    | some (_, db) => db
    | none         => db
  | heartbeat plan visits now source message =>
    match handleHeartbeat plan visits now db source message with
    | some (.ok (_, db)) => db
    | _                  => db

-- The peer ID and the key of a node are fixed.
def OfNode (ext : External) (keypair : ext.Keypair) : DatabaseOp → Prop
  | job op => op.Local (ext.peerId keypair) ∧ op.SignsWith ext keypair
  | _      => True

end DatabaseOp

namespace NodeDatabase

def step (ext : External) (keypair : ext.Keypair) (db : Database) (op : DatabaseOp)
    (db' : Database) : Prop :=
  op.OfNode ext keypair ∧ db' = op.exec ext db

end NodeDatabase
end Derouter
