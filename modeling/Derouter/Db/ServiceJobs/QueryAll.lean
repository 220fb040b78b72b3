import Derouter.Db.Schema
import Derouter.Lib.Sql.Query

open Sql

namespace Derouter

-- A value in a cell. Peer IDs and times are stored as texts, from which the same are read back.
inductive Value
  | null
  | integer (i : Int)
  | text (s : String)
  | blob (bytes : List UInt8)
  | base58 (peerId : PeerId)
  | timestamp (t : DateTime)
deriving DecidableEq

-- No statement compares anything but integers.
instance : Cell Value where
  null := .null
  gt
    | .integer a, .integer b => decide (b < a)
    | _, _                   => false
  integer?
    | .integer i => some i
    | _          => none

namespace Value

def ofOption (f : α → Value) : Option α → Value
  | none   => null
  | some a => f a

def ofBool (b : Bool) : Value :=
  integer (if b then 1 else 0)

def toInt? : Value → Option Int
  | integer i => some i
  | _         => none

def toText? : Value → Option String
  | text s => some s
  | _      => none

def toPeerId? : Value → Option PeerId
  | base58 peerId => some peerId
  | _             => none

def toDateTime? : Value → Option DateTime
  | timestamp t => some t
  | _           => none

def toBool? : Value → Option Bool
  | integer i => some (i != 0)
  | _         => none

def toOption? (f : Value → Option α) : Value → Option (Option α)
  | null => some none
  | v    => (f v).map some

end Value

namespace Currency

def toInt : Currency → Int
  | polygon => 0

def ofInt? : Int → Option Currency
  | 0 => some polygon
  | _ => none

end Currency

def serviceJobs (name : String) : Column :=
  ⟨"service_jobs", name⟩

def offerSnapshots (name : String) : Column :=
  ⟨"offer_snapshots", name⟩

def JobRow.row (i : Rowid) (r : JobRow) : Row Value := [
  (serviceJobs "rowid", .integer i),
  (serviceJobs "offer_snapshot_rowid", .integer r.offerSnapshotRowid),
  (serviceJobs "consumer_peer_id", .base58 r.consumerPeerId),
  (serviceJobs "currency", .integer r.currency.toInt),
  (serviceJobs "job_args", .ofOption .text r.jobArgs),
  (serviceJobs "provider_job_id", .text r.providerJobId),
  (serviceJobs "private_payload", .ofOption .text r.privatePayload),
  (serviceJobs "reason", .ofOption .text r.reason),
  (serviceJobs "reason_class", .ofOption .integer r.reasonClass),
  (serviceJobs "created_at_local", .timestamp r.createdAtLocal),
  (serviceJobs "created_at_sync", .integer r.createdAtSync),
  (serviceJobs "completed_at_local", .ofOption .timestamp r.completedAtLocal),
  (serviceJobs "completed_at_sync", .ofOption .integer r.completedAtSync),
  (serviceJobs "public_payload", .ofOption .text r.publicPayload),
  (serviceJobs "balance_delta", .ofOption .text r.balanceDelta),
  (serviceJobs "hash", .ofOption .blob r.hash),
  (serviceJobs "consumer_signature", .ofOption .blob r.consumerSignature),
  (serviceJobs "signature_confirmed_at_local", .ofOption .timestamp r.signatureConfirmedAtLocal),
  (serviceJobs "confirmation_error", .ofOption .text r.confirmationError)
]

def OfferSnapshotRow.row (i : Rowid) (r : OfferSnapshotRow) : Row Value := [
  (offerSnapshots "rowid", .integer i),
  (offerSnapshots "provider_peer_id", .base58 r.providerPeerId),
  (offerSnapshots "protocol_id", .text r.protocolId),
  (offerSnapshots "offer_id", .text r.offerId),
  (offerSnapshots "protocol_payload", .text r.protocolPayload),
  (offerSnapshots "active", .ofBool r.active)
]

def JobRow.sqlColumns : List Column :=
  ["rowid", "offer_snapshot_rowid", "consumer_peer_id", "currency", "job_args", "provider_job_id",
    "private_payload", "reason", "reason_class", "created_at_local", "created_at_sync",
    "completed_at_local", "completed_at_sync", "public_payload", "balance_delta", "hash",
    "consumer_signature", "signature_confirmed_at_local", "confirmation_error"].map serviceJobs

def OfferSnapshotRow.sqlColumns : List Column :=
  ["rowid", "provider_peer_id", "protocol_id", "offer_id", "protocol_payload",
    "active"].map offerSnapshots

-- The tables of jobs and of their offers, and the module for arrays.
def Database.catalog (db : Database) : Catalog Value where
  table
    | "service_jobs" => some {
        columns := JobRow.sqlColumns
        rows    := db.serviceJobs.rows.map fun r => r.2.row r.1
        named   := fun _ h => by
          obtain ⟨r, _, rfl⟩ := List.mem_map.mp h
          rfl
      }
    | "offer_snapshots" => some {
        columns := OfferSnapshotRow.sqlColumns
        rows    := db.offerSnapshots.rows.map fun r => r.2.row r.1
        named   := fun _ h => by
          obtain ⟨r, _, rfl⟩ := List.mem_map.mp h
          rfl
      }
    | _ => none
  functions := ["rarray"]

-- The text of the query, up to its conditions.
def selectJobs : String := "
    SELECT
      service_jobs.rowid,                        -- #0
      offer_snapshots.provider_peer_id,          -- #1
      service_jobs.consumer_peer_id,             -- #2
      offer_snapshots.rowid,                     -- #3
      service_jobs.currency,                     -- #4
      service_jobs.balance_delta,                -- #5
      service_jobs.public_payload,               -- #6
      service_jobs.private_payload,              -- #7
      service_jobs.reason,                       -- #8
      service_jobs.reason_class,                 -- #9
      service_jobs.created_at_local,             -- #10
      service_jobs.created_at_sync,              -- #11
      service_jobs.completed_at_local,           -- #12
      service_jobs.completed_at_sync,            -- #13
      service_jobs.signature_confirmed_at_local, -- #14
      service_jobs.confirmation_error,           -- #15
      offer_snapshots.protocol_id,               -- #16
			service_jobs.provider_job_id,              -- #17
			offer_snapshots.offer_id,                  -- #18
			offer_snapshots.active,                    -- #19
			offer_snapshots.protocol_payload           -- #20
    FROM
      service_jobs
    JOIN offer_snapshots
      ON offer_snapshots.rowid = service_jobs.offer_snapshot_rowid
    WHERE
      "

-- The text of a statement that is put together, and its parameters.
structure Statement where
  sql    : String
  params : List (Param Value) := []

namespace Statement

def greaterThanRowid (s : Statement) : Option Rowid → Statement
  | none             => s
  | some rowidCursor =>
    let params := s.params ++ [.single (.integer rowidCursor)]
    { sql := s.sql ++ "service_jobs.rowid > ?" ++ toString params.length, params }

-- Another condition on a column, if there is a list for it.
def andInArray (s : Statement) (column : String) : Option (List Value) → Statement
  | none        => s
  | some values => {
      sql    := s.sql ++ (if s.params.isEmpty then "" else " AND ") ++ column ++ " IN rarray(?" ++
        toString (s.params.length + 1) ++ ")"
      params := s.params ++ [.array values]
    }

def withLimit (s : Statement) (limit : Int) : Statement where
  sql    := s.sql ++ "\nLIMIT ?" ++ toString (s.params.length + 1)
  params := s.params ++ [.single (.integer limit)]

end Statement

def queryJobsStatement (rowidCursor : Option Rowid) (protocolIds : Option (List String))
    (providerPeerIds consumerPeerIds : Option (List PeerId)) (limit : Int) : Statement :=
  (Statement.mk selectJobs []).greaterThanRowid rowidCursor
    |>.andInArray "offer_snapshots.protocol_id" (protocolIds.map (·.map .text))
    |>.andInArray "offer_snapshots.provider_peer_id" (providerPeerIds.map (·.map .base58))
    |>.andInArray "service_jobs.consumer_peer_id" (consumerPeerIds.map (·.map .base58))
    |>.withLimit limit

-- Reads the columns of a result by their numbers.
def JobRecord.ofValues? (values : List Value) : Option JobRecord := do
  let get {α : Type} (i : Nat) (read : Value → Option α) : Option α := values[i]?.bind read
  return {
    jobRowid                  := ← get 0 Value.toInt?
    providerPeerId            := ← get 1 Value.toPeerId?
    consumerPeerId            := ← get 2 Value.toPeerId?
    offerSnapshotRowid        := ← get 3 Value.toInt?
    currency                  := ← get 4 fun v => v.toInt?.bind Currency.ofInt?
    balanceDelta              := ← get 5 (Value.toOption? Value.toText?)
    publicPayload             := ← get 6 (Value.toOption? Value.toText?)
    privatePayload            := ← get 7 (Value.toOption? Value.toText?)
    reason                    := ← get 8 (Value.toOption? Value.toText?)
    reasonClass               := ← get 9 (Value.toOption? Value.toInt?)
    createdAtLocal            := ← get 10 Value.toDateTime?
    createdAtSync             := ← get 11 Value.toInt?
    completedAtLocal          := ← get 12 (Value.toOption? Value.toDateTime?)
    completedAtSync           := ← get 13 (Value.toOption? Value.toInt?)
    signatureConfirmedAtLocal := ← get 14 (Value.toOption? Value.toDateTime?)
    confirmationError         := ← get 15 (Value.toOption? Value.toText?)
    offerProtocolId           := ← get 16 Value.toText?
    providerJobId             := ← get 17 Value.toText?
    offerId                   := ← get 18 Value.toText?
    offerActive               := ← get 19 Value.toBool?
    offerPayload              := ← get 20 Value.toText?
  }

-- Prepares and runs the statement. Every result is unwrapped (`none`).
def runQueryJobs (plan : Plan (Row Value)) (db : Database) (rowidCursor : Option Rowid)
    (protocolIds : Option (List String)) (providerPeerIds consumerPeerIds : Option (List PeerId))
    (limit : Int) : Option (List JobRecord) :=
  let s := queryJobsStatement rowidCursor protocolIds providerPeerIds consumerPeerIds limit
  (Select.query plan db.catalog s.sql s.params).bind (·.mapM JobRecord.ofValues?)

end Derouter
