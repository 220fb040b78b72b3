import Derouter.Lib.Sql.Table

open Sql

namespace Derouter

-- The bytes of a libp2p peer ID. The database stores its base58 text, from which parsing reads the
-- same peer ID back, so tables hold the peer ID itself.
structure PeerId where
  toBytes : List UInt8
deriving DecidableEq

-- `chrono::DateTime<Utc>`, in nanoseconds since the epoch.
abbrev DateTime := Int

namespace DateTime

def nanosPerSecond : Int :=
  1000000000

-- The whole seconds since the epoch, rounded towards the past.
def timestamp (t : DateTime) : Int :=
  t / nanosPerSecond

def ofTimestamp (s : Int) : DateTime :=
  s * nanosPerSecond

-- What a `ts_seconds` field reads after it was written.
def tsSeconds (t : DateTime) : DateTime :=
  ofTimestamp t.timestamp

-- SQLite's `CURRENT_TIMESTAMP` has a resolution of one second.
def currentTimestamp (now : DateTime) : DateTime :=
  now.tsSeconds

def zero : DateTime :=
  ofTimestamp 0

end DateTime

-- Currency set for a connection.
inductive Currency
  -- Native Polygon token ($POL).
  | polygon
deriving DecidableEq

def Currency.code : Currency → String
  | polygon => "POL"

structure ProviderHeartbeat where
  peerId            : PeerId
  latestHeartbeatAt : DateTime
deriving DecidableEq

structure ProviderRecord where
  peerId            : PeerId
  name              : Option String
  teaser            : Option String
  description       : Option String
  updatedAt         : DateTime
  latestHeartbeatAt : DateTime
deriving DecidableEq

structure OfferSnapshot where
  snapshotId      : Rowid
  active          : Bool
  providerPeerId  : PeerId
  protocolId      : String
  offerId         : String
  protocolPayload : String
deriving DecidableEq

structure OfferRemoved where
  snapshotId     : Rowid
  providerPeerId : PeerId
  protocolId     : String
  offerId        : String
deriving DecidableEq

structure JobRecord where
  jobRowid                  : Rowid
  providerJobId             : String
  providerPeerId            : PeerId
  consumerPeerId            : PeerId
  offerId                   : String
  offerSnapshotRowid        : Rowid
  offerProtocolId           : String
  offerPayload              : String
  offerActive               : Bool
  currency                  : Currency
  balanceDelta              : Option String
  publicPayload             : Option String
  privatePayload            : Option String
  reason                    : Option String
  reasonClass               : Option Int
  createdAtLocal            : DateTime
  createdAtSync             : Int
  completedAtLocal          : Option DateTime
  completedAtSync           : Option Int
  signatureConfirmedAtLocal : Option DateTime
  confirmationError         : Option String
deriving DecidableEq

end Derouter
