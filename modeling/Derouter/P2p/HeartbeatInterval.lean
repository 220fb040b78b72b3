import Derouter.Lib.Cbor
import Derouter.Lib.Transition
import Derouter.P2p.Heartbeat

open Sql Transition

namespace Derouter

-- The order in which the hash maps of a heartbeat are iterated.
structure Iteration where
  protocols : Plan (Σ _ : String, HashMap String ProviderOffer)
  offers    : String → Plan (Σ _ : String, ProviderOffer)

-- What is serialized of a provider's details. The `ts_seconds` are whole seconds.
structure WireDetails where
  name        : Option String
  teaser      : Option String
  description : Option String
  offers      : List (String × List (String × ProviderOffer))
  updatedAt   : Int
deriving DecidableEq

structure WireHeartbeat where
  provider  : Option WireDetails
  timestamp : Int

def ProviderDetails.wire (iteration : Iteration) (details : ProviderDetails) : WireDetails where
  name        := details.name
  teaser      := details.teaser
  description := details.description
  offers      := (iteration.protocols.order details.offers.entries).map fun e =>
    (e.1, ((iteration.offers e.1).order e.2.entries).map fun f => (f.1, f.2))
  updatedAt   := details.updatedAt.timestamp

def Heartbeat.wire (iteration : Iteration) (heartbeat : Heartbeat) : WireHeartbeat where
  provider  := heartbeat.provider.map (·.wire iteration)
  timestamp := heartbeat.timestamp.timestamp

section Encode

open Cbor

def ProviderOffer.encode : Encoder ProviderOffer :=
  fun offer => struct 1 (field "protocol_payload" text) offer.protocolPayload

def WireDetails.encode : Encoder WireDetails :=
  fun d => struct 5
    (pair (field "name" (option text)) <|
      pair (field "teaser" (option text)) <|
        pair (field "description" (option text)) <|
          pair (field "offers" (map (map ProviderOffer.encode))) (field "updated_at" int))
    (d.name, d.teaser, d.description, d.offers, d.updatedAt)

-- `serde_cbor::to_vec`.
def WireHeartbeat.encode : Encoder WireHeartbeat :=
  fun h => struct 2
    (pair (field "provider" (option WireDetails.encode)) (field "timestamp" int))
    (h.provider, h.timestamp)

end Encode

-- A heartbeat that was handed to gossipsub, at the time of its timestamp.
structure HandedHeartbeat where
  message   : Heartbeat
  iteration : Iteration
  data      : List UInt8
  encoded   : (message.wire iteration).encode = some data

-- A message whose ID is in the duplicate cache, whether our own or another peer's.
structure CachedMessage where
  data     : List UInt8
  cachedAt : DateTime
  own      : Bool

-- `duplicate_cache_time`, which has its default.
def duplicateCacheTime : DateTime :=
  60 * DateTime.nanosPerSecond

-- What becomes of a message that is not a duplicate.
inductive Fate
  | messageTooLarge
  | transformFailed
  | signingError
  | insufficientPeers
  | allQueuesFull
  | sent

-- `libp2p::gossipsub::Behaviour::publish`, with the hash that serves as message ID.
def Gossipsub.publish (hasher : List UInt8 → UInt64) (now : DateTime) (cache : List CachedMessage)
    (data : List UInt8) : Fate → Option PublishError × List CachedMessage
  | .messageTooLarge => (some .messageTooLarge, cache)
  | .transformFailed => (some .transformFailed, cache)
  | .signingError    => (some .signingError, cache)
  | fate =>
    if cache.any fun m => hasher m.data == hasher data then
      (some .duplicate, cache)
    else
      let cached := { data, cachedAt := now, own := true } :: cache
      match fate with
      | .insufficientPeers => (some .insufficientPeers, cache)
      | .allQueuesFull     => (some .allQueuesFull, cached)
      | _                  => (none, cached)

namespace HeartbeatInterval

-- `provider_heartbeat_interval`.
def period : DateTime :=
  30 * DateTime.nanosPerSecond

-- The next tick of a `tokio::time::Interval`. A tick more than 5 ms late counts as missed, which
-- `MissedTickBehavior::Skip` answers with the next multiple of the period.
def nextTimeout (timeout now : DateTime) : DateTime :=
  if timeout + 5000000 < now then now + period - (now - timeout) % period else timeout + period

end HeartbeatInterval

inductive HeartbeatPc
  | idle
  -- The tick that was due at this time was polled. `maybe_send_heartbeat` waits for the provider.
  | sends (due : DateTime)
  -- `run` has returned the error.
  | failed (error : PublishError)
  | panicked
deriving DecidableEq

-- The loop of `run`, as far as it sends heartbeats. One clock serves for `Instant` and for `Utc`.
structure HeartbeatLoop where
  now     : DateTime
  -- When the next tick is due.
  timeout : DateTime
  pc      : HeartbeatPc          := .idle
  -- From the latest on.
  handed  : List HandedHeartbeat := []
  cache   : List CachedMessage   := []

namespace HeartbeatLoop

-- The first tick is due at once.
def start (now : DateTime) : HeartbeatLoop where
  now
  timeout := now

inductive Label
  -- Time passes, while the loop waits for events or handles them.
  | passes (nanos : Nat)
  | tick
  | send (provider : ProviderState) (iteration : Iteration) (fate : Fate)
  -- Another peer's message arrives.
  | receives (data : List UInt8)
  -- The cache removes what is old enough.
  | expires

variable (config : ProviderConfig) (hasher : List UInt8 → UInt64) (s : HeartbeatLoop)

def hand (handed : HandedHeartbeat) (fate : Fate) (provider : ProviderState) : HeartbeatLoop :=
  let (error, cache) := Gossipsub.publish hasher s.now s.cache handed.data fate
  let pc :=
    match maybeSendHeartbeat config (fun _ => error) s.now provider with
    | none                => .panicked
    | some (.ok _)        => .idle
    | some (.error error) => .failed error
  { s with pc, cache, handed := handed :: s.handed }

def send (provider : ProviderState) (iteration : Iteration) (fate : Fate) : HeartbeatLoop :=
  match maybeSendHeartbeat config (fun _ => none) s.now provider with
  | some (.ok (some message)) =>
    match h : (message.wire iteration).encode with
    | none      => { s with pc := .panicked }
    | some data => s.hand config hasher ⟨message, iteration, data, h⟩ fate provider
  | some _ => { s with pc := .idle }
  | none   => { s with pc := .panicked }

def next : Label → Option HeartbeatLoop
  | .passes nanos => some { s with now := s.now + nanos }
  | .tick =>
    match s.pc with
    | .idle =>
      if s.timeout ≤ s.now then
        some { s with
          pc      := .sends s.timeout
          timeout := HeartbeatInterval.nextTimeout s.timeout s.now
        }
      else
        none
    | _ => none
  | .send provider iteration fate =>
    match s.pc with
    | .sends _ => some <| s.send config hasher provider iteration fate
    | _        => none
  | .receives data =>
    match s.pc with
    | .idle =>
      if s.cache.any fun m => hasher m.data == hasher data then
        some s
      else
        some { s with cache := { data, cachedAt := s.now, own := false } :: s.cache }
    | _ => none
  | .expires =>
    some { s with cache := s.cache.filter fun m => s.now - m.cachedAt < duplicateCacheTime }

abbrev step : HeartbeatLoop → Label → HeartbeatLoop → Prop :=
  ofFn <| next config hasher

-- No two heartbeats handed to gossipsub within its duplicate-cache window have the same bytes.
def Distinct : Prop :=
  s.handed.Pairwise fun m m' =>
    m.message.timestamp - m'.message.timestamp ≤ duplicateCacheTime → m.data ≠ m'.data

-- `publish` has returned `PublishError::Duplicate`, which `run` propagates.
def Killed : Prop :=
  s.pc = .failed .duplicate

end HeartbeatLoop
end Derouter
