import Mathlib.Data.Finset.Erase
import Mathlib.Data.Finset.Insert
import Derouter.JobsView

open Sql Transition

namespace Derouter

-- The discovered peers, next to their addresses.
abbrev Peers := HashMap PeerId (Finset String)

namespace Peers

def Knows (peers : Peers) (peerId : PeerId) : Prop :=
  (peers.lookup peerId).isSome

instance {peers : Peers} : Decidable (peers.Knows peerId) :=
  inferInstanceAs <| Decidable ((peers.lookup peerId).isSome = true)

-- Add the addresses to discovered peers.
def discovered (peers : Peers) (items : List (PeerId × String)) : Peers :=
  items.foldl (fun peers (peerId, address) =>
    peers.insert peerId (insert address ((peers.lookup peerId).getD ∅))) peers

-- Remove the addresses from discovered peers. A peer that is not there makes it panic, with the
-- addresses before it removed.
def expired : Peers → List (PeerId × String) → Peers × Bool
  | peers, [] => (peers, true)
  | peers, (peerId, address) :: items =>
    match peers.lookup peerId with
    | none => (peers, false)
    | some set =>
      let set := set.erase address
      expired (if set = ∅ then peers.erase peerId else peers.insert peerId set) items

-- The peers of a discovery that were not there before.
def newcomers (peers : Peers) (items : List (PeerId × String)) : List PeerId :=
  (items.map (·.1)).filter (¬peers.Knows ·)

end Peers

-- A future of `tokio::sync::Notify::notified`, unless it is still to be created.
inductive Notified
  | absent
  | waiting
  | woken
deriving DecidableEq

-- It wakes the future that exists, and stores no permit for one that does not.
def Notified.notifyWaiters : Notified → Notified
  | absent  => absent
  | waiting => woken
  | woken   => woken

inductive JobConfirmationLoop
  -- It is about to lock the database for the query.
  | queries
  -- It holds the database, and has these jobs of the query left.
  | checks (jobs : List UnconfirmedJob)
  -- It has found the provider of the job, for which it is about to spawn `confirm_job`.
  | spawns (job : UnconfirmedJob) (jobs : List UnconfirmedJob)
  -- In the `select!`, which creates the future of the completions before that of the peers.
  | selects (completion peers : Notified)
  | ended
deriving DecidableEq

namespace JobConfirmationLoop

-- It holds the database.
def scans : JobConfirmationLoop → Bool
  | checks _   => true
  | spawns _ _ => true
  | _          => false

def completion : JobConfirmationLoop → Notified
  | selects c _ => c
  | _           => .absent

def peers : JobConfirmationLoop → Notified
  | selects _ p => p
  | _           => .absent

def notifyCompletion : JobConfirmationLoop → JobConfirmationLoop
  | selects c p => selects c.notifyWaiters p
  | l           => l

def notifyPeers : JobConfirmationLoop → JobConfirmationLoop
  | selects c p => selects c p.notifyWaiters
  | l           => l

end JobConfirmationLoop

-- The event loop of the node, as far as it writes the discovered peers.
inductive EventLoop
  | idle
  -- It has written them and holds their lock. It is about to notify, with these peers new among them.
  | notifies (newcomers : List PeerId)
  | ended

def EventLoop.newcomers : EventLoop → List PeerId
  | notifies peerIds => peerIds
  | _                => []

def EventLoop.isIdle : EventLoop → Bool
  | idle => true
  | _    => false

def EventLoop.locks : EventLoop → Bool
  | notifies _ => true
  | _          => false

structure Scheduler where
  node      : Node
  peers     : Peers                   := ∅
  loop      : JobConfirmationLoop     := .queries
  events    : EventLoop               := .idle
  -- The job that the holder of the database has completed, and is still to notify of.
  committed : Option Rowid            := none
  -- The jobs for which a `confirm_job` has been spawned since they were completed, next to their
  -- providers, since these were discovered.
  spawned   : List (Rowid × PeerId)   := []

namespace Scheduler

def start (node : Node) : Scheduler where
  node := node

variable (s : Scheduler)

def dbLocked : Bool :=
  s.committed.isSome || s.loop.scans

-- The job that a handler has completed for a module of the Consumer. It goes on to notify of it.
def completedJob? : Handler → List RpcEvent → Option Rowid
  | .consumerCompleteJob .., [.jobUpdated jobRecord] => some jobRecord.jobRowid
  | _, _                                             => none

inductive Label
  -- The steps of the loop.
  | query (plan : Plan JobJoin)
  | check
  | spawn
  | endScan
  | notified
  | wake
  | shutdown
  -- A handler takes its turn on the database. One that completes a job notifies before it lets go.
  | handle (handler : Handler)
  | notifyCompletion
  -- The mDNS events.
  | discovered (items : List (PeerId × String))
  | expired (items : List (PeerId × String))
  | notifyPeers

def next (ext : External) (keypair : ext.Keypair) : Label → Option Scheduler
  | .query plan =>
    match s.loop, s.committed with
    | .queries, none =>
      match queryUnconfirmedJobs plan s.node.db (ext.peerId keypair) with
      | none      => some { s with loop := .ended }
      | some jobs => some { s with loop := .checks jobs }
    | _, _ => none
  | .check =>
    match s.loop with
    | .checks (job :: jobs) =>
      if s.events.locks then
        none
      else if s.peers.Knows job.providerPeerId then
        some { s with loop := .spawns job jobs }
      else
        some { s with loop := .checks jobs }
    | _ => none
  | .spawn =>
    match s.loop with
    | .spawns job jobs => some { s with
        loop    := .checks jobs
        spawned := (job.rowid, job.providerPeerId) :: s.spawned
      }
    | _ => none
  | .endScan =>
    match s.loop with
    | .checks [] => some { s with loop := .selects .absent .absent }
    | _          => none
  | .notified =>
    match s.loop with
    | .selects .absent .absent => some { s with loop := .selects .waiting .absent }
    | .selects c .absent       => some { s with loop := .selects c .waiting }
    | _                        => none
  | .wake =>
    match s.loop with
    | .selects c p =>
      if p ≠ .absent ∧ (c = .woken ∨ p = .woken) then some { s with loop := .queries } else none
    | _ => none
  | .shutdown =>
    match s.loop with
    | .selects _ p => if p ≠ .absent then some { s with loop := .ended } else none
    | _            => none
  | .handle handler =>
    if s.dbLocked then
      none
    else
      let (node, events) := s.node.handle ext keypair handler
      let committed := completedJob? handler events
      some { s with
        node
        committed
        spawned := s.spawned.filter (some ·.1 ≠ committed)
      }
  | .notifyCompletion =>
    if s.committed.isSome then
      some { s with committed := none, loop := s.loop.notifyCompletion }
    else
      none
  | .discovered items =>
    if s.events.isIdle then
      let newcomers := s.peers.newcomers items
      some { s with
        peers   := s.peers.discovered items
        events  := .notifies newcomers
        spawned := s.spawned.filter (·.2 ∉ newcomers)
      }
    else
      none
  | .expired items =>
    if s.events.isIdle then
      match s.peers.expired items with
      | (peers, true)  => some { s with peers, events := .notifies [] }
      | (peers, false) => some { s with peers, events := .ended }
    else
      none
  | .notifyPeers =>
    if s.events.locks then
      some { s with events := .idle, loop := s.loop.notifyPeers }
    else
      none

abbrev step (ext : External) (keypair : ext.Keypair) : Scheduler → Label → Scheduler → Prop :=
  ofFn fun s l => s.next ext keypair l

-- The loop waits, and no wake-up is pending.
structure Parked : Prop where
  loop      : s.loop = .selects .waiting .waiting
  committed : s.committed = none
  events    : s.events.locks = false

-- While the loop is parked, each unconfirmed job of a discovered provider has had its `confirm_job`.
def Confirms (ourPeerId : PeerId) : Prop :=
  s.Parked → ∀ plan jobs, queryUnconfirmedJobs plan s.node.db ourPeerId = some jobs →
    ∀ job ∈ jobs, s.peers.Knows job.providerPeerId →
      (job.rowid, job.providerPeerId) ∈ s.spawned

end Scheduler
end Derouter
