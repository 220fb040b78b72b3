import Derouter.Db.Theorems.Confirmed
import Derouter.JobsView.Handlers
import Derouter.NodeDatabase

open Sql Transition

namespace Derouter

variable {ext : External} {keypair : ext.Keypair} {db db' : Database}

-- The hash of a completed row as the Consumer stores it, with its balance delta in hex.
def JobJoin.consumerHash (ext : External) (j : JobJoin) : Option (List UInt8) :=
  match j.job.publicPayload, j.job.completedAtSync with
  | some publicPayload, some completedAtSync => some <| hashJob ext <|
      j.hashingPayload publicPayload completedAtSync j.job.balanceDelta
  | _, _ => none

-- A row that its Consumer, who has the key, has completed.
structure JobJoin.Settled (ext : External) (keypair : ext.Keypair) (j : JobJoin) : Prop where
  reason            : j.job.reason = none
  completedAtLocal  : j.job.completedAtLocal.isSome
  completedAtSync   : j.job.completedAtSync.isSome
  publicPayload     : j.job.publicPayload.isSome
  hash              : j.job.hash = j.consumerHash ext
  consumerSignature : j.job.consumerSignature = j.job.hash.map (ext.sign keypair)

-- What may become of a joined row by a write of the node.
structure JobJoin.Becomes (ext : External) (keypair : ext.Keypair) (j j' : JobJoin) : Prop where
  rowid    : j'.rowid = j.rowid
  snapshot : j.snapshot.SameKey j'.snapshot
  job      : j'.job = j.job ∨ ∃ op : JobOp, op.Local (ext.peerId keypair) ∧
    (op.ConfirmsAsProvider → j.snapshot.providerPeerId = ext.peerId keypair) ∧
    (op.CompletesAsConsumer → j'.Settled ext keypair) ∧ j.job.Change op j'.job

namespace JobJoin

variable {j j' : JobJoin}

theorem consumerHash_congr (ht : j.job.SameTerms j'.job) (hk : j.snapshot.SameKey j'.snapshot) :
    j.consumerHash ext = j'.consumerHash ext := by
  simp only [consumerHash, hashingPayload, ht.consumerPeerId, ht.currency, ht.providerJobId,
    ht.createdAtSync, ht.completedAtSync, ht.publicPayload, ht.balanceDelta, hk.protocolPayload,
    hk.sameOffer.1, hk.sameOffer.2.1]

theorem Settled.hash_isSome (h : j.Settled ext keypair) : j.job.hash.isSome := by
  obtain ⟨pub, hp⟩ := Option.isSome_iff_exists.mp h.publicPayload
  obtain ⟨t, ht⟩ := Option.isSome_iff_exists.mp h.completedAtSync
  simp [h.hash, consumerHash, hp, ht]

theorem Settled.consumerSignature_isSome (h : j.Settled ext keypair) :
    j.job.consumerSignature.isSome := by
  rw [h.consumerSignature, Option.isSome_map]
  exact h.hash_isSome

namespace Becomes

theorem provider (h : j.Becomes ext keypair j') :
    j'.snapshot.providerPeerId = j.snapshot.providerPeerId :=
  h.snapshot.sameOffer.1.symm

theorem evolves (h : j.Becomes ext keypair j') : j.job.Evolves (ext.peerId keypair) j'.job := by
  cases h.job
  case inl h => exact .inl h
  case inr h =>
    obtain ⟨op, hl, _, _, hc⟩ := h
    exact .inr ⟨op, hl, hc⟩

end Becomes
end JobJoin

theorem consumerCompleteJob_joined {j' : JobJoin}
    (h : consumerCompleteJob ext plan now db consumer provider jobId delta pub priv t
      (ext.sign keypair) = .ok (db', record)) (hj : j' ∈ db'.joined) :
    j' ∈ db.joined ∨ j'.Settled ext keypair := by
  obtain ⟨j, hj', _, hr, _, _, hash, u, hh, hu, _, rfl⟩ := consumerCompleteJob_ok h
  obtain ⟨r, hm, hc⟩ := Database.mem_joined_updateJob hj
  cases hc
  case inr hc =>
    obtain rfl := hc.2
    exact .inl hm
  case inl hc =>
    obtain ⟨hi, hc⟩ := hc
    obtain ⟨hr', hs'⟩ := Database.mem_joined_iff.mp hm
    have hb := Database.jobById_row hj'
    rw [← hi] at hb
    obtain rfl := Option.some.inj (hr'.symm.trans hb)
    have hs := Database.jobById_snapshot hj'
    have he : j'.snapshot = j.snapshot := Option.some.inj (hs'.symm.trans hs)
    refine .inr ?_
    subst hu hh
    constructor <;> rw [hc]
    case reason           => exact hr
    case completedAtLocal => rfl
    case completedAtSync  => rfl
    case publicPayload    => rfl
    case hash =>
      simp only [JobUpdate.consumerComplete, JobJoin.consumerHash, JobJoin.hashingPayload, hc, he]
    case consumerSignature => rfl

theorem JobOp.Turns.becomes {op : JobOp} {j j' : JobJoin} (h : op.Turns db j j') (hj : j ∈ db.joined)
    (hj' : j' ∈ (op.exec ext db).1.joined) (hl : op.Local (ext.peerId keypair))
    (hs : op.SignsWith ext keypair) : j.Becomes ext keypair j' where
  rowid    := h.rowid
  snapshot := h.snapshot ▸ .refl _
  job      := by
    cases h.job
    case inl he => exact .inl he
    case inr hc =>
      have hp : op.ConfirmsAsProvider → j.snapshot.providerPeerId = ext.peerId keypair := by
        intro hp
        by_contra hn
        exact not_confirmsAsProvider hj hn hl hc.1 hp
      by_cases hn : op.CompletesAsConsumer
      case neg => exact .inr ⟨op, hl, hp, fun h => absurd h hn, hc.2⟩
      case pos =>
        have hm : j' ∈ db.joined ∨ j'.Settled ext keypair := by
          cases op <;> try contradiction
          case consumerComplete sign =>
          obtain rfl : sign = ext.sign keypair := hs
          simp only [exec] at hj'
          split at hj'
          case h_1 ho => exact consumerCompleteJob_joined ho hj'
          case h_2    => exact .inl hj'
        cases hm
        case inl hm => exact .inl <| Database.joined_inj hm hj h.rowid ▸ rfl
        case inr hm => exact .inr ⟨op, hl, hp, fun _ => hm, hc.2⟩

namespace NodeDatabase

-- A write of the node, whatever makes it.
inductive Write (ext : External) (keypair : ext.Keypair) (db : Database) : Database → Prop
  | kept {db' : Database} (h : db.KeepsJobs db') : Write ext keypair db db'
  | executed (op : JobOp) (hl : op.Local (ext.peerId keypair)) (hs : op.SignsWith ext keypair) :
    Write ext keypair db (op.exec ext db).1

namespace Write

theorem joined {j : JobJoin} (h : Write ext keypair db db') (hj : j ∈ db.joined) :
    ∃ j' ∈ db'.joined, j.Becomes ext keypair j' := by
  cases h
  case kept h =>
    obtain ⟨j', hj', hi, he, hk⟩ := h.joined hj
    exact ⟨j', hj', hi, hk, .inl he⟩
  case executed op hl hs =>
    obtain ⟨j', hj', ht⟩ := op.exec_joined ext hj
    exact ⟨j', hj', ht.becomes hj hj' hl hs⟩

theorem joined_cases {j' : JobJoin} (h : Write ext keypair db db') (hj : j' ∈ db'.joined) :
    j'.job.New ∨ ∃ j ∈ db.joined, j.Becomes ext keypair j' := by
  cases h
  case kept h =>
    obtain ⟨j, hj₀, hi, he, hk⟩ := h.joined_cases hj
    exact .inr ⟨j, hj₀, hi, hk, .inl he⟩
  case executed op hl hs =>
    cases op.exec_joined_cases hj
    case inl h => exact .inl h.2
    case inr h =>
      obtain ⟨j, hj₀, ht⟩ := h
      exact .inr ⟨j, hj₀, ht.becomes hj₀ hj hl hs⟩

theorem all {P : JobJoin → Prop} (h : Write ext keypair db db') (ha : ∀ j ∈ db.joined, P j)
    (hn : ∀ j, j.job.New → P j) (hs : ∀ j j', P j → j.Becomes ext keypair j' → P j') :
    ∀ j ∈ db'.joined, P j := by
  intro j' hj'
  cases h.joined_cases hj'
  case inl h' => exact hn j' h'
  case inr h' =>
    obtain ⟨j, hj, hb⟩ := h'
    exact hs j j' (ha j hj) hb

end Write

variable {op : DatabaseOp} {tr : List (Database × DatabaseOp)} {i : Rowid}

theorem step_write (h : step ext keypair db op db') : Write ext keypair db db' := by
  obtain ⟨hn, rfl⟩ := h
  cases op
  case job op => exact .executed op hn.1 hn.2
  case upsert =>
    simp only [DatabaseOp.exec]
    split
    case h_1 h => exact .kept (.upsert h)
    case h_2   => exact .kept .refl
  case heartbeat =>
    simp only [DatabaseOp.exec]
    split
    case h_1 h => exact .kept (.heartbeat h)
    case h_2   => exact .kept .refl

theorem run_foldl (ops : List DatabaseOp) (h : ∀ op ∈ ops, op.OfNode ext keypair) :
    ∃ tr, Run (step ext keypair) db tr (ops.foldl (fun db op => op.exec ext db) db) := by
  induction ops generalizing db
  case nil => exact ⟨[], .nil⟩
  case cons op ops hi =>
    obtain ⟨ho, hs⟩ := List.forall_mem_cons.mp h
    obtain ⟨tr, r⟩ := hi hs
    exact ⟨_, .cons ⟨ho, rfl⟩ r⟩

theorem run_all {P : JobJoin → Prop} (r : Run (step ext keypair) db tr db')
    (h : ∀ j ∈ db.joined, P j) (hn : ∀ j, j.job.New → P j)
    (hs : ∀ j j', P j → j.Becomes ext keypair j' → P j') : ∀ j ∈ db'.joined, P j :=
  r.invariant (I := fun db => ∀ j ∈ db.joined, P j) h fun _ _ _ h e => (step_write e).all h hn hs

theorem run_row {P : JobJoin → Prop} (r : Run (step ext keypair) db tr db') {j : JobJoin}
    (hj : j ∈ db.joined) (h : P j) (hs : ∀ j j', P j → j.Becomes ext keypair j' → P j') :
    ∃ j' ∈ db'.joined, j'.rowid = j.rowid ∧ P j' := by
  refine r.invariant (I := fun db => ∃ j' ∈ db.joined, j'.rowid = j.rowid ∧ P j')
    ⟨j, hj, rfl, h⟩ fun db op db' h e => ?_
  obtain ⟨j₁, hj₁, hi, hp⟩ := h
  obtain ⟨j₂, hj₂, hb⟩ := (step_write e).joined hj₁
  exact ⟨j₂, hj₂, hb.rowid.trans hi, hs j₁ j₂ hp hb⟩

end NodeDatabase
end Derouter
