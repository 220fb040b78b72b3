import Derouter.Db.Theorems.Joined
import Derouter.JobsView
import Derouter.P2p.Theorems.Reqres
import Derouter.P2p.Theorems.Sync
import Derouter.Rpc.Theorems.Provide

open Sql

namespace Derouter

-- The jobs stay, and so does what identifies a snapshot.
structure Database.KeepsJobs (db db' : Database) : Prop where
  serviceJobs : db'.serviceJobs = db.serviceJobs
  snapshots   : ∀ i s, db.offerSnapshots.get? i = some s →
    ∃ s', db'.offerSnapshots.get? i = some s' ∧ s.SameKey s'

def Handler.CompletesAsConsumer : Handler → Prop
  | consumerCompleteJob .. => True
  | _                      => False

namespace Database.KeepsJobs

variable {db db' : Database}

theorem refl : db.KeepsJobs db where
  serviceJobs := rfl
  snapshots   := fun _ s hs => ⟨s, hs, .refl s⟩

theorem upsert {plan : Plan (Rowid × OfferSnapshotRow)}
    (h : Derouter.upsert plan db p o q l = some (i, db')) : db.KeepsJobs db' where
  serviceJobs := upsert_serviceJobs h
  snapshots   := fun _ _ hs => upsert_keeps h hs

theorem heartbeat {plan : Plan (Rowid × OfferSnapshotRow)} {message : Heartbeat}
    (h : handleHeartbeat plan visits now db source message = some (.ok (events, db'))) :
    db.KeepsJobs db' := by
  obtain ⟨r, hr, hh⟩ : ∃ r, handleHeartbeat plan visits now db source message = some r ∧
      Handled db source message r := handleHeartbeat_handled
  obtain rfl := Option.some.inj (h.symm.trans hr)
  cases hh
  case ignored       => exact .refl
  case stored _ _ hs => exact ⟨hs.frame.serviceJobs, hs.frame.snapshotsKeep⟩

theorem joined (h : db.KeepsJobs db') {j : JobJoin} (hj : j ∈ db.joined) :
    ∃ j' ∈ db'.joined, j'.rowid = j.rowid ∧ j'.job = j.job ∧ j.snapshot.SameKey j'.snapshot := by
  obtain ⟨hr, hs⟩ := mem_joined_iff.mp hj
  obtain ⟨s', hs', hk⟩ := h.snapshots _ _ hs
  exact ⟨⟨j.rowid, j.job, s'⟩, mem_joined_iff.mpr ⟨h.serviceJobs ▸ hr, hs'⟩, rfl, rfl, hk⟩

theorem joined_cases (h : db.KeepsJobs db') {j' : JobJoin} (hj : j' ∈ db'.joined) :
    ∃ j ∈ db.joined, j'.rowid = j.rowid ∧ j'.job = j.job ∧ j.snapshot.SameKey j'.snapshot := by
  obtain ⟨hr, hs'⟩ := mem_joined_iff.mp hj
  rw [h.serviceJobs] at hr
  obtain ⟨s, hs⟩ := db.jobSnapshot hr
  obtain ⟨s'', hs'', hk⟩ := h.snapshots _ _ hs
  obtain rfl := Option.some.inj (hs''.symm.trans hs')
  exact ⟨⟨j'.rowid, j'.job, s⟩, mem_joined_iff.mpr ⟨hr, hs⟩, rfl, rfl, hk⟩

end Database.KeepsJobs

variable {ext : External} {keypair : ext.Keypair} {self : PeerId} {node : Node}

theorem confirmJob_offerSnapshots {db db' : Database} {job : UnconfirmedJob}
    (h : confirmJob now db job response = some db') : db'.offerSnapshots = db.offerSnapshots := by
  rcases confirmJob_exec .sample h with rfl | ⟨_, rfl⟩ | ⟨_, rfl⟩
  · rfl
  · exact JobOp.exec_offerSnapshots _
  · exact JobOp.exec_offerSnapshots _

-- The two things that a handler can do to the database.
inductive Database.Advances (ext : External) (self : PeerId) (completes : Prop) (db : Database) :
    Database → Prop
  | kept (h : db.KeepsJobs db') : Advances ext self completes db db'
  | executed (op : JobOp) (hl : op.Local self) (hc : op.CompletesAsConsumer → completes) :
    Advances ext self completes db (op.exec ext db).1

namespace Database.Advances

variable {db db' : Database} {completes : Prop}

theorem createJob {i : Rowid}
    (h : Derouter.createJob now db k consumer currency args jobId t = some (i, db')) :
    db.Advances ext self completes db' := by
  have he : ((JobOp.create now k consumer currency args jobId t).exec ext db).1 = db' := by
    simp only [JobOp.exec, h]
  exact he ▸ .executed _ trivial False.elim

theorem createJobRequest {request : CreateJobRequest}
    (h : handleCreateJobRequest now later uuid reply db provider consumer request =
      some (response, db')) : db.Advances ext self completes db' := by
  cases handleCreateJobRequest_cases h
  case inl h => exact h.1 ▸ .kept .refl
  case inr h =>
    obtain ⟨_, _, _, _, _, h⟩ := h
    exact createJob h

theorem confirmJobRequest {request : ConfirmJobRequest} :
    db.Advances ext self completes
      (handleConfirmJobRequest ext plan now self db consumer request).2 := by
  cases handleConfirmJobRequest_db request
  case inl h => exact h ▸ .executed _ rfl False.elim
  case inr h =>
    obtain ⟨i, error, h⟩ := h
    exact h ▸ .executed _ trivial False.elim

theorem confirmJob {job : UnconfirmedJob} (h : Derouter.confirmJob now db job response = some db') :
    db.Advances ext self completes db' := by
  rcases confirmJob_exec ext h with rfl | ⟨_, rfl⟩ | ⟨_, rfl⟩
  · exact .kept .refl
  · exact .executed _ trivial False.elim
  · exact .executed _ trivial False.elim

theorem perform (action : Node.Action) :
    node.db.Advances ext self completes (node.perform ext self action).db := by
  cases action
  case provide plan now c request =>
    have hc : handleProviderProvideRequest plan now self node c request =
      (_, node.perform ext self (.provide plan now c request)) := rfl
    cases handleProviderProvideRequest_cases hc
    case inl h => exact h.1 ▸ .kept .refl
    case inr h =>
      obtain ⟨_, _, hu, _⟩ := h
      exact .kept (.upsert hu)
  case close now c =>
    rw [Node.perform, closeConnection_db]
    exact .kept .refl
  case restart => exact .kept .refl
  case createJob =>
    simp only [Node.perform]
    split
    case h_2 => exact .kept .refl
    case h_1 hc => exact createJobRequest hc
  case providerCompleteJob => exact .executed _ trivial False.elim
  case failJob             => exact .executed _ trivial False.elim
  case confirmJob          => exact confirmJobRequest

theorem joined (h : db.Advances ext self completes db') {j : JobJoin} (hj : j ∈ db.joined) :
    ∃ j' ∈ db'.joined, j'.rowid = j.rowid ∧ j.job.SameJob j'.job ∧
      j.snapshot.SameKey j'.snapshot := by
  cases h
  case kept h =>
    obtain ⟨j', hj', hi, he, hk⟩ := h.joined hj
    exact ⟨j', hj', hi, he ▸ .refl _, hk⟩
  case executed op _ _ =>
    obtain ⟨j', hj', ht⟩ := op.exec_joined ext hj
    exact ⟨j', hj', ht.rowid, ht.sameJob, ht.snapshot ▸ .refl _⟩

theorem joined_cases (h : db.Advances ext self completes db') {j' : JobJoin} (hj : j' ∈ db'.joined) :
    db.serviceJobs.get? j'.rowid = none ∨ ∃ j ∈ db.joined, j'.rowid = j.rowid ∧
      j.job.SameJob j'.job ∧ j.snapshot.SameKey j'.snapshot := by
  cases h
  case kept h =>
    obtain ⟨j, hj₀, hi, he, hk⟩ := h.joined_cases hj
    exact .inr ⟨j, hj₀, hi, he ▸ .refl _, hk⟩
  case executed op _ _ =>
    cases op.exec_joined_cases hj
    case inl hn => exact .inl (hn.1 ▸ Table.get?_nextRowid)
    case inr hj =>
      obtain ⟨j, hj₀, ht⟩ := hj
      exact .inr ⟨j, hj₀, ht.rowid, ht.sameJob, ht.snapshot ▸ .refl _⟩

theorem hasJob (h : db.Advances ext self completes db') (hj : db.HasJob provider jobId) :
    db'.HasJob provider jobId := by
  obtain ⟨j, hj, hp, hi⟩ := hj
  obtain ⟨j', hj', _, hb, hk⟩ := h.joined hj
  exact ⟨j', hj', hk.sameOffer.1 ▸ hp, hb.providerJobId ▸ hi⟩

theorem handle (handler : Handler) : node.db.Advances ext (ext.peerId keypair)
    handler.CompletesAsConsumer (node.handle ext keypair handler).1.db := by
  cases handler
  case provider action => exact perform action
  case heartbeat =>
    simp only [Node.handle]
    split
    case h_1 h => exact .kept (.heartbeat h)
    case h_2   => exact .kept .refl
  case consumerCreateJob =>
    simp only [Node.handle]
    split
    case h_2 => exact .kept .refl
    case h_1 h =>
      simp only [Derouter.consumerCreateJob] at h
      split at h <;> try contradiction
      exact createJob h
  case consumerCompleteJob plan now provider jobId delta pub priv t =>
    have he : ((JobOp.consumerComplete plan now (ext.peerId keypair) provider jobId delta pub priv t
        (ext.sign keypair)).exec ext node.db).1 = (node.handle ext keypair
          (.consumerCompleteJob plan now provider jobId delta pub priv t)).1.db := by
      simp only [JobOp.exec, Node.handle]
      split <;> simp_all
    exact he ▸ .executed _ rfl fun _ => trivial
  case confirmJob =>
    simp only [Node.handle]
    split
    case h_1 h => exact confirmJob h
    case h_2   => exact .kept .refl

end Database.Advances
end Derouter
