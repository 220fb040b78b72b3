import Derouter.ConsumerView.Requests
import Derouter.Parties.Rows

open Noninterference Sql

namespace Derouter

variable {ext : External} {keypair : ext.Keypair} {db db' : Database} {self consumer : PeerId}

namespace Database.Elsewhere

theorem of_own (hj : db'.serviceJobs = db.serviceJobs)
    (ho : ∀ i s, s.providerPeerId = self →
      (db'.offerSnapshots.get? i = some s ↔ db.offerSnapshots.get? i = some s)) :
    db.Elsewhere self consumer db' := by
  have hm {j : JobJoin} (hp : j.snapshot.providerPeerId = self) :
      j ∈ db'.joined ↔ j ∈ db.joined := by
    rw [mem_joined_iff, mem_joined_iff, hj, ho _ _ hp]
  constructor
  case own  => exact ho
  case jobs =>
    intro t ht
    constructor
    case mp =>
      rintro ⟨j, h, rfl⟩
      exact ⟨j, (hm ht.providerPeerId).mp h, rfl⟩
    case mpr =>
      rintro ⟨j, h, rfl⟩
      exact ⟨j, (hm ht.providerPeerId).mpr h, rfl⟩
  case ids =>
    rintro jobId ⟨j, h, hp, hi⟩
    exact ⟨j, (hm hp).mpr h, hp, hi⟩
  case distinct =>
    intro hd j h j' h' hp hp'
    exact hd j ((hm hp).mp h) j' ((hm hp').mp h') hp hp'

theorem heartbeat {plan : Plan (Rowid × OfferSnapshotRow)} {message : Heartbeat}
    (h : handleHeartbeat plan visits now db source message = some (.ok (events, db')))
    (hn : source ≠ self) : db.Elsewhere self consumer db' := by
  obtain ⟨r, hr, hh⟩ : ∃ r, handleHeartbeat plan visits now db source message = some r ∧
      Handled db source message r := handleHeartbeat_handled
  obtain rfl := Option.some.inj (h.symm.trans hr)
  cases hh
  case ignored       => exact .refl
  case stored _ _ hs =>
    refine .of_own hs.frame.serviceJobs fun i s hp => hs.frame.snapshotsOthers i s ?_
    exact hp.trans_ne hn.symm

theorem createJob {node : Node} {request : CreateJobRequest} (hn : ¬node.db.HasJob self uuid)
    (hb : node.Backed self) (hc : fromPeerId ≠ consumer) :
    node.db.Elsewhere self consumer (node.perform ext self
      (.createJob now later uuid reply fromPeerId request)).db := by
  simp only [Node.perform]
  split
  case h_2   => exact .refl
  case h_1 h =>
    cases handleCreateJobRequest_cases h
    case inl h => exact h.1 ▸ .refl
    case inr h =>
      obtain ⟨offer, i, hf, _, _, hj⟩ := h
      obtain ⟨s, hs, _⟩ := hb _ _ _ _ <| ProviderState.held_of_findOffer hf
      exact (Adds.create hj hs).elsewhere (fun ho => hc ho.consumerPeerId) fun _ => hn

theorem confirmJob (hc : fromPeerId ≠ consumer) (plan : Plan JobJoin) (now : DateTime)
    (request : ConfirmJobRequest) : db.Elsewhere self consumer
      (handleConfirmJobRequest ext plan now self db fromPeerId request).2 := by
  rw [handleConfirmJobRequest_amend]
  dsimp only
  refine .amend (fun _ _ h => (JobContent.confirmed_eq_some h).1) fun j u _ h ho => hc ?_
  exact (JobContent.confirmed_eq_some h).2.symm.trans ho.consumerPeerId

theorem consumerConfirmJob {job : UnconfirmedJob}
    (h : Derouter.confirmJob now db job response = some db')
    (hn : ∀ j ∈ db.joined, j.rowid = job.rowid → j.snapshot.providerPeerId ≠ self) :
    db.Elsewhere self consumer db' := by
  have ho : ∀ j ∈ db.joined, j.rowid = job.rowid → ¬j.content.Of consumer self :=
    fun j hj hi ho => hn j hj hi ho.providerPeerId
  rcases confirmJob_exec .sample h with rfl | ⟨_, rfl⟩ | ⟨error, rfl⟩
  · exact .refl
  · simp only [JobOp.exec]
    split
    case h_2    => exact .refl
    case h_1 hc =>
      obtain ⟨_, _, _, _, _, rfl⟩ := consumerConfirmJob_ok hc
      exact .updateJob .consumerConfirm ho
  · simp only [JobOp.exec]
    rcases setJobConfirmationError_cases db job.rowid error with ⟨e, he, h⟩ | ⟨_, _, _, h⟩
    · rw [h]
      cases e <;> exact .refl
    · rw [h]
      exact .updateJob .setConfirmationError ho

end Database.Elsewhere

namespace ConsumerView

variable {node node' : Node} {l : PeerView.Label}

variable {s s' : NodeProcess}

theorem Alike.start {db : Database} (ho : db.OwnActive self) (hd : db.DistinctJobIds self) :
    Alike self consumer (.start db now) (.start db now) := by
  have hs : Sound self (.start db now) := ⟨.start, ho, hd, fun _ _ _ _ hh => nomatch hh⟩
  constructor
  case sound  => exact hs
  case sound' => exact hs
  all_goals intros; first | rfl | assumption

end ConsumerView
end Derouter
