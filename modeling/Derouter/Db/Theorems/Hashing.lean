import Mathlib
import Derouter.Db.ServiceJobs.Basic

namespace Derouter

theorem PeerId.toBytes_inj {p q : PeerId} (h : p.toBytes = q.toBytes) : p = q := by
  cases p
  cases q
  exact congrArg PeerId.mk h

namespace JobHashingPayload

variable {p q : JobHashingPayload}

-- The bytes of each update of the hasher.
def updates (job : JobHashingPayload) : List (List UInt8) := [
  job.consumerPeerId.toBytes,
  job.providerPeerId.toBytes,
  Hex.bytes job.protocolId,
  Hex.bytes job.offerPayload,
  Hex.bytes job.currency,
  Hex.bytes job.providerJobId,
  Hex.bytes (toString job.jobCreatedAtSync),
  Hex.bytes job.jobPublicPayload,
  Hex.bytes (toString job.jobCompletedAtSync)
] ++ (job.balanceDelta.map Hex.bytes).toList

theorem flatten_updates (job : JobHashingPayload) : job.updates.flatten = job.bytes := by
  cases h : job.balanceDelta <;> simp [updates, bytes, h]

theorem updates_inj (h : p.updates = q.updates) : p = q := by
  obtain ⟨c, v, o, l, u, j, t, b, t', d⟩ := p
  obtain ⟨c', v', o', l', u', j', t₁, b', t₁', d'⟩ := q
  simp only [updates, List.cons_append, List.nil_append, List.cons.injEq] at h
  obtain ⟨hc, hv, ho, hl, hu, hj, ht, hb, ht', hd⟩ := h
  have hd : d = d' := by
    cases d <;> cases d'
    case none.none => rfl
    case none.some => contradiction
    case some.none => contradiction
    case some.some => exact congrArg some <| Hex.bytes_inj (List.cons.inj hd).1
  rw [PeerId.toBytes_inj hc, PeerId.toBytes_inj hv, Hex.bytes_inj ho, Hex.bytes_inj hl,
    Hex.bytes_inj hu, Hex.bytes_inj hj, Int.repr_inj.mp (Hex.bytes_inj ht), Hex.bytes_inj hb,
    Int.repr_inj.mp (Hex.bytes_inj ht'), hd]

-- The updates of two payloads have the same lengths one by one.
def SameLengths (p q : JobHashingPayload) : Prop :=
  p.updates.map List.length = q.updates.map List.length

-- Two payloads that are hashed alike are the same exactly if no boundary between their fields has
-- moved.
theorem eq_iff_sameLengths (h : p.bytes = q.bytes) : p = q ↔ p.SameLengths q := by
  constructor
  case mp => exact fun he => he ▸ rfl
  case mpr =>
    intro hl
    rw [← flatten_updates, ← flatten_updates] at h
    exact updates_inj <| List.eq_iff_flatten_eq.mpr ⟨h, hl⟩

-- What is hashed for a job: the timestamps are of 64 bits, and a balance delta was accepted before it
-- was encoded.
structure Hashed (ext : External) (p : JobHashingPayload) : Prop where
  jobCreatedAtSync   : p.jobCreatedAtSync.bmod UInt64.size = p.jobCreatedAtSync
  jobCompletedAtSync : p.jobCompletedAtSync.bmod UInt64.size = p.jobCompletedAtSync
  balanceDelta       : ∀ delta, p.balanceDelta = some delta →
    ∃ s, validateBalanceDelta ext s .polygon = true ∧ delta = Hex.encodeString s

private def ofOffer (protocolId offerPayload : String) : JobHashingPayload where
  consumerPeerId     := ⟨[1]⟩
  providerPeerId     := ⟨[0]⟩
  protocolId         := protocolId
  offerPayload       := offerPayload
  currency           := Currency.polygon.code
  providerJobId      := "job"
  jobCreatedAtSync   := 0
  jobPublicPayload   := "done"
  jobCompletedAtSync := 1
  balanceDelta       := none

private theorem ofOffer_hashed {o l : String} : (ofOffer o l).Hashed .sample where
  jobCreatedAtSync   := rfl
  jobCompletedAtSync := rfl
  balanceDelta       := nofun

-- The boundary between the protocol ID and the payload of the offer moves.
private theorem ofOffer_bytes : (ofOffer "ab" "c").bytes = (ofOffer "a" "bc").bytes := by
  decide +kernel

theorem eq_iff_sameLengths_sample :
    (ofOffer "ab" "c").bytes = (ofOffer "a" "bc").bytes ∧
      ¬(ofOffer "ab" "c").SameLengths (ofOffer "a" "bc") :=
  ⟨ofOffer_bytes, fun h => absurd ((eq_iff_sameLengths ofOffer_bytes).mpr h) (by decide)⟩

theorem not_bytes_inj : ¬∀ (ext : External) (p q : JobHashingPayload), p.Hashed ext → q.Hashed ext →
    p.bytes = q.bytes → p = q := by
  intro h
  have he : ofOffer "ab" "c" = ofOffer "a" "bc" :=
    h .sample _ _ ofOffer_hashed ofOffer_hashed ofOffer_bytes
  exact absurd (congrArg protocolId he) (by decide)

end JobHashingPayload
end Derouter
