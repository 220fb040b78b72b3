import Derouter.Parties.Rows

open Sql Transition

namespace Derouter

def Database.Confirmed (db : Database) (i : Rowid) : Prop :=
  ∃ r, db.serviceJobs.get? i = some r ∧ r.signatureConfirmedAtLocal.isSome

theorem Database.Moves.confirmed {self : PeerId} {db db' : Database} (h : db.Moves self db')
    (hc : db.Confirmed i) : db'.Confirmed i := by
  have ⟨_, hr, hs⟩ := hc
  have ⟨r', hr', he⟩ := h.row hr
  exact ⟨r', hr', he.confirmed hs⟩

namespace Parties

variable {ext : External} {keypair : ext.Keypair} {provider : PeerId} {s s' : Parties} {l : Label}

-- The Consumer has confirmed every job for which it has finished with a response that tells of the
-- confirmation at the Provider.
def Reconciled (s : Parties) : Prop :=
  ∀ job response, .finished job response ∈ s.attempts →
    response = .ok ∨ response = .alreadyConfirmed → s.consumer.Confirmed job.rowid

-- An attempt finishes with a repeated confirmation, while the Consumer has not confirmed the job.
def Label.SkipsConfirmation (s : Parties) : Label → Prop
  | .finishConfirmation k _ .alreadyConfirmed =>
    ∃ job, s.attempts[k]? = some (.waiting job) ∧ ¬s.consumer.Confirmed job.rowid
  | _ => False

theorem finished_cases (h : step ext keypair provider s l s')
    (hm : .finished job response ∈ s'.attempts) :
    .finished job response ∈ s.attempts ∨
    ∃ k now, l = .finishConfirmation k now response ∧ s.attempts[k]? = some (.waiting job) ∧
      confirmJob now s.consumer job (some response) = some s'.consumer := by
  cases effect h
  case finishConfirmation hk hc =>
    cases List.mem_or_eq_of_mem_set hm
    case inl hm => exact .inl hm
    case inr he =>
      obtain ⟨rfl, rfl⟩ := Attempt.finished.inj he
      exact .inr ⟨_, _, rfl, hk, hc⟩
  case panicConfirmation =>
    cases List.mem_or_eq_of_mem_set hm
    case inl hm => exact .inl hm
    case inr he => contradiction
  case outboundFailure =>
    cases List.mem_or_eq_of_mem_set hm
    case inl hm => exact .inl hm
    case inr he => contradiction
  case confirmationLoop =>
    cases List.mem_append.mp hm
    case inl hm => exact .inl hm
    case inr hm =>
      have ⟨_, _, he⟩ := List.mem_map.mp hm
      contradiction
  all_goals exact .inl hm

theorem reconciled_iff (h : step ext keypair provider s l s') (hp : s.Reconciled) :
    s'.Reconciled ↔ ¬l.SkipsConfirmation s := by
  have hm := (moves h).1
  constructor
  case mp =>
    intro hp' hb
    unfold Label.SkipsConfirmation at hb
    split at hb <;> try contradiction
    case _ k now =>
    have ⟨job, hk, hn⟩ := hb
    simp only [step, ofFn, next, hk, confirmJob] at h
    split at h <;> try contradiction
    obtain rfl := Option.some.inj h
    have hk := (List.getElem?_eq_some_iff.mp hk).1
    exact hn <| hp' job .alreadyConfirmed (List.mem_set hk _) (.inr rfl)
  case mpr =>
    intro hb job response hf hr
    cases finished_cases h hf
    case inl hf => exact hm.confirmed <| hp job response hf hr
    case inr hf =>
      obtain ⟨k, now, rfl, hk, hc⟩ := hf
      cases hr
      case inl hr =>
        subst hr
        exact confirmJob_ok hc
      case inr hr =>
        subst hr
        have hj : s.consumer.Confirmed job.rowid := not_not.mp fun hn => hb ⟨job, hk, hn⟩
        exact hm.confirmed hj

-- In every run of both nodes, the Consumer has confirmed all jobs that it knows to be confirmed at
-- the Provider, exactly if it never finishes with a repeated confirmation before a first one.
theorem reconciled_iff_no_skips {tr : List (Parties × Label)} {s : Parties}
    {consumer : Database} {node : Node}
    (r : Run (step ext keypair provider) { consumer, provider := node } tr s) :
    Run.Always Reconciled tr s ↔ Meets (fun s l => ¬l.SkipsConfirmation s) tr := by
  refine r.always_iff_meets (I := fun _ => True) trivial ?_ (fun _ _ _ _ _ => trivial) ?_
  · exact fun _ _ h => nomatch h
  · exact fun _ _ _ _ hp h => reconciled_iff h hp

-- An attempt has finished with the response, and the job is confirmed only after the response `Ok`.
private def finishes (response : ConfirmJobResponse) (s : Parties) : Bool :=
  s.attempts.any fun
    | .finished job response' =>
      decide (response' = response) && job.rowid == 1 &&
        (s.consumer.serviceJobs.get? 1).any (·.signatureConfirmedAtLocal.isSome) ==
          decide (response = .ok)
    | _ => false

theorem reconciled_iff_no_skips_sample : ∃ tr s,
    Run (step .sample ⟨[1]⟩ ⟨[0]⟩) sample tr s ∧ finishes .ok s = true ∧
      (Run.Always Reconciled tr s ↔ Meets (fun s l => ¬l.SkipsConfirmation s) tr) := by
  have ⟨tr, s, r, _, hs⟩ := Run.of_schedule (next .sample ⟨[1]⟩ ⟨[0]⟩) sample
    (sampleCompletion none ++ [.finishConfirmation 0 0 .ok]) (finishes .ok) (by decide +kernel)
  exact ⟨tr, s, r, hs, reconciled_iff_no_skips r⟩

-- The response to the first attempt is lost, and the job is already confirmed at the second one.
theorem not_reconciled : ¬∀ (ext : External) (keypair : ext.Keypair) (provider : PeerId)
    (consumer : Database) (node : Node) (tr : List (Parties × Label)) (s : Parties),
    Run (step ext keypair provider) { consumer, provider := node } tr s → s.Reconciled := by
  intro h
  have ⟨tr, s, r, _, hs⟩ := Run.of_schedule (next .sample ⟨[1]⟩ ⟨[0]⟩) sample
    (sampleCompletion none ++ [.outboundFailure 0, .confirmationLoop .scan,
      .handleConfirmation 1 .scan 0, .finishConfirmation 1 0 .alreadyConfirmed])
    (finishes .alreadyConfirmed) (by decide +kernel)
  have ⟨_, hm, ha⟩ := List.any_eq_true.mp hs
  split at ha <;> try contradiction
  case _ job response =>
    simp only [Bool.and_eq_true, decide_eq_true_eq, beq_iff_eq] at ha
    obtain ⟨⟨rfl, hi⟩, hc⟩ := ha
    have ⟨r, hr, hs⟩ := h _ _ _ _ _ _ _ r job _ hm (.inr rfl)
    simp [← hi, hr, hs] at hc

end Parties
end Derouter
