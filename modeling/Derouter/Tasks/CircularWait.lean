import Derouter.Tasks.Steps

open Framing Transition

namespace Derouter.Tasks

variable {decoder : Decoder} {s s' : Tasks} {l : Label}

theorem connection_set_self {t : ConnectionTask} : (s.set i t).connection i = t :=
  Function.update_self ..

theorem connection_set_of_ne {t : ConnectionTask} (h : j ≠ i) :
    (s.set i t).connection j = s.connection j :=
  Function.update_of_ne h ..

-- The node loop waits for the module of the connection: to take its request, or to reply to it.
def WaitsFor (s : Tasks) (i : Nat) : Prop :=
  match s.node with
  | .sends _ j       => j = i
  | .awaits j ticket => j = i ∧ (s.connection i).replied ticket = false
  | _                => False

-- The node loop holds the provider mutex and waits for the reply of a module, whose connection loop
-- waits for this mutex or for the node loop.
def Circular (s : Tasks) : Prop :=
  ∃ i ticket, s.node = .awaits i ticket ∧ s.lock = some .node ∧
    (s.connection i).replied ticket = false ∧ (s.connection i).need ≠ none ∧
      (s.connection i).progress = .waits

-- The node loop does not wait for a connection loop that does not get on without it.
def Apart (s : Tasks) : Prop :=
  ∀ i, s.WaitsFor i → ¬(s.connection i).Needs

-- While the node loop waits for a module, its connection loop neither reads a request to provide or
-- to get a job nor ends, and the node loop does not turn to a module whose loop is at one of these.
def KeepsApart (decoder : Decoder) (s : Tasks) : Label → Prop
  | .connection i (.poll _) => s.WaitsFor i → ¬(s.connection i).Needing decoder
  | .finds (some i)         => ¬(s.connection i).Needs
  | _                       => True

theorem Apart.not_circular (h : s.Apart) : ¬s.Circular :=
  fun ⟨i, ticket, hn, _, hr, hne, hp⟩ =>
    h i (by simp only [WaitsFor, hn, hr, and_self]) ⟨hne, .inr hp⟩

theorem Apart.mono (ha : s.Apart) (hw : ∀ i, s'.WaitsFor i → s.WaitsFor i)
    (hn : ∀ i, (s'.connection i).Needs → (s.connection i).Needs) : s'.Apart :=
  fun i h h' => ha i (hw i h) (hn i h')

theorem WaitsFor.mono (h : s'.WaitsFor i) (hs : s'.node = s.node)
    (hr : ∀ ticket, (s.connection i).replied ticket → (s'.connection i).replied ticket) :
    s.WaitsFor i := by
  simp only [WaitsFor, hs] at h ⊢
  cases hn : s.node
  case awaits j ticket =>
    simp only [hn] at h ⊢
    refine ⟨h.1, ?_⟩
    cases hf : (s.connection i).replied ticket
    case false => rfl
    case true  => exact absurd (hr ticket hf) (by simp [h.2])
  all_goals simp only [hn] at h ⊢
  case sends => exact h

theorem WaitsFor.of_update {t : ConnectionTask} (h : s'.WaitsFor j) (hs : s'.node = s.node)
    (hc : s'.connection = Function.update s.connection i t)
    (hr : ∀ ticket, (s.connection i).replied ticket → t.replied ticket) : s.WaitsFor j := by
  refine h.mono hs ?_
  by_cases hj : j = i
  case pos => simpa only [hc, hj, Function.update_self] using hr
  case neg => simp only [hc, Function.update_of_ne hj, imp_self, implies_true]

theorem Apart.update {t : ConnectionTask} (ha : s.Apart) (hs : s'.node = s.node)
    (hc : s'.connection = Function.update s.connection i t)
    (hr : ∀ ticket, (s.connection i).replied ticket → t.replied ticket)
    (hn : t.Needs → (s.connection i).Needs) : s'.Apart := by
  refine ha.mono (fun _ h => h.of_update hs hc hr) fun j => ?_
  by_cases hj : j = i
  case pos => simpa only [hc, hj, Function.update_self] using hn
  case neg => simp only [hc, Function.update_of_ne hj, imp_self]

-- While the node loop waits for no module, nothing can go wrong.
theorem Apart.of_node (h : ∀ i, ¬s.WaitsFor i) : s.Apart :=
  fun i hw => absurd hw (h i)

theorem apart_poll {t : ConnectionTask} (ha : s.Apart)
    (h : (s.connection i).next decoder (.poll spawns) = some t) :
    (s.set i t).Apart ↔ s.KeepsApart decoder (.connection i (.poll spawns)) := by
  obtain ⟨hn, hr, hr'⟩ := ConnectionTask.next_poll h
  have hc : (s.set i t).connection i = t := connection_set_self
  constructor
  · intro ha' hw hng
    have ht : t.Needs := hn.mpr hng
    refine ha' i (hw.mono rfl ?_) (hc.symm ▸ ht)
    simp [hc, ConnectionTask.replied, hr ht]
  · intro hk j hw hnj
    obtain ⟨replies, hr'⟩ := hr'
    have hr : ∀ ticket, (s.connection i).replied ticket → t.replied ticket := by
      intro ticket h
      simp only [ConnectionTask.replied, hr', List.any_append, Bool.or_eq_true] at h ⊢
      exact .inl h
    have hws : s.WaitsFor j := hw.of_update rfl rfl hr
    by_cases hj : j = i
    case pos =>
      subst hj
      exact hk hws (hn.mp (hc ▸ hnj))
    case neg =>
      have hne : (s.set i t).connection j = s.connection j := connection_set_of_ne hj
      exact ha j hws (hne ▸ hnj)

theorem apart_connection {t : ConnectionTask} {l : Connection.Label} (ha : s.Apart)
    (h : (s.connection i).next decoder l = some t) :
    (s.set i t).Apart ↔ s.KeepsApart decoder (.connection i l) := by
  cases l
  case poll => exact apart_poll ha h
  all_goals
    have ⟨hn, hr⟩ := ConnectionTask.next_other h nofun
    exact iff_of_true (ha.update rfl rfl (by simp [ConnectionTask.replied, hr]) hn) trivial

theorem apart_step (ha : s.Apart) (h : step decoder s l s') :
    s'.Apart ↔ s.KeepsApart decoder l := by
  cases l
  case finds i =>
    cases i
    all_goals simp only [step, ofFn, next] at h
    case none =>
      refine iff_of_true ?_ trivial
      split at h
      case h_2 => contradiction
      case h_1 =>
        split at h
        case isFalse => contradiction
        case isTrue  => exact Option.some.inj h ▸ .of_node fun _ => id
    case some i =>
      split at h
      case h_2 => contradiction
      case h_1 =>
        split at h
        case isFalse => contradiction
        case isTrue =>
          obtain rfl := Option.some.inj h
          simp [Apart, WaitsFor, KeepsApart]
  all_goals simp only [step, ofFn, next] at h
  case connection i l =>
    obtain ⟨t, ht, he⟩ := Option.map_eq_some_iff.mp h
    exact he ▸ apart_connection ha ht
  case sends frameData =>
    refine iff_of_true ?_ trivial
    split at h
    case h_2 => contradiction
    case h_1 _ i hn =>
      obtain ⟨c', hc, he⟩ := Option.map_eq_some_iff.mp h
      subst he
      obtain ⟨hp, hr⟩ : c'.pc = (s.connection i).connection.pc ∧
          c'.replies = (s.connection i).connection.replies := by
        simp only [Connection.next] at hc
        split at hc
        case isFalse => contradiction
        case isTrue  => exact Option.some.inj hc ▸ ⟨rfl, rfl⟩
      rintro j ⟨hj, _⟩ hnj
      subst hj
      refine ha i (by simp only [WaitsFor, hn]) ?_
      simpa only [connection_set_self, ConnectionTask.Needs, ConnectionTask.need, hp] using hnj
  all_goals refine iff_of_true ?_ trivial
  case streamLocks | streamUnlocks =>
    split at h
    case isFalse => contradiction
    case isTrue  => exact Option.some.inj h ▸ ha
  case waits i =>
    split at h
    case isFalse => contradiction
    case isTrue hc =>
      obtain rfl := Option.some.inj h
      exact ha.update rfl rfl (fun _ => id) fun _ => ⟨hc.1, .inl hc.2⟩
  case locks =>
    split at h
    case isFalse => contradiction
    case isTrue =>
      obtain rfl := Option.some.inj h
      exact ha.update rfl rfl (fun _ => id) (absurd · <| ConnectionTask.not_needs <| .inl rfl)
  case answers =>
    split at h
    case isFalse => contradiction
    case isTrue =>
      obtain rfl := Option.some.inj h
      exact ha.update rfl rfl (fun _ => id) (absurd · <| ConnectionTask.not_needs <| .inr rfl)
  case unlocks =>
    split at h
    case isFalse => contradiction
    case isTrue hc =>
      obtain rfl := Option.some.inj h
      refine ha.update rfl rfl ?_ ?_
      · simp only [ConnectionTask.unlocked]
        split <;> exact fun _ => id
      · simp only [ConnectionTask.unlocked]
        split <;> exact (absurd · <| ConnectionTask.not_needs <| .inr rfl)
  case replies =>
    split at h
    case h_2 => contradiction
    case h_1 =>
      split at h
      case isFalse => contradiction
      case isTrue  => exact Option.some.inj h ▸ .of_node fun _ => id
  all_goals
    split at h
    case isFalse => contradiction
    case isTrue  => exact Option.some.inj h ▸ .of_node fun _ => id

-- The two loops stay apart exactly as long as every step meets the condition, and then they never
-- wait for each other.
theorem apart_iff_keepsApart (r : Run (step decoder) {} tr s) :
    (Run.Always Apart tr s ↔ Meets (KeepsApart decoder) tr) ∧
      (Meets (KeepsApart decoder) tr → Run.Always (¬Circular ·) tr s) := by
  have hi : Run.Always Apart tr s ↔ Meets (KeepsApart decoder) tr :=
    r.always_iff_meets (I := fun _ => True) trivial (.of_node fun _ => id)
      (fun _ _ _ _ _ => trivial) fun _ _ _ _ ha h => apart_step ha h
  refine ⟨hi, fun hm => ?_⟩
  have ⟨ha, ha'⟩ := hi.mpr hm
  exact ⟨fun p hp => (ha p hp).not_circular, ha'.not_circular⟩

theorem Circular.step (hc : s.Circular) (h : step decoder s l s') : s'.Circular := by
  obtain ⟨i, ticket, hn, hl, hr, hd, hp⟩ := hc
  cases l
  case finds module =>
    cases module <;> simp [Tasks.step, ofFn, next, hn] at h
  all_goals simp only [Tasks.step, ofFn, next, hn, hl, reduceCtorEq, and_false, if_false] at h
  case streamUnlocks => contradiction
  case connection j l =>
    obtain ⟨t, ht, he⟩ := Option.map_eq_some_iff.mp h
    subst he
    by_cases hj : j = i
    case neg =>
      refine ⟨i, ticket, hn, hl, ?_⟩
      rw [connection_set_of_ne (Ne.symm hj)]
      exact ⟨hr, hd, hp⟩
    case pos =>
      subst hj
      obtain ⟨hd, hp, hr'⟩ := ConnectionTask.next_waits hd hp ht
      refine ⟨j, ticket, hn, hl, ?_⟩
      rw [connection_set_self]
      exact ⟨by simpa only [ConnectionTask.replied, hr'] using hr, hd, hp⟩
  case waits j =>
    split at h
    case isFalse => contradiction
    case isTrue hs =>
      obtain rfl := Option.some.inj h
      have hj : i ≠ j := by
        intro hj
        rw [← hj, hp] at hs
        simp at hs
      refine ⟨i, ticket, hn, hl, ?_⟩
      rw [connection_set_of_ne hj]
      exact ⟨hr, hd, hp⟩
  case replies => simp [hr] at h
  case unlocks => simp at h

theorem circular_forever (hc : s.Circular) (r : Run (step decoder) s tr s') : s'.Circular :=
  r.invariant hc fun _ _ _ => Circular.step

-- Every frame asks to provide an offer.
private def provides : Decoder where
  inboundFrame _ := some <| .request ⟨0, .call .providerProvide⟩
  peerId _       := none

private def createJobSample : CreateJobRequest where
  protocolId   := "p"
  offerId      := "o"
  offerPayload := ""
  currency     := .polygon
  jobArgs      := none

-- A module that provides an offer, and gets the request to create a job.
theorem apart_iff_keepsApart_sample : ∃ tr s, Run (step provides) {} tr s ∧
    s.node = .awaits 0 0 ∧ s.lock = some .node ∧ Run.Always (¬Circular ·) tr s := by
  have r : Run (step provides) {} _ _ :=
    .cons (l := Label.connection 0 <| .send .empty) rfl <|
      .cons (l := Label.connection 0 <| .arrive 4) rfl <|
        .cons (l := Label.connection 0 <| .poll false) rfl <|
          .cons (l := Label.waits 0) rfl <| .cons (l := Label.locks 0) rfl <|
            .cons (l := Label.unlocks 0 true) rfl <|
              .cons (l := Label.connection 0 .handled) rfl <|
                .cons (l := Label.connection 0 .sends) rfl <|
                  .cons (l := Label.createJob createJobSample) rfl <|
                    .cons (l := Label.finds (some 0)) rfl <|
                      .cons (l := Label.sends ⟨[0]⟩ "job" 0) rfl <|
                        .cons (l := Label.connection 0 <| .poll false) rfl .nil
  refine ⟨_, _, r, rfl, rfl, (apart_iff_keepsApart r).2 ?_⟩
  simp only [Meets, List.forall_mem_cons]
  refine ⟨trivial, trivial, False.elim, trivial, trivial, trivial, trivial, trivial, trivial, ?_,
    trivial, ?_, by simp⟩
  · exact fun h => absurd rfl h.1
  · exact fun _ => ConnectionTask.not_needing rfl rfl

-- The module asks to provide another offer, while it is to get a job.
theorem not_circular : ¬∀ (decoder : Decoder) (tr : List (Tasks × Label)) (s : Tasks),
    Run (step decoder) {} tr s → ¬s.Circular := by
  intro h
  obtain ⟨tr, s, r, _, hc⟩ := Run.of_schedule (next provides) {}
    [.connection 0 (.send .empty), .connection 0 (.arrive 4), .connection 0 (.poll false),
      .waits 0, .locks 0, .unlocks 0 true, .connection 0 .handled, .connection 0 .sends,
      .createJob createJobSample, .finds (some 0), .sends ⟨[0]⟩ "job" 0,
      .connection 0 (.send .empty), .connection 0 (.arrive 4), .connection 0 (.poll false),
      .waits 0]
    (fun s => s.node == .awaits 0 0 && s.lock == some .node && !(s.connection 0).replied 0 &&
      (s.connection 0).need.isSome && (s.connection 0).progress == .waits)
    (by decide +kernel)
  simp only [Bool.and_eq_true, beq_iff_eq, Bool.not_eq_true', Option.isSome_iff_ne_none] at hc
  obtain ⟨⟨⟨⟨hn, hl⟩, hr⟩, hd⟩, hp⟩ := hc
  exact h _ _ _ r ⟨0, 0, hn, hl, hr, hd, hp⟩

end Derouter.Tasks
