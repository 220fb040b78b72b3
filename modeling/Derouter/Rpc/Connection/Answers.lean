import Derouter.Rpc.Connection.Flow

open Transition

namespace Derouter

-- A connection, next to the requests that were read from it, those that were left to a task, and those
-- whose task has panicked.
structure ConnectionTasks where
  connection : Connection               := {}
  requests   : List InboundRequestFrame := []
  tasks      : List (UInt32 × Procedure) := []
  lost       : List (UInt32 × Procedure) := []

-- The responses in a line of frames, and the request whose handler is still to send its own.
def Flow.answers (flow : Flow) : List (UInt32 × Method) :=
  (flow.queued ++ flow.inHand).filterMap OutboundFrame.answer? ++ flow.handling.toList.map (·.ask)

namespace ConnectionTasks

inductive Label
  | act (l : Connection.Label)
  -- A task puts its response into the queue, or panics.
  | finish (i : Nat)
  | panic (i : Nat)

variable (decoder : Decoder) (s : ConnectionTasks)

-- Only the node asks the module for anything but the events of its subscriptions.
def next : Label → Option ConnectionTasks
  | .act (.respond ..) => none
  | .act l =>
    match s.connection.next decoder l, l with
    | none, _ => none
    | some connection, .request envelope =>
      if envelope.frameData.event? = none then some { s with connection } else none
    | some connection, l => some { s with
        connection
        requests := s.requests ++ (s.connection.accepted decoder l).toList
        tasks    := s.tasks ++ (s.connection.spawned l).toList
      }
  | .finish i =>
    match s.tasks[i]? with
    | none => none
    | some (id, procedure) =>
      match s.connection.next decoder (.respond id (.call procedure)) with
      | none            => none
      | some connection => some { s with connection, tasks := s.tasks.eraseIdx i }
  | .panic i =>
    match s.tasks[i]? with
    | none      => none
    | some task => some { s with tasks := s.tasks.eraseIdx i, lost := s.lost ++ [task] }

abbrev step : ConnectionTasks → Label → ConnectionTasks → Prop :=
  ofFn (next decoder)

def asks (tasks : List (UInt32 × Procedure)) : List (UInt32 × Method) :=
  tasks.map fun task => (task.1, .call task.2)

-- The requests that the module has got a response to.
def answered : List (UInt32 × Method) :=
  s.connection.written.filterMap OutboundFrame.answer?

-- Nothing is left to be done for the module.
def Settled : Prop :=
  s.connection.pc = .select ∧ s.connection.outbound = [] ∧ s.tasks = []

-- The responses go with the requests.
structure Answers : Prop where
  -- Those that no task may send come in the order of their requests, and none is left out.
  ordered : s.answered.filter (!·.2.maySpawn) <+:
    (s.requests.map (·.ask)).filter (!·.2.maySpawn)
  -- Each is for a request of its own.
  once    : s.answered.Subperm (s.requests.map (·.ask))
  -- In the end, only the tasks that have panicked leave a request without one.
  all     : s.Settled → (s.answered ++ asks s.lost).Perm (s.requests.map (·.ask))

variable {decoder : Decoder} {s s' : ConnectionTasks}

theorem next_act {l : Connection.Label} (h : s.next decoder (.act l) = some s') :
    ∃ connection, s.connection.next decoder l = some connection ∧ (∀ id data, l ≠ .respond id data) ∧
      (∀ envelope, l = .request envelope → envelope.frameData.event? = none) ∧
        s' = { s with
          connection
          requests := s.requests ++ (s.connection.accepted decoder l).toList
          tasks    := s.tasks ++ (s.connection.spawned l).toList
        } := by
  cases l <;> simp only [next, reduceCtorEq] at h
  case request envelope =>
    split at h <;> try contradiction
    case h_2 hc he =>
      split at h <;> try contradiction
      cases he
      refine ⟨_, hc, by simp, fun _ he => Connection.Label.request.inj he ▸ ‹_›, ?_⟩
      simp [← Option.some.inj h, Connection.accepted, Connection.spawned]
    case h_3 he => exact absurd rfl (he _)
  all_goals
    split at h <;> try contradiction
    exact ⟨_, ‹_›, by simp, by simp, (Option.some.inj h).symm⟩

theorem asks_append {tasks tasks' : List (UInt32 × Procedure)} :
    asks (tasks ++ tasks') = asks tasks ++ asks tasks' :=
  List.map_append

theorem answers_of_moves {flow flow' : Flow} {l : Connection.Label}
    (h : flow.Moves l accepted spawned heard flow') (hl : ∀ id data, l ≠ .respond id data) :
    flow'.answers ++ asks spawned.toList = flow.answers ++ accepted.toList.map (·.ask) := by
  cases h
  case rests                        => simp [asks]
  case accepts request hn           => simp [Flow.answers, asks, hn]
  case spawns request p hh hd _     => simp [Flow.answers, asks, hh, hd, InboundRequestFrame.ask,
    InboundRequestFrameData.method]
  case answers request data hh hi hm _ => simp [Flow.answers, asks, hh, hi, OutboundFrame.answer?,
    InboundRequestFrame.ask, hm]
  case forwards hi _                => simp [Flow.answers, asks, hi, OutboundFrame.answer?]
  case sends hi                     => simp [Flow.answers, asks, hi]
  case notifies                     => simp [Flow.answers, asks]
  case responds he                  => exact absurd he (hl _ _)
  case requests                     => simp [Flow.answers, asks]

theorem maySpawn_of_moves {flow flow' : Flow} {l : Connection.Label}
    (h : flow.Moves l accepted spawned heard flow') : ∀ task ∈ spawned, task.2.maySpawn = true := by
  cases h
  case spawns hp => simpa using hp
  all_goals simp

-- Every request is answered, or being handled, or left to a task, or lost.
structure Accounted (s : ConnectionTasks) : Prop where
  maySpawn : ∀ task ∈ s.tasks, task.2.maySpawn = true
  ordered  : s.connection.flow.answers.filter (!·.2.maySpawn) =
    (s.requests.map (·.ask)).filter (!·.2.maySpawn)
  perm     : (s.connection.flow.answers ++ asks s.tasks ++ asks s.lost).Perm
    (s.requests.map (·.ask))

theorem filter_asks {tasks : List (UInt32 × Procedure)}
    (h : ∀ task ∈ tasks, task.2.maySpawn = true) : (asks tasks).filter (!·.2.maySpawn) = [] := by
  rw [List.filter_eq_nil_iff]
  intro ask ha
  obtain ⟨task, ht, rfl⟩ := List.mem_map.mp ha
  simpa [Method.maySpawn] using h task ht

theorem accounted_act {l : Connection.Label} (hs : s.Accounted)
    (h : s.next decoder (.act l) = some s') : s'.Accounted := by
  obtain ⟨connection, hc, hl, _, rfl⟩ := next_act h
  have hm := Connection.moves_next hc
  have ha := answers_of_moves hm hl
  have hp := maySpawn_of_moves hm
  constructor
  case maySpawn =>
    intro task ht
    cases List.mem_append.mp ht
    case inl ht => exact hs.maySpawn task ht
    case inr ht => exact hp task (Option.mem_toList.mp ht)
  case ordered =>
    have hf := filter_asks fun task ht => hp task (Option.mem_toList.mp ht)
    have he := congrArg (List.filter (!·.2.maySpawn)) ha
    rw [List.filter_append, List.filter_append, hf, List.append_nil, hs.ordered] at he
    rw [he, List.map_append, List.filter_append]
  case perm =>
    rw [List.perm_iff_count]
    intro a
    have hn := hs.perm.count_eq a
    have he := congrArg (List.count a) ha
    simp only [List.count_append, asks_append, List.map_append] at hn he ⊢
    omega

theorem perm_cons_eraseIdx {α : Type} {l : List α} {a : α} (h : l[i]? = some a) :
    l.Perm (a :: l.eraseIdx i) := by
  obtain ⟨hi, rfl⟩ := List.getElem?_eq_some_iff.mp h
  rw [List.eraseIdx_eq_take_drop_succ]
  nth_rewrite 1 [← List.take_append_drop i l, List.drop_eq_getElem_cons hi]
  exact List.perm_middle

theorem flow_respond {c c' : Connection} {id : UInt32} {data : OutboundResponseFrameData}
    (h : c.next decoder (.respond id data) = some c') :
    c'.flow = { c.flow with queued := c.flow.queued ++ [.response id data] } := by
  simp only [Connection.next] at h
  split at h <;> try contradiction
  obtain rfl := Option.some.inj h
  simp [Connection.flow]

theorem count_answers (flow : Flow) {frame : OutboundFrame} {ask : UInt32 × Method}
    (h : frame.answer? = some ask) (a : UInt32 × Method) :
    { flow with queued := flow.queued ++ [frame] }.answers.count a =
      flow.answers.count a + [ask].count a := by
  simp only [Flow.answers, List.filterMap_append, List.count_append, List.filterMap_cons, h,
    List.filterMap_nil]
  omega

theorem filter_answers {flow : Flow} {frame : OutboundFrame} {ask : UInt32 × Method}
    (h : frame.answer? = some ask) (hs : ask.2.maySpawn = true) :
    { flow with queued := flow.queued ++ [frame] }.answers.filter (!·.2.maySpawn) =
      flow.answers.filter (!·.2.maySpawn) := by
  simp [Flow.answers, h, hs]

theorem accounted_finish (hs : s.Accounted) (h : s.next decoder (.finish i) = some s') :
    s'.Accounted := by
  simp only [next] at h
  split at h <;> try contradiction
  case h_2 id procedure ht =>
    split at h <;> try contradiction
    case h_2 connection hc =>
      obtain rfl := Option.some.inj h
      have hp : (Method.call procedure).maySpawn = true := hs.maySpawn _ (List.mem_of_getElem? ht)
      constructor
      case maySpawn => exact fun task ht => hs.maySpawn task (List.mem_of_mem_eraseIdx ht)
      case ordered  => exact flow_respond hc ▸ (filter_answers rfl hp).trans hs.ordered
      case perm =>
        rw [List.perm_iff_count]
        intro a
        have hn := hs.perm.count_eq a
        have he := ((perm_cons_eraseIdx ht).map fun task => (task.1, Method.call task.2)).count_eq a
        have hr : (OutboundFrame.response id (.call procedure)).answer? = some (id, .call procedure) :=
          rfl
        have ha := count_answers s.connection.flow hr a
        rw [← flow_respond hc] at ha
        simp only [List.count_append, asks, List.map_cons, List.count_cons, List.count_nil]
          at hn he ha ⊢
        omega

theorem accounted_panic (hs : s.Accounted) (h : s.next decoder (.panic i) = some s') :
    s'.Accounted := by
  simp only [next] at h
  split at h <;> try contradiction
  case h_2 task ht =>
    obtain rfl := Option.some.inj h
    constructor
    case maySpawn => exact fun task ht => hs.maySpawn task (List.mem_of_mem_eraseIdx ht)
    case ordered  => exact hs.ordered
    case perm =>
      rw [List.perm_iff_count]
      intro a
      have hn := hs.perm.count_eq a
      have he := ((perm_cons_eraseIdx ht).map fun task => (task.1, Method.call task.2)).count_eq a
      simp only [List.count_append, asks, List.map_append, List.map_cons, List.map_nil,
        List.count_cons, List.count_nil] at hn he ⊢
      omega

theorem accounted_step (hs : s.Accounted) (h : step decoder s l s') : s'.Accounted := by
  cases l
  case act    => exact accounted_act hs h
  case finish => exact accounted_finish hs h
  case panic  => exact accounted_panic hs h

theorem accounted_of_run (r : Run (step decoder) {} tr s) : s.Accounted :=
  r.invariant ⟨by simp, rfl, .nil⟩ fun _ _ _ => accounted_step

theorem answered_append : ∃ rest, s.connection.flow.answers = s.answered ++ rest := by
  simp [Flow.answers, Connection.flow, answered]

theorem answers_of_settled (h : s.Settled) : s.connection.flow.answers = s.answered := by
  simp [Flow.answers, Connection.flow, answered, h.1, h.2.1]

-- In every run, each response is for a request of its own, with its ID and of its kind, and in the end
-- every request has got one, unless its task has panicked.
theorem answers_of_run (r : Run (step decoder) {} tr s) : s.Answers := by
  have hs := accounted_of_run r
  obtain ⟨rest, hr⟩ := answered_append (s := s)
  constructor
  case ordered =>
    rw [← hs.ordered, hr, List.filter_append]
    exact List.prefix_append ..
  case once =>
    have hp := hs.perm
    rw [hr, List.append_assoc, List.append_assoc] at hp
    exact (List.sublist_append_left ..).subperm.trans hp.subperm
  case all =>
    intro h
    have hp := hs.perm
    rwa [answers_of_settled h, h.2.2, asks, List.map_nil, List.append_nil] at hp

private def frameOf (byte : UInt8) : Framing.Frame where
  body := [byte]
  fits := by simp

-- The module creates a job with its first request.
private def twoCalls : Decoder where
  inboundFrame body := some <| .request <|
    if body = [1] then ⟨1, .call .consumerCreateJob⟩ else ⟨2, .call .querySystem⟩
  peerId _          := none

-- The response of the task comes last.
theorem answers_of_run_sample : ∃ tr s, Run (step twoCalls) {} tr s ∧
    decide (s.answered = [(2, .call .querySystem), (1, .call .consumerCreateJob)]) = true ∧
      s.Answers := by
  obtain ⟨tr, s, r, _, hc⟩ := Run.of_schedule (next twoCalls) {}
    [.act (.send <| frameOf 1), .act (.send <| frameOf 2), .act (.arrive 10), .act (.poll true),
      .act .handled, .act (.poll true), .act .handled, .act .sends, .finish 0, .act (.poll false),
      .act .wrote, .act (.poll false), .act .wrote]
    (fun s => decide (s.answered = [(2, .call .querySystem), (1, .call .consumerCreateJob)]))
    (by decide +kernel)
  exact ⟨tr, s, r, hc, answers_of_run r⟩

end ConnectionTasks
end Derouter
