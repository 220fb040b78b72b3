import Derouter.Rpc.Connection.Steps
import Derouter.Tasks

namespace Derouter

namespace Connection

variable {decoder : Decoder} {c c' : Connection} {l : Label}

-- The request that the next poll gets to handle.
def upcoming (decoder : Decoder) (c : Connection) : Option InboundRequestFrame :=
  if c.cancelled then none else
    match c.rpcStream.nextCbor.1 with
    | .some body =>
      match decoder.inboundFrame body with
      | some (.request request) => some request
      | _                       => none
    | _ => none

-- The next poll leaves the loop.
def ends (c : Connection) : Bool :=
  c.cancelled || match c.rpcStream.nextCbor.1 with
    | .none => true
    | _     => false

-- What a poll may turn to.
inductive Turns (decoder : Decoder) (c : Connection) (spawns : Bool) (c' : Connection) : Prop
  | request (request : InboundRequestFrame) (upcoming : c.upcoming decoder = some request)
      (ends : c.ends = false) (pc : c'.pc = .handling request spawns)
      (replies : c'.replies = c.replies)
  | ending (upcoming : c.upcoming decoder = none) (ends : c.ends = true) (pc : c'.pc = .closing)
      (replies : c'.replies = c.replies)
  | other (upcoming : c.upcoming decoder = none) (ends : c.ends = false)
      (pc : ∀ request spawns, c'.pc ≠ .handling request spawns) (pc' : c'.pc ≠ .closing)
      (replies : ∃ l, c'.replies = c.replies ++ l)

theorem pollSelect_turns {spawns : Bool} (hp : c.pc = .select) :
    c.Turns decoder spawns (c.pollSelect decoder spawns) := by
  simp only [pollSelect]
  split
  case isTrue hc =>
    exact .ending (by simp [upcoming, hc]) (by simp [ends, hc]) rfl rfl
  case isFalse hc =>
    generalize hn : c.rpcStream.nextCbor = p
    obtain ⟨result, rpcStream⟩ := p
    cases result
    case none => exact .ending (by simp [upcoming, hn]) (by simp [ends, hn]) rfl rfl
    case err =>
      refine .other (by simp [upcoming, hn]) (by simp [ends, hn, hc]) ?_ ?_ ⟨[], by simp⟩
      · simp [hp]
      · simp [hp]
    case pending =>
      have hu : c.upcoming decoder = none := by simp [upcoming, hn]
      have he : c.ends = false := by simp [ends, hn, hc]
      refine .other hu he ?_ ?_ ?_ <;> simp only [pollQueues] <;> split <;> simp [hp]
    case some body =>
      have he : c.ends = false := by simp [ends, hn, hc]
      dsimp only
      split
      case h_1 request hd => exact .request request (by simp [upcoming, hn, hc, hd]) he rfl rfl
      case h_2 response hd =>
        have hu : c.upcoming decoder = none := by simp [upcoming, hn, hd]
        refine .other hu he ?_ ?_ ?_ <;> simp only [handleInboundResponse] <;> split <;> simp [hp]
      case h_3 hd =>
        have hu : c.upcoming decoder = none := by simp [upcoming, hn, hd]
        refine .other hu he ?_ ?_ ⟨[], by simp⟩ <;> simp [hp]

theorem next_turns (h : c.next decoder l = some c') (hl : ∀ spawns, l ≠ .poll spawns) :
    c'.replies = c.replies ∧
      (c'.pc = c.pc ∨ (∀ request spawns, c'.pc ≠ .handling request spawns) ∧ c'.pc ≠ .closing) := by
  cases l
  case poll => exact absurd rfl (hl _)
  case handled =>
    obtain ⟨_, _, _, hh⟩ := handles_next h
    cases hh <;> exact ⟨rfl, .inr (by simp)⟩
  all_goals simp only [next] at h
  case close     => exact Option.some.inj h ▸ ⟨rfl, .inl rfl⟩
  case arrive    => exact Option.some.inj h ▸ ⟨rfl, .inl rfl⟩
  case cancel    => exact Option.some.inj h ▸ ⟨rfl, .inl rfl⟩
  case broadcast => exact Option.some.inj h ▸ ⟨rfl, .inl rfl⟩
  case lag       => exact Option.some.inj h ▸ ⟨rfl, .inl rfl⟩
  case sends     =>
    split at h
    case h_5 => contradiction
    case h_3 => exact Option.some.inj h ▸ ⟨rfl, .inr (by simp)⟩
    all_goals
      split at h
      case isFalse => contradiction
      case isTrue  => exact Option.some.inj h ▸ ⟨rfl, .inr (by simp)⟩
  case wrote =>
    split at h
    case h_1 => exact Option.some.inj h ▸ ⟨rfl, .inr (by simp)⟩
    case h_2 => contradiction
  all_goals
    split at h
    all_goals first | contradiction | exact Option.some.inj h ▸ ⟨rfl, .inl rfl⟩

theorem next_stays (h : c.next decoder l = some c') (hl : l ≠ .handled)
    (hp : c.pc = .closing ∨ ∃ request spawns, c.pc = .handling request spawns) :
    c'.pc = c.pc ∧ c'.replies = c.replies := by
  cases l
  all_goals simp only [next] at h
  case handled   => contradiction
  case close     => exact Option.some.inj h ▸ ⟨rfl, rfl⟩
  case arrive    => exact Option.some.inj h ▸ ⟨rfl, rfl⟩
  case cancel    => exact Option.some.inj h ▸ ⟨rfl, rfl⟩
  case broadcast => exact Option.some.inj h ▸ ⟨rfl, rfl⟩
  case lag       => exact Option.some.inj h ▸ ⟨rfl, rfl⟩
  case poll | sends | wrote =>
    cases hp
    case inl hp =>
      rw [hp] at h
      contradiction
    case inr hp =>
      obtain ⟨_, _, hp⟩ := hp
      rw [hp] at h
      contradiction
  all_goals
    split at h
    all_goals first | contradiction | exact Option.some.inj h ▸ ⟨rfl, rfl⟩

end Connection

namespace ConnectionTask

variable {decoder : Decoder} {t t' : ConnectionTask} {l : Connection.Label}

-- The loop does not get on without the provider mutex or the node loop, and has got neither.
def Needs (t : ConnectionTask) : Prop :=
  t.need ≠ none ∧ (t.progress = .start ∨ t.progress = .waits)

-- The next poll turns to a request that needs them, or to the cleanup of the module.
def Needing (decoder : Decoder) (t : ConnectionTask) : Prop :=
  (∃ request, t.connection.upcoming decoder = some request ∧ request.need ≠ none) ∨
    (t.connection.ends = true ∧ t.isProvider = true)

theorem not_needs (h : t.progress = .holds ∨ t.progress = .finished) : ¬t.Needs := by
  rintro ⟨_, h'⟩
  cases h <;> simp_all

theorem not_needing (hu : t.connection.upcoming decoder = none) (he : t.connection.ends = false) :
    ¬t.Needing decoder := by
  simp [Needing, hu, he]

theorem next_poll (h : t.next decoder (.poll spawns) = some t') :
    (t'.Needs ↔ t.Needing decoder) ∧ (t'.Needs → t'.connection.replies = t.connection.replies) ∧
      ∃ l, t'.connection.replies = t.connection.replies ++ l := by
  obtain ⟨c', hc, he⟩ := Option.map_eq_some_iff.mp h
  subst he
  simp only [Connection.next] at hc
  split at hc
  case h_2 => contradiction
  case h_1 hp =>
    have ht : t.connection.Turns decoder spawns (t.connection.pollSelect decoder spawns) :=
      Connection.pollSelect_turns hp
    rw [Option.some.inj hc] at ht
    cases ht
    case request request hu he hp hr =>
      refine ⟨?_, fun _ => hr, [], by simp [hr]⟩
      simp [Needs, need, hp, Needing, hu, he]
    case ending hu he hp hr =>
      refine ⟨?_, fun _ => hr, [], by simp [hr]⟩
      simp [Needs, need, hp, Needing, hu, he]
    case other hu he hp hp' hr =>
      have hn : need { t with connection := c', progress := .start } = none := by
        cases hc : c'.pc
        case handling => exact absurd hc (hp _ _)
        case closing  => exact absurd hc hp'
        all_goals simp only [need, hc]
      have hn' : ¬Needs { t with connection := c', progress := .start } := fun h => h.1 hn
      exact ⟨iff_of_false hn' (not_needing hu he), fun h => absurd h hn', hr⟩

theorem next_other (h : t.next decoder l = some t') (hl : ∀ spawns, l ≠ .poll spawns) :
    (t'.Needs → t.Needs) ∧ t'.connection.replies = t.connection.replies := by
  obtain ⟨c', hc, he⟩ : ∃ c', t.connection.next decoder l = some c' ∧
      t' = { t with connection := c' } := by
    cases l <;> simp only [next] at h
    case poll => exact absurd rfl (hl _)
    case handled =>
      split at h
      case isTrue =>
        obtain ⟨c', hc, he⟩ := Option.map_eq_some_iff.mp h
        exact ⟨c', hc, he.symm⟩
      case isFalse => contradiction
    all_goals
      obtain ⟨c', hc, he⟩ := Option.map_eq_some_iff.mp h
      exact ⟨c', hc, he.symm⟩
  subst he
  obtain ⟨hr, hp⟩ := Connection.next_turns hc hl
  refine ⟨fun hn => ?_, hr⟩
  cases hp
  case inl hp => simpa only [Needs, need, hp] using hn
  case inr hp =>
    refine absurd ?_ hn.1
    cases hc : c'.pc
    case handling => exact absurd hc (hp.1 _ _)
    case closing  => exact absurd hc hp.2
    all_goals simp only [need, hc]

theorem next_waits (hn : t.need ≠ none) (hp : t.progress = .waits)
    (h : t.next decoder l = some t') :
    t'.need ≠ none ∧ t'.progress = .waits ∧ t'.connection.replies = t.connection.replies := by
  have hpc : t.connection.pc = .closing ∨
      ∃ request spawns, t.connection.pc = .handling request spawns := by
    cases hc : t.connection.pc
    case handling => exact .inr ⟨_, _, rfl⟩
    case closing  => exact .inl rfl
    all_goals simp [need, hc] at hn
  obtain ⟨hl, c', hc, he⟩ : l ≠ .handled ∧ ∃ c', t.connection.next decoder l = some c' ∧
      t' = { t with connection := c' } := by
    cases l <;> simp only [next] at h
    case handled => simp [hn, hp] at h
    case poll =>
      simp only [Connection.next] at h
      cases hpc
      case inl hpc => simp [hpc] at h
      case inr hpc =>
        obtain ⟨_, _, hpc⟩ := hpc
        simp [hpc] at h
    all_goals
      obtain ⟨c', hc, he⟩ := Option.map_eq_some_iff.mp h
      exact ⟨Connection.Label.noConfusion, c', hc, he.symm⟩
  obtain ⟨hpc, hr⟩ := Connection.next_stays hc hl hpc
  subst he
  exact ⟨by simpa only [need, hpc] using hn, hp, hr⟩

end ConnectionTask
end Derouter
