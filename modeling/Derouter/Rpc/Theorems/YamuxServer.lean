import Derouter.Rpc.YamuxServer

open Framing Transition

namespace Derouter

-- The locks that a handler has asked for, and not given back.
def YamuxHandler.asked : YamuxHandler → List YamuxLock
  | locks | reads => [.rpcStreamTx]
  | finds _       => [.rpcStreamTx, .futureConnections]
  | joins _ _     => [.rpcStreamTx, .futureConnections, .openedConnections]
  | _             => []

namespace YamuxServer

variable {s s' : YamuxServer} {h : YamuxHandler} {l l' : YamuxLock} {y y' z : Nat}

@[simp]
theorem setHandler_queue : (s.setHandler y h).queue = s.queue :=
  rfl

@[simp]
theorem ask_handlers : (s.ask l y).handlers = s.handlers :=
  rfl

theorem mem_ask : y' ∈ (s.ask l y).queue l' ↔ y' ∈ s.queue l' ∨ (l' = l ∧ y' = y) := by
  by_cases hl : l' = l
  case pos => simp [ask, hl]
  case neg => simp [ask, hl]

theorem nodup_ask (hn : ∀ l, (s.queue l).Nodup) (hy : y ∉ s.queue l) (l' : YamuxLock) :
    ((s.ask l y).queue l').Nodup := by
  by_cases hl : l' = l
  case neg => simpa [ask, hl] using hn l'
  case pos =>
    subst hl
    simp only [ask, Function.update_self, List.nodup_append, List.nodup_singleton]
    refine ⟨hn l', trivial, fun a ha b hb he => ?_⟩
    exact hy <| List.mem_singleton.mp hb ▸ he ▸ ha

theorem mem_release (hn : ∀ l, (s.queue l).Nodup) :
    y' ∈ (s.release l y).queue l' ↔ y' ∈ s.queue l' ∧ ¬(l' = l ∧ y' = y) := by
  by_cases hl : l' = l
  case neg => simp [release, hl]
  case pos =>
    subst hl
    simp [release, (hn l').mem_erase_iff, and_comm]

theorem nodup_release (hn : ∀ l, (s.queue l).Nodup) (l' : YamuxLock) :
    ((s.release l y).queue l').Nodup := by
  by_cases hl : l' = l
  case neg => simpa [release, hl] using hn l'
  case pos =>
    subst hl
    simpa [release] using (hn l').erase y

theorem waits_of_release (hw : (s.release l y).Waits l' y') : s.Waits l' y' := by
  by_cases hl : l' = l
  case neg => simpa [Waits, release, hl] using hw
  case pos =>
    subst hl
    simp only [Waits, release, Function.update_self] at hw ⊢
    cases hq : s.queue l'
    case nil => simp [hq] at hw
    case cons a q =>
      rw [hq, List.erase_cons] at hw
      split at hw
      case isTrue  => exact List.mem_of_mem_tail hw
      case isFalse => exact List.mem_of_mem_erase hw

theorem waits_ask_iff : (s.ask l y).Waits l' y' ↔
    s.Waits l' y' ∨ (l' = l ∧ y' = y ∧ s.queue l ≠ []) := by
  by_cases hl : l' = l
  case neg => simp [Waits, ask, hl]
  case pos =>
    subst hl
    cases hq : s.queue l' <;> simp [Waits, ask, hq]

-- The queues hold what the handlers have asked for, and those that wait for the first lock have got
-- no further.
structure Queued (s : YamuxServer) : Prop where
  nodup : ∀ l, (s.queue l).Nodup
  mem   : ∀ l y, y ∈ s.queue l ↔ l ∈ (s.handlers y).asked
  locks : ∀ y, s.Waits .rpcStreamTx y → s.handlers y = .locks

namespace Queued

theorem of_start : Queued {} where
  nodup _   := .nil
  mem _ _   := by simp [YamuxHandler.asked]
  locks _ h := by simp [Waits] at h

theorem not_waits (hq : s.Queued) (hh : s.handlers y ≠ .locks) : ¬s.Waits .rpcStreamTx y :=
  fun hw => hh (hq.locks y hw)

theorem not_waits_of_holds (hq : s.Queued) (hh : s.Holds l y) : ¬s.Waits l y := by
  intro hw
  have hn := hq.nodup l
  simp only [Holds, Waits] at hh hw
  cases hl : s.queue l
  case nil => simp [hl] at hh
  case cons a q =>
    rw [hl] at hn hh hw
    obtain rfl := Option.some.inj hh
    exact (List.nodup_cons.mp hn).1 hw

theorem holds (hq : s.Queued) (hh : .rpcStreamTx ∈ (s.handlers y).asked)
    (hn : s.handlers y ≠ .locks) : s.Holds .rpcStreamTx y := by
  have hm := (hq.mem _ _).mpr hh
  have hw := hq.not_waits hn
  simp only [Holds, Waits] at hw ⊢
  cases hl : s.queue .rpcStreamTx
  case nil => simp [hl] at hm
  case cons a q =>
    rw [hl] at hm hw
    rcases List.mem_cons.mp hm with rfl | hm
    case inl => rfl
    case inr => exact absurd hm hw

theorem holds_of_stalls (hq : s.Queued) (hs : s.Stalls z) : s.Holds .rpcStreamTx z :=
  hq.holds (by simp [hs.reads, YamuxHandler.asked]) (by simp [hs.reads])

-- The other two locks are never held by a stream that stalls.
theorem independent_iff (hq : s.Queued) :
    s.Independent ↔ ∀ y z, s.HasId y → s.Waits .rpcStreamTx y → ¬s.Stalls z := by
  constructor
  case mp  => exact fun hi y z hy hw hs => hi _ y z hy hw (hq.holds_of_stalls hs) hs
  case mpr =>
    intro hi l y z hy hw hh hs
    have hl := (hq.mem l z).mp <| List.mem_of_mem_head? hh
    simp only [hs.reads, YamuxHandler.asked, List.mem_singleton] at hl
    exact hi y z hy (hl ▸ hw) hs

end Queued

-- Whether a step leads into the queue behind a stream that stalls.
def Label.KeepsIndependent (s : YamuxServer) : Label → Prop
  -- A stream whose connection ID has arrived does not ask for the lock of one that stalls.
  | .accept y       => s.HasId y → ∀ z, ¬s.Stalls z
  -- The connection ID of a stream does not arrive while it waits for one that stalls.
  | .arrive y bytes => s.Waits .rpcStreamTx y → 8 ≤ (s.arrived y ++ bytes).length → ∀ z, ¬s.Stalls z
  -- A stream that does not get its connection ID with the lock gets it before those that wait.
  | .take y         => s.rpcStream ≠ none → ¬s.HasId y → s.closed y = false →
    ∀ y', s.Waits .rpcStreamTx y' → ¬s.HasId y'
  | _               => True

-- A handler that does not wait for the first lock goes on to `h`, and takes or leaves places in the
-- queues.
structure Goes (s : YamuxServer) (y : Nat) (h : YamuxHandler) (s' : YamuxServer) : Prop where
  waits    : ¬s.Waits .rpcStreamTx y
  handlers : s'.handlers = Function.update s.handlers y h
  arrived  : s'.arrived = s.arrived
  closed   : s'.closed = s.closed
  nodup    : ∀ l, (s'.queue l).Nodup
  asked    : ∀ l, y ∈ s'.queue l ↔ l ∈ h.asked
  others   : ∀ l y', y' ≠ y → (y' ∈ s'.queue l ↔ y' ∈ s.queue l)
  waiting  : ∀ y', s'.Waits .rpcStreamTx y' → s.Waits .rpcStreamTx y'

namespace Goes

theorem queued (hg : s.Goes y h s') (hq : s.Queued) : s'.Queued where
  nodup := hg.nodup
  mem l y' := by
    rw [hg.handlers]
    by_cases hy : y' = y
    case pos => rw [hy, Function.update_self, hg.asked]
    case neg => rw [Function.update_of_ne hy, hg.others l y' hy, hq.mem]
  locks y' hw := by
    have hw := hg.waiting y' hw
    have hy : y' ≠ y := fun he => hg.waits (he ▸ hw)
    rw [hg.handlers, Function.update_of_ne hy, hq.locks y' hw]

theorem congr {s'' : YamuxServer} (hg : s.Goes y h s') (hh : s''.handlers = s'.handlers)
    (ha : s''.arrived = s'.arrived) (hc : s''.closed = s'.closed) (hl : s''.queue = s'.queue) :
    s.Goes y h s'' where
  waits    := hg.waits
  handlers := hh.trans hg.handlers
  arrived  := ha.trans hg.arrived
  closed   := hc.trans hg.closed
  nodup    := hl ▸ hg.nodup
  asked    := hl ▸ hg.asked
  others   := hl ▸ hg.others
  waiting  := by
    have hw := hg.waiting
    simp only [Waits] at hw ⊢
    rwa [hl]

theorem of_ask (hq : s.Queued) (hw : ¬s.Waits .rpcStreamTx y) (hl : l ≠ .rpcStreamTx)
    (hy : l ∉ (s.handlers y).asked) (ha : h.asked = (s.handlers y).asked ++ [l]) :
    s.Goes y h ((s.setHandler y h).ask l y) where
  waits    := hw
  handlers := rfl
  arrived  := rfl
  closed   := rfl
  nodup    := nodup_ask hq.nodup <| (hq.mem l y).not.mpr hy
  asked l' := by
    rw [mem_ask, setHandler_queue, hq.mem, ha, List.mem_append, List.mem_singleton]
    simp
  others l' y' hy' := by
    rw [mem_ask, setHandler_queue]
    simp [hy']
  waiting y' hw' := (waits_ask_iff.mp hw').resolve_right fun he => hl he.1.symm

theorem of_release (hq : s.Queued) (hw : ¬s.Waits .rpcStreamTx y) (ha : h.asked = [])
    (hh : s'.handlers = Function.update s.handlers y h) (ha' : s'.arrived = s.arrived)
    (hc : s'.closed = s.closed) (hn : ∀ l, (s'.queue l).Nodup)
    (hm : ∀ l y', y' ∈ s'.queue l ↔ y' ∈ s.queue l ∧ ¬(l ∈ (s.handlers y).asked ∧ y' = y))
    (ht : ∀ y', s'.Waits .rpcStreamTx y' → s.Waits .rpcStreamTx y') : s.Goes y h s' where
  waits    := hw
  handlers := hh
  arrived  := ha'
  closed   := hc
  nodup    := hn
  asked l  := by
    rw [hm, hq.mem, ha]
    simp
  others l y' hy' := by
    rw [hm]
    simp [hy']
  waiting  := ht

end Goes

-- The handler that a step is about.
def Label.goes : Label → Option Nat
  | .take y | .read y | .find y | .join y => some y
  | _                                     => none

-- What a handler does in one step. It starts to read only when it has got the first lock, which it
-- keeps.
theorem Queued.goes (hq : s.Queued) {label : Label} (hl : label.goes = some y)
    (hs : s.next label = some s') : ∃ h, s.Goes y h s' ∧
      (h = .reads ↔ label = .take y ∧ s.rpcStream ≠ none) ∧ (h = .reads → s'.queue = s.queue) := by
  cases label
  case accept | arrive | close | insert => contradiction
  all_goals
    obtain rfl := Option.some.inj hl.symm
    simp only [YamuxServer.next] at hs
  case take =>
    split at hs <;> try contradiction
    case h_1 hy =>
      split at hs <;> try contradiction
      case isTrue hh =>
        have hw := hq.not_waits_of_holds hh
        split at hs <;> rename_i hr <;> obtain rfl := Option.some.inj hs
        case h_1 =>
          have hg : s.Goes y .rpc ((s.setHandler y .rpc).release .rpcStreamTx y) := by
            refine .of_release hq hw rfl rfl rfl rfl (nodup_release hq.nodup) (fun l y' => ?_)
              fun _ => waits_of_release
            simp [mem_release (s := s.setHandler y .rpc) hq.nodup, hy, YamuxHandler.asked]
          exact ⟨_, hg.congr rfl rfl rfl rfl, by simp [hr], nofun⟩
        case h_2 =>
          refine ⟨.reads, ⟨hw, rfl, rfl, rfl, hq.nodup, fun l => ?_, fun _ _ _ => .rfl, fun _ => id⟩,
            by simp [hr], fun _ => rfl⟩
          rw [setHandler_queue, hq.mem, hy]
          rfl
  case read =>
    split at hs <;> try contradiction
    case h_1 hy =>
      have hw : ¬s.Waits .rpcStreamTx y := hq.not_waits (by simp [hy])
      split at hs
      case isTrue =>
        obtain rfl := Option.some.inj hs
        exact ⟨_, .of_ask hq hw nofun (by simp [hy, YamuxHandler.asked]) (by rw [hy]; rfl), by simp,
          nofun⟩
      case isFalse =>
        split at hs <;> try contradiction
        obtain rfl := Option.some.inj hs
        refine ⟨.ended, .of_release hq hw rfl rfl rfl rfl (nodup_release hq.nodup) (fun l y' => ?_)
          fun _ => waits_of_release, by simp, nofun⟩
        simp [mem_release (s := s.setHandler y .ended) hq.nodup, hy, YamuxHandler.asked]
  case find =>
    split at hs <;> try contradiction
    case h_1 connectionId hy =>
      have hw : ¬s.Waits .rpcStreamTx y := hq.not_waits (by simp [hy])
      split at hs <;> try contradiction
      split at hs <;> obtain rfl := Option.some.inj hs
      case h_1 p _ =>
        have hg : s.Goes y (.joins connectionId p)
            ((s.setHandler y (.joins connectionId p)).ask .openedConnections y) :=
          .of_ask hq hw nofun (by simp [hy, YamuxHandler.asked]) (by rw [hy]; rfl)
        exact ⟨_, hg.congr rfl rfl rfl rfl, by simp, nofun⟩
      case h_2 =>
        have h₁ : ∀ l, (((s.setHandler y .ended).release .futureConnections y).queue l).Nodup :=
          nodup_release hq.nodup
        refine ⟨.ended, .of_release hq hw rfl rfl rfl rfl (nodup_release h₁) (fun l y' => ?_)
          fun _ hw => waits_of_release (waits_of_release hw), by simp, nofun⟩
        rw [mem_release h₁, mem_release (s := s.setHandler y .ended) hq.nodup, hy]
        cases l <;> simp [YamuxHandler.asked]
  case join =>
    split at hs <;> try contradiction
    case h_1 hy =>
      have hw : ¬s.Waits .rpcStreamTx y := hq.not_waits (by simp [hy])
      split at hs <;> try contradiction
      obtain rfl := Option.some.inj hs
      have h₁ : ∀ l, (((s.setHandler y .ended).release .openedConnections y).queue l).Nodup :=
        nodup_release hq.nodup
      have h₂ : ∀ l, ((((s.setHandler y .ended).release .openedConnections y).release
          .futureConnections y).queue l).Nodup := nodup_release h₁
      have hg : s.Goes y .ended ((((s.setHandler y .ended).release .openedConnections y).release
          .futureConnections y).release .rpcStreamTx y) := by
        refine .of_release hq hw rfl rfl rfl rfl (nodup_release h₂) (fun l y' => ?_)
          fun _ hw => waits_of_release (waits_of_release (waits_of_release hw))
        rw [mem_release h₂, mem_release h₁, mem_release (s := s.setHandler y .ended) hq.nodup, hy]
        cases l <;> simp [YamuxHandler.asked]
      exact ⟨_, hg.congr rfl rfl rfl rfl, by simp, nofun⟩

theorem Queued.next (hq : s.Queued) {label : Label} (hs : s.next label = some s') : s'.Queued := by
  cases label
  case take | read | find | join =>
    obtain ⟨_, hg, _⟩ := hq.goes rfl hs
    exact hg.queued hq
  case arrive | close =>
    obtain rfl := Option.some.inj hs
    exact ⟨hq.nodup, hq.mem, hq.locks⟩
  case insert =>
    simp only [YamuxServer.next] at hs
    split at hs <;> try contradiction
    obtain rfl := Option.some.inj hs
    exact ⟨hq.nodup, hq.mem, hq.locks⟩
  case accept y =>
    simp only [YamuxServer.next] at hs
    split at hs <;> try contradiction
    case h_1 hy =>
      obtain rfl := Option.some.inj hs
      have hn : y ∉ s.queue .rpcStreamTx := by simp [hq.mem, hy, YamuxHandler.asked]
      constructor
      case nodup => exact nodup_ask hq.nodup hn
      case mem =>
        intro l y'
        rw [mem_ask, setHandler_queue, ask_handlers, hq.mem]
        by_cases hy' : y' = y
        case pos => simp [setHandler, hy', hy, YamuxHandler.asked]
        case neg => simp [setHandler, hy']
      case locks =>
        intro y' hw
        by_cases hy' : y' = y
        case pos => simp [setHandler, hy']
        case neg =>
          have hw := (waits_ask_iff.mp hw).resolve_right fun he => hy' he.2.1
          simpa [setHandler, hy'] using hq.locks y' hw

theorem Goes.stalls (hg : s.Goes y h s') (hr : h ≠ .reads) (hz : s'.Stalls z) : s.Stalls z := by
  obtain ⟨hs, hp, ho⟩ := hz
  rw [hg.handlers] at hs
  have hy : z ≠ y := by
    rintro rfl
    exact hr (by simpa using hs)
  rw [Function.update_of_ne hy] at hs
  rw [HasId, hg.arrived] at hp
  exact ⟨hs, hp, hg.closed ▸ ho⟩

theorem Stalls.setHandler (hz : s.Stalls z) (hy : s.handlers y ≠ .reads) :
    (s.setHandler y h).Stalls z where
  reads  := by
    have hn : z ≠ y := fun he => hy (he ▸ hz.reads)
    simp [YamuxServer.setHandler, hn, hz.reads]
  partly := hz.partly
  opened := hz.opened

theorem Queued.independent_next_iff (hq : s.Queued) (hi : s.Independent) {label : Label}
    (hs : s.next label = some s') : s'.Independent ↔ label.KeepsIndependent s := by
  rw [(hq.next hs).independent_iff]
  rw [hq.independent_iff] at hi
  cases label
  case accept y =>
    simp only [YamuxServer.next] at hs
    split at hs <;> try contradiction
    case h_1 hy =>
      obtain rfl := Option.some.inj hs
      constructor
      case mp =>
        intro h hd z hz
        -- The lock of a stream that stalls is taken, so that the new one waits for it.
        have hn : s.queue .rpcStreamTx ≠ [] := by
          have hh := hq.holds_of_stalls hz
          intro he
          simp [Holds, he] at hh
        have hz : (s.setHandler y .locks).Stalls z := hz.setHandler (by simp [hy])
        exact h y z hd (waits_ask_iff.mpr <| .inr ⟨rfl, rfl, hn⟩) ⟨hz.reads, hz.partly, hz.opened⟩
      case mpr =>
        intro hk y' z hd hw hz
        have hr := hz.reads
        have hn : z ≠ y := by
          rintro rfl
          simp [setHandler] at hr
        have hz' : s.Stalls z := ⟨by simpa [setHandler, hn] using hr, hz.partly, hz.opened⟩
        rcases waits_ask_iff.mp hw with hw | ⟨_, rfl, _⟩
        case inl => exact hi y' z hd hw hz'
        case inr => exact hk hd z hz'
  case arrive y bytes =>
    obtain rfl := Option.some.inj hs
    constructor
    case mp =>
      intro h hw hd z hz
      have hn : z ≠ y := by
        rintro rfl
        exact hq.not_waits (by simp [hz.reads]) hw
      refine h y z ?_ hw ⟨hz.reads, ?_, hz.opened⟩
      · simpa [HasId] using hd
      · simpa [HasId, hn] using hz.partly
    case mpr =>
      intro hk y' z hd hw hz
      have hp : ¬s.HasId z := by
        intro hd
        refine hz.partly ?_
        by_cases hy : z = y
        case pos => simpa [HasId, hy] using Nat.le_add_right_of_le (hy ▸ hd)
        case neg => simpa [HasId, hy] using hd
      have hz' : s.Stalls z := ⟨hz.reads, hp, hz.opened⟩
      by_cases hy : y' = y
      case pos =>
        subst hy
        exact hk hw (by simpa [HasId] using hd) z hz'
      case neg => exact hi y' z (by simpa [HasId, hy] using hd) hw hz'
  case close y =>
    obtain rfl := Option.some.inj hs
    refine iff_of_true (fun y' z hd hw hz => hi y' z hd hw ⟨hz.reads, hz.partly, ?_⟩) trivial
    have ho := hz.opened
    by_cases hy : z = y
    case pos => simp [hy] at ho
    case neg => simpa [hy] using ho
  case insert =>
    simp only [YamuxServer.next] at hs
    split at hs <;> try contradiction
    obtain rfl := Option.some.inj hs
    exact iff_of_true (fun y z hd hw hz => hi y z hd hw ⟨hz.reads, hz.partly, hz.opened⟩) trivial
  case take y =>
    obtain ⟨h, hg, hr, hl⟩ := hq.goes rfl hs
    have ha {y' : Nat} : s'.HasId y' ↔ s.HasId y' := by rw [HasId, HasId, hg.arrived]
    by_cases hn : s.rpcStream = none
    case pos =>
      have hr : h ≠ .reads := fun he => (hr.mp he).2 hn
      exact iff_of_true (fun y' z hd hw hz =>
        hi y' z (ha.mp hd) (hg.waiting y' hw) (hg.stalls hr hz)) fun hn' => absurd hn hn'
    case neg =>
      obtain rfl := hr.mpr ⟨rfl, hn⟩
      constructor
      case mp =>
        intro h _ hp ho y' hw hd
        refine h y' y (ha.mpr hd) ?_ ⟨?_, ha.not.mpr hp, hg.closed ▸ ho⟩
        · rwa [Waits, hl rfl]
        · rw [hg.handlers, Function.update_self]
      case mpr =>
        intro hk y' z hd hw hz
        have hw := hg.waiting y' hw
        by_cases hzy : z = y
        case pos =>
          subst hzy
          exact hk hn (ha.not.mp hz.partly) (hg.closed ▸ hz.opened) y' hw (ha.mp hd)
        case neg =>
          have hr := hz.reads
          rw [hg.handlers, Function.update_of_ne hzy] at hr
          exact hi y' z (ha.mp hd) hw ⟨hr, ha.not.mp hz.partly, hg.closed ▸ hz.opened⟩
  case read | find | join =>
    obtain ⟨h, hg, hr, _⟩ := hq.goes rfl hs
    have hr : h ≠ .reads := fun he => nomatch (hr.mp he).1
    have ha {y' : Nat} : s'.HasId y' ↔ s.HasId y' := by rw [HasId, HasId, hg.arrived]
    exact iff_of_true
      (fun y' z hd hw hz => hi y' z (ha.mp hd) (hg.waiting y' hw) (hg.stalls hr hz)) trivial

-- The streams stay independent exactly in the runs in which no stream whose connection ID has
-- arrived gets behind one that stalls.
theorem independent_iff_keepsIndependent {tr : List (YamuxServer × Label)}
    (r : Run step {} tr s) :
    Run.Always Independent tr s ↔ Meets (fun s label => label.KeepsIndependent s) tr := by
  refine r.always_iff_meets (I := Queued) .of_start ?_ (fun _ _ _ hq hs => hq.next hs)
    fun _ _ _ hq hi hs => hq.independent_next_iff hi hs
  exact Queued.of_start.independent_iff.mpr fun y _ hd => by simp [HasId] at hd

theorem Queued.openedConnections_of_stalls (hq : s.Queued) (hz : s.Stalls z) {label : Label}
    (hs : s.next label = some s') : s'.openedConnections = s.openedConnections := by
  cases label <;> simp only [YamuxServer.next] at hs
  case join y =>
    split at hs <;> try contradiction
    case h_1 hy =>
      -- The handler that joins has the first lock as well.
      have hh := hq.holds (y := y) (by simp [hy, YamuxHandler.asked]) (by simp [hy])
      have hr := hz.reads
      obtain rfl := Option.some.inj <| (hq.holds_of_stalls hz).symm.trans hh
      simp [hy] at hr
  all_goals
    repeat' split at hs <;> try contradiction
    all_goals
      obtain rfl := Option.some.inj hs
      rfl

theorem Stalls.goes_ne (hz : s.Stalls z) {label : Label} (hl : label.goes = some y)
    (hs : s.next label = some s') : z ≠ y := by
  rintro rfl
  have hr := hz.reads
  have hp := hz.partly
  have ho := hz.opened
  simp only [HasId] at hp
  cases label
  case accept | arrive | close | insert => contradiction
  all_goals
    obtain rfl := Option.some.inj hl.symm
    simp [YamuxServer.next, hr, hp, ho] at hs

theorem Queued.stalls_next (hq : s.Queued) (hz : s.Stalls z) {label : Label}
    (ha : ∀ bytes, label ≠ .arrive z bytes) (hc : label ≠ .close z)
    (hs : s.next label = some s') : s'.Stalls z := by
  cases label
  case take | read | find | join =>
    have hn := hz.goes_ne rfl hs
    obtain ⟨_, hg, _⟩ := hq.goes rfl hs
    refine ⟨?_, by simpa [HasId, hg.arrived] using hz.partly, hg.closed ▸ hz.opened⟩
    rw [hg.handlers, Function.update_of_ne hn, hz.reads]
  case arrive y bytes =>
    obtain rfl := Option.some.inj hs
    have hn : z ≠ y := fun he => ha bytes (he ▸ rfl)
    exact ⟨hz.reads, by simpa [HasId, hn] using hz.partly, hz.opened⟩
  case close y =>
    obtain rfl := Option.some.inj hs
    have hn : z ≠ y := fun he => hc (he ▸ rfl)
    exact ⟨hz.reads, hz.partly, by simpa [hn] using hz.opened⟩
  case insert =>
    simp only [YamuxServer.next] at hs
    split at hs <;> try contradiction
    obtain rfl := Option.some.inj hs
    exact ⟨hz.reads, hz.partly, hz.opened⟩
  case accept y =>
    simp only [YamuxServer.next] at hs
    split at hs <;> try contradiction
    case h_1 hy =>
      obtain rfl := Option.some.inj hs
      have hz : (s.setHandler y .locks).Stalls z := hz.setHandler (by simp [hy])
      exact ⟨hz.reads, hz.partly, hz.opened⟩

theorem openedConnections_of_run {tr : List (YamuxServer × Label)} (hq : s.Queued) (hz : s.Stalls z)
    (r : Run step s tr s')
    (h : Meets (fun _ label => (∀ bytes, label ≠ .arrive z bytes) ∧ label ≠ .close z) tr) :
    s'.openedConnections = s.openedConnections := by
  have hi := r.invariant_of_meets (I := fun s₁ => s₁.Queued ∧ s₁.Stalls z ∧
    s₁.openedConnections = s.openedConnections) h ⟨hq, hz, rfl⟩ fun s₁ l s₂ hi hc hs => ?_
  · exact hi.2.2
  · obtain ⟨hq, hz, ho⟩ := hi
    exact ⟨hq.next hs, hq.stalls_next hz hc.1 hc.2 hs,
      (hq.openedConnections_of_stalls hz hs).trans ho⟩

-- A check of a step that does not look for streams that stall.
private def waitsInTurn (s : YamuxServer) : Label → Bool
  | .accept y   => !decide (s.HasId y)
  | .arrive y _ => decide (y ∉ (s.queue .rpcStreamTx).tail)
  | .take _     => (s.queue .rpcStreamTx).tail.all fun y => !decide (s.HasId y)
  | _           => true

private theorem waitsInTurn.keepsIndependent {label : Label} (h : waitsInTurn s label = true) :
    label.KeepsIndependent s := by
  cases label
  case accept y       => exact fun hd => absurd hd <| by simpa [waitsInTurn] using h
  case arrive y bytes => exact fun hw => absurd hw <| by simpa [waitsInTurn, Waits] using h
  case take y =>
    intro _ _ _ y' hw
    simp only [waitsInTurn, List.all_eq_true, Bool.not_eq_true', decide_eq_false_iff_not] at h
    exact h y' hw
  all_goals trivial

-- After the RPC stream, two streams get the lock and their connection IDs one after the other.
theorem independent_iff_keepsIndependent_sample : ∃ tr s, Run step {} tr s ∧
    s.openedConnections.lookup 1 = some (1, 10) ∧ Run.Always Independent tr s := by
  obtain ⟨tr, s, r, hm, hc⟩ := Run.of_checked next {} [
    .accept 0,
    .take 0,
    .insert 1 10,
    .accept 1,
    .accept 2,
    .take 1,
    .arrive 1 [0, 0, 0, 0, 0, 0, 0, 1],
    .read 1,
    .find 1,
    .join 1,
    .take 2,
    .arrive 2 [0, 0, 0, 0, 0, 0, 0, 2],
    .read 2,
    .find 2
  ] waitsInTurn (fun s => decide (s.openedConnections.lookup 1 = some (1, 10))) (by decide +kernel)
  refine ⟨tr, s, r, of_decide_eq_true hc, (independent_iff_keepsIndependent r).mpr ?_⟩
  exact fun p hp => waitsInTurn.keepsIndependent (hm p hp)

-- The stream 1 stalls with the lock, when the connection ID of the stream 2 arrives.
theorem not_independent : ¬∀ (tr : List (YamuxServer × Label)) (s : YamuxServer),
    Run step {} tr s → s.Independent := by
  intro h
  obtain ⟨tr, s, r, ht, hc⟩ := Run.of_schedule next {} [
    .accept 0,
    .take 0,
    .accept 1,
    .accept 2,
    .take 1,
    .arrive 2 [0, 0, 0, 0, 0, 0, 0, 2]
  ] (fun s => decide (s.HasId 2 ∧ s.queue .rpcStreamTx = [1, 2] ∧ s.handlers 1 = .reads ∧
      ¬s.HasId 1 ∧ s.closed 1 = false)) (by decide +kernel)
  obtain ⟨hd, hq, hr, hp, ho⟩ := of_decide_eq_true hc
  exact h tr s r .rpcStreamTx 2 1 hd (by simp [Waits, hq]) (by simp [Holds, hq]) ⟨hr, hp, ho⟩

end YamuxServer
end Derouter
