import Derouter.Rpc.Tunnels

open Transition

namespace Derouter

namespace StreamTask

-- The ID that was allocated for the stream.
def number : StreamTask → Option UInt64
  | counted _ k        => some k
  | inserted _ k       => some k
  | responds _ (.ok k) => some k
  | numbered k _       => some k
  | entered k _        => some k
  | _                  => none

-- The ID under which the stream was inserted, and which the module is still to be told.
def held : StreamTask → Option UInt64
  | inserted _ k       => some k
  | responds _ (.ok k) => some k
  | entered k _        => some k
  | _                  => none

-- No ID is going to be allocated for the stream.
def isNumbered : StreamTask → Bool
  | absent     => false
  | opens _    => false
  | opened _   => false
  | accepted _ => false
  | _          => true

-- The stream is not going to be inserted.
def isPast : StreamTask → Bool
  | inserted _ _ => true
  | responds _ _ => true
  | entered _ _  => true
  | ended        => true
  | _            => false

-- What a task may become with nothing happening to its ID.
structure Moves (t t' : StreamTask) : Prop where
  number     : t'.number = none ∨ t'.number = t.number
  held       : t'.held = none ∨ t'.held = t.held
  isNumbered : t.isNumbered = true → t'.isNumbered = true
  isPast     : t.isPast = true → t'.isPast = true
  ended      : t ≠ .ended

theorem Moves.of_not_isNumbered {t t' : StreamTask} (h : t.isNumbered = false)
    (hn : t'.number = none) : t.Moves t' where
  number     := .inl hn
  held       := by
    left
    cases t'
    case responds response => cases response <;> first | contradiction | rfl
    all_goals first | contradiction | rfl
  isNumbered := fun h' => absurd (h.symm.trans h') Bool.false_ne_true
  isPast     := by cases t <;> first | contradiction | exact nofun
  ended      := by rintro rfl; contradiction

theorem number_refusal {result : HeadResult} (h : result.refusal = some response) :
    (responds requestId response).number = none := by
  cases result
  case response head =>
    cases head
    case ok => contradiction
    all_goals
      obtain rfl := Option.some.inj h
      rfl
  all_goals
    obtain rfl := Option.some.inj h
    rfl

end StreamTask

namespace Tunnels

-- What a step may do.
inductive Turns (s : Tunnels) : Tunnels → Prop
  | moves (i : Nat) (t : StreamTask) (holder : Option Nat) (told : List (Nat × Notice))
      (moves : (s.streams i).Moves t)
      (announced : announced { s with told } = s.announced) :
      Turns s { s.setStream i t with counterHolder := holder, told }
  | counts (i : Nat) (t : StreamTask) (holder : Option Nat)
      (isNumbered : (s.streams i).isNumbered = false) (isPast : (s.streams i).isPast = false)
      (number : t.number = some (s.counter + 1)) (held : t.held = none)
      (isNumbered' : t.isNumbered = true) :
      Turns s { (s.allocate i).setStream i t with counterHolder := holder }
  | inserts (i : Nat) (connectionId : UInt64) (t : StreamTask)
      (number : (s.streams i).number = some connectionId) (isPast : (s.streams i).isPast = false)
      (number' : t.number = some connectionId) (held : t.held = some connectionId)
      (isNumbered : t.isNumbered = true) (isPast' : t.isPast = true) :
      Turns s ((s.insertStream i connectionId).setStream i t)
  | tells (i : Nat) (connectionId : UInt64) (notice : Notice)
      (number : (s.streams i).number = some connectionId)
      (held : (s.streams i).held = some connectionId)
      (tells : notice.connectionId = some connectionId) :
      Turns s ((s.setStream i .ended).tell i notice)
  | yamux (y : Nat) (u : YamuxTask) (rpcStream holder : Option Nat)
      (yamux : s.yamux y ≠ .ended ∧ s.yamux y ≠ .rpc)
      (rpc : rpcStream = s.rpcStream ∨ rpcStream = some y ∧ u = .rpc) :
      Turns s { s.setYamux y u with rpcStream, rpcStreamHolder := holder }
  | finds (y i : Nat) (connectionId : UInt64) (yamux : s.yamux y = .looksUp connectionId)
      (lookup : s.futureConnections.lookup connectionId = some i) :
      Turns s { s.setYamux y .ended with
        rpcStreamHolder   := none
        presented         := connectionId :: s.presented
        futureConnections := s.futureConnections.erase connectionId
        joined            := (y, i) :: s.joined
      }
  | misses (y : Nat) (connectionId : UInt64) (yamux : s.yamux y = .looksUp connectionId)
      (lookup : s.futureConnections.lookup connectionId = none) :
      Turns s { s.setYamux y .ended with
        rpcStreamHolder := none
        presented       := connectionId :: s.presented
      }

variable {s s' : Tunnels} {l : Label}

theorem announced_tell (i : Nat) (notice : Notice) (h : notice.connectionId = none) :
    announced { s with told := (i, notice) :: s.told } = s.announced := by
  simp [announced, h]

theorem turns_count (h : step s (.count i) s') : s.Turns s' := by
  simp only [step, ofFn, next] at h
  split at h
  case isFalse => contradiction
  case isTrue =>
    split at h
    case h_3 => contradiction
    case h_1 hs =>
      obtain rfl := Option.some.inj h
      exact .counts i _ _ (by rw [hs]; rfl) (by rw [hs]; rfl) rfl rfl rfl
    case h_2 hs =>
      obtain rfl := Option.some.inj h
      exact .counts i _ s.counterHolder (by rw [hs]; rfl) (by rw [hs]; rfl) rfl rfl rfl

theorem turns_insert (h : step s (.insert i) s') : s.Turns s' := by
  simp only [step, ofFn, next] at h
  split at h
  case h_3 => contradiction
  case h_1 hs =>
    obtain rfl := Option.some.inj h
    exact .inserts i _ _ (by rw [hs]; rfl) (by rw [hs]; rfl) rfl rfl rfl rfl
  case h_2 hs =>
    obtain rfl := Option.some.inj h
    exact .inserts i _ _ (by rw [hs]; rfl) (by rw [hs]; rfl) rfl rfl rfl rfl

theorem turns_tell (h : step s (.tell i) s') : s.Turns s' := by
  simp only [step, ofFn, next] at h
  split at h
  case h_3 => contradiction
  case h_1 requestId response hs =>
    obtain rfl := Option.some.inj h
    cases hn : (Notice.response requestId response).connectionId
    case none =>
      refine .moves i .ended s.counterHolder _ ?_ (announced_tell i _ hn)
      rw [hs]
      exact ⟨.inl rfl, .inl rfl, fun _ => rfl, fun _ => rfl, nofun⟩
    case some connectionId =>
      have hr : response = .ok connectionId := by
        cases response
        case ok => exact congrArg _ (Option.some.inj hn)
        all_goals contradiction
      subst hr
      exact .tells i connectionId _ (by rw [hs]; rfl) (by rw [hs]; rfl) rfl
  case h_2 hs =>
    obtain rfl := Option.some.inj h
    exact .tells i _ _ (by rw [hs]; rfl) (by rw [hs]; rfl) rfl

theorem turns_yamux (h : step s l s') (hl : (∃ y, l = .openYamux y) ∨ (∃ y, l = .lock y) ∨
    ∃ y connectionId, l = .read y connectionId) : s.Turns s' := by
  obtain ⟨y, rfl⟩ | ⟨y, rfl⟩ | ⟨y, connectionId, rfl⟩ := hl
  all_goals simp only [step, ofFn, next] at h
  case inl =>
    split at h
    case h_2 => contradiction
    case h_1 hy =>
      obtain rfl := Option.some.inj h
      exact .yamux y .waits s.rpcStream s.rpcStreamHolder (by simp [hy]) (.inl rfl)
  case inr.inl =>
    split at h
    case h_2 => contradiction
    case h_1 hy =>
      split at h
      case isFalse => contradiction
      case isTrue =>
        split at h
        case h_1 =>
          obtain rfl := Option.some.inj h
          exact .yamux y .rpc _ s.rpcStreamHolder (by simp [hy]) (.inr ⟨rfl, rfl⟩)
        case h_2 =>
          obtain rfl := Option.some.inj h
          exact .yamux y .reads s.rpcStream _ (by simp [hy]) (.inl rfl)
  case inr.inr =>
    split at h
    case h_2 => contradiction
    case h_1 hy =>
      split at h <;> obtain rfl := Option.some.inj h
      case h_1 => exact .yamux y _ s.rpcStream s.rpcStreamHolder (by simp [hy]) (.inl rfl)
      case h_2 => exact .yamux y .ended s.rpcStream _ (by simp [hy]) (.inl rfl)

theorem turns (h : step s l s') : s.Turns s' := by
  cases l
  case count      => exact turns_count h
  case insert     => exact turns_insert h
  case tell       => exact turns_tell h
  case openYamux  => exact turns_yamux h (.inl ⟨_, rfl⟩)
  case lock       => exact turns_yamux h (.inr <| .inl ⟨_, rfl⟩)
  case read       => exact turns_yamux h (.inr <| .inr ⟨_, _, rfl⟩)
  all_goals simp only [step, ofFn, next] at h
  case request i requestId found =>
    split at h
    case h_2 => contradiction
    case h_1 hs =>
      split at h
      case isTrue => contradiction
      case isFalse =>
        split at h
        case isTrue =>
          obtain rfl := Option.some.inj h
          exact .moves i _ s.counterHolder s.told (.of_not_isNumbered (by rw [hs]; rfl) rfl) rfl
        case isFalse =>
          obtain rfl := Option.some.inj h
          exact .moves i _ s.counterHolder _ (.of_not_isNumbered (by rw [hs]; rfl) rfl)
            (announced_tell i _ rfl)
  case head i result =>
    split at h
    case h_2 => contradiction
    case h_1 hs =>
      split at h
      case h_1 response hr =>
        obtain rfl := Option.some.inj h
        exact .moves i _ s.counterHolder s.told
          (.of_not_isNumbered (by rw [hs]; rfl) (StreamTask.number_refusal hr)) rfl
      case h_2 =>
        obtain rfl := Option.some.inj h
        exact .moves i _ s.counterHolder s.told (.of_not_isNumbered (by rw [hs]; rfl) rfl) rfl
  case unlock i =>
    split at h
    case h_2 => contradiction
    case h_1 hs =>
      obtain rfl := Option.some.inj h
      refine .moves i _ none s.told ?_ rfl
      rw [hs]
      exact ⟨.inr rfl, .inr rfl, fun _ => rfl, fun _ => rfl, nofun⟩
  case accept i nonce =>
    split at h
    case h_2 => contradiction
    case h_1 hs =>
      split at h
      case isTrue => contradiction
      case isFalse =>
        obtain rfl := Option.some.inj h
        exact .moves i _ s.counterHolder s.told (.of_not_isNumbered (by rw [hs]; rfl) rfl) rfl
  case fail i =>
    split at h
    case h_1 => contradiction
    case h_2 => contradiction
    case h_3 hs =>
      obtain rfl := Option.some.inj h
      exact .moves i .ended _ s.told ⟨.inl rfl, .inl rfl, fun _ => rfl, fun _ => rfl, hs⟩ rfl
  case lookUp y =>
    split at h
    case h_2 => contradiction
    case h_1 connectionId hy =>
      split at h
      case h_1 i hl => exact Option.some.inj h ▸ .finds y i connectionId hy hl
      case h_2 hl   => exact Option.some.inj h ▸ .misses y connectionId hy hl

section Update

variable {streams : Nat → StreamTask} {P : StreamTask → Prop}

theorem holds_update (h : P (streams i) → P t) (hj : P (streams j)) :
    P (Function.update streams i t j) := by
  by_cases he : j = i
  case pos => simpa only [he, Function.update_self] using h (he ▸ hj)
  case neg => simpa only [Function.update_of_ne he] using hj

theorem holds_of_update (h : P t → P (streams i)) (hj : P (Function.update streams i t j)) :
    P (streams j) := by
  by_cases he : j = i
  case pos => exact he ▸ h (by simpa only [he, Function.update_self] using hj)
  case neg => simpa only [Function.update_of_ne he] using hj

end Update

-- The IDs are those that the counter has gone through, each for a stream of its own.
structure Counted (counter : UInt64) (allocated : List (UInt64 × Nat))
    (streams : Nat → StreamTask) : Prop where
  counter    : counter = .ofNat allocated.length
  ids        : ∀ p ∈ allocated, ∃ n, 0 < n ∧ n ≤ allocated.length ∧ p.1 = .ofNat n
  nodupIds   : (allocated.map (·.1)).Nodup
  nodup      : (allocated.map (·.2)).Nodup
  number     : ∀ i k, (streams i).number = some k → (k, i) ∈ allocated
  isNumbered : ∀ p ∈ allocated, (streams p.2).isNumbered = true

namespace Counted

variable {counter : UInt64} {allocated : List (UInt64 × Nat)} {streams : Nat → StreamTask}

-- As long as the counter has not come around, its next value is new.
theorem not_mem (hc : Counted counter allocated streams) (hl : allocated.length < UInt64.size) :
    counter + 1 ∉ allocated.map (·.1) := by
  intro hm
  obtain ⟨p, hp, he⟩ := List.mem_map.mp hm
  obtain ⟨n, hn, hn', hk⟩ := hc.ids p hp
  have he : UInt64.ofNat n = .ofNat allocated.length + 1 := by
    rw [← hk, he, hc.counter]
  simp only [← UInt64.toNat_inj, UInt64.toNat_add, UInt64.toNat_ofNat', UInt64.toNat_one,
    UInt64.size] at he hl
  omega

theorem stream_inj (hc : Counted counter allocated streams) (h : (k, i) ∈ allocated)
    (h' : (k, j) ∈ allocated) : i = j :=
  congrArg Prod.snd <| List.inj_on_of_nodup_map hc.nodupIds h h' rfl

theorem id_inj (hc : Counted counter allocated streams) (h : (k, i) ∈ allocated)
    (h' : (k', i) ∈ allocated) : k = k' :=
  congrArg Prod.fst <| List.inj_on_of_nodup_map hc.nodup h h' rfl

theorem update (hc : Counted counter allocated streams)
    (hn : ∀ k, t.number = some k → (k, i) ∈ allocated)
    (hi : (streams i).isNumbered = true → t.isNumbered = true) :
    Counted counter allocated (Function.update streams i t) where
  counter    := hc.counter
  ids        := hc.ids
  nodupIds   := hc.nodupIds
  nodup      := hc.nodup
  number     := by
    intro j k
    by_cases hj : j = i
    case pos => simpa only [hj, Function.update_self] using hn k
    case neg => simpa only [Function.update_of_ne hj] using hc.number j k
  isNumbered := fun p hp => holds_update (P := (·.isNumbered = true)) hi (hc.isNumbered p hp)

theorem allocate (hc : Counted counter allocated streams) (hl : allocated.length < UInt64.size)
    (hi : (streams i).isNumbered = false) (hn : t.number = some (counter + 1))
    (ht : t.isNumbered = true) :
    Counted (counter + 1) ((counter + 1, i) :: allocated) (Function.update streams i t) := by
  have hi' : i ∉ allocated.map (·.2) := by
    intro hm
    obtain ⟨p, hp, rfl⟩ := List.mem_map.mp hm
    exact Bool.false_ne_true <| hi.symm.trans (hc.isNumbered p hp)
  have hk : counter + 1 = .ofNat (allocated.length + 1) := by
    rw [hc.counter, UInt64.ofNat_add, UInt64.ofNat_one]
  constructor
  case counter => exact hk
  case ids =>
    rw [List.forall_mem_cons]
    refine ⟨⟨_, Nat.succ_pos _, Nat.le_refl _, hk⟩, fun p hp => ?_⟩
    obtain ⟨n, hn, hn', he⟩ := hc.ids p hp
    exact ⟨n, hn, Nat.le_succ_of_le hn', he⟩
  case nodupIds => exact List.nodup_cons.mpr ⟨hc.not_mem hl, hc.nodupIds⟩
  case nodup    => exact List.nodup_cons.mpr ⟨hi', hc.nodup⟩
  case number =>
    intro j k
    by_cases hj : j = i
    case pos =>
      simp only [hj, Function.update_self, hn, Option.some.injEq]
      rintro rfl
      exact List.mem_cons_self
    case neg =>
      rw [Function.update_of_ne hj]
      exact fun hk => List.mem_cons_of_mem _ (hc.number j k hk)
  case isNumbered =>
    intro p hp
    by_cases hj : p.2 = i
    case pos => rw [hj, Function.update_self, ht]
    case neg =>
      rw [Function.update_of_ne hj]
      obtain rfl | hp := List.mem_cons.mp hp
      case inl => exact absurd rfl hj
      case inr => exact hc.isNumbered p hp

end Counted

theorem counted_step (hc : Counted s.counter s.allocated s.streams) (h : step s l s')
    (hl : s'.allocated.length ≤ UInt64.size) : Counted s'.counter s'.allocated s'.streams := by
  cases turns h
  case moves i t holder told hm ha =>
    refine hc.update (fun k hk => ?_) hm.isNumbered
    obtain hn | hn := hm.number
    case inl => simp [hn] at hk
    case inr => exact hc.number i k (hn ▸ hk)
  case counts i t holder hi _ hn _ hi' => exact hc.allocate hl hi hn hi'
  case inserts i k t hn _ hn' _ hi _ =>
    refine hc.update (fun k' hk => ?_) fun _ => hi
    obtain rfl := Option.some.inj (hn'.symm.trans hk)
    exact hc.number i k hn
  case tells  => exact hc.update nofun fun _ => rfl
  case yamux  => exact hc
  case finds  => exact hc
  case misses => exact hc

-- A stream is in the map from its insertion on, until its ID is looked up. The module is told after
-- the insertion, and once for each stream.
structure Mapped (s : Tunnels) : Prop where
  entry       : ∀ k i, s.futureConnections.lookup k = some i →
    (k, i) ∈ s.allocated ∧ (s.streams i).isPast = true
  held        : ∀ i k, (s.streams i).held = some k →
    s.futureConnections.lookup k = some i ∨ k ∈ s.presented
  told        : ∀ p ∈ s.announced, p ∈ s.allocated ∧ s.streams p.2 = .ended ∧
    (s.futureConnections.lookup p.1 = some p.2 ∨ p.1 ∈ s.presented)
  announced   : (s.announced.map (·.1)).Nodup
  overwritten : s.overwritten = []

namespace Mapped

variable (hc : Counted s.counter s.allocated s.streams) (hm : s.Mapped)

include hm

theorem moves {told : List (Nat × Notice)} (ht : (s.streams i).Moves t)
    (ha : Tunnels.announced { s with told } = s.announced) :
    Mapped { s.setStream i t with counterHolder := holder, told } where
  entry k j hl := by
    obtain ⟨hk, hp⟩ := hm.entry k j hl
    exact ⟨hk, holds_update (P := (·.isPast = true)) ht.isPast hp⟩
  held j k hk := by
    refine hm.held j k <| holds_of_update (P := (·.held = some k)) (fun h => ?_) hk
    obtain hn | hn := ht.held
    case inl => simp [hn] at h
    case inr => exact hn ▸ h
  told p hp := by
    obtain ⟨hk, he, hl⟩ := hm.told p (ha ▸ hp)
    exact ⟨hk, holds_update (P := (· = .ended)) (absurd · ht.ended) he, hl⟩
  announced   := ha ▸ hm.announced
  overwritten := hm.overwritten

theorem counts (hp : (s.streams i).isPast = false) (hh : t.held = none) :
    Mapped { (s.allocate i).setStream i t with counterHolder := holder } where
  entry k j hl := by
    obtain ⟨hk, hp'⟩ := hm.entry k j hl
    have ht (h : (s.streams i).isPast = true) : t.isPast = true := by simp [hp] at h
    exact ⟨List.mem_cons_of_mem _ hk, holds_update (P := (·.isPast = true)) ht hp'⟩
  held j k hk :=
    hm.held j k <| holds_of_update (P := (·.held = some k)) (fun h => by simp [hh] at h) hk
  told p hp' := by
    obtain ⟨hk, he, hl⟩ := hm.told p hp'
    have ht (h : s.streams i = .ended) : t = .ended := by simp [h, StreamTask.isPast] at hp
    exact ⟨List.mem_cons_of_mem _ hk, holds_update (P := (· = .ended)) ht he, hl⟩
  announced   := hm.announced
  overwritten := hm.overwritten

include hc in
theorem lookup_eq_none (hn : (s.streams i).number = some k) (hp : (s.streams i).isPast = false) :
    s.futureConnections.lookup k = none := by
  cases hl : s.futureConnections.lookup k
  case none => rfl
  case some j =>
    obtain ⟨hk, hp'⟩ := hm.entry k j hl
    obtain rfl := hc.stream_inj (hc.number i k hn) hk
    simp [hp] at hp'

include hc in
theorem inserts (hn : (s.streams i).number = some k) (hp : (s.streams i).isPast = false)
    (hh : t.held = some k) (hp' : t.isPast = true) :
    Mapped ((s.insertStream i k).setStream i t) where
  entry k' j hl := by
    by_cases hk : k' = k
    case pos =>
      subst hk
      obtain rfl : i = j := by simpa [setStream, insertStream] using hl
      exact ⟨hc.number i k' hn, by simpa [setStream] using hp'⟩
    case neg =>
      simp only [setStream, insertStream, AList.lookup_insert_ne hk] at hl
      obtain ⟨hk', hp''⟩ := hm.entry k' j hl
      have hj : j ≠ i := fun hj => by simp [hj, hp] at hp''
      refine ⟨hk', ?_⟩
      simpa only [setStream, insertStream, Function.update_of_ne hj] using hp''
  held j k' hk := by
    by_cases hj : j = i
    case pos =>
      subst hj
      obtain rfl : k = k' := by simpa [setStream, hh] using hk
      exact .inl <| by simp [setStream, insertStream]
    case neg =>
      simp only [setStream, insertStream, Function.update_of_ne hj] at hk
      refine (hm.held j k' hk).imp_left fun hl => ?_
      have hk' : k' ≠ k := fun hk' =>
        hj <| hc.stream_inj (hm.entry k' j hl).1 (hk' ▸ hc.number i k hn)
      simpa only [setStream, insertStream, AList.lookup_insert_ne hk'] using hl
  told p hp' := by
    obtain ⟨hk, he, hl⟩ := hm.told p hp'
    have hj : p.2 ≠ i := by
      rintro rfl
      simp [he, StreamTask.isPast] at hp
    have hk' : p.1 ≠ k := fun hk' => hj <| hc.stream_inj (hk' ▸ hk) (hc.number i k hn)
    refine ⟨hk, ?_, ?_⟩
    · simpa only [setStream, insertStream, Function.update_of_ne hj] using he
    · simpa only [setStream, insertStream, AList.lookup_insert_ne hk'] using hl
  announced   := hm.announced
  overwritten := by
    simp [setStream, insertStream, lookup_eq_none hc hm hn hp, hm.overwritten]

include hc in
theorem tells {notice : Notice} (hn : (s.streams i).number = some k)
    (hh : (s.streams i).held = some k) (ht : notice.connectionId = some k) :
    Mapped ((s.setStream i .ended).tell i notice) := by
  have ha : ((s.setStream i .ended).tell i notice).announced = (k, i) :: s.announced := by
    simp [Tunnels.announced, tell, setStream, ht]
  have hne : ∀ j, (k, j) ∉ s.announced := by
    intro j hj
    obtain ⟨hk, he, _⟩ := hm.told _ hj
    obtain rfl := hc.stream_inj (hc.number i k hn) hk
    simp [show s.streams i = .ended from he, StreamTask.held] at hh
  constructor
  case entry =>
    intro k' j hl
    obtain ⟨hk, hp⟩ := hm.entry k' j hl
    exact ⟨hk, holds_update (P := (·.isPast = true)) (fun _ => rfl) hp⟩
  case held =>
    intro j k' hk
    have ht (h : StreamTask.ended.held = some k') : (s.streams i).held = some k' := by contradiction
    exact hm.held j k' <| holds_of_update (P := (·.held = some k')) ht hk
  case told =>
    rw [ha, List.forall_mem_cons]
    refine ⟨⟨hc.number i k hn, by simp [tell, setStream], hm.held i k hh⟩, fun p hp => ?_⟩
    obtain ⟨hk, he, hl⟩ := hm.told p hp
    exact ⟨hk, holds_update (P := (· = .ended)) (fun _ => rfl) he, hl⟩
  case announced =>
    rw [ha, List.map_cons, List.nodup_cons]
    refine ⟨fun hk => ?_, hm.announced⟩
    obtain ⟨p, hp, rfl⟩ := List.mem_map.mp hk
    exact hne p.2 hp
  case overwritten => exact hm.overwritten

theorem finds {joined : List (Nat × Nat)} :
    Mapped { s.setYamux y u with
      rpcStreamHolder   := holder
      presented         := k :: s.presented
      futureConnections := s.futureConnections.erase k
      joined
    } := by
  have hl : ∀ k' i, s.futureConnections.lookup k' = some i ∨ k' ∈ s.presented →
      (s.futureConnections.erase k).lookup k' = some i ∨ k' ∈ k :: s.presented := by
    intro k' i h
    by_cases hk : k' = k
    case pos => exact .inr (hk ▸ List.mem_cons_self)
    case neg =>
      rw [AList.lookup_erase_ne hk]
      exact h.imp_right (List.mem_cons_of_mem _)
  refine ⟨fun k' i hl' => ?_, fun i k' hk => hl k' i (hm.held i k' hk), fun p hp => ?_,
    hm.announced, hm.overwritten⟩
  · have hk : k' ≠ k := by
      rintro rfl
      simp at hl'
    exact hm.entry k' i (AList.lookup_erase_ne hk ▸ hl')
  · obtain ⟨hk, he, hl'⟩ := hm.told p hp
    exact ⟨hk, he, hl p.1 p.2 hl'⟩

theorem misses :
    Mapped { s.setYamux y u with rpcStreamHolder := holder, presented := k :: s.presented } where
  entry       := hm.entry
  held i k' h := (hm.held i k' h).imp_right (List.mem_cons_of_mem _)
  told p hp   :=
    have ⟨hk, he, hl⟩ := hm.told p hp
    ⟨hk, he, hl.imp_right (List.mem_cons_of_mem _)⟩
  announced   := hm.announced
  overwritten := hm.overwritten

end Mapped

theorem mapped_step (hc : Counted s.counter s.allocated s.streams) (hm : s.Mapped)
    (h : step s l s') : s'.Mapped := by
  cases turns h
  case moves ht ha          => exact hm.moves ht ha
  case counts hp _ hh _     => exact hm.counts hp hh
  case inserts hn hp _ hh _ hp' => exact hm.inserts hc hn hp hh hp'
  case tells hn hh ht       => exact hm.tells hc hn hh ht
  case yamux  => exact ⟨hm.entry, hm.held, hm.told, hm.announced, hm.overwritten⟩
  case finds  => exact hm.finds
  case misses => exact hm.misses

-- A Yamux stream is joined at the end of its handler, and a P2P stream as it leaves the map for
-- good.
structure Joined (s : Tunnels) : Prop where
  joined  : ∀ p ∈ s.joined, s.yamux p.1 = .ended ∧ (s.streams p.2).isPast = true ∧
    ∀ k, s.futureConnections.lookup k ≠ some p.2
  yamux   : (s.joined.map (·.1)).Nodup
  streams : (s.joined.map (·.2)).Nodup
  rpc     : ∀ y, s.rpcStream = some y → s.yamux y = .rpc

theorem Joined.rest {counter : UInt64} {counterHolder rpcStreamHolder : Option Nat}
    {told : List (Nat × Notice)} {allocated : List (UInt64 × Nat)} {overwritten : List Nat}
    {presented : List UInt64} (hj : s.Joined) :
    Joined { s with
      counter, counterHolder, rpcStreamHolder, told, allocated, overwritten, presented
    } :=
  ⟨hj.joined, hj.yamux, hj.streams, hj.rpc⟩

theorem Joined.setStream (hj : s.Joined)
    (hp : (s.streams i).isPast = true → t.isPast = true) : (s.setStream i t).Joined where
  joined p hm := by
    obtain ⟨hy, hp', hl⟩ := hj.joined p hm
    exact ⟨hy, holds_update (P := (·.isPast = true)) hp hp', hl⟩
  yamux   := hj.yamux
  streams := hj.streams
  rpc     := hj.rpc

theorem Joined.insertStream (hj : s.Joined) (hp : (s.streams i).isPast = false) :
    (s.insertStream i k).Joined where
  joined p hm := by
    obtain ⟨hy, hp', hl⟩ := hj.joined p hm
    have hi : i ≠ p.2 := fun hi => by simp [← hi, hp] at hp'
    refine ⟨hy, hp', fun k' => ?_⟩
    by_cases hk : k' = k
    case pos =>
      rw [Tunnels.insertStream, hk, AList.lookup_insert]
      exact fun h => hi (Option.some.inj h)
    case neg => simpa only [Tunnels.insertStream, AList.lookup_insert_ne hk] using hl k'
  yamux   := hj.yamux
  streams := hj.streams
  rpc     := hj.rpc

theorem Joined.setYamux {rpcStream : Option Nat} (hj : s.Joined)
    (hy : s.yamux y ≠ .ended ∧ s.yamux y ≠ .rpc)
    (hr : rpcStream = s.rpcStream ∨ rpcStream = some y ∧ u = .rpc) :
    Joined { s.setYamux y u with rpcStream, rpcStreamHolder := holder } where
  joined p hm := by
    obtain ⟨hy', hp, hl⟩ := hj.joined p hm
    have hne : p.1 ≠ y := fun hne => hy.1 (hne ▸ hy')
    refine ⟨?_, hp, hl⟩
    simpa only [Tunnels.setYamux, Function.update_of_ne hne] using hy'
  yamux   := hj.yamux
  streams := hj.streams
  rpc y' h := by
    obtain rfl | ⟨rfl, rfl⟩ := hr
    case inl =>
      have hne : y' ≠ y := fun hne => hy.2 (hne ▸ hj.rpc y' h)
      simpa only [Tunnels.setYamux, Function.update_of_ne hne] using hj.rpc y' h
    case inr =>
      obtain rfl := Option.some.inj h
      simp [Tunnels.setYamux]

theorem joined_step (hc : Counted s.counter s.allocated s.streams) (hm : s.Mapped)
    (hj : s.Joined) (h : step s l s') : s'.Joined := by
  cases turns h
  case moves i t _ _ ht _ =>
    have hj' : (s.setStream i t).Joined := hj.setStream ht.isPast
    exact hj'.rest
  case counts i t _ _ hp _ _ _ =>
    have hj' : (s.setStream i t).Joined := hj.setStream fun h => by simp [hp] at h
    exact hj'.rest
  case inserts hp _ _ _ hp' => exact (hj.insertStream hp).setStream fun _ => hp'
  case tells i _ _ _ _ _ =>
    have hj' : (s.setStream i .ended).Joined := hj.setStream fun _ => rfl
    exact hj'.rest
  case yamux hy hr => exact hj.setYamux hy hr
  case misses y _ hy _ =>
    have hj' : Joined { s.setYamux y .ended with rpcStreamHolder := none } :=
      hj.setYamux (by simp [hy]) (.inl rfl)
    exact hj'.rest
  case finds y i k hy hl =>
    have hj' : Joined { s.setYamux y .ended with rpcStreamHolder := none } :=
      hj.setYamux (by simp [hy]) (.inl rfl)
    obtain ⟨hk, hp⟩ := hm.entry k i hl
    -- Whatever is left in the map was there before.
    have he : ∀ k' j, (s.futureConnections.erase k).lookup k' = some j →
        k' ≠ k ∧ s.futureConnections.lookup k' = some j := by
      intro k' j h
      have hk' : k' ≠ k := by
        rintro rfl
        simp at h
      exact ⟨hk', AList.lookup_erase_ne hk' ▸ h⟩
    constructor
    case joined =>
      rw [List.forall_mem_cons]
      refine ⟨⟨by simp [Tunnels.setYamux], hp, fun k' h => ?_⟩, fun p hm => ?_⟩
      · obtain ⟨hne, hl'⟩ := he k' i h
        exact hne <| hc.id_inj (hm.entry k' i hl').1 hk
      · obtain ⟨hy', hp', hl'⟩ := hj'.joined p hm
        exact ⟨hy', hp', fun k' h => hl' k' (he k' p.2 h).2⟩
    case yamux =>
      refine List.nodup_cons.mpr ⟨fun hy' => ?_, hj.yamux⟩
      obtain ⟨p, hp', rfl⟩ := List.mem_map.mp hy'
      exact absurd ((hj.joined p hp').1.symm.trans hy) (by simp)
    case streams =>
      refine List.nodup_cons.mpr ⟨fun hi => ?_, hj.streams⟩
      obtain ⟨p, hp', rfl⟩ := List.mem_map.mp hi
      exact (hj.joined p hp').2.2 k hl
    case rpc => exact hj'.rpc

theorem length_allocated_le (h : step s l s') : s.allocated.length ≤ s'.allocated.length := by
  cases turns h
  case counts => exact Nat.le_succ _
  all_goals exact Nat.le_refl _

theorem counted_start : Counted 0 [] fun _ => .absent :=
  ⟨rfl, nofun, .nil, .nil, nofun, nofun⟩

theorem mapped_start : Mapped {} :=
  ⟨nofun, nofun, nofun, .nil, rfl⟩

theorem joined_start : Joined {} :=
  ⟨nofun, .nil, .nil, nofun⟩

-- No tunnel is cross-wired while the counter has not come around.
theorem straight_of_run (r : Run step {} tr s) (h : s.allocated.length ≤ UInt64.size) :
    s.Straight := by
  obtain ⟨hc, hm, hj⟩ : Counted s.counter s.allocated s.streams ∧ s.Mapped ∧ s.Joined := by
    refine r.invariant (I := fun s => s.allocated.length ≤ UInt64.size →
      Counted s.counter s.allocated s.streams ∧ s.Mapped ∧ s.Joined) ?_ ?_ h
    case refine_1 => exact fun _ => ⟨counted_start, mapped_start, joined_start⟩
    case refine_2 =>
      intro s l s' hi h hl
      obtain ⟨hc, hm, hj⟩ := hi (Nat.le_trans (length_allocated_le h) hl)
      exact ⟨counted_step hc h hl, mapped_step hc hm h, joined_step hc hm hj h⟩
  constructor
  case announced   => exact hm.announced
  case overwritten => exact hm.overwritten
  case yamux       => exact hj.yamux
  case streams     => exact hj.streams
  case rpc =>
    intro y hy hm'
    obtain ⟨p, hp, rfl⟩ := List.mem_map.mp hm'
    exact absurd ((hj.joined p hp).1.symm.trans (hj.rpc p.1 hy)) (by simp)
  case finds =>
    intro _ k i _ hk hp ha
    obtain ⟨p, hp', rfl⟩ := List.mem_map.mp hk
    obtain ⟨ha', _, hl⟩ := hm.told p hp'
    obtain rfl := hc.stream_inj ha' ha
    exact hl.resolve_right hp

-- While the task of a module's request has the counter locked, an incoming stream is accepted. The
-- module then opens a stream for the first of them.
theorem straight_of_run_sample : ∃ tr s, Run step {} tr s ∧ s.joined = [(1, 0)] ∧
    s.announced = [(2, 1), (1, 0)] ∧ s.Straight := by
  obtain ⟨tr, s, r, _, hc⟩ := Run.of_schedule next {}
    [.openYamux 0, .lock 0, .request 0 7 true, .head 0 (.response .ok), .count 0, .accept 1 "nonce",
      .insert 0, .unlock 0, .count 1, .tell 0, .insert 1, .openYamux 1, .lock 1, .tell 1,
      .read 1 (some 1), .lookUp 1]
    (fun s => decide (s.joined = [(1, 0)]) && decide (s.announced = [(2, 1), (1, 0)]) &&
      decide (s.allocated.length ≤ UInt64.size)) (by decide +kernel)
  simp only [Bool.and_eq_true, decide_eq_true_eq] at hc
  obtain ⟨⟨hj, ha⟩, hl⟩ := hc
  exact ⟨tr, s, r, hj, ha, straight_of_run r hl⟩

theorem exists_announced (n : Nat) : ∃ tr s, Run step {} tr s ∧ s.rpcStream = some 0 ∧
    s.counterHolder = none ∧ (∀ i, n ≤ i → s.streams i = .absent) ∧ s.announced.length = n := by
  induction n
  case zero =>
    let s₁ : Tunnels := setYamux {} 0 .waits
    let s₂ : Tunnels := { s₁.setYamux 0 .rpc with rpcStream := some 0 }
    have h₁ : step {} (.openYamux 0) s₁ := rfl
    have h₂ : step s₁ (.lock 0) s₂ := rfl
    exact ⟨_, s₂, .cons h₁ <| .cons h₂ .nil, rfl, rfl, fun _ _ => rfl, rfl⟩
  case succ n hi =>
    obtain ⟨tr, s, r, hr, hh, hs, ha⟩ := hi
    let k := s.counter + 1
    let s₁ := s.setStream n <| .accepted ""
    let s₂ := (s₁.allocate n).setStream n <| .numbered k ""
    let s₃ := (s₂.insertStream n k).setStream n <| .entered k ""
    let s₄ := (s₃.setStream n .ended).tell n <| .openJobConnection k ""
    have h₁ : step s (.accept n "") s₁ := by
      simp [step, ofFn, next, hs n (Nat.le_refl n), hr, s₁]
    have h₂ : step s₁ (.count n) s₂ := by
      simp [step, ofFn, next, s₁, s₂, setStream, allocate, hh, k]
    have h₃ : step s₂ (.insert n) s₃ := by
      simp [step, ofFn, next, s₂, s₃, setStream]
    have h₄ : step s₃ (.tell n) s₄ := by
      simp [step, ofFn, next, s₃, s₄, setStream]
    refine ⟨_, s₄, r.trans <| .cons h₁ <| .cons h₂ <| .cons h₃ <| .cons h₄ .nil, hr, hh,
      fun i hi => ?_, ?_⟩
    · have hne : i ≠ n := Nat.ne_of_gt hi
      simpa [s₄, s₃, s₂, s₁, tell, setStream, insertStream, allocate, hne] using
        hs i (Nat.le_of_succ_le hi)
    · have he : s₄.announced = (k, n) :: s.announced := by
        simp [s₄, s₃, s₂, s₁, announced, tell, setStream, insertStream, allocate,
          Notice.connectionId]
      rw [he, List.length_cons, ha]

theorem length_le_size {l : List UInt64} (h : l.Nodup) : l.length ≤ UInt64.size := by
  have hn : (l.map UInt64.toNat).Nodup := h.map fun _ _ => UInt64.toNat_inj.mp
  have hs : l.map UInt64.toNat ⊆ List.range UInt64.size := by
    intro n hn
    obtain ⟨k, _, rfl⟩ := List.mem_map.mp hn
    exact List.mem_range.mpr k.toNat_lt
  have hl := (List.subperm_of_subset hn hs).length_le
  rwa [List.length_map, List.length_range] at hl

-- One ID more than there are numbers for.
theorem not_straight : ¬∀ (tr : List (Tunnels × Label)) (s : Tunnels),
    Run step {} tr s → s.Straight := by
  intro h
  obtain ⟨tr, s, r, _, _, _, ha⟩ := exists_announced (UInt64.size + 1)
  have hl := length_le_size (h tr s r).announced
  rw [List.length_map, ha] at hl
  exact Nat.not_succ_le_self _ hl

end Tunnels
end Derouter
