import Derouter.P2p.Mutex

open Transition

namespace Derouter.P2p

namespace Locker

def isNode : Locker → Bool
  | node => true
  | _    => false

-- It keeps the mutex until its request is in the channel.
def keeps : Locker → Bool
  | confirmJob _ => true
  | getJob _ _   => true
  | _            => false

-- The number of requests that it adds to the channel.
def adds : Locker → Nat
  | node  => 0
  | reads => 0
  | _     => 1

theorem isSome_sends {ext : External} {publicKey : ext.PublicKey} {locker : Locker} :
    (locker.sends ext publicKey).isSome = locker.keeps := by
  cases locker <;> rfl

theorem adds_of_sends {ext : External} {publicKey : ext.PublicKey} {locker : Locker}
    (h : locker.sends ext publicKey = some envelope) : locker.keeps = true ∧ locker.adds = 1 := by
  cases locker <;> first | contradiction | exact ⟨rfl, rfl⟩

theorem adds_of_not_sends {ext : External} {publicKey : ext.PublicKey} {locker : Locker}
    (h : locker.sends ext publicKey = none) :
    locker.keeps = false ∧ locker.clones.toList.length = locker.adds := by
  cases locker <;> first | contradiction | exact ⟨rfl, rfl⟩

end Locker

def NodePc.waits : NodePc → Bool
  | locks _ => true
  | _       => false

-- With `n` requests in the channel or on the way to it, each task in this queue for the mutex finds
-- a place for its request once it has the mutex.
def Fits : Nat → List Locker → Prop
  | _, []             => True
  | n, locker :: rest => (locker.keeps = true → n < requestCapacity) ∧ Fits (n + locker.adds) rest

instance decidableFits : ∀ n mutex, Decidable (Fits n mutex)
  | _, []             => isTrue trivial
  | n, locker :: rest =>
    have := decidableFits (n + locker.adds) rest
    inferInstanceAs <| Decidable ((locker.keeps = true → n < requestCapacity) ∧ Fits _ rest)

-- The tasks that get the mutex before the node loop does.
def ahead : List Locker → List Locker
  | []             => []
  | locker :: rest => if locker.isNode then [] else locker :: ahead rest

theorem ahead_cons {locker : Locker} (h : locker.isNode = false) :
    ahead (locker :: rest) = locker :: ahead rest := by
  simp [ahead, h]

theorem ahead_append_node (h : mutex.countP Locker.isNode = 0) :
    ahead (mutex ++ [.node]) = mutex := by
  induction mutex
  case nil => rfl
  case cons locker mutex hi =>
    have ⟨hc, hl⟩ : mutex.countP Locker.isNode = 0 ∧ locker.isNode = false := by
      simpa [List.countP_cons] using h
    rw [List.cons_append, ahead_cons hl, hi hc]

theorem ahead_append (h : mutex.countP Locker.isNode ≠ 0) :
    ahead (mutex ++ [locker]) = ahead mutex := by
  induction mutex
  case nil => contradiction
  case cons locker mutex hi =>
    cases hl : locker.isNode
    case true  => simp [ahead, hl]
    case false =>
      have hc : mutex.countP Locker.isNode ≠ 0 := by simpa [List.countP_cons, hl] using h
      rw [List.cons_append, ahead_cons hl, ahead_cons hl, hi hc]

namespace Tasks

-- The requests in the channel, and those that handlers are about to send.
def load (s : Tasks) : Nat :=
  s.channel.length + s.clones.length

-- The node loop asks for the mutex.
def Label.own : Label → Bool
  | start   => true
  | takes _ => true
  | _       => false

-- What a step may do to the mutex and to the channel.
inductive Turns (s s' : Tasks) : Label → Prop
  | asks (locker : Locker) (isNode : locker.isNode = false)
      (mutex : s'.mutex = s.mutex ++ [locker]) (node : s'.node = s.node)
      (channel : s'.channel = s.channel) (clones : s'.clones = s.clones)
      (own : l.own = false) : Turns s s' l
  | sends (locker : Locker) (isNode : locker.isNode = false) (keeps : locker.keeps = true)
      (adds : locker.adds = 1) (mutex : s.mutex = locker :: s'.mutex) (node : s'.node = s.node)
      (room : s.channel.length < requestCapacity)
      (channel : s'.channel.length = s.channel.length + 1)
      (clones : s'.clones = s.clones) : Turns s s' .leaves
  | leaves (locker : Locker) (isNode : locker.isNode = false) (keeps : locker.keeps = false)
      (mutex : s.mutex = locker :: s'.mutex) (node : s'.node = s.node)
      (channel : s'.channel = s.channel)
      (clones : s'.clones.length = s.clones.length + locker.adds) : Turns s s' .leaves
  | posts (mutex : s'.mutex = s.mutex) (node : s'.node = s.node)
      (room : s.channel.length < requestCapacity)
      (channel : s'.channel.length = s.channel.length + 1)
      (clones : s'.clones.length + 1 = s.clones.length) : Turns s s' (.sends i)
  -- The channel is closed.
  | fails (ended : s.node = .ended) (node : s'.node = s.node) (channel : s'.channel = s.channel)
      (mutex : s'.mutex.countP Locker.isNode = s.mutex.countP Locker.isNode)
      (own : l.own = false) : Turns s s' l
  | waits (mutex : s'.mutex = s.mutex ++ [.node]) (node : s.node.waits = false)
      (node' : s'.node.waits = true) (channel : s'.channel = s.channel)
      (clones : s'.clones = s.clones) (own : l.own = true) : Turns s s' l
  | gets (mutex : s.mutex = .node :: s'.mutex) (node : s.node.waits = true)
      (node' : s'.node.waits = false) (channel : s'.channel.length ≤ s.channel.length) :
      Turns s s' .locked
  | other (mutex : s'.mutex = s.mutex) (node : s'.node.waits = s.node.waits)
      (channel : s'.channel.length ≤ s.channel.length)
      (waits : s.node.waits = true →
        s'.node = s.node ∧ s'.channel = s.channel ∧ s'.clones = s.clones)
      (own : l.own = false) : Turns s s' l

variable {ext : External} {publicKey : ext.PublicKey} {s s' : Tasks} {l : Label}

theorem send_eq_some (h : s.send envelope = some s') : (s.node = .ended ∧ s' = s) ∨
    (s.channel.length < requestCapacity ∧ s' = { s with channel := s.channel ++ [envelope] }) := by
  simp only [send] at h
  split at h
  case h_1 hn => exact .inl ⟨hn, (Option.some.inj h).symm⟩
  case h_2 =>
    split at h
    case isTrue hc  => exact .inr ⟨hc, (Option.some.inj h).symm⟩
    case isFalse    => contradiction

theorem turns_leaves (h : step ext publicKey s .leaves s') : s.Turns s' .leaves := by
  simp only [step, ofFn, next] at h
  split at h
  case h_1 => contradiction
  case h_2 => contradiction
  case h_3 locker rest hn hm =>
    have hl : locker.isNode = false := by
      cases locker
      case node => exact absurd rfl hn
      all_goals rfl
    split at h
    case h_1 envelope he =>
      obtain ⟨hk, ha⟩ := Locker.adds_of_sends he
      obtain ⟨hn, rfl⟩ | ⟨hc, rfl⟩ := send_eq_some h
      case inl => exact .fails hn rfl rfl (by simp [hm, hl]) rfl
      case inr => exact .sends locker hl hk ha hm rfl hc (by simp) rfl
    case h_2 he =>
      obtain ⟨hk, ha⟩ := Locker.adds_of_not_sends he
      obtain rfl := Option.some.inj h
      exact .leaves locker hl hk hm rfl rfl (by simp [ha])

theorem turns_sends (h : step ext publicKey s (.sends i) s') : s.Turns s' (.sends i) := by
  simp only [step, ofFn, next] at h
  split at h
  case h_2 => contradiction
  case h_1 envelope he =>
    obtain ⟨hn, rfl⟩ | ⟨hc, rfl⟩ := send_eq_some h
    case inl => exact .fails hn rfl rfl rfl rfl
    case inr =>
      have ⟨hi, _⟩ := List.getElem?_eq_some_iff.mp he
      refine .posts rfl rfl hc (by simp) ?_
      simp only [List.length_eraseIdx_of_lt hi]
      omega

theorem turns_locked (h : step ext publicKey s .locked s') : s.Turns s' .locked := by
  simp only [step, ofFn, next] at h
  split at h
  case h_2 => contradiction
  case h_1 event rest hn hm =>
    obtain rfl := Option.some.inj h
    cases event
    case none => exact .gets hm (by simp [hn, NodePc.waits]) rfl (by simp [unlocked])
    case some event =>
      have hw : s.node.waits = true := by simp [hn, NodePc.waits]
      simp only [unlocked]
      split
      case h_1 => exact .gets hm hw rfl (by simp)
      case h_2 => exact .gets hm hw rfl (by simp)

theorem turns (h : step ext publicKey s l s') : s.Turns s' l := by
  cases l
  case leaves => exact turns_leaves h
  case sends  => exact turns_sends h
  case locked => exact turns_locked h
  all_goals simp only [step, ofFn, next] at h
  case getJob    => exact Option.some.inj h ▸ .asks _ rfl rfl rfl rfl rfl rfl
  case createJob => exact Option.some.inj h ▸ .asks _ rfl rfl rfl rfl rfl rfl
  case reads     => exact Option.some.inj h ▸ .asks _ rfl rfl rfl rfl rfl rfl
  case confirms =>
    split at h
    case h_1 => exact Option.some.inj h ▸ .asks _ rfl rfl rfl rfl rfl rfl
    case h_2 => contradiction
  case spawns =>
    split at h
    case isFalse => contradiction
    case isTrue  =>
      exact Option.some.inj h ▸ .other rfl rfl le_rfl (fun _ => ⟨rfl, rfl, rfl⟩) rfl
  case start =>
    split at h
    case h_2    => contradiction
    case h_1 hn => exact Option.some.inj h ▸ .waits rfl (by rw [hn]; rfl) rfl rfl rfl rfl
  case takes =>
    split at h
    case h_2    => contradiction
    case h_1 hn => exact Option.some.inj h ▸ .waits rfl (by rw [hn]; rfl) rfl rfl rfl rfl
  case receives =>
    split at h
    case h_2 => contradiction
    case h_1 hn hc =>
      exact Option.some.inj h ▸
        .other rfl rfl (by simp [hc]) (by simp [hn, NodePc.waits]) rfl
  all_goals
    split at h
    all_goals first | contradiction | skip
    all_goals
      rename_i hn
      exact Option.some.inj h ▸
        .other rfl (by simp [hn, NodePc.waits]) (by simp) (by simp [hn, NodePc.waits]) rfl

-- The node loop is at the mutex once while it waits for it, and not otherwise.
structure Valid (s : Tasks) : Prop where
  node    : s.mutex.countP Locker.isNode = if s.node.waits then 1 else 0
  channel : s.channel.length ≤ requestCapacity

theorem Valid.step (hv : s.Valid) (h : step ext publicKey s l s') : s'.Valid := by
  obtain ⟨hn, hc⟩ := hv
  cases turns h
  case asks locker hl hm hn' hc' _ _ =>
    exact ⟨by simp [hm, hl, hn', hn], by simpa [hc'] using hc⟩
  case sends locker hl _ _ hm hn' hr hc' _ =>
    exact ⟨by simpa [hm, hl, hn'] using hn, by omega⟩
  case leaves locker hl _ hm hn' hc' _ =>
    exact ⟨by simpa [hm, hl, hn'] using hn, by simpa [hc'] using hc⟩
  case posts hm hn' hr hc' _  => exact ⟨by simp [hm, hn', hn], by omega⟩
  case fails he hn' hc' hm _  => exact ⟨by simp [hm, hn', hn], by simpa [hc'] using hc⟩
  case waits hm hn' hn'' hc' _ _ =>
    exact ⟨by simp [hm, hn, hn', hn'', Locker.isNode], by simpa [hc'] using hc⟩
  case gets hm hn' hn'' hc' =>
    refine ⟨?_, hc'.trans hc⟩
    rw [hm, hn', List.countP_cons_of_pos rfl] at hn
    simpa [hn''] using hn
  case other hm hn' hc' _ _ => exact ⟨by simp [hm, hn', hn], hc'.trans hc⟩

-- While the node loop waits for the mutex, all who get it before find a place in the channel.
def HasRoom (s : Tasks) : Prop :=
  s.node.waits = true → Fits s.load (ahead s.mutex)

-- The node loop asks for the mutex only when all requests that come before it fit into the channel.
def KeepsRoom (s : Tasks) : Label → Prop
  | .start   => Fits s.load s.mutex
  | .takes _ => Fits s.load s.mutex
  | _        => True

instance : Decidable (s.KeepsRoom l) :=
  match l with
  | .start | .takes _ => inferInstanceAs <| Decidable (Fits s.load s.mutex)
  | .spawns _ | .confirms _ | .getJob .. | .createJob .. | .reads | .leaves | .sends _ | .receives
  | .locked | .turns | .returns | .ends => isTrue trivial

theorem HasRoom.not_circular (h : s.HasRoom) : ¬s.Circular ext publicKey := by
  rintro ⟨locker, rest, event, hm, hk, hc, hn⟩
  rw [Locker.isSome_sends] at hk
  have hl : locker.isNode = false := by cases locker <;> first | rfl | contradiction
  have hf : Fits s.load (ahead s.mutex) := h (by simp [hn, NodePc.waits])
  rw [hm, ahead_cons hl] at hf
  have hr : s.load < requestCapacity := hf.1 hk
  simp only [load] at hr
  omega

theorem keepsRoom_of_not_own (h : l.own = false) : s.KeepsRoom l := by
  cases l
  case start | takes => contradiction
  all_goals trivial

theorem hasRoom_step (hv : s.Valid) (hr : s.HasRoom) (h : step ext publicKey s l s') :
    s'.HasRoom ↔ s.KeepsRoom l := by
  cases turns h
  case asks locker hl hm hn hc hc' ho =>
    refine iff_of_true (fun hw => ?_) (keepsRoom_of_not_own ho)
    rw [hn] at hw
    have hm' : s.mutex.countP Locker.isNode ≠ 0 := by simp [hv.node, hw]
    simpa only [load, hc, hc', hm, ahead_append hm'] using hr hw
  case sends locker hl _ ha hm hn _ hc hc' =>
    refine iff_of_true (fun hw => ?_) trivial
    rw [hn] at hw
    have hf : Fits s.load (ahead s.mutex) := hr hw
    rw [hm, ahead_cons hl] at hf
    have he : s'.load = s.load + locker.adds := by
      simp only [load, hc, hc', ha]
      omega
    exact he ▸ hf.2
  case leaves locker hl _ hm hn hc hc' =>
    refine iff_of_true (fun hw => ?_) trivial
    rw [hn] at hw
    have hf : Fits s.load (ahead s.mutex) := hr hw
    rw [hm, ahead_cons hl] at hf
    have he : s'.load = s.load + locker.adds := by
      simp only [load, hc, hc']
      omega
    exact he ▸ hf.2
  case posts hm hn _ hc hc' =>
    refine iff_of_true (fun hw => ?_) trivial
    rw [hn] at hw
    have he : s'.load = s.load := by
      simp only [load, hc]
      omega
    simpa only [he, hm] using hr hw
  case fails he hn _ _ ho =>
    exact iff_of_true (fun hw => by simp [hn, he, NodePc.waits] at hw) (keepsRoom_of_not_own ho)
  case waits hm hn hn' hc hc' ho =>
    have hm' : s.mutex.countP Locker.isNode = 0 := by simp [hv.node, hn]
    have hk : s.KeepsRoom l ↔ Fits s.load s.mutex := by
      cases l <;> first | contradiction | rfl
    simp [HasRoom, hn', hk, hm, ahead_append_node hm', load, hc, hc']
  case gets hn _ => exact iff_of_true (fun hw => by simp [hn] at hw) trivial
  case other hm hn _ hs ho =>
    refine iff_of_true (fun hw => ?_) (keepsRoom_of_not_own ho)
    rw [hn] at hw
    obtain ⟨_, hc, hc'⟩ := hs hw
    simpa only [load, hc, hc', hm] using hr hw

-- A circular wait may come about before the node loop gets the mutex it waits for.
def Threatened (ext : External) (publicKey : ext.PublicKey) (s : Tasks) : Prop :=
  s.node.waits = true ∧ ∃ tr s', Run (step ext publicKey) s tr s' ∧
    Meets (fun _ l => l ≠ .locked) tr ∧ s'.Circular ext publicKey

theorem waits_step (hw : s.node.waits = true) (hl : l ≠ .locked)
    (h : step ext publicKey s l s') : s'.node.waits = true ∧ s.KeepsRoom l := by
  cases turns h
  case gets              => contradiction
  case waits hn _ _ _ _ => simp [hw] at hn
  case asks hn _ _ ho  => exact ⟨hn ▸ hw, keepsRoom_of_not_own ho⟩
  case fails hn _ _ ho => exact ⟨hn ▸ hw, keepsRoom_of_not_own ho⟩
  case other hn _ _ ho => exact ⟨hn ▸ hw, keepsRoom_of_not_own ho⟩
  case sends hn _ _ _  => exact ⟨hn ▸ hw, trivial⟩
  case leaves hn _ _   => exact ⟨hn ▸ hw, trivial⟩
  case posts hn _ _ _  => exact ⟨hn ▸ hw, trivial⟩

theorem HasRoom.not_threatened (hr : s.HasRoom) (hv : s.Valid) : ¬s.Threatened ext publicKey := by
  rintro ⟨hw, tr, s', r, hm, hc⟩
  have hi : s'.Valid ∧ s'.HasRoom ∧ s'.node.waits = true := by
    refine r.invariant_of_meets (I := fun s => s.Valid ∧ s.HasRoom ∧ s.node.waits = true) hm
      ⟨hv, hr, hw⟩ ?_
    rintro s l s' ⟨hv, hr, hw⟩ hl h
    obtain ⟨hw', hk⟩ := waits_step hw hl h
    exact ⟨hv.step h, (hasRoom_step hv hr h).mpr hk, hw'⟩
  exact hi.2.1.not_circular hc

theorem send_of_room (hn : s.node.waits = true) (hc : s.channel.length < requestCapacity) :
    s.send envelope = some { s with channel := s.channel ++ [envelope] } := by
  simp only [send]
  split
  case h_1 he => simp [he, NodePc.waits] at hn
  case h_2    => exact if_pos hc

variable (ext publicKey) in
theorem exists_posts (hn : s.node.waits = true) (hc : s.channel.length ≤ requestCapacity) :
    ∃ tr s', Run (step ext publicKey) s tr s' ∧ Meets (fun _ l => l ≠ .locked) tr ∧
      s'.node = s.node ∧ s'.mutex = s.mutex ∧ s'.load = s.load ∧
        s'.channel.length ≤ requestCapacity ∧
          (s'.channel.length = requestCapacity ∨ s'.clones = []) := by
  generalize hl : s.clones = clones
  induction clones generalizing s
  case nil => exact ⟨[], s, .nil, by simp [Meets], rfl, rfl, rfl, hc, .inr hl⟩
  case cons envelope clones hi =>
    rcases Nat.lt_or_eq_of_le hc with hlt | he
    case inr => exact ⟨[], s, .nil, by simp [Meets], rfl, rfl, rfl, hc, .inl he⟩
    case inl =>
      let s₁ : Tasks := { s with clones, channel := s.channel ++ [envelope] }
      have h : step ext publicKey s (.sends 0) s₁ := by
        simp only [step, ofFn, next, hl, List.getElem?_cons_zero, List.eraseIdx_cons_zero]
        exact send_of_room hn hlt
      have hc₁ : s₁.channel.length ≤ requestCapacity := by
        simpa [s₁, Nat.succ_le_iff] using hlt
      obtain ⟨tr, s', r, hm, hn', hm', hl', hc', hd⟩ := hi (s := s₁) hn hc₁ rfl
      refine ⟨_, s', .cons h r, ?_, hn', hm', ?_, hc', hd⟩
      · exact List.forall_mem_cons.mpr ⟨Label.noConfusion, hm⟩
      · rw [hl']
        simp only [load, s₁, hl, List.length_append, List.length_cons, List.length_nil]
        omega

variable (ext publicKey) in
theorem exists_leaves (hw : s.node.waits = true) (hm : s.mutex = locker :: rest)
    (hl : locker.isNode = false) (hc : s.channel.length ≤ requestCapacity)
    (hk : locker.keeps = true → s.channel.length < requestCapacity) :
    ∃ s', step ext publicKey s .leaves s' ∧ s'.node = s.node ∧ s'.mutex = rest ∧
      s'.load = s.load + locker.adds ∧ s'.channel.length ≤ requestCapacity := by
  cases hs : locker.sends ext publicKey
  case some envelope =>
    obtain ⟨hk', ha⟩ := Locker.adds_of_sends hs
    have hlt : s.channel.length < requestCapacity := hk hk'
    refine ⟨{ s with mutex := rest, channel := s.channel ++ [envelope] }, ?_, rfl, rfl, ?_, ?_⟩
    · simp only [step, ofFn, next, hm]
      split
      case h_1 => contradiction
      case h_2 he => cases he; contradiction
      case h_3 he =>
        obtain ⟨rfl, rfl⟩ := List.cons.inj he
        simp only [hs]
        exact send_of_room hw hlt
    · simp only [load, ha, List.length_append, List.length_cons, List.length_nil]
      omega
    · simpa [Nat.succ_le_iff] using hlt
  case none =>
    obtain ⟨-, ha⟩ := Locker.adds_of_not_sends hs
    refine ⟨{ s with mutex := rest, clones := s.clones ++ locker.clones.toList }, ?_, rfl, rfl, ?_,
      hc⟩
    · simp only [step, ofFn, next, hm]
      split
      case h_1 => contradiction
      case h_2 he => cases he; contradiction
      case h_3 he =>
        obtain ⟨rfl, rfl⟩ := List.cons.inj he
        simp only [hs]
    · simp only [load, List.length_append, ha]
      omega

-- Who finds the channel full, or leaves it too full to another, is found by induction on the queue.
theorem threatened_of_not_fits (hw : s.node.waits = true)
    (hc : s.channel.length ≤ requestCapacity) (hf : ¬Fits s.load (ahead s.mutex)) :
    s.Threatened ext publicKey := by
  refine ⟨hw, ?_⟩
  generalize hm : s.mutex = mutex at hf
  induction mutex generalizing s
  case nil => exact absurd trivial hf
  case cons locker rest hi =>
    cases hl : locker.isNode
    case true  => simp [ahead, hl, Fits] at hf
    case false =>
      rw [ahead_cons hl] at hf
      obtain ⟨tr, s₁, r, ht, hn₁, hm₁, hl₁, hc₁, hd₁⟩ :=
        exists_posts ext publicKey hw hc
      by_cases hb : locker.keeps = true ∧ requestCapacity ≤ s₁.channel.length
      case pos =>
        have ⟨event, hn⟩ : ∃ event, s₁.node = .locks event := by
          cases hn : s.node
          case locks event => exact ⟨event, hn₁.trans hn⟩
          all_goals simp [hn, NodePc.waits] at hw
        exact ⟨tr, s₁, r, ht, locker, rest, event, hm₁.trans hm, Locker.isSome_sends.trans hb.1,
          hb.2, hn⟩
      case neg =>
        have hk : locker.keeps = true → s₁.channel.length < requestCapacity :=
          fun hk => Nat.lt_of_not_le fun hc => hb ⟨hk, hc⟩
        obtain ⟨s₂, h, hn₂, hm₂, hl₂, hc₂⟩ :=
          exists_leaves ext publicKey (hn₁ ▸ hw) (hm₁.trans hm) hl hc₁ hk
        have hf₂ : ¬Fits s₂.load (ahead rest) := by
          rw [hl₂, hl₁]
          refine fun hf' => hf ⟨fun hk' => ?_, hf'⟩
          have hr : s₁.channel.length < requestCapacity := hk hk'
          have hd : s₁.clones = [] := hd₁.resolve_left hr.ne
          rw [← hl₁]
          simpa [load, hd] using hr
        obtain ⟨tr', s', r', ht', hcirc⟩ := hi (s := s₂) (hn₂ ▸ hn₁ ▸ hw) hc₂ hm₂ hf₂
        refine ⟨_, s', r.trans (.cons h r'), ?_, hcirc⟩
        exact List.forall_mem_append.mpr ⟨ht, List.forall_mem_cons.mpr ⟨Label.noConfusion, ht'⟩⟩

theorem hasRoom_iff (hv : s.Valid) : s.HasRoom ↔ ¬s.Threatened ext publicKey := by
  refine ⟨fun hr => hr.not_threatened hv, fun ht hw => ?_⟩
  exact Classical.byContradiction fun hf => ht (threatened_of_not_fits hw hv.channel hf)

theorem Circular.threatened (h : s.Circular ext publicKey) : s.Threatened ext publicKey := by
  obtain ⟨locker, rest, event, hm, hk, hc, hn⟩ := h
  exact ⟨by rw [hn]; rfl, [], s, .nil, List.forall_mem_nil _, locker, rest, event, hm, hk, hc, hn⟩

theorem valid_start : Valid {} :=
  ⟨rfl, Nat.zero_le _⟩

-- A circular wait threatens exactly if the node loop has asked for the mutex without room in the
-- channel for all requests that come before it. Otherwise there is none.
theorem threatened_iff_keepsRoom (r : Run (step ext publicKey) {} tr s) :
    (Run.Always (¬Threatened ext publicKey ·) tr s ↔ Meets KeepsRoom tr) ∧
      (Meets KeepsRoom tr → Run.Always (¬Circular ext publicKey ·) tr s) := by
  have hp : ¬Threatened ext publicKey {} := fun h => Bool.noConfusion h.1
  have hi : Run.Always (¬Threatened ext publicKey ·) tr s ↔ Meets KeepsRoom tr := by
    refine r.always_iff_meets (I := Valid) valid_start hp (fun _ _ _ => Valid.step) ?_
    intro s l s' hv ht h
    rw [← hasRoom_iff (hv.step h)]
    exact hasRoom_step hv ((hasRoom_iff hv).mpr ht) h
  exact ⟨hi, fun hm => (hi.mpr hm).imp fun _ h hc => h hc.threatened⟩

theorem Circular.step (hc : s.Circular ext publicKey) (h : step ext publicKey s l s') :
    s'.Circular ext publicKey := by
  obtain ⟨locker, rest, event, hm, hk, hc, hn⟩ := hc
  have hk' : locker.keeps = true := Locker.isSome_sends ▸ hk
  have hw : s.node.waits = true := by rw [hn]; rfl
  cases turns h
  case asks locker' _ hm' hn' hc' _ _ =>
    exact ⟨locker, rest ++ [locker'], event, by rw [hm', hm, List.cons_append], hk, hc' ▸ hc,
      hn'.trans hn⟩
  case sends hr _ _  => exact absurd hr (Nat.not_lt_of_le hc)
  case leaves hk'' hm' _ _ _ =>
    obtain ⟨rfl, _⟩ := List.cons.inj (hm.symm.trans hm')
    simp [hk'] at hk''
  case posts hr _ _ => exact absurd hr (Nat.not_lt_of_le hc)
  case fails he _ _ _ _ => simp [he] at hn
  case waits hw' _ _ _ _ => simp [hw] at hw'
  case gets hm' _ _ _ =>
    obtain ⟨rfl, _⟩ := List.cons.inj (hm.symm.trans hm')
    contradiction
  case other hm' _ _ hs _ =>
    obtain ⟨hn', hc', _⟩ := hs hw
    exact ⟨locker, rest, event, hm'.trans hm, hk, hc' ▸ hc, hn'.trans hn⟩

theorem circular_forever (hc : s.Circular ext publicKey) (r : Run (step ext publicKey) s tr s') :
    s'.Circular ext publicKey :=
  r.invariant hc fun _ _ _ => Circular.step

-- A peer is discovered while this many modules get a job.
private def backlog (n : Nat) : List Label :=
  [.start, .locked] ++ .replicate n (.getJob ⟨[1]⟩ "job") ++ .replicate 32 .leaves ++
    [.takes <| .discovered [(⟨[1]⟩, "address")]]

theorem threatened_iff_keepsRoom_sample : ∃ tr s, Run (step .sample (⟨[0]⟩ : PeerId)) {} tr s ∧
    s.node.waits = true ∧ s.channel.length = 32 ∧
      Run.Always (¬Circular .sample (⟨[0]⟩ : PeerId) ·) tr s := by
  obtain ⟨tr, s, r, hm, hc⟩ := Run.of_checked (next .sample ⟨[0]⟩) {} (backlog 32)
    (fun s l => decide (s.KeepsRoom l)) (fun s => s.node.waits && s.channel.length == 32)
    (by decide +kernel)
  have hm : Meets KeepsRoom tr := fun p hp => of_decide_eq_true (hm p hp)
  obtain ⟨hw, hc⟩ : s.node.waits = true ∧ s.channel.length = 32 := by simpa using hc
  exact ⟨tr, s, r, hw, hc, (threatened_iff_keepsRoom r).2 hm⟩

-- The last of the modules finds the channel full.
theorem not_never_circular : ¬∀ (ext : External) (publicKey : ext.PublicKey)
    (tr : List (Tasks × Label)) (s : Tasks),
      Run (step ext publicKey) {} tr s → ¬s.Circular ext publicKey := by
  intro h
  obtain ⟨tr, s, r, _, hc⟩ := Run.of_schedule (next .sample ⟨[0]⟩) {} (backlog 33)
    (fun s => s.node.waits && decide (requestCapacity ≤ s.channel.length) &&
      s.mutex.head?.any Locker.keeps)
    (by decide +kernel)
  simp only [Bool.and_eq_true, decide_eq_true_eq, Option.any_eq_true] at hc
  obtain ⟨⟨hw, hc⟩, locker, hm, hk⟩ := hc
  obtain ⟨rest, hm⟩ := List.head?_eq_some_iff.mp hm
  obtain ⟨event, hn⟩ : ∃ event, s.node = .locks event := by
    cases hn : s.node
    case locks event => exact ⟨event, rfl⟩
    all_goals simp [hn, NodePc.waits] at hw
  exact h _ _ tr s r ⟨locker, rest, event, hm, Locker.isSome_sends.trans hk, hc, hn⟩

end Tasks
end Derouter.P2p
