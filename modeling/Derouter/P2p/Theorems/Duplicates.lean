import Derouter.P2p.HeartbeatInterval

open Sql Transition

namespace Derouter

section Encode

open Cbor

theorem ProviderOffer.selfDelimiting_encode : SelfDelimiting ProviderOffer.encode := by
  refine selfDelimiting_comp (f := ProviderOffer.protocolPayload)
    (selfDelimiting_after <| selfDelimiting_after selfDelimiting_text) ?_
  rintro ⟨⟩ ⟨⟩ h
  simpa using h

theorem WireDetails.selfDelimiting_encode : SelfDelimiting WireDetails.encode := by
  have ht : ∀ name, SelfDelimiting (field name (option text)) := fun _ =>
    selfDelimiting_after <| selfDelimiting_option selfDelimiting_text notNull_text
  have ho : SelfDelimiting (field "offers" (map (map ProviderOffer.encode))) :=
    selfDelimiting_after <| selfDelimiting_map <| selfDelimiting_map
      ProviderOffer.selfDelimiting_encode
  have hd : SelfDelimiting (field "updated_at" int) := selfDelimiting_after selfDelimiting_int
  refine selfDelimiting_comp (f := fun d : WireDetails =>
    (d.name, d.teaser, d.description, d.offers, d.updatedAt)) (selfDelimiting_after ?_) ?_
  case refine_1 =>
    exact selfDelimiting_pair (ht _) <| selfDelimiting_pair (ht _) <| selfDelimiting_pair (ht _) <|
      selfDelimiting_pair ho hd
  case refine_2 =>
    rintro ⟨⟩ ⟨⟩ h
    simpa using h

theorem WireDetails.notNull_encode : NotNull WireDetails.encode := by
  intro d b h
  simp only [encode] at h
  exact notNull_struct h

theorem WireHeartbeat.selfDelimiting_encode : SelfDelimiting WireHeartbeat.encode := by
  refine selfDelimiting_comp (f := fun h : WireHeartbeat => (h.provider, h.timestamp))
    (selfDelimiting_after <| selfDelimiting_pair ?_ <| selfDelimiting_after selfDelimiting_int) ?_
  case refine_1 =>
    exact selfDelimiting_after <| selfDelimiting_option WireDetails.selfDelimiting_encode
      WireDetails.notNull_encode
  case refine_2 =>
    rintro ⟨⟩ ⟨⟩ h
    simpa using h

end Encode

namespace ProviderState

variable {config : ProviderConfig} {s : ProviderState}

-- Some module has offers, which makes the node send heartbeats.
def anyOffers (s : ProviderState) : Bool :=
  !s.modules.entries.all fun module => decide (module.2.offers.entries = [])

-- What a heartbeat tells of the provider.
def details (config : ProviderConfig) (s : ProviderState) : Option ProviderDetails :=
  s.heartbeatOffers.map fun offers => {
    name        := config.name
    teaser      := config.teaser
    description := config.description
    offers
    updatedAt   := s.lastUpdatedAt
  }

end ProviderState

theorem maybeSendHeartbeat_eq {config : ProviderConfig} {s : ProviderState}
    {publish : Heartbeat → Option PublishError} : maybeSendHeartbeat config publish now s =
      if s.anyOffers then
        (s.details config).map fun details =>
          match publish ⟨some details, now⟩ with
          | none       => .ok <| some ⟨some details, now⟩
          | some error => if error.isFatal then .error error else .ok none
      else
        some <| .ok none := by
  simp only [maybeSendHeartbeat, ProviderState.anyOffers, ProviderState.details]
  split
  case isTrue h  => simp [h]
  case isFalse h =>
    rw [Bool.not_eq_true] at h
    cases s.heartbeatOffers
    case none => simp [h]
    case some offers =>
      simp only [h, Bool.not_false, if_true, Option.map_some]
      split <;> simp_all

namespace Gossipsub

variable {hasher : List UInt8 → UInt64} {cache : List CachedMessage}

theorem publish_duplicate (h : (publish hasher now cache data fate).1 = some .duplicate) :
    ∃ m ∈ cache, hasher m.data = hasher data := by
  cases hc : cache.any fun m => hasher m.data == hasher data
  case true =>
    obtain ⟨m, hm, he⟩ := List.any_eq_true.mp hc
    exact ⟨m, hm, beq_iff_eq.mp he⟩
  case false => cases fate <;> simp [publish, hc] at h

theorem publish_cache : (publish hasher now cache data fate).2 = cache ∨
    (publish hasher now cache data fate).2 = { data, cachedAt := now, own := true } :: cache := by
  cases hc : cache.any fun m => hasher m.data == hasher data <;> cases fate <;> simp [publish, hc]

end Gossipsub

theorem HeartbeatInterval.add_period_le_nextTimeout {timeout now : DateTime} (h : timeout ≤ now) :
    timeout + period ≤ nextTimeout timeout now := by
  simp only [nextTimeout]
  split
  case isFalse => exact Int.le_refl _
  case isTrue =>
    have hp : ∀ a b : Int, a ≤ b →
        a + 30 * 1000000000 ≤ b + 30 * 1000000000 - (b - a) % (30 * 1000000000) := by omega
    exact hp timeout now h

namespace HeartbeatLoop

-- What a step may do to the heartbeats and to the cache.
inductive Turns (config : ProviderConfig) (hasher : List UInt8 → UInt64) (s s' : HeartbeatLoop) :
    Label → Prop
  | ticks (pc : s.pc = .idle) (due : s.timeout ≤ s.now) (pc' : s'.pc = .sends s.timeout)
      (timeout : s'.timeout = HeartbeatInterval.nextTimeout s.timeout s.now) (now : s'.now = s.now)
      (handed : s'.handed = s.handed) (cache : s'.cache = s.cache) : Turns config hasher s s' .tick
  | hands (due : DateTime) (details : ProviderDetails) (h : HandedHeartbeat)
      (pc : s.pc = .sends due) (pc' : ∀ due, s'.pc ≠ .sends due) (timeout : s'.timeout = s.timeout)
      (now : s'.now = s.now) (any : provider.anyOffers = true)
      (tells : provider.details config = some details) (message : h.message = ⟨some details, s.now⟩)
      (order : h.iteration = iteration) (handed : s'.handed = h :: s.handed)
      (cache : s'.cache = s.cache ∨ s'.cache = { data := h.data, cachedAt := s.now, own := true } ::
        s.cache)
      (killed : s'.Killed → ∃ m ∈ s.cache, hasher m.data = hasher h.data) :
      Turns config hasher s s' (.send provider iteration fate)
  | skips (due : DateTime) (pc : s.pc = .sends due) (pc' : ∀ due, s'.pc ≠ .sends due)
      (timeout : s'.timeout = s.timeout) (now : s'.now = s.now) (handed : s'.handed = s.handed)
      (cache : s'.cache = s.cache) (killed : ¬s'.Killed)
      (none : provider.anyOffers = true → ∀ details, provider.details config = some details →
        (Heartbeat.wire iteration ⟨some details, s.now⟩).encode = none) :
      Turns config hasher s s' (.send provider iteration fate)
  | other (pc : s'.pc = s.pc) (timeout : s'.timeout = s.timeout) (now : s.now ≤ s'.now)
      (handed : s'.handed = s.handed) (cache : ∀ m ∈ s'.cache, m ∈ s.cache ∨ m.own = false)
      (send : ∀ provider iteration fate, l ≠ .send provider iteration fate) :
      Turns config hasher s s' l

variable {config : ProviderConfig} {hasher : List UInt8 → UInt64} {s s' : HeartbeatLoop} {l : Label}

theorem turns_send (h : step config hasher s (.send provider iteration fate) s') :
    Turns config hasher s s' (.send provider iteration fate) := by
  simp only [step, ofFn, next] at h
  split at h
  case h_2 => contradiction
  case h_1 due hp =>
    obtain rfl := Option.some.inj h
    have hm : maybeSendHeartbeat config (fun _ => none) s.now provider =
        if provider.anyOffers then
          (provider.details config).map fun details => .ok <| some ⟨some details, s.now⟩
        else
          some <| .ok none := maybeSendHeartbeat_eq
    cases ha : provider.anyOffers
    case false =>
      rw [ha, if_neg Bool.false_ne_true] at hm
      simp only [send, hm]
      exact .skips due hp (by simp) rfl rfl rfl rfl (by simp [Killed]) (by simp [ha])
    case true =>
      rw [ha, if_pos rfl] at hm
      cases hd : provider.details config
      case none =>
        rw [hd, Option.map_none] at hm
        simp only [send, hm]
        exact .skips due hp (by simp) rfl rfl rfl rfl (by simp [Killed]) (by simp [hd])
      case some details =>
        rw [hd, Option.map_some] at hm
        simp only [send, hm]
        split
        case h_1 he =>
          refine .skips due hp (by simp) rfl rfl rfl rfl (by simp [Killed]) ?_
          simpa [hd, ha] using he
        case h_2 data he =>
          have hr : ∀ error, maybeSendHeartbeat config (fun _ => error) s.now provider =
              some (match error with
                | none       => .ok <| some ⟨some details, s.now⟩
                | some error => if error.isFatal then .error error else .ok none) :=
            fun error => by rw [maybeSendHeartbeat_eq, if_pos ha, hd]; rfl
          refine .hands due details _ hp ?_ rfl rfl ha hd rfl rfl rfl Gossipsub.publish_cache ?_
          · simp only [hand, hr]
            split <;> simp
          · intro hk
            have hp : (Gossipsub.publish hasher s.now s.cache data fate).1 = some .duplicate := by
              simp only [Killed, hand, hr] at hk
              revert hk
              cases (Gossipsub.publish hasher s.now s.cache data fate).1
              case none => simp
              case some error => cases error <;> simp [PublishError.isFatal]
            exact Gossipsub.publish_duplicate hp

theorem turns (h : step config hasher s l s') : Turns config hasher s s' l := by
  cases l
  case send => exact turns_send h
  all_goals simp only [step, ofFn, next] at h
  case passes nanos =>
    obtain rfl := Option.some.inj h
    exact .other rfl rfl (Int.le_add_of_nonneg_right (Int.natCast_nonneg nanos)) rfl (fun _ => .inl)
      (by simp)
  case expires =>
    obtain rfl := Option.some.inj h
    exact .other rfl rfl (Int.le_refl _) rfl (fun m hm => .inl (List.mem_filter.mp hm).1) (by simp)
  case tick =>
    split at h
    case h_2 => contradiction
    case h_1 hp =>
      split at h
      case isFalse => contradiction
      case isTrue hd => exact Option.some.inj h ▸ .ticks hp hd rfl rfl rfl rfl rfl
  case receives data =>
    split at h
    case h_2 => contradiction
    case h_1 =>
      split at h <;> obtain rfl := Option.some.inj h
      case isTrue  => exact .other rfl rfl (Int.le_refl _) rfl (fun _ => .inl) (by simp)
      case isFalse => exact .other rfl rfl (Int.le_refl _) rfl (by simp +contextual) (by simp)

-- A heartbeat that follows another one in the same second tells something else of the provider, be
-- it the order of its offers.
def Changes (config : ProviderConfig) (s : HeartbeatLoop) : Label → Prop
  | .send provider iteration _ => provider.anyOffers = true →
      ∀ details ∈ provider.details config, ∀ h ∈ s.handed,
        h.message.timestamp.timestamp = s.now.timestamp →
          (h.message.wire h.iteration).provider ≠ some (details.wire iteration)
  | _ => True

instance : Decidable (s.Changes config l) :=
  match l with
  | .send provider iteration _ => inferInstanceAs <| Decidable (provider.anyOffers = true →
      ∀ details ∈ provider.details config, ∀ h ∈ s.handed,
        h.message.timestamp.timestamp = s.now.timestamp →
          (h.message.wire h.iteration).provider ≠ some (details.wire iteration))
  | .passes _ | .tick | .receives _ | .expires => isTrue trivial

theorem data_eq_iff {h h' : HandedHeartbeat} : h.data = h'.data ↔
    h.message.timestamp.timestamp = h'.message.timestamp.timestamp ∧
      (h.message.wire h.iteration).provider = (h'.message.wire h'.iteration).provider := by
  have hw : h.data = h'.data ↔ h.message.wire h.iteration = h'.message.wire h'.iteration := by
    constructor
    case mp =>
      exact fun he => WireHeartbeat.selfDelimiting_encode.inj h.encoded (he ▸ h'.encoded)
    case mpr =>
      intro he
      exact Option.some.inj <| h.encoded.symm.trans <| he ▸ h'.encoded
  rw [hw, Heartbeat.wire, Heartbeat.wire, WireHeartbeat.mk.injEq, and_comm]

theorem sub_le_duplicateCacheTime {t t' : DateTime} (h : t.timestamp = t'.timestamp) :
    t - t' ≤ duplicateCacheTime := by
  have hs : ∀ a b : Int, a / 1000000000 = b / 1000000000 → a - b ≤ 60 * 1000000000 := by omega
  exact hs t t' h

theorem distinct_step (hd : s.Distinct) (h : step config hasher s l s') :
    s'.Distinct ↔ s.Changes config l := by
  cases turns h
  case ticks hh _    => exact iff_of_true (by simpa only [Distinct, hh] using hd) trivial
  case other hh _ hs =>
    refine iff_of_true (by simpa only [Distinct, hh] using hd) ?_
    cases l
    case send => exact absurd rfl (hs _ _ _)
    all_goals trivial
  case skips iteration _ _ _ _ _ _ _ hh _ _ hn =>
    refine iff_of_true (by simpa only [Distinct, hh] using hd) ?_
    intro ha details ht h hm hs he
    have hw : h.message.wire h.iteration =
        Heartbeat.wire iteration ⟨some details, s.now⟩ := by
      rw [Heartbeat.wire, Heartbeat.wire, WireHeartbeat.mk.injEq]
      exact ⟨he, hs⟩
    exact absurd (h.encoded.symm.trans (hw ▸ hn ha details ht)) (by simp)
  case hands provider iteration _ _ details handed _ _ _ _ ha ht hm hi hh _ _ =>
    subst hi
    have he : ∀ h : HandedHeartbeat, handed.data = h.data ↔
        s.now.timestamp = h.message.timestamp.timestamp ∧
          some (details.wire handed.iteration) = (h.message.wire h.iteration).provider := by
      intro h
      rw [data_eq_iff, hm]
      rfl
    simp only [Distinct, hh, List.pairwise_cons, hm, ne_eq, he, Changes, ha, ht, Option.mem_def,
      Option.some.injEq, forall_eq', true_imp_iff]
    constructor
    case mp =>
      rintro ⟨hn, _⟩ h hm hs hw
      exact hn h hm (sub_le_duplicateCacheTime hs.symm) ⟨hs.symm, hw.symm⟩
    case mpr =>
      exact fun hc => ⟨fun h hm _ ⟨hs, hw⟩ => hc h hm hs.symm hw.symm, hd⟩

-- A message in the cache with the ID of the next heartbeat is an own one with the same bytes: the
-- hashes do not collide, and no other peer has published these bytes.
def Unseen (config : ProviderConfig) (hasher : List UInt8 → UInt64) (s : HeartbeatLoop) :
    Label → Prop
  | .send provider iteration _ => ∀ details ∈ provider.details config,
      ∀ data ∈ (Heartbeat.wire iteration ⟨some details, s.now⟩).encode, ∀ m ∈ s.cache,
        hasher m.data = hasher data → m.own = true ∧ m.data = data
  | _ => True

-- The own messages in the cache were handed over.
def Caches (s : HeartbeatLoop) : Prop :=
  ∀ m ∈ s.cache, m.own = true → ∃ h ∈ s.handed, h.data = m.data

theorem Caches.step (hc : s.Caches) (h : step config hasher s l s') : s'.Caches := by
  cases turns h
  case ticks hh hc'       => simpa only [Caches, hh, hc'] using hc
  case skips hh hc' _ _   => simpa only [Caches, hh, hc'] using hc
  case other hh hc' _     =>
    intro m hm ho
    rw [hh]
    exact (hc' m hm).elim (hc m · ho) fun ho' => absurd ho (by simp [ho'])
  case hands handed _ _ _ _ _ _ _ _ hh hc' _ =>
    have hm : ∀ m ∈ s.cache, m.own = true → ∃ h ∈ s'.handed, h.data = m.data := by
      intro m hm ho
      obtain ⟨h, hh', hd⟩ := hc m hm ho
      exact ⟨h, hh ▸ List.mem_cons_of_mem _ hh', hd⟩
    cases hc'
    case inl hc' => exact fun m hm' => hm m (hc' ▸ hm')
    case inr hc' =>
      rw [Caches, hc', List.forall_mem_cons]
      exact ⟨fun _ => ⟨handed, hh ▸ List.mem_cons_self, rfl⟩, hm⟩

theorem killed_step (hc : s.Caches) (hk : ¬s.Killed) (hm : s.Changes config l)
    (hu : s.Unseen config hasher l) (h : step config hasher s l s') : ¬s'.Killed := by
  cases turns h
  case ticks hp _ _ _ _     => simp [Killed, hp]
  case other hp _ _ _ _ _   => simpa only [Killed, hp] using hk
  case skips hk' _          => exact hk'
  case hands details handed _ _ _ _ ha ht hm' hi _ _ hk' =>
    subst hi
    intro hk''
    obtain ⟨m, hm'', he⟩ := hk' hk''
    have hd : ((⟨some details, s.now⟩ : Heartbeat).wire handed.iteration).encode =
        some handed.data := hm' ▸ handed.encoded
    obtain ⟨ho, he⟩ := hu details ht handed.data hd m hm'' he
    obtain ⟨h, hh, he'⟩ := hc m hm'' ho
    obtain ⟨hs, hw⟩ := data_eq_iff.mp (he'.trans he)
    rw [hm'] at hs hw
    exact hm ha details ht h hh hs hw

-- Each heartbeat is handed over less than a period after its tick was due, by a second.
def Prompt (s : HeartbeatLoop) : Label → Prop
  | .send .. => ∀ due, s.pc = .sends due →
      s.now + DateTime.nanosPerSecond ≤ due + HeartbeatInterval.period
  | _ => True

-- The heartbeats so far were handed over at least a second before the next one.
structure Spaced (s : HeartbeatLoop) : Prop where
  timeout : ∀ h ∈ s.handed, h.message.timestamp + DateTime.nanosPerSecond ≤ s.timeout
  sends   : ∀ due, s.pc = .sends due → due ≤ s.now ∧ due + HeartbeatInterval.period ≤ s.timeout ∧
    ∀ h ∈ s.handed, h.message.timestamp + DateTime.nanosPerSecond ≤ due

theorem Spaced.step (hs : s.Spaced) (hp : s.Prompt l) (h : step config hasher s l s') :
    s'.Spaced := by
  obtain ⟨ht, hd⟩ := hs
  cases turns h
  case ticks hi hn hp' ht' hn' hh _ =>
    have hle : s.timeout + HeartbeatInterval.period ≤ s'.timeout :=
      ht' ▸ HeartbeatInterval.add_period_le_nextTimeout hn
    have hle' : s.timeout ≤ s'.timeout :=
      Int.le_trans (Int.le_add_of_nonneg_right (by decide)) hle
    refine ⟨fun h hm => Int.le_trans (ht h (hh ▸ hm)) hle', fun due hp => ?_⟩
    obtain rfl := HeartbeatPc.sends.inj (hp'.symm.trans hp)
    exact ⟨hn' ▸ hn, hle, hh ▸ ht⟩
  case hands due _ handed hp' hn ht' _ _ _ hm _ hh _ _ =>
    refine ⟨?_, fun due hp => absurd hp (hn due)⟩
    rw [hh, ht', List.forall_mem_cons, hm]
    exact ⟨Int.le_trans (hp due hp') (hd due hp').2.1, ht⟩
  case skips hp' ht' _ hh _ _ _ =>
    exact ⟨by rw [hh, ht']; exact ht, fun due hp => absurd hp (hp' due)⟩
  case other hp' ht' hn hh _ _ =>
    refine ⟨by rw [hh, ht']; exact ht, fun due hp => ?_⟩
    obtain ⟨hle, hle', hm⟩ := hd due (hp' ▸ hp)
    exact ⟨Int.le_trans hle hn, ht' ▸ hle', hh ▸ hm⟩

theorem timestamp_ne {t t' : DateTime} (h : t + DateTime.nanosPerSecond ≤ t') :
    t.timestamp ≠ t'.timestamp := by
  have hs : ∀ a b : Int, a + 1000000000 ≤ b → a / 1000000000 ≠ b / 1000000000 := by omega
  exact hs t t' h

theorem changes_of_spaced (hs : s.Spaced) (h : step config hasher s l s') : s.Changes config l := by
  cases l
  case send provider iteration fate =>
    intro _ details _ h' hm he
    have ⟨due, hp⟩ : ∃ due, s.pc = .sends due := by
      cases turns h
      case hands due _ _ hp _ _ _ _ _ _ _ _ _ _ => exact ⟨due, hp⟩
      case skips due hp _ _ _ _ _ _ _ => exact ⟨due, hp⟩
      case other hn => exact absurd rfl (hn _ _ _)
    obtain ⟨hd, _, ht⟩ := hs.sends due hp
    exact absurd he (timestamp_ne (Int.le_trans (ht h' hm) hd))
  all_goals trivial

-- No two heartbeats have the same bytes exactly if none follows another one in the same second with
-- the same to tell. Then none kills the node, unless its ID is that of another message. A loop that
-- hands its heartbeats over in time meets this.
theorem distinct_iff_changes (r : Run (step config hasher) (start t) tr s) :
    (Run.Always Distinct tr s ↔ Meets (Changes config) tr) ∧
      (Meets (Changes config) tr → Meets (Unseen config hasher) tr → Run.Always (¬Killed ·) tr s) ∧
        (Meets Prompt tr → Meets (Changes config) tr) := by
  refine ⟨?_, fun hc hu => ?_, fun hp => ?_⟩
  case refine_1 =>
    exact r.always_iff_meets (I := fun _ => True) trivial .nil (fun _ _ _ _ _ => trivial)
      fun _ _ _ _ => distinct_step
  case refine_2 =>
    have hm : Meets (fun s l => s.Changes config l ∧ s.Unseen config hasher l) tr :=
      fun p hp => ⟨hc p hp, hu p hp⟩
    have hi : Run.Always (fun s => s.Caches ∧ ¬s.Killed) tr s := by
      refine r.always_of_meets hm ⟨nofun, by simp [Killed, start]⟩ ?_
      rintro s l s' ⟨hc, hk⟩ ⟨hm, hu⟩ h
      exact ⟨hc.step h, killed_step hc hk hm hu h⟩
    exact hi.imp fun _ h => h.2
  case refine_3 =>
    exact r.meets_of_invariant (I := Spaced) hp ⟨nofun, nofun⟩ (fun _ _ _ => Spaced.step)
      fun _ _ _ => changes_of_spaced

instance : Decidable s.Distinct :=
  inferInstanceAs <| Decidable (List.Pairwise _ _)

instance : Decidable s.Killed :=
  inferInstanceAs <| Decidable (_ = _)

private def hashSample (data : List UInt8) : UInt64 :=
  data.foldl (fun n b => n * 31 + b.toUInt64) 7

private def iterationSample : Iteration where
  protocols := .scan
  offers _  := .scan

-- A provider of one offer.
private def providing (protocolPayload : String) : ProviderState where
  modules       := (∅ : HashMap UInt32 ProviderModuleState).insert 0
    { outboundRequestTx := 0, offers := (∅ : OfferMap ProvidedOffer).set "p" "o" ⟨1, protocolPayload⟩ }
  lastUpdatedAt := 0

-- The loop stalls until just before its third tick is due. Half a second past the minute, it has
-- sent two heartbeats.
private def stall (protocolPayload : String) : List Label :=
  [.tick, .send (providing "1") iterationSample .sent,
    .passes 59600000000, .tick, .send (providing "1") iterationSample .sent,
    .passes 400000000, .tick, .send (providing protocolPayload) iterationSample .sent]

-- The provider has changed in between.
theorem distinct_iff_changes_sample : ∃ tr s, Run (step {} hashSample) (start 500000000) tr s ∧
    s.handed.length = 3 ∧ s.now = 60500000000 ∧ Run.Always Distinct tr s := by
  obtain ⟨tr, s, r, hm, hc⟩ := Run.of_checked (next {} hashSample) (start 500000000) (stall "2")
    (fun s l => decide (s.Changes {} l))
    (fun s => s.handed.length == 3 && decide (s.now = 60500000000)) (by decide +kernel)
  have hm : Meets (Changes {}) tr := fun p hp => of_decide_eq_true (hm p hp)
  obtain ⟨hl, hn⟩ : s.handed.length = 3 ∧ s.now = 60500000000 := by simpa using hc
  have hd : Run.Always Distinct tr s := (distinct_iff_changes r).1.mpr hm
  exact ⟨tr, s, r, hl, hn, hd⟩

-- The provider is the same.
theorem exists_killed : ∃ tr s, Run (step {} hashSample) (start 500000000) tr s ∧ ¬s.Distinct ∧
    s.Killed := by
  obtain ⟨tr, s, r, _, hc⟩ := Run.of_schedule (next {} hashSample) (start 500000000) (stall "1")
    (fun s => decide (¬s.Distinct ∧ s.Killed)) (by decide +kernel)
  exact ⟨tr, s, r, of_decide_eq_true hc⟩

end HeartbeatLoop
end Derouter
