import Mathlib.Data.List.Basic
import Mathlib.Data.List.Induction
import Mathlib.Data.List.Nodup
import Mathlib.Logic.Function.Basic

-- Requests get IDs, and responses come back with these IDs in any order, or not at all. What is
-- pending, and who has got a reply, follows from the log of what was registered and what has arrived.

namespace Correlation

universe u

variable {κ ρ τ δ : Type u}

inductive Event (κ ρ τ δ : Type u)
  -- A request gets an ID. Its response is passed on to `tx`, unless nobody awaits it.
  | registered (id : κ) (request : ρ) (tx : Option τ)
  | arrived (id : κ) (data : δ)

namespace Event

-- The request, next to its ID.
def request? : Event κ ρ τ δ → Option (κ × ρ)
  | registered id request _ => some (id, request)
  | arrived ..              => none

def tx? : Event κ ρ τ δ → Option τ
  | registered _ _ tx => tx
  | arrived ..        => none

end Event

-- The pending requests, and the replies in the order in which they were passed on.
structure Table (κ τ δ : Type u) where
  pending : κ → Option (Option τ) := fun _ => none
  replies : List (τ × δ)          := []

namespace Table

variable [DecidableEq κ]

-- A response settles the request with its ID.
def handle (t : Table κ τ δ) : Event κ ρ τ δ → Table κ τ δ
  | .registered id _ tx => { t with pending := Function.update t.pending id (some tx) }
  | .arrived id data    => {
      pending := Function.update t.pending id none
      replies := t.replies ++ (t.pending id).join.toList.map (·, data)
    }

def ofLog (log : List (Event κ ρ τ δ)) : Table κ τ δ :=
  log.foldl handle {}

variable {log : List (Event κ ρ τ δ)} {id : κ} {tx : τ} {data : δ}

theorem ofLog_concat (log : List (Event κ ρ τ δ)) (e : Event κ ρ τ δ) :
    ofLog (log ++ [e]) = (ofLog log).handle e := by
  rw [ofLog, List.foldl_append, List.foldl_cons, List.foldl_nil, ofLog]

theorem handle_of_not_pending {t : Table κ τ δ} (h : t.pending id = none) :
    t.handle (.arrived (ρ := ρ) id data) = t := by
  have hu : Function.update t.pending id none = t.pending := by
    rw [← h, Function.update_eq_self]
  simp [handle, h, hu]

end Table

-- The request with the ID was registered, and no response to it has arrived since.
def Awaits (log : List (Event κ ρ τ δ)) (id : κ) (tx : Option τ) : Prop :=
  ∃ before request after, log = before ++ .registered id request tx :: after ∧
    ∀ data, .arrived id data ∉ after

-- The first response to a request that has arrived after the request was registered.
def Answers (log : List (Event κ ρ τ δ)) (id : κ) (tx : Option τ) (data : δ) : Prop :=
  ∃ before after, log = before ++ .arrived id data :: after ∧ Awaits before id tx

-- The IDs and the channels of the requests.
def ids (log : List (Event κ ρ τ δ)) : List κ :=
  (log.filterMap Event.request?).map (·.1)

def txs (log : List (Event κ ρ τ δ)) : List τ :=
  log.filterMap Event.tx?

variable {log : List (Event κ ρ τ δ)} {id id' : κ} {e : Event κ ρ τ δ} {data : δ}

theorem concat_eq_append_cons_iff {α : Type u} {l before after : List α} {a b : α} :
    l ++ [a] = before ++ b :: after ↔
      (l = before ∧ a = b ∧ after = []) ∨ ∃ l', after = l' ++ [a] ∧ l = before ++ b :: l' := by
  constructor
  case mp =>
    intro h
    rcases List.eq_nil_or_concat after with rfl | ⟨l', c, rfl⟩
    case inl =>
      obtain ⟨rfl, h'⟩ := List.append_inj' h rfl
      exact .inl ⟨rfl, List.cons.inj h' |>.1, rfl⟩
    case inr =>
      rw [List.concat_eq_append, ← List.cons_append, ← List.append_assoc] at h
      obtain ⟨rfl, h'⟩ := List.append_inj' h rfl
      obtain rfl := List.cons.inj h' |>.1
      exact .inr ⟨l', List.concat_eq_append, rfl⟩
  case mpr =>
    rintro (⟨rfl, rfl, rfl⟩ | ⟨l', rfl, rfl⟩)
    · rfl
    · rw [List.append_assoc, List.cons_append]

theorem awaits_concat_iff : Awaits (log ++ [e]) id tx ↔
    (∃ request, e = .registered id request tx) ∨ (Awaits log id tx ∧ ∀ data, e ≠ .arrived id data) := by
  simp only [Awaits, concat_eq_append_cons_iff]
  constructor
  case mp =>
    rintro ⟨before, request, after, ⟨rfl, rfl, rfl⟩ | ⟨after, rfl, rfl⟩, hn⟩
    case inl => exact .inl ⟨request, rfl⟩
    case inr =>
      refine .inr ⟨⟨before, request, after, rfl, fun data hm => ?_⟩, fun data he => ?_⟩
      · exact hn data (List.mem_append_left _ hm)
      · exact hn data (he ▸ List.mem_append_right _ List.mem_cons_self)
  case mpr =>
    rintro (⟨request, rfl⟩ | ⟨⟨before, request, after, rfl, hn⟩, he⟩)
    case inl => exact ⟨log, request, [], .inl ⟨rfl, rfl, rfl⟩, nofun⟩
    case inr =>
      refine ⟨before, request, after ++ [e], .inr ⟨after, rfl, rfl⟩, fun data hm => ?_⟩
      rcases List.mem_append.mp hm with hm | hm
      · exact hn data hm
      · exact he data (List.mem_singleton.mp hm).symm

theorem answers_concat_iff : Answers (log ++ [e]) id tx data ↔
    Answers log id tx data ∨ (e = .arrived id data ∧ Awaits log id tx) := by
  simp only [Answers, concat_eq_append_cons_iff]
  constructor
  case mp =>
    rintro ⟨before, after, ⟨rfl, rfl, rfl⟩ | ⟨after, rfl, rfl⟩, ha⟩
    case inl => exact .inr ⟨rfl, ha⟩
    case inr => exact .inl ⟨before, after, rfl, ha⟩
  case mpr =>
    rintro (⟨before, after, rfl, ha⟩ | ⟨rfl, ha⟩)
    case inl => exact ⟨before, after ++ [e], .inr ⟨after, rfl, rfl⟩, ha⟩
    case inr => exact ⟨log, [], .inl ⟨rfl, rfl, rfl⟩, ha⟩

theorem Awaits.mem (h : Awaits log id tx) : ∃ request, .registered id request tx ∈ log := by
  obtain ⟨before, request, after, rfl, _⟩ := h
  exact ⟨request, List.mem_append_right _ List.mem_cons_self⟩

theorem mem_ids_of_registered {request : ρ} (h : .registered id request tx ∈ log) : id ∈ ids log :=
  List.mem_map.mpr ⟨(id, request), List.mem_filterMap.mpr ⟨_, h, rfl⟩, rfl⟩

theorem Awaits.mem_ids (h : Awaits log id tx) : id ∈ ids log := by
  obtain ⟨request, hm⟩ := h.mem
  exact mem_ids_of_registered hm

theorem awaits_or_answers {request : ρ} (h : .registered id request tx ∈ log) :
    Awaits log id tx ∨ ∃ data, Answers log id tx data := by
  induction log using List.reverseRecOn
  case nil => simp at h
  case append_singleton log e hi =>
    simp only [awaits_concat_iff, answers_concat_iff]
    rcases List.mem_append.mp h with h | h
    case inr => exact .inl <| .inl ⟨request, (List.mem_singleton.mp h).symm⟩
    case inl =>
      cases hi h
      case inr ha =>
        obtain ⟨data, ha⟩ := ha
        exact .inr ⟨data, .inl ha⟩
      case inl ha =>
        by_cases he : ∃ data, e = .arrived id data
        case pos =>
          obtain ⟨data, he⟩ := he
          exact .inr ⟨data, .inr ⟨he, ha⟩⟩
        case neg => exact .inl <| .inr ⟨ha, fun data hd => he ⟨data, hd⟩⟩

theorem Answers.not_awaits {tx : τ} (ht : (txs log).Nodup) (h : Answers log id (some tx) data)
    (h' : Awaits log id' (some tx)) : False := by
  obtain ⟨_, after, rfl, before, request, mid, rfl, _⟩ := h
  obtain ⟨before', request', after', he, hn⟩ := h'
  rw [List.append_assoc, List.cons_append] at he ht
  -- The two registrations are the same, as no other one has the channel.
  have hr (l : List (Event κ ρ τ δ)) (hm : .registered id' request' (some tx) ∈ l) : tx ∈ txs l :=
    List.mem_filterMap.mpr ⟨.registered id' request' (some tx), hm, rfl⟩
  have ht : (txs before ++ tx :: txs (mid ++ .arrived id data :: after)).Nodup := by
    rwa [txs, List.filterMap_append] at ht
  rw [List.nodup_append', List.nodup_cons] at ht
  obtain ⟨_, ⟨ha, _⟩, hd⟩ := ht
  have hb : tx ∉ txs before := fun hm => hd hm List.mem_cons_self
  obtain ⟨_, hq, rfl⟩ := (List.append_cons_inj_of_notMem (fun hm => hb (hr _ hm))
    (fun hm => ha (hr _ hm))).mp he
  obtain ⟨rfl, _⟩ := Event.registered.inj hq
  exact hn data (List.mem_append_right _ List.mem_cons_self)

theorem ids_concat : ids (log ++ [e]) = ids log ++ (e.request?.map (·.1)).toList := by
  cases e <;> simp [ids, Event.request?]

theorem txs_concat : txs (log ++ [e]) = txs log ++ e.tx?.toList := by
  rw [txs, List.filterMap_append, txs]
  cases h : e.tx? <;> simp [h]

theorem Answers.mem (h : Answers log id tx data) :
    .arrived id data ∈ log ∧ ∃ request, .registered id request tx ∈ log := by
  obtain ⟨before, after, rfl, ha⟩ := h
  obtain ⟨request, hm⟩ := ha.mem
  exact ⟨List.mem_append_right _ List.mem_cons_self, request, List.mem_append_left _ hm⟩

theorem registered_inj {request request' : ρ} (hn : (ids log).Nodup)
    (h : .registered id request tx ∈ log) (h' : .registered id request' tx' ∈ log) : tx = tx' := by
  induction log using List.reverseRecOn
  case nil => simp at h
  case append_singleton log e hi =>
    rw [ids_concat, List.nodup_append'] at hn
    have hd (he : e = .registered id request tx ∨ e = .registered id request' tx') : id ∉ ids log := by
      rcases he with rfl | rfl
      all_goals exact fun hm => hn.2.2 hm (by simp [Event.request?])
    rw [List.mem_append, List.mem_singleton] at h h'
    cases h <;> cases h'
    case inl.inl h h' => exact hi hn.1 h h'
    case inl.inr h h' => exact absurd (mem_ids_of_registered h) (hd (.inr h'.symm))
    case inr.inl h h' => exact absurd (mem_ids_of_registered h') (hd (.inl h.symm))
    case inr.inr h h' => exact (Event.registered.inj (h.trans h'.symm)).2.2

namespace Table

variable [DecidableEq κ]

theorem pending_iff (hn : (ids log).Nodup) :
    (ofLog log).pending id = some tx ↔ Awaits log id tx := by
  induction log using List.reverseRecOn
  case nil => simp [ofLog, Awaits]
  case append_singleton log e hi =>
    rw [ids_concat, List.nodup_append'] at hn
    have hi := hi hn.1
    rw [ofLog_concat, awaits_concat_iff]
    cases e
    case registered id' request tx' =>
      by_cases he : id = id'
      case pos =>
        subst he
        have ha : ¬Awaits log id tx := fun ha =>
          hn.2.2 ha.mem_ids (by simp [Event.request?])
        simp [handle, ha]
      case neg =>
        simp [handle, he, hi, Ne.symm he]
    case arrived id' data =>
      by_cases he : id = id'
      case pos => simp [handle, he]
      case neg => simp [handle, he, hi, Ne.symm he]

theorem mem_replies_iff {tx : τ} {data : δ} (hn : (ids log).Nodup) :
    (tx, data) ∈ (ofLog log).replies ↔ ∃ id, Answers log id (some tx) data := by
  induction log using List.reverseRecOn
  case nil => simp [ofLog, Answers]
  case append_singleton log e hi =>
    rw [ids_concat, List.nodup_append'] at hn
    have hi := hi hn.1
    simp only [ofLog_concat, answers_concat_iff, exists_or, ← hi]
    cases e
    case registered => simp [handle]
    case arrived id' data' =>
      simp only [handle, List.mem_append, List.mem_map, Option.mem_toList, Option.join_eq_some_iff,
        pending_iff hn.1, Prod.mk.injEq, Event.arrived.injEq]
      refine or_congr .rfl ?_
      constructor
      case mp  => exact fun ⟨_, ha, he, hd⟩ => ⟨id', ⟨rfl, hd⟩, he ▸ ha⟩
      case mpr => exact fun ⟨_, ⟨he, hd⟩, ha⟩ => ⟨tx, he ▸ ha, rfl, hd⟩

theorem nodup_replies (hn : (ids log).Nodup) (ht : (txs log).Nodup) :
    ((ofLog log).replies.map (·.1)).Nodup := by
  induction log using List.reverseRecOn
  case nil => exact .nil
  case append_singleton log e hi =>
    rw [ids_concat, List.nodup_append'] at hn
    rw [txs_concat, List.nodup_append'] at ht
    have hi := hi hn.1 ht.1
    rw [ofLog_concat]
    cases e
    case registered => exact hi
    case arrived id data =>
      cases hj : ((ofLog log).pending id).join
      case none => simpa [handle, hj] using hi
      case some tx =>
        simp only [handle, hj, Option.toList_some, List.map_append, List.map_cons, List.map_nil]
        refine List.nodup_append'.mpr ⟨hi, List.nodup_singleton tx, ?_⟩
        rw [List.disjoint_singleton]
        intro hm
        obtain ⟨⟨_, data'⟩, hr, rfl⟩ := List.mem_map.mp hm
        obtain ⟨id', ha⟩ := (mem_replies_iff hn.1).mp hr
        exact ha.not_awaits ht.1 <| (pending_iff hn.1).mp <| Option.join_eq_some_iff.mp hj

end Table
end Correlation
