import Mathlib.Algebra.Group.Nat.Defs
import Mathlib.Data.List.Basic
import Derouter.Lib.Hex

-- The data items of CBOR, as far as structs, maps, texts, integers and `null` need them. Each item
-- tells where it ends, so that different values have different bytes.

namespace Cbor

universe u v

variable {α : Type u} {β : Type v}

-- What has no encoding has no bytes.
abbrev Encoder (α : Type u) :=
  α → Option (List UInt8)

-- The bytes of a value tell where they end.
def SelfDelimiting (enc : Encoder α) : Prop :=
  ∀ ⦃a a' b b' r r'⦄, enc a = some b → enc a' = some b' → b ++ r = b' ++ r' → a = a' ∧ r = r'

theorem SelfDelimiting.inj {enc : Encoder α} (h : SelfDelimiting enc) (ha : enc a = some b)
    (ha' : enc a' = some b) : a = a' :=
  (h (r := []) ha ha' rfl).1

-- The lowest `k` bytes of a number, the highest of them first.
def bigEndian : Nat → Nat → List UInt8
  | 0, _     => []
  | k + 1, n => bigEndian k (n / 256) ++ [.ofNat n]

@[simp]
theorem length_bigEndian : (bigEndian k n).length = k := by
  induction k generalizing n
  case zero      => rfl
  case succ k hi => simp [bigEndian, hi]

theorem bigEndian_inj (hn : n < 256 ^ k) (hm : m < 256 ^ k)
    (h : bigEndian k n = bigEndian k m) : n = m := by
  induction k generalizing n m
  case zero => omega
  case succ k hi =>
    rw [Nat.pow_succ] at hn hm
    obtain ⟨hd, hb⟩ := List.append_inj' h rfl
    have hd : n / 256 = m / 256 := hi (by omega) (by omega) hd
    have hb : n % 256 = m % 256 := by
      simpa [← UInt8.toNat_inj, UInt8.toNat_ofNat'] using hb
    omega

-- The additional information in the initial byte of an item, and the number of bytes after it.
def width (n : Nat) : Option (Nat × Nat) :=
  if n < 24 then some (n, 0)
  else if n < 256 ^ 1 then some (24, 1)
  else if n < 256 ^ 2 then some (25, 2)
  else if n < 256 ^ 4 then some (26, 4)
  else if n < 256 ^ 8 then some (27, 8)
  else none

-- The head of an item: its major type, and its argument in as few bytes as possible.
def head (major n : Nat) : Option (List UInt8) :=
  (width n).map fun (info, k) => .ofNat (major * 32 + info) :: bigEndian k n

theorem width_spec (h : width n = some (info, k)) :
    info < 32 ∧ (info < 24 ∧ k = 0 ∧ info = n ∨ 24 ≤ info ∧ k = 2 ^ (info - 24) ∧ n < 256 ^ k) := by
  simp only [width] at h
  split at h
  case isTrue hn =>
    simp only [Option.some.injEq, Prod.mk.injEq] at h
    omega
  case isFalse =>
    split at h
    case isTrue hn =>
      obtain ⟨rfl, rfl⟩ := Prod.mk.inj <| Option.some.inj h
      exact ⟨by omega, .inr ⟨by omega, rfl, hn⟩⟩
    case isFalse =>
      split at h
      case isTrue hn =>
        obtain ⟨rfl, rfl⟩ := Prod.mk.inj <| Option.some.inj h
        exact ⟨by omega, .inr ⟨by omega, rfl, hn⟩⟩
      case isFalse =>
        split at h
        case isTrue hn =>
          obtain ⟨rfl, rfl⟩ := Prod.mk.inj <| Option.some.inj h
          exact ⟨by omega, .inr ⟨by omega, rfl, hn⟩⟩
        case isFalse =>
          split at h
          case isFalse => contradiction
          case isTrue hn =>
            obtain ⟨rfl, rfl⟩ := Prod.mk.inj <| Option.some.inj h
            exact ⟨by omega, .inr ⟨by omega, rfl, hn⟩⟩

theorem head_eq_some (h : head major n = some b) :
    ∃ info k, width n = some (info, k) ∧ b = .ofNat (major * 32 + info) :: bigEndian k n := by
  obtain ⟨⟨info, k⟩, hw, he⟩ := Option.map_eq_some_iff.mp h
  exact ⟨info, k, hw, he.symm⟩

theorem head_append_inj (hm : major < 8) (hm' : major' < 8) (h : head major n = some b)
    (h' : head major' n' = some b') (he : b ++ r = b' ++ r') :
    major = major' ∧ n = n' ∧ r = r' := by
  obtain ⟨info, k, hw, rfl⟩ := head_eq_some h
  obtain ⟨info', k', hw', rfl⟩ := head_eq_some h'
  obtain ⟨hi, hw⟩ := width_spec hw
  obtain ⟨hi', hw'⟩ := width_spec hw'
  obtain ⟨hb, hr⟩ := List.cons.inj he
  have hb : major * 32 + info = major' * 32 + info' := by
    simp only [← UInt8.toNat_inj, UInt8.toNat_ofNat'] at hb
    omega
  obtain ⟨rfl, rfl⟩ : major = major' ∧ info = info' := by omega
  obtain ⟨_, rfl, rfl⟩ | ⟨hl, rfl, hn⟩ := hw
  case inl =>
    obtain ⟨_, rfl, rfl⟩ | ⟨hl, _⟩ := hw'
    case inl => exact ⟨rfl, rfl, hr⟩
    case inr => omega
  case inr =>
    obtain ⟨hl', _⟩ | ⟨_, rfl, hn'⟩ := hw'
    case inl => omega
    case inr =>
      obtain ⟨hd, hr⟩ := List.append_inj hr (by simp)
      exact ⟨rfl, bigEndian_inj hn hn' hd, hr⟩

-- An item of one of the major types below 7, among which `null` is not.
def NotNull (enc : Encoder α) : Prop :=
  ∀ ⦃a b⦄, enc a = some b → ∃ major n d r, major < 7 ∧ head major n = some d ∧ b = d ++ r

section Combinators

variable {enc : Encoder α} {enc' : Encoder β}

-- One after the other.
def append (b c : Option (List UInt8)) : Option (List UInt8) :=
  b.bind fun b => c.map (b ++ ·)

def after (b : Option (List UInt8)) (enc : Encoder α) : Encoder α :=
  fun a => append b (enc a)

def pair (enc : Encoder α) (enc' : Encoder β) : Encoder (α × β) :=
  fun (a, a') => append (enc a) (enc' a')

-- The items of a list, which do not tell by themselves how many there are.
def items (enc : Encoder α) : Encoder (List α)
  | []     => some []
  | a :: l => append (enc a) (items enc l)

def text : Encoder String :=
  fun s => (head 3 (Hex.bytes s).length).map (· ++ Hex.bytes s)

def int : Encoder Int :=
  fun i => if 0 ≤ i then head 0 i.toNat else head 1 (-1 - i).toNat

def option (enc : Encoder α) : Encoder (Option α)
  | none   => head 7 22
  | some a => enc a

def map (enc : Encoder α) : Encoder (List (String × α)) :=
  fun l => after (head 5 l.length) (items <| pair text enc) l

-- A struct is a map from the names of its fields.
def struct (fields : Nat) (enc : Encoder α) : Encoder α :=
  after (head 5 fields) enc

def field (name : String) (enc : Encoder α) : Encoder α :=
  after (text name) enc

theorem selfDelimiting_comp {f : β → α} (h : SelfDelimiting enc) (hf : Function.Injective f) :
    SelfDelimiting fun b => enc (f b) := by
  intro a a' b b' r r' ha ha' he
  obtain ⟨he, hr⟩ := h ha ha' he
  exact ⟨hf he, hr⟩

theorem append_eq_some (h : append b c = some d) :
    ∃ b' c', b = some b' ∧ c = some c' ∧ d = b' ++ c' := by
  obtain ⟨b', hb, h⟩ := Option.bind_eq_some_iff.mp h
  obtain ⟨c', hc, he⟩ := Option.map_eq_some_iff.mp h
  exact ⟨b', c', hb, hc, he.symm⟩

theorem selfDelimiting_after (h : SelfDelimiting enc) : SelfDelimiting (after b enc) := by
  intro a a' c c' r r' ha ha' he
  obtain ⟨b₁, c₁, hb₁, hc₁, rfl⟩ := append_eq_some ha
  obtain ⟨b₂, c₂, hb₂, hc₂, rfl⟩ := append_eq_some ha'
  obtain rfl := Option.some.inj <| hb₁.symm.trans hb₂
  rw [List.append_assoc, List.append_assoc, List.append_cancel_left_eq] at he
  exact h hc₁ hc₂ he

theorem selfDelimiting_pair (h : SelfDelimiting enc) (h' : SelfDelimiting enc') :
    SelfDelimiting (pair enc enc') := by
  rintro ⟨a, a'⟩ ⟨c, c'⟩ b b' r r' ha hc he
  obtain ⟨b₁, b₁', hb₁, hb₁', rfl⟩ := append_eq_some ha
  obtain ⟨b₂, b₂', hb₂, hb₂', rfl⟩ := append_eq_some hc
  rw [List.append_assoc, List.append_assoc] at he
  obtain ⟨rfl, he⟩ := h hb₁ hb₂ he
  obtain ⟨rfl, he⟩ := h' hb₁' hb₂' he
  exact ⟨rfl, he⟩

theorem items_append_inj (h : SelfDelimiting enc) {l l' : List α} (hl : items enc l = some b)
    (hl' : items enc l' = some b') (hn : l.length = l'.length) (he : b ++ r = b' ++ r') :
    l = l' ∧ r = r' := by
  induction l generalizing l' b b'
  case nil =>
    obtain rfl := List.eq_nil_of_length_eq_zero hn.symm
    cases hl
    cases hl'
    exact ⟨rfl, he⟩
  case cons a l hi =>
    cases l'
    case nil => contradiction
    case cons a' l' =>
      obtain ⟨b₁, c₁, hb₁, hc₁, rfl⟩ := append_eq_some hl
      obtain ⟨b₂, c₂, hb₂, hc₂, rfl⟩ := append_eq_some hl'
      rw [List.append_assoc, List.append_assoc] at he
      obtain ⟨rfl, he⟩ := h hb₁ hb₂ he
      obtain ⟨rfl, he⟩ := hi hc₁ hc₂ (Nat.succ.inj hn) he
      exact ⟨rfl, he⟩

theorem selfDelimiting_text : SelfDelimiting text := by
  intro s s' b b' r r' hs hs' he
  obtain ⟨d, hd, rfl⟩ := Option.map_eq_some_iff.mp hs
  obtain ⟨d', hd', rfl⟩ := Option.map_eq_some_iff.mp hs'
  rw [List.append_assoc, List.append_assoc] at he
  obtain ⟨_, hn, he⟩ := head_append_inj (by omega) (by omega) hd hd' he
  obtain ⟨hs, hr⟩ := List.append_inj he hn
  exact ⟨Hex.bytes_inj hs, hr⟩

theorem selfDelimiting_int : SelfDelimiting int := by
  intro i i' b b' r r' hi hi' he
  simp only [int] at hi hi'
  split at hi <;> split at hi'
  all_goals
    obtain ⟨_, hn, hr⟩ := head_append_inj (by omega) (by omega) hi hi' he
    exact ⟨by omega, hr⟩

theorem selfDelimiting_option (h : SelfDelimiting enc) (hn : NotNull enc) :
    SelfDelimiting (option enc) := by
  have hne : ∀ {a b d r r'}, enc a = some b → head 7 22 = some d → b ++ r ≠ d ++ r' := by
    intro a b d r r' ha hd he
    obtain ⟨major, n, d', r', hm, hd', rfl⟩ := hn ha
    rw [List.append_assoc] at he
    obtain ⟨rfl, _⟩ := head_append_inj (by omega) (by omega) hd' hd he
    omega
  intro a a' b b' r r' ha ha' he
  cases a <;> cases a'
  case none.none =>
    obtain ⟨_, _, hr⟩ := head_append_inj (by omega) (by omega) ha ha' he
    exact ⟨rfl, hr⟩
  case some.some =>
    obtain ⟨rfl, hr⟩ := h ha ha' he
    exact ⟨rfl, hr⟩
  case none.some => exact absurd he.symm (hne ha' ha)
  case some.none => exact absurd he (hne ha ha')

theorem selfDelimiting_map (h : SelfDelimiting enc) : SelfDelimiting (map enc) := by
  intro l l' b b' r r' hl hl' he
  obtain ⟨d, c, hd, hc, rfl⟩ := append_eq_some hl
  obtain ⟨d', c', hd', hc', rfl⟩ := append_eq_some hl'
  rw [List.append_assoc, List.append_assoc] at he
  obtain ⟨_, hn, he⟩ := head_append_inj (by omega) (by omega) hd hd' he
  exact items_append_inj (selfDelimiting_pair selfDelimiting_text h) hc hc' hn he

theorem notNull_text : NotNull text := by
  intro s b h
  obtain ⟨d, hd, rfl⟩ := Option.map_eq_some_iff.mp h
  exact ⟨3, _, d, _, by omega, hd, rfl⟩

theorem notNull_struct : NotNull (struct fields enc) := by
  intro a b h
  obtain ⟨d, c, hd, hc, rfl⟩ := append_eq_some h
  exact ⟨5, _, d, c, by omega, hd, rfl⟩

end Combinators
end Cbor
