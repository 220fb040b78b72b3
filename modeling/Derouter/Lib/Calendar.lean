import Mathlib.Algebra.Group.Nat.Defs
import Mathlib.Data.Char
import Mathlib.Data.List.Lex
import Mathlib.Order.Monotone.Basic

-- Dates and times as texts whose order is the order of time.

namespace Calendar

universe u

-- A number as the place in one of several blocks that follow each other.
namespace Blocks

variable {len : Nat → Nat} {fuel i n r : Nat}

def start (len : Nat → Nat) : Nat → Nat
  | 0     => 0
  | i + 1 => start len i + len i

theorem start_mono : Monotone (start len) :=
  monotone_nat_of_le_succ fun _ => Nat.le_add_right ..

theorem start_const {len : Nat} : start (fun _ => len) i = len * i := by
  induction i
  case zero      => rfl
  case succ i hi => rw [start, hi, Nat.mul_succ]

-- The block of the place `n` behind the start of block `i`, and the place in that block.
def split (len : Nat → Nat) : Nat → Nat → Nat → Nat × Nat
  | 0, i, n        => (i, n)
  | fuel + 1, i, n => if n < len i then (i, n) else split len fuel (i + 1) (n - len i)

theorem split_spec (h : start len i + n < start len (i + fuel)) :
    (split len fuel i n).1 < i + fuel ∧
      (split len fuel i n).2 < len (split len fuel i n).1 ∧
        start len (split len fuel i n).1 + (split len fuel i n).2 = start len i + n := by
  induction fuel generalizing i n
  case zero => exact absurd h (by simp)
  case succ fuel hi =>
    rw [split]
    split
    case isTrue hn  => exact ⟨by simp, hn, rfl⟩
    case isFalse hn =>
      have hs : start len (i + 1) = start len i + len i := rfl
      have he : i + (fuel + 1) = i + 1 + fuel := by omega
      rw [he] at h ⊢
      obtain ⟨h₁, h₂, h₃⟩ := hi (i := i + 1) (n := n - len i) (by omega)
      exact ⟨h₁, h₂, by omega⟩

theorem place_lt_iff (hr : r < len i) (hr' : r' < len i') :
    start len i + r < start len i' + r' ↔ i < i' ∨ i = i' ∧ r < r' := by
  rcases Nat.lt_trichotomy i i' with h | rfl | h
  · have hm : start len i + len i ≤ start len i' := start_mono (Nat.succ_le_of_lt h)
    exact iff_of_true (by omega) (.inl h)
  · simp
  · have hm : start len i' + len i' ≤ start len i := start_mono (Nat.succ_le_of_lt h)
    exact iff_of_false (by omega) (by omega)

end Blocks

-- Texts of the same length, one for each number below a bound, in the order of the numbers.
structure Ordered (bound width : Nat) (text : Nat → List Char) : Prop where
  length : ∀ n < bound, (text n).length = width
  lt_iff : ∀ n < bound, ∀ m < bound, text n < text m ↔ n < m

theorem append_lt_append_iff {a a' b b' : List Char} (h : a.length = a'.length) :
    a ++ b < a' ++ b' ↔ a < a' ∨ a = a' ∧ b < b' := by
  induction a generalizing a'
  case nil =>
    obtain rfl := List.length_eq_zero_iff.mp h.symm
    simp
  case cons c a hi =>
    cases a'
    case nil => simp at h
    case cons c' a' =>
      rw [List.cons_append, List.cons_append, List.cons_lt_cons_iff, List.cons_lt_cons_iff,
        hi (Nat.succ.inj h), List.cons.injEq]
      tauto

namespace Ordered

variable {bound width bound' width' : Nat} {text text' : Nat → List Char}

theorem inj (h : Ordered bound width text) (hn : n < bound) (hm : m < bound) :
    text n = text m ↔ n = m := by
  refine ⟨fun he => ?_, fun he => he ▸ rfl⟩
  have hl := h.lt_iff n hn m hm
  have hg := h.lt_iff m hm n hn
  rw [he] at hl hg
  have hi : ¬text m < text m := List.lt_irrefl _
  exact Nat.le_antisymm (Nat.not_lt.mp (hg.not.mp hi)) (Nat.not_lt.mp (hl.not.mp hi))

theorem le_iff (h : Ordered bound width text) (hn : n < bound) (hm : m < bound) :
    text n ≤ text m ↔ n ≤ m := by
  have ht : text n ≤ text m ↔ ¬text m < text n := not_lt.symm
  exact ht.trans <| (h.lt_iff m hm n hn).not.trans Nat.not_lt

theorem mono (h : Ordered bound width text) (hb : bound' ≤ bound) : Ordered bound' width text where
  length n hn      := h.length n (Nat.lt_of_lt_of_le hn hb)
  lt_iff n hn m hm := h.lt_iff n (Nat.lt_of_lt_of_le hn hb) m (Nat.lt_of_lt_of_le hm hb)

theorem succ (h : Ordered (bound + 1) width text) : Ordered bound width fun n => text (n + 1) where
  length _ hn      := h.length _ (Nat.succ_lt_succ hn)
  lt_iff _ hn _ hm :=
    (h.lt_iff _ (Nat.succ_lt_succ hn) _ (Nat.succ_lt_succ hm)).trans Nat.succ_lt_succ_iff

theorem suffix (h : Ordered bound width text) (separator : List Char) :
    Ordered bound (width + separator.length) fun n => text n ++ separator where
  length n hn      := by rw [List.length_append, h.length n hn]
  lt_iff n hn m hm := by
    have hl : (text n).length = (text m).length := (h.length n hn).trans (h.length m hm).symm
    rw [append_lt_append_iff hl, ← h.lt_iff n hn m hm]
    simp

theorem blocks {len : Nat → Nat} {place : Nat → Nat → List Char} (h : Ordered bound width text)
    (hp : ∀ i < bound, Ordered (len i) width' (place i)) :
    Ordered (Blocks.start len bound) (width + width') fun n =>
      text (Blocks.split len bound 0 n).1 ++
        place (Blocks.split len bound 0 n).1 (Blocks.split len bound 0 n).2 := by
  have hs (n : Nat) (hn : Blocks.start len 0 + n < Blocks.start len (0 + bound)) :=
    Blocks.split_spec hn
  simp only [Blocks.start, Nat.zero_add] at hs
  constructor
  case length =>
    intro n hn
    obtain ⟨h₁, h₂, _⟩ := hs n hn
    rw [List.length_append, h.length _ h₁, (hp _ h₁).length _ h₂]
  case lt_iff =>
    intro n hn m hm
    obtain ⟨h₁, h₂, h₃⟩ := hs n hn
    obtain ⟨h₁', h₂', h₃'⟩ := hs m hm
    generalize Blocks.split len bound 0 n = p at h₁ h₂ h₃ ⊢
    generalize Blocks.split len bound 0 m = p' at h₁' h₂' h₃' ⊢
    rw [append_lt_append_iff ((h.length _ h₁).trans (h.length _ h₁').symm), h.lt_iff _ h₁ _ h₁',
      h.inj h₁ h₁', ← h₃, ← h₃', Blocks.place_lt_iff h₂ h₂']
    refine or_congr .rfl <| and_congr_right fun he => ?_
    rw [he] at h₂ ⊢
    exact (hp _ h₁').lt_iff _ h₂ _ h₂'

theorem divMod {len : Nat} {place : Nat → List Char} (h : Ordered bound width text)
    (hp : Ordered len width' place) :
    Ordered (bound * len) (width + width') fun n => text (n / len) ++ place (n % len) where
  length n hn := by
    have hl : 0 < len := Nat.pos_of_ne_zero fun hl => by simp [hl] at hn
    rw [List.length_append, h.length _ (Nat.div_lt_of_lt_mul (Nat.mul_comm .. ▸ hn)),
      hp.length _ (Nat.mod_lt _ hl)]
  lt_iff n hn m hm := by
    have hl : 0 < len := Nat.pos_of_ne_zero fun hl => by simp [hl] at hn
    have h₁ : n / len < bound := Nat.div_lt_of_lt_mul (Nat.mul_comm .. ▸ hn)
    have h₂ : m / len < bound := Nat.div_lt_of_lt_mul (Nat.mul_comm .. ▸ hm)
    rw [append_lt_append_iff ((h.length _ h₁).trans (h.length _ h₂).symm), h.lt_iff _ h₁ _ h₂,
      h.inj h₁ h₂, hp.lt_iff _ (Nat.mod_lt _ hl) _ (Nat.mod_lt _ hl)]
    have hb : Blocks.start (fun _ => len) (n / len) + n % len <
        Blocks.start (fun _ => len) (m / len) + m % len ↔ _ :=
      Blocks.place_lt_iff (Nat.mod_lt n hl) (Nat.mod_lt m hl)
    rw [← hb, Blocks.start_const, Blocks.start_const, Nat.div_add_mod, Nat.div_add_mod]

end Ordered

def digit (n : Nat) : Char :=
  Char.ofNat (48 + n)

-- The last digits of a number.
def pad : Nat → Nat → List Char
  | 0, _         => []
  | width + 1, n => pad width (n / 10) ++ [digit (n % 10)]

theorem ordered_digit : Ordered 10 1 fun n => [digit n] where
  length n _ := rfl
  lt_iff     := by decide

theorem ordered_pad {width : Nat} : Ordered (10 ^ width) width (pad width) := by
  induction width
  case zero =>
    constructor
    · exact fun _ _ => rfl
    · intro n hn m hm
      obtain rfl : n = 0 := by omega
      obtain rfl : m = 0 := by omega
      exact iff_of_false (List.lt_irrefl _) (Nat.lt_irrefl 0)
  case succ width hi => exact hi.divMod ordered_digit

def isLeap (year : Nat) : Bool :=
  year % 4 = 0 && (year % 100 ≠ 0 || year % 400 = 0)

def daysOfYear (year : Nat) : Nat :=
  if isLeap year then 366 else 365

-- The months are counted from zero.
def daysOfMonth (year : Nat) : Nat → Nat
  | 1  => if isLeap year then 29 else 28
  | 3  => 30
  | 5  => 30
  | 8  => 30
  | 10 => 30
  | _  => 31

theorem start_daysOfMonth {year : Nat} : Blocks.start (daysOfMonth year) 12 = daysOfYear year := by
  cases h : isLeap year <;> simp [Blocks.start, daysOfMonth, daysOfYear, h]

-- `MM-DD`, for a day of a year.
def monthAndDay (year day : Nat) : List Char :=
  let (month, day) := Blocks.split (daysOfMonth year) 12 0 day
  (pad 2 (month + 1) ++ ['-']) ++ pad 2 (day + 1)

-- `YYYY-MM-DD`, for a day since the start of the year zero.
def date (day : Nat) : List Char :=
  let (year, day) := Blocks.split daysOfYear 10000 0 day
  (pad 4 year ++ ['-']) ++ monthAndDay year day

-- `HH:MM:SS`.
def time (second : Nat) : List Char :=
  (pad 2 (second / 3600) ++ [':']) ++
    ((pad 2 (second % 3600 / 60) ++ [':']) ++ pad 2 (second % 3600 % 60))

-- `YYYY-MM-DD HH:MM:SS`, for a second since the start of the year zero.
def datetime (second : Nat) : List Char :=
  (date (second / 86400) ++ [' ']) ++ time (second % 86400)

-- The seconds of the years that are written with four digits.
def seconds : Nat :=
  Blocks.start daysOfYear 10000 * 86400

theorem ordered_monthAndDay {year : Nat} : Ordered (daysOfYear year) 5 (monthAndDay year) := by
  have hp (bound : Nat) (h : bound ≤ 31) : Ordered bound 2 fun n => pad 2 (n + 1) :=
    (ordered_pad.mono (by omega)).succ
  have hm : Ordered 12 3 fun month => pad 2 (month + 1) ++ ['-'] := (hp 12 (by simp)).suffix ['-']
  have hd (month : Nat) (_ : month < 12) :
      Ordered (daysOfMonth year month) 2 fun day => pad 2 (day + 1) := by
    refine hp _ ?_
    simp only [daysOfMonth]
    split <;> (try split) <;> omega
  exact start_daysOfMonth ▸ hm.blocks hd

theorem ordered_date : Ordered (Blocks.start daysOfYear 10000) 10 date :=
  have hy : Ordered 10000 4 (pad 4) := ordered_pad.mono (by decide)
  (hy.suffix ['-']).blocks fun _ _ => ordered_monthAndDay

theorem ordered_time : Ordered 86400 8 time := by
  have hs : Ordered 60 2 (pad 2) := ordered_pad.mono (by decide)
  have hh : Ordered 24 2 (pad 2) := ordered_pad.mono (by decide)
  exact (hh.suffix [':']).divMod ((hs.suffix [':']).divMod hs)

theorem ordered_datetime : Ordered seconds 19 datetime :=
  (ordered_date.suffix [' ']).divMod ordered_time

-- The start of the Unix epoch.
example : datetime 62167219200 = "1970-01-01 00:00:00".toList := by
  decide +kernel

end Calendar
