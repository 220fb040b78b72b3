import Mathlib.Algebra.Group.Nat.Defs
import Mathlib.Data.List.Basic

-- Frames on a byte stream: the length of the body as a big-endian number of 32 bits, and the body. A
-- reader takes them off the stream while their bytes arrive.

namespace Framing

abbrev Bytes := List UInt8

def toBeBytes (n : Nat) : Bytes :=
  [.ofNat (n / 2 ^ 24), .ofNat (n / 2 ^ 16), .ofNat (n / 2 ^ 8), .ofNat n]

def ofBeBytes (l : Bytes) : Nat :=
  l.foldl (fun n b => n * 256 + b.toNat) 0

@[simp]
theorem length_toBeBytes (n : Nat) : (toBeBytes n).length = 4 :=
  rfl

theorem ofBeBytes_toBeBytes (h : n < 2 ^ 32) : ofBeBytes (toBeBytes n) = n := by
  simp only [ofBeBytes, toBeBytes, List.foldl_cons, List.foldl_nil, UInt8.toNat_ofNat']
  omega

theorem ofBeBytes_spec (h : l.length = 4) : ofBeBytes l < 2 ^ 32 ∧ toBeBytes (ofBeBytes l) = l := by
  have ⟨a, b, c, d, he⟩ := List.length_eq_four.mp h
  subst he
  have ha := a.toNat_lt
  have hb := b.toNat_lt
  have hc := c.toNat_lt
  have hd := d.toNat_lt
  simp only [ofBeBytes, toBeBytes, List.foldl_cons, List.foldl_nil, List.cons.injEq, and_true,
    ← UInt8.toNat_inj, UInt8.toNat_ofNat']
  omega

-- A body whose length fits its prefix.
@[ext]
structure Frame where
  body : Bytes
  fits : body.length < 2 ^ 32

namespace Frame

variable {f f' : Frame} {l l' : Bytes}

def empty : Frame where
  body := []
  fits := Nat.two_pow_pos 32

def encode (f : Frame) : Bytes :=
  toBeBytes f.body.length ++ f.body

theorem encode_ne_nil (f : Frame) : f.encode ≠ [] := by
  simp [encode, toBeBytes]

theorem encode_append_inj (h : f.encode ++ l = f'.encode ++ l') : f = f' ∧ l = l' := by
  simp only [encode, List.append_assoc] at h
  have ⟨hp, hb⟩ := List.append_inj h rfl
  have hl : f.body.length = f'.body.length := by
    rw [← ofBeBytes_toBeBytes f.fits, hp, ofBeBytes_toBeBytes f'.fits]
  have ⟨hb, hl⟩ := List.append_inj hb hl
  exact ⟨Frame.ext hb, hl⟩

end Frame

-- Bytes that start with a part of a frame, but with no whole one.
def Partial (bytes : Bytes) : Prop :=
  bytes ≠ [] ∧ ∀ (f : Frame) rest, bytes ≠ f.encode ++ rest

-- How far the reader has got with the next frame: it holds a part of the length, or the length and a
-- part of the body.
inductive Reading
  | length (lenBuf : Bytes)
  | body (len : Nat) (buffer : Bytes)
deriving DecidableEq

inductive Progress
  | ready (body rest : Bytes)
  | pending (reading : Reading)

namespace Reading

def start : Reading :=
  .length []

-- The bytes that the reader has taken off the stream, and that go with it when it is dropped.
def consumed : Reading → Bytes
  | length lenBuf   => lenBuf
  | body len buffer => toBeBytes len ++ buffer

-- Fills a buffer up to `n` bytes, and leaves what it does not need.
def readExact (n : Nat) (buffer avail : Bytes) : Bytes × Bytes :=
  (buffer ++ avail.take (n - buffer.length), avail.drop (n - buffer.length))

def pollBody (len : Nat) (buffer avail : Bytes) : Progress :=
  let (buffer, avail) := readExact len buffer avail
  if buffer.length < len then .pending (.body len buffer) else .ready buffer avail

def poll : Reading → Bytes → Progress
  | length lenBuf, avail =>
    let (lenBuf, avail) := readExact 4 lenBuf avail
    if lenBuf.length < 4 then .pending (.length lenBuf) else pollBody (ofBeBytes lenBuf) [] avail
  | body len buffer, avail => pollBody len buffer avail

-- A reader that waits for more bytes.
def Waits : Reading → Prop
  | length lenBuf   => lenBuf.length < 4
  | body len buffer => len < 2 ^ 32 ∧ buffer.length < len

theorem waits_start : start.Waits := by
  simp [start, Waits]

theorem Waits.consumed_ne {r : Reading} (h : r.Waits) (f : Frame) (l : Bytes) :
    r.consumed ≠ f.encode ++ l := by
  intro he
  cases r
  case length lenBuf =>
    have hl := congrArg List.length he
    simp only [consumed, Frame.encode, List.length_append, length_toBeBytes] at hl
    simp only [Waits] at h
    omega
  case body len buffer =>
    simp only [consumed, Frame.encode, List.append_assoc] at he
    have ⟨hp, hb⟩ := List.append_inj he rfl
    have hl : len = f.body.length := by
      rw [← ofBeBytes_toBeBytes h.1, hp, ofBeBytes_toBeBytes f.fits]
    have hb := congrArg List.length hb
    have := h.2
    simp only [List.length_append] at hb
    omega

theorem Waits.partial_iff {r : Reading} (h : r.Waits) : Partial r.consumed ↔ r.consumed ≠ [] :=
  ⟨(·.1), (⟨·, h.consumed_ne⟩)⟩

-- What polling makes of the bytes that it has: it completes the frame at their head, or it takes all
-- of them.
inductive Polled (bytes : Bytes) : Progress → Prop
  | ready (f : Frame) (rest : Bytes) (h : bytes = f.encode ++ rest) : Polled bytes (.ready f.body rest)
  | pending (r : Reading) (waits : r.Waits) (h : r.consumed = bytes) : Polled bytes (.pending r)

theorem readExact_append (n : Nat) (buffer avail : Bytes) :
    (readExact n buffer avail).1 ++ (readExact n buffer avail).2 = buffer ++ avail := by
  simp [readExact, List.append_assoc, List.take_append_drop]

theorem readExact_short (h : (readExact n buffer avail).1.length < n) :
    (readExact n buffer avail).2 = [] := by
  simp only [readExact, List.length_append, List.length_take, List.drop_eq_nil_iff] at h ⊢
  omega

theorem readExact_full (hb : buffer.length ≤ n) (h : ¬(readExact n buffer avail).1.length < n) :
    (readExact n buffer avail).1.length = n := by
  simp only [readExact, List.length_append, List.length_take] at h ⊢
  omega

theorem polled_body {len : Nat} {buffer : Bytes} (avail : Bytes) (hl : len < 2 ^ 32)
    (hb : buffer.length ≤ len) :
    Polled (toBeBytes len ++ (buffer ++ avail)) (pollBody len buffer avail) := by
  have ha := readExact_append len buffer avail
  simp only [pollBody]
  split
  case isTrue h =>
    have hw : Waits (.body len (readExact len buffer avail).1) := ⟨hl, h⟩
    apply Polled.pending _ hw
    rw [readExact_short h, List.append_nil] at ha
    rw [consumed, ha]
  case isFalse h =>
    have he := readExact_full hb h
    have hf : (readExact len buffer avail).1.length < 2 ^ 32 := he.symm ▸ hl
    refine .ready ⟨_, hf⟩ _ ?_
    rw [Frame.encode, he, List.append_assoc, ha]

theorem Waits.polled {r : Reading} (h : r.Waits) (avail : Bytes) :
    Polled (r.consumed ++ avail) (r.poll avail) := by
  cases r
  case body len buffer =>
    rw [consumed, List.append_assoc]
    exact polled_body _ h.1 (Nat.le_of_lt h.2)
  case length lenBuf =>
    have ha := readExact_append 4 lenBuf avail
    simp only [poll, consumed]
    split
    case isTrue hs =>
      have hw : Waits (.length (readExact 4 lenBuf avail).1) := hs
      apply Polled.pending _ hw
      rw [readExact_short hs, List.append_nil] at ha
      exact ha
    case isFalse hs =>
      -- The length is complete, and the body starts with what is left.
      have ⟨hlt, hp⟩ := ofBeBytes_spec <| readExact_full (Nat.le_of_lt h) hs
      have hz : ([] : Bytes).length ≤ ofBeBytes (readExact 4 lenBuf avail).1 := Nat.zero_le _
      have hb := polled_body (readExact 4 lenBuf avail).2 hlt hz
      rwa [hp, List.nil_append, ha] at hb

end Reading
end Framing
