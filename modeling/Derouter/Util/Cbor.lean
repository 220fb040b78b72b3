import Derouter.Lib.Framing

open Framing

namespace Derouter

-- A byte stream with a `CborBufReader` at its end.
structure CborStream where
  -- What has been sent in all, and its bytes that are on their way. The sender has closed the stream
  -- (`eof`) after the last of them.
  sent    : List Frame := []
  wire    : Bytes      := []
  eof     : Bool       := false
  -- The bytes that have arrived, and how far the current future of `next_cbor` has got.
  avail   : Bytes      := []
  reading : Reading    := .start
  -- The bodies that were read, in order.
  read    : List Bytes := []

namespace CborStream

variable (s : CborStream)

def send (frame : Frame) : CborStream :=
  { s with sent := s.sent ++ [frame], wire := s.wire ++ frame.encode }

def close : CborStream :=
  { s with eof := true }

def arrive (n : Nat) : CborStream :=
  { s with avail := s.avail ++ s.wire.take n, wire := s.wire.drop n }

-- The future of `next_cbor` is dropped, with the bytes that it holds.
def dropFuture : CborStream :=
  { s with reading := .start }

inductive NextCbor
  -- The body of a frame, which is left to be decoded.
  | some (body : Bytes)
  -- EOF or error.
  | none
  -- The end of the stream is inside a body.
  | err
  | pending

-- Polls the current future of `next_cbor`, which is gone if there is a result.
def nextCbor : NextCbor × CborStream :=
  match s.reading.poll s.avail with
  | .ready body avail => (.some body, { s with avail, reading := .start, read := s.read ++ [body] })
  | .pending reading  =>
    let s := { s with avail := [], reading }
    if s.eof && s.wire.isEmpty then
      match reading with
      | .length _ => (.none, s.dropFuture)
      | .body ..  => (.err, s.dropFuture)
    else
      (.pending, s)

-- The bytes that were sent, and that are not part of a frame that was read. This includes what the
-- reader holds.
def unread : Bytes :=
  s.reading.consumed ++ s.avail ++ s.wire

-- The first of the frames that were sent have been read, and the others are still to be read.
def Delivers : Prop :=
  ∃ done rest, s.sent = done ++ rest ∧ s.read = done.map Frame.body ∧
    s.unread = rest.flatMap Frame.encode

variable {s} {s' : CborStream} {f : Frame}

theorem Delivers.isPrefix (h : s.Delivers) : s.read <+: s.sent.map Frame.body := by
  have ⟨done, rest, hs, hr, _⟩ := h
  rw [hs, hr, List.map_append]
  exact List.prefix_append ..

theorem Delivers.complete (h : s.Delivers) (hu : s.unread = []) :
    s.read = s.sent.map Frame.body := by
  have ⟨done, rest, hs, hr, he⟩ := h
  cases rest
  case nil => rw [hs, hr, List.append_nil]
  case cons f rest =>
    rw [hu, List.flatMap_cons, eq_comm, List.append_eq_nil_iff] at he
    exact absurd he.1 f.encode_ne_nil

theorem delivers_new : ({} : CborStream).Delivers :=
  ⟨[], [], rfl, rfl, rfl⟩

theorem Delivers.send (h : s.Delivers) : (s.send f).Delivers := by
  have ⟨done, rest, hs, hr, hu⟩ := h
  refine ⟨done, rest ++ [f], by rw [CborStream.send, hs, List.append_assoc], hr, ?_⟩
  simp only [unread, CborStream.send, List.flatMap_append, List.flatMap_singleton] at hu ⊢
  rw [← hu, List.append_assoc _ s.wire]

theorem Delivers.arrive (h : s.Delivers) : (s.arrive n).Delivers := by
  have ⟨done, rest, hs, hr, hu⟩ := h
  refine ⟨done, rest, hs, hr, ?_⟩
  simp only [unread, CborStream.arrive, List.append_assoc, List.take_append_drop] at hu ⊢
  exact hu

theorem Delivers.dropFuture_iff (h : s.Delivers) :
    s.dropFuture.Delivers ↔ s.reading.consumed = [] := by
  have ⟨done, rest, hs, hr, hu⟩ := h
  constructor
  case mp =>
    intro ⟨done', rest', hs', hr', hu'⟩
    have hl : done.length = done'.length := by
      have := congrArg List.length (hr.symm.trans hr')
      simpa only [List.length_map] using this
    have ⟨_, he⟩ := List.append_inj (hs.symm.trans hs') hl
    rw [← he, ← hu] at hu'
    simpa [unread, CborStream.dropFuture, Reading.start, Reading.consumed] using hu'
  case mpr =>
    intro hc
    refine ⟨done, rest, hs, hr, ?_⟩
    rw [← hu]
    simp only [unread, CborStream.dropFuture, Reading.start, hc]
    rfl

-- The outcomes of a poll.
inductive Polls (s : CborStream) : NextCbor × CborStream → Prop
  | some (f : Frame) (avail : Bytes) (h : s.reading.consumed ++ s.avail = f.encode ++ avail) :
    Polls s (.some f.body, { s with avail, reading := .start, read := s.read ++ [f.body] })
  | pending (r : Reading) (waits : r.Waits) (h : r.consumed = s.reading.consumed ++ s.avail) :
    Polls s (.pending, { s with avail := [], reading := r })
  | stop (r : Reading) (result : NextCbor) (waits : r.Waits)
      (h : r.consumed = s.reading.consumed ++ s.avail) (wire : s.wire = [])
      (result_ne : result ≠ .pending) :
    Polls s (result, { s with avail := [], reading := .start })

theorem polls_nextCbor (hw : s.reading.Waits) : s.Polls s.nextCbor := by
  have hp := hw.polled s.avail
  simp only [CborStream.nextCbor]
  split
  case h_1 body avail he =>
    rw [he] at hp
    cases hp
    case ready f hb => exact .some f avail hb
  case h_2 r he =>
    rw [he] at hp
    cases hp
    case pending hr hb =>
      split
      case isFalse => exact .pending r hr hb
      case isTrue hn =>
        have hn : s.wire = [] := by
          simp only [Bool.and_eq_true, List.isEmpty_iff] at hn
          exact hn.2
        split
        case h_1 => exact .stop _ .none hr hb hn nofun
        case h_2 => exact .stop _ .err hr hb hn nofun

theorem Delivers.consumed_eq_nil {r : Reading} (h : s.Delivers) (hr : r.Waits) (hu : r.consumed = s.unread) :
    r.consumed = [] := by
  have ⟨done, rest, hs, hd, he⟩ := h
  rw [hu, he]
  cases rest
  case nil => rfl
  case cons f rest => exact absurd (hu.trans he) (hr.consumed_ne f _)

theorem Delivers.nextCbor (h : s.Delivers) (hw : s.reading.Waits) : s.nextCbor.2.Delivers := by
  have ⟨done, rest, hs, hr, hu⟩ := h
  have hp := polls_nextCbor hw
  generalize s.nextCbor = p at hp
  cases hp
  case some f avail hb =>
    rw [unread, hb, List.append_assoc] at hu
    cases rest
    case nil =>
      rw [List.flatMap_nil, List.append_eq_nil_iff] at hu
      exact absurd hu.1 f.encode_ne_nil
    case cons f' rest =>
      rw [List.flatMap_cons] at hu
      have ⟨hf, hu⟩ := Frame.encode_append_inj hu
      refine ⟨done ++ [f], rest, by rw [hs, hf, List.append_assoc]; rfl, by simp [hr], ?_⟩
      rw [← hu]
      rfl
  case pending r hr' hb =>
    refine ⟨done, rest, hs, hr, ?_⟩
    rw [← hu]
    simp only [unread, hb, List.append_nil]
  case stop r result hr' hb hn hne =>
    have hc : r.consumed = [] := h.consumed_eq_nil hr' (by simp only [unread, hb, hn, List.append_nil])
    refine ⟨done, rest, hs, hr, ?_⟩
    rw [← hu]
    simp only [unread, ← hb, hc]
    rfl

theorem waits_nextCbor (hw : s.reading.Waits) : s.nextCbor.2.reading.Waits := by
  have hp := polls_nextCbor hw
  generalize s.nextCbor = p at hp
  cases hp
  case some          => exact Reading.waits_start
  case pending hr hb => exact hr
  case stop          => exact Reading.waits_start

theorem consumed_of_pending (hw : s.reading.Waits) (hn : s.nextCbor = (.pending, s')) :
    s'.reading.consumed = s.reading.consumed ++ s.avail := by
  have hp := polls_nextCbor hw
  rw [hn] at hp
  cases hp
  case pending hr hb => exact hb
  case stop hne      => contradiction

theorem Delivers.not_partial (h : s.Delivers) (hw : s.reading.Waits)
    (hn : s.nextCbor.1 ≠ .pending) : ¬Partial (s.reading.consumed ++ s.avail) := by
  have hp := polls_nextCbor hw
  generalize s.nextCbor = p at hp hn
  cases hp
  case some f avail hb  => exact fun hp => hp.2 f avail hb
  case pending          => exact absurd rfl hn
  case stop r result hr hb hnil hne =>
    have hc : r.consumed = [] := h.consumed_eq_nil hr (by simp only [unread, hb, hnil, List.append_nil])
    exact fun hp => hp.1 (hb ▸ hc)

end CborStream
end Derouter
