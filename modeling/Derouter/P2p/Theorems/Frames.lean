import Derouter.P2p.HeadStream

open Framing

namespace Derouter

-- What ends up on a stream as one frame: a value from one of the two writers, or a frame whose body
-- is not the encoding of any value.
inductive FrameItem (cbor : SerdeCbor α)
  | written (value : α)
  | header (ourPeerId : PeerId) (headRequest : α)
  | undecodable (frame : Frame) (error : cbor.Error)

namespace FrameItem

variable {cbor : SerdeCbor α}

-- The values have encodings whose lengths fit, and the other bodies are not decoded.
def Fits : FrameItem cbor → Prop
  | written value           => ∃ f : Frame, cbor.toVec value = .ok f.body
  | header _ headRequest    => ∃ f : Frame, cbor.toVec headRequest = .ok f.body
  | undecodable frame error => cbor.fromSlice frame.body = .error error

def send (stream : WriteStream) : FrameItem cbor → WriteStream
  | written value                => (writeCbor cbor stream value).2
  | header ourPeerId headRequest =>
    match openOutboundStream cbor ourPeerId (.ok stream) headRequest with
    | some (.ok (_, stream)) => stream
    | _                      => stream
  | undecodable frame _          => { stream with written := stream.written ++ frame.encode }

-- The bytes of all items in a row, on a stream without faults.
def bytes (items : List (FrameItem cbor)) : Bytes :=
  (items.foldl send {}).written

-- What the item is read as.
def outcome : FrameItem cbor → Except IoError (Option α)
  | written value         => .ok (some value)
  | header _ headRequest  => .ok (some headRequest)
  | undecodable _ error   => .error (cbor.decodingFailed error)

-- What the first item that is cut off is read as, if `m` of its bytes are left.
def afterCut (m : Nat) : List (FrameItem cbor) → List (Except IoError (Option α))
  | []     => []
  | _ :: _ => if m < 4 then [] else [.error .earlyEof]

theorem exists_frame (hc : cbor.Lawful) {item : FrameItem cbor} (h : item.Fits) :
    ∃ f : Frame, cbor.decode f.body = item.outcome ∧ ∀ stream : WriteStream, stream.fault = none →
      item.send stream = { stream with written := stream.written ++ f.encode } := by
  cases item
  case written value =>
    obtain ⟨f, hf⟩ := h
    refine ⟨f, ?_, fun stream hs => ?_⟩
    · simp only [SerdeCbor.decode, hc.fromSlice_toVec _ _ hf, outcome]
    · rw [send, writeCbor_of_no_fault hs hf]
  case header headRequest =>
    obtain ⟨f, hf⟩ := h
    refine ⟨f, ?_, fun stream hs => ?_⟩
    · simp only [SerdeCbor.decode, hc.fromSlice_toVec _ _ hf, outcome]
    · rw [send, openOutboundStream_of_no_fault hs hf]
  case undecodable frame error =>
    have hf : cbor.fromSlice frame.body = .error error := h
    exact ⟨frame, by simp only [SerdeCbor.decode, hf, outcome], fun _ _ => rfl⟩

theorem foldl_send (hc : cbor.Lawful) {items : List (FrameItem cbor)}
    (h : ∀ item ∈ items, item.Fits) {s : WriteStream} (hs : s.fault = none) :
    (items.foldl send s).written = s.written ++ bytes items := by
  rw [bytes]
  induction items generalizing s
  case nil => simp
  case cons item items hi =>
    obtain ⟨f, _, hf⟩ := exists_frame hc (h item List.mem_cons_self)
    have h' : ∀ item ∈ items, item.Fits := fun _ hm => h _ (List.mem_cons_of_mem _ hm)
    -- Without a fault, the first item leaves a stream without a fault.
    have hr {s : WriteStream} (hs : s.fault = none) :
        (items.foldl send (send s item)).written =
          s.written ++ f.encode ++ (items.foldl send {}).written := by
      rw [hf s hs]
      exact hi h' (s := { s with written := s.written ++ f.encode }) hs
    rw [List.foldl_cons, List.foldl_cons, hr hs, hr rfl, List.nil_append, List.append_assoc]

theorem bytes_cons (hc : cbor.Lawful) {item : FrameItem cbor} {items : List (FrameItem cbor)}
    (h : ∀ i ∈ item :: items, i.Fits) : ∃ f : Frame, cbor.decode f.body = item.outcome ∧
      bytes [item] = f.encode ∧ bytes (item :: items) = f.encode ++ bytes items := by
  obtain ⟨f, hd, hf⟩ := exists_frame hc (h item List.mem_cons_self)
  have h' : ∀ i ∈ items, i.Fits := fun _ hm => h _ (List.mem_cons_of_mem _ hm)
  refine ⟨f, hd, ?_, ?_⟩
  · rw [bytes, List.foldl_cons, List.foldl_nil, hf {} rfl, List.nil_append]
  · rw [bytes, List.foldl_cons, foldl_send hc h' (by rw [hf {} rfl]), hf {} rfl, List.nil_append]

-- A reader takes the items before a cut one by one, and no value after them: it finds the end of the
-- stream if the cut is inside a length or between two items, and an error if it is inside a body.
theorem readsCbor_cut (hc : cbor.Lawful) {items : List (FrameItem cbor)}
    (h : ∀ item ∈ items, item.Fits) (n : Nat) : ∃ done rest, items = done ++ rest ∧
      (bytes done).length ≤ n ∧
      (∀ item ∈ rest.head?, n < (bytes done).length + (bytes [item]).length) ∧
      ∀ k, readsCbor cbor
          (done.length + (afterCut (n - (bytes done).length) rest).length + k) ((bytes items).take n) =
        done.map outcome ++ afterCut (n - (bytes done).length) rest ++
          List.replicate k (Except.ok none) := by
  induction items generalizing n
  case nil =>
    refine ⟨[], [], rfl, Nat.zero_le n, nofun, fun k => ?_⟩
    have hn : ((bytes ([] : List (FrameItem cbor))).take n).length < 4 := by
      rw [List.length_take]
      exact Nat.lt_of_le_of_lt (Nat.min_le_right _ _) (Nat.zero_lt_succ 3)
    rw [readsCbor_of_lt hn]
    simp [afterCut]
  case cons item items hi =>
    obtain ⟨f, hd, hs, hb⟩ := bytes_cons hc h
    by_cases hn : f.encode.length ≤ n
    case pos =>
      -- The first item is complete.
      have h' : ∀ i ∈ items, i.Fits := fun _ hm => h _ (List.mem_cons_of_mem _ hm)
      obtain ⟨done, rest, rfl, hl, hr, hk⟩ := hi h' (n - f.encode.length)
      have hd' : ∀ i ∈ item :: done, i.Fits := fun i hm =>
        h i <| by rw [← List.cons_append]; exact List.mem_append_left _ hm
      have hb' : bytes (item :: done) = f.encode ++ bytes done := by
        obtain ⟨f', _, hs', hb'⟩ := bytes_cons hc hd'
        rw [hb', ← hs', hs]
      have hl' : (bytes (item :: done)).length = f.encode.length + (bytes done).length := by
        rw [hb', List.length_append]
      refine ⟨item :: done, rest, rfl, by omega, fun i hm => ?_, fun k => ?_⟩
      · have := hr i hm
        omega
      · have ht : (bytes (item :: (done ++ rest))).take n =
            f.encode ++ (bytes (done ++ rest)).take (n - f.encode.length) := by
          rw [hb, List.take_append, List.take_of_length_le hn]
        have he : n - (bytes (item :: done)).length =
            n - f.encode.length - (bytes done).length := by omega
        have hs : ∀ a, (item :: done).length + a + k = done.length + a + k + 1 := fun a => by
          rw [List.length_cons]
          omega
        rw [ht, he, hs, readsCbor, readCbor_encode, hk, hd, List.map_cons, List.cons_append,
          List.cons_append]
    case neg =>
      -- The first item is cut off.
      have hn := Nat.not_le.mp hn
      have ht : (bytes (item :: items)).take n = f.encode.take n := by
        rw [hb, List.take_append_of_le_length (Nat.le_of_lt hn)]
      refine ⟨[], item :: items, rfl, Nat.zero_le n, fun i hm => ?_, fun k => ?_⟩
      · obtain rfl := Option.some.inj hm
        rw [hs]
        exact Nat.lt_of_lt_of_le hn (Nat.le_add_left _ _)
      · have hz : n - (bytes ([] : List (FrameItem cbor))).length = n := rfl
        rw [ht, hz, afterCut]
        by_cases h₄ : n < 4
        case pos =>
          have hl : (f.encode.take n).length < 4 :=
            Nat.lt_of_le_of_lt (List.length_take_le _ _) h₄
          rw [if_pos h₄, readsCbor_of_lt hl]
          simp
        case neg =>
          have hl : ([] : Bytes).length < 4 := Nat.zero_lt_succ 3
          rw [if_neg h₄, List.length_nil, List.length_singleton, Nat.zero_add, Nat.add_comm 1,
            readsCbor, readCbor_take (Nat.not_lt.mp h₄) hn, readsCbor_of_lt hl]
          rfl

-- `serde_cbor` for truth values, which take one byte each.
private def boolCbor : SerdeCbor Bool where
  Error      := Unit
  toVec b    := .ok [if b then 0xf5 else 0xf4]
  fromSlice
    | [0xf5] => .ok true
    | [0xf4] => .ok false
    | _      => .error ()
  ofIo _     := ()
  display _  := "trailing data"

-- The third frame is the break byte, and the fourth one is cut off after its length.
theorem readsCbor_cut_sample : ∃ items : List (FrameItem boolCbor), items.length = 4 ∧
    ∃ done rest, items = done ++ rest ∧ (bytes done).length ≤ 19 ∧
      ∀ k, readsCbor boolCbor (done.length + (afterCut (19 - (bytes done).length) rest).length + k)
          ((bytes items).take 19) =
        done.map outcome ++ afterCut (19 - (bytes done).length) rest ++
          List.replicate k (Except.ok none) := by
  have hc : boolCbor.Lawful := ⟨fun a b h => by
    obtain rfl := Except.ok.inj h
    cases a <;> rfl⟩
  have hf (a : Bool) : ∃ f : Frame, boolCbor.toVec a = .ok f.body :=
    ⟨⟨[if a then 0xf5 else 0xf4], by simp⟩, rfl⟩
  have hi : ∀ item ∈ ([.written true, .header ⟨[0]⟩ false, .undecodable ⟨[0xff], by decide⟩ (),
      .written false] : List (FrameItem boolCbor)), item.Fits := by
    simp only [List.forall_mem_cons]
    exact ⟨hf true, hf false, rfl, hf false, nofun⟩
  obtain ⟨done, rest, he, hl, _, hk⟩ := readsCbor_cut hc hi 19
  exact ⟨_, rfl, done, rest, he, hl, hk⟩

end FrameItem

-- What the caller of a poll gets, if the poll does not wait.
def CborStream.NextCbor.result (cbor : SerdeCbor α) : NextCbor → Option (Except IoError (Option α))
  | some body => Option.some (cbor.decode body)
  | none      => Option.some (.ok Option.none)
  | err       => Option.some (.error .earlyEof)
  | pending   => Option.none

theorem CborStream.result_nextCbor (cbor : SerdeCbor α) {s : CborStream} (hr : s.reading = .start)
    (hw : s.wire = []) (he : s.eof = true) :
    s.nextCbor.1.result cbor = some (readCbor cbor s.avail).1 ∧
      s.nextCbor.2.avail = (readCbor cbor s.avail).2 := by
  have hp := Reading.waits_start.polled s.avail
  rw [← hr] at hp
  have hc : s.reading.consumed = [] := hr ▸ rfl
  rw [hc, List.nil_append] at hp
  simp only [CborStream.nextCbor]
  split
  case h_1 body avail hb =>
    rw [hb] at hp
    cases hp
    case ready f ha =>
      rw [ha, readCbor_encode]
      exact ⟨rfl, rfl⟩
  case h_2 r hb =>
    rw [hb] at hp
    cases hp
    case pending hw' ha =>
      rw [hw, he, ← ha]
      cases r
      case length lenBuf =>
        rw [Reading.consumed, readCbor_of_lt hw']
        exact ⟨rfl, rfl⟩
      case body len buffer =>
        rw [Reading.consumed, readCbor_of_body hw'.1 hw'.2]
        exact ⟨rfl, rfl⟩

end Derouter
