import Derouter.Lib.Cbor
import Derouter.P2p.Stream
import Derouter.Util.SerdeCbor

open Framing

namespace Derouter

inductive HeadRequest
  | jobConnection (request : JobConnectionHeadRequest)
deriving DecidableEq

-- Written to the stream in response to a head request.
inductive HeadResponse
  | jobConnection (response : JobConnectionHeadResponse)
deriving DecidableEq

-- `libp2p_stream::OpenStreamError`.
inductive OpenStreamError
  | unsupportedProtocol
  | io (error : IoError)
deriving DecidableEq

-- Writes the head request to the stream that was opened, unless it was not. A failure to encode the
-- request is a panic (`none`).
def openOutboundStream (cbor : SerdeCbor α) (ourPeerId : PeerId)
    (opened : Except OpenStreamError WriteStream) (headRequest : α) :
    Option (Except OpenStreamError (PeerId × WriteStream)) :=
  match opened with
  | .error e   => some (.error e)
  | .ok stream =>
    match cbor.toVec headRequest with
    | .error _         => none
    | .ok headerBuffer =>
      match stream.writeAll (toBeBytes headerBuffer.length) with
      | (.error e, _)      => some (.error (.io e))
      | (.ok (), stream)   =>
        match stream.writeAll headerBuffer with
        | (.error e, _)    => some (.error (.io e))
        | (.ok (), stream) => some (.ok (ourPeerId, stream))

-- How a handler goes on after it has written its head response.
inductive HeadResponseWritten
  | ok
  -- It has logged the error "While writing head response", and returns.
  | returned (ioError : IoError)
  | panic
deriving DecidableEq

-- The outer result is unwrapped.
def writeHeadResponse (cbor : SerdeCbor α) (stream : WriteStream) (headResponse : α) :
    HeadResponseWritten × WriteStream :=
  match writeCbor cbor stream headResponse with
  | (.error _, stream)             => (.panic, stream)
  | (.ok (.ok ()), stream)         => (.ok, stream)
  | (.ok (.error ioError), stream) => (.returned ioError, stream)

-- The failure of a stream is reported in the inner result, and makes the handler return.
structure ReportsFailure (cbor : SerdeCbor HeadResponse) (stream : WriteStream)
    (headResponse : HeadResponse) (error : IoError) : Prop where
  inner    : (writeCbor cbor stream headResponse).1 = .ok (.error error)
  returned : (writeHeadResponse cbor stream headResponse).1 = .returned error

variable {cbor : SerdeCbor α} {stream : WriteStream}

theorem openOutboundStream_of_no_fault {f : Frame} (h : stream.fault = none)
    (hv : cbor.toVec headRequest = .ok f.body) :
    openOutboundStream cbor ourPeerId (.ok stream) headRequest =
      some (.ok (ourPeerId, { stream with written := stream.written ++ f.encode })) := by
  simp [openOutboundStream, hv, WriteStream.writeAll, h, Frame.encode]

-- On a stream that fails, the handler never comes to its logging branch.
theorem writeHeadResponse_of_fault (h : stream.fault = some (room, error))
    (hv : cbor.toVec headResponse = .ok buf) (hr : room < 4 + buf.length) :
    (writeHeadResponse cbor stream headResponse).1 = .panic := by
  have hw := writeCbor_of_fault h hv hr
  simp only [writeHeadResponse]
  split
  case h_1      => rfl
  case h_2 hs   => simp [hs] at hw
  case h_3 hs   => simp [hs] at hw

-- No failure of a stream is reported, at whatever byte of the response it comes.
theorem not_reportsFailure {cbor : SerdeCbor HeadResponse} {headResponse : HeadResponse}
    (h : stream.fault = some (room, error)) (hv : cbor.toVec headResponse = .ok buf)
    (hr : room < 4 + buf.length) :
    ¬ReportsFailure cbor stream headResponse error ∧
      (writeCbor cbor stream headResponse).1 = .error (cbor.ofIo error) ∧
      (writeHeadResponse cbor stream headResponse).1 = .panic :=
  ⟨fun hi => writeCbor_ne_inner_error error hi.inner, writeCbor_of_fault h hv hr,
    writeHeadResponse_of_fault h hv hr⟩

-- The encodings of the responses: a map of one variant to its fields.
def HeadResponse.encoder : Cbor.Encoder HeadResponse
  | .jobConnection response => Cbor.struct 1 (Cbor.field "JobConnection" variant) response
where
  variant : Cbor.Encoder JobConnectionHeadResponse
    | .ok                 => Cbor.text "Ok"
    | .jobNotFound        => Cbor.text "JobNotFound"
    | .jobExpired         => Cbor.text "JobExpired"
    | .busy               => Cbor.text "Busy"
    | .anotherError error => Cbor.struct 1 (Cbor.field "AnotherError" Cbor.text) error

-- `serde_cbor` for the responses, which are only written.
def HeadResponse.serdeCbor : SerdeCbor HeadResponse where
  Error       := Option IoError
  toVec a     := match encoder a with
    | some b => .ok b
    | none   => .error none
  fromSlice _ := .error none
  ofIo        := some
  display _   := ""

-- The peer resets the stream after two bytes of the response.
theorem not_reportsFailure_sample :
    (writeHeadResponse HeadResponse.serdeCbor { fault := some (2, ⟨.other, "reset"⟩) }
      (.jobConnection .ok)).1 = .panic := by
  have hv : HeadResponse.serdeCbor.toVec (.jobConnection .ok) =
      .ok (0xa1 :: 0x6d :: Hex.bytes "JobConnection" ++ 0x62 :: Hex.bytes "Ok") := rfl
  exact (not_reportsFailure rfl hv (by decide)).2.2

theorem exists_not_reportsFailure : ∃ (cbor : SerdeCbor HeadResponse) (stream : WriteStream)
    (headResponse : HeadResponse) (room : Nat) (error : IoError) (buf : Bytes),
    stream.fault = some (room, error) ∧ cbor.toVec headResponse = .ok buf ∧
      room < 4 + buf.length ∧ ¬ReportsFailure cbor stream headResponse error :=
  ⟨HeadResponse.serdeCbor, { fault := some (2, ⟨.other, "reset"⟩) }, .jobConnection .ok, 2,
    ⟨.other, "reset"⟩, 0xa1 :: 0x6d :: Hex.bytes "JobConnection" ++ 0x62 :: Hex.bytes "Ok", rfl, rfl,
    by decide, fun h => nomatch h.inner⟩

end Derouter
