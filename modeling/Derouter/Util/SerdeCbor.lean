import Derouter.Util.Cbor

open Framing

namespace Derouter

-- `std::io::ErrorKind`, as far as this program tells its kinds apart.
inductive IoErrorKind
  | unexpectedEof
  | invalidData
  | other
deriving DecidableEq

structure IoError where
  kind    : IoErrorKind
  message : String
deriving DecidableEq

def IoError.earlyEof : IoError where
  kind    := .unexpectedEof
  message := "early eof"

-- The crate `serde_cbor`, for the values of one type. Its errors include the I/O errors: `ofIo` is
-- the conversion that the operator `?` applies to them.
structure SerdeCbor (α : Type) where
  Error     : Type
  toVec     : α → Except Error Bytes
  fromSlice : Bytes → Except Error α
  ofIo      : IoError → Error
  display   : Error → String

-- A value is decoded from what it is encoded to.
structure SerdeCbor.Lawful (cbor : SerdeCbor α) : Prop where
  fromSlice_toVec : ∀ a b, cbor.toVec a = .ok b → cbor.fromSlice b = .ok a

-- The writing end of a stream. If the stream has a fault, it takes some more bytes, and fails every
-- write after them.
structure WriteStream where
  written : Bytes                  := []
  fault   : Option (Nat × IoError) := none

namespace WriteStream

def writeAll (s : WriteStream) (bytes : Bytes) : Except IoError Unit × WriteStream :=
  match s.fault with
  | none => (.ok (), { s with written := s.written ++ bytes })
  | some (room, error) =>
    if bytes.length ≤ room then
      (.ok (), { written := s.written ++ bytes, fault := some (room - bytes.length, error) })
    else
      (.error error, { written := s.written ++ bytes.take room, fault := some (0, error) })

-- The lowest 32 bits of a number.
def writeU32 (s : WriteStream) (n : Nat) : Except IoError Unit × WriteStream :=
  s.writeAll (toBeBytes n)

theorem writeAll_of_le {s : WriteStream} (h : s.fault = some (room, error))
    (hl : bytes.length ≤ room) :
    s.writeAll bytes =
      (.ok (), { written := s.written ++ bytes, fault := some (room - bytes.length, error) }) := by
  simp [writeAll, h, hl]

theorem writeAll_of_lt {s : WriteStream} (h : s.fault = some (room, error))
    (hl : room < bytes.length) :
    s.writeAll bytes =
      (.error error, { written := s.written ++ bytes.take room, fault := some (0, error) }) := by
  simp [writeAll, h, Nat.not_le.mpr hl]

end WriteStream

variable {α : Type} (cbor : SerdeCbor α)

-- Both uses of `?` on an I/O result leave the function with the outer result.
def writeCbor (writer : WriteStream) (value : α) :
    Except cbor.Error (Except IoError Unit) × WriteStream :=
  match cbor.toVec value with
  | .error e => (.error e, writer)
  | .ok buf  =>
    match writer.writeU32 buf.length with
    | (.error e, writer) => (.error (cbor.ofIo e), writer)
    | (.ok (), writer)   =>
      match writer.writeAll buf with
      | (.error e, writer) => (.error (cbor.ofIo e), writer)
      | (.ok (), writer)   => (.ok (.ok ()), writer)

-- Reads from a stream that ends after the given bytes.
def readExact (n : Nat) (reader : Bytes) : Except IoError Bytes × Bytes :=
  if n ≤ reader.length then
    (.ok (reader.take n), reader.drop n)
  else
    (.error .earlyEof, [])

-- The error of a body that is not the encoding of any value.
def SerdeCbor.decodingFailed (e : cbor.Error) : IoError where
  kind    := .invalidData
  message := "CBOR decoding failed: " ++ cbor.display e

-- Decode the CBOR data.
def SerdeCbor.decode (buffer : Bytes) : Except IoError (Option α) :=
  match cbor.fromSlice buffer with
  | .ok data => .ok (some data)
  | .error e => .error (cbor.decodingFailed e)

def readCbor (reader : Bytes) : Except IoError (Option α) × Bytes :=
  match readExact 4 reader with
  -- EOF or error.
  | (.error _, reader)   => (.ok none, reader)
  | (.ok lenBuf, reader) =>
    match readExact (ofBeBytes lenBuf) reader with
    | (.error e, reader)   => (.error e, reader)
    | (.ok buffer, reader) => (cbor.decode buffer, reader)

-- The results of a number of reads in a row.
def readsCbor : Nat → Bytes → List (Except IoError (Option α))
  | 0, _          => []
  | k + 1, reader => (readCbor cbor reader).1 :: readsCbor k (readCbor cbor reader).2

variable {cbor} {f : Frame} {reader : Bytes}

theorem writeCbor_of_no_fault {writer : WriteStream} (h : writer.fault = none)
    (hv : cbor.toVec value = .ok f.body) :
    writeCbor cbor writer value =
      (.ok (.ok ()), { writer with written := writer.written ++ f.encode }) := by
  simp [writeCbor, hv, WriteStream.writeU32, WriteStream.writeAll, h, Frame.encode]

-- Whatever byte a stream fails at, the caller finds the failure where the errors of the encoding are.
theorem writeCbor_of_fault {writer : WriteStream} (h : writer.fault = some (room, error))
    (hv : cbor.toVec value = .ok buf) (hr : room < 4 + buf.length) :
    (writeCbor cbor writer value).1 = .error (cbor.ofIo error) := by
  simp only [writeCbor, hv, WriteStream.writeU32]
  by_cases hl : room < (toBeBytes buf.length).length
  case pos => simp only [WriteStream.writeAll_of_lt h hl]
  case neg =>
    -- The length is written, and the body does not fit what is left.
    have hl := Nat.not_lt.mp hl
    have hb : room - (toBeBytes buf.length).length < buf.length := by
      rw [length_toBeBytes] at hl ⊢
      omega
    rw [WriteStream.writeAll_of_le h hl]
    have hw := WriteStream.writeAll_of_lt (s := {
      written := writer.written ++ toBeBytes buf.length
      fault   := some (room - (toBeBytes buf.length).length, error)
    }) rfl hb
    simp only [hw]

theorem writeCbor_ne_inner_error {writer : WriteStream} (error : IoError) :
    (writeCbor cbor writer value).1 ≠ .ok (.error error) := by
  simp only [writeCbor]
  split
  case h_1 => nofun
  case h_2 =>
    split
    case h_1 => nofun
    case h_2 => split <;> nofun

theorem readExact_append (l l' : Bytes) : readExact l.length (l ++ l') = (.ok l, l') := by
  simp [readExact]

theorem readExact_of_lt (h : reader.length < n) : readExact n reader = (.error .earlyEof, []) :=
  if_neg (Nat.not_le.mpr h)

theorem readCbor_encode (f : Frame) (reader : Bytes) :
    readCbor cbor (f.encode ++ reader) = (cbor.decode f.body, reader) := by
  have hl : readExact 4 (toBeBytes f.body.length ++ (f.body ++ reader)) = _ :=
    readExact_append (toBeBytes f.body.length) (f.body ++ reader)
  simp only [readCbor, Frame.encode, List.append_assoc, hl, ofBeBytes_toBeBytes f.fits,
    readExact_append]

theorem readCbor_of_lt (h : reader.length < 4) : readCbor cbor reader = (.ok none, []) := by
  simp only [readCbor, readExact_of_lt h]

theorem readCbor_of_body (hl : len < 2 ^ 32) (hb : buffer.length < len) :
    readCbor cbor (toBeBytes len ++ buffer) = (.error .earlyEof, []) := by
  have hr : readExact 4 (toBeBytes len ++ buffer) = _ := readExact_append (toBeBytes len) buffer
  simp only [readCbor, hr, ofBeBytes_toBeBytes hl, readExact_of_lt hb]

theorem readCbor_take (h₄ : 4 ≤ n) (hn : n < f.encode.length) :
    readCbor cbor (f.encode.take n) = (.error .earlyEof, []) := by
  have hb : (f.body.take (n - 4)).length < f.body.length := by
    simp only [Frame.encode, List.length_append, length_toBeBytes] at hn
    rw [List.length_take]
    omega
  rw [Frame.encode, List.take_append, length_toBeBytes, List.take_of_length_le h₄]
  exact readCbor_of_body f.fits hb

theorem readsCbor_of_lt (h : reader.length < 4) :
    readsCbor cbor k reader = List.replicate k (.ok none) := by
  induction k generalizing reader
  case zero      => rfl
  case succ k hi =>
    have hn : ([] : Bytes).length < 4 := Nat.zero_lt_succ 3
    rw [readsCbor, readCbor_of_lt h, hi hn, List.replicate_succ]

end Derouter
