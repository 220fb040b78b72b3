import Derouter.Dto

namespace Derouter

-- The functions of third-party crates whose results decide what is stored: `sha2`, the keys of
-- `libp2p::identity`, and the number parser of `alloy_primitives`.
structure External where
  PublicKey         : Type
  Keypair           : Type
  sha256            : List UInt8 → List UInt8
  tryDecodeProtobuf : List UInt8 → Option PublicKey
  encodeProtobuf    : PublicKey → List UInt8
  toPeerId          : PublicKey → PeerId
  verify            : PublicKey → List UInt8 → List UInt8 → Bool
  publicKey         : Keypair → PublicKey
  sign              : Keypair → List UInt8 → List UInt8
  parsesU256        : String → Bool

namespace External

-- The peer ID of a node that runs with the given key pair.
def peerId (ext : External) (keypair : ext.Keypair) : PeerId :=
  ext.toPeerId (ext.publicKey keypair)

-- A key survives its encoding, and verifies the signatures made with it.
structure Lawful (ext : External) : Prop where
  decode_encode : ∀ k, ext.tryDecodeProtobuf (ext.encodeProtobuf k) = some k
  verify_sign   : ∀ kp msg, ext.verify (ext.publicKey kp) msg (ext.sign kp msg) = true

-- A stand-in whose keys are peer IDs and whose signatures prepend the signer's key. It is lawful,
-- and its parser accepts decimal digits only.
def sample : External where
  PublicKey         := PeerId
  Keypair           := PeerId
  sha256            := id
  tryDecodeProtobuf := fun l => some ⟨l⟩
  encodeProtobuf    := PeerId.toBytes
  toPeerId          := id
  verify            := fun k msg signature => signature == k.toBytes ++ msg
  publicKey         := id
  sign              := fun kp msg => kp.toBytes ++ msg
  parsesU256        := fun s => s.toList.all Char.isDigit

theorem sample_lawful : sample.Lawful where
  decode_encode _    := rfl
  verify_sign kp msg := beq_self_eq_true (kp.toBytes ++ msg)

end External
end Derouter
