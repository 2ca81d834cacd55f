import Litep2p.Lib.Protobuf
import Litep2p.Error

/-! Public keys and peer ids of `crypto/mod.rs`, `crypto/ed25519.rs` and `peer_id.rs`. A public key
is an Ed25519 key of 32 bytes; its protobuf encoding is the `keys_proto::PublicKey` of type
`Ed25519` with the key as data, and its peer id the identity multihash of that encoding, which at
36 bytes is within `MAX_INLINE_KEY_LENGTH`. Whether 32 bytes are a point of the curve is decided by
`ed25519-dalek`, an argument here. -/

namespace Litep2p.Crypto

open Protobuf

/-- `ed25519::PublicKey`: 32 bytes that are a point of the curve. -/
structure Ed25519PublicKey where
  bytes : List UInt8
  length_eq : bytes.length = 32
  deriving DecidableEq

inductive PublicKey where
  | ed25519 (key : Ed25519PublicKey)
  deriving DecidableEq

structure KeysProtoPublicKey where
  type : UInt32 := 0
  data : List UInt8 := []
  deriving DecidableEq, Repr

/-- A `PublicKey` field: `Type = 1`, `Data = 2`. -/
def KeysProtoPublicKey.merge (k : KeysProtoPublicKey) : Nat × WireValue → Option KeysProtoPublicKey
  | (1, v) => v.varint?.map fun n => { k with type := n.toUInt32 }
  | (2, v) => v.bytes?.map fun data => { k with data }
  | _ => some k

/-- `ed25519::PublicKey::try_from_bytes`, given the curve check of `VerifyingKey::from_bytes`. -/
def Ed25519PublicKey.tryFromBytes (isPoint : List UInt8 → Bool) (k : List UInt8) :
    Except ParseError Ed25519PublicKey :=
  if h : k.length = 32 then
    if isPoint k then .ok ⟨k, h⟩ else .error .invalidPublicKey
  else .error .invalidPublicKey

def PublicKey.fromProtobufEncoding (isPoint : List UInt8 → Bool) (bytes : List UInt8) :
    Except ParseError PublicKey :=
  match decodeMessage recursionLimit {} KeysProtoPublicKey.merge bytes with
  | none => .error .prostDecodeError
  | some pubkey =>
    if pubkey.type = 1 then (Ed25519PublicKey.tryFromBytes isPoint pubkey.data).map .ed25519
    else .error (.unknownKeyType pubkey.type)

def PublicKey.toProtobufEncoding : PublicKey → List UInt8
  | .ed25519 key => [0x08, 0x01, 0x12, 32] ++ key.bytes

structure PeerId where
  multihash : List UInt8
  deriving DecidableEq, Repr

def PeerId.fromPublicKey (key : PublicKey) : PeerId :=
  ⟨[0x00, key.toProtobufEncoding.length.toUInt8] ++ key.toProtobufEncoding⟩

end Litep2p.Crypto
