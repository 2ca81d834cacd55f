import Litep2p.Crypto.Identity

/-! The Noise handshake of `crypto/noise/mod.rs` as far as it decides who the remote is. The
handshake state of `snow` is an argument (`Snow`): it writes and reads the handshake messages and
turns into a transport state. The messages travel with a two-byte big-endian length in front.

After the messages are exchanged, `parse_peer_id` reads the remote's `NoiseHandshakePayload` and
takes the peer id of its `identity_key`; the `identity_sig` field is decoded with the rest and never
read (`parsePeerId_eq_ok_iff`). The WebRTC path, `NoiseContext::get_remote_public_key`, splits the
reply at byte 2 before any length check. -/

namespace Litep2p.Crypto

open Protobuf

/-- What the handshake uses of a `snow` handshake state `σ`, which becomes a transport state `τ`. -/
structure Snow (σ τ : Type) where
  /-- `HandshakeState::write_message`: the message that carries `payload`. -/
  writeMessage : σ → List UInt8 → Except Unit (List UInt8 × σ)
  /-- `HandshakeState::read_message`: the payload the message carries. -/
  readMessage : σ → List UInt8 → Except Unit (List UInt8 × σ)
  /-- `HandshakeState::into_transport_mode`. -/
  intoTransportMode : σ → Except Unit τ

/-- `NoiseExtensions`, whose fields only have to decode. -/
def NoiseExtensions.merge (u : Unit) : Nat × WireValue → Option Unit
  | (1, v) => v.bytes?.map fun _ => u
  | (2, v) => v.bytes?.bind fun text => (String.fromUTF8? ⟨text.toArray⟩).map fun _ => u
  | _ => some u

structure NoiseHandshakePayload where
  identityKey : Option (List UInt8) := none
  identitySig : Option (List UInt8) := none
  deriving DecidableEq, Repr

/-- A `NoiseHandshakePayload` field: `identity_key = 1`, `identity_sig = 2`, `extensions = 4`. -/
def NoiseHandshakePayload.merge (p : NoiseHandshakePayload) :
    Nat × WireValue → Option NoiseHandshakePayload
  | (1, v) => v.bytes?.map fun key => { p with identityKey := some key }
  | (2, v) => v.bytes?.map fun sig => { p with identitySig := some sig }
  | (4, v) => v.bytes?.bind fun bytes => (decodeMessage (recursionLimit - 1) () NoiseExtensions.merge bytes).map fun _ => p
  | _ => some p

def NoiseHandshakePayload.decode (bytes : List UInt8) : Option NoiseHandshakePayload :=
  decodeMessage recursionLimit {} NoiseHandshakePayload.merge bytes

def u16Bytes (n : Nat) : List UInt8 := [(n / 256 % 256).toUInt8, (n % 256).toUInt8]

def u16OfBytes (hi lo : UInt8) : Nat := hi.toNat * 256 + lo.toNat

/-- The socket during the handshake: the bytes the remote has sent, and those written to it. -/
structure Io where
  incoming : List UInt8
  outgoing : List UInt8
  deriving DecidableEq, Repr

def Io.readExact (io : Io) (n : Nat) : Except NegotiationError (List UInt8 × Io) :=
  if n ≤ io.incoming.length then .ok (io.incoming.take n, { io with incoming := io.incoming.drop n })
  else .error (.ioError .unexpectedEof)

def Io.write (io : Io) (bytes : List UInt8) : Io := { io with outgoing := io.outgoing ++ bytes }

section Handshake

variable {σ τ : Type} (snow : Snow σ τ)

/-- A handshake message written into a buffer of `capacity` bytes, with its length in front. -/
def writeHandshakeMessage (noise : σ) (payload : List UInt8) (capacity : Nat) :
    Except NegotiationError (List UInt8 × σ) :=
  match snow.writeMessage noise payload with
  | .error _ => .error .snowError
  | .ok (message, noise) =>
    if message.length ≤ capacity then .ok (u16Bytes message.length ++ message, noise)
    else .error .snowError

def firstMessage (noise : σ) : Except NegotiationError (List UInt8 × σ) :=
  writeHandshakeMessage snow noise [] 256

def secondMessage (noise : σ) (payload : List UInt8) : Except NegotiationError (List UInt8 × σ) :=
  writeHandshakeMessage snow noise payload 2048

/-- `NoiseContext::read_handshake_message`: the payload of the next message. -/
def readHandshakeMessage (noise : σ) (io : Io) : Except NegotiationError (List UInt8 × σ × Io) := do
  let (size, io) ← io.readExact 2
  let (message, io) ← io.readExact (u16OfBytes (size.getD 0 0) (size.getD 1 0))
  match snow.readMessage noise message with
  | .error _ => .error .snowError
  | .ok (out, noise) =>
    if out.length ≤ message.length + 200 then .ok (out, noise, io) else .error .snowError

def parsePeerId (isPoint : List UInt8 → Bool) (buf : List UInt8) : Except NegotiationError PeerId :=
  match NoiseHandshakePayload.decode buf with
  | none => .error (.parseError .prostDecodeError)
  | some payload =>
    match payload.identityKey with
    | none => .error .peerIdMissing
    | some identity =>
      match PublicKey.fromProtobufEncoding isPoint identity with
      | .error e => .error (.parseError e)
      | .ok publicKey => .ok (PeerId.fromPublicKey publicKey)

inductive Role where
  | dialer
  | listener
  deriving DecidableEq, Repr

/-- `handshake`, from the state `noise` and the local payload `payload` that `NoiseContext::new`
builds: the transport state, the remote's peer id and what was written. -/
def handshake (isPoint : List UInt8 → Bool) (noise : σ) (payload : List UInt8) (io : Io) :
    Role → Except NegotiationError (τ × PeerId × Io)
  | .dialer => do
    let (firstMessage, noise) ← firstMessage snow noise
    let io := io.write firstMessage
    let (message, noise, io) ← readHandshakeMessage snow noise io
    let (secondMessage, noise) ← secondMessage snow noise payload
    let io := io.write secondMessage
    let peer ← parsePeerId isPoint message
    match snow.intoTransportMode noise with
    | .error _ => .error .snowError
    | .ok transport => .ok (transport, peer, io)
  | .listener => do
    let (_, noise, io) ← readHandshakeMessage snow noise io
    let (secondMessage, noise) ← secondMessage snow noise payload
    let io := io.write secondMessage
    let (message, noise, io) ← readHandshakeMessage snow noise io
    let peer ← parsePeerId isPoint message
    match snow.intoTransportMode noise with
    | .error _ => .error .snowError
    | .ok transport => .ok (transport, peer, io)

/-- `NoiseContext::get_remote_public_key`; `split_at(2)` panics on a shorter reply. -/
def getRemotePublicKey (isPoint : List UInt8 → Bool) (noise : σ) (reply : List UInt8) :
    Except Error (PublicKey × σ) :=
  match reply with
  | hi :: lo :: reply =>
    let len := u16OfBytes hi lo
    match snow.readMessage noise reply with
    | .error _ => .error (.negotiationError .snowError)
    | .ok (buffer, noise) =>
      if buffer.length ≤ len then
        match NoiseHandshakePayload.decode buffer with
        | none => .error (.negotiationError (.parseError .prostDecodeError))
        | some payload =>
          match payload.identityKey with
          | none => .error (.negotiationError .peerIdMissing)
          | some identity =>
            match PublicKey.fromProtobufEncoding isPoint identity with
            | .error e => .error (.negotiationError (.parseError e))
            | .ok publicKey => .ok (publicKey, noise)
      else .error (.negotiationError .snowError)
  | _ => .error .panicked

/-- `parse_peer_id` accepts a payload exactly when it decodes and its identity key is a public
key, and answers that key's peer id: the `identity_sig` field plays no part. -/
theorem parsePeerId_eq_ok_iff (isPoint : List UInt8 → Bool) (buf : List UInt8) (peer : PeerId) :
    parsePeerId isPoint buf = .ok peer ↔
      ∃ payload identity key, NoiseHandshakePayload.decode buf = some payload ∧
        payload.identityKey = some identity ∧ PublicKey.fromProtobufEncoding isPoint identity = .ok key ∧
        PeerId.fromPublicKey key = peer := by
  unfold parsePeerId
  cases hdecode : NoiseHandshakePayload.decode buf with
  | none => simp
  | some payload =>
      cases hkey : payload.identityKey with
      | none => simp [hkey]
      | some identity =>
          cases hpub : PublicKey.fromProtobufEncoding isPoint identity <;> simp [hkey, hpub]

end Handshake

/-- A handshake state whose messages carry their payload as it is. It stands for the state of a
dialer facing a remote that completes the key exchange: such a remote chooses the payload the
dialer decrypts. -/
def Snow.plaintext : Snow Unit Unit where
  writeMessage noise payload := .ok (payload, noise)
  readMessage noise message := .ok (message, noise)
  intoTransportMode noise := .ok noise

def ed25519Basepoint : Ed25519PublicKey := ⟨0x58 :: List.replicate 31 0x66, by decide⟩

/-- A dialer's handshake ends with the peer id of a key the remote does not sign for: the reply's
payload carries as identity key the base point, the only key the decompression is asked about,
and no `identity_sig`. And the WebRTC reply `00` makes `get_remote_public_key` panic. -/
theorem handshake_accepts_unsigned_identity :
    NoiseHandshakePayload.decode ([0x0a, 36] ++ (PublicKey.ed25519 ed25519Basepoint).toProtobufEncoding) =
      some { identityKey := some (PublicKey.ed25519 ed25519Basepoint).toProtobufEncoding,
             identitySig := none } ∧
    (handshake Snow.plaintext (· == ed25519Basepoint.bytes) () []
        ⟨u16Bytes 38 ++ [0x0a, 36] ++ (PublicKey.ed25519 ed25519Basepoint).toProtobufEncoding, []⟩
        .dialer).map (fun r => r.2.1) =
      .ok (PeerId.fromPublicKey (.ed25519 ed25519Basepoint)) ∧
    getRemotePublicKey Snow.plaintext (· == ed25519Basepoint.bytes) () [0] = .error .panicked := by
  refine ⟨by decide +kernel, by decide +kernel, rfl⟩

end Litep2p.Crypto
