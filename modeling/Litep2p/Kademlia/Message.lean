import Litep2p.Lib.Protobuf
import Litep2p.Kademlia.Types

/-! The Kademlia messages of `message.rs` and their decoding. `schema::kademlia::Message` is the
type the protobuf decoder builds from `kademlia.proto`; `KademliaMessage::from_bytes` reads it by
its `type` field, and for a response keeps the peers that `KademliaPeer::try_from` accepts. An
`int32` or enum field holds the low 32 bits of its varint, so the model keeps such fields as
`UInt32` and reads `0`, `1`, ... as the `i32` values they are. -/

namespace Litep2p.Kademlia

open Protobuf

structure SchemaPeer where
  id : List UInt8 := []
  addrs : List (List UInt8) := []
  connection : UInt32 := 0
  deriving DecidableEq, Repr

/-- `schema::kademlia::Record`, without `timeReceived`, which only has to be UTF-8. -/
structure SchemaRecord where
  key : List UInt8 := []
  value : List UInt8 := []
  publisher : List UInt8 := []
  ttl : UInt32 := 0
  deriving DecidableEq, Repr

/-- `schema::kademlia::Message`, without `clusterLevelRaw`, which nothing reads. -/
structure SchemaMessage where
  type : UInt32 := 0
  key : List UInt8 := []
  record : Option SchemaRecord := none
  closerPeers : List SchemaPeer := []
  providerPeers : List SchemaPeer := []
  deriving DecidableEq, Repr

/-- A `Peer` field: `id = 1`, `addrs = 2` (repeated), `connection = 3`. -/
def SchemaPeer.merge (p : SchemaPeer) : Nat × WireValue → Option SchemaPeer
  | (1, v) => v.bytes?.map fun id => { p with id }
  | (2, v) => v.bytes?.map fun addr => { p with addrs := p.addrs ++ [addr] }
  | (3, v) => v.varint?.map fun n => { p with connection := n.toUInt32 }
  | _ => some p

def SchemaPeer.decode (bytes : List UInt8) : Option SchemaPeer :=
  decodeMessage (recursionLimit - 1) {} SchemaPeer.merge bytes

/-- A `Record` field: `key = 1`, `value = 2`, `timeReceived = 5` (a string),
`publisher = 666`, `ttl = 777`. -/
def SchemaRecord.merge (r : SchemaRecord) : Nat × WireValue → Option SchemaRecord
  | (1, v) => v.bytes?.map fun key => { r with key }
  | (2, v) => v.bytes?.map fun value => { r with value }
  | (5, v) => v.bytes?.bind fun text => (String.fromUTF8? ⟨text.toArray⟩).map fun _ => r
  | (666, v) => v.bytes?.map fun publisher => { r with publisher }
  | (777, v) => v.varint?.map fun n => { r with ttl := n.toUInt32 }
  | _ => some r

/-- A message field merged into a message: its fields merged into the ones already read, as
decoding the concatenation of the two would. -/
def SchemaRecord.mergeInto (r : SchemaRecord) (bytes : List UInt8) : Option SchemaRecord :=
  decodeMessage (recursionLimit - 1) r SchemaRecord.merge bytes

/-- A `Message` field: `type = 1`, `key = 2`, `record = 3`, `closerPeers = 8` and
`providerPeers = 9` (repeated), `clusterLevelRaw = 10`. -/
def SchemaMessage.merge (m : SchemaMessage) : Nat × WireValue → Option SchemaMessage
  | (1, v) => v.varint?.map fun n => { m with type := n.toUInt32 }
  | (2, v) => v.bytes?.map fun key => { m with key }
  | (3, v) => v.bytes?.bind fun bytes =>
      ((m.record.getD {}).mergeInto bytes).map fun record => { m with record := some record }
  | (8, v) => v.bytes?.bind fun bytes =>
      (SchemaPeer.decode bytes).map fun peer => { m with closerPeers := m.closerPeers ++ [peer] }
  | (9, v) => v.bytes?.bind fun bytes =>
      (SchemaPeer.decode bytes).map fun peer => { m with providerPeers := m.providerPeers ++ [peer] }
  | (10, v) => v.varint?.map fun _ => m
  | _ => some m

def SchemaMessage.decode (bytes : List UInt8) : Option SchemaMessage :=
  decodeMessage recursionLimit {} SchemaMessage.merge bytes

/-- What the messages use of code outside the repository, beyond `Externals`. -/
structure WireExternals (P A : Type) extends Externals P A where
  /-- `PeerId::from_bytes`. -/
  peerFromBytes : List UInt8 → Option P
  /-- `PeerId::to_bytes`. -/
  peerToBytes : P → List UInt8
  /-- `Multiaddr::try_from(Vec<u8>)`. -/
  addressFromBytes : List UInt8 → Option A
  /-- `Key::new(key)` of a record key: the SHA-256 digest of its bytes. -/
  keyOfBytes : List UInt8 → KeyBytes

/-- Numbered peers written as one byte, addresses as one byte, and keys that are the first byte
of what they hash. -/
def WireExternals.numeric : WireExternals Nat Nat where
  toExternals := Externals.numeric
  peerFromBytes
    | [b] => some b.toNat
    | _ => none
  peerToBytes n := [n.toUInt8]
  addressFromBytes
    | [b] => some b.toNat
    | _ => none
  keyOfBytes bytes := ⟨BitVec.ofNat 256 (bytes.headD 0).toNat⟩

/-- Peers that are single bytes, written as themselves. -/
def WireExternals.bytes : WireExternals UInt8 Nat where
  keyOf b := ⟨BitVec.ofNat 256 b.toNat⟩
  endsWithP2p _ := true
  withP2p address _ := some address
  peerFromBytes
    | [b] => some b
    | _ => none
  peerToBytes b := [b]
  addressFromBytes
    | [b] => some b.toNat
    | _ => none
  keyOfBytes bytes := ⟨BitVec.ofNat 256 (bytes.headD 0).toNat⟩

/-- Peers named by their own keys, so that the key map is injective, as SHA-256 is taken to be on
peer ids; nothing is decoded, and every record key hashes to zero. -/
def WireExternals.keyed : WireExternals KeyBytes Nat where
  keyOf := id
  endsWithP2p _ := true
  withP2p address _ := some address
  peerFromBytes _ := none
  peerToBytes _ := []
  addressFromBytes _ := none
  keyOfBytes _ := ⟨0⟩

abbrev RecordKey := List UInt8

/-- Nanoseconds in a second: the instants of records are counted in nanoseconds of the local
monotonic clock, as `Instant` counts them. -/
def nanosPerSec : Nat := 1000000000

/-- `Record`, with `expires` in nanoseconds of the local clock. -/
structure Record (P : Type) where
  key : RecordKey
  value : List UInt8
  publisher : Option P
  expires : Option Nat
  deriving DecidableEq, Repr

def Record.isExpired {P : Type} (r : Record P) (now : Nat) : Bool :=
  r.expires.any fun t => t ≤ now

structure ContentProvider (P A : Type) where
  peer : P
  addresses : List A
  deriving DecidableEq, Repr

inductive KademliaMessage (P A : Type) where
  | findNode (target : List UInt8) (peers : List (KademliaPeer P A))
  | putValue (record : Record P)
  | getRecord (key : Option RecordKey) (record : Option (Record P)) (peers : List (KademliaPeer P A))
  | addProvider (key : RecordKey) (providers : List (KademliaPeer P A))
  | getProviders (key : Option RecordKey) (peers : List (KademliaPeer P A))
      (providers : List (KademliaPeer P A))
  deriving DecidableEq, Repr

variable {P A : Type}

def ConnectionType.tryFrom (value : UInt32) : Option ConnectionType :=
  if value = 0 then some .notConnected
  else if value = 1 then some .connected
  else if value = 2 then some .canConnect
  else if value = 3 then some .cannotConnect
  else none

def KademliaPeer.tryFrom (x : WireExternals P A) (record : SchemaPeer) : Option (KademliaPeer P A) := do
  let peer ← x.peerFromBytes record.id
  let connection ← ConnectionType.tryFrom record.connection
  pure { key := x.keyOf peer, peer, addresses := record.addrs.filterMap x.addressFromBytes, connection }

def schemaPeers (x : WireExternals P A) (peers : List SchemaPeer) : List (KademliaPeer P A) :=
  peers.filterMap (KademliaPeer.tryFrom x)

/-- `record_from_schema`, at the time `now`. -/
def recordFromSchema (x : WireExternals P A) (now : Nat) (record : SchemaRecord) :
    Option (Record P) := do
  let publisher ← if !record.publisher.isEmpty then (x.peerFromBytes record.publisher).map some
    else pure none
  pure { key := record.key, value := record.value, publisher,
         expires := if record.ttl > 0 then some (now + record.ttl.toNat * nanosPerSec) else none }

/-- `record_to_schema`, at the time `now`: the TTL is the whole seconds left, capped at `u32::MAX`
by `u32::try_from(..).unwrap_or(u32::MAX)`. -/
def recordToSchema (x : WireExternals P A) (now : Nat) (record : Record P) : SchemaRecord :=
  { key := record.key
    value := record.value
    publisher := (record.publisher.map x.peerToBytes).getD []
    ttl := match record.expires with
      | some expires =>
        if expires > now then (min ((expires - now) / nanosPerSec) (2 ^ 32 - 1)).toUInt32
        else 1
      | none => 0 }

/-- `KademliaMessage::from_bytes`, at the time `now`. -/
def KademliaMessage.fromBytes (x : WireExternals P A) (now : Nat) (bytes : List UInt8) :
    Option (KademliaMessage P A) := do
  let message ← SchemaMessage.decode bytes
  if message.type = 4 then
    pure (.findNode message.key (schemaPeers x message.closerPeers))
  else if message.type = 0 then
    let record ← message.record
    pure (.putValue (← recordFromSchema x now record))
  else if message.type = 1 then
    let key := if message.key.isEmpty then
        message.record.bind fun record => if !record.key.isEmpty then some record.key else none
      else some message.key
    let record ← match message.record with
      | some record => (recordFromSchema x now record).map some
      | none => pure none
    pure (.getRecord key record (schemaPeers x message.closerPeers))
  else if message.type = 2 then
    let key ← if !message.key.isEmpty then some message.key else none
    pure (.addProvider key (schemaPeers x message.providerPeers))
  else if message.type = 3 then
    let key := if !message.key.isEmpty then some message.key else none
    pure (.getProviders key (schemaPeers x message.closerPeers) (schemaPeers x message.providerPeers))
  else none

/-! ## The record on the wire and back -/

section RecordWire

variable (x : WireExternals P A)

@[simp] theorem recordToSchema_key (now : Nat) (record : Record P) :
    (recordToSchema x now record).key = record.key := rfl

@[simp] theorem recordToSchema_value (now : Nat) (record : Record P) :
    (recordToSchema x now record).value = record.value := rfl

@[simp] theorem recordToSchema_publisher (now : Nat) (record : Record P) :
    (recordToSchema x now record).publisher = (record.publisher.map x.peerToBytes).getD [] := rfl

/-- The TTL `record_to_schema` writes is `0`, "does not expire", exactly for a record that does not
expire and for one with less than a second left. -/
theorem recordToSchema_ttl_eq_zero_iff (now : Nat) (record : Record P) :
    (recordToSchema x now record).ttl = 0 ↔
      record.expires = none ∨ ∃ e, record.expires = some e ∧ now < e ∧ e < now + nanosPerSec := by
  cases hexp : record.expires with
  | none => simp [recordToSchema, hexp]
  | some e =>
    by_cases hlater : now < e
    · have hcap : min ((e - now) / nanosPerSec) (2 ^ 32 - 1) < 2 ^ 32 := by omega
      have hzero : (min ((e - now) / nanosPerSec) (2 ^ 32 - 1)).toUInt32 = 0 ↔
          (e - now) / nanosPerSec = 0 := by
        rw [← UInt32.toNat_inj, Nat.toUInt32, UInt32.toNat_ofNat_of_lt' hcap, UInt32.toNat_zero]
        omega
      simp only [recordToSchema, hexp, gt_iff_lt, hlater, if_true, hzero, reduceCtorEq, false_or,
        Option.some.injEq, exists_eq_left', true_and]
      rw [Nat.div_eq_zero_iff]
      unfold nanosPerSec
      omega
    · simp [recordToSchema, hexp, hlater]

/-- `record_from_schema` reads back the key, the value and the publisher that `record_to_schema`
wrote, when `PeerId::from_bytes` reads back what `PeerId::to_bytes` writes and that is never
empty; the read record does not expire exactly when the written one does not, or had less than a
second left. -/
theorem recordFromSchema_recordToSchema (hpeer : ∀ p, x.peerFromBytes (x.peerToBytes p) = some p)
    (hne : ∀ p, x.peerToBytes p ≠ []) (tEnc tDec : Nat) (record : Record P) :
    ∃ decoded, recordFromSchema x tDec (recordToSchema x tEnc record) = some decoded ∧
      decoded.key = record.key ∧ decoded.value = record.value ∧
      decoded.publisher = record.publisher ∧
      (decoded.expires = none ↔
        record.expires = none ∨ ∃ e, record.expires = some e ∧ tEnc < e ∧ e < tEnc + nanosPerSec) := by
  let ttl := (recordToSchema x tEnc record).ttl
  refine ⟨⟨record.key, record.value, record.publisher,
    if ttl > 0 then some (tDec + ttl.toNat * nanosPerSec) else none⟩, ?_, rfl, rfl, rfl, ?_⟩
  · cases hp : record.publisher with
    | none => simp [recordFromSchema, hp, ttl]
    | some p => simp [recordFromSchema, hp, hpeer, hne p, ttl]
  · rw [← recordToSchema_ttl_eq_zero_iff x]
    by_cases hzero : ttl = 0
    · simp [hzero, ttl]
    · have hpos : ttl > 0 := by
        rw [gt_iff_lt, UInt32.lt_iff_toNat_lt, UInt32.toNat_zero]
        have hne0 : ttl.toNat ≠ 0 := fun h => hzero (UInt32.toNat_inj.mp h)
        omega
      simp [hpos, hzero, ttl]

end RecordWire

/-- A record published by peer `7`, written with three seconds left and read back five nanoseconds
later. -/
theorem recordFromSchema_recordToSchema_published :
    (∀ p, WireExternals.bytes.peerFromBytes (WireExternals.bytes.peerToBytes p) = some p) ∧
      (∀ p, WireExternals.bytes.peerToBytes p ≠ []) ∧
      ∃ decoded, recordFromSchema WireExternals.bytes 5
          (recordToSchema WireExternals.bytes 0 ⟨[1], [2], some 7, some (3 * nanosPerSec)⟩) = some decoded ∧
        decoded.key = [1] ∧ decoded.value = [2] ∧ decoded.publisher = some 7 ∧
        (decoded.expires = none ↔ some (3 * nanosPerSec) = none ∨
          ∃ e, some (3 * nanosPerSec) = some e ∧ 0 < e ∧ e < 0 + nanosPerSec) :=
  have hpeer : ∀ p, WireExternals.bytes.peerFromBytes (WireExternals.bytes.peerToBytes p) = some p := fun _ => rfl
  have hne : ∀ p, WireExternals.bytes.peerToBytes p ≠ [] := fun _ => List.cons_ne_nil _ _
  ⟨hpeer, hne, recordFromSchema_recordToSchema WireExternals.bytes hpeer hne 0 5 _⟩

/-- A record that expires half a second after it is encoded is written with TTL `0` and read
back as one that never expires. -/
theorem recordToSchema_drops_expiry :
    recordFromSchema WireExternals.numeric 0
        (recordToSchema WireExternals.numeric 0
          (⟨[1, 2, 3], [17], none, some (nanosPerSec / 2)⟩ : Record Nat)) =
      some ⟨[1, 2, 3], [17], none, none⟩ := by
  decide

end Litep2p.Kademlia
