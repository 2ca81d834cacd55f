import Mathlib
import Litep2p.Lib.XorDistance

/-!
# Kademlia keys, distances and peers

The data of `protocol/libp2p/kademlia/types.rs`. A `Key` holds a preimage and the SHA-256 digest
of it; `KeyBytes::distance` reads two digests as big-endian `U256`s and XORs them, and keys compare
by their digests only. The model therefore keeps a key as its 256-bit number and drops the
preimage. SHA-256 and the multiaddr operations are code outside the repository: `Externals`
lists what the Kademlia code uses of them, and every function that needs one takes it as an
argument.
-/

namespace Litep2p.Kademlia

abbrev U256 := BitVec 256

structure KeyBytes where
  val : U256
  deriving DecidableEq, Repr

structure Distance where
  val : U256
  deriving DecidableEq, Repr

instance : LT Distance := ⟨fun a b => a.val.toNat < b.val.toNat⟩
instance : LE Distance := ⟨fun a b => a.val.toNat ≤ b.val.toNat⟩

instance (a b : Distance) : Decidable (a < b) := inferInstanceAs (Decidable (a.val.toNat < b.val.toNat))
instance (a b : Distance) : Decidable (a ≤ b) := inferInstanceAs (Decidable (a.val.toNat ≤ b.val.toNat))

def KeyBytes.distance (a b : KeyBytes) : Distance := ⟨a.val ^^^ b.val⟩

def U256.leadingZeros (x : U256) : Nat :=
  if x.toNat = 0 then 256 else 255 - x.toNat.log2

def checkedSub (a b : Nat) : Option Nat :=
  if b ≤ a then some (a - b) else none

def Distance.ilog2 (d : Distance) : Option Nat :=
  checkedSub (256 - U256.leadingZeros d.val) 1

@[simp] theorem distance_val_toNat (a b : KeyBytes) :
    (a.distance b).val.toNat = a.val.toNat ^^^ b.val.toNat := by
  simp [KeyBytes.distance]

theorem distance_comm (a b : KeyBytes) : a.distance b = b.distance a := by
  simp [KeyBytes.distance, BitVec.xor_comm]

theorem distance_lt_iff (t a b : KeyBytes) :
    t.distance a < t.distance b ↔ t.val.toNat ^^^ a.val.toNat < t.val.toNat ^^^ b.val.toNat := by
  change (t.distance a).val.toNat < (t.distance b).val.toNat ↔ _
  simp

theorem distance_injective (t : KeyBytes) {a b : KeyBytes} (h : t.distance a = t.distance b) :
    a = b := by
  cases a
  cases b
  simp only [KeyBytes.distance, Distance.mk.injEq] at h
  simpa using congrArg (t.val ^^^ ·) h

theorem ilog2_eq_some_iff (d : Distance) (i : Nat) :
    d.ilog2 = some i ↔ d.val.toNat ≠ 0 ∧ d.val.toNat.log2 = i := by
  have hlt : d.val.toNat < 2 ^ 256 := d.val.isLt
  unfold Distance.ilog2 U256.leadingZeros checkedSub
  by_cases h0 : d.val.toNat = 0
  · simp [h0]
  · have hlog : d.val.toNat.log2 < 256 := (Nat.log2_lt h0).2 hlt
    simp only [h0, if_false, ne_eq, not_false_eq_true, true_and]
    rw [if_pos (by omega), Option.some.injEq]
    omega

theorem ilog2_eq_none_iff (d : Distance) : d.ilog2 = none ↔ d.val.toNat = 0 := by
  unfold Distance.ilog2 U256.leadingZeros checkedSub
  by_cases h0 : d.val.toNat = 0
  · simp [h0]
  · have hlog : d.val.toNat.log2 < 256 := (Nat.log2_lt h0).2 d.val.isLt
    simp only [h0, if_false]
    rw [if_pos (by omega)]
    simp

inductive ConnectionType where
  | notConnected
  | connected
  | canConnect
  | cannotConnect
  deriving DecidableEq, Repr

/-- What the Kademlia code uses of code outside the repository. -/
structure Externals (P A : Type) where
  /-- `Key::from(peer)`: the SHA-256 digest of `peer.to_bytes()`. -/
  keyOf : P → KeyBytes
  /-- `matches!(address.iter().last(), Some(Protocol::P2p(_)))`. -/
  endsWithP2p : A → Bool
  /-- `Some(address.with(Protocol::P2p(Multihash::from_bytes(&peer.to_bytes()).ok()?)))`. -/
  withP2p : A → P → Option A

/-- Numbered peers whose key is their number, and addresses that already end in `/p2p`. -/
def Externals.numeric : Externals Nat Nat where
  keyOf n := ⟨BitVec.ofNat 256 n⟩
  endsWithP2p _ := true
  withP2p address _ := some address

/-- `KademliaPeer`, over peer ids `P` and multiaddresses `A`. -/
structure KademliaPeer (P A : Type) where
  key : KeyBytes
  peer : P
  addresses : List A
  connection : ConnectionType
  deriving DecidableEq, Repr

def KademliaPeer.new {P A : Type} (x : Externals P A) (peer : P) (addresses : List A)
    (connection : ConnectionType) : KademliaPeer P A :=
  { peer, addresses, connection, key := x.keyOf peer }

end Litep2p.Kademlia
