import Litep2p.Lib.Leb128
import Litep2p.Error

/-! `src/codec/unsigned_varint.rs` and what it uses of the `unsigned-varint` crate. The crate is
outside the repository: `Uvi` takes its varint encoder and decoder as a parameter, and
`Uvi.RoundTrip` is its documented law, which LEB128 (`Uvi.leb128`) satisfies. A frame of
`UviBytes` is the varint of the payload's length, then the payload. -/

namespace Litep2p

/-- What the code uses of the `unsigned-varint` crate. -/
structure Uvi where
  /-- `encode::usize`. -/
  encode : Nat → List UInt8
  /-- `decode::usize`: the number at the front and the bytes after it. -/
  decode : List UInt8 → Except Leb128.DecodeError (Nat × List UInt8)

def Uvi.RoundTrip (u : Uvi) : Prop :=
  ∀ n rest, n < 2 ^ 64 → u.decode (u.encode n ++ rest) = .ok (n, rest)

def Uvi.leb128 : Uvi := ⟨Leb128.encode, Leb128.decode⟩

theorem Uvi.roundTrip_leb128 : Uvi.leb128.RoundTrip :=
  fun n rest h => Leb128.decode_encode_append n rest h

def uviBytesMaxLen : Nat := 128 * 1024 * 1024

def u32Max : Nat := 2 ^ 32 - 1

/-- `UnsignedVarint::encode`: asserts the payload fits a `u32`, then frames it with the default
`UviBytes`, which refuses a payload over `max_len`. -/
def UnsignedVarint.encode (u : Uvi) (payload : List UInt8) : Except Error (List UInt8) :=
  if payload.length ≤ u32Max then
    if payload.length ≤ uviBytesMaxLen then .ok (u.encode payload.length ++ payload)
    else .error .ioError
  else .error .panicked

theorem UnsignedVarint.encode_of_le (u : Uvi) {payload : List UInt8}
    (h : payload.length ≤ uviBytesMaxLen) :
    UnsignedVarint.encode u payload = .ok (u.encode payload.length ++ payload) := by
  have hu32 : payload.length ≤ u32Max := by
    unfold uviBytesMaxLen at h
    unfold u32Max
    omega
  rw [UnsignedVarint.encode, if_pos hu32, if_pos h]

end Litep2p
