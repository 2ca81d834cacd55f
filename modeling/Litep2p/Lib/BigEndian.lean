import Mathlib

/-!
# Big-endian words

`u16::to_be_bytes` and `u32::to_be_bytes` lay a word out most significant byte first, and
`from_be_bytes` reads it back. Each pair is a bijection between the words and the byte strings of
their width: a word reads back from its bytes (`u32Of_u32Bytes`), and bytes are the bytes of the
word they read as (`u32Bytes_u32Of`). The proofs go through the numbers the bytes stand for.
-/

namespace BigEndian

def u16Bytes (x : UInt16) : List UInt8 := [(x >>> 8).toUInt8, x.toUInt8]

def u16Of (b₀ b₁ : UInt8) : UInt16 := b₀.toUInt16 * 256 + b₁.toUInt16

def u32Bytes (x : UInt32) : List UInt8 :=
  [(x >>> 24).toUInt8, (x >>> 16).toUInt8, (x >>> 8).toUInt8, x.toUInt8]

def u32Of (b₀ b₁ b₂ b₃ : UInt8) : UInt32 :=
  b₀.toUInt32 * 16777216 + b₁.toUInt32 * 65536 + b₂.toUInt32 * 256 + b₃.toUInt32

@[simp] theorem length_u32Bytes (x : UInt32) : (u32Bytes x).length = 4 := rfl

theorem toNat_u16Of (b₀ b₁ : UInt8) : (u16Of b₀ b₁).toNat = b₀.toNat * 256 + b₁.toNat := by
  have h₀ := b₀.toNat_lt
  have h₁ := b₁.toNat_lt
  have h256 : (256 : UInt16).toNat = 256 := rfl
  simp only [u16Of, UInt16.toNat_add, UInt16.toNat_mul, UInt8.toNat_toUInt16, h256]
  omega

theorem toNat_u32Of (b₀ b₁ b₂ b₃ : UInt8) :
    (u32Of b₀ b₁ b₂ b₃).toNat = b₀.toNat * 16777216 + b₁.toNat * 65536 + b₂.toNat * 256 + b₃.toNat := by
  have h₀ := b₀.toNat_lt
  have h₁ := b₁.toNat_lt
  have h₂ := b₂.toNat_lt
  have h₃ := b₃.toNat_lt
  have hc : (16777216 : UInt32).toNat = 16777216 ∧ (65536 : UInt32).toNat = 65536 ∧
      (256 : UInt32).toNat = 256 := ⟨rfl, rfl, rfl⟩
  simp only [u32Of, UInt32.toNat_add, UInt32.toNat_mul, UInt8.toNat_toUInt32, hc.1, hc.2.1, hc.2.2]
  omega

private theorem toNat_u16Bytes (x : UInt16) :
    (x >>> 8).toUInt8.toNat = x.toNat / 256 % 256 ∧ x.toUInt8.toNat = x.toNat % 256 := by
  simp [UInt16.toNat_shiftRight, Nat.shiftRight_eq_div_pow]

private theorem toNat_u32Bytes (x : UInt32) :
    (x >>> 24).toUInt8.toNat = x.toNat / 16777216 % 256 ∧
      (x >>> 16).toUInt8.toNat = x.toNat / 65536 % 256 ∧
      (x >>> 8).toUInt8.toNat = x.toNat / 256 % 256 ∧ x.toUInt8.toNat = x.toNat % 256 := by
  simp [UInt32.toNat_shiftRight, Nat.shiftRight_eq_div_pow]

theorem u16Of_u16Bytes (x : UInt16) : u16Of (x >>> 8).toUInt8 x.toUInt8 = x := by
  apply UInt16.toNat_inj.mp
  obtain ⟨h₀, h₁⟩ := toNat_u16Bytes x
  have hx := x.toNat_lt
  rw [toNat_u16Of, h₀, h₁]
  omega

theorem u16Bytes_u16Of (b₀ b₁ : UInt8) : u16Bytes (u16Of b₀ b₁) = [b₀, b₁] := by
  obtain ⟨h₀, h₁⟩ := toNat_u16Bytes (u16Of b₀ b₁)
  have hb₀ := b₀.toNat_lt
  have hb₁ := b₁.toNat_lt
  rw [toNat_u16Of] at h₀ h₁
  simp only [u16Bytes, List.cons.injEq, and_true]
  constructor <;> apply UInt8.toNat_inj.mp <;> omega

theorem u32Of_u32Bytes (x : UInt32) :
    u32Of (x >>> 24).toUInt8 (x >>> 16).toUInt8 (x >>> 8).toUInt8 x.toUInt8 = x := by
  apply UInt32.toNat_inj.mp
  obtain ⟨h₀, h₁, h₂, h₃⟩ := toNat_u32Bytes x
  have hx := x.toNat_lt
  rw [toNat_u32Of, h₀, h₁, h₂, h₃]
  omega

theorem u32Bytes_u32Of (b₀ b₁ b₂ b₃ : UInt8) : u32Bytes (u32Of b₀ b₁ b₂ b₃) = [b₀, b₁, b₂, b₃] := by
  obtain ⟨h₀, h₁, h₂, h₃⟩ := toNat_u32Bytes (u32Of b₀ b₁ b₂ b₃)
  have hb₀ := b₀.toNat_lt
  have hb₁ := b₁.toNat_lt
  have hb₂ := b₂.toNat_lt
  have hb₃ := b₃.toNat_lt
  rw [toNat_u32Of] at h₀ h₁ h₂ h₃
  simp only [u32Bytes, List.cons.injEq, and_true]
  refine ⟨?_, ?_, ?_, ?_⟩ <;> apply UInt8.toNat_inj.mp <;> omega

end BigEndian
