import Mathlib

/-! LEB128, the unsigned varint format: a number as bytes of seven bits each, lowest first, every
byte but the last with its high bit set. The decoder reads at most ten bytes, the most a 64-bit
number needs, and refuses a last byte `0` after others, which a shorter encoding would avoid. A
64-bit number decodes from the front of its encoding with the bytes after it left alone
(`decode_encode_append`), and input that ends inside a number is refused as insufficient
(`decode_of_forall_continues`). -/

namespace Leb128

/-- Why a decoding fails. -/
inductive DecodeError where
  /-- The bytes end inside the number. -/
  | insufficient
  /-- More than ten bytes. -/
  | overflow
  /-- A last byte `0` after others. -/
  | notMinimal
  deriving DecidableEq, Repr

def encode (n : Nat) : List UInt8 :=
  if n < 128 then [n.toUInt8] else (n % 128 + 128).toUInt8 :: encode (n / 128)
termination_by n
decreasing_by omega

/-- Reads the number whose byte `i` (from zero) is the head of `bytes`. -/
def decodeAt : Nat → List UInt8 → Except DecodeError (Nat × List UInt8)
  | _, [] => .error .insufficient
  | i, b :: rest =>
    if b.toNat < 128 then
      if b = 0 ∧ 0 < i then .error .notMinimal else .ok (b.toNat, rest)
    else if i = 9 then .error .overflow
    else
      match decodeAt (i + 1) rest with
      | .ok (n, rest') => .ok (b.toNat % 128 + 128 * n, rest')
      | .error e => .error e

def decode (bytes : List UInt8) : Except DecodeError (Nat × List UInt8) :=
  decodeAt 0 bytes

theorem toNat_toUInt8 {n : Nat} (h : n < 256) : n.toUInt8.toNat = n := by
  simp [Nat.mod_eq_of_lt h]

theorem encode_of_lt {n : Nat} (h : n < 128) : encode n = [n.toUInt8] := by
  rw [encode, if_pos h]

theorem encode_of_ge {n : Nat} (h : 128 ≤ n) :
    encode n = (n % 128 + 128).toUInt8 :: encode (n / 128) := by
  rw [encode, if_neg (by omega)]

/-- The decoding of a number met at byte `i`, when it fits in the bytes left and is not a
redundant trailing zero. -/
theorem decodeAt_encode_append (n : Nat) :
    ∀ (i : Nat) (rest : List UInt8), n < 128 ^ (10 - i) → (0 < i → 0 < n) →
      decodeAt i (encode n ++ rest) = .ok (n, rest) := by
  induction n using Nat.strongRecOn with
  | ind n ih =>
    intro i rest hfit hpos
    by_cases hsmall : n < 128
    · have hbyte := toNat_toUInt8 (show n < 256 by omega)
      rw [encode_of_lt hsmall, List.singleton_append, decodeAt, hbyte, if_pos hsmall, if_neg]
      rintro ⟨hzero, hi⟩
      have hn : n = 0 := by
        rw [← hbyte, hzero]
        rfl
      exact absurd (hpos hi) (by omega)
    · have hbyte := toNat_toUInt8 (show n % 128 + 128 < 256 by omega)
      have hi : i < 9 := by
        by_contra hi
        have hpow : 128 ^ (10 - i) ≤ 128 ^ 1 := Nat.pow_le_pow_right (by decide) (by omega)
        rw [Nat.pow_one] at hpow
        omega
      have hnext : n / 128 < 128 ^ (10 - (i + 1)) := by
        have hsplit : 128 ^ (10 - i) = 128 * 128 ^ (10 - (i + 1)) := by
          rw [← Nat.pow_succ']
          congr 1
          omega
        rw [hsplit] at hfit
        omega
      rw [encode_of_ge (by omega), List.cons_append, decodeAt, hbyte, if_neg (by omega),
        if_neg (by omega), ih (n / 128) (by omega) (i + 1) rest hnext (fun _ => by omega)]
      dsimp only
      congr 2
      omega

theorem decode_encode_append (n : Nat) (rest : List UInt8) (h : n < 2 ^ 64) :
    decode (encode n ++ rest) = .ok (n, rest) := by
  have hwide : 2 ^ 64 < 128 ^ (10 - 0) := by decide
  exact decodeAt_encode_append n 0 rest (by omega) (fun h => absurd h (Nat.lt_irrefl 0))

theorem decodeAt_of_forall_continues :
    ∀ (bytes : List UInt8) (i : Nat), i + bytes.length ≤ 9 → (∀ b ∈ bytes, 128 ≤ b.toNat) →
      decodeAt i bytes = .error .insufficient
  | [], _, _, _ => rfl
  | b :: bytes, i, hlen, hcont => by
      have hb := hcont b List.mem_cons_self
      have hi : i ≠ 9 := by
        simp only [List.length_cons] at hlen
        omega
      rw [decodeAt, if_neg (by omega), if_neg hi,
        decodeAt_of_forall_continues bytes (i + 1) (by simp only [List.length_cons] at hlen; omega)
          (fun b' hb' => hcont b' (List.mem_cons_of_mem b hb'))]

theorem decode_of_forall_continues {bytes : List UInt8} (hlen : bytes.length ≤ 9)
    (hcont : ∀ b ∈ bytes, 128 ≤ b.toNat) : decode bytes = .error .insufficient :=
  decodeAt_of_forall_continues bytes 0 (by omega) hcont

end Leb128
