import Mathlib

/-!
# Buckets of the XOR metric

Around an origin, the keys whose XOR offset `x` has highest set bit `i` (`Nat.log2 x = i`) form
bucket `i`. Seen from a target at offset `d` from the origin, a key at offset `x` lies at distance
`x ^^^ d`. For two keys of different buckets this order is decided by a single bit of `d`: the bit
of the higher of the two buckets. `Precedes d i j` states that decision, and
`xor_lt_xor_of_precedes` turns it into the comparison of distances.
-/

namespace XorDistance

/-- Every key of bucket `i` is closer to the target at offset `d` than every key of bucket `j`:
when `i` is the higher bucket the keys of `i` agree with `d` on bit `i`, otherwise the keys of `j`
disagree with `d` on bit `j`. -/
def Precedes (d i j : Nat) : Prop :=
  if j < i then d.testBit i = true else d.testBit j = false

instance (d i j : Nat) : Decidable (Precedes d i j) :=
  inferInstanceAs (Decidable (if j < i then d.testBit i = true else d.testBit j = false))

theorem testBit_eq_false_of_log2_lt {x k : Nat} (hk : x.log2 < k) :
    x.testBit k = false :=
  Nat.testBit_lt_two_pow (Nat.lt_of_lt_of_le (Nat.lt_log2_self) (Nat.pow_le_pow_right (by omega) hk))

/-- The comparison at the higher bit `i`: above it both offsets are zero, so only bit `i` of the
two distances differs. -/
theorem xor_lt_xor_of_top_bit {d x y : Nat} (i : Nat)
    (hxi : x.log2 ≤ i) (hyi : y.log2 ≤ i)
    (hlow : (x ^^^ d).testBit i = false) (hhigh : (y ^^^ d).testBit i = true) :
    x ^^^ d < y ^^^ d := by
  apply Nat.lt_of_testBit i hlow hhigh
  intro k hk
  rw [Nat.testBit_xor, Nat.testBit_xor, testBit_eq_false_of_log2_lt (x := x) (by omega),
    testBit_eq_false_of_log2_lt (x := y) (by omega)]

theorem xor_lt_xor_of_precedes {d x y : Nat} (hx : x ≠ 0) (hy : y ≠ 0) (hne : x.log2 ≠ y.log2)
    (h : Precedes d x.log2 y.log2) : x ^^^ d < y ^^^ d := by
  unfold Precedes at h
  split at h
  · rename_i hlt
    apply xor_lt_xor_of_top_bit x.log2 (Nat.le_refl _) (by omega)
    · rw [Nat.testBit_xor, Nat.testBit_log2 hx, h]
      rfl
    · rw [Nat.testBit_xor, testBit_eq_false_of_log2_lt hlt, h]
      rfl
  · rename_i hlt
    have hxy : x.log2 < y.log2 := by omega
    apply xor_lt_xor_of_top_bit y.log2 (by omega) (Nat.le_refl _)
    · rw [Nat.testBit_xor, testBit_eq_false_of_log2_lt hxy, h]
      rfl
    · rw [Nat.testBit_xor, Nat.testBit_log2 hy, h]
      rfl

end XorDistance
