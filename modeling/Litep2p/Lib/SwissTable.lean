import Mathlib

/-!
# Lookup in a small SwissTable

A SwissTable, the table behind the standard `HashMap` and `HashSet`, keeps with each element a
seven-bit tag, the top bits of its hash, and answers a lookup by calling the equality only on the
elements whose tag is the key's. While the table has no more buckets than one group of control
bytes holds (eight or sixteen, by target), one group load reads every bucket, so a key is found
exactly when a present element has its tag and compares equal to it; a set of at most seven
elements lives in such a table.

When the equality is coarser than the hash, two values that differ are then merged as soon as
their tags meet, and any 129 values hold two whose tags meet, whatever the hash.
-/

namespace SwissTable

def h2 (hash : UInt64) : UInt64 := (hash >>> 57) &&& 0x7f

variable {α : Type*} (hash : α → UInt64) (eq : α → α → Bool)

/-- `HashSet::insert` into a table of one group: the value is dropped when a present one has its
tag and compares equal to it. -/
def insertSmall (set : List α) (x : α) : List α :=
  if set.any (fun y => h2 (hash y) == h2 (hash x) && eq y x) then set else set ++ [x]

def collectSmall (xs : List α) : List α := xs.foldl (insertSmall hash eq) []

variable {hash eq}

theorem insertSmall_of_mem {set : List α} {x y : α} (hy : y ∈ set)
    (htag : h2 (hash y) = h2 (hash x)) (heq : eq y x = true) : insertSmall hash eq set x = set := by
  have hany : set.any (fun y => h2 (hash y) == h2 (hash x) && eq y x) = true :=
    List.any_eq_true.mpr ⟨y, hy, by simp [htag, heq]⟩
  simp only [insertSmall, hany, if_true]

theorem h2_toNat_lt (h : UInt64) : (h2 h).toNat < 128 := by
  have hle : (h2 h).toNat ≤ 127 := by
    simp only [h2, UInt64.toNat_and]
    exact Nat.and_le_right
  omega

theorem exists_h2_eq (hash : α → UInt64) (f : Fin 129 → α) :
    ∃ i j, i ≠ j ∧ h2 (hash (f i)) = h2 (hash (f j)) := by
  let tag : Fin 129 → Fin 128 := fun i => ⟨(h2 (hash (f i))).toNat, h2_toNat_lt _⟩
  obtain ⟨i, j, hne, htag⟩ := Fintype.exists_ne_map_eq_of_card_lt tag (by simp)
  have hval : (tag i).val = (tag j).val := congrArg Fin.val htag
  exact ⟨i, j, hne, UInt64.toNat_inj.mp hval⟩

end SwissTable
