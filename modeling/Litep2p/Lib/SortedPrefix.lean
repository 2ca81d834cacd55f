import Mathlib

/-!
# The least elements of a collection, in order

`IsLeastPrefix key l n r` says that `r` lists `min n (length l)` elements of `l`, strictly
increasing in `key`, and that every element of `l` left out is further than all of `r`: `r` is
the answer to "the `n` elements of `l` of least key". A list that is a permutation of `l` and
strictly increasing in `key` answers it by its first `n` elements (`isLeastPrefix_take`).
-/

namespace SortedPrefix

variable {α β : Type*} [LinearOrder β]

/-- `r` is the list of the `n` elements of `l` of least `key`, in increasing order. -/
structure IsLeastPrefix (key : α → β) (l : List α) (n : Nat) (r : List α) : Prop where
  sorted : r.Pairwise (fun a b => key a < key b)
  length_eq : r.length = min n l.length
  mem_of_mem : ∀ a ∈ r, a ∈ l
  lt_of_not_mem : ∀ a ∈ l, a ∉ r → ∀ b ∈ r, key b < key a

theorem lt_of_mem_take_of_mem_drop {key : α → β} {l : List α} {n : Nat}
    (h : l.Pairwise (fun a b => key a < key b)) {a b : α} (ha : a ∈ l.drop n) (hb : b ∈ l.take n) :
    key b < key a := by
  rw [← List.take_append_drop n l, List.pairwise_append] at h
  exact h.2.2 b hb a ha

theorem isLeastPrefix_take {key : α → β} {l s : List α} (hperm : s.Perm l)
    (h : s.Pairwise (fun a b => key a < key b)) (n : Nat) :
    IsLeastPrefix key l n (s.take n) where
  sorted := h.take
  length_eq := by rw [List.length_take, hperm.length_eq]
  mem_of_mem a ha := hperm.subset (List.mem_of_mem_take ha)
  lt_of_not_mem a ha hnot b hb := by
    have has : a ∈ s := hperm.symm.subset ha
    rw [← List.take_append_drop n s, List.mem_append] at has
    rcases has with htake | hdrop
    · exact absurd htake hnot
    · exact lt_of_mem_take_of_mem_drop h hdrop hb

theorem IsLeastPrefix.mem_of_le {key : α → β} {l r : List α} {n : Nat} (h : IsLeastPrefix key l n r)
    (hn : 0 < n) {a : α} (ha : a ∈ l) (hmin : ∀ b ∈ l, key a ≤ key b) : a ∈ r := by
  by_contra hnot
  have hlen : 0 < r.length := by
    rw [h.length_eq]
    exact Nat.lt_min.mpr ⟨hn, List.length_pos_of_mem ha⟩
  obtain ⟨b, hb⟩ := List.exists_mem_of_length_pos hlen
  exact absurd (h.lt_of_not_mem a ha hnot b hb) (not_lt.mpr (hmin b (h.mem_of_mem b hb)))

theorem pairwise_lt_of_le_of_ne {key : α → β} {l : List α}
    (hle : l.Pairwise (fun a b => key a ≤ key b)) (hne : l.Pairwise (fun a b => key a ≠ key b)) :
    l.Pairwise (fun a b => key a < key b) :=
  (hle.and hne).imp fun hab => lt_of_le_of_ne hab.1 hab.2

end SortedPrefix
