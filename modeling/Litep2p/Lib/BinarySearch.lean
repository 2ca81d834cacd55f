import Mathlib

/-!
# Binary search in a list sorted by a key

`<[T]>::binary_search_by` answers `Ok(i)` with the position of an element whose key is the target,
or `Err(i)` with the position where the target can be inserted keeping the order. On a list whose
keys strictly increase, that contract fixes the answer, whatever loop the standard library runs:
`binarySearchBy` computes it as the first position whose key is not below the target.

The lemmas say what each answer tells on such a list, and that the writes a caller makes at the
answer (a replacement at `Ok(i)`, an insertion at `Err(i)`, possibly after dropping the last
element) keep the keys strictly increasing.
-/

namespace BinarySearch

variable {α β : Type*} [LinearOrder β] (key : α → β)

/-- `binary_search_by(|a| key(a).cmp(&target))`, on a list sorted by `key`. -/
def binarySearchBy (target : β) (l : List α) : Except Nat Nat :=
  let i := l.findIdx fun a => decide (target ≤ key a)
  match l[i]? with
  | some a => if key a = target then .ok i else .error i
  | none => .error i

variable {key}

abbrev StrictlySorted (key : α → β) (l : List α) : Prop :=
  l.Pairwise fun a b => key a < key b

theorem binarySearchBy_eq_ok {target : β} {l : List α} {i : Nat}
    (h : binarySearchBy key target l = .ok i) : ∃ hi : i < l.length, key l[i] = target := by
  unfold binarySearchBy at h
  dsimp only at h
  split at h
  · rename_i a ha
    split at h
    · rename_i hkey
      cases h
      obtain ⟨hi, rfl⟩ := List.getElem?_eq_some_iff.mp ha
      exact ⟨hi, hkey⟩
    · cases h
  · cases h

/-- An `Err(i)` answer: every key before `i` is below the target, and on a sorted list every key
from `i` on is above it. -/
theorem binarySearchBy_eq_error {target : β} {l : List α} {i : Nat} (hs : StrictlySorted key l)
    (h : binarySearchBy key target l = .error i) :
    i ≤ l.length ∧ (∀ j (hj : j < l.length), j < i → key l[j] < target) ∧
      ∀ j (hj : j < l.length), i ≤ j → target < key l[j] := by
  unfold binarySearchBy at h
  dsimp only at h
  have hbefore : ∀ j (hj : j < l.length), j < l.findIdx (fun a => decide (target ≤ key a)) →
      key l[j] < target := fun j hj hlt => by
    simpa using List.not_of_lt_findIdx hlt
  split at h
  · rename_i a ha
    split at h
    · cases h
    · rename_i hkey
      cases h
      obtain ⟨hi, rfl⟩ := List.getElem?_eq_some_iff.mp ha
      have hat : target < key l[l.findIdx fun a => decide (target ≤ key a)] :=
        lt_of_le_of_ne (by simpa using List.findIdx_getElem (w := hi)) (Ne.symm hkey)
      refine ⟨hi.le, hbefore, fun j hj hij => ?_⟩
      rcases Nat.lt_or_eq_of_le hij with hlt | rfl
      · exact hat.trans (List.pairwise_iff_getElem.mp hs _ _ hi hj hlt)
      · exact hat
  · rename_i ha
    cases h
    have hlen := List.getElem?_eq_none_iff.mp ha
    exact ⟨List.findIdx_le_length, hbefore, fun j hj hij => absurd hj (by omega)⟩

theorem strictlySorted_set_of_ok {target : β} {l : List α} {i : Nat} {a : α}
    (hs : StrictlySorted key l) (h : binarySearchBy key target l = .ok i) (ha : key a = target) :
    StrictlySorted key (l.set i a) := by
  obtain ⟨hi, hkey⟩ := binarySearchBy_eq_ok h
  have hi' : i < (l.map key).length := by simpa using hi
  have hki : (l.map key)[i] = target := by rw [List.getElem_map, hkey]
  have hmap : (l.set i a).map key = l.map key := by
    rw [List.map_set, ha, ← hki, List.set_getElem_self]
  have hsorted : (l.map key).Pairwise (· < ·) := List.pairwise_map.mpr hs
  rw [← hmap] at hsorted
  exact List.pairwise_map.mp hsorted

theorem mem_set_of_nodup {l : List α} {i : Nat} (hi : i < l.length) (hl : l.Nodup) (a b : α) :
    b ∈ l.set i a ↔ b = a ∨ b ∈ l ∧ b ≠ l[i] := by
  constructor
  · intro hb
    obtain ⟨j, hj, rfl⟩ := List.mem_iff_getElem.mp hb
    rw [List.getElem_set]
    split_ifs with hij
    · exact .inl rfl
    · have hj' : j < l.length := by simpa using hj
      refine .inr ⟨List.getElem_mem hj', fun heq => hij ?_⟩
      exact ((hl.getElem_inj_iff).mp heq).symm
  · rintro (rfl | ⟨hb, hne⟩)
    · exact List.mem_set hi b
    · obtain ⟨j, hj, rfl⟩ := List.mem_iff_getElem.mp hb
      have hij : i ≠ j := fun hij => hne (by subst hij; rfl)
      have hj' : j < (l.set i a).length := by simpa using hj
      rw [List.mem_iff_getElem]
      exact ⟨j, hj', by rw [List.getElem_set, if_neg hij]⟩

theorem insertIdx_eq_take_append_drop (a : α) :
    ∀ (i : Nat) (l : List α), i ≤ l.length → l.insertIdx i a = l.take i ++ a :: l.drop i
  | 0, l, _ => by simp [List.insertIdx_zero]
  | i + 1, [], h => by simp at h
  | i + 1, b :: l, h => by
      rw [List.insertIdx_succ_cons, insertIdx_eq_take_append_drop a i l (by simp at h; omega)]
      rfl

/-- Inserting at an `Err(i)` answer an element whose key is the target keeps a sorted list sorted,
also when the list was first cut to a prefix that still reaches `i`. -/
theorem strictlySorted_insertIdx_of_error {target : β} {l l' : List α} {i : Nat} {a : α}
    (hs : StrictlySorted key l) (h : binarySearchBy key target l = .error i) (ha : key a = target)
    (hpre : l' <+: l) (hi : i ≤ l'.length) : StrictlySorted key (l'.insertIdx i a) := by
  obtain ⟨-, hbelow, habove⟩ := binarySearchBy_eq_error hs h
  have hs' : StrictlySorted key l' := hs.sublist hpre.sublist
  have hlen : l'.length ≤ l.length := hpre.length_le
  have htake : ∀ b ∈ l'.take i, key b < key a := by
    intro b hb
    obtain ⟨j, hj, rfl⟩ := List.mem_take_iff_getElem.mp hb
    rw [hpre.getElem, ha]
    exact hbelow j (by omega) (by omega)
  have hdrop : ∀ b ∈ l'.drop i, key a < key b := by
    intro b hb
    obtain ⟨j, hj, rfl⟩ := List.mem_drop_iff_getElem.mp hb
    rw [hpre.getElem, ha]
    exact habove (i + j) (by omega) (by omega)
  rw [insertIdx_eq_take_append_drop a i l' hi, StrictlySorted, List.pairwise_append]
  refine ⟨hs'.sublist (List.take_sublist i l'), List.pairwise_cons.mpr
    ⟨hdrop, hs'.sublist (List.drop_sublist i l')⟩, fun b hb c hc => ?_⟩
  rcases List.mem_cons.mp hc with rfl | hc
  · exact htake b hb
  · exact (htake b hb).trans (hdrop c hc)

end BinarySearch
