import Mathlib

/-! Filtering commutes with the stable merge sort.
`List.mergeSort` inserts the head of its input after exactly the elements of the sorted tail it
is not below (`List.mergeSort_cons`). Filtering keeps that split, and a sorted list splits into a
part below the head and a part above it in one way only (`eq_of_append_eq_of_forall`), so
`(l.mergeSort le).filter p = (l.filter p).mergeSort le`. -/

namespace StableSort

variable {α : Type*}

theorem eq_of_append_eq_of_forall {q : α → Prop} :
    ∀ {X Y X' Y' : List α}, X ++ Y = X' ++ Y' → (∀ a ∈ X, q a) → (∀ a ∈ Y, ¬q a) →
      (∀ a ∈ X', q a) → (∀ a ∈ Y', ¬q a) → X = X'
  | [], _, [], _, _, _, _, _, _ => rfl
  | [], _, a :: _, _, h, _, hY, hX', _ => by
      rw [List.nil_append] at h
      exact absurd (hX' a List.mem_cons_self) (hY a (h ▸ List.mem_cons_self))
  | a :: _, _, [], _, h, hX, _, _, hY' => by
      rw [List.nil_append] at h
      exact absurd (hX a List.mem_cons_self) (hY' a (h ▸ List.mem_cons_self))
  | a :: X, Y, a' :: X', Y', h, hX, hY, hX', hY' => by
      rw [List.cons_append, List.cons_append, List.cons.injEq] at h
      rw [h.1, eq_of_append_eq_of_forall h.2 (fun b hb => hX b (List.mem_cons_of_mem a hb)) hY
        (fun b hb => hX' b (List.mem_cons_of_mem a' hb)) hY']

variable {le : α → α → Bool}

theorem le_of_mem_right {l₁ l₂ : List α} {a : α} (h : (l₁ ++ a :: l₂).Pairwise (le · ·))
    {b : α} (hb : b ∈ l₂) : le a b := by
  rw [List.pairwise_append, List.pairwise_cons] at h
  exact h.2.1.1 b hb

variable (trans : ∀ a b c, le a b → le b c → le a c) (total : ∀ a b, le a b || le b a)
include trans total

theorem filter_mergeSort (p : α → Bool) (l : List α) :
    (l.mergeSort le).filter p = (l.filter p).mergeSort le := by
  induction l with
  | nil => simp
  | cons a l ih =>
      obtain ⟨l₁, l₂, h₁, h₂, h₃⟩ := List.mergeSort_cons trans total a l
      have hsorted := List.pairwise_mergeSort trans total (a :: l)
      rw [h₁] at hsorted
      rw [h₁, List.filter_append, List.filter_cons]
      by_cases hp : p a
      · rw [List.filter_cons_of_pos hp, if_pos hp]
        obtain ⟨m₁, m₂, k₁, k₂, k₃⟩ := List.mergeSort_cons trans total a (l.filter p)
        have ksorted := List.pairwise_mergeSort trans total (a :: l.filter p)
        rw [k₁] at ksorted
        have hsplit : l₁.filter p ++ l₂.filter p = m₁ ++ m₂ := by
          rw [← List.filter_append, ← h₂, ih, k₂]
        have hm₁ : l₁.filter p = m₁ :=
          eq_of_append_eq_of_forall (q := fun b => le a b = false) hsplit
            (fun b hb => by simpa using h₃ b (List.mem_of_mem_filter hb))
            (fun b hb => by simpa using le_of_mem_right hsorted (List.mem_of_mem_filter hb))
            (fun b hb => by simpa using k₃ b hb)
            (fun b hb => by simpa using le_of_mem_right ksorted hb)
        rw [hm₁] at hsplit
        rw [k₁, hm₁, List.append_cancel_left hsplit]
      · rw [List.filter_cons_of_neg hp, if_neg hp, ← List.filter_append, ← h₂, ih]

end StableSort
