import Mathlib

/-!
# Windows of the least elements

`IsTopK f k S L` says that the list `L` holds, by strictly increasing key `f`, the `k` elements of
the finite set `S` of least key, or the whole of `S` when it has fewer: the bounded window of best
results that a search keeps. There is one such list (`IsTopK.unique`). Three rules keep the window
when an element joins `S`: it is taken in while the window is not full
(`IsTopK.insert_of_length_lt`), taken in in place of the last element when its key is less
(`IsTopK.insert_of_lt_last`), and left out when every element of a full window is less
(`IsTopK.insert_of_lt`).
-/

namespace TopK

variable {α β : Type*} [LinearOrder β] {f : α → β} {k : ℕ} {S : Finset α}
  {L L' L₀ : List α} {a w : α}

/-- `L` lists, by strictly increasing key, the `k` elements of `S` of least key, or all of `S`. -/
structure IsTopK (f : α → β) (k : ℕ) (S : Finset α) (L : List α) : Prop where
  sorted : L.Pairwise fun a b => f a < f b
  subset : ∀ a ∈ L, a ∈ S
  length_eq : L.length = min k S.card
  least : ∀ a ∈ S, a ∉ L → ∀ b ∈ L, f b < f a

theorem nodup_of_sorted (hL : L.Pairwise fun a b => f a < f b) : L.Nodup :=
  hL.imp fun hab => ne_of_apply_ne f hab.ne

theorem le_last (hL : (L₀ ++ [w]).Pairwise fun a b => f a < f b) {b : α} (hb : b ∈ L₀ ++ [w]) :
    f b ≤ f w := by
  rcases List.mem_append.mp hb with hb | hb
  · exact (List.pairwise_append.mp hL).2.2 b hb w (List.mem_singleton_self w) |>.le
  · rw [List.mem_singleton.mp hb]

theorem isTopK_empty : IsTopK f k ∅ [] := ⟨.nil, by simp, by simp, by simp⟩

namespace IsTopK

theorem nodup (h : IsTopK f k S L) : L.Nodup := nodup_of_sorted h.sorted

variable [DecidableEq α]

theorem mem_of_length_lt (h : IsTopK f k S L) (hlen : L.length < k) (ha : a ∈ S) : a ∈ L := by
  have hsub : L.toFinset ⊆ S := fun b hb => h.subset b (List.mem_toFinset.mp hb)
  have hcard : S.card ≤ L.toFinset.card := by
    rw [List.toFinset_card_of_nodup h.nodup]
    have := h.length_eq
    omega
  rw [← List.mem_toFinset, Finset.eq_of_subset_of_card_le hsub hcard]
  exact ha

/-- Two windows of one set are one list: each element of one that the other missed would have
to be both less and greater than an element of the other. -/
theorem unique {L₁ L₂ : List α} (h₁ : IsTopK f k S L₁) (h₂ : IsTopK f k S L₂) : L₁ = L₂ := by
  have hsub : ∀ {L₁ L₂}, IsTopK f k S L₁ → IsTopK f k S L₂ → ∀ a ∈ L₁, a ∈ L₂ := by
    intro L₁ L₂ h₁ h₂ a ha
    by_contra haL₂
    obtain ⟨b, hb, hbL₁⟩ : ∃ b ∈ L₂, b ∉ L₁ := by
      by_contra hall
      simp only [not_exists, not_and, not_not] at hall
      have hperm : L₂.Perm L₁ := (List.subperm_of_subset h₂.nodup hall).perm_of_length_le
        (by rw [h₁.length_eq, h₂.length_eq])
      exact haL₂ (hperm.mem_iff.mpr ha)
    exact lt_asymm (h₂.least a (h₁.subset a ha) haL₂ b hb) (h₁.least b (h₂.subset b hb) hbL₁ a ha)
  have hperm : L₁.Perm L₂ := (List.perm_ext_iff_of_nodup h₁.nodup h₂.nodup).mpr
    fun a => ⟨hsub h₁ h₂ a, hsub h₂ h₁ a⟩
  exact hperm.eq_of_pairwise (fun a b _ _ hab hba => absurd hba (lt_asymm hab)) h₁.sorted h₂.sorted

theorem insert_of_length_lt (h : IsTopK f k S L) (hlen : L.length < k) (ha : a ∉ S)
    (hsorted : L'.Pairwise fun a b => f a < f b) (hmem : ∀ b, b ∈ L' ↔ b = a ∨ b ∈ L) :
    IsTopK f k (insert a S) L' := by
  have haL : a ∉ L := fun haL => ha (h.subset a haL)
  have hperm : L'.Perm (a :: L) := (List.perm_ext_iff_of_nodup (nodup_of_sorted hsorted)
    (List.nodup_cons.mpr ⟨haL, h.nodup⟩)).mpr fun b => by rw [hmem, List.mem_cons]
  refine ⟨hsorted, fun b hb => ?_, ?_, fun b hb hbL' => ?_⟩
  · rcases (hmem b).mp hb with rfl | hb
    · exact Finset.mem_insert_self _ _
    · exact Finset.mem_insert_of_mem (h.subset b hb)
  · rw [hperm.length_eq, List.length_cons, Finset.card_insert_of_notMem ha]
    have := h.length_eq
    omega
  · exfalso
    rcases Finset.mem_insert.mp hb with rfl | hb
    · exact hbL' ((hmem _).mpr (.inl rfl))
    · exact hbL' ((hmem _).mpr (.inr (h.mem_of_length_lt hlen hb)))

theorem insert_of_lt_last (h : IsTopK f k S (L₀ ++ [w])) (hlen : (L₀ ++ [w]).length = k)
    (ha : a ∉ S) (hlt : f a < f w) (hsorted : L'.Pairwise fun a b => f a < f b)
    (hmem : ∀ b, b ∈ L' ↔ b = a ∨ b ∈ L₀) : IsTopK f k (insert a S) L' := by
  have hL₀ : ∀ b ∈ L₀, b ∈ L₀ ++ [w] := fun b hb => List.mem_append_left _ hb
  have hw : w ∈ L₀ ++ [w] := List.mem_append_right _ (List.mem_singleton_self w)
  have haL₀ : a ∉ L₀ := fun haL₀ => ha (h.subset a (hL₀ a haL₀))
  have hperm : L'.Perm (a :: L₀) := (List.perm_ext_iff_of_nodup (nodup_of_sorted hsorted)
    (List.nodup_cons.mpr ⟨haL₀, (List.nodup_append.mp h.nodup).1⟩)).mpr
      fun b => by rw [hmem, List.mem_cons]
  have hcard : k ≤ S.card := by
    have := h.length_eq
    omega
  refine ⟨hsorted, fun b hb => ?_, ?_, fun b hb hbL' => ?_⟩
  · rcases (hmem b).mp hb with rfl | hb
    · exact Finset.mem_insert_self _ _
    · exact Finset.mem_insert_of_mem (h.subset b (hL₀ b hb))
  · rw [hperm.length_eq, List.length_cons, Finset.card_insert_of_notMem ha]
    rw [List.length_append, List.length_singleton] at hlen
    omega
  · have hba : b ≠ a := fun hba => hbL' ((hmem b).mpr (.inl hba))
    have hbS : b ∈ S := (Finset.mem_insert.mp hb).resolve_left hba
    have hbL₀ : b ∉ L₀ := fun hbL₀ => hbL' ((hmem b).mpr (.inr hbL₀))
    have hwb : f w ≤ f b := by
      by_cases hbw : b = w
      · rw [hbw]
      · exact (h.least b hbS (by simp [hbL₀, hbw]) w hw).le
    intro c hc
    rcases (hmem c).mp hc with rfl | hc
    · exact lt_of_lt_of_le hlt hwb
    · by_cases hbw : b = w
      · rw [hbw]
        exact (List.pairwise_append.mp h.sorted).2.2 c hc w (List.mem_singleton_self w)
      · exact h.least b hbS (by simp [hbL₀, hbw]) c (hL₀ c hc)

theorem insert_of_lt (h : IsTopK f k S L) (hlen : L.length = k) (hgt : ∀ b ∈ L, f b < f a) :
    IsTopK f k (insert a S) L := by
  have hcard : k ≤ (insert a S).card := by
    have := h.length_eq
    have := Finset.card_le_card (Finset.subset_insert a S)
    omega
  refine ⟨h.sorted, fun b hb => Finset.mem_insert_of_mem (h.subset b hb), ?_, fun b hb hbL => ?_⟩
  · rw [hlen]
    omega
  · rcases Finset.mem_insert.mp hb with rfl | hb
    · exact hgt
    · exact h.least b hb hbL

theorem replace_of_mem (h : IsTopK f k S L) (ha : a ∈ L) (hw : w ∉ S.erase a) (hfw : f w = f a)
    (hsorted : L'.Pairwise fun a b => f a < f b) (hmem : ∀ b, b ∈ L' ↔ b = w ∨ b ∈ L ∧ b ≠ a) :
    IsTopK f k (insert w (S.erase a)) L' := by
  have haS : a ∈ S := h.subset a ha
  have hwL : w ∉ L.erase a := fun hwL => by
    obtain ⟨hwa, hwL⟩ := h.nodup.mem_erase_iff.mp hwL
    exact hw (Finset.mem_erase.mpr ⟨hwa, h.subset w hwL⟩)
  have hperm : L'.Perm (w :: L.erase a) := (List.perm_ext_iff_of_nodup (nodup_of_sorted hsorted)
    (List.nodup_cons.mpr ⟨hwL, h.nodup.erase a⟩)).mpr
      fun b => by rw [hmem, List.mem_cons, h.nodup.mem_erase_iff, and_comm]
  refine ⟨hsorted, fun b hb => ?_, ?_, fun b hb hbL' => ?_⟩
  · rcases (hmem b).mp hb with rfl | ⟨hb, hba⟩
    · exact Finset.mem_insert_self _ _
    · exact Finset.mem_insert_of_mem (Finset.mem_erase.mpr ⟨hba, h.subset b hb⟩)
  · rw [hperm.length_eq, List.length_cons, List.length_erase_of_mem ha,
      Finset.card_insert_of_notMem hw, Finset.card_erase_of_mem haS]
    have := h.length_eq
    have := List.length_pos_of_mem ha
    have := Finset.card_pos.mpr ⟨a, haS⟩
    omega
  · have hbw : b ≠ w := fun hbw => hbL' ((hmem b).mpr (.inl hbw))
    obtain ⟨hba, hbS⟩ := Finset.mem_erase.mp ((Finset.mem_insert.mp hb).resolve_left hbw)
    have hbL : b ∉ L := fun hbL => hbL' ((hmem b).mpr (.inr ⟨hbL, hba⟩))
    intro c hc
    rcases (hmem c).mp hc with rfl | ⟨hc, -⟩
    · rw [hfw]
      exact h.least b hbS hbL a ha
    · exact h.least b hbS hbL c hc

theorem replace_of_not_mem (h : IsTopK f k S L) (haS : a ∈ S) (haL : a ∉ L) (hw : w ∉ S.erase a)
    (hfw : f w = f a) : IsTopK f k (insert w (S.erase a)) L := by
  refine ⟨h.sorted, fun b hb => ?_, ?_, fun b hb hbL => ?_⟩
  · have hba : b ≠ a := fun hba => haL (hba ▸ hb)
    exact Finset.mem_insert_of_mem (Finset.mem_erase.mpr ⟨hba, h.subset b hb⟩)
  · rw [Finset.card_insert_of_notMem hw, Finset.card_erase_of_mem haS,
      Nat.sub_add_cancel (Finset.card_pos.mpr ⟨a, haS⟩)]
    exact h.length_eq
  · rcases Finset.mem_insert.mp hb with rfl | hb
    · rw [hfw]
      exact h.least a haS haL
    · exact h.least b (Finset.mem_of_mem_erase hb) hbL

end IsTopK

theorem isTopK_take [DecidableEq α] (hL : L.Pairwise fun a b => f a < f b) (k : ℕ) :
    IsTopK f k L.toFinset (L.take k) := by
  have hsplit := List.pairwise_append.mp ((List.take_append_drop k L).symm ▸ hL)
  refine ⟨hsplit.1, fun a ha => List.mem_toFinset.mpr (List.mem_of_mem_take ha), ?_,
    fun a ha haL b hb => ?_⟩
  · rw [List.length_take, List.toFinset_card_of_nodup (nodup_of_sorted hL)]
  · have had : a ∈ L.drop k := by
      rw [← List.take_append_drop k L, List.mem_toFinset, List.mem_append] at ha
      exact ha.resolve_left haL
    exact hsplit.2.2 b hb a had

end TopK
