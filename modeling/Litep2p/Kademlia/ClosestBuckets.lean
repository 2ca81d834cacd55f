import Mathlib
import Litep2p.Kademlia.RoutingTable

/-!
# The order in which `closest` visits the buckets

`ClosestBucketsIter::new(d)` yields its start bucket (`ilog2 d`, or `0` when `d = 0`), then the
buckets of the set bits of `d` below it in decreasing order, then bucket `0`, then the buckets of
the clear bits of `d` above `0` in increasing order (`toList_new`). Any two positions of this
sequence stand in `VisitOrder`: only bucket `0` occurs twice, and of two distinct buckets the
earlier `XorDistance.Precedes` the later, so that every key of the earlier one is closer to the
target (`distance_lt_of_visitOrder`). Every bucket index occurs (`mem_toList_new`).
-/

namespace Litep2p.Kademlia

namespace ClosestBucketsIter

theorem mem_take_finRange {n i : Nat} {k : Fin n} : k ∈ (List.finRange n).take i ↔ k.val < i := by
  rw [List.mem_take_iff_getElem]
  constructor
  · rintro ⟨j, hj, rfl⟩
    simp only [List.getElem_finRange, Fin.val_cast]
    simp at hj
    omega
  · intro hk
    exact ⟨k.val, by simp [hk, k.isLt], by simp⟩

theorem mem_drop_finRange {n i : Nat} {k : Fin n} : k ∈ (List.finRange n).drop i ↔ i ≤ k.val := by
  rw [List.mem_drop_iff_getElem]
  constructor
  · rintro ⟨j, hj, rfl⟩
    simp
  · intro hk
    refine ⟨k.val - i, by simp; omega, ?_⟩
    ext
    simp
    omega

theorem findSome?_guard_spec {α : Type} {R : α → α → Prop} (hR : ∀ a b, R a b → ¬R b a)
    {l : List α} (hl : l.Pairwise R) {p : α → Bool} {a : α}
    (h : (l.findSome? fun j => if p j then some j else none) = some a) :
    a ∈ l ∧ p a = true ∧ ∀ k ∈ l, R k a → p k = false := by
  obtain ⟨l₁, b, l₂, rfl, hb, hbefore⟩ := List.findSome?_eq_some_iff.mp h
  have hba : b = a := by
    split at hb
    · exact Option.some.inj hb
    · cases hb
  subst hba
  refine ⟨by simp, ?_, ?_⟩
  · split at hb
    · assumption
    · cases hb
  · intro k hk hkb
    rw [List.pairwise_append, List.pairwise_cons] at hl
    rcases List.mem_append.mp hk with hk₁ | hk₂
    · have := hbefore k hk₁
      split at this
      · cases this
      · simpa using ‹¬p k = true›
    · rcases List.mem_cons.mp hk₂ with rfl | hk₂
      · exact absurd hkb (fun h => hR _ _ h h)
      · exact absurd (hl.2.1.1 k hk₂) (hR _ _ hkb)

theorem findSome?_guard_eq_none {α : Type} {l : List α} {p : α → Bool}
    (h : (l.findSome? fun j => if p j then some j else none) = none) : ∀ k ∈ l, p k = false := by
  intro k hk
  have := List.findSome?_eq_none_iff.mp h k hk
  split at this
  · cases this
  · simpa using ‹¬p k = true›

theorem pairwise_take_finRange (n i : Nat) : ((List.finRange n).take i).reverse.Pairwise (· > ·) :=
  List.pairwise_reverse.mpr ((List.pairwise_lt_finRange n).sublist (List.take_sublist _ _))

theorem pairwise_drop_finRange (n i : Nat) : ((List.finRange n).drop i).Pairwise (· < ·) :=
  (List.pairwise_lt_finRange n).sublist (List.drop_sublist _ _)

theorem nextIn_spec {it : ClosestBucketsIter} {i j : BucketIndex} (h : it.nextIn i = some j) :
    j < i ∧ it.bit j = true ∧ ∀ k : BucketIndex, j < k → k < i → it.bit k = false := by
  obtain ⟨hmem, hbit, hbefore⟩ := findSome?_guard_spec (fun a b hab hba => lt_asymm hab hba)
    (pairwise_take_finRange numBuckets i) h
  have hji : j < i := Fin.lt_def.mpr (mem_take_finRange.mp (List.mem_reverse.mp hmem))
  refine ⟨hji, hbit, fun k hjk hki => hbefore k ?_ hjk⟩
  exact List.mem_reverse.mpr (mem_take_finRange.mpr (Fin.lt_def.mp hki))

theorem nextIn_eq_none_spec {it : ClosestBucketsIter} {i : BucketIndex} (h : it.nextIn i = none) :
    ∀ k : BucketIndex, k < i → it.bit k = false := fun k hk =>
  findSome?_guard_eq_none h k (List.mem_reverse.mpr (mem_take_finRange.mpr (Fin.lt_def.mp hk)))

theorem nextOut_spec {it : ClosestBucketsIter} {i j : BucketIndex} (h : it.nextOut i = some j) :
    i < j ∧ it.bit j = false ∧ ∀ k : BucketIndex, i < k → k < j → it.bit k = true := by
  obtain ⟨hmem, hbit, hbefore⟩ := findSome?_guard_spec (fun a b hab hba => lt_asymm hab hba)
    (pairwise_drop_finRange numBuckets (i.val + 1)) h
  have hij : i < j := Fin.lt_def.mpr (by have := mem_drop_finRange.mp hmem; omega)
  refine ⟨hij, by simpa using hbit, fun k hik hkj => ?_⟩
  have := hbefore k (mem_drop_finRange.mpr (Fin.lt_def.mp hik)) hkj
  simpa using this

theorem nextOut_eq_none_spec {it : ClosestBucketsIter} {i : BucketIndex}
    (h : it.nextOut i = none) : ∀ k : BucketIndex, i < k → it.bit k = true := fun k hk => by
  have := findSome?_guard_eq_none h k (mem_drop_finRange.mpr (Fin.lt_def.mp hk))
  simpa using this

theorem toList_of_next_some {it it' : ClosestBucketsIter} {i : BucketIndex}
    (h : it.next = (some i, it')) : it.toList = i :: it'.toList := by
  rw [toList]
  split
  · rename_i i' it'' h'
    rw [h, Prod.mk.injEq, Option.some.injEq] at h'
    obtain ⟨rfl, rfl⟩ := h'
    rfl
  · rename_i h'
    rw [h] at h'
    cases h'

theorem toList_of_next_none {it it' : ClosestBucketsIter} (h : it.next = (none, it')) :
    it.toList = [] := by
  rw [toList]
  split
  · rename_i h'
    rw [h] at h'
    cases h'
  · rfl

theorem toList_zoomOut (d : Distance) (i : BucketIndex) :
    (mk d (.zoomOut i)).toList.Pairwise (· < ·) ∧
      ∀ k, k ∈ (mk d (.zoomOut i)).toList ↔ i < k ∧ d.val.getLsbD k = false := by
  cases hout : nextOut ⟨d, .zoomOut i⟩ i with
  | none =>
      rw [toList_of_next_none (show next ⟨d, .zoomOut i⟩ = (none, ⟨d, .done⟩) by simp [next, hout])]
      have hall := nextOut_eq_none_spec hout
      refine ⟨List.Pairwise.nil, fun k => ⟨fun h => absurd h List.not_mem_nil, fun h => ?_⟩⟩
      obtain ⟨hik, hk⟩ := h
      have := hall k hik
      simp only [bit] at this
      rw [hk] at this
      cases this
  | some j =>
      rw [toList_of_next_some (show next ⟨d, .zoomOut i⟩ = (some j, ⟨d, .zoomOut j⟩) by simp [next, hout])]
      obtain ⟨hij, hj, hbetween⟩ := nextOut_spec hout
      obtain ⟨ihsorted, ihmem⟩ := toList_zoomOut d j
      refine ⟨List.pairwise_cons.mpr ⟨fun k hk => ((ihmem k).mp hk).1, ihsorted⟩, fun k => ?_⟩
      rw [List.mem_cons, ihmem]
      constructor
      · rintro (rfl | ⟨hjk, hk⟩)
        · exact ⟨hij, hj⟩
        · exact ⟨lt_trans hij hjk, hk⟩
      · rintro ⟨hik, hk⟩
        rcases lt_trichotomy k j with hkj | rfl | hjk
        · have := hbetween k hik hkj
          simp only [bit] at this
          rw [hk] at this
          cases this
        · exact Or.inl rfl
        · exact Or.inr ⟨hjk, hk⟩
termination_by numBuckets - i.val
decreasing_by
  have := Fin.lt_def.mp (nextOut_spec hout).1
  have := j.isLt
  omega

theorem toList_zoomIn (d : Distance) (i : BucketIndex) :
    ∃ L, (mk d (.zoomIn i)).toList = L ++ 0 :: (mk d (.zoomOut 0)).toList ∧
      L.Pairwise (· > ·) ∧ ∀ k, k ∈ L ↔ k < i ∧ d.val.getLsbD k = true := by
  cases hin : nextIn ⟨d, .zoomIn i⟩ i with
  | none =>
      rw [toList_of_next_some (show next ⟨d, .zoomIn i⟩ = (some 0, ⟨d, .zoomOut 0⟩) by simp [next, hin])]
      have hall := nextIn_eq_none_spec hin
      refine ⟨[], rfl, List.Pairwise.nil, fun k => ⟨fun h => absurd h List.not_mem_nil, fun h => ?_⟩⟩
      obtain ⟨hki, hk⟩ := h
      have := hall k hki
      simp only [bit] at this
      rw [hk] at this
      cases this
  | some j =>
      rw [toList_of_next_some (show next ⟨d, .zoomIn i⟩ = (some j, ⟨d, .zoomIn j⟩) by simp [next, hin])]
      obtain ⟨hji, hj, hbetween⟩ := nextIn_spec hin
      obtain ⟨L, hL, ihsorted, ihmem⟩ := toList_zoomIn d j
      refine ⟨j :: L, by rw [hL]; rfl,
        List.pairwise_cons.mpr ⟨fun k hk => ((ihmem k).mp hk).1, ihsorted⟩, fun k => ?_⟩
      rw [List.mem_cons, ihmem]
      constructor
      · rintro (rfl | ⟨hkj, hk⟩)
        · exact ⟨hji, hj⟩
        · exact ⟨lt_trans hkj hji, hk⟩
      · rintro ⟨hki, hk⟩
        rcases lt_trichotomy k j with hkj | rfl | hjk
        · exact Or.inr ⟨hkj, hk⟩
        · exact Or.inl rfl
        · have := hbetween k hjk hki
          simp only [bit] at this
          rw [hk] at this
          cases this
termination_by i.val
decreasing_by exact Fin.lt_def.mp (nextIn_spec hin).1

theorem toList_new (d : Distance) :
    ∃ (s : BucketIndex) (L R : List BucketIndex), (new d).toList = s :: (L ++ 0 :: R) ∧
      (d.val.toNat = 0 → s = 0) ∧ (d.val.toNat ≠ 0 → s.val = d.val.toNat.log2) ∧
      L.Pairwise (· > ·) ∧ (∀ k, k ∈ L ↔ k < s ∧ d.val.getLsbD k = true) ∧
      R.Pairwise (· < ·) ∧ (∀ k, k ∈ R ↔ 0 < k ∧ d.val.getLsbD k = false) := by
  obtain ⟨s, hnew, hzero, hlog⟩ : ∃ s : BucketIndex, new d = ⟨d, .start s⟩ ∧
      (d.val.toNat = 0 → s = 0) ∧ (d.val.toNat ≠ 0 → s.val = d.val.toNat.log2) := by
    cases hb : BucketIndex.new d with
    | some i =>
        obtain ⟨h0, hi⟩ := (BucketIndex.new_eq_some_iff d i).mp hb
        exact ⟨i, by simp [new, hb], fun h => absurd h h0, fun _ => hi.symm⟩
    | none =>
        have h0 := (BucketIndex.new_eq_none_iff d).mp hb
        exact ⟨0, by simp [new, hb], fun _ => rfl, fun h => absurd h0 h⟩
  obtain ⟨L, hL, hLsorted, hLmem⟩ := toList_zoomIn d s
  obtain ⟨hRsorted, hRmem⟩ := toList_zoomOut d 0
  refine ⟨s, L, (mk d (.zoomOut 0)).toList, ?_, hzero, hlog, hLsorted, hLmem, hRsorted, hRmem⟩
  rw [hnew, toList_of_next_some (show next ⟨d, .start s⟩ = (some s, ⟨d, .zoomIn s⟩) from rfl), hL]

/-- Bucket `i` is visited before bucket `j` in a walk for the distance `d` from the local key to
the target: only bucket `0` may come twice, and distinct buckets come in the order
`XorDistance.Precedes`. -/
def VisitOrder (d : Distance) (i j : BucketIndex) : Prop :=
  (i = j → i = 0) ∧ (i ≠ j → XorDistance.Precedes d.val.toNat i j)

theorem visitOrder_of_gt {d : Distance} {i j : BucketIndex} (hji : j < i)
    (hi : d.val.getLsbD i = true) : VisitOrder d i j := by
  refine ⟨fun h => absurd hji (by rw [h]; exact lt_irrefl _), fun _ => ?_⟩
  rw [XorDistance.Precedes, if_pos (Fin.lt_def.mp hji)]
  exact hi

theorem visitOrder_of_lt {d : Distance} {i j : BucketIndex} (hij : i < j)
    (hj : d.val.getLsbD j = false) : VisitOrder d i j := by
  refine ⟨fun h => absurd hij (by rw [h]; exact lt_irrefl _), fun _ => ?_⟩
  rw [XorDistance.Precedes, if_neg (by have := Fin.lt_def.mp hij; omega)]
  exact hj

theorem visitOrder_zero (d : Distance) : VisitOrder d 0 0 :=
  ⟨fun _ => rfl, fun h => absurd rfl h⟩

theorem visitOrder_of_set_of_clear {d : Distance} {i j : BucketIndex}
    (hi : d.val.getLsbD i = true) (hj : d.val.getLsbD j = false) : VisitOrder d i j := by
  rcases lt_trichotomy i j with hij | rfl | hji
  · exact visitOrder_of_lt hij hj
  · rw [hi] at hj
    cases hj
  · exact visitOrder_of_gt hji hi

theorem getLsbD_of_start {d : Distance} {s : BucketIndex} (hzero : d.val.toNat = 0 → s = 0)
    (hlog : d.val.toNat ≠ 0 → s.val = d.val.toNat.log2) (hs : s ≠ 0) : d.val.getLsbD s = true := by
  have h0 : d.val.toNat ≠ 0 := fun h => hs (hzero h)
  rw [BitVec.getLsbD, hlog h0]
  exact Nat.testBit_log2 h0

theorem pairwise_visitOrder (d : Distance) : (new d).toList.Pairwise (VisitOrder d) := by
  obtain ⟨s, L, R, hwalk, hzero, hlog, hLsorted, hLmem, hRsorted, hRmem⟩ := toList_new d
  have hs : s ≠ 0 → d.val.getLsbD s = true := getLsbD_of_start hzero hlog
  rw [hwalk, List.pairwise_cons, List.pairwise_append, List.pairwise_cons]
  refine ⟨?_, ?_, ⟨?_, ?_⟩, ?_⟩
  · intro k hk
    rcases List.mem_append.mp hk with hkL | hk0R
    · have hks := ((hLmem k).mp hkL).1
      exact visitOrder_of_gt hks (hs (Fin.ne_of_gt (lt_of_le_of_lt (Fin.zero_le k) hks)))
    · rcases List.mem_cons.mp hk0R with rfl | hkR
      · by_cases hs0 : s = 0
        · rw [hs0]
          exact visitOrder_zero d
        · exact visitOrder_of_gt (Fin.pos_iff_ne_zero.mpr hs0) (hs hs0)
      · obtain ⟨hk0, hkbit⟩ := (hRmem k).mp hkR
        by_cases hs0 : s = 0
        · rw [hs0]
          exact visitOrder_of_lt hk0 hkbit
        · exact visitOrder_of_set_of_clear (hs hs0) hkbit
  · exact hLsorted.imp_of_mem fun ha _ hab => visitOrder_of_gt hab ((hLmem _).mp ha).2
  · intro k hk
    exact visitOrder_of_lt ((hRmem k).mp hk).1 ((hRmem k).mp hk).2
  · exact hRsorted.imp_of_mem fun _ hb hab => visitOrder_of_lt hab ((hRmem _).mp hb).2
  · intro a ha b hb
    have haset := ((hLmem a).mp ha).2
    rcases List.mem_cons.mp hb with rfl | hbR
    · by_cases ha0 : a = 0
      · rw [ha0]
        exact visitOrder_zero d
      · exact visitOrder_of_gt (Fin.pos_iff_ne_zero.mpr ha0) haset
    · exact visitOrder_of_set_of_clear haset ((hRmem b).mp hbR).2

theorem mem_toList_new (d : Distance) (b : BucketIndex) : b ∈ (new d).toList := by
  obtain ⟨s, L, R, hwalk, hzero, hlog, -, hLmem, -, hRmem⟩ := toList_new d
  rw [hwalk, List.mem_cons, List.mem_append, List.mem_cons, hLmem, hRmem]
  by_cases hb0 : b = 0
  · exact Or.inr (Or.inr (Or.inl hb0))
  cases hbit : d.val.getLsbD b with
  | false => exact Or.inr (Or.inr (Or.inr ⟨Fin.pos_iff_ne_zero.mpr hb0, rfl⟩))
  | true =>
      have h0 : d.val.toNat ≠ 0 := by
        intro h
        rw [BitVec.getLsbD, h, Nat.zero_testBit] at hbit
        cases hbit
      have hbs : b.val ≤ s.val := by
        rw [hlog h0]
        by_contra hlt
        have := XorDistance.testBit_eq_false_of_log2_lt (x := d.val.toNat) (k := b.val) (by omega)
        rw [BitVec.getLsbD] at hbit
        rw [hbit] at this
        cases this
      rcases Nat.lt_or_eq_of_le hbs with hlt | heq
      · exact Or.inr (Or.inl ⟨Fin.lt_def.mpr hlt, rfl⟩)
      · exact Or.inl (Fin.ext heq)

theorem nodup_filter_toList_new (d : Distance) : ((new d).toList.filter (· ≠ 0)).Nodup := by
  apply ((pairwise_visitOrder d).filter _).imp_of_mem
  intro a b ha _ hab heq
  have ha0 : a ≠ 0 := by simpa using List.of_mem_filter ha
  exact ha0 (hab.1 heq)

theorem count_zero_toList_new_le (d : Distance) : (new d).toList.count 0 ≤ 2 := by
  obtain ⟨s, L, R, hwalk, -, -, hLsorted, hLmem, -, hRmem⟩ := toList_new d
  have hR : R.count 0 = 0 :=
    List.count_eq_zero.mpr fun h => absurd ((hRmem 0).mp h).1 (lt_irrefl 0)
  have hL : L.count 0 ≤ 1 := List.nodup_iff_count_le_one.mp (hLsorted.imp ne_of_gt) 0
  have hs : s = 0 → L.count 0 = 0 := fun hs0 =>
    List.count_eq_zero.mpr fun h => absurd ((hLmem 0).mp h).1 (by rw [hs0]; exact lt_irrefl 0)
  rw [hwalk, List.count_cons, List.count_append, List.count_cons, hR]
  by_cases hs0 : s = 0
  · simp [hs0, hs hs0]
  · simp [hs0]
    omega

theorem length_toList_new_le (d : Distance) : (new d).toList.length ≤ 257 := by
  have hzero := count_zero_toList_new_le d
  have hother : ((new d).toList.filter (· ≠ 0)).length ≤ 255 := by
    have hsub : ((new d).toList.filter (· ≠ 0)).toFinset ⊆ Finset.univ.erase 0 := by
      intro b hb
      simp only [List.mem_toFinset, List.mem_filter, decide_eq_true_eq] at hb
      simpa using hb.2
    have hcard := Finset.card_le_card hsub
    rw [List.toFinset_card_of_nodup (nodup_filter_toList_new d)] at hcard
    simpa [numBuckets] using hcard
  have hsplit := List.length_eq_length_filter_add (fun b : BucketIndex => decide (b = 0))
    (l := (new d).toList)
  simp only [List.count_eq_countP, List.countP_eq_length_filter, beq_eq_decide] at hzero
  simp only [ne_eq, decide_not] at hother
  omega

end ClosestBucketsIter

theorem xor_xor_cancel_left (l k t : Nat) : (l ^^^ k) ^^^ (l ^^^ t) = t ^^^ k := by
  rw [Nat.xor_comm l k, Nat.xor_assoc, ← Nat.xor_assoc l l t, Nat.xor_self, Nat.zero_xor,
    Nat.xor_comm]

theorem distance_lt_of_visitOrder {localKey target k₁ k₂ : KeyBytes} {i j : BucketIndex}
    (h₁ : BucketIndex.new (localKey.distance k₁) = some i)
    (h₂ : BucketIndex.new (localKey.distance k₂) = some j) (hij : i ≠ j)
    (hvisit : ClosestBucketsIter.VisitOrder (localKey.distance target) i j) :
    target.distance k₁ < target.distance k₂ := by
  obtain ⟨hx, hi⟩ := (BucketIndex.new_eq_some_iff _ i).mp h₁
  obtain ⟨hy, hj⟩ := (BucketIndex.new_eq_some_iff _ j).mp h₂
  have hprec := hvisit.2 hij
  rw [← hi, ← hj] at hprec
  have hne : (localKey.distance k₁).val.toNat.log2 ≠ (localKey.distance k₂).val.toNat.log2 := by
    rw [hi, hj]
    exact fun h => hij (Fin.ext h)
  have hlt := XorDistance.xor_lt_xor_of_precedes hx hy hne hprec
  rw [distance_lt_iff]
  simp only [distance_val_toNat, xor_xor_cancel_left] at hlt
  exact hlt

theorem distance_xor_self_left (localKey : KeyBytes) (d : Distance) :
    localKey.distance ⟨localKey.val ^^^ d.val⟩ = d := by
  simp [KeyBytes.distance]

/-- `ClosestBucketsIter::new(d)` yields at most 257 buckets, every bucket, no bucket other than `0`
twice, and of two distinct buckets the earlier holds only keys closer to the target `local ^ d` than
every key of the later one. -/
theorem closestBucketsIter_walk (d : Distance) :
    (ClosestBucketsIter.new d).toList.length ≤ 257 ∧
    (∀ b : BucketIndex, b ∈ (ClosestBucketsIter.new d).toList) ∧
    (∀ b : BucketIndex, b ≠ 0 → (ClosestBucketsIter.new d).toList.count b ≤ 1) ∧
    ∀ localKey : KeyBytes, (ClosestBucketsIter.new d).toList.Pairwise fun i j => i ≠ j →
      ∀ k₁ k₂ : KeyBytes, BucketIndex.new (localKey.distance k₁) = some i →
        BucketIndex.new (localKey.distance k₂) = some j →
        KeyBytes.distance ⟨localKey.val ^^^ d.val⟩ k₁ < KeyBytes.distance ⟨localKey.val ^^^ d.val⟩ k₂ := by
  refine ⟨ClosestBucketsIter.length_toList_new_le d, ClosestBucketsIter.mem_toList_new d,
    fun b hb => ?_, fun localKey => ?_⟩
  · have hcount := List.nodup_iff_count_le_one.mp (ClosestBucketsIter.nodup_filter_toList_new d) b
    rwa [List.count_filter (by simpa using hb)] at hcount
  · refine (ClosestBucketsIter.pairwise_visitOrder d).imp fun hvisit hij k₁ k₂ h₁ h₂ => ?_
    rw [← distance_xor_self_left localKey d] at hvisit
    exact distance_lt_of_visitOrder h₁ h₂ hij hvisit

end Litep2p.Kademlia
