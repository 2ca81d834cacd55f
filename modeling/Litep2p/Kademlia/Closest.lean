import Litep2p.Lib.SortedPrefix
import Litep2p.Kademlia.ClosestBuckets
import Litep2p.Kademlia.TableInvariant

/-! `RoutingTable::closest` returns the nearest peers with addresses, in order.
The walk of `ClosestBucketsIter` visits every bucket, and bucket `0` twice; with bucket `0`
holding no peer with addresses, the concatenation of the sorted buckets is a permutation of the
table's peers with addresses (`closestAll_perm`), strictly increasing in distance to the target
(`closestAll_sorted`), so its first `limit` peers are the `limit` nearest ones. -/

namespace Litep2p.Kademlia

variable {P A : Type}

theorem flatMap_filter_ne {α β : Type} [DecidableEq α] (l : List α) (g : α → List β) {a : α}
    (h : g a = []) : (l.filter (· ≠ a)).flatMap g = l.flatMap g := by
  induction l with
  | nil => rfl
  | cons b l ih =>
      rw [List.filter_cons, List.flatMap_cons]
      by_cases hb : b = a
      · subst hb
        rw [if_neg (by simp), h, List.nil_append, ih]
      · rw [if_pos (by simpa using hb), List.flatMap_cons, ih]

namespace RoutingTable

def addressedPeers (t : RoutingTable P A) : List (KademliaPeer P A) :=
  (List.finRange numBuckets).flatMap fun b =>
    (t.buckets b).nodes.filter fun peer => decide peer.HasAddresses

def distanceTo (target : KeyBytes) (peer : KademliaPeer P A) : Nat :=
  (target.distance peer.key).val.toNat

theorem key_eq_of_distanceTo_eq {target : KeyBytes} {p q : KademliaPeer P A}
    (h : distanceTo target p = distanceTo target q) : p.key = q.key :=
  distance_injective target (Distance.mk.injEq _ _ ▸ BitVec.eq_of_toNat_eq h)

def closestAll (t : RoutingTable P A) (target : KeyBytes) : List (KademliaPeer P A) :=
  (ClosestBucketsIter.new (t.localKey.distance target)).toList.flatMap fun index =>
    (t.buckets index).closestIter target

theorem closest_eq_take (t : RoutingTable P A) (target : KeyBytes) (limit : Nat) :
    t.closest target limit = (t.closestAll target).take limit := rfl

section ClosestAll

variable {t : RoutingTable P A} (target : KeyBytes)

theorem closestIter_zero (h0 : ∀ peer ∈ (t.buckets 0).nodes, ¬peer.HasAddresses) :
    (t.buckets 0).closestIter target = [] :=
  List.eq_nil_iff_forall_not_mem.mpr fun _ hp =>
    h0 _ (KBucket.mem_closestIter.mp hp).1 (KBucket.mem_closestIter.mp hp).2

theorem closestAll_perm (h0 : ∀ peer ∈ (t.buckets 0).nodes, ¬peer.HasAddresses) :
    (t.closestAll target).Perm t.addressedPeers := by
  have hg0 := closestIter_zero target h0
  have hwalk : ((ClosestBucketsIter.new (t.localKey.distance target)).toList.filter (· ≠ 0)).Perm
      ((List.finRange numBuckets).filter (· ≠ 0)) := by
    rw [List.perm_ext_iff_of_nodup (ClosestBucketsIter.nodup_filter_toList_new _)
      ((List.nodup_finRange _).filter _)]
    intro b
    simp [ClosestBucketsIter.mem_toList_new]
  unfold closestAll addressedPeers
  rw [← flatMap_filter_ne _ (fun index => (t.buckets index).closestIter target) hg0]
  refine (hwalk.flatMap_right _).trans ?_
  rw [flatMap_filter_ne _ (fun index => (t.buckets index).closestIter target) hg0]
  exact List.Perm.flatMap_left _ fun b _ => KBucket.closestIter_perm _ target

theorem closestIter_strict (ht : t.WellFormed) (b : BucketIndex) :
    ((t.buckets b).closestIter target).Pairwise fun p q => distanceTo target p < distanceTo target q := by
  have hkeys : ((t.buckets b).closestIter target).Pairwise fun p q => p.key ≠ q.key :=
    ((KBucket.closestIter_perm _ target).pairwise_iff fun h => Ne.symm h).mpr
      (ht b).pairwise_key_ne
  apply SortedPrefix.pairwise_lt_of_le_of_ne (KBucket.closestIter_sorted _ target)
  exact hkeys.imp fun hne heq => hne (key_eq_of_distanceTo_eq heq)

theorem closestIter_lt_of_visitOrder (ht : t.WellFormed) {i j : BucketIndex} (hij : i ≠ j)
    (hvisit : ClosestBucketsIter.VisitOrder (t.localKey.distance target) i j)
    {p q : KademliaPeer P A} (hp : p ∈ (t.buckets i).closestIter target)
    (hq : q ∈ (t.buckets j).closestIter target) : distanceTo target p < distanceTo target q := by
  obtain ⟨hpi, hpa⟩ := KBucket.mem_closestIter.mp hp
  obtain ⟨hqj, hqa⟩ := KBucket.mem_closestIter.mp hq
  exact distance_lt_of_visitOrder ((ht i).bucket_of_mem hpi hpa) ((ht j).bucket_of_mem hqj hqa)
    hij hvisit

theorem closestAll_sorted (ht : t.WellFormed)
    (h0 : ∀ peer ∈ (t.buckets 0).nodes, ¬peer.HasAddresses) :
    (t.closestAll target).Pairwise fun p q => distanceTo target p < distanceTo target q := by
  unfold closestAll
  rw [← flatMap_filter_ne _ (fun index => (t.buckets index).closestIter target)
    (closestIter_zero target h0), List.pairwise_flatMap]
  refine ⟨fun b _ => closestIter_strict target ht b, ?_⟩
  refine ((ClosestBucketsIter.pairwise_visitOrder _).filter _).imp_of_mem ?_
  intro i j hi _ hvisit p hp q hq
  have hi0 : i ≠ 0 := by simpa using List.of_mem_filter hi
  exact closestIter_lt_of_visitOrder target ht (fun h => hi0 (hvisit.1 h)) hvisit hp hq

end ClosestAll

theorem mem_addressedPeers {t : RoutingTable P A} {peer : KademliaPeer P A} :
    peer ∈ t.addressedPeers ↔ ∃ b, peer ∈ (t.buckets b).nodes ∧ peer.HasAddresses := by
  simp [addressedPeers]

theorem mem_addressedPeers_of_mem_closest {t : RoutingTable P A} {target : KeyBytes} {limit : Nat}
    {peer : KademliaPeer P A} (h : peer ∈ t.closest target limit) : peer ∈ t.addressedPeers := by
  obtain ⟨b, -, hb⟩ := List.mem_flatMap.mp (List.mem_of_mem_take h)
  exact mem_addressedPeers.mpr ⟨b, KBucket.mem_closestIter.mp hb⟩

theorem isLeastPrefix_closest {t : RoutingTable P A} (hwf : t.WellFormed)
    (h0 : ∀ peer ∈ (t.buckets 0).nodes, ¬peer.HasAddresses) (target : KeyBytes) (limit : Nat) :
    SortedPrefix.IsLeastPrefix (distanceTo target) t.addressedPeers limit (t.closest target limit) := by
  rw [closest_eq_take]
  exact SortedPrefix.isLeastPrefix_take (closestAll_perm target h0)
    (closestAll_sorted target hwf h0) limit

theorem closest_isLeastPrefix {x : Externals P A} {localKey : KeyBytes} {t : RoutingTable P A}
    (ht : t.Reachable x localKey) (h0 : ∀ peer ∈ (t.buckets 0).nodes, ¬peer.HasAddresses)
    (target : KeyBytes) (limit : Nat) :
    SortedPrefix.IsLeastPrefix (distanceTo target) t.addressedPeers limit (t.closest target limit) :=
  isLeastPrefix_closest (wellFormed_of_reachable ht) h0 target limit

/-- Peer `5` added to the table of local key `0` lands in bucket `2`; the query for target `3`
with limit `1` returns it. -/
theorem closest_isLeastPrefix_one_peer :
    ((RoutingTable.new ⟨0⟩).addKnownPeer Externals.numeric 5 [1] .connected 7).Reachable
        Externals.numeric ⟨0⟩ ∧
      (∀ peer ∈ (((RoutingTable.new ⟨0⟩).addKnownPeer Externals.numeric 5 [1] .connected 7).buckets 0).nodes,
        ¬peer.HasAddresses) ∧
      SortedPrefix.IsLeastPrefix (distanceTo ⟨3⟩)
        ((RoutingTable.new ⟨0⟩).addKnownPeer Externals.numeric 5 [1] .connected 7).addressedPeers 1
        (((RoutingTable.new ⟨0⟩).addKnownPeer Externals.numeric 5 [1] .connected 7).closest ⟨3⟩ 1) := by
  have ht : ((RoutingTable.new ⟨0⟩).addKnownPeer Externals.numeric 5 [1] .connected 7).Reachable
      Externals.numeric ⟨0⟩ :=
    (reachable_new _ _).addKnownPeer 5 [1] .connected 7
  have h0 : ∀ peer ∈ (((RoutingTable.new ⟨0⟩).addKnownPeer Externals.numeric 5 [1] .connected 7).buckets
      0).nodes, ¬peer.HasAddresses := by
    decide
  exact ⟨ht, h0, closest_isLeastPrefix ht h0 ⟨3⟩ 1⟩

end RoutingTable

end Litep2p.Kademlia
