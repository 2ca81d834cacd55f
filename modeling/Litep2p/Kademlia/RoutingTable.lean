import Litep2p.Kademlia.Bucket

/-!
# The routing table

`protocol/libp2p/kademlia/routing_table.rs`: 256 k-buckets around the local key, bucket `i`
holding the keys whose distance to the local key has `ilog2` equal to `i`. `closest` walks the
buckets in the order of `ClosestBucketsIter` and cuts the concatenation of their sorted contents
at `limit`. The iterator is the source's state machine; `ClosestBucketsIter.toList` is the
sequence it yields until it returns `None`.
-/

namespace Litep2p.Kademlia

variable {P A : Type}

def numBuckets : Nat := 256

instance : NeZero numBuckets := ⟨by simp [numBuckets]⟩

abbrev BucketIndex := Fin numBuckets

theorem ilog2_lt_numBuckets {d : Distance} {i : Nat} (h : d.ilog2 = some i) : i < numBuckets := by
  obtain ⟨h0, rfl⟩ := (ilog2_eq_some_iff d i).mp h
  exact (Nat.log2_lt h0).2 d.val.isLt

def BucketIndex.new (d : Distance) : Option BucketIndex :=
  match h : d.ilog2 with
  | some i => some ⟨i, ilog2_lt_numBuckets h⟩
  | none => none

theorem BucketIndex.new_eq_some_iff (d : Distance) (i : BucketIndex) :
    BucketIndex.new d = some i ↔ d.val.toNat ≠ 0 ∧ d.val.toNat.log2 = i.val := by
  rw [← ilog2_eq_some_iff]
  unfold BucketIndex.new
  split
  · rename_i j hj
    simp only [hj, Option.some.injEq]
    exact ⟨fun h => by rw [← h], fun h => Fin.ext h⟩
  · rename_i hj
    simp [hj]

theorem BucketIndex.new_eq_none_iff (d : Distance) :
    BucketIndex.new d = none ↔ d.val.toNat = 0 := by
  rw [← ilog2_eq_none_iff]
  unfold BucketIndex.new
  split
  · rename_i j hj
    simp [hj]
  · rename_i hj
    simp [hj]

structure RoutingTable (P A : Type) where
  localKey : KeyBytes
  buckets : BucketIndex → KBucket P A

def RoutingTable.new (localKey : KeyBytes) : RoutingTable P A :=
  ⟨localKey, fun _ => KBucket.new⟩

/-- The address of a peer in the table: its bucket and its position there. -/
structure Slot where
  bucket : BucketIndex
  index : Nat
  deriving DecidableEq, Repr

namespace RoutingTable

def setBucket (t : RoutingTable P A) (i : BucketIndex) (b : KBucket P A) : RoutingTable P A :=
  { t with buckets := Function.update t.buckets i b }

@[simp] theorem setBucket_localKey (t : RoutingTable P A) (i : BucketIndex) (b : KBucket P A) :
    (t.setBucket i b).localKey = t.localKey := rfl

theorem setBucket_buckets (t : RoutingTable P A) (i j : BucketIndex) (b : KBucket P A) :
    (t.setBucket i b).buckets j = if j = i then b else t.buckets j :=
  Function.update_apply t.buckets i b j

@[simp] theorem setBucket_buckets_self (t : RoutingTable P A) (i : BucketIndex) (b : KBucket P A) :
    (t.setBucket i b).buckets i = b := by
  simp [setBucket]

@[simp] theorem setBucket_buckets_of_ne (t : RoutingTable P A) {i j : BucketIndex} (b : KBucket P A)
    (h : j ≠ i) : (t.setBucket i b).buckets j = t.buckets j := by
  simp [setBucket, h]

@[simp] theorem setBucket_self (t : RoutingTable P A) (i : BucketIndex) : t.setBucket i (t.buckets i) = t := by
  simp [setBucket]

@[simp] theorem setBucket_setBucket (t : RoutingTable P A) (i : BucketIndex) (b b' : KBucket P A) :
    (t.setBucket i b).setBucket i b' = t.setBucket i b' := by
  simp [setBucket]

def peerAt? (t : RoutingTable P A) (s : Slot) : Option (KademliaPeer P A) :=
  (t.buckets s.bucket).nodes[s.index]?

def modifyPeer (t : RoutingTable P A) (s : Slot) (f : KademliaPeer P A → KademliaPeer P A) :
    RoutingTable P A :=
  t.setBucket s.bucket ⟨(t.buckets s.bucket).nodes.modify s.index f⟩

def entry (x : Externals P A) (t : RoutingTable P A) (key : KeyBytes) (random : P) :
    RoutingTable P A × KBucketEntry Slot :=
  match BucketIndex.new (t.localKey.distance key) with
  | none => (t, .localNode)
  | some index =>
    let (bucket, e) := (t.buckets index).entry x key random
    (t.setBucket index bucket, e.map (Slot.mk index))

theorem entry_of_none (x : Externals P A) (t : RoutingTable P A) {key : KeyBytes} (random : P)
    (h : BucketIndex.new (t.localKey.distance key) = none) : t.entry x key random = (t, .localNode) := by
  simp [entry, h]

theorem entry_of_some (x : Externals P A) (t : RoutingTable P A) {key : KeyBytes} (random : P)
    {b : BucketIndex} (h : BucketIndex.new (t.localKey.distance key) = some b) :
    t.entry x key random = (t.setBucket b ((t.buckets b).entry x key random).1,
      ((t.buckets b).entry x key random).2.map (Slot.mk b)) := by
  simp [entry, h]

/-- `KBucketEntry::insert`: only a `Vacant` entry is written. -/
def insert (x : Externals P A) (t : RoutingTable P A) (e : KBucketEntry Slot)
    (new : KademliaPeer P A) : RoutingTable P A :=
  match e with
  | .vacant s => t.setBucket s.bucket ((t.buckets s.bucket).insertAt x s.index new)
  | _ => t

def addKnownPeer (x : Externals P A) (t : RoutingTable P A) (peer : P) (addresses : List A)
    (connection : ConnectionType) (random : P) : RoutingTable P A :=
  let addresses := addresses.filterMap fun address =>
    if x.endsWithP2p address then some address else x.withP2p address peer
  if addresses.isEmpty then t
  else
    match t.entry x (x.keyOf peer) random with
    | (t', .occupied s) => t'.modifyPeer s fun entry => { entry with addresses, connection }
    | (t', e@(.vacant _)) => t'.insert x e (KademliaPeer.new x peer addresses connection)
    | (t', .localNode) => t'
    | (t', .noSlot) => t'

end RoutingTable

inductive ClosestBucketsIterState where
  | start (i : BucketIndex)
  | zoomIn (i : BucketIndex)
  | zoomOut (i : BucketIndex)
  | done
  deriving DecidableEq, Repr

structure ClosestBucketsIter where
  distance : Distance
  state : ClosestBucketsIterState

namespace ClosestBucketsIter

def new (distance : Distance) : ClosestBucketsIter :=
  { distance
    state := match BucketIndex.new distance with
      | some i => .start i
      | none => .start 0 }

def bit (it : ClosestBucketsIter) (i : BucketIndex) : Bool := it.distance.val.getLsbD i

def nextIn (it : ClosestBucketsIter) (i : BucketIndex) : Option BucketIndex :=
  ((List.finRange numBuckets).take i).reverse.findSome? fun j => if it.bit j then some j else none

def nextOut (it : ClosestBucketsIter) (i : BucketIndex) : Option BucketIndex :=
  ((List.finRange numBuckets).drop (i.val + 1)).findSome? fun j =>
    if !it.bit j then some j else none

def next (it : ClosestBucketsIter) : Option BucketIndex × ClosestBucketsIter :=
  match it.state with
  | .start i => (some i, { it with state := .zoomIn i })
  | .zoomIn i =>
    match it.nextIn i with
    | some j => (some j, { it with state := .zoomIn j })
    | none => (some 0, { it with state := .zoomOut 0 })
  | .zoomOut i =>
    match it.nextOut i with
    | some j => (some j, { it with state := .zoomOut j })
    | none => (none, { it with state := .done })
  | .done => (none, it)

theorem nextIn_lt {it : ClosestBucketsIter} {i j : BucketIndex} (h : it.nextIn i = some j) :
    j < i := by
  obtain ⟨l₁, a, l₂, hl, ha, -⟩ := List.findSome?_eq_some_iff.mp h
  have hmem : a ∈ (List.finRange numBuckets).take i := by
    rw [← List.mem_reverse, hl]
    simp
  have hj : a = j := by
    split at ha
    · exact Option.some.inj ha
    · cases ha
  subst hj
  obtain ⟨k, hk, hget⟩ := List.mem_iff_getElem.mp hmem
  rw [List.getElem_take, List.getElem_finRange] at hget
  rw [List.length_take, List.length_finRange] at hk
  rw [← hget]
  exact Fin.mk_lt_of_lt_val (by simp; omega)

theorem lt_nextOut {it : ClosestBucketsIter} {i j : BucketIndex} (h : it.nextOut i = some j) :
    i < j := by
  obtain ⟨l₁, a, l₂, hl, ha, -⟩ := List.findSome?_eq_some_iff.mp h
  have hmem : a ∈ (List.finRange numBuckets).drop (i.val + 1) := by
    rw [hl]
    simp
  have hj : a = j := by
    split at ha
    · exact Option.some.inj ha
    · cases ha
  subst hj
  obtain ⟨k, hk, hget⟩ := List.mem_iff_getElem.mp hmem
  rw [List.getElem_drop, List.getElem_finRange] at hget
  rw [← hget]
  exact Fin.lt_def.mpr (by simp; omega)

/-- A bound on the number of items the iterator still yields. -/
def measure : ClosestBucketsIterState → Nat
  | .start _ => 2 * numBuckets + 1
  | .zoomIn i => numBuckets + i + 1
  | .zoomOut i => numBuckets - i
  | .done => 0

theorem measure_next_lt {it it' : ClosestBucketsIter} {i : BucketIndex}
    (h : it.next = (some i, it')) : measure it'.state < measure it.state := by
  obtain ⟨distance, state⟩ := it
  cases state with
  | start k =>
      simp only [next, Prod.mk.injEq] at h
      obtain ⟨-, rfl⟩ := h
      have hk := k.isLt
      simp only [measure, numBuckets] at hk ⊢
      omega
  | zoomIn k =>
      simp only [next] at h
      cases hin : nextIn ⟨distance, .zoomIn k⟩ k with
      | some j =>
          rw [hin, Prod.mk.injEq] at h
          obtain ⟨-, rfl⟩ := h
          have hjk := Fin.lt_def.mp (nextIn_lt hin)
          simp only [measure]
          omega
      | none =>
          rw [hin, Prod.mk.injEq] at h
          obtain ⟨-, rfl⟩ := h
          simp only [measure, numBuckets, Fin.val_zero]
          omega
  | zoomOut k =>
      simp only [next] at h
      cases hout : nextOut ⟨distance, .zoomOut k⟩ k with
      | some j =>
          rw [hout, Prod.mk.injEq] at h
          obtain ⟨-, rfl⟩ := h
          have hkj := Fin.lt_def.mp (lt_nextOut hout)
          have hj := j.isLt
          simp only [measure]
          omega
      | none =>
          rw [hout, Prod.mk.injEq] at h
          cases h.1
  | done =>
      simp only [next, Prod.mk.injEq] at h
      cases h.1

-- The match hypothesis is read only by the termination proof, which the linter does not see.
set_option linter.unusedVariables false in
/-- The bucket indices the iterator yields, in order, up to its first `None`. -/
def toList (it : ClosestBucketsIter) : List BucketIndex :=
  match h : it.next with
  | (some i, it') => i :: toList it'
  | (none, _) => []
termination_by measure it.state
decreasing_by exact measure_next_lt h

end ClosestBucketsIter

/-- `RoutingTable::closest`: the buckets in the order of `ClosestBucketsIter`, each sorted by
distance to `target`, concatenated and cut at `limit`. -/
def RoutingTable.closest (t : RoutingTable P A) (target : KeyBytes) (limit : Nat) :
    List (KademliaPeer P A) :=
  ((ClosestBucketsIter.new (t.localKey.distance target)).toList.flatMap fun index =>
    (t.buckets index).closestIter target).take limit

end Litep2p.Kademlia
