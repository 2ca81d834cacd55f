import Litep2p.Kademlia.Types

/-!
# K-buckets

`protocol/libp2p/kademlia/bucket.rs`. A bucket is a vector of at most twenty peers. `KBucket::entry`
hands out a mutable reference into it; the model returns the position that reference points to,
together with the bucket, which `entry` itself may have grown by a placeholder peer. The
placeholder's id is `PeerId::random()`, an input of the model.
-/

namespace Litep2p.Kademlia

variable {P A : Type}

/-- `KBucketEntry`. The `&mut KademliaPeer` of `Occupied` and `Vacant` is modelled by the address
of the peer it points to: a position in a bucket, or a bucket and a position in the table. -/
inductive KBucketEntry (ρ : Type) where
  | localNode
  | occupied (slot : ρ)
  | vacant (slot : ρ)
  | noSlot
  deriving DecidableEq, Repr

def KBucketEntry.map {ρ σ : Type} (f : ρ → σ) : KBucketEntry ρ → KBucketEntry σ
  | .localNode => .localNode
  | .occupied slot => .occupied (f slot)
  | .vacant slot => .vacant (f slot)
  | .noSlot => .noSlot

structure KBucket (P A : Type) where
  nodes : List (KademliaPeer P A)

def KBucket.new : KBucket P A := ⟨[]⟩

def ConnectionType.isEvictable : ConnectionType → Bool
  | .notConnected | .cannotConnect => true
  | _ => false

/-- `KBucket::entry`: the first peer with `key`; else, below twenty peers, a placeholder pushed
at the end; else the first evictable peer; else no slot. -/
def KBucket.entry (x : Externals P A) (b : KBucket P A) (key : KeyBytes) (random : P) :
    KBucket P A × KBucketEntry Nat :=
  match b.nodes.findIdx? (fun n => n.key == key) with
  | some i => (b, .occupied i)
  | none =>
    if b.nodes.length < 20 then
      (⟨b.nodes ++ [KademliaPeer.new x random [] .notConnected]⟩, .vacant b.nodes.length)
    else
      match b.nodes.findIdx? (fun n => n.connection.isEvictable) with
      | some i => (b, .vacant i)
      | none => (b, .noSlot)

/-- The assignments of `KBucketEntry::insert` to the peer at position `i`. -/
def KBucket.insertAt (x : Externals P A) (b : KBucket P A) (i : Nat) (new : KademliaPeer P A) :
    KBucket P A :=
  ⟨b.nodes.modify i fun old =>
    { old with peer := new.peer, key := x.keyOf new.peer, addresses := new.addresses,
               connection := new.connection }⟩

/-- `KBucket::closest_iter`: the bucket sorted by distance to `target` with the stable sort of
`sort_by`, then the peers without addresses dropped. -/
def KBucket.closestIter (b : KBucket P A) (target : KeyBytes) : List (KademliaPeer P A) :=
  (b.nodes.mergeSort fun a c => decide (target.distance a.key ≤ target.distance c.key)).filter
    fun peer => !peer.addresses.isEmpty

def KademliaPeer.HasAddresses (peer : KademliaPeer P A) : Prop := peer.addresses ≠ []

instance (peer : KademliaPeer P A) : Decidable peer.HasAddresses :=
  inferInstanceAs (Decidable (peer.addresses ≠ []))

theorem KBucket.entry_cases (x : Externals P A) (b : KBucket P A) (key : KeyBytes) (random : P) :
    (∃ i, ∃ h : i < b.nodes.length, b.nodes[i].key = key ∧
        (∀ n ∈ b.nodes.take i, n.key ≠ key) ∧ b.entry x key random = (b, .occupied i)) ∨
    ((∀ n ∈ b.nodes, n.key ≠ key) ∧ b.nodes.length < 20 ∧
        b.entry x key random =
          (⟨b.nodes ++ [KademliaPeer.new x random [] .notConnected]⟩, .vacant b.nodes.length)) ∨
    ((∀ n ∈ b.nodes, n.key ≠ key) ∧ 20 ≤ b.nodes.length ∧
        ∃ i, ∃ h : i < b.nodes.length, b.nodes[i].connection.isEvictable = true ∧
          (∀ n ∈ b.nodes.take i, n.connection.isEvictable = false) ∧
          b.entry x key random = (b, .vacant i)) ∨
    ((∀ n ∈ b.nodes, n.key ≠ key) ∧ 20 ≤ b.nodes.length ∧
        (∀ n ∈ b.nodes, n.connection.isEvictable = false) ∧ b.entry x key random = (b, .noSlot)) := by
  unfold KBucket.entry
  cases hfind : b.nodes.findIdx? (fun n => n.key == key) with
  | some i =>
      obtain ⟨h, hkey, hbefore⟩ := List.findIdx?_eq_some_iff_getElem.mp hfind
      refine Or.inl ⟨i, h, by simpa using hkey, fun n hn => ?_, rfl⟩
      obtain ⟨j, hj, rfl⟩ := List.mem_take_iff_getElem.mp hn
      simpa using hbefore j (by omega)
  | none =>
      have habsent : ∀ n ∈ b.nodes, n.key ≠ key := fun n hn => by
        simpa using List.findIdx?_eq_none_iff.mp hfind n hn
      by_cases hlen : b.nodes.length < 20
      · exact Or.inr (Or.inl ⟨habsent, hlen, by simp [hlen]⟩)
      · cases hevict : b.nodes.findIdx? (fun n => n.connection.isEvictable) with
        | some i =>
            obtain ⟨h, hev, hbefore⟩ := List.findIdx?_eq_some_iff_getElem.mp hevict
            refine Or.inr (Or.inr (Or.inl ⟨habsent, by omega, i, h, hev, fun n hn => ?_, by simp [hlen]⟩))
            obtain ⟨j, hj, rfl⟩ := List.mem_take_iff_getElem.mp hn
            simpa using hbefore j (by omega)
        | none =>
            exact Or.inr (Or.inr (Or.inr ⟨habsent, by omega,
              List.findIdx?_eq_none_iff.mp hevict, by simp [hlen]⟩))

theorem KBucket.mem_closestIter {b : KBucket P A} {target : KeyBytes} {peer : KademliaPeer P A} :
    peer ∈ b.closestIter target ↔ peer ∈ b.nodes ∧ peer.HasAddresses := by
  simp [KBucket.closestIter, KademliaPeer.HasAddresses]

theorem KBucket.closestIter_perm (b : KBucket P A) (target : KeyBytes) :
    (b.closestIter target).Perm (b.nodes.filter fun peer => decide peer.HasAddresses) := by
  unfold KBucket.closestIter
  have hfilter : (fun peer : KademliaPeer P A => !peer.addresses.isEmpty) =
      fun peer => decide peer.HasAddresses := by
    funext peer
    cases h : peer.addresses <;> simp [KademliaPeer.HasAddresses, h]
  rw [hfilter]
  exact (List.mergeSort_perm _ _).filter _

theorem KBucket.closerTo_trans (target : KeyBytes) (a b c : KademliaPeer P A)
    (hab : decide (target.distance a.key ≤ target.distance b.key) = true)
    (hbc : decide (target.distance b.key ≤ target.distance c.key) = true) :
    decide (target.distance a.key ≤ target.distance c.key) = true := by
  simp only [decide_eq_true_eq] at hab hbc ⊢
  exact Nat.le_trans hab hbc

theorem KBucket.closerTo_total (target : KeyBytes) (a b : KademliaPeer P A) :
    (decide (target.distance a.key ≤ target.distance b.key) ||
      decide (target.distance b.key ≤ target.distance a.key)) = true := by
  simp only [Bool.or_eq_true, decide_eq_true_eq]
  exact Nat.le_total _ _

theorem KBucket.closestIter_sorted (b : KBucket P A) (target : KeyBytes) :
    (b.closestIter target).Pairwise fun a c => target.distance a.key ≤ target.distance c.key := by
  unfold KBucket.closestIter
  apply List.Pairwise.filter
  have h : (b.nodes.mergeSort fun a c => decide (target.distance a.key ≤ target.distance c.key)).Pairwise
      fun a c => decide (target.distance a.key ≤ target.distance c.key) :=
    List.pairwise_mergeSort (KBucket.closerTo_trans target) (KBucket.closerTo_total target) b.nodes
  simpa using h

end Litep2p.Kademlia
