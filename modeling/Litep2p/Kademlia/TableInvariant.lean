import Litep2p.Lib.Reachable
import Litep2p.Kademlia.RoutingTable

/-!
# What `add_known_peer` and `entry` keep of the routing table

A bucket is well formed when each of its peers with addresses has a key of that bucket and is the
first peer of the bucket with its key. Placeholders (no addresses, a random key that need not
belong to the bucket) are unconstrained. `RoutingTable::new` is well formed, and a lookup through
`RoutingTable::entry` and `RoutingTable::add_known_peer` keep it so (`WellFormed.apply`), hence
every table reached by those calls is well formed (`wellFormed_of_reachable`).
-/

namespace Litep2p.Kademlia

variable {P A : Type}

/-- Every peer with addresses of bucket `b` has a key of bucket `b` and is the first peer of the
bucket with that key. -/
def BucketWF (localKey : KeyBytes) (b : BucketIndex) (bucket : KBucket P A) : Prop :=
  ∀ j (hj : j < bucket.nodes.length), bucket.nodes[j].HasAddresses →
    BucketIndex.new (localKey.distance bucket.nodes[j].key) = some b ∧
      ∀ i (hi : i < j), bucket.nodes[i].key ≠ bucket.nodes[j].key

def RoutingTable.WellFormed (t : RoutingTable P A) : Prop :=
  ∀ b, BucketWF t.localKey b (t.buckets b)

/-- The calls of the routing table that change it: `RoutingTable::add_known_peer`, and
`RoutingTable::entry`, through which the handlers look a key up and which pushes a placeholder
peer into a bucket with room. -/
inductive TableOp (P A : Type) where
  | addKnownPeer (peer : P) (addresses : List A) (connection : ConnectionType) (random : P)
  | lookup (key : KeyBytes) (random : P)

def RoutingTable.apply (x : Externals P A) (t : RoutingTable P A) : TableOp P A → RoutingTable P A
  | .addKnownPeer peer addresses connection random =>
      t.addKnownPeer x peer addresses connection random
  | .lookup key random => (t.entry x key random).1

def RoutingTable.Reachable (x : Externals P A) (localKey : KeyBytes) (t : RoutingTable P A) : Prop :=
  StepSystem.Reachable (RoutingTable.apply x) (RoutingTable.new localKey) t

namespace RoutingTable

variable {x : Externals P A} {localKey : KeyBytes} {t : RoutingTable P A}

theorem reachable_new (x : Externals P A) (localKey : KeyBytes) :
    (RoutingTable.new localKey : RoutingTable P A).Reachable x localKey :=
  StepSystem.Reachable.refl _

theorem Reachable.addKnownPeer (h : t.Reachable x localKey) (peer : P) (addresses : List A)
    (connection : ConnectionType) (random : P) :
    (t.addKnownPeer x peer addresses connection random).Reachable x localKey :=
  StepSystem.Reachable.tail h (TableOp.addKnownPeer peer addresses connection random)

theorem Reachable.lookup (h : t.Reachable x localKey) (key : KeyBytes) (random : P) :
    (t.entry x key random).1.Reachable x localKey :=
  StepSystem.Reachable.tail h (TableOp.lookup key random)

theorem Reachable.foldl {ι : Type} (h : t.Reachable x localKey) (f : ι → TableOp P A) (l : List ι) :
    (l.foldl (fun t i => t.apply x (f i)) t).Reachable x localKey := by
  induction l generalizing t with
  | nil => exact h
  | cons i l ih => exact ih (StepSystem.Reachable.tail h (f i))

end RoutingTable

section BucketLemmas

variable {localKey : KeyBytes} {b : BucketIndex}

theorem bucketWF_new : BucketWF localKey b (KBucket.new : KBucket P A) := fun j hj => by
  simp [KBucket.new] at hj

theorem BucketWF.bucket_of_mem {bucket : KBucket P A} (h : BucketWF localKey b bucket)
    {peer : KademliaPeer P A} (hmem : peer ∈ bucket.nodes) (ha : peer.HasAddresses) :
    BucketIndex.new (localKey.distance peer.key) = some b := by
  obtain ⟨j, hj, rfl⟩ := List.mem_iff_getElem.mp hmem
  exact (h j hj ha).1

theorem BucketWF.pairwise_key_ne {bucket : KBucket P A} (h : BucketWF localKey b bucket) :
    (bucket.nodes.filter fun peer => decide peer.HasAddresses).Pairwise
      fun p q => p.key ≠ q.key := by
  have hall : bucket.nodes.Pairwise fun p q => q.HasAddresses → p.key ≠ q.key := by
    rw [List.pairwise_iff_getElem]
    intro i j hi hj hij hq
    exact (h j hj hq).2 i hij
  exact (hall.filter _).imp_of_mem fun _ hq hpq => hpq (by simpa using List.of_mem_filter hq)

theorem BucketWF.append_placeholder {bucket : KBucket P A} (h : BucketWF localKey b bucket)
    {p : KademliaPeer P A} (hp : ¬p.HasAddresses) : BucketWF localKey b ⟨bucket.nodes ++ [p]⟩ := by
  intro j hj ha
  simp only [List.length_append, List.length_singleton] at hj
  by_cases hjlen : j < bucket.nodes.length
  · simp only [List.getElem_append_left hjlen] at ha ⊢
    refine ⟨(h j hjlen ha).1, fun i hi => ?_⟩
    rw [List.getElem_append_left (by omega)]
    exact (h j hjlen ha).2 i hi
  · have hjeq : j = bucket.nodes.length := by omega
    subst hjeq
    simp at ha
    exact absurd ha hp

theorem BucketWF.modify_same_key {bucket : KBucket P A} (h : BucketWF localKey b bucket)
    {i : Nat} (hi : i < bucket.nodes.length)
    (hkey : BucketIndex.new (localKey.distance bucket.nodes[i].key) = some b)
    (hfirst : ∀ k (hk : k < i), bucket.nodes[k].key ≠ bucket.nodes[i].key)
    {f : KademliaPeer P A → KademliaPeer P A} (hf : ∀ p, (f p).key = p.key) :
    BucketWF localKey b ⟨bucket.nodes.modify i f⟩ := by
  intro j hj ha
  simp only [List.length_modify] at hj
  simp only [List.getElem_modify] at ha ⊢
  by_cases hij : i = j
  · subst hij
    rw [if_pos rfl, hf]
    refine ⟨hkey, fun k hk => ?_⟩
    rw [if_neg (by omega)]
    exact hfirst k hk
  · rw [if_neg hij] at ha ⊢
    refine ⟨(h j hj ha).1, fun k hk => ?_⟩
    split
    · rename_i hik
      subst hik
      rw [hf]
      exact (h j hj ha).2 i hk
    · exact (h j hj ha).2 k hk

theorem BucketWF.modify_fresh_key {bucket : KBucket P A} (h : BucketWF localKey b bucket)
    {i : Nat} {key : KeyBytes} (hkey : BucketIndex.new (localKey.distance key) = some b)
    (hfresh : ∀ k (hk : k < bucket.nodes.length), k ≠ i → bucket.nodes[k].key ≠ key)
    {f : KademliaPeer P A → KademliaPeer P A} (hf : ∀ p, (f p).key = key) :
    BucketWF localKey b ⟨bucket.nodes.modify i f⟩ := by
  intro j hj ha
  simp only [List.length_modify] at hj
  simp only [List.getElem_modify] at ha ⊢
  by_cases hij : i = j
  · subst hij
    rw [if_pos rfl, hf] at ⊢
    refine ⟨hkey, fun k hk => ?_⟩
    rw [if_neg (by omega)]
    exact hfresh k (by omega) (by omega)
  · rw [if_neg hij] at ha ⊢
    refine ⟨(h j hj ha).1, fun k hk => ?_⟩
    split
    · rename_i hik
      subst hik
      rw [hf]
      exact fun heq => hfresh j hj (Ne.symm hij) heq.symm
    · exact (h j hj ha).2 k hk

end BucketLemmas

namespace RoutingTable

theorem WellFormed.setBucket {t : RoutingTable P A} (h : t.WellFormed) {i : BucketIndex}
    {bucket : KBucket P A} (hb : BucketWF t.localKey i bucket) : (t.setBucket i bucket).WellFormed := by
  intro j
  rw [setBucket_localKey, setBucket_buckets]
  split
  · rename_i hji
    subst hji
    exact hb
  · exact h j

theorem wellFormed_new (localKey : KeyBytes) : (RoutingTable.new localKey : RoutingTable P A).WellFormed :=
  fun _ => bucketWF_new

theorem WellFormed.entry {t : RoutingTable P A} (h : t.WellFormed) (x : Externals P A)
    (key : KeyBytes) (random : P) : (t.entry x key random).1.WellFormed := by
  cases hb : BucketIndex.new (t.localKey.distance key) with
  | none =>
      rw [entry_of_none x t random hb]
      exact h
  | some b =>
      rw [entry_of_some x t random hb]
      apply h.setBucket
      rcases KBucket.entry_cases x (t.buckets b) key random with
        ⟨_, _, _, _, he⟩ | ⟨_, _, he⟩ | ⟨_, _, _, _, _, _, he⟩ | ⟨_, _, _, he⟩ <;> rw [he]
      · exact h b
      · exact (h b).append_placeholder (by simp [KademliaPeer.HasAddresses, KademliaPeer.new])
      · exact h b
      · exact h b

theorem WellFormed.of_entry {t t' : RoutingTable P A} (h : t.WellFormed) {x : Externals P A}
    {key : KeyBytes} {random : P} {e : KBucketEntry Slot} (he : t.entry x key random = (t', e)) :
    t'.WellFormed := by
  simpa only [he] using h.entry x key random

theorem WellFormed.modifyPeer_of_occupied {t t' : RoutingTable P A} (h : t.WellFormed)
    {x : Externals P A} {key : KeyBytes} {random : P} {s : Slot}
    (he : t.entry x key random = (t', .occupied s)) {f : KademliaPeer P A → KademliaPeer P A}
    (hf : ∀ p, (f p).key = p.key) : (t'.modifyPeer s f).WellFormed := by
  cases hb : BucketIndex.new (t.localKey.distance key) with
  | none =>
      rw [entry_of_none x t random hb] at he
      cases he
  | some b =>
      rw [entry_of_some x t random hb] at he
      rcases KBucket.entry_cases x (t.buckets b) key random with
        ⟨i, hi, hkey, hfirst, hbe⟩ | ⟨-, -, hbe⟩ | ⟨-, -, _, -, -, -, hbe⟩ | ⟨-, -, -, hbe⟩ <;>
        simp only [hbe, KBucketEntry.map, Prod.mk.injEq, KBucketEntry.occupied.injEq, reduceCtorEq,
          and_false] at he
      obtain ⟨rfl, rfl⟩ := he
      simp only [modifyPeer, setBucket_buckets_self, setBucket_setBucket]
      apply h.setBucket
      refine (h b).modify_same_key hi (by rw [hkey]; exact hb) (fun k hk => ?_) hf
      rw [hkey]
      exact hfirst _ (List.mem_take_iff_getElem.mpr ⟨k, by omega, rfl⟩)

theorem WellFormed.insert_entry {t t' : RoutingTable P A} (h : t.WellFormed) {x : Externals P A}
    {random : P} {e : KBucketEntry Slot} (new : KademliaPeer P A)
    (he : t.entry x (x.keyOf new.peer) random = (t', e)) : (t'.insert x e new).WellFormed := by
  cases hb : BucketIndex.new (t.localKey.distance (x.keyOf new.peer)) with
  | none =>
      rw [entry_of_none x t random hb, Prod.mk.injEq] at he
      obtain ⟨rfl, rfl⟩ := he
      exact h
  | some b =>
      rw [entry_of_some x t random hb, Prod.mk.injEq] at he
      obtain ⟨rfl, rfl⟩ := he
      rcases KBucket.entry_cases x (t.buckets b) (x.keyOf new.peer) random with
        ⟨_, _, -, -, hbe⟩ | ⟨habsent, -, hbe⟩ | ⟨habsent, -, i, _, -, -, hbe⟩ | ⟨-, -, -, hbe⟩ <;>
        simp only [hbe, KBucketEntry.map, RoutingTable.insert]
      · exact h.setBucket (h b)
      · simp only [KBucket.insertAt, setBucket_buckets_self, setBucket_setBucket]
        apply h.setBucket
        refine ((h b).append_placeholder (by simp [KademliaPeer.HasAddresses, KademliaPeer.new])).modify_fresh_key
          hb (fun k hk hki => ?_) (fun _ => rfl)
        simp only [List.length_append, List.length_singleton] at hk
        rw [List.getElem_append_left (by omega)]
        exact habsent _ (List.getElem_mem _)
      · simp only [KBucket.insertAt, setBucket_buckets_self, setBucket_setBucket]
        apply h.setBucket
        exact (h b).modify_fresh_key hb (fun k hk _ => habsent _ (List.getElem_mem _)) (fun _ => rfl)
      · exact h.setBucket (h b)

/-- `add_known_peer` keeps the table well formed: it updates the first peer with the key in place,
or writes the peer, whose key belongs to the bucket and is absent from it, into a vacant slot. -/
theorem WellFormed.addKnownPeer {t : RoutingTable P A} (h : t.WellFormed) (x : Externals P A)
    (peer : P) (addresses : List A) (connection : ConnectionType) (random : P) :
    (t.addKnownPeer x peer addresses connection random).WellFormed := by
  unfold RoutingTable.addKnownPeer
  dsimp only
  split_ifs
  · exact h
  split
  · rename_i t' s he
    exact h.modifyPeer_of_occupied he fun _ => rfl
  · rename_i t' e _ he
    exact h.insert_entry (KademliaPeer.new x peer _ connection) he
  all_goals
    rename_i t' he
    exact h.of_entry he

theorem WellFormed.apply {t : RoutingTable P A} (h : t.WellFormed) (x : Externals P A)
    (op : TableOp P A) : (t.apply x op).WellFormed := by
  cases op with
  | addKnownPeer peer addresses connection random => exact h.addKnownPeer x peer addresses connection random
  | lookup key random => exact h.entry x key random

theorem wellFormed_of_reachable {x : Externals P A} {localKey : KeyBytes} {t : RoutingTable P A}
    (h : t.Reachable x localKey) : t.WellFormed :=
  StepSystem.Reachable.induction_on_inv RoutingTable.WellFormed (wellFormed_new localKey)
    (fun _ op hs => hs.apply x op) h

/-! ## The calls Kademlia makes

Besides `add_known_peer`, `protocol/libp2p/kademlia/mod.rs` looks peers up with `entry`: to read
the entry, to set the connection state of an `Occupied` entry when a connection opens or closes,
and, as `add_known_peer` itself does, to write a peer into the `Vacant` entry of its own key with
`KBucketEntry::insert`. -/

/-- A call Kademlia makes on its routing table. -/
inductive TableUse (P A : Type) where
  | addKnownPeer (peer : P) (addresses : List A) (connection : ConnectionType) (random : P)
  | lookup (key : KeyBytes) (random : P)
  /-- `if let KBucketEntry::Occupied(entry) = entry(key) { entry.connection = connection }`. -/
  | setConnection (key : KeyBytes) (connection : ConnectionType) (random : P)
  /-- `entry(Key::from(peer)).insert(KademliaPeer::new(peer, addresses, connection))`. -/
  | insert (peer : P) (addresses : List A) (connection : ConnectionType) (random : P)

def use (x : Externals P A) (t : RoutingTable P A) : TableUse P A → RoutingTable P A
  | .addKnownPeer peer addresses connection random => t.addKnownPeer x peer addresses connection random
  | .lookup key random => (t.entry x key random).1
  | .setConnection key connection random =>
    match t.entry x key random with
    | (t', .occupied s) => t'.modifyPeer s fun entry => { entry with connection }
    | (t', _) => t'
  | .insert peer addresses connection random =>
    let (t', e) := t.entry x (x.keyOf peer) random
    t'.insert x e (KademliaPeer.new x peer addresses connection)

theorem use_cases (x : Externals P A) (t : RoutingTable P A) (u : TableUse P A) :
    t.use x u = t ∨
    (∃ key random t' e, t.entry x key random = (t', e) ∧ t.use x u = t') ∨
    (∃ key random t' s f, t.entry x key random = (t', .occupied s) ∧ (∀ p, (f p).key = p.key) ∧
      t.use x u = t'.modifyPeer s f) ∨
    (∃ random t' e new, t.entry x (x.keyOf new.peer) random = (t', e) ∧
      t.use x u = t'.insert x e new) := by
  cases u with
  | addKnownPeer peer addresses connection random =>
      unfold RoutingTable.use RoutingTable.addKnownPeer
      dsimp only
      split_ifs
      · exact .inl rfl
      split
      · rename_i t' s he
        refine .inr (.inr (.inl ⟨_, random, t', s, _, he, ?_, rfl⟩))
        exact fun _ => rfl
      · rename_i t' _ he
        exact .inr (.inr (.inr ⟨random, t', _, KademliaPeer.new x peer _ connection, he, rfl⟩))
      all_goals
        rename_i t' he
        exact .inr (.inl ⟨_, random, t', _, he, rfl⟩)
  | lookup key random => exact .inr (.inl ⟨key, random, _, _, rfl, rfl⟩)
  | setConnection key connection random =>
      simp only [RoutingTable.use]
      split
      · rename_i t' s he
        refine .inr (.inr (.inl ⟨key, random, t', s, _, he, ?_, rfl⟩))
        exact fun _ => rfl
      · rename_i t' e _ he
        exact .inr (.inl ⟨key, random, t', e, he, rfl⟩)
  | insert peer addresses connection random =>
      rcases he : t.entry x (x.keyOf peer) random with ⟨t', e⟩
      refine .inr (.inr (.inr ⟨random, t', e, KademliaPeer.new x peer addresses connection, he, ?_⟩))
      simp only [RoutingTable.use, he]

theorem WellFormed.use {t : RoutingTable P A} (h : t.WellFormed) (x : Externals P A)
    (u : TableUse P A) : (t.use x u).WellFormed := by
  rcases use_cases x t u with hu | ⟨key, random, t', e, he, hu⟩ | ⟨key, random, t', s, f, he, hf, hu⟩ |
    ⟨random, t', e, new, he, hu⟩ <;> rw [hu]
  · exact h
  · exact h.of_entry he
  · exact h.modifyPeer_of_occupied he hf
  · exact h.insert_entry new he

/-! ## The size of the buckets -/

def Bounded (t : RoutingTable P A) : Prop :=
  ∀ b, (t.buckets b).nodes.length ≤ 20

theorem KBucket.length_entry_le (x : Externals P A) {b : KBucket P A} (key : KeyBytes) (random : P)
    (hb : b.nodes.length ≤ 20) : (b.entry x key random).1.nodes.length ≤ 20 := by
  rcases KBucket.entry_cases x b key random with
    ⟨_, _, -, -, he⟩ | ⟨-, hlen, he⟩ | ⟨-, -, _, _, -, -, he⟩ | ⟨-, -, -, he⟩ <;> rw [he]
  · exact hb
  · simp only [List.length_append, List.length_singleton]
    omega
  · exact hb
  · exact hb

theorem Bounded.setBucket {t : RoutingTable P A} (h : t.Bounded) {i : BucketIndex} {bucket : KBucket P A}
    (hb : bucket.nodes.length ≤ 20) : (t.setBucket i bucket).Bounded := by
  intro j
  rw [setBucket_buckets]
  split
  · exact hb
  · exact h j

theorem Bounded.entry {t : RoutingTable P A} (h : t.Bounded) (x : Externals P A) (key : KeyBytes)
    (random : P) : (t.entry x key random).1.Bounded := by
  cases hb : BucketIndex.new (t.localKey.distance key) with
  | none =>
      rw [entry_of_none x t random hb]
      exact h
  | some b =>
      rw [entry_of_some x t random hb]
      exact h.setBucket (KBucket.length_entry_le x key random (h b))

theorem Bounded.of_entry {t t' : RoutingTable P A} (h : t.Bounded) {x : Externals P A}
    {key : KeyBytes} {random : P} {e : KBucketEntry Slot} (he : t.entry x key random = (t', e)) :
    t'.Bounded := by
  simpa only [he] using h.entry x key random

theorem Bounded.modifyPeer {t : RoutingTable P A} (h : t.Bounded) (s : Slot)
    (f : KademliaPeer P A → KademliaPeer P A) : (t.modifyPeer s f).Bounded :=
  h.setBucket (by rw [List.length_modify]; exact h s.bucket)

theorem Bounded.insert {t : RoutingTable P A} (h : t.Bounded) (x : Externals P A) (e : KBucketEntry Slot)
    (new : KademliaPeer P A) : (t.insert x e new).Bounded := by
  unfold RoutingTable.insert
  split
  · rename_i s
    exact h.setBucket (by rw [KBucket.insertAt, List.length_modify]; exact h s.bucket)
  · exact h

theorem Bounded.use {t : RoutingTable P A} (h : t.Bounded) (x : Externals P A) (u : TableUse P A) :
    (t.use x u).Bounded := by
  rcases use_cases x t u with hu | ⟨key, random, t', e, he, hu⟩ | ⟨key, random, t', s, f, he, hf, hu⟩ |
    ⟨random, t', e, new, he, hu⟩ <;> rw [hu]
  · exact h
  · exact h.of_entry he
  · exact (h.of_entry he).modifyPeer s f
  · exact (h.of_entry he).insert x e new

@[simp] theorem entry_localKey (x : Externals P A) (t : RoutingTable P A) (key : KeyBytes) (random : P) :
    (t.entry x key random).1.localKey = t.localKey := by
  unfold entry
  split <;> rfl

theorem localKey_of_entry {x : Externals P A} {t t' : RoutingTable P A} {key : KeyBytes} {random : P}
    {e : KBucketEntry Slot} (he : t.entry x key random = (t', e)) : t'.localKey = t.localKey := by
  simpa only [he] using entry_localKey x t key random

@[simp] theorem modifyPeer_localKey (t : RoutingTable P A) (s : Slot)
    (f : KademliaPeer P A → KademliaPeer P A) : (t.modifyPeer s f).localKey = t.localKey := rfl

@[simp] theorem insert_localKey (x : Externals P A) (t : RoutingTable P A) (e : KBucketEntry Slot)
    (new : KademliaPeer P A) : (t.insert x e new).localKey = t.localKey := by
  unfold RoutingTable.insert
  split <;> rfl

theorem use_localKey (x : Externals P A) (t : RoutingTable P A) (u : TableUse P A) :
    (t.use x u).localKey = t.localKey := by
  rcases use_cases x t u with hu | ⟨key, random, t', e, he, hu⟩ | ⟨key, random, t', s, f, he, hf, hu⟩ |
    ⟨random, t', e, new, he, hu⟩ <;> rw [hu]
  · exact localKey_of_entry he
  · rw [modifyPeer_localKey, localKey_of_entry he]
  · rw [insert_localKey, localKey_of_entry he]

/-! ## The representation invariant -/

/-- What every table Kademlia builds around `localKey` satisfies: it keeps its local key, it is well
formed and no bucket holds more than twenty peers. -/
structure Invariant (localKey : KeyBytes) (t : RoutingTable P A) : Prop where
  localKey_eq : t.localKey = localKey
  wellFormed : t.WellFormed
  bounded : t.Bounded

theorem invariant_new (localKey : KeyBytes) : (RoutingTable.new localKey : RoutingTable P A).Invariant localKey :=
  ⟨rfl, wellFormed_new localKey, fun _ => Nat.zero_le _⟩

theorem Invariant.use {localKey : KeyBytes} {t : RoutingTable P A} (h : t.Invariant localKey)
    (x : Externals P A) (u : TableUse P A) : (t.use x u).Invariant localKey :=
  ⟨(use_localKey x t u).trans h.localKey_eq, h.wellFormed.use x u, h.bounded.use x u⟩

section Slots

variable {t : RoutingTable P A} {s s₁ s₂ : Slot} {p p₁ p₂ : KademliaPeer P A}

theorem WellFormed.bucket_of_peerAt (h : t.WellFormed) (hs : t.peerAt? s = some p)
    (ha : p.HasAddresses) : BucketIndex.new (t.localKey.distance p.key) = some s.bucket :=
  (h s.bucket).bucket_of_mem (List.mem_of_getElem? hs) ha

/-- Two peers with addresses and the same key are one peer: the key fixes the bucket, and a well
formed bucket keeps only the first peer with a key. -/
theorem WellFormed.slot_eq_of_key_eq (h : t.WellFormed) (h₁ : t.peerAt? s₁ = some p₁)
    (h₂ : t.peerAt? s₂ = some p₂) (ha₁ : p₁.HasAddresses) (ha₂ : p₂.HasAddresses)
    (hkey : p₁.key = p₂.key) : s₁ = s₂ := by
  have hbucket : s₁.bucket = s₂.bucket := by
    have hb₁ := h.bucket_of_peerAt h₁ ha₁
    rw [hkey, h.bucket_of_peerAt h₂ ha₂, Option.some.injEq] at hb₁
    exact hb₁.symm
  obtain ⟨b, i⟩ := s₁
  obtain ⟨b', j⟩ := s₂
  dsimp only at hbucket
  subst hbucket
  simp only [peerAt?, List.getElem?_eq_some_iff] at h₁ h₂
  obtain ⟨hi, rfl⟩ := h₁
  obtain ⟨hj, rfl⟩ := h₂
  rcases Nat.lt_trichotomy i j with hij | rfl | hij
  · exact absurd hkey ((h b j hj ha₂).2 i hij)
  · rfl
  · exact absurd hkey.symm ((h b i hi ha₁).2 j hij)

theorem WellFormed.key_ne_localKey (h : t.WellFormed) (hs : t.peerAt? s = some p)
    (ha : p.HasAddresses) : p.key ≠ t.localKey := by
  intro heq
  have hb := h.bucket_of_peerAt hs ha
  rw [heq, (BucketIndex.new_eq_none_iff _).mpr (by simp)] at hb
  cases hb

theorem WellFormed.ilog2_distance (h : t.WellFormed) (hs : t.peerAt? s = some p)
    (ha : p.HasAddresses) : (t.localKey.distance p.key).ilog2 = some s.bucket.val := by
  obtain ⟨h0, hlog⟩ := (BucketIndex.new_eq_some_iff _ _).mp (h.bucket_of_peerAt hs ha)
  exact (ilog2_eq_some_iff _ _).mpr ⟨h0, hlog⟩

end Slots

/-- Every table Kademlia builds from `RoutingTable::new(localKey)`, by any sequence of its calls,
holds at most twenty peers in each bucket, and its peers with addresses have pairwise distinct keys,
none of them the local key, each in the bucket `ilog2` of its distance to the local key. -/
theorem invariant_of_uses (x : Externals P A) (localKey : KeyBytes) (uses : List (TableUse P A)) :
    let t := uses.foldl (RoutingTable.use x) (RoutingTable.new localKey)
    (∀ b, (t.buckets b).nodes.length ≤ 20) ∧
    (∀ s₁ s₂ p₁ p₂, t.peerAt? s₁ = some p₁ → t.peerAt? s₂ = some p₂ → p₁.HasAddresses →
      p₂.HasAddresses → p₁.key = p₂.key → s₁ = s₂) ∧
    (∀ s p, t.peerAt? s = some p → p.HasAddresses → p.key ≠ localKey) ∧
    (∀ s p, t.peerAt? s = some p → p.HasAddresses →
      (localKey.distance p.key).ilog2 = some s.bucket.val) := by
  intro t
  have hinv : t.Invariant localKey :=
    StepSystem.Reachable.induction_on_inv (Invariant localKey) (invariant_new localKey)
      (fun _ u hs => hs.use x u) ((StepSystem.Reachable.refl _).foldl uses)
  obtain ⟨hkey, hwf, hbounded⟩ := hinv
  refine ⟨hbounded, fun s₁ s₂ p₁ p₂ h₁ h₂ ha₁ ha₂ hk => hwf.slot_eq_of_key_eq h₁ h₂ ha₁ ha₂ hk,
    fun s p hs ha => ?_, fun s p hs ha => ?_⟩
  · rw [← hkey]
    exact hwf.key_ne_localKey hs ha
  · rw [← hkey]
    exact hwf.ilog2_distance hs ha

end RoutingTable

end Litep2p.Kademlia
