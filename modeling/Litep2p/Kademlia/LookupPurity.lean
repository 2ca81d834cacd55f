import Litep2p.Lib.StableSort
import Litep2p.Lib.ListSplice
import Litep2p.Lib.Simulation
import Litep2p.Kademlia.Closest

/-! What a lookup through `RoutingTable::entry` that writes nothing leaves behind.
`on_connection_established`, `disconnect_peer` and the `PutRecordToPeers` handler look peers up
and drop a `Vacant` entry. When the peer's bucket has room, `KBucket::entry` has pushed a
placeholder by then: a random id without addresses. `closest` never shows it
(`KBucket.closestIter_splice`), and as long as later `add_known_peer` calls find room beside it,
the table with the placeholder and the table without it stay one placeholder apart
(`WithPlaceholder.addStep`), so every `closest` query answers alike. A call that finds the
bucket full because of the placeholder evicts a real peer instead: the lookup is not pure. -/

namespace Litep2p.Kademlia

variable {P A : Type}

theorem KBucket.closestIter_eq_mergeSort (b : KBucket P A) (target : KeyBytes) :
    b.closestIter target = (b.nodes.filter fun peer => !peer.addresses.isEmpty).mergeSort
      fun a c => decide (target.distance a.key ≤ target.distance c.key) :=
  StableSort.filter_mergeSort (KBucket.closerTo_trans target) (KBucket.closerTo_total target) _ b.nodes

theorem KBucket.closestIter_splice {B₁ B₂ : KBucket P A} {L M : List (KademliaPeer P A)}
    {ph : KademliaPeer P A} (hph : ph.addresses = []) (h₁ : B₁.nodes = L ++ ph :: M)
    (h₂ : B₂.nodes = L ++ M) (target : KeyBytes) : B₁.closestIter target = B₂.closestIter target := by
  rw [KBucket.closestIter_eq_mergeSort, KBucket.closestIter_eq_mergeSort, h₁, h₂,
    ListSplice.filter_splice (by simp [hph])]

/-- The addresses `add_known_peer` keeps: those ending in `/p2p`, and the others with the peer's
`/p2p` appended. -/
def Externals.p2pAddresses (x : Externals P A) (peer : P) (addresses : List A) : List A :=
  addresses.filterMap fun address => if x.endsWithP2p address then some address else x.withP2p address peer

/-- What `add_known_peer` leaves in the bucket it files the peer in: `KBucket::entry`, then the
write through the entry it returns. -/
def KBucket.applyAdd (x : Externals P A) (b : KBucket P A) (peer : P) (addresses : List A)
    (connection : ConnectionType) (random : P) : KBucket P A :=
  match b.entry x (x.keyOf peer) random with
  | (b', .occupied i) => ⟨b'.nodes.modify i fun entry => { entry with addresses, connection }⟩
  | (b', .vacant i) => b'.insertAt x i (KademliaPeer.new x peer addresses connection)
  | (b', _) => b'

section ApplyAdd

variable {x : Externals P A} {B : KBucket P A} {peer : P} (addresses : List A)
  (connection : ConnectionType) (random : P)

theorem KBucket.applyAdd_of_occupied {i : Nat}
    (h : B.nodes.findIdx? (fun n => n.key == x.keyOf peer) = some i) :
    (B.applyAdd x peer addresses connection random).nodes =
      B.nodes.modify i fun entry => { entry with addresses, connection } := by
  unfold KBucket.applyAdd KBucket.entry
  rw [h]

theorem KBucket.applyAdd_of_push (h : B.nodes.findIdx? (fun n => n.key == x.keyOf peer) = none)
    (hlen : B.nodes.length < 20) :
    (B.applyAdd x peer addresses connection random).nodes =
      B.nodes ++ [{ key := x.keyOf peer, peer, addresses, connection }] := by
  unfold KBucket.applyAdd KBucket.entry
  rw [h, if_pos hlen]
  have hmodify := ListSplice.modify_append_length_add
    (fun old => { old with peer := peer, key := x.keyOf peer, addresses, connection }) B.nodes
    [KademliaPeer.new x random [] .notConnected] 0
  simpa [KBucket.insertAt, KademliaPeer.new] using hmodify

end ApplyAdd

theorem KBucket.applyAdd_splice {x : Externals P A} {B₁ B₂ : KBucket P A}
    {L M : List (KademliaPeer P A)} {ph : KademliaPeer P A} (h₁ : B₁.nodes = L ++ ph :: M)
    (h₂ : B₂.nodes = L ++ M) {peer : P} (hkey : x.keyOf peer ≠ ph.key)
    (hroom : (∀ n ∈ B₁.nodes, n.key ≠ x.keyOf peer) → B₁.nodes.length < 20)
    (addresses : List A) (connection : ConnectionType) (random : P) :
    ∃ L' M', (B₁.applyAdd x peer addresses connection random).nodes = L' ++ ph :: M' ∧
      (B₂.applyAdd x peer addresses connection random).nodes = L' ++ M' := by
  have hph : (ph.key == x.keyOf peer) = false := by simpa using Ne.symm hkey
  have hsplice := ListSplice.findIdx?_splice (p := fun n : KademliaPeer P A => n.key == x.keyOf peer) hph L M
  have happend : (L ++ M).findIdx? (fun n => n.key == x.keyOf peer) =
      (L.findIdx? fun n => n.key == x.keyOf peer).or
        ((M.findIdx? fun n => n.key == x.keyOf peer).map fun i => i + L.length) :=
    List.findIdx?_append
  cases hL : L.findIdx? (fun n => n.key == x.keyOf peer) with
  | some i =>
      have hi : i < L.length := (List.findIdx?_eq_some_iff_getElem.mp hL).1
      refine ⟨L.modify i fun entry => { entry with addresses, connection }, M, ?_, ?_⟩
      · rw [KBucket.applyAdd_of_occupied addresses connection random (by rw [h₁, hsplice, hL]; rfl), h₁,
          ListSplice.modify_append_of_lt _ _ _ _ hi]
      · rw [KBucket.applyAdd_of_occupied addresses connection random (by rw [h₂, happend, hL]; rfl), h₂,
          ListSplice.modify_append_of_lt _ _ _ _ hi]
  | none =>
      cases hM : M.findIdx? (fun n => n.key == x.keyOf peer) with
      | some j =>
          refine ⟨L, M.modify j fun entry => { entry with addresses, connection }, ?_, ?_⟩
          · rw [KBucket.applyAdd_of_occupied addresses connection random (i := L.length + (j + 1))
              (by rw [h₁, hsplice, hL, hM]; simp; omega), h₁, ListSplice.modify_append_length_add,
              List.modify_succ_cons]
          · rw [KBucket.applyAdd_of_occupied addresses connection random (i := L.length + j)
              (by rw [h₂, happend, hL, hM]; simp; omega), h₂, ListSplice.modify_append_length_add]
      | none =>
          have h₁none : B₁.nodes.findIdx? (fun n => n.key == x.keyOf peer) = none := by
            rw [h₁, hsplice, hL, hM]; rfl
          have h₂none : B₂.nodes.findIdx? (fun n => n.key == x.keyOf peer) = none := by
            rw [h₂, happend, hL, hM]; rfl
          have hlen₁ : B₁.nodes.length < 20 :=
            hroom fun n hn => by simpa using List.findIdx?_eq_none_iff.mp h₁none n hn
          have hlen₂ : B₂.nodes.length < 20 := by
            rw [h₁] at hlen₁
            rw [h₂]
            simp only [List.length_append, List.length_cons] at hlen₁ ⊢
            omega
          refine ⟨L, M ++ [{ key := x.keyOf peer, peer, addresses, connection }], ?_, ?_⟩
          · rw [KBucket.applyAdd_of_push addresses connection random h₁none hlen₁, h₁]
            simp
          · rw [KBucket.applyAdd_of_push addresses connection random h₂none hlen₂, h₂]
            simp

namespace RoutingTable

section AddKnownPeer

variable (x : Externals P A) (t : RoutingTable P A) {peer : P} {addresses : List A}
  (connection : ConnectionType) (random : P)

theorem addKnownPeer_of_isEmpty (h : (x.p2pAddresses peer addresses).isEmpty = true) :
    t.addKnownPeer x peer addresses connection random = t := by
  unfold addKnownPeer
  exact if_pos h

theorem addKnownPeer_of_none (h : (x.p2pAddresses peer addresses).isEmpty = false)
    (hb : BucketIndex.new (t.localKey.distance (x.keyOf peer)) = none) :
    t.addKnownPeer x peer addresses connection random = t := by
  unfold addKnownPeer
  rw [if_neg (by simpa [Externals.p2pAddresses] using h), entry_of_none x t random hb]

theorem addKnownPeer_of_some (h : (x.p2pAddresses peer addresses).isEmpty = false) {b : BucketIndex}
    (hb : BucketIndex.new (t.localKey.distance (x.keyOf peer)) = some b) :
    t.addKnownPeer x peer addresses connection random =
      t.setBucket b ((t.buckets b).applyAdd x peer (x.p2pAddresses peer addresses) connection random) := by
  unfold addKnownPeer
  rw [if_neg (by simpa [Externals.p2pAddresses] using h), entry_of_some x t random hb]
  unfold KBucket.applyAdd
  rcases (t.buckets b).entry x (x.keyOf peer) random with ⟨b', _ | i | i | _⟩ <;>
    simp [KBucketEntry.map, modifyPeer, RoutingTable.insert, Externals.p2pAddresses]

end AddKnownPeer

end RoutingTable

/-- The arguments of one `add_known_peer` call, with the random id of the placeholder its lookup
may push. -/
structure KnownPeer (P A : Type) where
  peer : P
  addresses : List A
  connection : ConnectionType
  random : P

structure ClosestQuery where
  target : KeyBytes
  limit : Nat

namespace RoutingTable

def addStep (x : Externals P A) (t : RoutingTable P A) (c : KnownPeer P A) : RoutingTable P A :=
  t.addKnownPeer x c.peer c.addresses c.connection c.random

/-- The answers of the `closest` queries of a sequence of `add_known_peer` calls and `closest`
queries on the table. -/
def closestResults (x : Externals P A) (t : RoutingTable P A)
    (calls : List (Simulation.Call (KnownPeer P A) ClosestQuery)) : List (List (KademliaPeer P A)) :=
  Simulation.answers (addStep x) (fun t q => t.closest q.target q.limit) t calls

@[simp] theorem closestResults_nil (x : Externals P A) (t : RoutingTable P A) :
    t.closestResults x [] = [] := rfl

@[simp] theorem closestResults_step (x : Externals P A) (t : RoutingTable P A) (c : KnownPeer P A)
    (calls : List (Simulation.Call (KnownPeer P A) ClosestQuery)) :
    t.closestResults x (.step c :: calls) = (t.addStep x c).closestResults x calls := rfl

@[simp] theorem closestResults_query (x : Externals P A) (t : RoutingTable P A) (q : ClosestQuery)
    (calls : List (Simulation.Call (KnownPeer P A) ClosestQuery)) :
    t.closestResults x (.query q :: calls) = t.closest q.target q.limit :: t.closestResults x calls := rfl

/-- `t₁` is `t₂` with the peer `ph` spliced into bucket `b`. -/
structure WithPlaceholder (b : BucketIndex) (ph : KademliaPeer P A) (t₁ t₂ : RoutingTable P A) :
    Prop where
  localKey_eq : t₁.localKey = t₂.localKey
  buckets_of_ne : ∀ b', b' ≠ b → t₁.buckets b' = t₂.buckets b'
  splice : ∃ L M, (t₁.buckets b).nodes = L ++ ph :: M ∧ (t₂.buckets b).nodes = L ++ M

theorem WithPlaceholder.closest_eq {b : BucketIndex} {ph : KademliaPeer P A} {t₁ t₂ : RoutingTable P A}
    (h : WithPlaceholder b ph t₁ t₂) (hph : ph.addresses = []) (target : KeyBytes) (limit : Nat) :
    t₁.closest target limit = t₂.closest target limit := by
  have hbuckets : (fun index => (t₁.buckets index).closestIter target) =
      fun index => (t₂.buckets index).closestIter target := by
    funext index
    by_cases hib : index = b
    · subst hib
      obtain ⟨L, M, h₁, h₂⟩ := h.splice
      exact KBucket.closestIter_splice hph h₁ h₂ target
    · rw [h.buckets_of_ne index hib]
  unfold closest
  rw [h.localKey_eq, hbuckets]

/-- The `add_known_peer` calls that keep a table with the placeholder `ph` in bucket `b` one
placeholder apart from the table without it: those that file no peer in `b`, and those that
file a peer in `b` whose key is not the placeholder's and that, when the peer is new to `b`,
find room there. -/
def PlaceholderSafe (x : Externals P A) (b : BucketIndex) (ph : KademliaPeer P A)
    (t : RoutingTable P A) (c : KnownPeer P A) : Prop :=
  (x.p2pAddresses c.peer c.addresses).isEmpty = false →
    BucketIndex.new (t.localKey.distance (x.keyOf c.peer)) = some b →
      x.keyOf c.peer ≠ ph.key ∧
        ((∀ n ∈ (t.buckets b).nodes, n.key ≠ x.keyOf c.peer) → (t.buckets b).nodes.length < 20)

instance (x : Externals P A) (b : BucketIndex) (ph : KademliaPeer P A) (t : RoutingTable P A)
    (c : KnownPeer P A) : Decidable (PlaceholderSafe x b ph t c) :=
  inferInstanceAs (Decidable (_ → _ → _ ∧ _))

theorem WithPlaceholder.addStep {b : BucketIndex} {ph : KademliaPeer P A} {t₁ t₂ : RoutingTable P A}
    (h : WithPlaceholder b ph t₁ t₂) {x : Externals P A} {c : KnownPeer P A}
    (hsafe : PlaceholderSafe x b ph t₁ c) : WithPlaceholder b ph (t₁.addStep x c) (t₂.addStep x c) := by
  obtain ⟨peer, addresses, connection, random⟩ := c
  unfold RoutingTable.addStep
  cases hempty : (x.p2pAddresses peer addresses).isEmpty
  case true =>
    rw [addKnownPeer_of_isEmpty x t₁ connection random hempty,
      addKnownPeer_of_isEmpty x t₂ connection random hempty]
    exact h
  case false =>
    cases hb : BucketIndex.new (t₂.localKey.distance (x.keyOf peer)) with
    | none =>
        rw [addKnownPeer_of_none x t₁ connection random hempty (h.localKey_eq ▸ hb),
          addKnownPeer_of_none x t₂ connection random hempty hb]
        exact h
    | some b' =>
        have hb₁ : BucketIndex.new (t₁.localKey.distance (x.keyOf peer)) = some b' := by
          rw [h.localKey_eq]
          exact hb
        rw [addKnownPeer_of_some x t₁ connection random hempty hb₁,
          addKnownPeer_of_some x t₂ connection random hempty hb]
        by_cases hbb : b' = b
        · subst hbb
          obtain ⟨hkey, hroom⟩ := hsafe hempty hb₁
          obtain ⟨L, M, h₁, h₂⟩ := h.splice
          obtain ⟨L', M', h₁', h₂'⟩ := KBucket.applyAdd_splice h₁ h₂ hkey hroom _ connection random
          refine ⟨h.localKey_eq, fun b'' hne => ?_, L', M', ?_, ?_⟩
          · rw [setBucket_buckets_of_ne _ _ hne, setBucket_buckets_of_ne _ _ hne, h.buckets_of_ne b'' hne]
          · rw [setBucket_buckets_self]
            exact h₁'
          · rw [setBucket_buckets_self]
            exact h₂'
        · have hsame := h.buckets_of_ne b' hbb
          refine ⟨h.localKey_eq, fun b'' hne => ?_, ?_⟩
          · by_cases hb'' : b'' = b'
            · subst hb''
              rw [setBucket_buckets_self, setBucket_buckets_self, hsame]
            · rw [setBucket_buckets_of_ne _ _ hb'', setBucket_buckets_of_ne _ _ hb'', h.buckets_of_ne b'' hne]
          · rw [setBucket_buckets_of_ne _ _ (Ne.symm hbb), setBucket_buckets_of_ne _ _ (Ne.symm hbb)]
            exact h.splice

theorem closestResults_entry (x : Externals P A) (t : RoutingTable P A) (key : KeyBytes) (random : P)
    (calls : List (Simulation.Call (KnownPeer P A) ClosestQuery))
    (hsafe : ∀ b, BucketIndex.new (t.localKey.distance key) = some b →
      (∀ n ∈ (t.buckets b).nodes, n.key ≠ key) → (t.buckets b).nodes.length < 20 →
      Simulation.Allowed (addStep x) (PlaceholderSafe x b (KademliaPeer.new x random [] .notConnected))
        (t.entry x key random).1 calls) :
    (t.entry x key random).1.closestResults x calls = t.closestResults x calls := by
  cases hb : BucketIndex.new (t.localKey.distance key) with
  | none => rw [entry_of_none x t random hb]
  | some b =>
      rcases KBucket.entry_cases x (t.buckets b) key random with
        ⟨_, -, -, -, he⟩ | ⟨habsent, hlen, he⟩ | ⟨-, -, _, -, -, -, he⟩ | ⟨-, -, -, he⟩
      · rw [entry_of_some x t random hb, he, setBucket_self]
      · have hallowed := hsafe b hb habsent hlen
        rw [entry_of_some x t random hb, he] at hallowed ⊢
        dsimp only at hallowed ⊢
        have hsplit : WithPlaceholder b (KademliaPeer.new x random [] .notConnected)
            (t.setBucket b ⟨(t.buckets b).nodes ++ [KademliaPeer.new x random [] .notConnected]⟩) t :=
          ⟨rfl, fun b' hne => setBucket_buckets_of_ne _ _ hne, (t.buckets b).nodes, [], by simp, by simp⟩
        unfold closestResults
        refine Simulation.answers_eq_of_simulation (WithPlaceholder b _) ?_ ?_ calls hsplit hallowed
        · intro _ _ _ hR hok
          exact hR.addStep hok
        · intro _ _ q hR
          exact hR.closest_eq rfl q.target q.limit
      · rw [entry_of_some x t random hb, he, setBucket_self]
      · rw [entry_of_some x t random hb, he, setBucket_self]

/-- A lookup of key `5` from the empty table of local key `0`, then peer `9` added and a query. -/
theorem closestResults_entry_bucket_two :
    (∀ b, BucketIndex.new ((RoutingTable.new ⟨0⟩ : RoutingTable Nat Nat).localKey.distance ⟨5⟩) = some b →
      (∀ n ∈ ((RoutingTable.new ⟨0⟩ : RoutingTable Nat Nat).buckets b).nodes, n.key ≠ ⟨5⟩) →
      ((RoutingTable.new ⟨0⟩ : RoutingTable Nat Nat).buckets b).nodes.length < 20 →
      Simulation.Allowed (addStep Externals.numeric)
        (PlaceholderSafe Externals.numeric b (KademliaPeer.new Externals.numeric 7 [] .notConnected))
        ((RoutingTable.new ⟨0⟩ : RoutingTable Nat Nat).entry Externals.numeric ⟨5⟩ 7).1
        [.step ⟨9, [1], .connected, 0⟩, .query (⟨⟨5⟩, 3⟩ : ClosestQuery)]) ∧
    ((RoutingTable.new ⟨0⟩ : RoutingTable Nat Nat).entry Externals.numeric ⟨5⟩ 7).1.closestResults
        Externals.numeric [.step ⟨9, [1], .connected, 0⟩, .query (⟨⟨5⟩, 3⟩ : ClosestQuery)] =
      (RoutingTable.new ⟨0⟩ : RoutingTable Nat Nat).closestResults Externals.numeric
        [.step ⟨9, [1], .connected, 0⟩, .query (⟨⟨5⟩, 3⟩ : ClosestQuery)] := by
  have hsafe : ∀ b, BucketIndex.new ((RoutingTable.new ⟨0⟩ : RoutingTable Nat Nat).localKey.distance ⟨5⟩) = some b →
      (∀ n ∈ ((RoutingTable.new ⟨0⟩ : RoutingTable Nat Nat).buckets b).nodes, n.key ≠ ⟨5⟩) →
      ((RoutingTable.new ⟨0⟩ : RoutingTable Nat Nat).buckets b).nodes.length < 20 →
      Simulation.Allowed (addStep Externals.numeric)
        (PlaceholderSafe Externals.numeric b (KademliaPeer.new Externals.numeric 7 [] .notConnected))
        ((RoutingTable.new ⟨0⟩ : RoutingTable Nat Nat).entry Externals.numeric ⟨5⟩ 7).1
        [.step ⟨9, [1], .connected, 0⟩, .query (⟨⟨5⟩, 3⟩ : ClosestQuery)] := by
    decide +kernel
  exact ⟨hsafe, closestResults_entry _ _ _ _ _ hsafe⟩

/-- Bucket `5` of the local key `0` holding the nineteen not-connected peers `32, …, 50`, all with
an address. -/
def nineteenPeers : RoutingTable Nat Nat :=
  (List.range 19).foldl (fun t i => t.addKnownPeer Externals.numeric (32 + i) [1] .notConnected 0)
    (RoutingTable.new ⟨0⟩)

/-- A lookup of peer `52` pushes a placeholder into bucket `5` and fills it; peer `53`, added next,
then evicts peer `32`, which the query for target `32` returns without the lookup and not with
it. -/
theorem closestResults_entry_evicts :
    (nineteenPeers.entry Externals.numeric ⟨52⟩ 0).1.closestResults Externals.numeric
        [.step ⟨53, [1], .notConnected, 0⟩, .query ⟨⟨32⟩, 1⟩] ≠
      nineteenPeers.closestResults Externals.numeric [.step ⟨53, [1], .notConnected, 0⟩, .query ⟨⟨32⟩, 1⟩] := by
  have hreach : nineteenPeers.Reachable Externals.numeric ⟨0⟩ :=
    (reachable_new _ _).foldl (fun i => .addKnownPeer (32 + i) [1] .notConnected 0) _
  have hA : (⟨⟨32⟩, 32, [1], .notConnected⟩ : KademliaPeer Nat Nat) ∈
      (nineteenPeers.addKnownPeer Externals.numeric 53 [1] .notConnected 0).closest ⟨32⟩ 1 := by
    have hwf := wellFormed_of_reachable (hreach.addKnownPeer 53 [1] .notConnected 0)
    apply (isLeastPrefix_closest hwf (by decide +kernel) ⟨32⟩ 1).mem_of_le Nat.one_pos
    · exact mem_addressedPeers.mpr ⟨5, by decide +kernel⟩
    · intro q _
      have hzero : distanceTo ⟨32⟩ (⟨⟨32⟩, 32, [1], .notConnected⟩ : KademliaPeer Nat Nat) = 0 := by
        decide
      rw [hzero]
      exact Nat.zero_le _
  have hB : (⟨⟨32⟩, 32, [1], .notConnected⟩ : KademliaPeer Nat Nat) ∉
      ((nineteenPeers.entry Externals.numeric ⟨52⟩ 0).1.addKnownPeer Externals.numeric 53 [1]
        .notConnected 0).closest ⟨32⟩ 1 := by
    intro hmem
    obtain ⟨b, hb, -⟩ := mem_addressedPeers.mp (mem_addressedPeers_of_mem_closest hmem)
    revert b
    decide +kernel
  intro heq
  simp only [closestResults_step, closestResults_query, closestResults_nil, addStep,
    List.cons.injEq, and_true] at heq
  rw [← heq] at hA
  exact hB hA

end RoutingTable

end Litep2p.Kademlia
