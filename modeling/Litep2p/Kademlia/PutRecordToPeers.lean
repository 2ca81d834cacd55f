import Litep2p.Kademlia.TableInvariant

/-! The peers the `KademliaCommand::PutRecordToPeers` handler of `Kademlia::run` sends the record to.
Each requested peer other than the local one is looked up with `RoutingTable::entry`; the entry
is cloned when it is `Occupied`, or `Vacant` with addresses. A `Vacant` entry with addresses is
never the requested peer: it is the slot a full bucket offers for eviction
(`putRecordToPeer_eq_some`). -/

namespace Litep2p.Kademlia

variable {P A : Type} [DecidableEq P]

namespace RoutingTable

/-- The closure of the handler's `filter_map`, for one requested `peer`; `random` is the
`PeerId::random()` of the placeholder `entry` may push. -/
def putRecordToPeer (x : Externals P A) (localPeer : P) (t : RoutingTable P A) (peer random : P) :
    RoutingTable P A × Option (KademliaPeer P A) :=
  if peer = localPeer then (t, none)
  else
    match t.entry x (x.keyOf peer) random with
    | (t', .occupied s) => (t', t'.peerAt? s)
    | (t', .vacant s) => (t', (t'.peerAt? s).filter fun entry => !entry.addresses.isEmpty)
    | (t', _) => (t', none)

/-- The handler's `filter_map(..).collect()`: the lookups run in order, each on the table the
previous one left. Each requested peer comes with the random id of its lookup. -/
def putRecordToPeers (x : Externals P A) (localPeer : P) :
    RoutingTable P A → List (P × P) → RoutingTable P A × List (KademliaPeer P A)
  | t, [] => (t, [])
  | t, (peer, random) :: peers =>
    let (t', found) := t.putRecordToPeer x localPeer peer random
    let (t'', rest) := t'.putRecordToPeers x localPeer peers
    (t'', found.toList ++ rest)

/-- What one lookup of the handler yields: the first peer of the table with the requested key,
or, when the key's bucket is full and lacks the key, the first evictable peer of that bucket. -/
theorem putRecordToPeer_eq_some {x : Externals P A} {localPeer : P} {t : RoutingTable P A}
    {peer random : P} {e : KademliaPeer P A}
    (h : (t.putRecordToPeer x localPeer peer random).2 = some e) :
    peer ≠ localPeer ∧ ∃ b, BucketIndex.new (t.localKey.distance (x.keyOf peer)) = some b ∧
      e ∈ (t.buckets b).nodes ∧
      (e.key = x.keyOf peer ∨
        ((∀ n ∈ (t.buckets b).nodes, n.key ≠ x.keyOf peer) ∧ 20 ≤ (t.buckets b).nodes.length ∧
          e.connection.isEvictable = true ∧ e.HasAddresses)) := by
  unfold putRecordToPeer at h
  split_ifs at h with hlocal
  refine ⟨hlocal, ?_⟩
  cases hb : BucketIndex.new (t.localKey.distance (x.keyOf peer)) with
  | none =>
      rw [entry_of_none x t random hb] at h
      cases h
  | some b =>
      rw [entry_of_some x t random hb] at h
      refine ⟨b, rfl, ?_⟩
      rcases KBucket.entry_cases x (t.buckets b) (x.keyOf peer) random with
        ⟨i, hi, hkey, -, he⟩ | ⟨-, -, he⟩ | ⟨habsent, hfull, i, hi, hev, -, he⟩ | ⟨-, -, -, he⟩
      · simp only [he, KBucketEntry.map, peerAt?, setBucket_buckets_self, List.getElem?_eq_getElem hi,
          Option.some.injEq] at h
        subst h
        exact ⟨List.getElem_mem hi, Or.inl hkey⟩
      · simp [he, KBucketEntry.map, peerAt?, KademliaPeer.new] at h
        obtain ⟨rfl, haddr⟩ := h
        exact absurd rfl haddr
      · simp only [he, KBucketEntry.map, peerAt?, setBucket_buckets_self, List.getElem?_eq_getElem hi,
          Option.filter_some] at h
        split_ifs at h with haddr
        cases h
        refine ⟨List.getElem_mem hi, Or.inr ⟨habsent, hfull, hev, ?_⟩⟩
        simpa [KademliaPeer.HasAddresses] using haddr
      · simp [he, KBucketEntry.map] at h

/-- Bucket `5` of the local key `0` filled with the twenty peers `32, …, 51`, all with an
address and not connected: the record for peer `52`, whose bucket is full, goes to peer `32`. -/
theorem putRecordToPeers_sends_to_unrequested_peer :
    (((List.range 20).foldl
        (fun t i => t.addKnownPeer Externals.numeric (32 + i) [1] .notConnected 0)
        (RoutingTable.new ⟨0⟩)).putRecordToPeers Externals.numeric 0 [(52, 0)]).2.map
      KademliaPeer.peer = [32] := by
  decide +kernel

end RoutingTable

end Litep2p.Kademlia
