import Mathlib
import Litep2p.Lib.AListKeys
import Litep2p.Kademlia.Query

/-!
# The end of a `GET_PROVIDERS` query

`GetProvidersContext::found_providers` merges the providers the local store knew with those the
query found: one provider per peer, with the addresses of all its records, sorted by the distance
of the peer's key to the target (`mergeAndSortProviders_spec`). Whether the query ends with them
is decided by `next_action` on the found providers alone: a query that finds none fails, however
many the store knew (`getProviders_fails_with_known_providers`).
-/

namespace Litep2p.Kademlia

variable {P A : Type} [DecidableEq P] [DecidableEq A]

namespace GetProvidersContext

theorem mem_extendAddresses {addresses more : List A} {address : A} :
    address ∈ extendAddresses addresses more ↔ address ∈ addresses ∨ address ∈ more := by
  induction more generalizing addresses with
  | nil => simp [extendAddresses]
  | cons a more ih =>
    simp only [extendAddresses, List.foldl_cons] at ih ⊢
    rw [ih, List.mem_insert_iff, List.mem_cons]
    tauto

theorem nodup_extendAddresses {addresses : List A} (more : List A) (h : addresses.Nodup) :
    (extendAddresses addresses more).Nodup := by
  induction more generalizing addresses with
  | nil => exact h
  | cons a more ih => exact ih h.insert

def AddressOf (providers : List (KademliaPeer P A)) (peer : P) (address : A) : Prop :=
  ∃ provider ∈ providers, provider.peer = peer ∧ address ∈ provider.addresses

theorem foldl_mergeProviders (providers : List (KademliaPeer P A)) :
    ∀ (merged : AList fun _ : P => List A), (∀ p addresses, merged.lookup p = some addresses → addresses.Nodup) →
      let result := providers.foldl (fun merged provider => merged.insert provider.peer
        (extendAddresses ((merged.lookup provider.peer).getD []) provider.addresses)) merged
      (∀ p, p ∈ result ↔ p ∈ merged ∨ ∃ provider ∈ providers, provider.peer = p) ∧
      ∀ p addresses, result.lookup p = some addresses → addresses.Nodup ∧
        ∀ address, address ∈ addresses ↔
          address ∈ (merged.lookup p).getD [] ∨ AddressOf providers p address := by
  induction providers with
  | nil =>
    intro merged hnodup
    refine ⟨by simp, fun p addresses h => ⟨hnodup p addresses h, fun address => ?_⟩⟩
    rw [List.foldl_nil] at h
    simp [h, AddressOf]
  | cons provider providers ih =>
    intro merged hnodup
    set merged' := merged.insert provider.peer
      (extendAddresses ((merged.lookup provider.peer).getD []) provider.addresses) with hmerged'
    have hnodup' : ∀ p addresses, merged'.lookup p = some addresses → addresses.Nodup := by
      intro p addresses h
      by_cases hp : p = provider.peer
      · rw [hp, hmerged', AList.lookup_insert, Option.some.injEq] at h
        rw [← h]
        refine nodup_extendAddresses _ ?_
        cases hl : merged.lookup provider.peer with
        | none => exact List.nodup_nil
        | some addresses => exact hnodup provider.peer addresses hl
      · rw [hmerged', AList.lookup_insert_ne hp] at h
        exact hnodup p addresses h
    obtain ⟨hkeys, hvalues⟩ := ih merged' hnodup'
    refine ⟨fun p => ?_, fun p addresses h => ?_⟩
    · rw [List.foldl_cons, hkeys, hmerged', AList.mem_insert]
      simp only [List.mem_cons, exists_eq_or_imp]
      tauto
    · rw [List.foldl_cons] at h
      obtain ⟨hnd, hmem⟩ := hvalues p addresses h
      refine ⟨hnd, fun address => ?_⟩
      rw [hmem address]
      by_cases hp : p = provider.peer
      · subst hp
        simp only [hmerged', AList.lookup_insert, Option.getD_some, mem_extendAddresses, AddressOf,
          List.mem_cons, exists_eq_or_imp, true_and]
        tauto
      · simp only [hmerged', AList.lookup_insert_ne hp, AddressOf, List.mem_cons, exists_eq_or_imp,
          Ne.symm hp, false_and, false_or]

theorem mem_mergeProviders (providers : List (KademliaPeer P A)) (p : P) :
    p ∈ mergeProviders providers ↔ ∃ provider ∈ providers, provider.peer = p := by
  have := (foldl_mergeProviders providers ∅ (by simp)).1 p
  simpa [mergeProviders] using this

theorem lookup_mergeProviders {providers : List (KademliaPeer P A)} {p : P} {addresses : List A}
    (h : (mergeProviders providers).lookup p = some addresses) :
    addresses.Nodup ∧ ∀ address, address ∈ addresses ↔ AddressOf providers p address := by
  have := (foldl_mergeProviders providers ∅ (by simp)).2 p addresses h
  simpa using this

omit [DecidableEq A] in
theorem nextAction_new_nil (config : GetProvidersConfig P A) :
    (GetProvidersContext.new config []).nextAction =
      (GetProvidersContext.new config [], some (.queryFailed config.query)) := by
  simp [nextAction, GetProvidersContext.new, isDone, Candidates.ofPeers, SortedMap.isEmpty]

end GetProvidersContext

open GetProvidersContext

/-- A `GET_PROVIDERS` query started with no candidate, as `Kademlia` starts one when its routing
table is empty, is reported failed by the engine's first `next_action`, whatever providers the
local store knew. -/
theorem getProviders_fails_with_known_providers (x : WireExternals P A) (localPeerId : P)
    (replicationFactor parallelismFactor : Nat) (queryId : QueryId) (key : RecordKey)
    (knownProviders : List (ContentProvider P A)) (now : Nat) :
    (((QueryEngine.new localPeerId replicationFactor parallelismFactor).startGetProviders x queryId key []
      knownProviders).nextAction x now).map Prod.snd = .ok (some (.queryFailed queryId)) := by
  simp [QueryEngine.nextAction, QueryEngine.startGetProviders, QueryEngine.setQuery, QueryEngine.new,
    QueryEngine.nextActionOf, QueryType.nextAction, nextAction_new_nil, QueryEngine.onQueryFailed,
    Except.map]

/-- `merge_and_sort_providers` returns one provider per peer of its input, with the addresses of
all that peer's entries, each once, sorted by increasing distance of the peer's key to the
target. -/
theorem mergeAndSortProviders_spec (x : WireExternals P A) (providers : List (KademliaPeer P A))
    (target : KeyBytes) :
    (let result := mergeAndSortProviders x providers target
    (result.map (·.peer)).Nodup ∧
      (∀ peer, peer ∈ result.map (·.peer) ↔ ∃ provider ∈ providers, provider.peer = peer) ∧
      (∀ provider ∈ result, provider.addresses.Nodup ∧
        ∀ address, address ∈ provider.addresses ↔
          ∃ entry ∈ providers, entry.peer = provider.peer ∧ address ∈ entry.addresses) ∧
      result.Pairwise fun p₁ p₂ =>
        ((x.keyOf p₁.peer).distance target).val.toNat ≤ ((x.keyOf p₂.peer).distance target).val.toNat) := by
  intro result
  set unsorted : List (ContentProvider P A) :=
    (mergeProviders providers).entries.map fun entry => ⟨entry.1, entry.2⟩ with hunsorted
  have hperm : result.Perm unsorted := List.mergeSort_perm _ _
  have hpeers : unsorted.map (·.peer) = (mergeProviders providers).keys := by
    simp [hunsorted, AList.keys, List.keys]
  refine ⟨?_, fun peer => ?_, fun provider hprovider => ?_, ?_⟩
  · rw [(hperm.map _).nodup_iff, hpeers]
    exact (mergeProviders providers).nodupKeys
  · rw [(hperm.map _).mem_iff, hpeers, ← AList.mem_keys, mem_mergeProviders]
  · obtain ⟨entry, hentry, rfl⟩ := List.mem_map.mp (hperm.mem_iff.mp hprovider)
    exact lookup_mergeProviders (AList.mem_lookup_iff.mpr hentry)
  · refine (List.pairwise_mergeSort (fun a b c hab hbc => ?_) (fun a b => ?_) unsorted).imp
      fun h => of_decide_eq_true h
    · simp only [decide_eq_true_eq] at hab hbc ⊢
      exact le_trans hab hbc
    · simpa using le_total _ _

end Litep2p.Kademlia
