import Mathlib
import Litep2p.Lib.TopK
import Litep2p.Kademlia.Store

/-!
# The provider lists of the store

`put_provider` keeps the provider list of a key sorted by the distance from each provider to the
key, and at most `max_providers_per_key` long: a provider already in the list is updated in place,
one that falls beyond the end of a full list is refused, and any other is inserted, the farthest
record of a full list dropped first. These are the window rules of `TopK`, one at each answer of
the binary search. Over any sequence of puts of one key, from a new store that may hold a provider
key and before any record expires, the list is the `max_providers_per_key` providers closest to the
key among the peers put so far, each with its latest record, and each put answers whether its
provider is in that list afterwards (`putProviders_closest`). A store that may hold no provider key
refuses every provider (`putProvider_refused_without_provider_keys`).
-/

namespace Litep2p.Kademlia

open BinarySearch TopK MemoryStore

variable {P A : Type} [DecidableEq P]

/-- The record `put_provider` makes of `provider` at the time `now`. -/
def providerRecordOf (config : MemoryStoreConfig) (key : RecordKey) (now : Nat)
    (provider : ContentProvider P A) : ProviderRecord P A :=
  { key, provider := provider.peer, addresses := provider.addresses.take config.maxProviderAddresses,
    expires := now + config.providerTtl }

def putProviders (x : WireExternals P A) (s : MemoryStore P A) (key : RecordKey)
    (puts : List (Nat × ContentProvider P A)) : MemoryStore P A :=
  puts.foldl (fun s put => (s.putProvider x put.1 key put.2).1) s

def providersOf (s : MemoryStore P A) (key : RecordKey) : List (ProviderRecord P A) :=
  (s.providerKeys.lookup key).getD []

/-- The record of the latest put of each peer, in the order of those puts. -/
def latestRecords (config : MemoryStoreConfig) (key : RecordKey)
    (puts : List (Nat × ContentProvider P A)) : List (ProviderRecord P A) :=
  puts.foldl (fun records put => records.filter (fun r => r.provider ≠ put.2.peer) ++
    [providerRecordOf config key put.1 put.2]) []

/-- The `max_providers_per_key` latest records closest to the key, by increasing distance. -/
def closestProviders (x : WireExternals P A) (config : MemoryStoreConfig) (key : RecordKey)
    (puts : List (Nat × ContentProvider P A)) : List (ProviderRecord P A) :=
  ((latestRecords config key puts).mergeSort fun a b => a.distanceKey x ≤ b.distanceKey x).take
    config.maxProvidersPerKey

theorem latestRecords_append (config : MemoryStoreConfig) (key : RecordKey)
    (puts : List (Nat × ContentProvider P A)) (put : Nat × ContentProvider P A) :
    latestRecords config key (puts ++ [put]) =
      (latestRecords config key puts).filter (fun r => r.provider ≠ put.2.peer) ++
        [providerRecordOf config key put.1 put.2] := by
  simp only [latestRecords, List.foldl_append, List.foldl_cons, List.foldl_nil]

theorem latestRecords_spec (config : MemoryStoreConfig) (key : RecordKey)
    (puts : List (Nat × ContentProvider P A)) :
    (∀ r ∈ latestRecords config key puts, ∃ put ∈ puts, r = providerRecordOf config key put.1 put.2) ∧
      ((latestRecords config key puts).map (·.provider)).Nodup := by
  induction puts using List.reverseRecOn with
  | nil => simp [latestRecords]
  | append_singleton puts put ih =>
    obtain ⟨hmem, hnodup⟩ := ih
    rw [latestRecords_append]
    refine ⟨fun r hr => ?_, ?_⟩
    · rcases List.mem_append.mp hr with hr | hr
      · obtain ⟨put', hput', rfl⟩ := hmem r (List.mem_of_mem_filter hr)
        exact ⟨put', List.mem_append_left _ hput', rfl⟩
      · exact ⟨put, List.mem_append_right _ (List.mem_singleton_self _), List.mem_singleton.mp hr⟩
    · rw [List.map_append, List.nodup_append]
      refine ⟨hnodup.sublist (List.filter_sublist.map _), List.nodup_singleton _, ?_⟩
      intro p hp q hq
      obtain ⟨r, hr, rfl⟩ := List.mem_map.mp hp
      simp only [List.map_cons, List.map_nil, List.mem_singleton] at hq
      rw [hq]
      simpa [providerRecordOf] using (List.mem_filter.mp hr).2

omit [DecidableEq P] in
theorem provider_eq_of_distanceKey_eq {x : WireExternals P A} (hkey : Function.Injective x.keyOf)
    {a b : ProviderRecord P A} (hab : a.key = b.key) (h : a.distanceKey x = b.distanceKey x) :
    a.provider = b.provider := by
  have hdist : a.distance x = b.distance x := Distance.mk.injEq _ _ ▸ BitVec.eq_of_toNat_eq h
  unfold ProviderRecord.distance at hdist
  rw [hab, distance_comm, distance_comm (x.keyOf b.provider)] at hdist
  exact hkey (distance_injective _ hdist)

/-- What `put_provider` can do to the provider lists, and what it answers, with `r` the record it
makes: a key with no list gets `[r]` while there is room for a key; a call is refused when there is
none, or when the search puts `r` at the end of a full list; otherwise `r` replaces the record at
its distance, or is inserted where the search puts it, the farthest record of a full list dropped
first. -/
theorem putProvider_cases {x : WireExternals P A} {s s' : MemoryStore P A} {now : Nat}
    {key : RecordKey} {provider : ContentProvider P A} {added : Bool} {r : ProviderRecord P A}
    (h : s.putProvider x now key provider = (s', added))
    (hr : providerRecordOf s.config key now provider = r) :
    s'.config = s.config ∧
      ((s.providerKeys.lookup key = none ∧ s.providerKeys.keys.length < s.config.maxProviderKeys ∧
          s'.providerKeys = s.providerKeys.insert key [r] ∧ added = true) ∨
        (s'.providerKeys = s.providerKeys ∧ added = false ∧
          ((s.providerKeys.lookup key = none ∧
              ¬ s.providerKeys.keys.length < s.config.maxProviderKeys) ∨
            ∃ L i, s.providerKeys.lookup key = some L ∧
            binarySearchBy (ProviderRecord.distanceKey x) (r.distanceKey x) L = .error i ∧
            i = s.config.maxProvidersPerKey)) ∨
        (∃ L i, s.providerKeys.lookup key = some L ∧
          binarySearchBy (ProviderRecord.distanceKey x) (r.distanceKey x) L = .ok i ∧
          s'.providerKeys = s.providerKeys.insert key (L.set i r) ∧ added = true) ∨
        (∃ L i, s.providerKeys.lookup key = some L ∧
          binarySearchBy (ProviderRecord.distanceKey x) (r.distanceKey x) L = .error i ∧
          i ≠ s.config.maxProvidersPerKey ∧
          s'.providerKeys = s.providerKeys.insert key
            ((if L.length = s.config.maxProvidersPerKey then L.dropLast else L).insertIdx i r) ∧
          added = true)) := by
  subst hr
  unfold MemoryStore.putProvider at h
  dsimp only at h
  have hframe := scheduleIf_frame (provider.peer = s.localPeerId) s now
    { key, provider := provider.peer, addresses := provider.addresses.take s.config.maxProviderAddresses,
      expires := now + s.config.providerTtl }
  generalize hs₁ : (if provider.peer = s.localPeerId then s.scheduleLocalProviderRefresh now
    { key, provider := provider.peer, addresses := provider.addresses.take s.config.maxProviderAddresses,
      expires := now + s.config.providerTtl } else s) = s₁ at h hframe
  obtain ⟨-, hp, hc⟩ := hframe
  split at h
  · rename_i hl
    split_ifs at h with hcan
    · cases h
      exact ⟨hc, .inl ⟨hl, hcan, congrArg (AList.insert key _) hp, rfl⟩⟩
    · cases h
      exact ⟨rfl, .inr (.inl ⟨rfl, rfl, .inl ⟨hl, hcan⟩⟩)⟩
  · rename_i L hl
    split at h
    · rename_i i hok
      cases h
      exact ⟨hc, .inr (.inr (.inl ⟨L, i, hl, hok, congrArg (AList.insert key _) hp, rfl⟩))⟩
    · rename_i i herr
      by_cases hi : i = s.config.maxProvidersPerKey
      · rw [if_pos hi] at h
        cases h
        exact ⟨rfl, .inr (.inl ⟨rfl, rfl, .inr ⟨L, i, hl, herr, hi⟩⟩)⟩
      · rw [if_neg hi] at h
        cases h
        exact ⟨hc, .inr (.inr (.inr ⟨L, i, hl, herr, hi, congrArg (AList.insert key _) hp, rfl⟩))⟩

section Window

variable [DecidableEq A] {x : WireExternals P A} {m : Nat} {key : RecordKey}
  {R : Finset (ProviderRecord P A)} {L : List (ProviderRecord P A)} {r : ProviderRecord P A}

structure OnePerPeer (key : RecordKey) (R : Finset (ProviderRecord P A)) : Prop where
  key_eq : ∀ a ∈ R, a.key = key
  provider_inj : ∀ a ∈ R, ∀ b ∈ R, a.provider = b.provider → a = b

theorem OnePerPeer.filter_provider (hR : OnePerPeer key R) (p : P) :
    (∃ r₀ ∈ R, r₀.provider = p ∧ R.filter (fun a => a.provider ≠ p) = R.erase r₀) ∨
      ((∀ a ∈ R, a.provider ≠ p) ∧ R.filter (fun a => a.provider ≠ p) = R) := by
  by_cases hp : ∃ r₀ ∈ R, r₀.provider = p
  · obtain ⟨r₀, hr₀, hp₀⟩ := hp
    refine .inl ⟨r₀, hr₀, hp₀, Finset.ext fun a => ?_⟩
    rw [Finset.mem_filter, Finset.mem_erase]
    constructor
    · rintro ⟨ha, hap⟩
      exact ⟨fun har => hap (har ▸ hp₀), ha⟩
    · rintro ⟨har, ha⟩
      exact ⟨ha, fun hap => har (hR.provider_inj a ha r₀ hr₀ (hap.trans hp₀.symm))⟩
  · simp only [not_exists, not_and] at hp
    exact .inr ⟨hp, Finset.filter_true_of_mem hp⟩

omit [DecidableEq P] [DecidableEq A] in
theorem OnePerPeer.distanceKey_eq (hR : OnePerPeer key R) (hr : r.key = key) {a : ProviderRecord P A}
    (ha : a ∈ R) (hp : a.provider = r.provider) : a.distanceKey x = r.distanceKey x := by
  simp only [ProviderRecord.distanceKey, ProviderRecord.distance, hp, hR.key_eq a ha, hr]

omit [DecidableEq P] [DecidableEq A] in
theorem error_spec (hw : IsTopK (ProviderRecord.distanceKey x) m R L) {i : Nat}
    (herr : binarySearchBy (ProviderRecord.distanceKey x) (r.distanceKey x) L = .error i) :
    (∀ a ∈ L, a.distanceKey x ≠ r.distanceKey x) ∧ i ≤ L.length ∧
      (i = L.length ↔ ∀ a ∈ L, a.distanceKey x < r.distanceKey x) := by
  obtain ⟨hile, hbelow, habove⟩ := binarySearchBy_eq_error hw.sorted herr
  have hne : ∀ a ∈ L, a.distanceKey x ≠ r.distanceKey x := by
    intro a ha heq
    obtain ⟨j, hj, rfl⟩ := List.mem_iff_getElem.mp ha
    rcases Nat.lt_or_ge j i with hji | hij
    · exact absurd heq (hbelow j hj hji).ne
    · exact absurd heq (habove j hj hij).ne'
  refine ⟨hne, hile, ⟨fun hi a ha => ?_, fun hall => ?_⟩⟩
  · obtain ⟨j, hj, rfl⟩ := List.mem_iff_getElem.mp ha
    exact hbelow j hj (hi ▸ hj)
  · by_contra hi
    have hlt : i < L.length := lt_of_le_of_ne hile hi
    exact lt_asymm (hall _ (List.getElem_mem hlt)) (habove i hlt le_rfl)

variable (hR : OnePerPeer key R) (hr : r.key = key) (hw : IsTopK (ProviderRecord.distanceKey x) m R L)
include hR hr hw

theorem window_of_ok (hkey : Function.Injective x.keyOf) {i : Nat}
    (hok : binarySearchBy (ProviderRecord.distanceKey x) (r.distanceKey x) L = .ok i) :
    IsTopK (ProviderRecord.distanceKey x) m (insert r (R.filter fun a => a.provider ≠ r.provider))
      (L.set i r) ∧ r ∈ L.set i r := by
  obtain ⟨hi, hfi⟩ := binarySearchBy_eq_ok hok
  have hmemR : L[i] ∈ R := hw.subset _ (List.getElem_mem hi)
  have hpeer : L[i].provider = r.provider :=
    provider_eq_of_distanceKey_eq hkey ((hR.key_eq _ hmemR).trans hr.symm) hfi
  have hfilter : R.filter (fun a => a.provider ≠ r.provider) = R.erase L[i] := by
    rcases hR.filter_provider r.provider with ⟨r₀, hr₀, hp₀, heq⟩ | ⟨hnone, -⟩
    · rw [heq, hR.provider_inj _ hmemR r₀ hr₀ (hpeer.trans hp₀.symm)]
    · exact absurd hpeer (hnone _ hmemR)
  have hrR : r ∉ R.erase L[i] := fun hrR => by
    obtain ⟨hne, hrR⟩ := Finset.mem_erase.mp hrR
    exact hne (hR.provider_inj r hrR L[i] hmemR hpeer.symm)
  rw [hfilter]
  exact ⟨hw.replace_of_mem (List.getElem_mem hi) hrR hfi.symm
    (strictlySorted_set_of_ok hw.sorted hok rfl) fun b => mem_set_of_nodup hi hw.nodup r b,
    List.mem_set hi r⟩

theorem window_of_error_refused {i : Nat}
    (herr : binarySearchBy (ProviderRecord.distanceKey x) (r.distanceKey x) L = .error i)
    (hi : i = m) :
    IsTopK (ProviderRecord.distanceKey x) m (insert r (R.filter fun a => a.provider ≠ r.provider)) L ∧
      r.provider ∉ L.map (·.provider) := by
  obtain ⟨hne, hile, hend⟩ := error_spec hw herr
  have hlen : L.length = m := le_antisymm (hw.length_eq ▸ min_le_left _ _) (hi ▸ hile)
  have hall := hend.mp (hi.trans hlen.symm)
  have hnot : r.provider ∉ L.map (·.provider) := fun hmem => by
    obtain ⟨a, ha, hpa⟩ := List.mem_map.mp hmem
    exact hne a ha (hR.distanceKey_eq hr (hw.subset a ha) hpa)
  refine ⟨?_, hnot⟩
  rcases hR.filter_provider r.provider with ⟨r₀, hr₀, hp₀, heq⟩ | ⟨hnone, heq⟩
  · have hr₀L : r₀ ∉ L := fun hr₀L => hnot (List.mem_map.mpr ⟨r₀, hr₀L, hp₀⟩)
    have hrR : r ∉ R.erase r₀ := fun hrR => by
      obtain ⟨hne, hrR⟩ := Finset.mem_erase.mp hrR
      exact hne (hR.provider_inj r hrR r₀ hr₀ hp₀.symm)
    rw [heq]
    exact hw.replace_of_not_mem hr₀ hr₀L hrR (hR.distanceKey_eq hr hr₀ hp₀).symm
  · rw [heq]
    exact hw.insert_of_lt hlen hall

theorem no_record_of_error {i : Nat}
    (herr : binarySearchBy (ProviderRecord.distanceKey x) (r.distanceKey x) L = .error i)
    (hi : i ≠ m) : ∀ a ∈ R, a.provider ≠ r.provider := by
  obtain ⟨hne, -, hend⟩ := error_spec hw herr
  rcases hR.filter_provider r.provider with ⟨r₀, hr₀, hp₀, -⟩ | ⟨hnone, -⟩
  · exfalso
    have hdist : r₀.distanceKey x = r.distanceKey x := hR.distanceKey_eq hr hr₀ hp₀
    have hr₀L : r₀ ∉ L := fun hr₀L => hne r₀ hr₀L hdist
    have hlen : L.length = m := by
      by_contra hlt
      exact hr₀L (hw.mem_of_length_lt (lt_of_le_of_ne (hw.length_eq ▸ min_le_left _ _) hlt) hr₀)
    exact hi (hlen ▸ hend.mpr fun a ha => hdist ▸ hw.least r₀ hr₀ hr₀L a ha)
  · exact hnone

theorem window_of_error_inserted {i : Nat}
    (herr : binarySearchBy (ProviderRecord.distanceKey x) (r.distanceKey x) L = .error i)
    (hi : i ≠ m) :
    IsTopK (ProviderRecord.distanceKey x) m (insert r (R.filter fun a => a.provider ≠ r.provider))
      ((if L.length = m then L.dropLast else L).insertIdx i r) ∧
      r ∈ (if L.length = m then L.dropLast else L).insertIdx i r := by
  obtain ⟨hne, hile, hend⟩ := error_spec hw herr
  have hlenm : L.length ≤ m := hw.length_eq ▸ min_le_left _ _
  have hnone := no_record_of_error hR hr hw herr hi
  have hrR : r ∉ R := fun hrR => hnone r hrR rfl
  rw [Finset.filter_true_of_mem hnone]
  split
  · rename_i hfull
    rcases List.eq_nil_or_concat' L with rfl | ⟨L₀, w, rfl⟩
    · rw [List.length_nil] at hfull hile
      omega
    rw [List.dropLast_concat]
    have hil : i ≤ L₀.length := by
      rw [List.length_append, List.length_singleton] at hfull hile
      omega
    obtain ⟨a, ha, hra⟩ : ∃ a ∈ L₀ ++ [w], r.distanceKey x ≤ a.distanceKey x := by
      by_contra hall
      simp only [not_exists, not_and, not_le] at hall
      exact hi (hfull ▸ hend.mpr hall)
    have hlt : r.distanceKey x < w.distanceKey x :=
      lt_of_le_of_ne (hra.trans (le_last hw.sorted ha)) fun heq => hne w (by simp) heq.symm
    exact ⟨hw.insert_of_lt_last hfull hrR hlt
      (strictlySorted_insertIdx_of_error hw.sorted herr rfl (List.prefix_append L₀ [w]) hil)
      fun b => List.mem_insertIdx hil, (List.mem_insertIdx hil).mpr (.inl rfl)⟩
  · rename_i hnotfull
    exact ⟨hw.insert_of_length_lt (lt_of_le_of_ne hlenm hnotfull) hrR
      (strictlySorted_insertIdx_of_error hw.sorted herr rfl (List.prefix_refl L) hile)
      fun b => List.mem_insertIdx hile, (List.mem_insertIdx hile).mpr (.inl rfl)⟩

end Window

section Run

variable [DecidableEq A] (x : WireExternals P A)

/-- What a store keeps of the provider list of `key` against the latest records `R` of its puts:
no other key has a list, the key's list is not empty when it is there, and it is the window of
`R`. -/
structure ClosestInv (config : MemoryStoreConfig) (key : RecordKey) (R : Finset (ProviderRecord P A))
    (s : MemoryStore P A) : Prop where
  config_eq : s.config = config
  keys_eq : ∀ k ∈ s.providerKeys, k = key
  ne_nil : s.providerKeys.lookup key ≠ some []
  window : IsTopK (ProviderRecord.distanceKey x) config.maxProvidersPerKey R (providersOf s key)

variable {x} {config : MemoryStoreConfig} {key : RecordKey} {R R' : Finset (ProviderRecord P A)}
  {s s' : MemoryStore P A}

omit [DecidableEq P] [DecidableEq A] in
theorem providersOf_of_lookup {L : List (ProviderRecord P A)} (h : s.providerKeys.lookup key = some L) :
    providersOf s key = L := by
  rw [providersOf, h, Option.getD_some]

omit [DecidableEq P] [DecidableEq A] in
theorem ClosestInv.keys_eq_nil (h : ClosestInv x config key R s) (hl : s.providerKeys.lookup key = none) :
    s.providerKeys.keys = [] := by
  refine List.eq_nil_iff_forall_not_mem.mpr fun k hk => ?_
  have hmem : k ∈ s.providerKeys := AList.mem_keys.mp hk
  rw [h.keys_eq k hmem] at hmem
  exact absurd hl (Option.isSome_iff_ne_none.mp (AList.lookup_isSome.mpr hmem))

omit [DecidableEq P] [DecidableEq A] in
theorem ClosestInv.insertList (h : ClosestInv x config key R s) {L' : List (ProviderRecord P A)}
    (hconfig : s'.config = config) (hkeys : s'.providerKeys = s.providerKeys.insert key L')
    (hL' : L' ≠ []) (hw : IsTopK (ProviderRecord.distanceKey x) config.maxProvidersPerKey R' L') :
    ClosestInv x config key R' s' where
  config_eq := hconfig
  keys_eq k hk := by
    rw [hkeys, AList.mem_insert] at hk
    exact hk.elim id (h.keys_eq k)
  ne_nil := by
    rw [hkeys, AList.lookup_insert]
    exact fun heq => hL' (Option.some.inj heq)
  window := by
    rw [providersOf_of_lookup (by rw [hkeys, AList.lookup_insert])]
    exact hw

omit [DecidableEq P] [DecidableEq A] in
theorem ClosestInv.insertList_mem (h : ClosestInv x config key R s) {L' : List (ProviderRecord P A)}
    {r : ProviderRecord P A} (hconfig : s'.config = config)
    (hkeys : s'.providerKeys = s.providerKeys.insert key L') (hr : r ∈ L')
    (hw : IsTopK (ProviderRecord.distanceKey x) config.maxProvidersPerKey R' L') :
    ClosestInv x config key R' s' ∧ r.provider ∈ (providersOf s' key).map (·.provider) := by
  refine ⟨h.insertList hconfig hkeys (List.ne_nil_of_mem hr) hw, ?_⟩
  rw [providersOf_of_lookup (by rw [hkeys, AList.lookup_insert])]
  exact List.mem_map_of_mem hr

omit [DecidableEq P] [DecidableEq A] in
theorem ClosestInv.window_of_lookup (h : ClosestInv x config key R s) {L : List (ProviderRecord P A)}
    (hl : s.providerKeys.lookup key = some L) :
    IsTopK (ProviderRecord.distanceKey x) config.maxProvidersPerKey R L :=
  providersOf_of_lookup hl ▸ h.window

omit [DecidableEq P] [DecidableEq A] in
theorem ClosestInv.keep (h : ClosestInv x config key R s) (hconfig : s'.config = config)
    (hkeys : s'.providerKeys = s.providerKeys)
    (hw : IsTopK (ProviderRecord.distanceKey x) config.maxProvidersPerKey R' (providersOf s key)) :
    ClosestInv x config key R' s' where
  config_eq := hconfig
  keys_eq := hkeys ▸ h.keys_eq
  ne_nil := hkeys ▸ h.ne_nil
  window := by
    rw [providersOf, hkeys]
    exact hw

/-- One put keeps the invariant, with its record as the latest of its peer, and answers whether its
peer is in the list afterwards. -/
theorem ClosestInv.putProvider (hkey : Function.Injective x.keyOf) (hper : 1 ≤ config.maxProvidersPerKey)
    (hkeys : 1 ≤ config.maxProviderKeys) (hR : OnePerPeer key R) (h : ClosestInv x config key R s)
    (now : Nat) (provider : ContentProvider P A) :
    ClosestInv x config key (insert (providerRecordOf config key now provider)
        (R.filter fun a => a.provider ≠ provider.peer)) (s.putProvider x now key provider).1 ∧
      ((s.putProvider x now key provider).2 = true ↔
        provider.peer ∈ (providersOf (s.putProvider x now key provider).1 key).map (·.provider)) := by
  rcases hput : s.putProvider x now key provider with ⟨s', added⟩
  obtain ⟨hconfig, hcases⟩ := putProvider_cases hput rfl
  rw [h.config_eq] at hconfig hcases
  have hr : (providerRecordOf config key now provider).key = key := rfl
  change ClosestInv x config key (insert (providerRecordOf config key now provider)
      (R.filter fun a => a.provider ≠ (providerRecordOf config key now provider).provider)) s' ∧
    (added = true ↔ (providerRecordOf config key now provider).provider ∈ (providersOf s' key).map (·.provider))
  generalize providerRecordOf config key now provider = r at hr hcases ⊢
  rcases hcases with ⟨hl, -, hkeys', rfl⟩ | ⟨hkeys', rfl, ⟨hl, hcan⟩ | ⟨L, i, hl, herr, hi⟩⟩ |
    ⟨L, i, hl, hok, hkeys', rfl⟩ | ⟨L, i, hl, herr, hi, hkeys', rfl⟩
  · have hw := h.window
    rw [providersOf, hl, Option.getD_none] at hw
    have hRempty : R = ∅ := by
      have hlen := hw.length_eq
      rw [List.length_nil] at hlen
      exact Finset.card_eq_zero.mp (by omega)
    subst hRempty
    have hsingle : IsTopK (ProviderRecord.distanceKey x) config.maxProvidersPerKey {r} [r] :=
      isTopK_empty.insert_of_length_lt hper (Finset.notMem_empty r) (List.pairwise_singleton _ r)
        fun b => by simp
    rw [Finset.filter_empty, insert_empty_eq]
    obtain ⟨hinv, hin⟩ := h.insertList_mem hconfig hkeys' (List.mem_singleton_self r) hsingle
    exact ⟨hinv, iff_of_true rfl hin⟩
  · have hnil := h.keys_eq_nil hl
    rw [hnil, List.length_nil] at hcan
    omega
  · obtain ⟨hwin, hnot⟩ := window_of_error_refused hR hr (h.window_of_lookup hl) herr hi
    refine ⟨h.keep hconfig hkeys' (by rw [providersOf_of_lookup hl]; exact hwin), ?_⟩
    rw [providersOf, hkeys', ← providersOf, providersOf_of_lookup hl]
    simpa using hnot
  · obtain ⟨hwin, hmem⟩ := window_of_ok hR hr (h.window_of_lookup hl) hkey hok
    obtain ⟨hinv, hin⟩ := h.insertList_mem hconfig hkeys' hmem hwin
    exact ⟨hinv, iff_of_true rfl hin⟩
  · obtain ⟨hwin, hmem⟩ := window_of_error_inserted hR hr (h.window_of_lookup hl) herr hi
    obtain ⟨hinv, hin⟩ := h.insertList_mem hconfig hkeys' hmem hwin
    exact ⟨hinv, iff_of_true rfl hin⟩

omit [DecidableEq A] in
theorem putProviders_append (s : MemoryStore P A) (key : RecordKey)
    (puts : List (Nat × ContentProvider P A)) (put : Nat × ContentProvider P A) :
    putProviders x s key (puts ++ [put]) = ((putProviders x s key puts).putProvider x put.1 key put.2).1 := by
  simp only [putProviders, List.foldl_append, List.foldl_cons, List.foldl_nil]

theorem onePerPeer_latestRecords (config : MemoryStoreConfig) (key : RecordKey)
    (puts : List (Nat × ContentProvider P A)) :
    OnePerPeer key (latestRecords config key puts).toFinset := by
  obtain ⟨hmem, hnodup⟩ := latestRecords_spec config key puts
  refine ⟨fun a ha => ?_, fun a ha b hb hab => ?_⟩
  · obtain ⟨put, -, rfl⟩ := hmem a (List.mem_toFinset.mp ha)
    rfl
  · exact List.inj_on_of_nodup_map hnodup (List.mem_toFinset.mp ha) (List.mem_toFinset.mp hb) hab

theorem toFinset_latestRecords_append (config : MemoryStoreConfig) (key : RecordKey)
    (puts : List (Nat × ContentProvider P A)) (put : Nat × ContentProvider P A) :
    (latestRecords config key (puts ++ [put])).toFinset =
      insert (providerRecordOf config key put.1 put.2)
        ((latestRecords config key puts).toFinset.filter fun a => a.provider ≠ put.2.peer) := by
  ext a
  simp [latestRecords_append, or_comm]

/-- Along every sequence of puts of `key`, from a new store that may hold a provider key, the
provider list of `key` is the window of the latest records. -/
theorem closestInv_putProviders (hkey : Function.Injective x.keyOf) (localPeerId : P)
    (hper : 1 ≤ config.maxProvidersPerKey) (hkeys : 1 ≤ config.maxProviderKeys)
    (puts : List (Nat × ContentProvider P A)) :
    ClosestInv x config key (latestRecords config key puts).toFinset
      (putProviders x (withConfig localPeerId config) key puts) := by
  induction puts using List.reverseRecOn with
  | nil =>
    refine ⟨rfl, by simp [putProviders, withConfig], by simp [putProviders, withConfig], ?_⟩
    simpa [putProviders, providersOf, withConfig, latestRecords] using isTopK_empty
  | append_singleton puts put ih =>
    rw [putProviders_append, toFinset_latestRecords_append]
    exact (ih.putProvider hkey hper hkeys (onePerPeer_latestRecords config key puts) put.1 put.2).1

/-- The spec's list is the window of the latest records: sorting by distance orders them strictly,
no two peers being at one distance. -/
theorem closestProviders_isTopK (hkey : Function.Injective x.keyOf) (config : MemoryStoreConfig)
    (key : RecordKey) (puts : List (Nat × ContentProvider P A)) :
    IsTopK (ProviderRecord.distanceKey x) config.maxProvidersPerKey
      (latestRecords config key puts).toFinset (closestProviders x config key puts) := by
  set records := latestRecords config key puts
  have hperm := List.mergeSort_perm records fun a b => a.distanceKey x ≤ b.distanceKey x
  have hR := onePerPeer_latestRecords config key puts
  have hdistinct : (records.map (ProviderRecord.distanceKey x)).Nodup := by
    refine List.Nodup.map_on (fun a ha b hb hab => ?_) (List.Nodup.of_map _ (latestRecords_spec config key puts).2)
    have ha' := List.mem_toFinset.mpr ha
    have hb' := List.mem_toFinset.mpr hb
    exact hR.provider_inj a ha' b hb'
      (provider_eq_of_distanceKey_eq hkey ((hR.key_eq a ha').trans (hR.key_eq b hb').symm) hab)
  have hle : (records.mergeSort fun a b => a.distanceKey x ≤ b.distanceKey x).Pairwise
      fun a b => decide (a.distanceKey x ≤ b.distanceKey x) = true :=
    List.pairwise_mergeSort
      (fun a b c hab hbc => by simp only [decide_eq_true_eq] at hab hbc ⊢; exact le_trans hab hbc)
      (fun a b => by simpa using le_total (a.distanceKey x) (b.distanceKey x)) records
  have hne := List.pairwise_map.mp ((hperm.map _).nodup_iff.mpr hdistinct)
  have hsorted : (records.mergeSort fun a b => a.distanceKey x ≤ b.distanceKey x).Pairwise
      fun a b => a.distanceKey x < b.distanceKey x :=
    (hle.and hne).imp fun h => lt_of_le_of_ne (of_decide_eq_true h.1) h.2
  rw [← List.toFinset_eq_of_perm _ _ hperm]
  exact isTopK_take hsorted config.maxProvidersPerKey

theorem providersOf_putProviders (hkey : Function.Injective x.keyOf) (localPeerId : P)
    (hper : 1 ≤ config.maxProvidersPerKey) (hkeys : 1 ≤ config.maxProviderKeys)
    (puts : List (Nat × ContentProvider P A)) :
    providersOf (putProviders x (withConfig localPeerId config) key puts) key =
      closestProviders x config key puts :=
  (closestInv_putProviders hkey localPeerId hper hkeys puts).window.unique
    (closestProviders_isTopK hkey config key puts)

end Run

/-- For every configuration that keeps at least one provider per key and may hold a provider key,
distinct peers having distinct keys: after any sequence of puts of one key into a new store,
`get_providers` at a time before any of their records expires returns the
`max_providers_per_key` providers closest to the key among the peers put so far, by increasing
distance, each with the truncated addresses of its latest put; and each put answers whether its
provider is in that list afterwards. -/
theorem putProviders_closest [DecidableEq A] (x : WireExternals P A) (hkey : Function.Injective x.keyOf)
    (localPeerId : P) (config : MemoryStoreConfig) (hper : 1 ≤ config.maxProvidersPerKey)
    (hkeys : 1 ≤ config.maxProviderKeys) (key : RecordKey) :
    (∀ (puts : List (Nat × ContentProvider P A)) (now : Nat),
      (∀ put ∈ puts, now < put.1 + config.providerTtl) →
      ((putProviders x (withConfig localPeerId config) key puts).getProviders now key).2 =
        (closestProviders x config key puts).map fun r => ⟨r.provider, r.addresses⟩) ∧
    ∀ (puts : List (Nat × ContentProvider P A)) (now : Nat) (provider : ContentProvider P A),
      ((putProviders x (withConfig localPeerId config) key puts).putProvider x now key provider).2 =
        decide (provider.peer ∈
          (closestProviders x config key (puts ++ [(now, provider)])).map (·.provider)) := by
  refine ⟨fun puts now hnow => ?_, fun puts now provider => ?_⟩
  · have h : ClosestInv x config key (latestRecords config key puts).toFinset
        (putProviders x (withConfig localPeerId config) key puts) :=
      closestInv_putProviders hkey localPeerId hper hkeys puts
    rw [← providersOf_putProviders hkey localPeerId hper hkeys puts]
    unfold MemoryStore.getProviders
    split
    · rename_i hl
      rw [providersOf, hl]
      rfl
    · rename_i L hl
      have hw := h.window
      rw [providersOf_of_lookup hl] at hw ⊢
      have hfresh : ∀ a ∈ L, (!a.isExpired now) = true := by
        intro a ha
        obtain ⟨put, hput, rfl⟩ := (latestRecords_spec config key puts).1 a
          (List.mem_toFinset.mp (hw.subset a ha))
        show (!decide ((providerRecordOf config key put.1 put.2).expires ≤ now)) = true
        rw [Bool.not_eq_true', decide_eq_false_iff_not, not_le]
        exact hnow put hput
      have hne : L ≠ [] := fun hL => h.ne_nil (hL ▸ hl)
      simp [List.filter_eq_self.mpr hfresh, hne]
  · have h : ClosestInv x config key (latestRecords config key puts).toFinset
        (putProviders x (withConfig localPeerId config) key puts) :=
      closestInv_putProviders hkey localPeerId hper hkeys puts
    have hstep := (h.putProvider hkey hper hkeys (onePerPeer_latestRecords config key puts) now provider).2
    have happend := putProviders_append (x := x) (withConfig localPeerId config) key puts (now, provider)
    dsimp only at happend
    rw [← happend, providersOf_putProviders hkey localPeerId hper hkeys] at hstep
    rw [Bool.eq_iff_iff, decide_eq_true_iff]
    exact hstep

theorem putProviders_closest_keyed_run :
    ((putProviders WireExternals.keyed (withConfig ⟨0⟩ MemoryStoreConfig.default) [0]
        [(0, ⟨⟨1⟩, []⟩), (1, ⟨⟨2⟩, []⟩)]).getProviders 2 [0]).2 =
      (closestProviders WireExternals.keyed MemoryStoreConfig.default [0]
        [(0, ⟨⟨1⟩, []⟩), (1, ⟨⟨2⟩, []⟩)]).map fun r => ⟨r.provider, r.addresses⟩ :=
  (putProviders_closest WireExternals.keyed Function.injective_id ⟨0⟩ MemoryStoreConfig.default
    (by decide) (by decide) [0]).1 _ 2 (by decide)

/-- A configuration that may hold no provider key: the one provider put is refused, and
`get_providers` returns no provider. -/
theorem putProvider_refused_without_provider_keys :
    ((MemoryStore.withConfig 0 { MemoryStoreConfig.default with maxProviderKeys := 0 } :
        MemoryStore Nat Nat).putProvider WireExternals.numeric 0 [0] ⟨1, []⟩).2 = false ∧
      ((putProviders WireExternals.numeric (withConfig 0 { MemoryStoreConfig.default with maxProviderKeys := 0 })
        [0] [(0, ⟨1, []⟩)]).getProviders 0 [0]).2 = [] := by
  decide

end Litep2p.Kademlia
