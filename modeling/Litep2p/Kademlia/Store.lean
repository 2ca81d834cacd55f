import Mathlib
import Litep2p.Lib.AListKeys
import Litep2p.Lib.BinarySearch
import Litep2p.Lib.Reachable
import Litep2p.Kademlia.Message

/-!
# The record store

`protocol/libp2p/kademlia/store.rs`: `MemoryStore` keeps records by key, the provider records of
each key sorted by the distance from the provider to the key, and the keys the local peer provides
(`local_providers`), each with a future that fires when the local record is to be republished.
The clock is an input of the calls that read `Instant::now()`: in nanoseconds where the call
compares it with a record's expiry, in seconds where it compares it with a provider record's. The
hash maps are association lists and their `len()` the number of their keys.

`put` and `put_provider` refuse what exceeds the limits of `MemoryStoreConfig`, and
`put_provider` keeps the provider list of a key sorted with the binary search of the standard
library. Every store built by these calls keeps the limits and the order (`invariant_of_calls`).
-/

namespace Litep2p.Kademlia

open BinarySearch

variable {P A : Type}

/-- `ProviderRecord`, with `expires` in seconds of the local clock. -/
structure ProviderRecord (P A : Type) where
  key : RecordKey
  provider : P
  addresses : List A
  expires : Nat
  deriving DecidableEq, Repr

def ProviderRecord.distance (x : WireExternals P A) (r : ProviderRecord P A) : Distance :=
  (x.keyOf r.provider).distance (x.keyOfBytes r.key)

def ProviderRecord.distanceKey (x : WireExternals P A) (r : ProviderRecord P A) : Nat :=
  (r.distance x).val.toNat

def ProviderRecord.isExpired (r : ProviderRecord P A) (now : Nat) : Bool :=
  decide (r.expires ≤ now)

/-- `MemoryStoreConfig`, with its durations in seconds. -/
structure MemoryStoreConfig where
  maxRecords : Nat
  maxRecordSizeBytes : Nat
  maxProviderKeys : Nat
  maxProviderAddresses : Nat
  maxProvidersPerKey : Nat
  providerRefreshInterval : Nat
  providerTtl : Nat
  deriving DecidableEq, Repr

/-- `MemoryStoreConfig::default`, with `DEFAULT_PROVIDER_REFRESH_INTERVAL` and
`DEFAULT_PROVIDER_TTL`. -/
def MemoryStoreConfig.default : MemoryStoreConfig where
  maxRecords := 1024
  maxRecordSizeBytes := 65 * 1024
  maxProviderKeys := 1024
  maxProviderAddresses := 30
  maxProvidersPerKey := 20
  providerRefreshInterval := 22 * 60 * 60
  providerTtl := 48 * 60 * 60

/-- `MemoryStore`. A future of `pending_provider_refresh` is the time it fires and the key it
yields. -/
structure MemoryStore (P A : Type) where
  localPeerId : P
  config : MemoryStoreConfig
  records : AList fun _ : RecordKey => Record P
  providerKeys : AList fun _ : RecordKey => List (ProviderRecord P A)
  localProviders : AList fun _ : RecordKey => ContentProvider P A
  pendingProviderRefresh : List (Nat × RecordKey)

namespace MemoryStore

def withConfig (localPeerId : P) (config : MemoryStoreConfig) : MemoryStore P A :=
  ⟨localPeerId, config, ∅, ∅, ∅, []⟩

/-- `MemoryStore::get`: an expired record is dropped. -/
def get (s : MemoryStore P A) (now : Nat) (key : RecordKey) : MemoryStore P A × Option (Record P) :=
  let isExpired := (s.records.lookup key).any fun record => record.isExpired now
  if isExpired then ({ s with records := s.records.erase key }, none)
  else (s, s.records.lookup key)

/-- `MemoryStore::put`. A record replaces the one under its key unless both expire and the stored
one later; a new key is refused at `max_records`. -/
def put (s : MemoryStore P A) (record : Record P) : MemoryStore P A :=
  if s.config.maxRecordSizeBytes ≤ record.value.length then s
  else
    let len := s.records.keys.length
    match s.records.lookup record.key with
    | some stored =>
      match stored.expires, record.expires with
      | some storedRecordTtl, some newRecordTtl =>
        if newRecordTtl < storedRecordTtl then s
        else { s with records := s.records.insert record.key record }
      | _, _ => { s with records := s.records.insert record.key record }
    | none =>
      if s.config.maxRecords ≤ len then s
      else { s with records := s.records.insert record.key record }

/-- `MemoryStore::get_providers`: the expired records of the key are dropped, and the key with them
if none is left. -/
def getProviders (s : MemoryStore P A) (now : Nat) (key : RecordKey) :
    MemoryStore P A × List (ContentProvider P A) :=
  match s.providerKeys.lookup key with
  | none => (s, [])
  | some providers =>
    let providers := providers.filter fun p => !p.isExpired now
    if providers.isEmpty then ({ s with providerKeys := s.providerKeys.erase key }, [])
    else
      ({ s with providerKeys := s.providerKeys.insert key providers },
        providers.map fun p => ⟨p.provider, p.addresses⟩)

/-- The closure `schedule_local_provider_refresh` of `put_provider`. The future sleeps
`provider_refresh_interval` from the call. -/
def scheduleLocalProviderRefresh (s : MemoryStore P A) (now : Nat) (providerRecord : ProviderRecord P A) :
    MemoryStore P A :=
  { s with
    localProviders := s.localProviders.insert providerRecord.key
      ⟨providerRecord.provider, providerRecord.addresses⟩
    pendingProviderRefresh :=
      s.pendingProviderRefresh ++ [(now + s.config.providerRefreshInterval, providerRecord.key)] }

variable [DecidableEq P]

/-- `MemoryStore::put_provider`, with whether the provider was added. `Vec::insert` panics beyond
the end of the list, which the insertion point never is. -/
def putProvider (x : WireExternals P A) (s : MemoryStore P A) (now : Nat) (key : RecordKey)
    (provider : ContentProvider P A) : MemoryStore P A × Bool :=
  let providerRecord : ProviderRecord P A :=
    { key, provider := provider.peer, addresses := provider.addresses.take s.config.maxProviderAddresses,
      expires := now + s.config.providerTtl }
  let canInsertNewKey := s.providerKeys.keys.length < s.config.maxProviderKeys
  match s.providerKeys.lookup providerRecord.key with
  | none =>
    if canInsertNewKey then
      let s := if providerRecord.provider = s.localPeerId then
        s.scheduleLocalProviderRefresh now providerRecord else s
      ({ s with providerKeys := s.providerKeys.insert providerRecord.key [providerRecord] }, true)
    else (s, false)
  | some providers =>
    match binarySearchBy (ProviderRecord.distanceKey x) (providerRecord.distanceKey x) providers with
    | .ok i =>
      let s := if providerRecord.provider = s.localPeerId then
        s.scheduleLocalProviderRefresh now providerRecord else s
      ({ s with providerKeys := s.providerKeys.insert providerRecord.key (providers.set i providerRecord) },
        true)
    | .error i =>
      if i = s.config.maxProvidersPerKey then (s, false)
      else
        let providers :=
          if providers.length = s.config.maxProvidersPerKey then providers.dropLast else providers
        let s := if providerRecord.provider = s.localPeerId then
          s.scheduleLocalProviderRefresh now providerRecord else s
        ({ s with providerKeys := s.providerKeys.insert providerRecord.key (providers.insertIdx i providerRecord) },
          true)

/-- `MemoryStore::remove_local_provider`, with whether one of its `debug_assert!(false)` was
reached: the key has no provider list, or the list has no record at the local peer's distance. -/
def removeLocalProvider (x : WireExternals P A) (s : MemoryStore P A) (key : RecordKey) :
    MemoryStore P A × Bool :=
  match s.localProviders.lookup key with
  | none => (s, false)
  | some _ =>
    let s := { s with localProviders := s.localProviders.erase key }
    match s.providerKeys.lookup key with
    | none => (s, true)
    | some providers =>
      let localProviderDistance := (x.keyOf s.localPeerId).distance (x.keyOfBytes key)
      match binarySearchBy (ProviderRecord.distanceKey x) localProviderDistance.val.toNat providers with
      | .ok i =>
        let providers := providers.eraseIdx i
        if providers.isEmpty then ({ s with providerKeys := s.providerKeys.erase key }, false)
        else ({ s with providerKeys := s.providerKeys.insert key providers }, false)
      | .error _ => (s, true)

/-- A call Kademlia makes on its store, with the time it is made where the call reads the clock. -/
inductive StoreCall (P A : Type) where
  | put (record : Record P)
  | get (now : Nat) (key : RecordKey)
  | putProvider (now : Nat) (key : RecordKey) (provider : ContentProvider P A)
  | getProviders (now : Nat) (key : RecordKey)
  | removeLocalProvider (key : RecordKey)

def call (x : WireExternals P A) (s : MemoryStore P A) : StoreCall P A → MemoryStore P A
  | .put record => s.put record
  | .get now key => (s.get now key).1
  | .putProvider now key provider => (s.putProvider x now key provider).1
  | .getProviders now key => (s.getProviders now key).1
  | .removeLocalProvider key => (s.removeLocalProvider x key).1

end MemoryStore

/-! ## What every store keeps -/

section Invariant

variable (x : WireExternals P A) (config : MemoryStoreConfig)

/-- What the provider list of `key` keeps: it is not empty, its distances strictly increase, it
holds at most `max_providers_per_key` records when that is positive, and each record has the
list's key and at most `max_provider_addresses` addresses. -/
structure ProvidersWF (key : RecordKey) (providers : List (ProviderRecord P A)) : Prop where
  ne_nil : providers ≠ []
  sorted : StrictlySorted (ProviderRecord.distanceKey x) providers
  length_le : 1 ≤ config.maxProvidersPerKey → providers.length ≤ config.maxProvidersPerKey
  key_eq : ∀ r ∈ providers, r.key = key
  addresses_le : ∀ r ∈ providers, r.addresses.length ≤ config.maxProviderAddresses

/-- The limits of `config` and the order of the provider lists, in a store made with `config`. -/
structure MemoryStore.Invariant (s : MemoryStore P A) : Prop where
  config_eq : s.config = config
  records_le : s.records.keys.length ≤ config.maxRecords
  value_lt : ∀ key record, s.records.lookup key = some record →
    record.value.length < config.maxRecordSizeBytes
  providerKeys_le : s.providerKeys.keys.length ≤ config.maxProviderKeys
  providers_wf : ∀ key providers, s.providerKeys.lookup key = some providers →
    ProvidersWF x config key providers

variable {x config} {key : RecordKey} {providers : List (ProviderRecord P A)} {r : ProviderRecord P A}

theorem ProvidersWF.singleton (hkey : r.key = key)
    (haddr : r.addresses.length ≤ config.maxProviderAddresses) : ProvidersWF x config key [r] where
  ne_nil := List.cons_ne_nil r []
  sorted := List.pairwise_singleton _ r
  length_le := id
  key_eq := by simpa using hkey
  addresses_le := by simpa using haddr

theorem ProvidersWF.sublist {l : List (ProviderRecord P A)} (h : ProvidersWF x config key providers)
    (hsub : List.Sublist l providers) (hne : l ≠ []) : ProvidersWF x config key l where
  ne_nil := hne
  sorted := h.sorted.sublist hsub
  length_le hmax := hsub.length_le.trans (h.length_le hmax)
  key_eq r hr := h.key_eq r (hsub.subset hr)
  addresses_le r hr := h.addresses_le r (hsub.subset hr)

theorem ProvidersWF.set_of_ok {i : Nat} (h : ProvidersWF x config key providers)
    (hok : binarySearchBy (ProviderRecord.distanceKey x) (r.distanceKey x) providers = .ok i)
    (hkey : r.key = key) (haddr : r.addresses.length ≤ config.maxProviderAddresses) :
    ProvidersWF x config key (providers.set i r) where
  ne_nil := by simpa using h.ne_nil
  sorted := strictlySorted_set_of_ok h.sorted hok rfl
  length_le hmax := by simpa using h.length_le hmax
  key_eq q hq := by
    rcases List.mem_or_eq_of_mem_set hq with hq | rfl
    · exact h.key_eq q hq
    · exact hkey
  addresses_le q hq := by
    rcases List.mem_or_eq_of_mem_set hq with hq | rfl
    · exact h.addresses_le q hq
    · exact haddr

theorem ProvidersWF.insertIdx_of_prefix {i : Nat} {l : List (ProviderRecord P A)}
    (h : ProvidersWF x config key providers)
    (herr : binarySearchBy (ProviderRecord.distanceKey x) (r.distanceKey x) providers = .error i)
    (hkey : r.key = key) (haddr : r.addresses.length ≤ config.maxProviderAddresses)
    (hpre : l <+: providers) (hil : i ≤ l.length)
    (hroom : 1 ≤ config.maxProvidersPerKey → l.length + 1 ≤ config.maxProvidersPerKey) :
    ProvidersWF x config key (l.insertIdx i r) := by
  have hmem : ∀ q ∈ l.insertIdx i r, q = r ∨ q ∈ providers := fun q hq =>
    ((List.mem_insertIdx hil).mp hq).imp_right fun hq => hpre.subset hq
  refine ⟨?_, strictlySorted_insertIdx_of_error h.sorted herr rfl hpre hil, ?_, ?_, ?_⟩
  · rw [← List.length_pos_iff, List.length_insertIdx_of_le_length hil]
    omega
  · intro hmax
    rw [List.length_insertIdx_of_le_length hil]
    exact hroom hmax
  · intro q hq
    rcases hmem q hq with rfl | hq
    · exact hkey
    · exact h.key_eq q hq
  · intro q hq
    rcases hmem q hq with rfl | hq
    · exact haddr
    · exact h.addresses_le q hq

theorem ProvidersWF.insertIdx_of_error {i : Nat} (h : ProvidersWF x config key providers)
    (herr : binarySearchBy (ProviderRecord.distanceKey x) (r.distanceKey x) providers = .error i)
    (hi : i ≠ config.maxProvidersPerKey) (hkey : r.key = key)
    (haddr : r.addresses.length ≤ config.maxProviderAddresses) :
    ProvidersWF x config key
      ((if providers.length = config.maxProvidersPerKey then providers.dropLast else providers).insertIdx i r) := by
  obtain ⟨hile, -, -⟩ := binarySearchBy_eq_error h.sorted herr
  split
  · rename_i hfull
    refine h.insertIdx_of_prefix herr hkey haddr (List.dropLast_prefix _) ?_ fun _ => ?_ <;>
      rw [List.length_dropLast] <;> omega
  · rename_i hfull
    refine h.insertIdx_of_prefix herr hkey haddr (List.prefix_refl _) hile fun hmax => ?_
    have hle := h.length_le hmax
    omega

namespace MemoryStore

variable {s s' : MemoryStore P A}

theorem invariant_withConfig (localPeerId : P) :
    (withConfig localPeerId config : MemoryStore P A).Invariant x config where
  config_eq := rfl
  records_le := by simp [withConfig, AList.keys_empty]
  value_lt key record h := by simp [withConfig, AList.lookup_empty] at h
  providerKeys_le := by simp [withConfig, AList.keys_empty]
  providers_wf key providers h := by simp [withConfig, AList.lookup_empty] at h

theorem Invariant.of_eq (h : s.Invariant x config) (hr : s'.records = s.records)
    (hp : s'.providerKeys = s.providerKeys) (hc : s'.config = s.config) : s'.Invariant x config where
  config_eq := hc.trans h.config_eq
  records_le := hr ▸ h.records_le
  value_lt := hr ▸ h.value_lt
  providerKeys_le := hp ▸ h.providerKeys_le
  providers_wf := hp ▸ h.providers_wf

theorem Invariant.insertRecord (h : s.Invariant x config) (record : Record P)
    (hv : record.value.length < config.maxRecordSizeBytes)
    (hsize : record.key ∈ s.records ∨ s.records.keys.length < config.maxRecords) :
    { s with records := s.records.insert record.key record }.Invariant x config where
  config_eq := h.config_eq
  records_le := by
    rcases hsize with hmem | hlt
    · rw [AList.length_keys_insert_of_mem _ hmem]
      exact h.records_le
    · by_cases hmem : record.key ∈ s.records
      · rw [AList.length_keys_insert_of_mem _ hmem]
        exact h.records_le
      · rw [AList.length_keys_insert_of_notMem _ hmem]
        omega
  value_lt key stored hstored := by
    by_cases hkey : key = record.key
    · subst hkey
      rw [AList.lookup_insert, Option.some.injEq] at hstored
      exact hstored ▸ hv
    · rw [AList.lookup_insert_ne hkey] at hstored
      exact h.value_lt key stored hstored
  providerKeys_le := h.providerKeys_le
  providers_wf := h.providers_wf

theorem Invariant.eraseRecord (h : s.Invariant x config) (key : RecordKey) :
    { s with records := s.records.erase key }.Invariant x config where
  config_eq := h.config_eq
  records_le := (AList.length_keys_erase_le key s.records).trans h.records_le
  value_lt key' stored hstored := by
    by_cases hkey : key' = key
    · subst hkey
      rw [AList.lookup_erase] at hstored
      cases hstored
    · rw [AList.lookup_erase_ne hkey] at hstored
      exact h.value_lt key' stored hstored
  providerKeys_le := h.providerKeys_le
  providers_wf := h.providers_wf

theorem Invariant.insertProviders (h : s.Invariant x config) (hwf : ProvidersWF x config key providers)
    (hsize : key ∈ s.providerKeys ∨ s.providerKeys.keys.length < config.maxProviderKeys) :
    { s with providerKeys := s.providerKeys.insert key providers }.Invariant x config where
  config_eq := h.config_eq
  records_le := h.records_le
  value_lt := h.value_lt
  providerKeys_le := by
    by_cases hmem : key ∈ s.providerKeys
    · rw [AList.length_keys_insert_of_mem _ hmem]
      exact h.providerKeys_le
    · rw [AList.length_keys_insert_of_notMem _ hmem]
      have hlt := hsize.resolve_left hmem
      omega
  providers_wf key' providers' hp := by
    by_cases hkey : key' = key
    · subst hkey
      rw [AList.lookup_insert, Option.some.injEq] at hp
      exact hp ▸ hwf
    · rw [AList.lookup_insert_ne hkey] at hp
      exact h.providers_wf key' providers' hp

theorem Invariant.eraseProviders (h : s.Invariant x config) (key : RecordKey) :
    { s with providerKeys := s.providerKeys.erase key }.Invariant x config where
  config_eq := h.config_eq
  records_le := h.records_le
  value_lt := h.value_lt
  providerKeys_le := (AList.length_keys_erase_le key s.providerKeys).trans h.providerKeys_le
  providers_wf key' providers' hp := by
    by_cases hkey : key' = key
    · subst hkey
      rw [AList.lookup_erase] at hp
      cases hp
    · rw [AList.lookup_erase_ne hkey] at hp
      exact h.providers_wf key' providers' hp

theorem scheduleIf_frame (c : Prop) [Decidable c] (s : MemoryStore P A) (now : Nat)
    (providerRecord : ProviderRecord P A) :
    (if c then s.scheduleLocalProviderRefresh now providerRecord else s).records = s.records ∧
      (if c then s.scheduleLocalProviderRefresh now providerRecord else s).providerKeys = s.providerKeys ∧
      (if c then s.scheduleLocalProviderRefresh now providerRecord else s).config = s.config := by
  split <;> exact ⟨rfl, rfl, rfl⟩

theorem Invariant.get (h : s.Invariant x config) (now : Nat) (key : RecordKey) :
    (s.get now key).1.Invariant x config := by
  unfold MemoryStore.get
  dsimp only
  split
  · exact h.eraseRecord key
  · exact h

theorem Invariant.put (h : s.Invariant x config) (record : Record P) :
    (s.put record).Invariant x config := by
  unfold MemoryStore.put
  split_ifs with hsize
  · exact h
  have hv : record.value.length < config.maxRecordSizeBytes := by
    rw [← h.config_eq]
    omega
  dsimp only
  split
  · rename_i stored hstored
    have hmem : record.key ∈ s.records := AList.lookup_isSome.mp (by rw [hstored]; rfl)
    split
    · split_ifs
      · exact h
      · exact h.insertRecord record hv (.inl hmem)
    · exact h.insertRecord record hv (.inl hmem)
  · split_ifs with hlen
    · exact h
    · exact h.insertRecord record hv (.inr (by rw [← h.config_eq]; omega))

theorem Invariant.getProviders (h : s.Invariant x config) (now : Nat) (key : RecordKey) :
    (s.getProviders now key).1.Invariant x config := by
  unfold MemoryStore.getProviders
  split
  · exact h
  · rename_i providers hp
    dsimp only
    split_ifs with hempty
    · exact h.eraseProviders key
    · have hne : providers.filter (fun p => !p.isExpired now) ≠ [] := by
        simpa only [List.isEmpty_iff] using hempty
      exact h.insertProviders ((h.providers_wf key providers hp).sublist (List.filter_sublist) hne)
        (.inl (AList.lookup_isSome.mp (by rw [hp]; rfl)))

theorem Invariant.removeLocalProvider (h : s.Invariant x config) (key : RecordKey) :
    (s.removeLocalProvider x key).1.Invariant x config := by
  unfold MemoryStore.removeLocalProvider
  split
  · exact h
  · dsimp only
    have h' : { s with localProviders := s.localProviders.erase key }.Invariant x config :=
      h.of_eq rfl rfl rfl
    split
    · exact h'
    · rename_i providers hsome
      split
      · rename_i i hok
        split_ifs with hempty
        · exact h'.eraseProviders key
        · have hne : providers.eraseIdx i ≠ [] := by simpa only [List.isEmpty_iff] using hempty
          exact h'.insertProviders ((h.providers_wf key providers hsome).sublist (List.eraseIdx_sublist _ _) hne)
            (.inl (AList.lookup_isSome.mp (by rw [hsome]; rfl)))
      · exact h'

variable [DecidableEq P]

theorem Invariant.putProvider (h : s.Invariant x config) (now : Nat) (key : RecordKey)
    (provider : ContentProvider P A) : (s.putProvider x now key provider).1.Invariant x config := by
  have hc := h.config_eq
  subst hc
  unfold MemoryStore.putProvider
  dsimp only
  set providerRecord : ProviderRecord P A :=
    { key, provider := provider.peer, addresses := provider.addresses.take s.config.maxProviderAddresses,
      expires := now + s.config.providerTtl } with hrecord
  have haddr : providerRecord.addresses.length ≤ s.config.maxProviderAddresses :=
    List.length_take_le _ _
  obtain ⟨hr, hp, hc⟩ := scheduleIf_frame (providerRecord.provider = s.localPeerId) s now providerRecord
  generalize (if providerRecord.provider = s.localPeerId then
    s.scheduleLocalProviderRefresh now providerRecord else s) = s' at hr hp hc ⊢
  have h' := h.of_eq hr hp hc
  split
  · split_ifs with hcan
    · exact h'.insertProviders (ProvidersWF.singleton rfl haddr) (.inr (by rw [hp]; exact hcan))
    · exact h
  · rename_i providers hsome
    have hwf := h.providers_wf _ providers hsome
    have hmem : providerRecord.key ∈ s.providerKeys := AList.lookup_isSome.mp (by rw [hsome]; rfl)
    split
    · rename_i i hok
      exact h'.insertProviders (hwf.set_of_ok hok rfl haddr) (.inl (hp ▸ hmem))
    · rename_i i herr
      by_cases hmax : i = s.config.maxProvidersPerKey
      · rw [if_pos hmax]
        exact h
      · rw [if_neg hmax]
        exact h'.insertProviders (hwf.insertIdx_of_error herr hmax rfl haddr) (.inl (hp ▸ hmem))

theorem Invariant.call (h : s.Invariant x config) (c : StoreCall P A) :
    (s.call x c).Invariant x config := by
  cases c with
  | put record => exact h.put record
  | get now key => exact h.get now key
  | putProvider now key provider => exact h.putProvider now key provider
  | getProviders now key => exact h.getProviders now key
  | removeLocalProvider key => exact h.removeLocalProvider key

end MemoryStore

end Invariant

open MemoryStore in
/-- Every store made with `config`, after any sequence of calls at any times, holds at most
`max_records` records, each shorter than `max_record_size_bytes`, and at most `max_provider_keys`
provider keys; the provider list of each key is not empty, strictly increasing in
`ProviderRecord::distance`, at most `max_providers_per_key` long when that is positive, and each of
its records has at most `max_provider_addresses` addresses and the list's key. -/
theorem invariant_of_calls [DecidableEq P] (x : WireExternals P A) (localPeerId : P)
    (config : MemoryStoreConfig) (calls : List (StoreCall P A)) :
    let s := calls.foldl (call x) (withConfig localPeerId config)
    s.records.keys.length ≤ config.maxRecords ∧
    (∀ key record, s.records.lookup key = some record → record.value.length < config.maxRecordSizeBytes) ∧
    s.providerKeys.keys.length ≤ config.maxProviderKeys ∧
    ∀ key providers, s.providerKeys.lookup key = some providers →
      providers ≠ [] ∧ providers.Pairwise (fun a b => a.distance x < b.distance x) ∧
      (1 ≤ config.maxProvidersPerKey → providers.length ≤ config.maxProvidersPerKey) ∧
      ∀ r ∈ providers, r.addresses.length ≤ config.maxProviderAddresses ∧ r.key = key := by
  intro s
  have hinv : s.Invariant x config :=
    StepSystem.Reachable.induction_on_inv (Invariant x config) (invariant_withConfig localPeerId)
      (fun _ c hs => hs.call c) ((StepSystem.Reachable.refl _).foldl calls)
  refine ⟨hinv.records_le, hinv.value_lt, hinv.providerKeys_le, fun key providers hp => ?_⟩
  have hwf := hinv.providers_wf key providers hp
  exact ⟨hwf.ne_nil, hwf.sorted, hwf.length_le, fun r hr => ⟨hwf.addresses_le r hr, hwf.key_eq r hr⟩⟩

/-- Closer remote providers evict the local provider record while `local_providers` keeps its key.
With the default configuration, local peer 255 provides key `[0]`, at distance 255, and then peers
1 to 20, all closer, provide it too: the twentieth finds the list full and drops its farthest
record, the local one. `remove_local_provider` then finds no record at the local distance and
reaches its `debug_assert!(false)`. -/
theorem putProvider_evicts_local_provider :
    (let s := (List.range 20).foldl (fun s n => (s.putProvider WireExternals.numeric 0 [0] ⟨n + 1, []⟩).1)
      ((MemoryStore.withConfig 255 MemoryStoreConfig.default).putProvider WireExternals.numeric 0 [0]
        ⟨255, []⟩).1
    s.localProviders.lookup [0] = some ⟨255, []⟩ ∧
    s.providerKeys.lookup [0] = some ((List.range 20).map fun n => ⟨[0], n + 1, [], 48 * 60 * 60⟩) ∧
    (s.removeLocalProvider WireExternals.numeric [0]).2 = true) := by
  decide

end Litep2p.Kademlia
