import Mathlib

/-!
# The number of keys of an association list

A hash map's `len()` is the number of its keys. Inserting at a key already present keeps it,
inserting at a new key adds one, and erasing never adds any. A map of one entry answers a lookup
of its key with the entry, and erasing that key empties it. Counting the entries that satisfy a
test, an entry counts beside those at the other keys, so that replacing it changes the count by
what the old and the new entry count.
-/

namespace AList

variable {α : Type*} {β : α → Type*} [DecidableEq α] {s : AList β} {a : α}

theorem length_keys_insert_of_mem (b : β a) (h : a ∈ s) :
    (s.insert a b).keys.length = s.keys.length := by
  rw [keys_insert, List.length_cons, List.length_erase_of_mem (mem_keys.mp h)]
  have hpos : 0 < s.keys.length := List.length_pos_of_mem (mem_keys.mp h)
  omega

theorem length_keys_insert_of_notMem (b : β a) (h : a ∉ s) :
    (s.insert a b).keys.length = s.keys.length + 1 := by
  rw [keys_insert, List.length_cons, List.erase_of_not_mem (fun h' => h (mem_keys.mpr h'))]

theorem length_keys_erase_le (a : α) (s : AList β) : (s.erase a).keys.length ≤ s.keys.length := by
  rw [keys_erase]
  exact List.length_erase_le

@[simp] theorem lookup_singleton_self (b : β a) : (singleton a b).lookup a = some b :=
  lookup_insert ∅

@[simp] theorem erase_singleton_self (b : β a) : (singleton a b).erase a = ∅ :=
  ext (List.kerase_cons_eq rfl)

section Count

variable (p : Sigma β → Bool)

theorem countP_entries_insert (a : α) (b : β a) (s : AList β) :
    (s.insert a b).entries.countP p = (if p ⟨a, b⟩ then 1 else 0) + (s.erase a).entries.countP p := by
  rw [entries_insert, List.countP_cons, Nat.add_comm]
  rfl

theorem countP_entries_of_lookup {b : β a} (h : s.lookup a = some b) :
    s.entries.countP p = (if p ⟨a, b⟩ then 1 else 0) + (s.erase a).entries.countP p := by
  have hmem : a ∈ s.entries.keys := mem_keys.mp (lookup_isSome.mp (by rw [h]; rfl))
  obtain ⟨b', l₁, l₂, -, hs, hk⟩ := List.exists_of_kerase hmem
  have hb : b' = b := by
    have hlookup := List.mem_dlookup s.nodupKeys (show Sigma.mk a b' ∈ s.entries by rw [hs]; simp)
    change b' ∈ s.lookup a at hlookup
    rw [h, Option.mem_def, Option.some.injEq] at hlookup
    exact hlookup.symm
  subst hb
  change s.entries.countP p = _ + (s.entries.kerase a).countP p
  rw [hk, hs, List.countP_append, List.countP_append, List.countP_cons]
  omega

theorem countP_entries_erase_le (a : α) (s : AList β) :
    (s.erase a).entries.countP p ≤ s.entries.countP p :=
  (List.kerase_sublist a s.entries).countP_le

theorem countP_entries_erase_of_notMem (h : a ∉ s) : (s.erase a).entries.countP p = s.entries.countP p := by
  change (s.entries.kerase a).countP p = _
  rw [List.kerase_of_notMem_keys (fun h' => h (mem_keys.mpr h'))]

end Count

end AList
