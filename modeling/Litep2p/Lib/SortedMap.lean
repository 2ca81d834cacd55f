import Mathlib

/-! An ordered map as a list of entries with strictly increasing keys: the operations of a
B-tree map that a program uses (insert, which replaces the value at a key already present, the
first and the last entry and their removal) and no others. The order of the keys is a field of
the structure, so every map that can be built is ordered and the operations prove they keep it. -/

structure SortedMap (κ ν : Type*) [LinearOrder κ] where
  entries : List (κ × ν)
  sorted : entries.Pairwise fun a b => a.1 < b.1

namespace SortedMap

variable {κ ν : Type*} [LinearOrder κ]

instance : EmptyCollection (SortedMap κ ν) := ⟨⟨[], List.Pairwise.nil⟩⟩

@[simp] theorem entries_empty : (∅ : SortedMap κ ν).entries = [] := rfl

/-- The entries with `(k, v)` put in its place, replacing the entry at `k`. -/
def insertEntry (k : κ) (v : ν) : List (κ × ν) → List (κ × ν)
  | [] => [(k, v)]
  | e :: rest =>
    if k < e.1 then (k, v) :: e :: rest
    else if k = e.1 then (k, v) :: rest
    else e :: insertEntry k v rest

theorem mem_insertEntry (k : κ) (v : ν) :
    ∀ {l : List (κ × ν)} {e : κ × ν}, e ∈ insertEntry k v l → e = (k, v) ∨ e ∈ l
  | [], e, he => by
      rw [insertEntry, List.mem_singleton] at he
      exact .inl he
  | d :: rest, e, he => by
      rw [insertEntry] at he
      split_ifs at he with hlt heq
      · exact (List.mem_cons.mp he).imp id id
      · rcases List.mem_cons.mp he with rfl | hmem
        · exact .inl rfl
        · exact .inr (List.mem_cons_of_mem d hmem)
      · rcases List.mem_cons.mp he with rfl | hmem
        · exact .inr List.mem_cons_self
        · exact (mem_insertEntry k v hmem).imp id (List.mem_cons_of_mem d)

theorem pairwise_insertEntry (k : κ) (v : ν) :
    ∀ {l : List (κ × ν)}, l.Pairwise (fun a b => a.1 < b.1) →
      (insertEntry k v l).Pairwise fun a b => a.1 < b.1
  | [], _ => List.pairwise_singleton _ _
  | d :: rest, hl => by
      have hd := List.pairwise_cons.mp hl
      rw [insertEntry]
      split_ifs with hlt heq
      · exact List.Pairwise.cons (fun e he => by
          rcases List.mem_cons.mp he with rfl | hmem
          · exact hlt
          · exact lt_trans hlt (hd.1 e hmem)) hl
      · exact List.Pairwise.cons (fun e he => heq ▸ hd.1 e he) hd.2
      · have hgt : d.1 < k := lt_of_le_of_ne (not_lt.mp hlt) (Ne.symm heq)
        refine List.Pairwise.cons (fun e he => ?_) (pairwise_insertEntry k v hd.2)
        rcases mem_insertEntry k v he with rfl | hmem
        · exact hgt
        · exact hd.1 e hmem

theorem mem_insertEntry_of_fresh (k : κ) (v : ν) {l : List (κ × ν)} (hk : ∀ e ∈ l, e.1 ≠ k)
    {e : κ × ν} : e ∈ insertEntry k v l ↔ e = (k, v) ∨ e ∈ l := by
  induction l with
  | nil => simp [insertEntry]
  | cons d rest ih =>
    have hdk : k ≠ d.1 := fun h => hk d List.mem_cons_self h.symm
    rw [insertEntry, if_neg hdk]
    split_ifs with hlt
    · rw [List.mem_cons]
    · rw [List.mem_cons, ih fun e he => hk e (List.mem_cons_of_mem d he), List.mem_cons]
      tauto

theorem length_insertEntry_of_fresh (k : κ) (v : ν) {l : List (κ × ν)} (hk : ∀ e ∈ l, e.1 ≠ k) :
    (insertEntry k v l).length = l.length + 1 := by
  induction l with
  | nil => rfl
  | cons d rest ih =>
    have hdk : k ≠ d.1 := fun h => hk d List.mem_cons_self h.symm
    rw [insertEntry, if_neg hdk]
    split_ifs
    · rfl
    · rw [List.length_cons, List.length_cons, ih fun e he => hk e (List.mem_cons_of_mem d he)]

theorem insertEntry_append_of_lt (k : κ) (v : ν) {w : κ × ν} (hk : k < w.1) :
    ∀ l : List (κ × ν), insertEntry k v (l ++ [w]) = insertEntry k v l ++ [w]
  | [] => by simp [insertEntry, hk]
  | d :: rest => by
    simp only [List.cons_append, insertEntry]
    split_ifs <;> simp [insertEntry_append_of_lt k v hk rest]

def insert (m : SortedMap κ ν) (k : κ) (v : ν) : SortedMap κ ν :=
  ⟨insertEntry k v m.entries, pairwise_insertEntry k v m.sorted⟩

@[simp] theorem entries_insert (m : SortedMap κ ν) (k : κ) (v : ν) :
    (m.insert k v).entries = insertEntry k v m.entries := rfl

theorem eq_of_mem_of_fst_eq (m : SortedMap κ ν) {e₁ e₂ : κ × ν} (h₁ : e₁ ∈ m.entries)
    (h₂ : e₂ ∈ m.entries) (h : e₁.1 = e₂.1) : e₁ = e₂ := by
  obtain ⟨entries, sorted⟩ := m
  induction entries with
  | nil => simp at h₁
  | cons d rest ih =>
    obtain ⟨hd, hrest⟩ := List.pairwise_cons.mp sorted
    rcases List.mem_cons.mp h₁ with rfl | hrest₁ <;> rcases List.mem_cons.mp h₂ with rfl | hrest₂
    · rfl
    · exact absurd h (ne_of_lt (hd _ hrest₂))
    · exact absurd h.symm (ne_of_lt (hd _ hrest₁))
    · exact ih hrest hrest₁ hrest₂

theorem mem_foldl_insert (key : ν → κ) (vs : List ν) :
    ∀ (m : SortedMap κ ν) {e : κ × ν}, e ∈ (vs.foldl (fun m v => m.insert (key v) v) m).entries →
      e ∈ m.entries ∨ ∃ v ∈ vs, e = (key v, v) := by
  induction vs with
  | nil => exact fun _ _ h => .inl h
  | cons v vs ih =>
    intro m e he
    rcases ih _ he with he | ⟨w, hw, rfl⟩
    · rcases mem_insertEntry _ _ he with rfl | he
      · exact .inr ⟨v, List.mem_cons_self, rfl⟩
      · exact .inl he
    · exact .inr ⟨w, List.mem_cons_of_mem _ hw, rfl⟩

def size (m : SortedMap κ ν) : Nat := m.entries.length

def last? (m : SortedMap κ ν) : Option (κ × ν) := m.entries.getLast?

def dropLast (m : SortedMap κ ν) : SortedMap κ ν :=
  ⟨m.entries.dropLast, m.sorted.sublist (List.dropLast_sublist _)⟩

@[simp] theorem entries_dropLast (m : SortedMap κ ν) : m.dropLast.entries = m.entries.dropLast := rfl

def isEmpty (m : SortedMap κ ν) : Bool := m.entries.isEmpty

def first? (m : SortedMap κ ν) : Option (κ × ν) := m.entries.head?

def popFirst (m : SortedMap κ ν) : Option ((κ × ν) × SortedMap κ ν) :=
  m.first?.map fun e => (e, ⟨m.entries.tail, m.sorted.sublist (List.tail_sublist _)⟩)

theorem popFirst_eq_some {m m' : SortedMap κ ν} {e : κ × ν} :
    m.popFirst = some (e, m') ↔ m.entries = e :: m'.entries := by
  obtain ⟨entries, sorted⟩ := m
  obtain ⟨entries', sorted'⟩ := m'
  cases entries with
  | nil => simp [popFirst, first?]
  | cons d rest =>
    simp only [popFirst, first?, List.head?_cons, Option.map_some, Option.some.injEq, Prod.mk.injEq,
      List.tail_cons, List.cons.injEq]
    constructor
    · rintro ⟨rfl, h⟩
      exact ⟨rfl, congrArg SortedMap.entries h⟩
    · rintro ⟨rfl, rfl⟩
      exact ⟨rfl, rfl⟩

end SortedMap
