import Mathlib

/-! A list with one element spliced in, `L ++ a :: M`, against the list without it, `L ++ M`.
A search for a predicate that `a` fails finds the same element in both, one position further
in the first when it lies in `M`; a point update on either side of `a` is a point update of `L`
or of `M`; and a filter that drops `a` cannot tell the two apart. -/

namespace ListSplice

variable {α : Type*}

theorem modify_append_of_lt (f : α → α) :
    ∀ (L M : List α) (i : Nat), i < L.length → (L ++ M).modify i f = L.modify i f ++ M
  | _ :: _, _, 0, _ => rfl
  | _ :: L, M, i + 1, h => by
      rw [List.cons_append, List.modify_succ_cons, List.modify_succ_cons,
        modify_append_of_lt f L M i (by simpa using h), List.cons_append]

theorem modify_append_length_add (f : α → α) :
    ∀ (L M : List α) (j : Nat), (L ++ M).modify (L.length + j) f = L ++ M.modify j f
  | [], M, j => by rw [List.nil_append, List.length_nil, Nat.zero_add, List.nil_append]
  | a :: L, M, j => by
      rw [List.length_cons, Nat.add_right_comm, List.cons_append, List.modify_succ_cons,
        modify_append_length_add f L M j, List.cons_append]

theorem findIdx?_splice {p : α → Bool} {a : α} (ha : p a = false) (L M : List α) :
    (L ++ a :: M).findIdx? p = (L.findIdx? p).or ((M.findIdx? p).map fun i => i + 1 + L.length) := by
  rw [List.findIdx?_append, List.findIdx?_cons, ha, if_neg Bool.false_ne_true, Option.map_map]
  rfl

theorem filter_splice {p : α → Bool} {a : α} (ha : p a = false) (L M : List α) :
    (L ++ a :: M).filter p = (L ++ M).filter p := by
  rw [List.filter_append, List.filter_append, List.filter_cons_of_neg (by rw [ha]; decide)]

end ListSplice
