import Mathlib
import Litep2p.Error

/-! The receive buffer of a yamux stream, `yamux/chunks.rs`. `Chunks` queues the bodies of the
data frames a stream receives, each behind a cursor that the reader advances. Its field `len`
counts the bytes pushed less the whole vectors popped, so that `len()` subtracts the cursor of the
first chunk only: that is right because only the first chunk is ever advanced, which the structure
keeps as a field. The queue is related to the bytes it holds: `contents` lists the unread bytes in
order, `len()` is their number, `push` appends to them, `pop` takes the first chunk's, and the copy
loop of `Stream::poll_read` takes as many as fit from the front. -/

namespace Litep2p.Yamux

/-- `Chunk`: a vector and the position of its cursor, which never passes the end of the vector. -/
structure Chunk where
  vec : List UInt8
  offset : Nat
  offset_le : offset ≤ vec.length
  deriving DecidableEq, Repr

namespace Chunk

def len (c : Chunk) : Nat := c.vec.length - c.offset

def isEmpty (c : Chunk) : Bool := c.len == 0

def asRef (c : Chunk) : List UInt8 := c.vec.drop c.offset

def advance (c : Chunk) (amount : Nat) : Except Error Chunk :=
  if h : c.offset + amount ≤ c.vec.length then .ok ⟨c.vec, c.offset + amount, h⟩
  else .error .panicked

@[simp] theorem length_asRef (c : Chunk) : c.asRef.length = c.len := List.length_drop

theorem len_add_offset (c : Chunk) : c.len + c.offset = c.vec.length := by
  have := c.offset_le
  rw [len]
  omega

theorem advance_of_le {c : Chunk} {amount : Nat} (h : amount ≤ c.len) :
    ∃ c', c.advance amount = .ok c' ∧ c'.vec = c.vec ∧ c'.offset = c.offset + amount := by
  have hfit : c.offset + amount ≤ c.vec.length := by
    have := c.len_add_offset
    omega
  exact ⟨_, dif_pos hfit, rfl, rfl⟩

theorem asRef_advance {c c' : Chunk} {amount : Nat} (h : c.advance amount = .ok c') :
    c'.asRef = c.asRef.drop amount := by
  unfold advance at h
  split at h
  · cases h
    simp [asRef, List.drop_drop, Nat.add_comm]
  · cases h

theorem vec_advance {c c' : Chunk} {amount : Nat} (h : c.advance amount = .ok c') : c'.vec = c.vec := by
  unfold advance at h
  split at h
  · cases h
    rfl
  · cases h

end Chunk

/-- `Chunks`: the queue of chunks and its field `len`, here `total`, which counts the bytes of the
vectors queued. Only the first chunk may have been advanced. -/
structure Chunks where
  seq : List Chunk
  total : Nat
  total_eq : total = (seq.map fun c => c.vec.length).sum
  tail_offset : ∀ c ∈ seq.tail, c.offset = 0
  deriving DecidableEq

namespace Chunks

def new : Chunks := ⟨[], 0, rfl, by simp⟩

def len (b : Chunks) : Nat := b.total - (b.seq.head?.map Chunk.offset).getD 0

/-- `Chunks::push`: the length is added, and the vector is queued unless it is empty. -/
def push (b : Chunks) (x : List UInt8) : Chunks :=
  if hx : x.isEmpty then
    ⟨b.seq, b.total + x.length, by simp [List.isEmpty_iff.mp hx, b.total_eq], b.tail_offset⟩
  else
    ⟨b.seq ++ [⟨x, 0, Nat.zero_le _⟩], b.total + x.length, by simp [b.total_eq], by
      intro c hc
      cases hseq : b.seq with
      | nil => simp_all
      | cons d ds =>
        rw [hseq, List.cons_append, List.tail_cons, List.mem_append, List.mem_singleton] at hc
        rcases hc with hc | rfl
        · exact b.tail_offset c (by rw [hseq]; exact hc)
        · rfl⟩

/-- `Chunks::pop`: the first chunk, with `len` lowered by its whole vector. -/
def pop (b : Chunks) : Option Chunk × Chunks :=
  match h : b.seq with
  | [] => (none, b)
  | c :: rest =>
    (some c, ⟨rest, b.total - (c.len + c.offset), by
      rw [c.len_add_offset, b.total_eq, h, List.map_cons, List.sum_cons, Nat.add_sub_cancel_left], by
      intro d hd
      exact b.tail_offset d (by rw [h]; exact List.mem_of_mem_tail hd)⟩)

/-- `front_mut` then `Chunk::advance`: the first chunk advanced by `amount`. -/
def advanceFront (b : Chunks) (amount : Nat) : Except Error Chunks :=
  match h : b.seq with
  | [] => .ok b
  | c :: rest =>
    match hc : c.advance amount with
    | .error e => .error e
    | .ok c' =>
      .ok ⟨c' :: rest, b.total, by rw [b.total_eq, h, List.map_cons, List.map_cons, Chunk.vec_advance hc], by
        intro d hd
        exact b.tail_offset d (by rw [h]; exact hd)⟩

def contents (b : Chunks) : List UInt8 := (b.seq.map Chunk.asRef).flatten

/-- What the loop of `poll_read` has left to go through: the unread bytes of the queue, and one
for each chunk, which an empty chunk costs when it is popped. -/
def size (b : Chunks) : Nat := (b.seq.map Chunk.len).sum + b.seq.length

theorem seq_pop (b : Chunks) : b.pop.2.seq = b.seq.tail := by
  unfold pop
  split <;> simp_all

theorem advanceFront_cons {b b' : Chunks} {c : Chunk} {rest : List Chunk} {amount : Nat}
    (h : b.seq = c :: rest) (hb : b.advanceFront amount = .ok b') :
    ∃ c', c.advance amount = .ok c' ∧ b'.seq = c' :: rest := by
  unfold advanceFront at hb
  split at hb
  · simp_all
  · rename_i c₁ rest₁ h₁
    rw [h₁, List.cons.injEq] at h
    obtain ⟨rfl, rfl⟩ := h
    split at hb
    · cases hb
    · rename_i c' hc
      cases hb
      exact ⟨c', hc, rfl⟩

theorem size_pop_lt {b : Chunks} {c : Chunk} {rest : List Chunk} (h : b.seq = c :: rest) :
    b.pop.2.size < b.size := by
  simp only [size, seq_pop, h, List.tail_cons, List.map_cons, List.sum_cons, List.length_cons]
  omega

theorem size_advanceFront_lt {b b' : Chunks} {c : Chunk} {rest : List Chunk} {amount : Nat}
    (h : b.seq = c :: rest) (hpos : 0 < amount) (hb : b.advanceFront amount = .ok b') :
    b'.size < b.size := by
  obtain ⟨c', hc, hseq⟩ := advanceFront_cons h hb
  have hlen : c'.len + amount = c.len := by
    have h₁ := c.len_add_offset
    have h₂ := c'.len_add_offset
    unfold Chunk.advance at hc
    split at hc
    · cases hc
      dsimp only at h₂
      omega
    · cases hc
  simp only [size, h, hseq, List.map_cons, List.sum_cons, List.length_cons]
  omega

set_option linter.unusedVariables false in
/-- The copy loop of `Stream::poll_read`, on a buffer with room for `room` more bytes: empty chunks
are popped, and each chunk gives as many bytes as fit, until the room is filled or no chunk is
left. The bytes copied and the queue after. -/
def readInto (room : Nat) (b : Chunks) : Except Error (List UInt8 × Chunks) :=
  match h : b.seq with
  | [] => .ok ([], b)
  | c :: _ =>
    if hc : c.isEmpty then readInto room b.pop.2
    else
      let k := min c.len room
      match hb : b.advanceFront k with
      | .error e => .error e
      | .ok b' =>
        if room - k = 0 then .ok (c.asRef.take k, b')
        else (readInto (room - k) b').map fun (more, b'') => (c.asRef.take k ++ more, b'')
termination_by b.size
decreasing_by
  · exact size_pop_lt h
  · have hlen : c.len ≠ 0 := by simpa [Chunk.isEmpty] using hc
    exact size_advanceFront_lt h (by omega) hb

/-! ### The queue holds its unread bytes in order -/

@[simp] theorem contents_new : new.contents = [] := rfl

private theorem length_flatten_asRef {cs : List Chunk} (h : ∀ c ∈ cs, c.offset = 0) :
    (cs.map Chunk.asRef).flatten.length = (cs.map fun c => c.vec.length).sum := by
  induction cs with
  | nil => rfl
  | cons c cs ih =>
    have hc : c.asRef.length = c.vec.length := by
      rw [Chunk.length_asRef, Chunk.len, h c List.mem_cons_self, Nat.sub_zero]
    simp only [List.map_cons, List.flatten_cons, List.length_append, List.sum_cons, hc,
      ih fun d hd => h d (List.mem_cons_of_mem c hd)]

theorem len_eq_length_contents (b : Chunks) : b.len = b.contents.length := by
  have htotal := b.total_eq
  have htail := b.tail_offset
  rw [len, contents]
  cases hseq : b.seq with
  | nil => simp_all
  | cons c rest =>
    rw [hseq, List.tail_cons] at htail
    rw [hseq] at htotal
    have hrest := length_flatten_asRef htail
    have hc := c.len_add_offset
    simp only [List.map_cons, List.sum_cons, List.head?_cons, Option.map_some, Option.getD_some,
      List.flatten_cons, List.length_append, Chunk.length_asRef] at htotal hrest ⊢
    omega

theorem contents_of_cons {b : Chunks} {c : Chunk} {rest : List Chunk} (h : b.seq = c :: rest) :
    b.contents = c.asRef ++ (rest.map Chunk.asRef).flatten := by
  rw [contents, h, List.map_cons, List.flatten_cons]

/-- `push` appends the vector to the unread bytes. -/
@[simp] theorem contents_push (b : Chunks) (x : List UInt8) : (b.push x).contents = b.contents ++ x := by
  unfold push
  split
  · rename_i hx
    simp [contents, List.isEmpty_iff.mp hx]
  · simp [contents, Chunk.asRef]

/-- `len()` grows by the length pushed. -/
@[simp] theorem len_push (b : Chunks) (x : List UInt8) : (b.push x).len = b.len + x.length := by
  rw [len_eq_length_contents, len_eq_length_contents, contents_push, List.length_append]

theorem contents_pop (b : Chunks) :
    b.contents = ((b.pop.1.map Chunk.asRef).getD []) ++ b.pop.2.contents := by
  unfold pop
  split
  · rfl
  · rename_i c rest h
    simp [contents, h]

theorem advanceFront_of_le {b : Chunks} {c : Chunk} {rest : List Chunk} {amount : Nat}
    (h : b.seq = c :: rest) (hamount : amount ≤ c.len) :
    ∃ b', b.advanceFront amount = .ok b' ∧ b'.contents = b.contents.drop amount := by
  obtain ⟨c', hc, -, -⟩ := Chunk.advance_of_le hamount
  have hok : ∃ b', b.advanceFront amount = .ok b' := by
    unfold advanceFront
    split
    · simp_all
    · rename_i c₁ rest₁ h₁
      rw [h₁, List.cons.injEq] at h
      obtain ⟨rfl, rfl⟩ := h
      split
      · simp_all
      · exact ⟨_, rfl⟩
  obtain ⟨b', hb⟩ := hok
  obtain ⟨c'', hc', hseq⟩ := advanceFront_cons h hb
  have hlen : amount ≤ c.asRef.length := by rwa [Chunk.length_asRef]
  refine ⟨b', hb, ?_⟩
  rw [contents, contents, hseq, h, List.map_cons, List.map_cons, List.flatten_cons, List.flatten_cons,
    Chunk.asRef_advance hc', List.drop_append_of_le_length hlen]

section ReadInto

variable {room : Nat} {b : Chunks} {c : Chunk} {rest : List Chunk}

theorem readInto_of_nil (h : b.seq = []) : b.readInto room = .ok ([], b) := by
  rw [readInto]
  split
  · rfl
  · simp_all

theorem readInto_of_isEmpty (h : b.seq = c :: rest) (hc : c.isEmpty) :
    b.readInto room = b.pop.2.readInto room := by
  rw [readInto]
  split
  · simp_all
  · rename_i c₁ rest₁ h₁
    rw [h₁, List.cons.injEq] at h
    obtain ⟨rfl, rfl⟩ := h
    rw [dif_pos hc]

private theorem readInto_of_advanceFront_aux (h : b.seq = c :: rest) (hc : ¬c.isEmpty) {b' : Chunks}
    (hb : b.advanceFront (min c.len room) = .ok b') :
    b.readInto room =
      if room - min c.len room = 0 then .ok (c.asRef.take (min c.len room), b')
      else (b'.readInto (room - min c.len room)).map fun (more, b'') =>
        (c.asRef.take (min c.len room) ++ more, b'') := by
  rw [readInto]
  split
  · simp_all
  · rename_i c₁ rest₁ h₁
    rw [h₁, List.cons.injEq] at h
    obtain ⟨rfl, rfl⟩ := h
    rw [dif_neg hc]
    dsimp only
    generalize hdecide : decide (room - min c₁.len room = 0) = d
    split
    · simp_all
    · rename_i b₁ hb₁
      rw [hb, Except.ok.injEq] at hb₁
      subst hb₁
      rfl

theorem readInto_of_fill (h : b.seq = c :: rest) (hc : ¬c.isEmpty) {b' : Chunks}
    (hb : b.advanceFront (min c.len room) = .ok b') (hroom : room - min c.len room = 0) :
    b.readInto room = .ok (c.asRef.take (min c.len room), b') := by
  rw [readInto_of_advanceFront_aux h hc hb, if_pos hroom]

theorem readInto_of_more (h : b.seq = c :: rest) (hc : ¬c.isEmpty) {b' : Chunks}
    (hb : b.advanceFront (min c.len room) = .ok b') (hroom : room - min c.len room ≠ 0) :
    b.readInto room = (b'.readInto (room - min c.len room)).map fun (more, b'') =>
        (c.asRef.take (min c.len room) ++ more, b'') := by
  rw [readInto_of_advanceFront_aux h hc hb, if_neg hroom]

/-- The copy loop of `poll_read` never panics: it copies the first `room` unread bytes, or all of
them if there are fewer, and leaves the others in the queue. -/
theorem readInto_spec (room : Nat) (b : Chunks) :
    ∃ b', b.readInto room = .ok (b.contents.take room, b') ∧ b'.contents = b.contents.drop room := by
  induction room, b using readInto.induct with
  | case1 room b h =>
    have hnil : b.contents = [] := by rw [contents, h]; rfl
    exact ⟨b, by rw [readInto_of_nil h, hnil, List.take_nil], by rw [hnil, List.drop_nil]⟩
  | case2 room b c rest h hc ih =>
    have hpop : b.contents = b.pop.2.contents := by
      have hempty : c.asRef = [] := by
        rw [← List.length_eq_zero_iff, Chunk.length_asRef]
        simpa [Chunk.isEmpty] using hc
      rw [contents_pop b]
      unfold pop
      split
      · rfl
      · simp_all
    rw [readInto_of_isEmpty h hc, hpop]
    exact ih
  | case3 room b c rest h hc k e hb =>
    obtain ⟨b', hb', -⟩ := advanceFront_of_le h (show min c.len room ≤ c.len from min_le_left _ _)
    rw [hb] at hb'
    cases hb'
  | case4 room b c rest h hc k b' hb hroom =>
    have hk : k = room := by simp only [k] at hroom ⊢; omega
    obtain ⟨b'', hb'', hcontents⟩ := advanceFront_of_le h (show k ≤ c.len from min_le_left _ _)
    rw [hb, Except.ok.injEq] at hb''
    subst hb''
    have hfit : room ≤ c.asRef.length := by rw [Chunk.length_asRef, ← hk]; exact min_le_left _ _
    refine ⟨b', ?_, by rw [hcontents, hk]⟩
    rw [readInto_of_fill h hc hb hroom, contents_of_cons h, List.take_append_of_le_length hfit]
    exact congrArg (fun n => Except.ok (c.asRef.take n, b')) hk
  | case5 room b c rest h hc k b' hb hroom ih =>
    have hk : k = c.len := by simp only [k] at hroom ⊢; omega
    obtain ⟨b'', hb'', hcontents⟩ := advanceFront_of_le h (show k ≤ c.len from min_le_left _ _)
    rw [hb, Except.ok.injEq] at hb''
    subst hb''
    obtain ⟨b'', hread, hcontents'⟩ := ih
    have hroom' : room = k + (room - k) := by omega
    have hfront : b.contents.take k = c.asRef.take k := by
      rw [contents_of_cons h, List.take_append_of_le_length (by rw [Chunk.length_asRef, hk])]
    refine ⟨b'', ?_, ?_⟩
    · rw [readInto_of_more h hc hb hroom, hread, hcontents]
      conv_rhs => rw [hroom', List.take_add, hfront]
      rfl
    · rw [hcontents', hcontents, List.drop_drop, ← hroom']

end ReadInto

end Chunks

end Litep2p.Yamux
