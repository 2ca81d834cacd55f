import Litep2p.Codec.UnsignedVarint

/-! The framing of `substream/mod.rs`. The sending side queues each item as one frame
(`ProtocolCodec::Identity`) or as its varint length and the item (`ProtocolCodec::UnsignedVarint`),
and the frames go out in order. The receiving side is `Substream::poll_next`, a loop over reads of
the underlying substream into the part of a buffer that is still to be filled; a read that fills
nothing is taken for the end of the stream.

The underlying substream is modelled by what is left of its stream, cut where its reads cut it
(`Transport`); a read takes as much of the next piece as the buffer has room for. A slice out of
range panics, modelled as `Error.panicked`. -/

namespace Litep2p.Substream

inductive ProtocolCodec where
  | identity (payloadSize : Nat)
  | unsignedVarint (maxSize : Option Nat)
  | unspecified
  deriving DecidableEq, Repr

abbrev Transport := List (List UInt8)

def Transport.size (t : Transport) : Nat := (t.map List.length).sum

/-- `poll_read` into a buffer with room for `capacity` bytes: the bytes read and what is left. -/
def Transport.read (capacity : Nat) : Transport → List UInt8 × Transport
  | [] => ([], [])
  | piece :: rest =>
    if piece.length ≤ capacity then (piece, rest) else (piece.take capacity, piece.drop capacity :: rest)

theorem Transport.size_read (capacity : Nat) :
    ∀ t : Transport, (t.read capacity).1.length + (t.read capacity).2.size = t.size
  | [] => rfl
  | piece :: rest => by
      rw [read]
      split_ifs with h
      · simp [size]
      · simp only [size, List.length_take, List.map_cons, List.length_drop, List.sum_cons]
        omega

theorem Transport.size_lt_of_read {capacity : Nat} {t t' : Transport} {bytes : List UInt8}
    (h : t.read capacity = (bytes, t')) (hb : bytes ≠ []) : t'.size < t.size := by
  have hsize := size_read capacity t
  rw [h] at hsize
  have := List.length_pos_of_ne_nil hb
  dsimp only at hsize
  omega

theorem Transport.length_read_le (capacity : Nat) :
    ∀ t : Transport, (t.read capacity).1.length ≤ capacity
  | [] => Nat.zero_le _
  | piece :: rest => by
      rw [read]
      split_ifs with h
      · exact h
      · simp only [List.length_take]
        exact Nat.min_le_left _ _

def usizeBufferLen : Nat := 10

inductive ReadError where
  | overflow
  | notEnoughBytes
  | decodeError
  deriving DecidableEq, Repr

/-- `read_payload_size`: the length at the front of `buffer` and the bytes it took. -/
def readPayloadSize (u : Uvi) (buffer : List UInt8) : Except ReadError (Nat × Nat) :=
  match (buffer.take usizeBufferLen).findIdx? (fun b => b.toNat < 128) with
  | some i =>
    match u.decode (buffer.take (i + 1)) with
    | .error _ => .error .decodeError
    | .ok (size, _) => .ok (size, i + 1)
  | none => if buffer.length < usizeBufferLen then .error .notEnoughBytes else .error .overflow

/-- The read side of `Substream`: `read_buffer`, whose length is its capacity, `offset`,
`current_frame_size` and `size_vec`. `pending_frames`, which nothing fills, is left out. -/
structure ReadState where
  readBuffer : List UInt8
  offset : Nat
  currentFrameSize : Option Nat
  sizeVec : List UInt8
  deriving DecidableEq, Repr

def ReadState.new : ReadState :=
  ⟨List.replicate 1024 0, 0, none, List.replicate usizeBufferLen 0⟩

def overwrite (buffer : List UInt8) (offset : Nat) (bytes : List UInt8) : List UInt8 :=
  buffer.take offset ++ bytes ++ buffer.drop (offset + bytes.length)

theorem length_overwrite {buffer bytes : List UInt8} {offset : Nat}
    (h : offset + bytes.length ≤ buffer.length) : (overwrite buffer offset bytes).length = buffer.length := by
  simp only [overwrite, List.length_append, List.length_take, List.length_drop]
  omega

abbrev Item := Option (Except SubstreamError (List UInt8))

set_option linter.unusedVariables false in
def pollNext (u : Uvi) (codec : ProtocolCodec) (substreamId : Nat) (s : ReadState) (t : Transport) :
    Except Error (Item × ReadState × Transport) :=
  match codec with
  | .identity payloadSize =>
    if payloadSize ≤ s.readBuffer.length ∧ s.offset ≤ payloadSize then
      match h : t.read (payloadSize - s.offset) with
      | (bytes, t') =>
        if hb : bytes = [] then .ok (none, s, t')
        else
          let readBuffer := overwrite s.readBuffer s.offset bytes
          -- the bytes of this one read, not of the frame so far, are compared with the size
          if bytes.length = payloadSize then
            .ok (some (.ok (readBuffer.take payloadSize)),
              { s with readBuffer := List.replicate payloadSize 0, offset := 0 }, t')
          else pollNext u codec substreamId { s with readBuffer, offset := s.offset + bytes.length } t'
    else .error .panicked
  | .unsignedVarint maxSize =>
    match s.currentFrameSize with
    | some frameSize =>
      if s.offset ≤ s.readBuffer.length then
        match h : t.read (s.readBuffer.length - s.offset) with
        | (bytes, t') =>
          if hb : bytes = [] then .ok (none, s, t')
          else
            let readBuffer := overwrite s.readBuffer s.offset bytes
            let offset := s.offset + bytes.length
            if offset = frameSize then
              .ok (some (.ok readBuffer), { s with readBuffer := [], offset := 0, currentFrameSize := none }, t')
            else pollNext u codec substreamId { s with readBuffer, offset } t'
      else .error .panicked
    | none =>
      if s.offset + 1 ≤ s.sizeVec.length then
        match h : t.read 1 with
        | (bytes, t') =>
          if hb : bytes = [] then .ok (none, s, t')
          else
            let sizeVec := overwrite s.sizeVec s.offset bytes
            let offset := s.offset + 1
            match readPayloadSize u (sizeVec.take offset) with
            | .error .notEnoughBytes => pollNext u codec substreamId { s with sizeVec, offset } t'
            | .error _ => .ok (some (.error (.readFailure (some substreamId))), { s with sizeVec, offset }, t')
            | .ok (size, _) =>
              if maxSize.any (size > ·) then
                .ok (some (.error (.readFailure (some substreamId))), { s with sizeVec, offset }, t')
              else
                pollNext u codec substreamId
                  { s with sizeVec, offset := 0, currentFrameSize := some size,
                           readBuffer := List.replicate size 0 } t'
      else .error .panicked
  | .unspecified => .error .panicked
termination_by t.size
decreasing_by
  all_goals exact Transport.size_lt_of_read h hb

/-- `Substream::start_send`: the frames queued for `item`. -/
def startSend (u : Uvi) (codec : ProtocolCodec) (item : List UInt8) : Except Error (List (List UInt8)) :=
  match codec with
  | .identity payloadSize =>
    if item.length ≠ payloadSize then .error (.substreamError (.ioError .permissionDenied))
    else .ok [item]
  | .unsignedVarint maxSize =>
    if maxSize.any (item.length > ·) then .error (.substreamError (.ioError .permissionDenied))
    else .ok [u.encode item.length, item]
  | .unspecified => .error .panicked

/-- The bytes that `start_send` of each item in turn and `poll_flush` put on the substream. -/
def sendAll (u : Uvi) (codec : ProtocolCodec) (items : List (List UInt8)) : Except Error (List UInt8) :=
  items.foldlM (fun sent item => do
    let frames ← startSend u codec item
    pure (sent ++ frames.flatten)) []

/-- Once an `Identity` frame has been read in part, `poll_next` never delivers it: each later read
has room for fewer bytes than the whole frame, and the one with no room at all is taken for the
end of the stream. -/
theorem pollNext_identity_of_offset_pos (u : Uvi) (n substreamId : Nat) :
    ∀ (t : Transport) (s : ReadState), 0 < s.offset → s.offset ≤ n → n ≤ s.readBuffer.length →
      ∃ s' t', pollNext u (.identity n) substreamId s t = .ok (none, s', t') := by
  intro t
  -- on the bytes left in the stream, which every read that continues the loop lowers
  induction h : t.size using Nat.strongRecOn generalizing t with
  | _ size ih =>
    intro s hpos hle hlen
    rw [pollNext, if_pos ⟨hlen, hle⟩]
    split
    rename_i bytes t' hread
    have hcap := Transport.length_read_le (n - s.offset) t
    rw [hread] at hcap
    dsimp only at hcap
    split_ifs with hb heq
    · exact ⟨_, _, rfl⟩
    · omega
    · exact ih t'.size (h ▸ Transport.size_lt_of_read hread hb) t' rfl _
        (by dsimp only; omega) (by dsimp only; omega)
        (by dsimp only; rw [length_overwrite (by omega)]; exact hlen)

/-- An `Identity` frame of at most 1024 bytes whose first read brings only a part of it is never
delivered. -/
theorem pollNext_identity_of_short_first_read (u : Uvi) (n substreamId : Nat) (piece : List UInt8)
    (rest : Transport) (hpiece : 0 < piece.length) (hshort : piece.length < n) (hn : n ≤ 1024) :
    ∃ s' t', pollNext u (.identity n) substreamId ReadState.new (piece :: rest) = .ok (none, s', t') := by
  have hlen : ReadState.new.readBuffer.length = 1024 := List.length_replicate
  rw [pollNext, if_pos ⟨hlen ▸ hn, Nat.zero_le n⟩]
  split
  rename_i bytes t' hread
  rw [Transport.read, if_pos (by dsimp only [ReadState.new]; omega), Prod.mk.injEq] at hread
  obtain ⟨rfl, rfl⟩ := hread
  rw [dif_neg (List.ne_nil_of_length_pos hpiece), if_neg (Nat.ne_of_lt hshort)]
  have hoffset : ReadState.new.offset = 0 := rfl
  exact pollNext_identity_of_offset_pos u n substreamId _ _ (by dsimp only; omega)
    (by dsimp only; omega) (by dsimp only; rw [length_overwrite (by omega)]; omega)

/-- Three streams of the sending side that `poll_next` does not read back: the `Identity` frame
`01 02 03 04` arriving in two reads of two bytes, reported as the end of the stream; the
`UnsignedVarint` frames `[]` and `[07]`, whose empty first frame is read into a buffer with no
room and also reported as the end of the stream; and an `Identity` frame of 1025 bytes, whose
first read slices past the 1024-byte buffer and panics. -/
theorem pollNext_loses_sent_frames :
    (sendAll Uvi.leb128 (.identity 4) [[1, 2, 3, 4]] = .ok ([1, 2] ++ [3, 4]) ∧
      (pollNext Uvi.leb128 (.identity 4) 0 ReadState.new [[1, 2], [3, 4]]).map Prod.fst = .ok none) ∧
    (sendAll Uvi.leb128 (.unsignedVarint none) [[], [7]] = .ok [0, 1, 7] ∧
      (pollNext Uvi.leb128 (.unsignedVarint none) 0 ReadState.new [[0, 1, 7]]).map Prod.fst =
        .ok none) ∧
    (sendAll Uvi.leb128 (.identity 1025) [List.replicate 1025 1] = .ok (List.replicate 1025 1) ∧
      pollNext Uvi.leb128 (.identity 1025) 0 ReadState.new [List.replicate 1025 1] = .error .panicked) := by
  refine ⟨⟨by decide +kernel, ?_⟩, ⟨by decide +kernel, by decide +kernel⟩,
    ⟨by decide +kernel, by decide +kernel⟩⟩
  obtain ⟨s', t', h⟩ := pollNext_identity_of_short_first_read Uvi.leb128 4 0 [1, 2] [[3, 4]]
    (by decide) (by decide) (by decide)
  rw [h]
  rfl

end Litep2p.Substream
