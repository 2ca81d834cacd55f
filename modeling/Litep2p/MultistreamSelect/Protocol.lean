import Litep2p.Codec.UnsignedVarint

/-! The messages of `multistream_select/protocol.rs` and their bytes. A message of a handshake is
a list of names, each framed by `UnsignedVarint::encode`, after the framed header
`/multistream/1.0.0\n` (`encodeMultistreamMessage`). `Message::decode` reads such a list as an
`ls` response, of at most `MAX_PROTOCOLS` names, and gives it back whole (`decode_frames`);
the `na` reply, framed the same way, it cannot read (`decode_notAvailable_reply`). -/

namespace Litep2p.MultistreamSelect

def slash : UInt8 := 47

def newline : UInt8 := 10

def msgMultistream10 : List UInt8 := "/multistream/1.0.0\n".toUTF8.toList

def msgProtocolNa : List UInt8 := "na\n".toUTF8.toList

def msgLs : List UInt8 := "ls\n".toUTF8.toList

def maxProtocols : Nat := 1000

abbrev ProtocolName := List UInt8

/-- `Protocol`: bytes that start with `/`, the one thing `Protocol::try_from` checks. -/
structure Protocol where
  bytes : List UInt8
  head_eq : bytes.head? = some slash
  deriving DecidableEq

def Protocol.tryFrom (value : List UInt8) : Except ProtocolError Protocol :=
  if h : value.head? = some slash then .ok ⟨value, h⟩ else .error .invalidProtocol

def multistreamHeader : Protocol := ⟨"/multistream/1.0.0".toUTF8.toList, by decide +kernel⟩

inductive HeaderLine where
  | v1
  deriving DecidableEq, Repr

inductive Message where
  | header (line : HeaderLine)
  | protocol (p : Protocol)
  | listProtocols
  | protocols (ps : List Protocol)
  | notAvailable
  deriving DecidableEq

/-- `Message::encode`, which never fails. -/
def Message.encode (u : Uvi) : Message → List UInt8
  | .header .v1 => msgMultistream10
  | .protocol p => p.bytes ++ [newline]
  | .listProtocols => msgLs
  | .protocols ps => (ps.flatMap fun p => u.encode (p.bytes.length + 1) ++ p.bytes ++ [newline]) ++ [newline]
  | .notAvailable => msgProtocolNa

/-- The loop of `Message::decode` over an `ls` response. It stops by `MAX_PROTOCOLS` at the
latest, so `fuel = MAX_PROTOCOLS + 1 - protocols.length` rounds are enough. -/
def decodeProtocols (u : Uvi) : Nat → List Protocol → List UInt8 → Except ProtocolError (List Protocol)
  | 0, _, _ => .error .tooManyProtocols
  | fuel + 1, protocols, remaining =>
    if remaining = [newline] ∨ remaining = [] then .ok protocols
    else if protocols.length = maxProtocols then .error .tooManyProtocols
    else
      match u.decode remaining with
      | .error _ => .error .ioError
      | .ok (len, tail) =>
        if len = 0 ∨ tail.length < len ∨ tail[len - 1]? ≠ some newline then .error .invalidMessage
        else
          match Protocol.tryFrom (tail.take (len - 1)) with
          | .error e => .error e
          | .ok p => decodeProtocols u fuel (protocols ++ [p]) (tail.drop len)

def Message.decode (u : Uvi) (msg : List UInt8) : Except ProtocolError Message :=
  if msg = msgMultistream10 then .ok (.header .v1)
  else if msg = msgProtocolNa then .ok .notAvailable
  else if msg = msgLs then .ok .listProtocols
  else if msg.head? = some slash ∧ msg.getLast? = some newline ∧ newline ∉ msg.dropLast then
    (Protocol.tryFrom msg.dropLast).map .protocol
  else (decodeProtocols u (maxProtocols + 1) [] msg).map .protocols

/-- `encode_multistream_message`: the framed header, then each message framed. -/
def encodeMultistreamMessage (u : Uvi) (messages : List Message) : Except Error (List UInt8) := do
  let header ← UnsignedVarint.encode u ((Message.header .v1).encode u)
  messages.foldlM (fun bytes message => do
    let protoBytes ← UnsignedVarint.encode u (message.encode u)
    pure (bytes ++ protoBytes)) header

def frame (u : Uvi) (payload : List UInt8) : List UInt8 :=
  u.encode payload.length ++ payload

theorem Protocol.tryFrom_bytes (p : Protocol) : Protocol.tryFrom p.bytes = .ok p := by
  rw [Protocol.tryFrom, dif_pos p.head_eq]

theorem Protocol.bytes_ne_nil (p : Protocol) : p.bytes ≠ [] := fun h => by
  simpa [h] using p.head_eq

theorem msgMultistream10_eq : msgMultistream10 = multistreamHeader.bytes ++ [newline] := by
  decide +kernel

theorem msgProtocolNa_eq : msgProtocolNa = "na".toUTF8.toList ++ [newline] := by
  decide +kernel

theorem foldlM_frames (u : Uvi) (messages : List Message) (acc : List UInt8)
    (h : ∀ m ∈ messages, (m.encode u).length ≤ uviBytesMaxLen) :
    messages.foldlM (fun bytes message => do
        let protoBytes ← UnsignedVarint.encode u (message.encode u)
        pure (bytes ++ protoBytes)) acc =
      (.ok (acc ++ messages.flatMap fun m => frame u (m.encode u)) : Except Error (List UInt8)) := by
  induction messages generalizing acc with
  | nil =>
      rw [List.foldlM_nil, List.flatMap_nil, List.append_nil]
      rfl
  | cons m messages ih =>
      rw [List.foldlM_cons, UnsignedVarint.encode_of_le u (h m List.mem_cons_self)]
      refine (ih (acc ++ frame u (m.encode u)) fun m' hm' => h m' (List.mem_cons_of_mem m hm')).trans ?_
      rw [List.flatMap_cons, List.append_assoc]

theorem encodeMultistreamMessage_eq (u : Uvi) (messages : List Message)
    (h : ∀ m ∈ messages, (m.encode u).length ≤ uviBytesMaxLen) :
    encodeMultistreamMessage u messages =
      .ok (frame u msgMultistream10 ++ messages.flatMap fun m => frame u (m.encode u)) := by
  rw [encodeMultistreamMessage, show (Message.header .v1).encode u = msgMultistream10 from rfl,
    UnsignedVarint.encode_of_le u (show msgMultistream10.length ≤ uviBytesMaxLen by decide +kernel)]
  exact foldlM_frames u messages _ h

theorem decode_header_append (u : Uvi) {rest : List UInt8} (hrest : rest ≠ []) :
    Message.decode u (frame u msgMultistream10 ++ rest) =
      (decodeProtocols u (maxProtocols + 1) [] (frame u msgMultistream10 ++ rest)).map .protocols := by
  have hrest_len : 0 < rest.length := List.length_pos_of_ne_nil hrest
  have hheader_len : msgMultistream10.length = 19 := by decide +kernel
  have hlong : 19 < (frame u msgMultistream10 ++ rest).length := by
    simp only [frame, List.length_append, hheader_len]
    omega
  have hinner : newline ∈ (frame u msgMultistream10 ++ rest).dropLast := by
    rw [List.dropLast_append_of_ne_nil hrest, frame, msgMultistream10_eq]
    simp
  rw [Message.decode, if_neg (by intro h; rw [h, hheader_len] at hlong; omega),
    if_neg (by intro h; rw [h, show msgProtocolNa.length = 3 by decide +kernel] at hlong; omega),
    if_neg (by intro h; rw [h, show msgLs.length = 3 by decide +kernel] at hlong; omega),
    if_neg (fun h => h.2.2 hinner)]

section Decode

variable {u : Uvi} (hu : u.RoundTrip)
include hu

theorem decodeProtocols_frame (fuel : Nat) (acc : List Protocol) {bytes : List UInt8}
    (rest : List UInt8) (hne : bytes ≠ []) (hlen : bytes.length + 1 < 2 ^ 64)
    (hacc : acc.length < maxProtocols) :
    decodeProtocols u (fuel + 1) acc (frame u (bytes ++ [newline]) ++ rest) =
      match Protocol.tryFrom bytes with
      | .error e => .error e
      | .ok p => decodeProtocols u fuel (acc ++ [p]) rest := by
  have hp : (bytes ++ [newline]).length < 2 ^ 64 := by simpa using hlen
  have hpos : 0 < bytes.length := List.length_pos_of_ne_nil hne
  have hlast : (bytes ++ [newline] ++ rest)[(bytes ++ [newline]).length - 1]? = some newline := by
    rw [List.getElem?_append_left (by simp), List.length_append, List.length_singleton,
      Nat.add_sub_cancel, List.getElem?_append_right (Nat.le_refl _), Nat.sub_self]
    rfl
  rw [frame, List.append_assoc, decodeProtocols,
    if_neg (by
      rintro (h | h)
      · have := congrArg List.length h
        simp only [List.length_append, List.length_singleton] at this
        omega
      · simp at h),
    if_neg (Nat.ne_of_lt hacc), hu _ _ hp]
  dsimp only
  rw [if_neg (by
      rintro (h | h | h)
      · simp at h
      · simp only [List.length_append, List.length_singleton] at h
        omega
      · exact h hlast)]
  rw [List.take_append_of_le_length (by simp), List.length_append, List.length_singleton,
    Nat.add_sub_cancel, List.take_append_of_le_length (Nat.le_refl _), List.take_length,
    show bytes.length + 1 = (bytes ++ [newline]).length by simp, List.drop_left]

theorem decodeProtocols_frames :
    ∀ (ps acc : List Protocol) (fuel : Nat), (∀ p ∈ ps, p.bytes.length + 1 < 2 ^ 64) →
      acc.length + ps.length ≤ maxProtocols → ps.length < fuel →
      decodeProtocols u fuel acc (ps.flatMap fun p => frame u (p.bytes ++ [newline])) = .ok (acc ++ ps)
  | [], acc, fuel + 1, _, _, _ => by
      rw [List.flatMap_nil, decodeProtocols, if_pos (Or.inr rfl), List.append_nil]
  | p :: ps, acc, fuel + 1, hlen, hcount, hfuel => by
      simp only [List.length_cons] at hcount hfuel
      rw [List.flatMap_cons, decodeProtocols_frame hu fuel acc _ p.bytes_ne_nil
        (hlen p List.mem_cons_self) (by omega), Protocol.tryFrom_bytes]
      dsimp only
      rw [decodeProtocols_frames ps (acc ++ [p]) fuel
          (fun q hq => hlen q (List.mem_cons_of_mem p hq)) (by simp; omega) (by omega),
        List.append_assoc, List.singleton_append]

theorem decode_frames {ps : List Protocol} (hne : ps ≠ []) (hcount : ps.length < maxProtocols)
    (hlen : ∀ p ∈ ps, p.bytes.length + 1 < 2 ^ 64) :
    Message.decode u (frame u msgMultistream10 ++ ps.flatMap fun p => frame u (p.bytes ++ [newline])) =
      .ok (.protocols (multistreamHeader :: ps)) := by
  have hrest_ne : (ps.flatMap fun p => frame u (p.bytes ++ [newline])) ≠ [] := by
    obtain ⟨p, hp⟩ := List.exists_mem_of_ne_nil ps hne
    intro h
    have := List.flatMap_eq_nil_iff.mp h p hp
    simp [frame] at this
  rw [decode_header_append u hrest_ne, msgMultistream10_eq]
  have hframes : frame u (multistreamHeader.bytes ++ [newline]) ++
      (ps.flatMap fun p => frame u (p.bytes ++ [newline])) =
      (multistreamHeader :: ps).flatMap fun p => frame u (p.bytes ++ [newline]) := rfl
  rw [hframes, decodeProtocols_frames hu (multistreamHeader :: ps) [] (maxProtocols + 1)]
  · rfl
  · intro p hp
    rcases List.mem_cons.mp hp with rfl | hp
    · decide +kernel
    · exact hlen p hp
  · simp only [List.length_nil, List.length_cons]
    omega
  · simp only [List.length_cons]
    omega

/-- The `na` reply, framed after the header as `encode_multistream_message` frames it, is not an
`ls` response: `na` is no protocol name. -/
theorem decode_notAvailable_reply :
    Message.decode u (frame u msgMultistream10 ++ frame u msgProtocolNa) = .error .invalidProtocol := by
  have hna : Protocol.tryFrom "na".toUTF8.toList = .error .invalidProtocol := by
    rw [Protocol.tryFrom, dif_neg (by decide +kernel)]
  rw [decode_header_append u (by simp [frame, msgProtocolNa_eq]), msgMultistream10_eq, msgProtocolNa_eq,
    decodeProtocols_frame hu _ _ _ multistreamHeader.bytes_ne_nil (by decide +kernel)
      (by decide), Protocol.tryFrom_bytes]
  dsimp only
  rw [← List.append_nil (frame u _), show maxProtocols = 999 + 1 from rfl,
    decodeProtocols_frame hu _ _ _ (by decide +kernel)
    (by decide +kernel) (by decide), hna]
  rfl

end Decode

end Litep2p.MultistreamSelect
