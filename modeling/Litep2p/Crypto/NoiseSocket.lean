import Mathlib
import Litep2p.Crypto.NoiseHandshake
import Litep2p.Substream.Framing

/-! The transport framing of `NoiseSocket` (`crypto/noise/mod.rs`), the byte stream that the Noise
transport state encrypts. `poll_write` cuts its buffer into chunks of `MAX_FRAME_LEN` bytes,
encrypts each into `encrypt_buffer` behind its length as two big-endian bytes, packs chunks while
the next one fits, and writes the batch to the io. `poll_read` reads ahead into `read_buffer`,
parses a length, reads on until the whole frame is there (into the auxiliary space at the end of
the buffer when the read-ahead space is too short) and decrypts it into the caller's buffer, or
into `decrypt_buffer` when the caller's is too short, handing the rest out on later calls.

Snow's `TransportState` is an argument (`TransportCipher`). The io the socket reads is what is
left of its stream, cut where its reads cut it (`Substream.Transport`); a read that gives nothing
is the end of the stream. What the io a socket writes to takes of each write is an input
(`WriteIo`). The buffers are lists of their full length, written in place; a slice out of range
or a failed `expect` panics, modelled as `Error.panicked`.

`MAX_FRAME_LEN` is `65536 - 16`, so a full chunk would encrypt to 65536 bytes, one more than the
two length bytes hold and than snow's `MAXMSGLEN`: snow refuses it, and a buffer of 65520 bytes or
more is not written (`pollRead_rejects_full_chunk`). -/

namespace Litep2p.Crypto

open Substream (Transport overwrite)

def maxNoiseMsgLen : Nat := 65536

def noiseExtraEncryptSpace : Nat := 16

def maxFrameLen : Nat := maxNoiseMsgLen - noiseExtraEncryptSpace

/-- `<[T]>::chunks(n)` for `0 < n`: the consecutive pieces of `n` elements, the last possibly
shorter. -/
def chunks {α : Type} (n : Nat) (l : List α) : List (List α) :=
  go l.length l
where
  /-- Each round takes one piece, and there are at most as many pieces as elements. -/
  go : Nat → List α → List (List α)
    | 0, _ => []
    | fuel + 1, l => if l = [] then [] else l.take n :: go fuel (l.drop n)

@[simp] theorem chunks_go_nil {α : Type} (n fuel : Nat) : chunks.go n fuel ([] : List α) = [] := by
  cases fuel <;> rfl

theorem chunks_of_length_le {α : Type} {n : Nat} {l : List α} (hl : l ≠ []) (hn : l.length ≤ n) :
    chunks n l = [l] := by
  obtain ⟨a, l', rfl⟩ := List.exists_cons_of_ne_nil hl
  simp [chunks, chunks.go, List.take_of_length_le hn, List.drop_eq_nil_of_le hn]

theorem take_drop_overwrite_frame (buf ciphertext header : List UInt8) (o : Nat)
    (hheader : header.length = 2) (h : o + 2 + ciphertext.length ≤ buf.length) :
    ((overwrite (overwrite buf (o + 2) ciphertext) o header).drop o).take (2 + ciphertext.length) =
      header ++ ciphertext := by
  have hfirst : (buf.take (o + 2)).length = o + 2 := by simp only [List.length_take]; omega
  have hbefore : (buf.take o).length = o := by simp only [List.length_take]; omega
  have hct : overwrite buf (o + 2) ciphertext =
      buf.take (o + 2) ++ (ciphertext ++ buf.drop (o + 2 + ciphertext.length)) := by
    simp only [overwrite, List.append_assoc]
  have htake : (overwrite buf (o + 2) ciphertext).take o = buf.take o := by
    rw [hct, List.take_append_of_le_length (by omega), List.take_take, Nat.min_eq_left (by omega)]
  have hdrop : (overwrite buf (o + 2) ciphertext).drop (o + header.length) =
      ciphertext ++ buf.drop (o + 2 + ciphertext.length) := by
    rw [hct, hheader, List.drop_left' hfirst]
  calc ((overwrite (overwrite buf (o + 2) ciphertext) o header).drop o).take (2 + ciphertext.length)
      = (header ++ (overwrite buf (o + 2) ciphertext).drop (o + header.length)).take
          (2 + ciphertext.length) := by
        rw [overwrite, htake, List.append_assoc, List.drop_left' hbefore]
    _ = ((header ++ ciphertext) ++ buf.drop (o + 2 + ciphertext.length)).take
          (2 + ciphertext.length) := by
        rw [hdrop, List.append_assoc]
    _ = header ++ ciphertext := List.take_left' (by simp only [List.length_append, hheader])

/-- What the socket uses of snow's `TransportState` `τ`: `write_message` and `read_message` with
an output buffer of `outLen` bytes, and what they write into it. -/
structure TransportCipher (τ : Type) where
  writeMessage : τ → List UInt8 → Nat → Except Unit (List UInt8 × τ)
  readMessage : τ → List UInt8 → Nat → Except Unit (List UInt8 × τ)

inductive ReadState where
  | readData (maxRead : Nat)
  | readFrameLen
  | processNextFrame (pending : Option (List UInt8)) (offset size frameSize : Nat)
  deriving DecidableEq, Repr

inductive WriteState where
  | ready (offset size encryptedSize : Nat)
  | writeFrame (offset size encryptedSize : Nat)
  deriving DecidableEq, Repr

/-- `NoiseSocket`, without its `io`. -/
structure NoiseSocket (τ : Type) where
  noise : τ
  currentFrameSize : Option Nat
  writeState : WriteState
  encryptBuffer : List UInt8
  offset : Nat
  nread : Nat
  readState : ReadState
  readBuffer : List UInt8
  canonicalMaxRead : Nat
  decryptBuffer : Option (List UInt8)

/-- What `poll_read` and `poll_write` return: `Pending`, or the bytes read or the count written,
or an io error. -/
inductive IoPoll (α : Type) where
  | pending
  | ready (result : Except ErrorKind α)
  deriving DecidableEq, Repr

/-- The io a socket writes to: how many bytes each `poll_write` takes (`none` for `Pending`), and
the bytes written. Once its answers run out it stays pending. -/
structure WriteIo where
  answers : List (Option Nat)
  written : List UInt8
  deriving DecidableEq, Repr

/-- What the `ReadFrameLen` arm of `poll_read` goes on with. -/
inductive FrameLenStep (τ : Type) where
  | readData (s : NoiseSocket τ) (maxRead : Nat)
  | processNextFrame (s : NoiseSocket τ)
  | fail (kind : ErrorKind) (s : NoiseSocket τ)

/-- The rank of a read state in the loop of `poll_read`: `ReadFrameLen` moves on to the other
states without reading. -/
def ReadState.rank : ReadState → Nat
  | .readFrameLen => 1
  | _ => 0

namespace NoiseSocket

variable {τ : Type}

def new (noise : τ) (maxReadAheadFactor maxWriteBufferSize : Nat) : NoiseSocket τ where
  noise
  readBuffer := List.replicate (maxReadAheadFactor * maxNoiseMsgLen + (2 + maxNoiseMsgLen)) 0
  nread := 0
  offset := 0
  currentFrameSize := none
  writeState := .ready 0 0 0
  encryptBuffer := List.replicate (maxWriteBufferSize * (maxNoiseMsgLen + 2)) 0
  decryptBuffer := some (List.replicate maxFrameLen 0)
  readState := .readData (maxReadAheadFactor * maxNoiseMsgLen)
  canonicalMaxRead := maxReadAheadFactor * maxNoiseMsgLen

/-- `reset_read_state`: a single byte left is moved to the front of `read_buffer`. -/
def resetReadState (s : NoiseSocket τ) (remaining : Nat) : Except Error (NoiseSocket τ) :=
  match remaining with
  | 0 => .ok { s with nread := 0, offset := 0, readState := .readData s.canonicalMaxRead }
  | 1 =>
    if s.nread - 1 < s.readBuffer.length then
      .ok { s with
        readBuffer := s.readBuffer.set 0 (s.readBuffer.getD (s.nread - 1) 0)
        nread := 1
        offset := 0
        readState := .readData s.canonicalMaxRead }
    else .error .panicked
  | _ => .error .panicked

/-- The `ReadFrameLen` arm of `poll_read`. -/
def readFrameLen (s : NoiseSocket τ) : Except Error (FrameLenStep τ) :=
  if s.offset ≤ s.nread then
    let remaining := s.nread - s.offset
    if remaining < 2 then (s.resetReadState remaining).map fun s => .readData s s.canonicalMaxRead
    else
      let header : Except Error (Nat × Nat × Nat) := match s.currentFrameSize with
        | some frameSize => .ok (frameSize, s.offset, remaining)
        | none =>
          if s.offset + 1 < s.readBuffer.length then
            .ok (u16OfBytes (s.readBuffer.getD s.offset 0) (s.readBuffer.getD (s.offset + 1) 0),
              s.offset + 2, remaining - 2)
          else .error .panicked
      header.map fun (frameSize, offset, remaining) =>
        let s := { s with offset, currentFrameSize := none }
        if remaining < frameSize then
          let s := { s with currentFrameSize := some frameSize }
          if s.nread + frameSize < s.canonicalMaxRead then .readData s s.canonicalMaxRead
          else .readData s (s.nread + frameSize - remaining)
        else if frameSize ≤ noiseExtraEncryptSpace then .fail .invalidData s
        else .processNextFrame { s with currentFrameSize := some frameSize }
  else .ok (.fail .permissionDenied s)

/-- A new length of at most 16 bytes, for a frame that is all in `read_buffer`, is refused with
`InvalidData`. -/
theorem readFrameLen_short_frame (s : NoiseSocket τ) (hcur : s.currentFrameSize = none)
    (hoff : s.offset + 2 ≤ s.nread) (hbuf : s.offset + 1 < s.readBuffer.length)
    (hshort : u16OfBytes (s.readBuffer.getD s.offset 0) (s.readBuffer.getD (s.offset + 1) 0) ≤
      min noiseExtraEncryptSpace (s.nread - s.offset - 2)) :
    s.readFrameLen = .ok (.fail .invalidData { s with offset := s.offset + 2, currentFrameSize := none }) := by
  rw [readFrameLen, if_pos (by omega), if_neg (by omega)]
  simp only [hcur, if_pos hbuf, Except.map]
  rw [if_neg (by omega), if_pos (by omega)]

/-- The `ProcessNextFrame` arm of `poll_read`, for a caller's buffer of `bufLen` bytes. -/
def processNextFrame (x : TransportCipher τ) (s : NoiseSocket τ) (pending : Option (List UInt8))
    (offset size frameSize bufLen : Nat) : Except Error (IoPoll (List UInt8) × NoiseSocket τ) :=
  match pending with
  | some pending =>
    if offset ≤ size ∧ size ≤ pending.length then
      if size - offset ≤ bufLen then
        .ok (.ready (.ok ((pending.drop offset).take (size - offset))),
          { s with readState := .readFrameLen, decryptBuffer := some pending, offset := s.offset + frameSize })
      else
        .ok (.ready (.ok ((pending.drop offset).take bufLen)),
          { s with readState := .processNextFrame (some pending) (offset + bufLen) size frameSize })
    else .error .panicked
  | none =>
    match s.currentFrameSize with
    | none => .error .panicked
    | some frameSize =>
      let s := { s with currentFrameSize := none }
      if s.offset + frameSize ≤ s.readBuffer.length then
        let message := (s.readBuffer.drop s.offset).take frameSize
        if frameSize - noiseExtraEncryptSpace ≤ bufLen then
          match x.readMessage s.noise message bufLen with
          | .error _ => .ok (.ready (.error .invalidData), s)
          | .ok (plaintext, noise) =>
            .ok (.ready (.ok plaintext),
              { s with noise, offset := s.offset + frameSize, readState := .readFrameLen })
        else
          match s.decryptBuffer with
          | none => .error .panicked
          | some buffer =>
            let s := { s with decryptBuffer := none }
            match x.readMessage s.noise message buffer.length with
            | .error _ => .ok (.ready (.error .invalidData), s)
            | .ok (plaintext, noise) =>
              let buffer := overwrite buffer 0 plaintext
              if bufLen ≤ buffer.length then
                .ok (.ready (.ok (buffer.take bufLen)),
                  { s with noise, readState := .processNextFrame (some buffer) bufLen plaintext.length frameSize })
              else .error .panicked
      else .error .panicked

-- The match hypotheses are read only by the termination proof, which the linter does not see.
set_option linter.unusedVariables false in
/-- `poll_read` with a caller's buffer of `bufLen` bytes, from the io stream `t`: the bytes read
into the buffer, the socket, and what is left of the stream. -/
def pollRead (x : TransportCipher τ) (s : NoiseSocket τ) (bufLen : Nat) (t : Transport) :
    Except Error (IoPoll (List UInt8) × NoiseSocket τ × Transport) :=
  match hs : s.readState with
  | .readData maxRead =>
    if s.nread ≤ maxRead ∧ maxRead ≤ s.readBuffer.length then
      match h : t.read (maxRead - s.nread) with
      | (bytes, t') =>
        if hb : bytes = [] then .ok (.ready (.error .unexpectedEof), s, t')
        else
          let readBuffer := overwrite s.readBuffer s.nread bytes
          pollRead x { s with readBuffer, nread := s.nread + bytes.length, readState := .readFrameLen }
            bufLen t'
    else .error .panicked
  | .readFrameLen =>
    match s.readFrameLen with
    | .error e => .error e
    | .ok (.fail kind s) => .ok (.ready (.error kind), s, t)
    | .ok (.readData s maxRead) => pollRead x { s with readState := .readData maxRead } bufLen t
    | .ok (.processNextFrame s) =>
      pollRead x { s with readState := .processNextFrame none 0 0 0 } bufLen t
  | .processNextFrame pending offset size frameSize =>
    (s.processNextFrame x pending offset size frameSize bufLen).map fun (poll, s) => (poll, s, t)
termination_by 2 * t.size + s.readState.rank
decreasing_by
  · have := Transport.size_lt_of_read h hb
    simp only [hs, ReadState.rank]
    omega
  · simp only [hs, ReadState.rank]; omega
  · simp only [hs, ReadState.rank]; omega

theorem pollRead_readData (x : TransportCipher τ) (s : NoiseSocket τ) (bufLen maxRead : Nat)
    (t t' : Transport) (bytes : List UInt8) (hs : s.readState = .readData maxRead)
    (hbounds : s.nread ≤ maxRead ∧ maxRead ≤ s.readBuffer.length)
    (hread : t.read (maxRead - s.nread) = (bytes, t')) (hb : bytes ≠ []) :
    s.pollRead x bufLen t =
      { s with readBuffer := overwrite s.readBuffer s.nread bytes, nread := s.nread + bytes.length,
               readState := .readFrameLen }.pollRead x bufLen t' := by
  rw [pollRead]
  split
  · next maxRead' hs' =>
    obtain rfl : maxRead' = maxRead := ReadState.readData.inj (hs'.symm.trans hs)
    rw [if_pos hbounds]
    split
    next bytes' t'' hread' =>
    rw [hread, Prod.mk.injEq] at hread'
    obtain ⟨rfl, rfl⟩ := hread'
    rw [dif_neg hb]
  all_goals rename_i hs'; exact absurd (hs'.symm.trans hs) (by simp)

theorem pollRead_readFrameLen_fail (x : TransportCipher τ) (s s' : NoiseSocket τ) (bufLen : Nat)
    (t : Transport) (kind : ErrorKind) (hs : s.readState = .readFrameLen)
    (hfail : s.readFrameLen = .ok (.fail kind s')) :
    s.pollRead x bufLen t = .ok (.ready (.error kind), s', t) := by
  rw [pollRead]
  split
  · rename_i hs'
    exact absurd (hs'.symm.trans hs) (by simp)
  · rw [hfail]
  · rename_i hs'
    exact absurd (hs'.symm.trans hs) (by simp)

/-- A new socket whose io stream begins with the length `00 00` fails its first `poll_read` with
`InvalidData`, however the io cuts the stream after those two bytes. -/
theorem pollRead_new_zero_length (x : TransportCipher τ) (noise : τ) (r w bufLen : Nat)
    (rest : List UInt8) (t : Transport) :
    ∃ s' t', (new noise (r + 1) w).pollRead x bufLen ((0 :: 0 :: rest) :: t) =
      .ok (.ready (.error .invalidData), s', t') := by
  have hC : 2 ≤ (r + 1) * maxNoiseMsgLen := by simp only [maxNoiseMsgLen]; omega
  obtain ⟨more, t', hread⟩ : ∃ more t', Transport.read ((r + 1) * maxNoiseMsgLen - 0)
      ((0 :: 0 :: rest) :: t) = (0 :: 0 :: more, t') := by
    rw [Transport.read]
    split_ifs
    · exact ⟨rest, t, rfl⟩
    · obtain ⟨k, hk⟩ : ∃ k, (r + 1) * maxNoiseMsgLen - 0 = k + 2 := ⟨_, (Nat.sub_add_cancel hC).symm⟩
      exact ⟨rest.take k, _, by rw [hk]; rfl⟩
  rw [pollRead_readData x _ bufLen _ _ t' _ rfl ⟨Nat.zero_le _, by simp only [new, List.length_replicate]; omega⟩
    hread (List.cons_ne_nil _ _)]
  have hbuffer : ∀ buf : List UInt8,
      overwrite buf 0 (0 :: 0 :: more) = 0 :: 0 :: (more ++ buf.drop (more.length + 2)) := by
    simp [overwrite]
  refine ⟨_, t', pollRead_readFrameLen_fail x _ _ bufLen t' .invalidData rfl
    (readFrameLen_short_frame _ rfl ?_ ?_ ?_)⟩
  · simp only [new, List.length_cons]; omega
  · simp only [new, hbuffer, List.length_cons]; omega
  · simp only [new, hbuffer, List.getD_cons_zero, List.getD_cons_succ, u16OfBytes, UInt8.toNat_zero]
    omega

/-- The `WriteFrame` loop of `poll_write`: `encrypt_buffer[offset..encrypted_size]` is written
until the io has taken all of it, and `size` is returned. -/
def writeFrame (s : NoiseSocket τ) (offset size encryptedSize : Nat) :
    List (Option Nat) → List UInt8 → Except Error (IoPoll Nat × NoiseSocket τ × WriteIo)
  | [], written => .ok (.pending, { s with writeState := .writeFrame offset size encryptedSize }, ⟨[], written⟩)
  | none :: answers, written =>
    .ok (.pending, { s with writeState := .writeFrame offset size encryptedSize }, ⟨answers, written⟩)
  | some n :: answers, written =>
    if offset ≤ encryptedSize ∧ encryptedSize ≤ s.encryptBuffer.length then
      let bytes := (((s.encryptBuffer.drop offset).take (encryptedSize - offset)).take n)
      let written := written ++ bytes
      let offset := offset + bytes.length
      if offset = encryptedSize then .ok (.ready (.ok size), { s with writeState := .ready 0 0 0 }, ⟨answers, written⟩)
      else writeFrame s offset size encryptedSize answers written
    else .error .panicked

/-- The `Ready` loop of `poll_write` over the chunks left: each is encrypted at `offset` behind its
length, and the batch is written once the next chunk does not fit or there is none. -/
def encryptChunks (x : TransportCipher τ) (s : NoiseSocket τ) (offset size encryptedSize : Nat)
    (io : WriteIo) : List (List UInt8) → Except Error (IoPoll Nat × NoiseSocket τ × WriteIo)
  | [] => .ok (.ready (.ok 0), s, io)
  | chunk :: chunks =>
    if offset + 2 ≤ s.encryptBuffer.length then
      match x.writeMessage s.noise chunk (s.encryptBuffer.length - (offset + 2)) with
      | .error _ => .ok (.ready (.error .invalidData), s, io)
      | .ok (ciphertext, noise) =>
        let nwritten := ciphertext.length
        let len := s.encryptBuffer.length
        let s := { s with
          noise
          encryptBuffer := overwrite (overwrite s.encryptBuffer (offset + 2) ciphertext) offset (u16Bytes nwritten) }
        let size := size + chunk.length
        let encryptedSize := encryptedSize + nwritten + 2
        match chunks with
        | next :: _ =>
          if offset + nwritten + 2 ≤ len then
            if next.length + noiseExtraEncryptSpace + 2 ≤ len - (offset + nwritten + 2) then
              let writeState := .ready (offset + nwritten + 2) size encryptedSize
              encryptChunks x { s with writeState } (offset + nwritten + 2) size encryptedSize io chunks
            else s.writeFrame 0 size encryptedSize io.answers io.written
          else .error .panicked
        | [] => s.writeFrame 0 size encryptedSize io.answers io.written
    else .error .panicked

/-- `poll_write` of `buf`. -/
def pollWrite (x : TransportCipher τ) (s : NoiseSocket τ) (buf : List UInt8) (io : WriteIo) :
    Except Error (IoPoll Nat × NoiseSocket τ × WriteIo) :=
  match s.writeState with
  | .ready offset size encryptedSize => s.encryptChunks x offset size encryptedSize io (chunks maxFrameLen buf)
  | .writeFrame offset size encryptedSize => s.writeFrame offset size encryptedSize io.answers io.written

/-- A buffer that fits in one chunk, written from an idle socket to an io that takes the whole
frame at once: the write reports the buffer written, and the io receives the ciphertext behind its
length. -/
theorem pollWrite_one_chunk (x : TransportCipher τ) (s : NoiseSocket τ) (buf ciphertext : List UInt8)
    (noise : τ) (n : Nat) (answers : List (Option Nat)) (written : List UInt8)
    (hstate : s.writeState = .ready 0 0 0) (hbuf : buf ≠ []) (hlen : buf.length ≤ maxFrameLen)
    (henc : x.writeMessage s.noise buf (s.encryptBuffer.length - 2) = .ok (ciphertext, noise))
    (hfit : ciphertext.length + 2 ≤ s.encryptBuffer.length) (hn : ciphertext.length + 2 ≤ n) :
    ∃ s', s.pollWrite x buf ⟨some n :: answers, written⟩ =
      .ok (.ready (.ok buf.length), s', ⟨answers, written ++ (u16Bytes ciphertext.length ++ ciphertext)⟩) := by
  rw [pollWrite, hstate, chunks_of_length_le hbuf hlen]
  have hheader : (u16Bytes ciphertext.length).length = 2 := rfl
  have hbatch := take_drop_overwrite_frame s.encryptBuffer ciphertext _ 0 hheader (by omega)
  have hsize : (overwrite (overwrite s.encryptBuffer 2 ciphertext) 0 (u16Bytes ciphertext.length)).length =
      s.encryptBuffer.length := by
    rw [Substream.length_overwrite (by rw [Substream.length_overwrite (by omega)]; omega),
      Substream.length_overwrite (by omega)]
  have htake : (u16Bytes ciphertext.length ++ ciphertext).take n = u16Bytes ciphertext.length ++ ciphertext :=
    List.take_of_length_le (by simp only [List.length_append, hheader]; omega)
  simp only [Nat.zero_add, List.drop_zero] at hbatch
  simp only [encryptChunks, henc, Nat.zero_add, if_pos (show 2 ≤ s.encryptBuffer.length by omega),
    writeFrame, hsize, List.drop_zero, Nat.sub_zero, Nat.add_comm ciphertext.length 2]
  rw [if_pos ⟨Nat.zero_le _, by omega⟩, hbatch, htake, if_pos (by simp only [List.length_append, hheader])]
  exact ⟨_, rfl⟩

/-- A buffer that fits in one chunk, which the transport state refuses to encrypt: the write fails
with `InvalidData`, and the socket and the io are as they were. -/
theorem pollWrite_one_chunk_refused (x : TransportCipher τ) (s : NoiseSocket τ) (buf : List UInt8)
    (io : WriteIo) (hstate : s.writeState = .ready 0 0 0) (hbuf : buf ≠ []) (hlen : buf.length ≤ maxFrameLen)
    (hroom : 2 ≤ s.encryptBuffer.length)
    (henc : ∀ r, x.writeMessage s.noise buf (s.encryptBuffer.length - 2) ≠ .ok r) :
    s.pollWrite x buf io = .ok (.ready (.error .invalidData), s, io) := by
  rw [pollWrite, hstate, chunks_of_length_le hbuf hlen]
  simp only [encryptChunks, Nat.zero_add, if_pos hroom]
  split
  · rfl
  · rename_i ciphertext noise hok
    exact absurd hok (henc _)

end NoiseSocket

/-- A transport state whose messages are the payload followed by a tag of 16 zero bytes, refused
when longer than `maxMsgLen` or than the output buffer. It decrypts, in order, exactly what it
encrypted, with 16 bytes of overhead; snow's own states refuse messages longer than
`MAXMSGLEN = 65535`. -/
def TransportCipher.tagged (maxMsgLen : Nat) : TransportCipher Unit where
  writeMessage _ payload outLen :=
    if payload.length + noiseExtraEncryptSpace ≤ min maxMsgLen outLen then
      .ok (payload ++ List.replicate noiseExtraEncryptSpace 0, ())
    else .error ()
  readMessage _ message outLen :=
    if noiseExtraEncryptSpace ≤ message.length ∧ message.length ≤ maxMsgLen ∧
        message.length - noiseExtraEncryptSpace ≤ outLen then
      .ok (message.take (message.length - noiseExtraEncryptSpace), ())
    else .error ()

/-- A buffer of `MAX_FRAME_LEN = 65520` bytes, written through a transport state that adds 16 bytes
to a message: the write reports all of it written, and its frame of 65536 bytes goes out behind the
length `00 00`, on which the reading socket's first `poll_read` fails with `InvalidData`. Through
a state that refuses messages of more than 65535 bytes, as snow's do, the write itself fails. -/
theorem pollRead_rejects_full_chunk (data : List.Vector UInt8 maxFrameLen) (r w bufLen : Nat) :
    let stream := u16Bytes maxNoiseMsgLen ++ (data.toList ++ List.replicate noiseExtraEncryptSpace 0)
    u16Bytes maxNoiseMsgLen = [0, 0] ∧
    (∃ s, (NoiseSocket.new () r (w + 1)).pollWrite (TransportCipher.tagged maxNoiseMsgLen) data.toList
        ⟨[some stream.length], []⟩ = .ok (.ready (.ok maxFrameLen), s, ⟨[], stream⟩)) ∧
    (∃ s t, (NoiseSocket.new () (r + 1) w).pollRead (TransportCipher.tagged maxNoiseMsgLen) bufLen
        [stream] = .ok (.ready (.error .invalidData), s, t)) ∧
    ∃ s, (NoiseSocket.new () r (w + 1)).pollWrite (TransportCipher.tagged 65535) data.toList ⟨[], []⟩ =
      .ok (.ready (.error .invalidData), s, ⟨[], []⟩) := by
  intro stream
  have hdata : data.toList.length = maxFrameLen := data.toList_length
  have hne : data.toList ≠ [] := List.ne_nil_of_length_pos (by rw [hdata]; decide)
  have hheader : u16Bytes maxNoiseMsgLen = [0, 0] := by decide
  have hbuffer : (NoiseSocket.new () r (w + 1)).encryptBuffer.length = (w + 1) * (maxNoiseMsgLen + 2) :=
    List.length_replicate
  have hct : (data.toList ++ List.replicate noiseExtraEncryptSpace 0).length = maxNoiseMsgLen := by
    simp only [List.length_append, hdata, List.length_replicate]; decide
  refine ⟨hheader, ?_, ?_, ?_⟩
  · have henc : (TransportCipher.tagged maxNoiseMsgLen).writeMessage () data.toList
        ((NoiseSocket.new () r (w + 1)).encryptBuffer.length - 2) =
          .ok (data.toList ++ List.replicate noiseExtraEncryptSpace 0, ()) := by
      simp only [TransportCipher.tagged, hbuffer, hdata]
      rw [if_pos (by simp only [maxFrameLen, maxNoiseMsgLen, noiseExtraEncryptSpace]; omega)]
    have hfit : (data.toList ++ List.replicate noiseExtraEncryptSpace 0).length + 2 ≤
        (NoiseSocket.new () r (w + 1)).encryptBuffer.length := by
      rw [hct, hbuffer]; simp only [maxNoiseMsgLen]; omega
    have hstream : (data.toList ++ List.replicate noiseExtraEncryptSpace 0).length + 2 = stream.length := by
      simp only [stream, List.length_append, hct, hheader, List.length_cons, List.length_nil]; omega
    obtain ⟨s, hs⟩ := NoiseSocket.pollWrite_one_chunk _ _ data.toList _ () stream.length [] [] rfl hne
      (Nat.le_of_eq hdata) henc hfit (Nat.le_of_eq hstream)
    rw [hct, hdata] at hs
    exact ⟨s, hs⟩
  · simp only [stream, hheader, List.cons_append, List.nil_append]
    exact NoiseSocket.pollRead_new_zero_length _ () r w bufLen _ []
  · refine ⟨_, NoiseSocket.pollWrite_one_chunk_refused _ _ data.toList _ rfl hne (Nat.le_of_eq hdata)
      (by rw [hbuffer]; simp only [maxNoiseMsgLen]; omega) fun r => ?_⟩
    simp only [TransportCipher.tagged, hdata]
    rw [if_neg (by simp only [maxFrameLen, maxNoiseMsgLen, noiseExtraEncryptSpace]; omega)]
    exact fun h => by cases h

end Litep2p.Crypto
