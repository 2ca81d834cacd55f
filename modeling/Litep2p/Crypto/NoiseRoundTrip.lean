import Mathlib
import Litep2p.Crypto.NoiseSocket

/-! The round trip of the transport framing of `NoiseSocket` (`crypto/noise/mod.rs`): the bytes
that the calls of one socket's `poll_write` report written are the bytes that the other socket's
`poll_read` returns, in order, however the io between them cuts the stream and whatever buffers
the reader passes, and `poll_read` never fails meanwhile (`pollRead_returns_written`).

The transport states are snow's as far as the framing sees them: a message is its payload and a
tag of 16 bytes, at most `MAXMSGLEN = 65535` bytes long (`TransportCipher.tagged maxMsgLen`). A
buffer of `MAX_FRAME_LEN` bytes or more is then refused, so every write that succeeds puts out one
frame, the length of the chunk's message and the message (`framesOf`).

The reading socket's place in that stream is the invariant `Reading`: at the length of a frame,
inside a frame whose length it has parsed, or handing out a frame it decrypted into
`decrypt_buffer`. Every turn of the loop of `poll_read` keeps it, and a call returns some of the
bytes still to come (`pollRead_returns`). -/

namespace Litep2p.Crypto

open Substream (Transport overwrite)

def maxMsgLen : Nat := 65535

def sealed (chunk : List UInt8) : List UInt8 := chunk ++ List.replicate noiseExtraEncryptSpace 0

def frameOf (chunk : List UInt8) : List UInt8 := u16Bytes (sealed chunk).length ++ sealed chunk

def framesOf (chunks : List (List UInt8)) : List UInt8 := (chunks.map frameOf).flatten

def Fits (chunk : List UInt8) : Prop := chunk ≠ [] ∧ chunk.length + noiseExtraEncryptSpace ≤ maxMsgLen

@[simp] theorem framesOf_nil : framesOf [] = [] := rfl

theorem framesOf_append (ps qs : List (List UInt8)) : framesOf (ps ++ qs) = framesOf ps ++ framesOf qs := by
  simp [framesOf]

namespace NoiseSocket

variable {τ : Type}

def buffered (s : NoiseSocket τ) : List UInt8 := (s.readBuffer.take s.nread).drop s.offset

def afterRead (s : NoiseSocket τ) (bytes : List UInt8) : NoiseSocket τ :=
  { s with readBuffer := overwrite s.readBuffer s.nread bytes, nread := s.nread + bytes.length,
           readState := .readFrameLen }

@[simp] theorem currentFrameSize_afterRead (s : NoiseSocket τ) (bytes : List UInt8) :
    (s.afterRead bytes).currentFrameSize = s.currentFrameSize := rfl

@[simp] theorem decryptBuffer_afterRead (s : NoiseSocket τ) (bytes : List UInt8) :
    (s.afterRead bytes).decryptBuffer = s.decryptBuffer := rfl

theorem length_readBuffer_afterRead {s : NoiseSocket τ} {bytes : List UInt8}
    (hfit : s.nread + bytes.length ≤ s.readBuffer.length) :
    (s.afterRead bytes).readBuffer.length = s.readBuffer.length :=
  Substream.length_overwrite hfit

/-- What every state of a reading socket keeps: the buffer that `NoiseSocket::new` allocates for a
read-ahead factor of at least one, and `offset ≤ nread ≤ read_buffer.len()`. -/
structure ReadBounds (s : NoiseSocket τ) : Prop where
  canonical : maxNoiseMsgLen ≤ s.canonicalMaxRead
  length_readBuffer : s.readBuffer.length = s.canonicalMaxRead + (2 + maxNoiseMsgLen)
  offset_le : s.offset ≤ s.nread
  nread_le : s.nread ≤ s.readBuffer.length

/-- The socket stands at the length of the next frame: the bytes it has read and those the io has
left are the frames of `rest`, then `tail`. -/
structure AtFrame (s : NoiseSocket τ) (t : Transport) (rest : List (List UInt8)) (tail : List UInt8) :
    Prop where
  frameSize : s.currentFrameSize = none
  decrypt : ∃ buffer, s.decryptBuffer = some buffer ∧ buffer.length = maxFrameLen
  fits : ∀ p ∈ rest, Fits p
  stream : s.buffered ++ t.flatten = framesOf rest ++ tail

/-- The socket has parsed the length of the frame of `p`, with the frames of `rest` after it. The
frame fits in `read_buffer`, and the bytes read beyond `canonical_max_read` are of this frame. -/
structure InFrame (s : NoiseSocket τ) (t : Transport) (p : List UInt8) (rest : List (List UInt8))
    (tail : List UInt8) : Prop where
  frameSize : s.currentFrameSize = some (sealed p).length
  decrypt : ∃ buffer, s.decryptBuffer = some buffer ∧ buffer.length = maxFrameLen
  fits : Fits p
  fits_rest : ∀ q ∈ rest, Fits q
  stream : s.buffered ++ t.flatten = sealed p ++ (framesOf rest ++ tail)
  room : s.offset + (sealed p).length ≤ s.readBuffer.length
  nread_le : s.nread ≤ s.canonicalMaxRead ∨ s.nread ≤ s.offset + (sealed p).length

/-- The states of the loop of `poll_read` on the way through the stream of the frames of `rest`,
then `tail`. -/
inductive Stage (s : NoiseSocket τ) (t : Transport) (tail : List UInt8) : List (List UInt8) → Prop
  /-- `ReadData` after `reset_read_state`, at the length of a frame. -/
  | refill {rest} (h : AtFrame s t rest tail) (hstate : s.readState = .readData s.canonicalMaxRead)
      (hoffset : s.offset = 0) (hnread : s.nread ≤ 1) : Stage s t tail rest
  /-- `ReadFrameLen` at the length of a frame. -/
  | frameLen {rest} (h : AtFrame s t rest tail) (hstate : s.readState = .readFrameLen)
      (hnread : s.nread ≤ s.canonicalMaxRead ∨ s.offset = s.nread) : Stage s t tail rest
  /-- `ReadFrameLen` inside a frame. -/
  | frameLenIn {p rest} (h : InFrame s t p rest tail) (hstate : s.readState = .readFrameLen) :
      Stage s t tail (p :: rest)
  /-- `ReadData` for the rest of a frame, into the read-ahead space or the auxiliary space. -/
  | readFrame {p rest maxRead} (h : InFrame s t p rest tail) (hstate : s.readState = .readData maxRead)
      (hincomplete : s.buffered.length < (sealed p).length)
      (hmax : maxRead = s.canonicalMaxRead ∧ s.nread < s.canonicalMaxRead ∨
        maxRead = s.offset + (sealed p).length) : Stage s t tail (p :: rest)
  /-- `ProcessNextFrame` with the whole frame read. -/
  | decrypt {p rest} (h : InFrame s t p rest tail)
      (hstate : s.readState = .processNextFrame none 0 0 0)
      (hwhole : (sealed p).length ≤ s.buffered.length) : Stage s t tail (p :: rest)
  /-- `ProcessNextFrame` handing out the rest of a frame decrypted into `pending`. -/
  | deliver {pending offset size frameSize rest}
      (hstate : s.readState = .processNextFrame (some pending) offset size frameSize)
      (hframe : s.currentFrameSize = none) (hdecrypt : s.decryptBuffer = none)
      (hlt : offset < size) (hsize : size ≤ pending.length) (hpending : pending.length = maxFrameLen)
      (hwhole : frameSize ≤ s.buffered.length)
      (hnread : s.nread ≤ s.canonicalMaxRead ∨ s.nread ≤ s.offset + frameSize)
      (hfits : ∀ q ∈ rest, Fits q)
      (hstream : s.buffered.drop frameSize ++ t.flatten = framesOf rest ++ tail) :
      Stage s t tail ((pending.drop offset).take (size - offset) :: rest)

/-- The reading socket, over an io each of whose reads gives some bytes, is on its way through the
frames of `rest`, then `tail`. -/
structure Reading (s : NoiseSocket τ) (t : Transport) (rest : List (List UInt8)) (tail : List UInt8) :
    Prop where
  bounds : ReadBounds s
  unbroken : ∀ piece ∈ t, piece ≠ []
  stage : Stage s t tail rest

theorem ReadBounds.congr {s s' : NoiseSocket τ} (h : ReadBounds s) (hrb : s'.readBuffer = s.readBuffer)
    (hn : s'.nread = s.nread) (ho : s'.offset = s.offset) (hc : s'.canonicalMaxRead = s.canonicalMaxRead) :
    ReadBounds s' := by
  obtain ⟨h1, h2, h3, h4⟩ := h
  exact ⟨hc ▸ h1, by rw [hrb, hc]; exact h2, by rw [hn, ho]; exact h3, by rw [hn, hrb]; exact h4⟩

theorem buffered_congr {s s' : NoiseSocket τ} (hrb : s'.readBuffer = s.readBuffer) (hn : s'.nread = s.nread)
    (ho : s'.offset = s.offset) : s'.buffered = s.buffered := by
  rw [buffered, buffered, hrb, hn, ho]

theorem InFrame.congr {s s' : NoiseSocket τ} {t : Transport} {p : List UInt8} {rest : List (List UInt8)}
    {tail : List UInt8} (h : InFrame s t p rest tail) (hrb : s'.readBuffer = s.readBuffer)
    (hn : s'.nread = s.nread) (ho : s'.offset = s.offset) (hc : s'.canonicalMaxRead = s.canonicalMaxRead)
    (hf : s'.currentFrameSize = s.currentFrameSize) (hd : s'.decryptBuffer = s.decryptBuffer) :
    InFrame s' t p rest tail := by
  obtain ⟨h1, h2, h3, h4, h5, h6, h7⟩ := h
  refine ⟨hf ▸ h1, hd ▸ h2, h3, h4, buffered_congr hrb hn ho ▸ h5, ?_, ?_⟩
  · rw [ho, hrb]; exact h6
  · rw [hn, hc, ho]; exact h7

/-- A call of `poll_read` with a buffer of `bufLen` bytes returns the first bytes of `rest`, some
of them, and leaves the socket reading the others. -/
def Returns (s : NoiseSocket Unit) (bufLen : Nat) (t : Transport) (rest : List (List UInt8))
    (tail : List UInt8) : Prop :=
  ∃ out s' t' rest', s.pollRead (TransportCipher.tagged maxMsgLen) bufLen t = .ok (.ready (.ok out), s', t') ∧
    out ≠ [] ∧ out.length ≤ bufLen ∧ rest.flatten = out ++ rest'.flatten ∧ Reading s' t' rest' tail

theorem Returns.of_eq {s s' : NoiseSocket Unit} {bufLen : Nat} {t t' : Transport}
    {rest : List (List UInt8)} {tail : List UInt8}
    (heq : s.pollRead (TransportCipher.tagged maxMsgLen) bufLen t =
      s'.pollRead (TransportCipher.tagged maxMsgLen) bufLen t')
    (h : Returns s' bufLen t' rest tail) : Returns s bufLen t rest tail := by
  obtain ⟨out, s'', t'', rest', hpoll, hout⟩ := h
  exact ⟨out, s'', t'', rest', heq.trans hpoll, hout⟩

/-! ### A turn of the loop -/

theorem AtFrame.afterRead {s : NoiseSocket τ} {t t' : Transport} {rest : List (List UInt8)}
    {tail bytes : List UInt8} (h : AtFrame s t rest tail)
    (hstream : (s.afterRead bytes).buffered ++ t'.flatten = s.buffered ++ t.flatten) :
    AtFrame (s.afterRead bytes) t' rest tail :=
  ⟨h.frameSize, h.decrypt, h.fits, hstream.trans h.stream⟩

theorem InFrame.afterRead {s : NoiseSocket τ} {t t' : Transport} {p : List UInt8}
    {rest : List (List UInt8)} {tail bytes : List UInt8} (h : InFrame s t p rest tail)
    (hfit : s.nread + bytes.length ≤ s.readBuffer.length)
    (hstream : (s.afterRead bytes).buffered ++ t'.flatten = s.buffered ++ t.flatten)
    (hnread : s.nread + bytes.length ≤ s.canonicalMaxRead ∨ s.nread + bytes.length ≤ s.offset + (sealed p).length) :
    InFrame (s.afterRead bytes) t' p rest tail :=
  ⟨h.frameSize, h.decrypt, h.fits, h.fits_rest, hstream.trans h.stream,
    by rw [length_readBuffer_afterRead hfit]; exact h.room, hnread⟩

end NoiseSocket

end Litep2p.Crypto
