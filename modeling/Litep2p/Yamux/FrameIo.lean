import Mathlib
import Litep2p.Substream.Framing
import Litep2p.Crypto.NoiseSocket
import Litep2p.Yamux.Header

/-!
# Frames on the byte stream

`yamux/frame/io.rs`. `Io` writes frames to the socket and reads frames from it. The write side
takes a frame with `start_send` and puts out its encoded header, then its body, as the io takes
them, in `poll_ready`; a write the io takes none of fails with `WriteZero`. The read side,
`poll_next`, reads the twelve bytes of a header into a buffer, decodes it, and for a data frame
reads as many bytes as its length into a second buffer; the io may cut the stream anywhere.

The io a frame is read from is what is left of its stream, cut where its reads cut it
(`Substream.Transport`), and the io a frame is written to is a `Crypto.WriteIo`: both never fail.
A slice out of range panics, modelled as `Error.panicked`.
-/

namespace Litep2p.Yamux

open Substream (Transport overwrite)
open Crypto (WriteIo)

inductive Poll (α : Type) where
  | ready (a : α)
  | pending
  deriving DecidableEq, Repr

/-- `FrameDecodeError`; an i/o error keeps its kind. -/
inductive FrameDecodeError where
  | io (kind : ErrorKind)
  | header (e : HeaderDecodeError)
  | frameTooLarge (n : Nat)
  deriving DecidableEq, Repr

/-- `ReadState`: the bytes of a header read so far into its buffer, or the bytes of a body. -/
inductive ReadState where
  | init
  | header (offset : Nat) (buffer : List UInt8)
  | body (header : Header) (offset : Nat) (buffer : List UInt8)
  deriving DecidableEq, Repr

/-- The order in which `poll_next` moves between its states without reading. -/
def ReadState.rank : ReadState → Nat
  | .init => 2
  | .header .. => 1
  | .body .. => 0

abbrev ReadItem := Option (Except FrameDecodeError Frame)

set_option linter.unusedVariables false in
/-- `Io::poll_next`, with `max_body_len`: the item, the state and what is left of the stream. -/
def pollNext (maxBodyLen : Nat) (s : ReadState) (t : Transport) : Except Error (ReadItem × ReadState × Transport) :=
  match s with
  | .init => pollNext maxBodyLen (.header 0 (List.replicate headerSize 0)) t
  | .header offset buffer =>
    if offset = headerSize then
      match decode buffer with
      | .error e => .ok (some (.error (.header e)), s, t)
      | .ok header =>
        if header.tag ≠ .data then .ok (some (.ok (Frame.new header)), .init, t)
        else
          let bodyLen := header.length.toNat
          if bodyLen > maxBodyLen then .ok (some (.error (.frameTooLarge bodyLen)), s, t)
          else pollNext maxBodyLen (.body header 0 (List.replicate bodyLen 0)) t
    else if offset ≤ headerSize then
      match h : t.read (headerSize - offset) with
      | (bytes, t') =>
        if hb : bytes = [] then
          if offset = 0 then .ok (none, s, t') else .ok (some (.error (.io .unexpectedEof)), s, t')
        else pollNext maxBodyLen (.header (offset + bytes.length) (overwrite buffer offset bytes)) t'
    else .error .panicked
  | .body header offset buffer =>
    let bodyLen := header.length.toNat
    if offset = bodyLen then .ok (some (.ok ⟨header, buffer⟩), .init, t)
    else if offset ≤ bodyLen ∧ bodyLen ≤ buffer.length then
      match h : t.read (bodyLen - offset) with
      | (bytes, t') =>
        if hb : bytes = [] then .ok (some (.error (.io .unexpectedEof)), s, t')
        else pollNext maxBodyLen (.body header (offset + bytes.length) (overwrite buffer offset bytes)) t'
    else .error .panicked
termination_by (t.size, s.rank)
decreasing_by
  · exact Prod.Lex.right _ (by simp [ReadState.rank])
  · exact Prod.Lex.right _ (by simp [ReadState.rank])
  · exact Prod.Lex.left _ _ (Transport.size_lt_of_read h hb)
  · exact Prod.Lex.left _ _ (Transport.size_lt_of_read h hb)

/-- `WriteState`: the encoded header and the body of the frame being written, and how much of the
part being written the io has taken. -/
inductive WriteState where
  | init
  | header (header : List UInt8) (buffer : List UInt8) (offset : Nat)
  | body (buffer : List UInt8) (offset : Nat)
  deriving DecidableEq, Repr

inductive WriteError where
  | writeZero
  deriving DecidableEq, Repr

/-- `Io::poll_ready`, on the answers the io will give and the bytes it has taken: the frame being
written goes out, its header and then its body, and `Ready(Ok)` comes once all of it is out. -/
def pollReady : WriteState → List (Option Nat) → List UInt8 → Poll (Except WriteError Unit) × WriteState × WriteIo
  | .init, answers, written => (.ready (.ok ()), .init, ⟨answers, written⟩)
  | .header header buffer offset, answers, written =>
    match answers with
    | [] => (.pending, .header header buffer offset, ⟨[], written⟩)
    | none :: answers => (.pending, .header header buffer offset, ⟨answers, written⟩)
    | some n :: answers =>
      if n = 0 then (.ready (.error .writeZero), .header header buffer offset, ⟨answers, written⟩)
      else
        let bytes := (header.drop offset).take n
        let offset := offset + bytes.length
        if offset = header.length then
          if buffer ≠ [] then pollReady (.body buffer 0) answers (written ++ bytes)
          else pollReady .init answers (written ++ bytes)
        else pollReady (.header header buffer offset) answers (written ++ bytes)
  | .body buffer offset, answers, written =>
    match answers with
    | [] => (.pending, .body buffer offset, ⟨[], written⟩)
    | none :: answers => (.pending, .body buffer offset, ⟨answers, written⟩)
    | some n :: answers =>
      if n = 0 then (.ready (.error .writeZero), .body buffer offset, ⟨answers, written⟩)
      else
        let bytes := (buffer.drop offset).take n
        let offset := offset + bytes.length
        if offset = buffer.length then pollReady .init answers (written ++ bytes)
        else pollReady (.body buffer offset) answers (written ++ bytes)

def startSend (f : Frame) : WriteState := .header (encode f.header) f.body 0

/-- The frames handed to the socket in turn, each once `poll_ready` is `Ready(Ok)`, and the last
flushed out, as `Active::poll` and `Closing` drive the socket. -/
def sendFrames : List Frame → WriteState → WriteIo → Poll (Except WriteError Unit) × WriteState × WriteIo
  | [], s, io => pollReady s io.answers io.written
  | f :: fs, s, io =>
    match pollReady s io.answers io.written with
    | (.ready (.ok ()), _, io) => sendFrames fs (startSend f) io
    | r => r

/-! ### The write side puts out the encoding of each frame -/

/-- What is left to write of the frame being written. -/
def WriteState.remaining : WriteState → List UInt8
  | .init => []
  | .header hdr buffer offset => hdr.drop offset ++ buffer
  | .body buffer offset => buffer.drop offset

/-- A state `poll_ready` leaves behind: the part being written has bytes left to go. -/
def WriteState.Live : WriteState → Prop
  | .init => True
  | .header hdr _ offset => offset < hdr.length
  | .body buffer offset => offset < buffer.length

def Positive (answers : List (Option Nat)) : Prop := ∀ a ∈ answers, ∃ n, a = some n ∧ 0 < n

theorem Positive.tail {a : Option Nat} {answers : List (Option Nat)} (h : Positive (a :: answers)) :
    Positive answers :=
  fun b hb => h b (List.mem_cons_of_mem a hb)

theorem Positive.drop {answers : List (Option Nat)} (h : Positive answers) (k : Nat) :
    Positive (answers.drop k) :=
  fun b hb => h b (List.mem_of_mem_drop hb)

private theorem take_append_drop_offset (l : List UInt8) (offset n : Nat) :
    (l.drop offset).take n ++ l.drop (offset + ((l.drop offset).take n).length) = l.drop offset := by
  rw [← List.drop_drop, List.length_take]
  rcases le_total n (l.drop offset).length with h | h
  · rw [min_eq_left h, List.take_append_drop]
  · rw [min_eq_right h, List.take_of_length_le h, List.drop_length, List.append_nil]

private theorem take_eq_drop_of_end {l : List UInt8} {offset n : Nat}
    (hend : offset + ((l.drop offset).take n).length = l.length) : (l.drop offset).take n = l.drop offset := by
  have hsplit := take_append_drop_offset l offset n
  rwa [hend, List.drop_length, List.append_nil] at hsplit

theorem pollReady_step {s : WriteState} (hlive : s.Live) (hs : s ≠ .init) {n : Nat} (hn : 0 < n)
    (answers : List (Option Nat)) (written : List UInt8) :
    ∃ s' bytes, pollReady s (some n :: answers) written = pollReady s' answers (written ++ bytes) ∧
      bytes ≠ [] ∧ bytes ++ s'.remaining = s.remaining ∧ s'.Live := by
  cases s with
  | init => exact absurd rfl hs
  | header hdr buffer offset =>
    simp only [WriteState.Live] at hlive
    have hne : (hdr.drop offset).take n ≠ [] := by simp [hn.ne', hlive]
    rw [pollReady, if_neg hn.ne']
    dsimp only
    split_ifs with hend hbuf
    · refine ⟨_, _, rfl, hne, ?_, List.length_pos_of_ne_nil hbuf⟩
      simp only [WriteState.remaining, List.drop_zero, take_eq_drop_of_end hend]
    · rw [not_not] at hbuf
      refine ⟨_, _, rfl, hne, ?_, trivial⟩
      simp only [WriteState.remaining, List.append_nil, hbuf, take_eq_drop_of_end hend]
    · have hlt : offset + ((hdr.drop offset).take n).length < hdr.length := by
        have := List.length_take_le' n (hdr.drop offset)
        simp only [List.length_drop] at this
        omega
      refine ⟨_, _, rfl, hne, ?_, hlt⟩
      simp only [WriteState.remaining, ← List.append_assoc, take_append_drop_offset]
  | body buffer offset =>
    simp only [WriteState.Live] at hlive
    have hne : (buffer.drop offset).take n ≠ [] := by simp [hn.ne', hlive]
    rw [pollReady, if_neg hn.ne']
    dsimp only
    split_ifs with hend
    · refine ⟨_, _, rfl, hne, ?_, trivial⟩
      simp only [WriteState.remaining, List.append_nil, take_eq_drop_of_end hend]
    · have hlt : offset + ((buffer.drop offset).take n).length < buffer.length := by
        have := List.length_take_le' n (buffer.drop offset)
        simp only [List.length_drop] at this
        omega
      refine ⟨_, _, rfl, hne, ?_, hlt⟩
      simp only [WriteState.remaining, take_append_drop_offset]

/-- From a live state, an io that takes some bytes at each write and answers at least once for
each byte left takes the rest of the frame: `poll_ready` is `Ready(Ok)` with the writer idle, and
at most one answer per byte is used. -/
theorem pollReady_of_positive :
    ∀ (answers : List (Option Nat)) (s : WriteState) (written : List UInt8), s.Live → Positive answers →
      s.remaining.length ≤ answers.length →
      ∃ k ≤ s.remaining.length, pollReady s answers written =
        (.ready (.ok ()), .init, ⟨answers.drop k, written ++ s.remaining⟩) := by
  intro answers
  induction answers with
  | nil =>
    intro s written hlive _ hlen
    cases s with
    | init => exact ⟨0, le_rfl, by simp [pollReady, WriteState.remaining]⟩
    | header hdr buffer offset =>
      simp only [WriteState.Live, WriteState.remaining, List.length_append, List.length_drop,
        List.length_nil] at hlive hlen
      omega
    | body buffer offset =>
      simp only [WriteState.Live, WriteState.remaining, List.length_drop, List.length_nil] at hlive hlen
      omega
  | cons a answers ih =>
    intro s written hlive hpos hlen
    obtain ⟨n, rfl, hn⟩ := hpos a (List.mem_cons_self ..)
    by_cases hs : s = .init
    · subst hs
      exact ⟨0, le_rfl, by simp [pollReady, WriteState.remaining]⟩
    obtain ⟨s', bytes, hstep, hne, hrem, hlive'⟩ := pollReady_step hlive hs hn answers written
    have hbytes := List.length_pos_of_ne_nil hne
    have hlen' : bytes.length + s'.remaining.length = s.remaining.length := by
      rw [← hrem, List.length_append]
    obtain ⟨k, hk, heq⟩ := ih s' (written ++ bytes) hlive' hpos.tail
      (by rw [List.length_cons] at hlen; omega)
    refine ⟨k + 1, by omega, ?_⟩
    rw [hstep, heq, List.drop_succ_cons, List.append_assoc, hrem]

def encodeAll (fs : List Frame) : List UInt8 := (fs.map Frame.encode).flatten

theorem startSend_live (f : Frame) : (startSend f).Live := by
  simp [startSend, WriteState.Live, headerSize]

theorem remaining_startSend (f : Frame) : (startSend f).remaining = f.encode := rfl

theorem sendFrames_of_positive :
    ∀ (fs : List Frame) (s : WriteState) (answers : List (Option Nat)) (written : List UInt8), s.Live →
      Positive answers → s.remaining.length + (encodeAll fs).length ≤ answers.length →
      ∃ rest, sendFrames fs s ⟨answers, written⟩ =
        (.ready (.ok ()), .init, ⟨rest, written ++ s.remaining ++ encodeAll fs⟩) := by
  intro fs
  induction fs with
  | nil =>
    intro s answers written hlive hpos hlen
    obtain ⟨k, -, heq⟩ := pollReady_of_positive answers s written hlive hpos (by simpa [encodeAll] using hlen)
    exact ⟨answers.drop k, by simp [sendFrames, heq, encodeAll]⟩
  | cons f fs ih =>
    intro s answers written hlive hpos hlen
    obtain ⟨k, hk, heq⟩ := pollReady_of_positive answers s written hlive hpos (by
      simp only [encodeAll, List.map_cons, List.flatten_cons, List.length_append] at hlen; omega)
    obtain ⟨rest, hrest⟩ := ih (startSend f) (answers.drop k) (written ++ s.remaining) (startSend_live f)
      (hpos.drop k) (by
        simp only [encodeAll, List.map_cons, List.flatten_cons, List.length_append] at hlen
        rw [remaining_startSend, List.length_drop]
        simp only [encodeAll] at *
        omega)
    refine ⟨rest, ?_⟩
    rw [sendFrames, heq]
    dsimp only
    rw [hrest, remaining_startSend]
    simp [encodeAll, List.append_assoc]

theorem sendFrames_init (fs : List Frame) (answers : List (Option Nat)) (written : List UInt8)
    (hpos : Positive answers) (hlen : (encodeAll fs).length ≤ answers.length) :
    ∃ rest, sendFrames fs .init ⟨answers, written⟩ = (.ready (.ok ()), .init, ⟨rest, written ++ encodeAll fs⟩) := by
  simpa [WriteState.remaining] using
    sendFrames_of_positive fs .init answers written trivial hpos (by simpa [WriteState.remaining] using hlen)

/-! ### The read side reads back each frame, wherever the stream is cut -/

/-- A stream each of whose reads gives some bytes until it ends: no read is taken for the end of
the stream before it. -/
def Transport.Unbroken (t : Transport) : Prop := ∀ piece ∈ t, piece ≠ []

theorem read_prefix {t : Transport} (ht : Transport.Unbroken t) {y rest : List UInt8}
    (hflat : t.flatten = y ++ rest) {cap : Nat} (hcap : 0 < cap) (hcapy : cap ≤ y.length) :
    ∃ bytes t', t.read cap = (bytes, t') ∧ bytes ≠ [] ∧ bytes.length ≤ cap ∧ bytes = y.take bytes.length ∧
      t'.flatten = y.drop bytes.length ++ rest ∧ Transport.Unbroken t' := by
  cases t with
  | nil =>
    simp only [List.flatten_nil, List.nil_eq, List.append_eq_nil_iff] at hflat
    simp [hflat.1] at hcapy
    omega
  | cons piece pieces =>
    have hpiece : piece ≠ [] := ht piece (List.mem_cons_self ..)
    have hpieces : Transport.Unbroken pieces := fun p hp => ht p (List.mem_cons_of_mem _ hp)
    rw [List.flatten_cons] at hflat
    rw [Transport.read]
    split_ifs with hle
    · have htake : piece = y.take piece.length := by
        have := congrArg (List.take piece.length) hflat
        rwa [List.take_left, List.take_append_of_le_length (by omega)] at this
      have hy : y = piece ++ y.drop piece.length := by
        calc y = y.take piece.length ++ y.drop piece.length := (List.take_append_drop _ _).symm
          _ = piece ++ y.drop piece.length := by rw [← htake]
      refine ⟨piece, pieces, rfl, hpiece, hle, htake, ?_, hpieces⟩
      rw [hy, List.append_assoc] at hflat
      exact List.append_cancel_left hflat
    · have hlt : cap < piece.length := by omega
      have htake : piece.take cap = y.take cap := by
        have := congrArg (List.take cap) hflat
        rwa [List.take_append_of_le_length (by omega), List.take_append_of_le_length hcapy] at this
      refine ⟨piece.take cap, piece.drop cap :: pieces, rfl, by simp [hpiece, hcap.ne'],
        by simp, ?_, ?_, ?_⟩
      · rw [List.length_take, min_eq_left hlt.le, htake]
      · rw [List.flatten_cons, List.length_take, min_eq_left hlt.le]
        have := congrArg (List.drop cap) hflat
        rwa [List.drop_append_of_le_length (by omega), List.drop_append_of_le_length hcapy] at this
      · intro p hp
        rcases List.mem_cons.mp hp with rfl | hp
        · rw [Ne, List.drop_eq_nil_iff]
          omega
        · exact hpieces p hp

theorem overwrite_fill {buffer x bytes : List UInt8} {offset : Nat} (hlen : buffer.length = x.length)
    (hagree : buffer.take offset = x.take offset) (hbytes : bytes = (x.drop offset).take bytes.length)
    (hfit : offset + bytes.length ≤ x.length) :
    (overwrite buffer offset bytes).length = x.length ∧
      (overwrite buffer offset bytes).take (offset + bytes.length) = x.take (offset + bytes.length) := by
  refine ⟨by rw [Substream.length_overwrite (by omega), hlen], ?_⟩
  have hpre : (buffer.take offset ++ bytes).length = offset + bytes.length := by
    rw [List.length_append, List.length_take, min_eq_left (by omega)]
  rw [overwrite, List.take_left' hpre, hagree, List.take_add]
  conv_lhs => rw [hbytes]

private theorem eq_of_take_eq {buffer x : List UInt8} (hlen : buffer.length = x.length)
    (h : buffer.take x.length = x.take x.length) : buffer = x := by
  rwa [List.take_of_length_le hlen.le, List.take_length] at h

theorem pollNext_header_fill (maxBodyLen : Nat) {x : List UInt8} (hx : x.length = headerSize) :
    ∀ (n : Nat) (t : Transport) (offset : Nat) (buffer rest : List UInt8), headerSize - offset = n →
      Transport.Unbroken t → offset ≤ headerSize → buffer.length = headerSize →
      buffer.take offset = x.take offset → t.flatten = x.drop offset ++ rest →
      ∃ t', pollNext maxBodyLen (.header offset buffer) t = pollNext maxBodyLen (.header headerSize x) t' ∧
        t'.flatten = rest ∧ Transport.Unbroken t' := by
  intro n
  induction n using Nat.strong_induction_on with
  | _ n ih =>
  intro t offset buffer rest hn ht hoff hlen hagree hflat
  by_cases hend : offset = headerSize
  · subst hend
    have hbuf : buffer = x := eq_of_take_eq (hlen.trans hx.symm) (by rwa [hx])
    refine ⟨t, by rw [hbuf], ?_, ht⟩
    rwa [← hx, List.drop_length, List.nil_append] at hflat
  · obtain ⟨bytes, t', hread, hne, hcap, hbytes, hflat', ht'⟩ :=
      read_prefix ht hflat (show 0 < headerSize - offset by omega) (by rw [List.length_drop, hx])
    obtain ⟨hlen', hagree'⟩ := overwrite_fill (hlen.trans hx.symm) hagree hbytes (by omega)
    obtain ⟨t'', heq, hflat'', ht''⟩ := ih (headerSize - (offset + bytes.length))
      (by have := List.length_pos_of_ne_nil hne; omega) t' _ _ rest rfl ht' (by omega) (hlen'.trans hx)
      hagree' (by rw [hflat', List.drop_drop])
    refine ⟨t'', ?_, hflat'', ht''⟩
    rw [pollNext, if_neg hend, if_pos hoff]
    split
    rename_i bytes' t₁ hread'
    rw [hread, Prod.mk.injEq] at hread'
    obtain ⟨rfl, rfl⟩ := hread'
    rw [dif_neg hne]
    exact heq

theorem pollNext_body_fill (maxBodyLen : Nat) (header : Header) {b : List UInt8}
    (hb : b.length = header.length.toNat) :
    ∀ (n : Nat) (t : Transport) (offset : Nat) (buffer rest : List UInt8), b.length - offset = n →
      Transport.Unbroken t → offset ≤ b.length → buffer.length = b.length →
      buffer.take offset = b.take offset → t.flatten = b.drop offset ++ rest →
      ∃ t', pollNext maxBodyLen (.body header offset buffer) t = .ok (some (.ok ⟨header, b⟩), .init, t') ∧
        t'.flatten = rest ∧ Transport.Unbroken t' := by
  intro n
  induction n using Nat.strong_induction_on with
  | _ n ih =>
  intro t offset buffer rest hn ht hoff hlen hagree hflat
  by_cases hend : offset = b.length
  · subst hend
    have hbuf : buffer = b := eq_of_take_eq hlen hagree
    refine ⟨t, ?_, ?_, ht⟩
    · rw [pollNext, if_pos hb, hbuf]
    · rwa [List.drop_length, List.nil_append] at hflat
  · obtain ⟨bytes, t', hread, hne, hcap, hbytes, hflat', ht'⟩ :=
      read_prefix ht hflat (show 0 < b.length - offset by omega) (by rw [List.length_drop])
    obtain ⟨hlen', hagree'⟩ := overwrite_fill hlen hagree hbytes (by omega)
    obtain ⟨t'', heq, hflat'', ht''⟩ := ih (b.length - (offset + bytes.length))
      (by have := List.length_pos_of_ne_nil hne; omega) t' _ _ rest rfl ht' (by omega) hlen'
      hagree' (by rw [hflat', List.drop_drop])
    refine ⟨t'', ?_, hflat'', ht''⟩
    rw [pollNext]
    dsimp only
    rw [if_neg (by omega), if_pos ⟨by omega, by omega⟩]
    simp only [← hb, hread, dif_neg hne]
    exact heq

/-- `poll_next` reads back a well-formed frame within the body limit from a stream that starts
with its encoding, however the stream is cut into pieces. -/
theorem pollNext_frame (maxBodyLen : Nat) {f : Frame} (hwf : f.WellFormed)
    (hmax : f.body.length ≤ maxBodyLen) {t : Transport} {rest : List UInt8}
    (ht : Transport.Unbroken t) (hflat : t.flatten = f.encode ++ rest) :
    ∃ t', pollNext maxBodyLen .init t = .ok (some (.ok f), .init, t') ∧ t'.flatten = rest ∧
      Transport.Unbroken t' := by
  obtain ⟨t₁, heq, hflat₁, ht₁⟩ := pollNext_header_fill maxBodyLen (length_encode f.header) _ t 0
    (List.replicate headerSize 0) (f.body ++ rest) rfl ht (Nat.zero_le _) List.length_replicate rfl
    (by rw [hflat, Frame.encode, List.drop_zero, List.append_assoc])
  rw [pollNext, heq, pollNext, if_pos rfl, decode_encode]
  dsimp only
  by_cases htag : f.header.tag = .data
  · have hb : f.body.length = f.header.length.toNat := by rw [hwf, if_pos htag]
    rw [if_neg (not_not.mpr htag), if_neg (by omega)]
    exact pollNext_body_fill maxBodyLen f.header hb _ t₁ 0 _ rest rfl ht₁ (Nat.zero_le _)
      (by rw [List.length_replicate, hb]) rfl (by rw [List.drop_zero, hflat₁])
  · have hb : f.body = [] := List.eq_nil_of_length_eq_zero (by rw [hwf, if_neg htag])
    refine ⟨t₁, ?_, by rw [hflat₁, hb, List.nil_append], ht₁⟩
    rw [if_pos htag, Frame.new, ← hb]

theorem pollNext_nil (maxBodyLen : Nat) :
    pollNext maxBodyLen .init [] = .ok (none, .header 0 (List.replicate headerSize 0), []) := by
  rw [pollNext, pollNext]
  rfl

/-- A reader of the stream: it polls `poll_next` until the stream ends or yields an error, at most
`fuel` times, and gives back the items it got. -/
def readItems (maxBodyLen : Nat) : Nat → ReadState → Transport → Except Error (List ReadItem)
  | 0, _, _ => .ok []
  | fuel + 1, s, t =>
    match pollNext maxBodyLen s t with
    | .error e => .error e
    | .ok (some (.ok f), s', t') => (readItems maxBodyLen fuel s' t').map (some (.ok f) :: ·)
    | .ok (item, _, _) => .ok [item]

/-- A stream made of the encodings of well-formed frames within the body limit is read back as
those frames and then its end, however it is cut into pieces. -/
theorem readItems_encodeAll (maxBodyLen : Nat) :
    ∀ (fs : List Frame), (∀ f ∈ fs, f.WellFormed ∧ f.body.length ≤ maxBodyLen) →
      ∀ t : Transport, Transport.Unbroken t → t.flatten = encodeAll fs →
        readItems maxBodyLen (fs.length + 1) .init t = .ok (fs.map (some ∘ .ok) ++ [none])
  | [], _, t, ht, hflat => by
      have ht₀ : t = [] := by
        cases t with
        | nil => rfl
        | cons piece t => exact absurd (List.flatten_eq_nil_iff.mp hflat piece (by simp)) (ht piece (by simp))
      subst ht₀
      rw [readItems, pollNext_nil]
      rfl
  | f :: fs, hfs, t, ht, hflat => by
      obtain ⟨hwf, hmax⟩ := hfs f (by simp)
      obtain ⟨t', heq, hflat', ht'⟩ := pollNext_frame maxBodyLen hwf hmax ht
        (show t.flatten = f.encode ++ encodeAll fs by rw [hflat, encodeAll, List.map_cons, List.flatten_cons]; rfl)
      rw [List.length_cons, readItems, heq]
      dsimp only
      rw [readItems_encodeAll maxBodyLen fs (fun g hg => hfs g (by simp [hg])) t' ht' hflat']
      rfl

/-- Whatever the io takes at each write and however the network cuts the bytes, the frames the
write side sends are the frames the read side yields, and then the end of the stream. -/
theorem sendFrames_readItems (maxBodyLen : Nat) (fs : List Frame)
    (hfs : ∀ f ∈ fs, f.WellFormed ∧ f.body.length ≤ maxBodyLen) (answers : List (Option Nat))
    (hpos : Positive answers) (hlen : (encodeAll fs).length ≤ answers.length) :
    ∃ io, sendFrames fs .init ⟨answers, []⟩ = (.ready (.ok ()), .init, io) ∧
      ∀ t : Transport, Transport.Unbroken t → t.flatten = io.written →
        readItems maxBodyLen (fs.length + 1) .init t = .ok (fs.map (some ∘ .ok) ++ [none]) := by
  obtain ⟨rest, hsend⟩ := sendFrames_init fs answers [] hpos hlen
  refine ⟨_, hsend, fun t ht hflat => readItems_encodeAll maxBodyLen fs hfs t ht ?_⟩
  rw [hflat, List.nil_append]

theorem sendFrames_readItems_two_frames :
    (∀ f ∈ [Frame.windowUpdate 1 5, ⟨Header.data 1 2, [7, 8]⟩], f.WellFormed ∧ f.body.length ≤ 16) ∧
      Positive (List.replicate 26 (some 4)) ∧
      (encodeAll [Frame.windowUpdate 1 5, ⟨Header.data 1 2, [7, 8]⟩]).length ≤ 26 ∧
      ∃ io, sendFrames [Frame.windowUpdate 1 5, ⟨Header.data 1 2, [7, 8]⟩] .init
          ⟨List.replicate 26 (some 4), []⟩ = (.ready (.ok ()), .init, io) ∧
        ∀ t : Transport, Transport.Unbroken t → t.flatten = io.written →
          readItems 16 3 .init t =
            .ok [some (.ok (Frame.windowUpdate 1 5)), some (.ok ⟨Header.data 1 2, [7, 8]⟩), none] :=
  have hpos : Positive (List.replicate 26 (some 4)) := by simp [Positive]
  ⟨by decide, hpos, by decide, sendFrames_readItems 16 _ (by decide) _ hpos (by decide)⟩

end Litep2p.Yamux
