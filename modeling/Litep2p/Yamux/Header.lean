import Mathlib
import Litep2p.Lib.BigEndian

/-!
# Yamux frames and their headers

`yamux/frame/header.rs` and `yamux/frame.rs`. A frame is a header of twelve bytes and, for a data
frame, a body of the length its header announces. The header's type parameter, which only limits
the flags that may be set on it, is left out, and so is its `Version`: every header the crate builds
has version 0, so `encode` writes 0.

`decode` reads back every header `encode` writes (`decode_encode`), and the twelve bytes of every
header it accepts are that header's encoding (`encode_of_decode_eq_ok`): the header format is a
bijection between headers and the byte strings with version 0 and a known type
(`decode_eq_ok_iff`).
-/

namespace Litep2p.Yamux

open BigEndian

inductive Tag where
  | data
  | windowUpdate
  | ping
  | goAway
  deriving DecidableEq, Repr

def Tag.toUInt8 : Tag → UInt8
  | .data => 0
  | .windowUpdate => 1
  | .ping => 2
  | .goAway => 3

abbrev StreamId := UInt32

def connectionId : StreamId := 0

def StreamId.isServer (id : StreamId) : Bool := id % 2 == 0

def StreamId.isClient (id : StreamId) : Bool := !id.isServer

def StreamId.isSession (id : StreamId) : Bool := id == connectionId

theorem StreamId.isServer_iff (id : StreamId) : id.isServer = true ↔ id.toNat % 2 = 0 := by
  rw [isServer, beq_iff_eq, ← UInt32.toNat_inj, UInt32.toNat_mod]
  rfl

theorem StreamId.isClient_iff (id : StreamId) : id.isClient = true ↔ id.toNat % 2 = 1 := by
  rw [isClient, Bool.not_eq_true', Bool.eq_false_iff, ne_eq, isServer_iff]
  omega

abbrev Flags := UInt16

def Flags.contains (flags other : Flags) : Bool := flags &&& other == other

def Flags.syn : Flags := 1

def Flags.ack : Flags := 2

def Flags.fin : Flags := 4

def Flags.rst : Flags := 8

/-- `Header<()>`: the length of a data frame, the credit of a window update, the nonce of a ping or
the code of a go-away. -/
structure Header where
  tag : Tag
  flags : Flags
  streamId : StreamId
  length : UInt32
  deriving DecidableEq, Repr

namespace Header

def data (id : StreamId) (len : UInt32) : Header := ⟨.data, 0, id, len⟩

def windowUpdate (id : StreamId) (credit : UInt32) : Header := ⟨.windowUpdate, 0, id, credit⟩

def ping (nonce : UInt32) : Header := ⟨.ping, 0, connectionId, nonce⟩

def goAway (code : UInt32) : Header := ⟨.goAway, 0, connectionId, code⟩

def term : Header := goAway 0

def protocolError : Header := goAway 1

def internalError : Header := goAway 2

def syn (h : Header) : Header := { h with flags := h.flags ||| Flags.syn }

def ack (h : Header) : Header := { h with flags := h.flags ||| Flags.ack }

def fin (h : Header) : Header := { h with flags := h.flags ||| Flags.fin }

def rst (h : Header) : Header := { h with flags := h.flags ||| Flags.rst }

def credit (h : Header) : UInt32 := h.length

def nonce (h : Header) : UInt32 := h.length

/-- Setting a flag changes neither the type, the stream nor the length. -/
@[simp] theorem syn_tag (h : Header) : h.syn.tag = h.tag := rfl
@[simp] theorem syn_streamId (h : Header) : h.syn.streamId = h.streamId := rfl
@[simp] theorem syn_length (h : Header) : h.syn.length = h.length := rfl
@[simp] theorem ack_tag (h : Header) : h.ack.tag = h.tag := rfl
@[simp] theorem ack_streamId (h : Header) : h.ack.streamId = h.streamId := rfl
@[simp] theorem ack_length (h : Header) : h.ack.length = h.length := rfl
@[simp] theorem fin_tag (h : Header) : h.fin.tag = h.tag := rfl
@[simp] theorem fin_streamId (h : Header) : h.fin.streamId = h.streamId := rfl
@[simp] theorem fin_length (h : Header) : h.fin.length = h.length := rfl
@[simp] theorem rst_tag (h : Header) : h.rst.tag = h.tag := rfl
@[simp] theorem rst_streamId (h : Header) : h.rst.streamId = h.streamId := rfl
@[simp] theorem rst_length (h : Header) : h.rst.length = h.length := rfl

end Header

def headerSize : Nat := 12

def encode (h : Header) : List UInt8 :=
  [0, h.tag.toUInt8] ++ u16Bytes h.flags ++ u32Bytes h.streamId ++ u32Bytes h.length

inductive HeaderDecodeError where
  | version (v : UInt8)
  | type (t : UInt8)
  deriving DecidableEq, Repr

/-- `decode` of the array `buf` of `HEADER_SIZE` bytes. -/
def decode (buf : List UInt8) : Except HeaderDecodeError Header :=
  let b (i : Nat) := buf.getD i 0
  if b 0 ≠ 0 then .error (.version (b 0))
  else
    let tag? : Option Tag := match (b 1).toNat with
      | 0 => some .data
      | 1 => some .windowUpdate
      | 2 => some .ping
      | 3 => some .goAway
      | _ => none
    match tag? with
    | none => .error (.type (b 1))
    | some tag => .ok ⟨tag, u16Of (b 2) (b 3), u32Of (b 4) (b 5) (b 6) (b 7), u32Of (b 8) (b 9) (b 10) (b 11)⟩

@[simp] theorem length_encode (h : Header) : (encode h).length = headerSize := rfl

theorem decode_encode (h : Header) : decode (encode h) = .ok h := by
  obtain ⟨tag, flags, streamId, length⟩ := h
  cases tag <;>
    simp [decode, encode, u16Bytes, u32Bytes, u16Of_u16Bytes, u32Of_u32Bytes, Tag.toUInt8]

theorem encode_of_decode_eq_ok {buf : List UInt8} {h : Header} (hlen : buf.length = headerSize)
    (hdecode : decode buf = .ok h) : encode h = buf := by
  have henc : encode h = (List.range headerSize).map (buf.getD · 0) := by
    simp only [decode, ne_eq, ite_not] at hdecode
    split_ifs at hdecode with h0
    split at hdecode
    · cases hdecode
    · rename_i tag htag
      cases hdecode
      simp only [encode, headerSize, List.range_succ, List.range_zero, List.nil_append,
        List.map_cons, List.map_nil, List.cons_append, u16Bytes_u16Of, u32Bytes_u32Of, h0]
      congr
      revert htag
      split <;> intro htag <;> cases htag <;> apply UInt8.toNat_inj.mp <;> simp_all [Tag.toUInt8]
  rw [henc]
  refine List.ext_getElem (by simp [hlen]) fun i hi _ => ?_
  rw [List.getElem_map, List.getElem_range, List.getD_eq_getElem]

/-- The header codec is a bijection: twelve bytes decode to a header exactly when they are its
encoding. -/
theorem decode_eq_ok_iff {buf : List UInt8} (hlen : buf.length = headerSize) (h : Header) :
    decode buf = .ok h ↔ encode h = buf := by
  constructor
  · exact encode_of_decode_eq_ok hlen
  · rintro rfl
    exact decode_encode h

theorem decode_eq_ok_iff_windowUpdate :
    [0, 1, 0, 2, 0, 0, 0, 3, 0, 0, 1, 0].length = headerSize ∧
      (decode [0, 1, 0, 2, 0, 0, 0, 3, 0, 0, 1, 0] = .ok ⟨.windowUpdate, 2, 3, 256⟩ ↔
        encode ⟨.windowUpdate, 2, 3, 256⟩ = [0, 1, 0, 2, 0, 0, 0, 3, 0, 0, 1, 0]) :=
  ⟨rfl, decode_eq_ok_iff rfl _⟩

structure Frame where
  header : Header
  body : List UInt8
  deriving DecidableEq, Repr

namespace Frame

def new (header : Header) : Frame := ⟨header, []⟩

def data (id : StreamId) (b : List UInt8) : Option Frame :=
  if b.length < 2 ^ 32 then some ⟨Header.data id b.length.toUInt32, b⟩ else none

def closeStream (id : StreamId) (ack : Bool) : Frame :=
  let header := (Header.data id 0).fin
  new (if ack then header.ack else header)

def windowUpdate (id : StreamId) (credit : UInt32) : Frame := new (Header.windowUpdate id credit)

def term : Frame := new Header.term

def protocolError : Frame := new Header.protocolError

def internalError : Frame := new Header.internalError

def bodyLen (f : Frame) : UInt32 := f.body.length.toUInt32

/-- A frame whose body is what its header announces: as many bytes as its length for a data
frame, none for the others. -/
def WellFormed (f : Frame) : Prop :=
  f.body.length = if f.header.tag = .data then f.header.length.toNat else 0

instance : DecidablePred WellFormed := fun f => inferInstanceAs (Decidable (f.body.length = _))

theorem wellFormed_new_iff (h : Header) : (new h).WellFormed ↔ (h.tag = .data → h.length = 0) := by
  unfold WellFormed new
  by_cases htag : h.tag = .data
  · rw [if_pos htag, List.length_nil, eq_comm, ← UInt32.toNat_zero, UInt32.toNat_inj]
    exact ⟨fun h0 _ => h0, fun h0 => h0 htag⟩
  · simp [htag]

theorem data_eq_some (id : StreamId) {b : List UInt8} (hb : b.length < 2 ^ 32) :
    data id b = some ⟨Header.data id b.length.toUInt32, b⟩ ∧
      (⟨Header.data id b.length.toUInt32, b⟩ : Frame).WellFormed := by
  refine ⟨if_pos hb, ?_⟩
  simp [WellFormed, Header.data, UInt32.toNat_ofNat_of_lt' hb]

def encode (f : Frame) : List UInt8 := Yamux.encode f.header ++ f.body

end Frame

end Litep2p.Yamux
