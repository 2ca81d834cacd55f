import Mathlib

/-! The protobuf wire format as a decoder reads it: a message is a sequence of fields, each a
varint key (the field number times eight plus the wire type) and a value of that wire type. The
reader follows the rules of a proto3 decoder: varints of at most ten bytes whose tenth byte
carries only bit 63 (non-minimal varints are accepted), keys below `2 ^ 32`, field number
zero refused, lengths within the input. A group is skipped as `skip_field` skips it, with the
fields inside it up to its end group, within the recursion limit of the decoding context. The
message decoders built on it fold over the fields in order (`decodeMessage`), which is how
repeated fields accumulate and later values replace earlier ones. -/

namespace Protobuf

/-- A field's value as the wire format carries it; a group is skipped, and only its place kept. -/
inductive WireValue where
  | varint (n : Nat)
  | fixed64 (bytes : List UInt8)
  | lengthDelimited (bytes : List UInt8)
  | fixed32 (bytes : List UInt8)
  | group
  deriving DecidableEq, Repr

def recursionLimit : Nat := 100

/-- Reads the varint whose byte `i` (from zero) is the head of `bytes`. -/
def decodeVarintAt : Nat → List UInt8 → Option (Nat × List UInt8)
  | _, [] => none
  | i, b :: rest =>
    if i = 9 then
      if b.toNat < 2 then some (b.toNat, rest) else none
    else if b.toNat < 128 then some (b.toNat, rest)
    else (decodeVarintAt (i + 1) rest).map fun (n, rest') => (b.toNat % 128 + 128 * n, rest')

def decodeVarint (bytes : List UInt8) : Option (Nat × List UInt8) :=
  decodeVarintAt 0 bytes

def takeExact (count : Nat) (bytes : List UInt8) : Option (List UInt8 × List UInt8) :=
  if count ≤ bytes.length then some (bytes.take count, bytes.drop count) else none

/-- `decode_key`: a key below `2 ^ 32`, split into its field number, which is not zero, and its wire
type, one of the six known. -/
def decodeKey (bytes : List UInt8) : Option ((Nat × Nat) × List UInt8) := do
  let (key, rest) ← decodeVarint bytes
  if 2 ^ 32 ≤ key ∨ 5 < key % 8 ∨ key / 8 = 0 then none else some ((key / 8, key % 8), rest)

/-- The bytes after a value of wire type varint, 64-bit, length-delimited or 32-bit. -/
def skipValue (wireType : Nat) (bytes : List UInt8) : Option (List UInt8) :=
  match wireType with
  | 0 => (decodeVarint bytes).map Prod.snd
  | 1 => (takeExact 8 bytes).map Prod.snd
  | 2 => do
    let (len, rest) ← decodeVarint bytes
    (takeExact len rest).map Prod.snd
  | 5 => (takeExact 4 bytes).map Prod.snd
  | _ => none

/-- The loop of `skip_field` over a group. `groups` holds the numbers of the groups not yet ended,
innermost first; a field inside them is skipped by a `skip_field` with a level of recursion less
for each, which fails when the context `ctx` has none left. Every round reads a key, so the
length of the input bounds the rounds. -/
def skipGroups (ctx : Nat) : Nat → List Nat → List UInt8 → Option (List UInt8)
  | _, [], bytes => some bytes
  | 0, _ :: _, _ => none
  | fuel + 1, tag :: outer, bytes => do
    let ((inner, wireType), rest) ← decodeKey bytes
    if wireType = 4 then
      if inner = tag then skipGroups ctx fuel outer rest else none
    else if ctx ≤ outer.length + 1 then none
    else if wireType = 3 then skipGroups ctx fuel (inner :: tag :: outer) rest
    else skipGroups ctx fuel (tag :: outer) (← skipValue wireType rest)

/-- One field, in a context of `ctx` levels of recursion: its number, its value and the bytes after
it. An end group out of place fails. -/
def decodeField (ctx : Nat) (bytes : List UInt8) : Option ((Nat × WireValue) × List UInt8) := do
  let ((tag, wireType), rest) ← decodeKey bytes
  match wireType with
  | 0 => (decodeVarint rest).map fun (n, rest') => ((tag, .varint n), rest')
  | 1 => (takeExact 8 rest).map fun (v, rest') => ((tag, .fixed64 v), rest')
  | 2 => do
    let (len, rest') ← decodeVarint rest
    (takeExact len rest').map fun (v, rest'') => ((tag, .lengthDelimited v), rest'')
  | 3 =>
    -- `skip_field` checks the limit before it skips the group
    if ctx = 0 then none
    else (skipGroups ctx rest.length [tag] rest).map fun rest' => ((tag, .group), rest')
  | 5 => (takeExact 4 rest).map fun (v, rest') => ((tag, .fixed32 v), rest')
  | _ => none

/-- The fields of `bytes`; every field takes at least a byte, so `bytes.length` rounds do. -/
def decodeFields (ctx : Nat) : Nat → List UInt8 → Option (List (Nat × WireValue))
  | _, [] => some []
  | 0, _ :: _ => none
  | fuel + 1, bytes => do
    let (field, rest) ← decodeField ctx bytes
    let fields ← decodeFields ctx fuel rest
    pure (field :: fields)

/-- A group of field 1 holding the varint field 1 is skipped whole. -/
example : decodeFields recursionLimit 4 [0x0b, 0x08, 0x01, 0x0c] = some [(1, .group)] := by decide

/-- A message decoded in a context of `ctx` levels of recursion: its fields merged in order into
the default value by `merge`, which fails on a field of a known number with the wrong wire type.
A message decoded on its own has `RECURSION_LIMIT` levels, one nested in a field of it one less. -/
def decodeMessage {μ : Type} (ctx : Nat) (default : μ) (merge : μ → Nat × WireValue → Option μ)
    (bytes : List UInt8) : Option μ := do
  let fields ← decodeFields ctx bytes.length bytes
  fields.foldlM merge default

def WireValue.bytes? : WireValue → Option (List UInt8)
  | .lengthDelimited bytes => some bytes
  | _ => none

def WireValue.varint? : WireValue → Option Nat
  | .varint n => some n
  | _ => none

end Protobuf
