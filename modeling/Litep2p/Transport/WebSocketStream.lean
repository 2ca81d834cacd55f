import Mathlib

/-! `BufferedStream` of `transport/websocket/stream.rs`, the byte stream over a WebSocket that the
Noise socket and yamux run on. `poll_write` only appends to the write buffer; `poll_flush` takes
the buffer as one message, waits for the sink to be ready, hands the message to it, waits for the
flush and then clears the whole buffer. What the sink answers to `poll_ready` and `poll_flush`
is an input of the model (`Sink.answers`); what it was handed is `Sink.sent`.

`poll_flush` replaces the state by `Poisoned` on entry, as `mem::replace` does, so a flush of the
sink that is still pending leaves the stream poisoned. -/

namespace Litep2p.WebSocket

/-- `Poll` of a result with no value. -/
inductive Poll where
  | ready (ok : Bool)
  | pending
  deriving DecidableEq, Repr

inductive State where
  | poisoned
  | readyToSend
  | readyPending (toWrite : List UInt8)
  | flushPending
  deriving DecidableEq, Repr

/-- The write side of `BufferedStream`. -/
structure BufferedStream where
  writeBuffer : List UInt8
  writePtr : Nat
  state : State
  deriving DecidableEq, Repr

def BufferedStream.new : BufferedStream := ⟨[], 0, .readyToSend⟩

/-- An answer of the WebSocket sink to a poll or a send. -/
inductive SinkAnswer where
  | ready
  | pending
  | error
  deriving DecidableEq, Repr

/-- The WebSocket sink: the answers it will give, in order, and the `Binary` messages it was
handed. Once its answers run out it stays pending. -/
structure Sink where
  answers : List SinkAnswer
  sent : List (List UInt8)
  deriving DecidableEq, Repr

/-- The next answer of the sink. -/
def Sink.next (k : Sink) : SinkAnswer × Sink :=
  match k.answers with
  | [] => (.pending, k)
  | a :: rest => (a, { k with answers := rest })

/-- `start_send_unpin(Message::Binary(message))`: accepted unless the sink answers an error. -/
def Sink.startSend (k : Sink) (message : List UInt8) : Bool × Sink :=
  match k.next with
  | (.error, k) => (false, k)
  | (_, k) => (true, { k with sent := k.sent ++ [message] })

namespace BufferedStream

def pollWrite (b : BufferedStream) (buf : List UInt8) : Nat × BufferedStream :=
  (buf.length, { b with writeBuffer := b.writeBuffer ++ buf, writePtr := b.writePtr + buf.length })

/-- The loop of `poll_flush`; it goes through each state at most once, so three rounds do. -/
def flushLoop : Nat → BufferedStream → Sink → Poll × BufferedStream × Sink
  | 0, b, k => (.ready false, { b with state := .poisoned }, k)
  | fuel + 1, b, k =>
    match b.state with
    | .readyToSend =>
      let b := { b with state := .readyPending (b.writeBuffer.take b.writePtr) }
      match k.next with
      | (.ready, k) => flushLoop fuel b k
      | (.pending, k) => (.pending, b, k)
      | (.error, k) => (.ready false, b, k)
    | .readyPending toWrite =>
      match k.startSend toWrite with
      | (true, k) => flushLoop fuel { b with state := .flushPending } k
      | (false, k) => (.ready false, { b with state := .poisoned }, k)
    | .flushPending =>
      match k.next with
      | (.ready, k) => (.ready true, ⟨[], 0, .readyToSend⟩, k)
      -- `futures::ready!` returns with the state still `Poisoned`
      | (.pending, k) => (.pending, { b with state := .poisoned }, k)
      | (.error, k) => (.ready false, { b with state := .poisoned }, k)
    | .poisoned => (.ready false, b, k)

def pollFlush (b : BufferedStream) (k : Sink) : Poll × BufferedStream × Sink :=
  if b.writeBuffer.isEmpty then
    match k.next with
    | (.ready, k) => (.ready true, b, k)
    | (.pending, k) => (.pending, b, k)
    | (.error, k) => (.ready false, b, k)
  else flushLoop 3 b k

end BufferedStream

/-- A call of the `AsyncWrite` interface. -/
inductive WriteCall where
  | write (buf : List UInt8)
  | flush
  deriving DecidableEq, Repr

/-- What a run of calls leaves: the stream, the sink, the bytes `poll_write` reported as written
and what each `poll_flush` returned. -/
structure WriteRun where
  stream : BufferedStream
  sink : Sink
  written : List UInt8
  flushes : List Poll

/-- The calls run in order. -/
def runWrites (r : WriteRun) : List WriteCall → WriteRun
  | [] => r
  | .write buf :: calls =>
    let (n, stream) := r.stream.pollWrite buf
    runWrites { r with stream, written := r.written ++ buf.take n } calls
  | .flush :: calls =>
    let (poll, stream, sink) := r.stream.pollFlush r.sink
    runWrites { r with stream, sink, flushes := r.flushes ++ [poll] } calls

/-- Bytes written, a flush that finds the sink not ready, more bytes written, and a flush that
completes: it reports success, the sink was handed only the bytes of the first write, and the
buffer that held the others is cleared. -/
theorem pollFlush_drops_bytes_written_while_pending (a : UInt8) (first second : List UInt8)
    (answers : List SinkAnswer) :
    let r := runWrites ⟨.new, ⟨.pending :: .ready :: .ready :: answers, []⟩, [], []⟩
      [.write (a :: first), .flush, .write second, .flush]
    r.flushes = [.pending, .ready true] ∧ r.written = (a :: first) ++ second ∧
      r.sink.sent = [a :: first] ∧ r.stream.writeBuffer = [] := by
  simp [runWrites, BufferedStream.new, BufferedStream.pollWrite, BufferedStream.pollFlush,
    BufferedStream.flushLoop, Sink.next, Sink.startSend]

end Litep2p.WebSocket
