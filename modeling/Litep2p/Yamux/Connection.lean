import Mathlib
import Litep2p.Yamux.Stream

/-! The active state of a yamux connection, `yamux/connection.rs`: the streams it knows with the
state each shares with its handle, the receiving ends of the streams' command channels, the
frames waiting for the socket, and the id of the next outbound stream. The frame handlers
`on_frame`, `on_data`, `on_window_update` and `on_ping` answer a frame from the remote; the
command handlers `on_send_frame`, `on_close_stream` and `on_drop_stream` answer a stream;
`poll_new_outbound` opens a stream. The wakers, the logging and the connection's random id are
left out. -/

namespace Litep2p.Yamux

/-- `Mode`: clients open odd streams, servers even ones. -/
inductive Mode where
  | client
  | server
  deriving DecidableEq, Repr

/-- `ConnectionError`, with the variants the modelled functions return. -/
inductive ConnectionError where
  | decode (e : FrameDecodeError)
  | noMoreStreamIds
  | closed
  | tooManyStreams
  deriving DecidableEq, Repr

/-- The receiving end of a stream's command channel as the connection polls it,
`TaggedStream<StreamId, mpsc::Receiver<StreamCommand>>`: the commands sent and not yet taken, and
whether the handle has been dropped, which closes the channel. -/
structure Receiver where
  id : StreamId
  queue : List StreamCommand
  senderDropped : Bool
  deriving DecidableEq, Repr

def commandBuffer : Nat := 10

/-- Whether `sender.poll_ready` is ready on the channel of the stream `id`. The stream is the
channel's one sender: the channel takes a command while it holds at most its buffer, and parks the
sender once it holds more, until the connection takes one. -/
def senderReady (receivers : List Receiver) (id : StreamId) : Bool :=
  match receivers.find? (·.id == id) with
  | some r => r.queue.length ≤ commandBuffer
  | none => false

/-- `Active`: the mode, the next outbound id, the streams with their shared state (an `IntMap`), the
receivers (a `SelectAll`) and the frames waiting for the socket. -/
structure Active where
  mode : Mode
  nextId : UInt32
  streams : AList fun _ : StreamId => Shared
  receivers : List Receiver
  pendingFrames : List Frame

/-- `Action`: what handling a frame asks the connection to do. -/
inductive Action where
  | none
  | new (stream : Stream) (update : Option Frame)
  | update (frame : Frame)
  | ping (frame : Frame)
  | reset (frame : Frame)
  | terminate (frame : Frame)

namespace Shared

def finish (sh : Shared) (isFinish : Bool) : Shared :=
  if isFinish then (sh.updateState .recvClosed).2 else sh

def receive (sh : Shared) (frame : Frame) : Shared :=
  { sh with window := sh.window.saturatingSub frame.bodyLen, buffer := sh.buffer.push frame.body }

/-- The window update `on_data` grants on receipt in `OnReceive` mode: the credit, added to the
window. -/
def updateOnReceive (sh : Shared) (cfg : Config) : Shared × Option UInt32 :=
  if cfg.windowUpdateMode = .onReceive then
    match sh.nextWindowUpdate cfg with
    | some credit => ({ sh with window := sh.window + credit }, some credit)
    | none => (sh, none)
  else (sh, none)

end Shared

/-- Whether a stream id is of the parity the connection opens its own streams with. -/
def Mode.isOutbound (mode : Mode) (id : StreamId) : Bool :=
  match mode with
  | .client => id.isClient
  | .server => id.isServer

namespace Active

def new (mode : Mode) : Active :=
  ⟨mode, match mode with | .client => 1 | .server => 2, ∅, [], []⟩

/-- `Active::is_valid_remote_id`: a ping or a go-away is for the session, and a stream the
remote opens has the remote's parity. -/
def isValidRemoteId (a : Active) (id : StreamId) (tag : Tag) : Bool :=
  if tag = .ping ∨ tag = .goAway then id.isSession
  else
    match a.mode with
    | .client => id.isServer
    | .server => id.isClient

/-- `Active::next_stream_id`: the id proposed and the next one two above, unless that overflows;
the assertion on the parity of the proposed id panics. -/
def nextStreamId (a : Active) : Except Error (Except ConnectionError (StreamId × Active)) :=
  let proposed := a.nextId
  if a.nextId.toNat + 2 < 2 ^ 32 then
    let a := { a with nextId := a.nextId + 2 }
    if a.mode.isOutbound proposed then .ok (.ok (proposed, a)) else .error .panicked
  else .ok (.error .noMoreStreamIds)

def ackBacklog (a : Active) : Nat :=
  a.streams.entries.countP fun e => a.mode.isOutbound e.1 && e.2.isPendingAck

/-- `Active::make_new_inbound_stream`: the handle and the shared state of a stream the remote
opened, with its channel added to the receivers. -/
def makeNewInboundStream (a : Active) (id : StreamId) (credit : UInt32) : Stream × Shared × Active :=
  let (stream, shared) := Stream.newInbound id credit
  (stream, shared, { a with receivers := a.receivers ++ [⟨id, [], false⟩] })

def makeNewOutboundStream (a : Active) (id : StreamId) (window : UInt32) : Stream × Shared × Active :=
  let (stream, shared) := Stream.newOutbound id window
  (stream, shared, { a with receivers := a.receivers ++ [⟨id, [], false⟩] })

/-- `Active::poll_new_outbound`: a new stream with the whole receive window, announced by a window
update carrying the credit beyond `DEFAULT_CREDIT`, or by the `SYN` of its first frame. -/
def pollNewOutbound (cfg : Config) (a : Active) :
    Except Error (Poll (Except ConnectionError Stream) × Active) :=
  if a.streams.keys.length ≥ cfg.maxNumStreams then .ok (.ready (.error .tooManyStreams), a)
  else if a.ackBacklog ≥ maxAckBacklog then .ok (.pending, a)
  else
    match a.nextStreamId with
    | .error e => .error e
    | .ok (.error e) => .ok (.ready (.error e), a)
    | .ok (.ok (id, a)) =>
      let extraCredit := cfg.receiveWindow - defaultCredit
      let a := if extraCredit > 0 then
          { a with pendingFrames := a.pendingFrames ++ [Frame.new (Header.windowUpdate id extraCredit).syn] }
        else a
      let (stream, shared, a) := a.makeNewOutboundStream id cfg.receiveWindow
      let stream := if extraCredit = 0 then { stream with flag := .syn } else stream
      .ok (.ready (.ok stream), { a with streams := a.streams.insert id shared })

def onSendFrame (a : Active) (frame : Frame) : Active :=
  { a with pendingFrames := a.pendingFrames ++ [frame] }

def onCloseStream (a : Active) (id : StreamId) (ack : Bool) : Active :=
  { a with pendingFrames := a.pendingFrames ++ [Frame.closeStream id ack] }

/-- `Active::on_drop_stream`: the stream is forgotten and closed, and the remote told with an `RST`
if it was open, a `FIN` if only the remote had closed it, and an `RST` if we had closed it in
`OnRead` mode with no window left, when the remote may wait for a window update forever. The
stream must be known: `expect("stream not found")` panics. -/
def onDropStream (cfg : Config) (a : Active) (id : StreamId) : Except Error Active :=
  match a.streams.lookup id with
  | none => .error .panicked
  | some shared =>
    let frame : Option Frame :=
      match (shared.updateState .closed).1 with
      | .open _ => some (Frame.new (Header.data id 0).rst)
      | .recvClosed => some (Frame.new (Header.data id 0).fin)
      | .sendClosed =>
        if cfg.windowUpdateMode = .onRead ∧ shared.window = 0 then some (Frame.new (Header.data id 0).rst)
        else none
      | .closed => none
    .ok { a with streams := a.streams.erase id, pendingFrames := a.pendingFrames ++ frame.toList }

/-- An `RST` received on a data or window update frame closes a known stream; the two handlers
have the same code for it. -/
def onReset (a : Active) (id : StreamId) : Action × Active :=
  match a.streams.lookup id with
  | some shared => (.none, { a with streams := a.streams.insert id (shared.updateState .closed).2 })
  | none => (.none, a)

def onData (cfg : Config) (a : Active) (frame : Frame) : Action × Active :=
  let id := frame.header.streamId
  let flags := frame.header.flags
  if flags.contains Flags.rst then a.onReset id
  else
    let isFinish := flags.contains Flags.fin
    if flags.contains Flags.syn then
      if !a.isValidRemoteId id .data then (.terminate Frame.protocolError, a)
      else if frame.body.length > defaultCredit.toNat then (.terminate Frame.protocolError, a)
      else if id ∈ a.streams then (.terminate Frame.protocolError, a)
      else if a.streams.keys.length = cfg.maxNumStreams then (.terminate Frame.internalError, a)
      else
        let (stream, shared, a) := a.makeNewInboundStream id defaultCredit
        let (shared, credit) := ((shared.finish isFinish).receive frame).updateOnReceive cfg
        let windowUpdate := credit.map fun credit => Frame.new (Header.windowUpdate id credit).ack
        let stream := if windowUpdate.isNone then { stream with flag := .ack } else stream
        (.new stream windowUpdate, { a with streams := a.streams.insert id shared })
    else
      match a.streams.lookup id with
      | none => (.none, a)
      | some shared =>
        if frame.body.length > shared.window.toNat then (.terminate Frame.protocolError, a)
        else
          let shared := shared.finish isFinish
          if shared.buffer.len ≥ cfg.maxBufferSize then
            (.reset (Frame.new (Header.data id 0).rst), { a with streams := a.streams.insert id shared })
          else
            match (shared.receive frame).updateOnReceive cfg with
            | (shared, some credit) =>
              (.update (Frame.windowUpdate id credit), { a with streams := a.streams.insert id shared })
            | (shared, none) => (.none, { a with streams := a.streams.insert id shared })

/-- `Active::on_window_update`. Its two `u32` additions, the credit of a stream the frame opens
and the credit of a known stream, panic on overflow. -/
def onWindowUpdate (cfg : Config) (a : Active) (frame : Frame) : Except Error (Action × Active) :=
  let id := frame.header.streamId
  let flags := frame.header.flags
  if flags.contains Flags.rst then .ok (a.onReset id)
  else
    let isFinish := flags.contains Flags.fin
    if flags.contains Flags.syn then
      if !a.isValidRemoteId id .windowUpdate then .ok (.terminate Frame.protocolError, a)
      else if id ∈ a.streams then .ok (.terminate Frame.protocolError, a)
      else if a.streams.keys.length = cfg.maxNumStreams then .ok (.terminate Frame.protocolError, a)
      -- `frame.header().credit() + DEFAULT_CREDIT`
      else if frame.header.credit.toNat + defaultCredit.toNat < 2 ^ 32 then
        let (stream, shared, a) := a.makeNewInboundStream id (frame.header.credit + defaultCredit)
        .ok (.new { stream with flag := .ack } none, { a with streams := a.streams.insert id (shared.finish isFinish) })
      else .error .panicked
    else
      match a.streams.lookup id with
      | none => .ok (.none, a)
      | some shared =>
        -- `shared.credit += frame.header().credit()`
        if shared.credit.toNat + frame.header.credit.toNat < 2 ^ 32 then
          let shared := { shared with credit := shared.credit + frame.header.credit }
          .ok (.none, { a with streams := a.streams.insert id (shared.finish isFinish) })
        else .error .panicked

/-- The credit a window update without `RST` adds to: `DEFAULT_CREDIT` for a stream it opens, the
credit of the known stream it is for; none when it opens no stream or is for none. -/
def creditBefore (cfg : Config) (a : Active) (frame : Frame) : Option UInt32 :=
  let id := frame.header.streamId
  if frame.header.flags.contains Flags.syn then
    if a.isValidRemoteId id .windowUpdate && id ∉ a.streams && a.streams.keys.length ≠ cfg.maxNumStreams then
      some defaultCredit
    else none
  else (a.streams.lookup id).map Shared.credit

/-- Whether `on_window_update` panics on the frame: its credit added to the credit it grows passes
`u32::MAX`. -/
def creditOverflows (cfg : Config) (a : Active) (frame : Frame) : Bool :=
  frame.header.tag == .windowUpdate && !frame.header.flags.contains Flags.rst &&
    (a.creditBefore cfg frame).any fun credit => 2 ^ 32 ≤ credit.toNat + frame.header.credit.toNat

/-- `Active::on_ping`: a ping for the session or a known stream is answered with its nonce. -/
def onPing (a : Active) (frame : Frame) : Action :=
  let id := frame.header.streamId
  if frame.header.flags.contains Flags.ack then .none
  else if id = connectionId ∨ id ∈ a.streams then .ping (Frame.new (Header.ping frame.header.nonce).ack)
  else .none

/-- The end of `on_frame`: the frame an action asks for is queued, and a new stream is handed out. -/
def applyAction (a : Active) : Action → Option Stream × Active
  | .none => (none, a)
  | .new stream update => (some stream, { a with pendingFrames := a.pendingFrames ++ update.toList })
  | .update frame | .ping frame | .reset frame | .terminate frame =>
    (none, { a with pendingFrames := a.pendingFrames ++ [frame] })

/-- The start of `on_frame`: an `ACK` acknowledges the stream it is for, if it is known. -/
def acknowledge (a : Active) (frame : Frame) : Active :=
  if frame.header.flags.contains Flags.ack then
    match a.streams.lookup frame.header.streamId with
    | some shared =>
      { a with streams := a.streams.insert frame.header.streamId (shared.updateState (.open true)).2 }
    | none => a
  else a

/-- `Active::on_frame`: a go-away closes the connection; another frame goes to its handler. -/
def onFrame (cfg : Config) (a : Active) (frame : Frame) :
    Except Error (Except ConnectionError (Option Stream × Active)) :=
  let a := a.acknowledge frame
  match frame.header.tag with
  | .data => .ok (.ok ((a.onData cfg frame).2.applyAction (a.onData cfg frame).1))
  | .windowUpdate => (a.onWindowUpdate cfg frame).map fun (act, a) => .ok (a.applyAction act)
  | .ping => .ok (.ok (a.applyAction (a.onPing frame)))
  | .goAway => .ok (.error .closed)

end Active

end Litep2p.Yamux
