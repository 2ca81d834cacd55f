import Mathlib
import Litep2p.Yamux.Closing
import Litep2p.Lib.Mealy

/-! A yamux connection and the streams its user holds, run as one system. The remote sends frames,
the socket takes the frames the connection queued, the connection takes the commands its streams
sent, and the user opens streams and writes, reads, closes and drops them, in any order: each is
an input of `ConnectionState.step`, which answers with what the user and the remote see.

`Connection::poll_next_inbound` and `Connection::poll_new_outbound` drive the connection; an error
ends it in its cleanup, which is not modelled further. Each stream sends its commands on its own
`mpsc::channel(10)`, whose receiver the connection keeps: the channel takes a command while it
holds at most ten (`senderReady`). A full one makes `poll_write` and `poll_close` wait, and
`poll_read` and `poll_next` read on without the window update they were to send.

`Session.Inv` is what every reachable state keeps: the invariant `Active.Inv` of the connection,
and that every handle the user holds is of a distinct stream whose channel is open. One lemma per
input shows that the step keeps it, panics only on a window update that overflows a credit, only
steps the streams it knew and shows the remote and the user only well-formed frames and streams of
the right parity (`Session.next`); `Mealy.run_inv_outputs` carries it over every run. -/

namespace Litep2p.Yamux

/-- What happens next to a connection and the streams of its user. -/
inductive Input where
  /-- The socket yields a frame, or an error decoding one. -/
  | frame (item : Except FrameDecodeError Frame)
  /-- The socket ends. -/
  | socketClosed
  /-- The socket takes the first frame queued. -/
  | sendFrame
  /-- The connection takes the next command of the stream `id`, or learns it was dropped. -/
  | command (id : StreamId)
  /-- The user asks for a new outbound stream. -/
  | openStream
  | write (id : StreamId) (buf : List UInt8)
  | read (id : StreamId) (capacity : Nat)
  | readPacket (id : StreamId)
  | close (id : StreamId)
  | drop (id : StreamId)
  /-- The user closes the connection, `Connection::poll_close`. -/
  | pollClose

/-- What the remote and the user see: a frame on the wire, a stream handed out, the result of an
operation on a stream, or the error the connection ends with. -/
inductive Output where
  | frame (frame : Frame)
  | inbound (id : StreamId)
  | outbound (result : Poll (Except ConnectionError StreamId))
  | written (id : StreamId) (result : Poll (Except WriteError Nat))
  | read (id : StreamId) (result : Poll (List UInt8))
  | packet (id : StreamId) (result : Poll (Option (List UInt8)))
  | closed (id : StreamId) (result : Poll Unit)
  | failed (e : ConnectionError)

structure Session where
  active : Active
  handles : List Stream

/-- `ConnectionState`: active, closing at the user's request, ended by an error, closed, or
panicked. -/
inductive ConnectionState where
  | active (s : Session)
  | closing (c : Closing)
  | cleanup (e : ConnectionError)
  | closed
  | panicked

/-- An operation of the user on a stream, on whether its channel is ready, its handle and the state
it shares with the connection: what the user sees, the handle and the shared state after, and the
commands sent. -/
abbrev StreamOp := Bool → Stream → Shared → Except Error (Output × Stream × Shared × List StreamCommand)

namespace Session

variable (cfg : Config)

def new (mode : Mode) : Session := ⟨Active.new mode, []⟩

def write (id : StreamId) (buf : List UInt8) : StreamOp := fun ready stream shared =>
  (stream.pollWrite cfg ready shared buf).map fun (r, stream, shared, cmds) => (.written id r, stream, shared, cmds)

def read (id : StreamId) (capacity : Nat) : StreamOp := fun ready stream shared =>
  (stream.pollRead cfg false ready shared capacity).map fun (r, stream, shared, cmds) => (.read id r, stream, shared, cmds)

def readPacket (id : StreamId) : StreamOp := fun ready stream shared =>
  let (r, stream, shared, cmds) := stream.pollNext cfg false ready shared
  .ok (.packet id r, stream, shared, cmds)

def close (id : StreamId) : StreamOp := fun ready stream shared =>
  let (r, stream, shared, cmds) := stream.pollClose ready shared
  .ok (.closed id r, stream, shared, cmds)

/-- An operation of the user on the stream `id`: on its handle and on the shared state the
connection keeps for it, with the commands it sends queued on its channel. A stream the user does
not hold is left alone. -/
def useStream (s : Session) (id : StreamId) (op : StreamOp) : ConnectionState × List Output :=
  match s.handles.find? (·.id == id), s.active.streams.lookup id with
  | some stream, some shared =>
    match op (senderReady s.active.receivers id) stream shared with
    | .error _ => (.panicked, [])
    | .ok (out, stream, shared, cmds) =>
      (.active ⟨{ s.active with
          streams := s.active.streams.insert id shared
          receivers := updateQueue s.active.receivers id (· ++ cmds) },
        s.handles.map fun h => if h.id = id then stream else h⟩, [out])
  | _, _ => (.active s, [])

/-- `Active::poll` on a frame from the socket: `on_frame`, and the stream it hands out. -/
def receive (s : Session) (frame : Frame) : ConnectionState × List Output :=
  match s.active.onFrame cfg frame with
  | .error _ => (.panicked, [])
  | .ok (.error e) => (.cleanup e, [.failed e])
  | .ok (.ok (some stream, a)) => (.active ⟨a, s.handles ++ [stream]⟩, [.inbound stream.id])
  | .ok (.ok (none, a)) => (.active ⟨a, s.handles⟩, [])

/-- `Active::poll` on the next item of the receivers, for the stream `id`: a command, or the end of
a dropped stream's channel, which `on_drop_stream` answers and which removes the receiver. -/
def command (s : Session) (id : StreamId) : ConnectionState × List Output :=
  match s.active.receivers.find? (·.id == id) with
  | none => (.active s, [])
  | some r =>
    match r.queue with
    | c :: _ =>
      let a := { s.active with receivers := updateQueue s.active.receivers id List.tail }
      let a := match c with
        | .sendFrame frame => a.onSendFrame frame
        | .closeStream ack => a.onCloseStream id ack
      (.active { s with active := a }, [])
    | [] =>
      if r.senderDropped then
        match { s.active with receivers := s.active.receivers.filter (·.id != id) }.onDropStream cfg id with
        | .error _ => (.panicked, [])
        | .ok a => (.active { s with active := a }, [])
      else (.active s, [])

def openStream (s : Session) : ConnectionState × List Output :=
  match s.active.pollNewOutbound cfg with
  | .error _ => (.panicked, [])
  | .ok (.ready (.ok stream), a) => (.active ⟨a, s.handles ++ [stream]⟩, [.outbound (.ready (.ok stream.id))])
  | .ok (.ready (.error e), _) => (.cleanup e, [.outbound (.ready (.error e))])
  | .ok (.pending, a) => (.active ⟨a, s.handles⟩, [.outbound .pending])

/-- `Active::poll` on a ready socket: the first frame queued goes out. -/
def sendFrame (s : Session) : ConnectionState × List Output :=
  match s.active.pendingFrames with
  | [] => (.active s, [])
  | frame :: rest => (.active { s with active := { s.active with pendingFrames := rest } }, [.frame frame])

/-- The user drops the stream `id`: its handle goes, and its channel closes. -/
def drop (s : Session) (id : StreamId) : ConnectionState × List Output :=
  if s.handles.any (·.id == id) then
    (.active ⟨{ s.active with
        receivers := s.active.receivers.map fun (r : Receiver) =>
          if r.id = id then { r with senderDropped := true } else r },
      s.handles.filter (·.id != id)⟩, [])
  else (.active s, [])

/-- One step of an active connection. The streams read with the connection alive, so the check of
`read_after_close` never stops them. -/
def step (s : Session) : Input → ConnectionState × List Output
  | .frame (.ok frame) => s.receive cfg frame
  | .frame (.error e) => (.cleanup (.decode e), [.failed (.decode e)])
  | .socketClosed => (.cleanup .closed, [.failed .closed])
  | .sendFrame => s.sendFrame
  | .command id => s.command cfg id
  | .openStream => s.openStream cfg
  | .write id buf => s.useStream id (write cfg id buf)
  | .read id capacity => s.useStream id (read cfg id capacity)
  | .readPacket id => s.useStream id (readPacket cfg id)
  | .close id => s.useStream id (close id)
  | .drop id => s.drop id
  | .pollClose => (.closing s.active.close.closeReceivers, [])

end Session

/-- What an input lets a closing connection's loop go on with: the next item of a stream's
channel, or the socket ready. The closing connection reads no frame, and the streams' operations no
longer reach it, as their channels are closed. -/
def Input.closingEvent : Input → Option Closing.Event
  | .command id => some (.item id)
  | .sendFrame => some .socketReady
  | _ => none

/-- One step of a connection: an active one steps, a closing one takes a turn of its loop on what
it waited for and is closed once the socket is, an ended one stays as it is. -/
def ConnectionState.step (cfg : Config) : ConnectionState → Input → ConnectionState × List Output
  | .active s, i => s.step cfg i
  | .closing c, i =>
    match i.closingEvent with
    | some e => ((c.step e).1.elim .closed .closing, (c.step e).2.map .frame)
    | none => (.closing c, [])
  | st, _ => (st, [])

/-! ### The invariant of a session -/

/-- What a connection in mode `mode` may show: well-formed frames, streams of the remote's parity
handed out as inbound and of its own as outbound. -/
def Output.Good (mode : Mode) : Output → Prop
  | .frame f => f.WellFormed
  | .inbound id => mode.isOutbound id = false
  | .outbound (.ready (.ok id)) => mode.isOutbound id = true
  | _ => True

def Output.outboundId : Output → Option StreamId
  | .outbound (.ready (.ok id)) => some id
  | _ => none

def Output.sent (id : StreamId) : Output → ℕ
  | .written id' r => if id' = id then Stream.writtenOf r else 0
  | _ => 0

/-- Whether the stream `id` is handed out, inbound or outbound. -/
def Output.opened (id : StreamId) : Output → ℕ
  | .inbound id' => if id' = id then 1 else 0
  | .outbound (.ready (.ok id')) => if id' = id then 1 else 0
  | _ => 0

def Output.IsAnswer (id : StreamId) : Output → Prop
  | .written id' _ | .read id' _ | .packet id' _ | .closed id' _ => id' = id
  | _ => False

def Input.granted (id : StreamId) : Input → ℕ
  | .frame (.ok f) => f.creditFor id
  | _ => 0

/-- Whether an input is a frame on which `on_frame` panics: a window update that overflows a
credit. -/
def Input.overflows (cfg : Config) (a : Active) : Input → Prop
  | .frame (.ok f) => a.creditOverflows cfg f = true
  | _ => False

def ConnectionState.credit (id : StreamId) : ConnectionState → ℕ
  | .active s => s.active.creditOf id
  | _ => 0

section IsAnswer

variable {id : StreamId} {o : Output} (h : o.IsAnswer id)
include h

theorem Output.IsAnswer.good (mode : Mode) : o.Good mode := by
  cases o <;> first | exact False.elim h | trivial

theorem Output.IsAnswer.outboundId : o.outboundId = none := by
  cases o <;> first | exact False.elim h | rfl

theorem Output.IsAnswer.opened (id' : StreamId) : o.opened id' = 0 := by
  cases o <;> first | exact False.elim h | rfl

theorem Output.IsAnswer.sent_ne {id' : StreamId} (hne : id' ≠ id) : o.sent id' = 0 := by
  cases o with
  | written id₀ r =>
    have hid : id₀ = id := h
    simp only [Output.sent, hid, if_neg hne.symm]
  | _ => first | exact False.elim h | rfl

end IsAnswer

namespace Session

/-- The invariant of a connection and its user: the connection's own, and every handle the user
holds is of a distinct stream whose channel is open. -/
structure Inv (cfg : Config) (s : Session) : Prop where
  active : s.active.Inv cfg
  handle_receiver : ∀ h ∈ s.handles, ∃ r ∈ s.active.receivers, r.id = h.id ∧ r.senderDropped = false
  handles_nodup : (s.handles.map Stream.id).Nodup

/-- From `s` to `s'` the mode stayed, the next outbound id did not go down and every stream known
in both only stepped. -/
structure Evolves (s s' : Session) : Prop where
  mode_eq : s'.active.mode = s.active.mode
  nextId_le : s.active.nextId.toNat ≤ s'.active.nextId.toNat
  step : ∀ id sh sh', s.active.streams.lookup id = some sh → s'.active.streams.lookup id = some sh' →
    sh.state.Step sh'.state

theorem Evolves.of_streams {s s' : Session} (hmode : s'.active.mode = s.active.mode)
    (hnext : s'.active.nextId = s.active.nextId) (hstreams : s'.active.streams = s.active.streams) :
    s.Evolves s' :=
  ⟨hmode, hnext ▸ le_rfl, fun _ _ _ h h' => by
    rw [hstreams, h, Option.some.injEq] at h'
    exact h' ▸ State.Step.refl _⟩

theorem Evolves.refl (s : Session) : s.Evolves s :=
  Evolves.of_streams rfl rfl rfl

end Session

/-- A state of a connection in mode `mode` that the invariant holds of; an ended or panicked one
does nothing more, and is sound. -/
def ConnectionState.Good (cfg : Config) (mode : Mode) : ConnectionState → Prop
  | .active s => s.Inv cfg ∧ s.active.mode = mode
  | .closing c => c.Inv
  | .cleanup _ | .closed | .panicked => True

namespace Session

/-- What one step from `s` has to do: reach a sound state, in which the streams only evolved, show
at most one thing and only what the mode allows, hand out as an outbound stream only the next
outbound id, which it then leaves behind, report sent on a stream only credit it had or was
granted, `gain`, or that a stream it opens starts with, and panic only when `panics` holds. -/
structure Next (cfg : Config) (s : Session) (gain : StreamId → ℕ) (panics : Prop)
    (r : ConnectionState × List Output) : Prop where
  good : r.1.Good cfg s.active.mode
  evolves : ∀ s', r.1 = .active s' → s.Evolves s'
  outputs : ∀ o ∈ r.2, o.Good s.active.mode
  single : r.2.length ≤ 1
  fresh : ∀ k ∈ r.2.filterMap Output.outboundId,
    k = s.active.nextId ∧ ∀ s', r.1 = .active s' → k.toNat < s'.active.nextId.toNat
  credit : ∀ id, r.1.credit id + (r.2.map (Output.sent id)).sum ≤
    s.active.creditOf id + gain id + defaultCredit.toNat * (r.2.map (Output.opened id)).sum
  panicked : r.1 = .panicked → panics

/-- What an operation on the stream `id` has to do for the connection to stay sound: answer about
it, keep the id of the handle, only step the state of the stream, keep its bounds, send well-formed
commands and spend at most the credit it has on what it reports sent. -/
def SoundOp (cfg : Config) (id : StreamId) (op : StreamOp) : Prop :=
  ∀ ready stream sh, ∃ out stream' sh' cmds, op ready stream sh = .ok (out, stream', sh', cmds) ∧ stream'.id = stream.id ∧
    sh.state.Step sh'.state ∧ (sh.Bounded cfg → sh'.Bounded cfg) ∧ (∀ c ∈ cmds, c.WellFormed) ∧
    out.IsAnswer id ∧ sh'.credit.toNat + out.sent id ≤ sh.credit.toNat

variable {cfg : Config} {s : Session} {gain : StreamId → ℕ} {panics : Prop}

theorem inv_new (cfg : Config) (mode : Mode) : (new mode).Inv cfg :=
  ⟨Active.inv_new cfg mode, fun _ h => absurd h List.not_mem_nil, List.nodup_nil⟩

theorem Inv.mem_streams (h : s.Inv cfg) {hd : Stream} (hh : hd ∈ s.handles) : hd.id ∈ s.active.streams := by
  obtain ⟨r, hr, hid, -⟩ := h.handle_receiver hd hh
  exact hid ▸ h.active.receiver_mem r hr

theorem Inv.of_receivers (h : s.Inv cfg) {a : Active} (ha : a.Inv cfg) {handles : List Stream}
    (hids : handles.map Stream.id = s.handles.map Stream.id)
    (hkeep : ∀ r ∈ s.active.receivers, r.senderDropped = false →
      ∃ r' ∈ a.receivers, r'.id = r.id ∧ r'.senderDropped = false) :
    (⟨a, handles⟩ : Session).Inv cfg := by
  refine ⟨ha, fun hd hh => ?_, hids ▸ h.handles_nodup⟩
  obtain ⟨hd₀, hh₀, hid₀⟩ : ∃ hd₀ ∈ s.handles, hd₀.id = hd.id :=
    List.mem_map.mp (hids ▸ List.mem_map_of_mem hh)
  obtain ⟨r, hr, hrid, hopen⟩ := h.handle_receiver hd₀ hh₀
  obtain ⟨r', hr', hrid', hopen'⟩ := hkeep r hr hopen
  exact ⟨r', hr', by rw [hrid', hrid, hid₀], hopen'⟩

theorem Inv.push (h : s.Inv cfg) {a : Active} (ha : a.Inv cfg) {stream : Stream}
    (hrecv : a.receivers = s.active.receivers ++ [Receiver.mk stream.id [] false])
    (hnew : stream.id ∉ s.active.streams) : (⟨a, s.handles ++ [stream]⟩ : Session).Inv cfg := by
  refine ⟨ha, fun hd hh => ?_, ?_⟩
  · rw [hrecv]
    rcases List.mem_append.mp hh with hh | hh
    · obtain ⟨r, hr, hrid, hopen⟩ := h.handle_receiver hd hh
      exact ⟨r, List.mem_append_left _ hr, hrid, hopen⟩
    · rw [List.mem_singleton.mp hh]
      exact ⟨_, List.mem_append_right _ (List.mem_singleton_self _), rfl, rfl⟩
  · rw [List.map_append, List.nodup_append]
    refine ⟨h.handles_nodup, List.nodup_singleton _, fun x hx y hy hxy => ?_⟩
    obtain ⟨hd, hh, rfl⟩ := List.mem_map.mp hx
    rw [List.map_cons, List.map_nil, List.mem_singleton] at hy
    exact hnew (hy ▸ hxy ▸ h.mem_streams hh)

theorem updateQueue_keep (receivers : List Receiver) (id : StreamId) (f : List StreamCommand → List StreamCommand) :
    ∀ r ∈ receivers, r.senderDropped = false →
      ∃ r' ∈ updateQueue receivers id f, r'.id = r.id ∧ r'.senderDropped = false :=
  fun _ hr hopen => ⟨_, List.mem_map_of_mem hr, by split <;> rfl, by split <;> exact hopen⟩

theorem inv_updateQueue {a : Active} (ha : a.Inv cfg) (id : StreamId) {f : List StreamCommand → List StreamCommand}
    (hf : ∀ q, (∀ c ∈ q, c.WellFormed) → ∀ c ∈ f q, c.WellFormed) :
    { a with receivers := updateQueue a.receivers id f }.Inv cfg := by
  refine ha.mapReceivers _ (fun r => by split <;> rfl) fun r _ hwf => ?_
  split
  · exact hf r.queue hwf
  · exact hwf

theorem wellFormed_append {cmds : List StreamCommand} (hcmds : ∀ c ∈ cmds, c.WellFormed) :
    ∀ q : List StreamCommand, (∀ c ∈ q, c.WellFormed) → ∀ c ∈ q ++ cmds, c.WellFormed :=
  fun _ hq c hc => (List.mem_append.mp hc).elim (hq c) (hcmds c)

theorem Next.active {s' : Session} (h : s'.Inv cfg) (hev : s.Evolves s')
    (hcredit : ∀ id, s'.active.creditOf id ≤ s.active.creditOf id + gain id) : Next cfg s gain panics (.active s', []) :=
  ⟨⟨h, hev.mode_eq⟩, (fun _ hs => by cases hs; exact hev), (fun _ ho => absurd ho List.not_mem_nil),
    Nat.zero_le _, (fun _ hk => absurd hk List.not_mem_nil), (fun id => by
      simpa [ConnectionState.credit] using hcredit id), fun h => by cases h⟩

theorem Next.keep (h : s.Inv cfg) : Next cfg s gain panics (.active s, []) :=
  Next.active h (Evolves.refl s) fun _ => Nat.le_add_right _ _

theorem Next.answer {s' : Session} (h : s'.Inv cfg) (hev : s.Evolves s') {o : Output}
    (hgood : o.Good s.active.mode) (hkey : o.outboundId = none)
    (hcredit : ∀ id, s'.active.creditOf id + o.sent id ≤
      s.active.creditOf id + gain id + defaultCredit.toNat * o.opened id) :
    Next cfg s gain panics (.active s', [o]) :=
  ⟨⟨h, hev.mode_eq⟩, (fun _ hs => by cases hs; exact hev), (fun _ ho => List.mem_singleton.mp ho ▸ hgood),
    le_rfl, (fun _ hk => by simp [hkey] at hk), (fun id => by simpa [ConnectionState.credit] using hcredit id),
    fun h => by cases h⟩

theorem Next.close (h : s.Inv cfg) : Next cfg s gain panics (.closing s.active.close.closeReceivers, []) :=
  ⟨(Closing.inv_close h.active).closeReceivers, (fun _ hs => by cases hs), (fun _ ho => absurd ho List.not_mem_nil),
    Nat.zero_le _, (fun _ hk => absurd hk List.not_mem_nil), (fun _ => Nat.zero_le _), fun h => by cases h⟩

theorem Next.cleanup (e : ConnectionError) {o : Output} (hgood : o.Good s.active.mode) (hkey : o.outboundId = none)
    (hsent : ∀ id, o.sent id = 0) : Next cfg s gain panics (.cleanup e, [o]) :=
  ⟨trivial, (fun _ hs => by cases hs), (fun _ ho => List.mem_singleton.mp ho ▸ hgood), le_rfl,
    (fun _ hk => by simp [hkey] at hk), (fun id => by simp [ConnectionState.credit, hsent]), fun h => by cases h⟩

theorem Next.panic (hpanics : panics) : Next cfg s gain panics (.panicked, []) :=
  ⟨trivial, (fun _ hs => by cases hs), (fun _ ho => absurd ho List.not_mem_nil), Nat.zero_le _,
    (fun _ hk => absurd hk List.not_mem_nil), (fun _ => Nat.zero_le _), fun _ => hpanics⟩

/-! ### One lemma per input -/

theorem next_receive (h : s.Inv cfg) (frame : Frame) :
    Next cfg s frame.creditFor (s.active.creditOverflows cfg frame = true) (s.receive cfg frame) := by
  unfold receive
  split
  · rename_i e hr
    exact Next.panic ((Active.onFrame_eq_error_iff e).mp hr).2
  · exact Next.cleanup _ trivial rfl fun _ => rfl
  · rename_i stream a hr
    obtain ⟨ha, hrecv, hfresh, hstep, hmode, hnext, hcredit⟩ := Active.onFrame_spec h.active hr
    obtain ⟨hnew, hout⟩ := hfresh _ rfl
    refine Next.answer (h.push ha hrecv hnew) ⟨hmode, hnext ▸ le_rfl, hstep⟩ hout rfl fun id => ?_
    simpa [Output.sent, Output.opened] using hcredit id
  · rename_i a hr
    obtain ⟨ha, hrecv, -, hstep, hmode, hnext, hcredit⟩ := Active.onFrame_spec h.active hr
    have hsame : a.receivers = s.active.receivers := by simpa using hrecv
    exact Next.active (h.of_receivers ha rfl fun r hr hopen => ⟨r, hsame ▸ hr, rfl, hopen⟩)
      ⟨hmode, hnext ▸ le_rfl, hstep⟩ fun id => by simpa using hcredit id

theorem receive_of_creditOverflows {frame : Frame} (hover : s.active.creditOverflows cfg frame = true) :
    s.receive cfg frame = (.panicked, []) := by
  rw [receive, (Active.onFrame_eq_error_iff .panicked).mpr ⟨rfl, hover⟩]

theorem next_command (h : s.Inv cfg) (id : StreamId) : Next cfg s gain panics (s.command cfg id) := by
  unfold command
  split
  · exact Next.keep h
  rename_i r hfind
  have hr : r ∈ s.active.receivers := List.mem_of_find?_eq_some hfind
  have hrid : r.id = id := by simpa using List.find?_some hfind
  split
  · rename_i c rest hqueue
    have hc : c.WellFormed := h.active.queue_wf r hr c (by rw [hqueue]; exact List.mem_cons_self)
    have hpop := inv_updateQueue h.active id (f := List.tail) fun q hq c hc => hq c (List.mem_of_mem_tail hc)
    have hinv : (⟨{ s.active with receivers := updateQueue s.active.receivers id List.tail }, s.handles⟩
        : Session).Inv cfg :=
      h.of_receivers hpop rfl (updateQueue_keep _ id _)
    cases c with
    | sendFrame frame =>
      exact Next.active ⟨hinv.active.queue fun f hf => (List.mem_singleton.mp hf) ▸ hc, hinv.handle_receiver,
        h.handles_nodup⟩ (Evolves.of_streams rfl rfl rfl) fun _ => Nat.le_add_right _ _
    | closeStream ack =>
      have hclose : (Frame.closeStream id ack).WellFormed :=
        (Frame.wellFormed_new_iff _).mpr fun _ => by split <;> rfl
      exact Next.active ⟨hinv.active.queue fun f hf => (List.mem_singleton.mp hf) ▸ hclose,
        hinv.handle_receiver, h.handles_nodup⟩ (Evolves.of_streams rfl rfl rfl) fun _ => Nat.le_add_right _ _
  · split
    · rename_i hnil hdropped
      obtain ⟨a', heq, ha', hrecv, hgone, hlookup, hmode, hnext⟩ :=
        Active.Inv.dropStream h.active (hrid ▸ h.active.receiver_mem r hr)
      rw [heq]
      have hkeep : ∀ r₀ ∈ s.active.receivers, r₀.senderDropped = false →
          ∃ r' ∈ a'.receivers, r'.id = r₀.id ∧ r'.senderDropped = false := by
        intro r₀ hr₀ hopen
        have hne : r₀.id ≠ id := fun he => by
          have := List.inj_on_of_nodup_map h.active.receivers_nodup hr₀ hr (he.trans hrid.symm)
          rw [this, hdropped] at hopen
          cases hopen
        exact ⟨r₀, hrecv ▸ List.mem_filter.mpr ⟨hr₀, by simpa using hne⟩, rfl, hopen⟩
      refine Next.active (h.of_receivers ha' rfl hkeep) ⟨hmode, hnext ▸ le_rfl, fun id' sh sh' hbefore hafter => ?_⟩
        fun id' => ?_
      · by_cases hid : id' = id
        · rw [hid] at hafter
          dsimp only at hafter
          rw [hgone] at hafter
          cases hafter
        · dsimp only at hafter
          rw [hlookup id' hid, hbefore, Option.some.injEq] at hafter
          exact hafter ▸ State.Step.refl _
      · show a'.creditOf id' ≤ _
        unfold Active.creditOf
        by_cases hid : id' = id
        · rw [hid, hgone]
          exact Nat.zero_le _
        · rw [hlookup id' hid]
          exact Nat.le_add_right _ _
    · exact Next.keep h

theorem next_openStream (h : s.Inv cfg) : Next cfg s gain panics (s.openStream cfg) := by
  unfold openStream
  rcases Active.pollNewOutbound_spec h.active with
    ⟨e, he⟩ | hpending | ⟨stream, a', heq, ha', hnew, hrecv, hstreams, hid, hmode, hnext⟩
  · rw [he]
    exact Next.cleanup _ trivial rfl fun _ => rfl
  · rw [hpending]
    exact Next.answer h (Evolves.refl s) trivial rfl fun _ => Nat.le_add_right_of_le (Nat.le_add_right _ _)
  · rw [heq]
    refine ⟨⟨h.push ha' hrecv hnew, hmode⟩, fun s' hs' => ?_, fun o ho => ?_, le_rfl, fun k hk => ?_,
      fun id => ?_, fun h => by cases h⟩
    · cases hs'
      refine ⟨hmode, by dsimp only; omega, fun id sh sh' hbefore hafter => ?_⟩
      have hmem : id ∈ s.active.streams := AList.lookup_isSome.mp (by rw [hbefore]; rfl)
      have hne : id ≠ stream.id := fun he => hnew (he ▸ hmem)
      dsimp only at hafter
      rw [hstreams, AList.lookup_insert_ne hne, hbefore, Option.some.injEq] at hafter
      exact hafter ▸ State.Step.refl _
    · rw [List.mem_singleton.mp ho, Output.Good, hid]
      exact h.active.nextId_outbound
    · simp only [List.filterMap_cons, Output.outboundId, List.filterMap_nil, List.mem_singleton] at hk
      subst hk
      refine ⟨hid, fun s' hs' => ?_⟩
      cases hs'
      dsimp only
      rw [hid]
      omega
    · simp only [ConnectionState.credit, List.map_cons, List.map_nil, List.sum_cons, List.sum_nil,
        Output.sent, Output.opened, Active.creditOf_of_streams_insert hstreams]
      split
      · rename_i he
        rw [if_pos he.symm]
        show defaultCredit.toNat + 0 ≤ _
        omega
      · rename_i hne
        rw [if_neg (Ne.symm hne)]
        omega

theorem next_sendFrame (h : s.Inv cfg) : Next cfg s gain panics s.sendFrame := by
  unfold sendFrame
  split
  · exact Next.keep h
  · rename_i frame rest hpending
    have hinv : { s.active with pendingFrames := rest }.Inv cfg :=
      { h.active with
        pending_wf := fun f hf => h.active.pending_wf f (by rw [hpending]; exact List.mem_cons_of_mem _ hf) }
    have hframe : (Output.frame frame).Good s.active.mode :=
      h.active.pending_wf frame (by rw [hpending]; exact List.mem_cons_self)
    refine Next.answer ?_ ?_ hframe rfl fun _ => Nat.le_add_right_of_le (Nat.le_add_right _ _)
    · exact ⟨hinv, h.handle_receiver, h.handles_nodup⟩
    · exact Evolves.of_streams rfl rfl rfl

theorem next_useStream (h : s.Inv cfg) (id : StreamId) {op : StreamOp} (hop : SoundOp cfg id op) :
    Next cfg s gain panics (s.useStream id op) := by
  unfold useStream
  split
  · rename_i stream sh hfind hlookup
    obtain ⟨out, stream', sh', cmds, hop', hid, hstep, hb, hwf, hout, hcredit⟩ :=
      hop (senderReady s.active.receivers id) stream sh
    have hsid : stream.id = id := by simpa using List.find?_some hfind
    rw [hop']
    dsimp only
    have hqueue := inv_updateQueue (h.active.update hlookup hstep hb) id (wellFormed_append hwf)
    have hids : (s.handles.map fun hd => if hd.id = id then stream' else hd).map Stream.id =
        s.handles.map Stream.id := by
      rw [List.map_map]
      refine List.map_congr_left fun hd _ => ?_
      dsimp only [Function.comp]
      split
      · rename_i he
        rw [hid, hsid, he]
      · rfl
    have hstreams : Active.streams { s.active with
        streams := s.active.streams.insert id sh', receivers := updateQueue s.active.receivers id (· ++ cmds) } =
        s.active.streams.insert id sh' := rfl
    refine Next.answer ?_ ?_ (hout.good _) hout.outboundId fun id' => ?_
    · exact h.of_receivers hqueue hids (updateQueue_keep _ id (· ++ cmds))
    · refine ⟨rfl, le_rfl, fun id' sh₁ sh₂ hbefore hafter => ?_⟩
      dsimp only at hafter
      by_cases hid' : id' = id
      · subst hid'
        rw [AList.lookup_insert, Option.some.injEq] at hafter
        rw [hlookup, Option.some.injEq] at hbefore
        exact hbefore ▸ hafter ▸ hstep
      · rw [AList.lookup_insert_ne hid', hbefore, Option.some.injEq] at hafter
        exact hafter ▸ State.Step.refl _
    · rw [Active.creditOf_of_streams_insert hstreams, hout.opened]
      split
      · rename_i he
        rw [he, Active.creditOf_of_lookup hlookup]
        omega
      · rw [hout.sent_ne ‹_›]
        omega
  · exact Next.keep h

theorem next_drop (h : s.Inv cfg) (id : StreamId) : Next cfg s gain panics (s.drop id) := by
  unfold drop
  split
  · have ha := h.active.mapReceivers (fun (r : Receiver) => if r.id = id then { r with senderDropped := true } else r)
      (fun r => by split <;> rfl) fun r _ hwf => by split <;> exact hwf
    refine Next.active ⟨ha, fun hd hh => ?_, ?_⟩ (Evolves.of_streams rfl rfl rfl) fun _ => Nat.le_add_right _ _
    · obtain ⟨hh, hne⟩ := List.mem_filter.mp hh
      obtain ⟨r, hr, hrid, hopen⟩ := h.handle_receiver hd hh
      have hne : r.id ≠ id := by simpa [hrid] using hne
      exact ⟨r, List.mem_map.mpr ⟨r, hr, if_neg hne⟩, hrid, hopen⟩
    · exact (List.Sublist.map Stream.id List.filter_sublist).nodup h.handles_nodup
  · exact Next.keep h

theorem soundOp_write (cfg : Config) (id : StreamId) (buf : List UInt8) : SoundOp cfg id (write cfg id buf) := by
  intro ready stream sh
  obtain ⟨r, s', sh', cmds, heq, hid, hwindow, hbuffer, hstep, hcredit, hwritten, hcmds⟩ :=
    stream.pollWrite_spec cfg sh buf ready
  refine ⟨.written id r, s', sh', cmds, by rw [write, heq]; rfl, hid, hstep,
    fun hb => hb.of_eq hwindow (hbuffer ▸ le_rfl), fun c hc => ?_, rfl, ?_⟩
  · obtain ⟨frame, rfl, hframe, -⟩ := hcmds c hc
    exact hframe
  · rw [Output.sent, if_pos rfl]
    omega

theorem soundOp_read (cfg : Config) (id : StreamId) (capacity : Nat) : SoundOp cfg id (read cfg id capacity) := by
  intro ready stream sh
  obtain ⟨r, s', sh', cmds, heq, hid, hstate, hcredit, hb, hwf⟩ :=
    stream.pollRead_spec cfg ready sh capacity (.inr rfl)
  exact ⟨.read id r, s', sh', cmds, by rw [read, heq]; rfl, hid, hstate ▸ State.Step.refl _, hb, hwf, rfl,
    hcredit ▸ le_rfl⟩

theorem soundOp_readPacket (cfg : Config) (id : StreamId) : SoundOp cfg id (readPacket cfg id) := by
  intro ready stream sh
  obtain ⟨r, s', sh', cmds, heq, hid, hstate, hcredit, hb, hwf⟩ := stream.pollNext_spec cfg ready sh (.inr rfl)
  exact ⟨.packet id r, s', sh', cmds, by rw [readPacket, heq], hid, hstate ▸ State.Step.refl _, hb, hwf, rfl,
    hcredit ▸ le_rfl⟩

theorem soundOp_close (cfg : Config) (id : StreamId) : SoundOp cfg id (close id) := by
  intro ready stream sh
  obtain ⟨hid, hwindow, hcredit, hbuffer, hstep, hcmds⟩ := stream.pollClose_spec ready sh
  refine ⟨_, _, _, _, rfl, hid, hstep, fun hb => hb.of_eq hwindow (hbuffer ▸ le_rfl), fun c hc => ?_, rfl,
    hcredit ▸ le_rfl⟩
  obtain ⟨ack, rfl⟩ := hcmds c hc
  trivial

/-- Every input: the step from a sound session is sound, grants only the credit of the window
update it may be, and panics only on a window update that overflows a credit. -/
theorem next (h : s.Inv cfg) : ∀ i, Next cfg s (fun id => i.granted id) (i.overflows cfg s.active) (s.step cfg i)
  | .frame (.ok frame) => next_receive h frame
  | .frame (.error _) | .socketClosed => Next.cleanup _ trivial rfl fun _ => rfl
  | .sendFrame => next_sendFrame h
  | .command id => next_command h id
  | .openStream => next_openStream h
  | .write id buf => next_useStream h id (soundOp_write cfg id buf)
  | .read id capacity => next_useStream h id (soundOp_read cfg id capacity)
  | .readPacket id => next_useStream h id (soundOp_readPacket cfg id)
  | .close id => next_useStream h id (soundOp_close cfg id)
  | .drop id => next_drop h id
  | .pollClose => Next.close h

end Session

end Litep2p.Yamux
