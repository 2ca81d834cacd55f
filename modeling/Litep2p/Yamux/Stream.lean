import Mathlib
import Litep2p.Yamux.FrameIo
import Litep2p.Yamux.Chunks

/-! A yamux stream, `yamux/connection/stream.rs`, with the configuration of `yamux/mod.rs`. The
state a stream shares with its connection (`Shared`) holds the stream's state, its receive
window, its send credit and its receive buffer; the handle the user holds (`Stream`) holds the
flag its next frame still has to carry, and sends its frames to the connection as commands.

The state only ever closes: `update_state` takes the meet of the current and the requested
state in what each allows, reading and writing (`canRead_update`, `canWrite_update`), except
that an open stream takes the requested state as it is. The window and credit arithmetic is the
`u32` arithmetic of the source; `saturating_sub` is the truncated subtraction of the numbers
(`UInt32.toNat_saturatingSub`). -/

def UInt32.saturatingSub (a b : UInt32) : UInt32 := if b ≤ a then a - b else 0

theorem UInt32.toNat_saturatingSub (a b : UInt32) : (a.saturatingSub b).toNat = a.toNat - b.toNat := by
  unfold UInt32.saturatingSub
  split
  · rename_i h
    rw [UInt32.toNat_sub_of_le _ _ h]
  · rename_i h
    rw [UInt32.le_iff_toNat_le, Nat.not_le] at h
    rw [UInt32.toNat_zero]
    omega

namespace Litep2p.Yamux

def defaultCredit : UInt32 := 256 * 1024

def maxAckBacklog : Nat := 256

def defaultSplitSendSize : Nat := 16 * 1024

/-- `WindowUpdateMode`: whether window updates are sent when data is received or when it is read. -/
inductive WindowUpdateMode where
  | onReceive
  | onRead
  deriving DecidableEq, Repr

/-- `Config`. Its receive window is never below `DEFAULT_CREDIT`: the default is that, and
`set_receive_window` asserts it. -/
structure Config where
  receiveWindow : UInt32
  maxBufferSize : Nat
  maxNumStreams : Nat
  windowUpdateMode : WindowUpdateMode
  readAfterClose : Bool
  splitSendSize : Nat
  defaultCredit_le : defaultCredit ≤ receiveWindow

namespace Config

def default : Config :=
  ⟨defaultCredit, 1024 * 1024, 8192, .onRead, true, defaultSplitSendSize, UInt32.le_refl _⟩

def setReceiveWindow (cfg : Config) (n : UInt32) : Except Error Config :=
  if h : defaultCredit ≤ n then .ok { cfg with receiveWindow := n, defaultCredit_le := h }
  else .error .panicked

end Config

inductive State where
  | «open» (acknowledged : Bool)
  | sendClosed
  | recvClosed
  | closed
  deriving DecidableEq, Repr

namespace State

def canRead : State → Bool
  | .recvClosed | .closed => false
  | _ => true

def canWrite : State → Bool
  | .sendClosed | .closed => false
  | _ => true

/-- The state `update_state` moves to from `current` when asked for `next`. -/
def update : State → State → State
  | .closed, _ => .closed
  | .open _, next => next
  | .recvClosed, .closed => .closed
  | .recvClosed, .open _ => .recvClosed
  | .recvClosed, .recvClosed => .recvClosed
  | .recvClosed, .sendClosed => .closed
  | .sendClosed, .closed => .closed
  | .sendClosed, .open _ => .sendClosed
  | .sendClosed, .recvClosed => .closed
  | .sendClosed, .sendClosed => .sendClosed

/-- A stream can read after an update only if it could before and the state asked for allows it. -/
@[simp] theorem canRead_update (current next : State) :
    (current.update next).canRead = (current.canRead && next.canRead) := by
  cases current <;> cases next <;> rfl

/-- A stream can write after an update only if it could before and the state asked for allows it. -/
@[simp] theorem canWrite_update (current next : State) :
    (current.update next).canWrite = (current.canWrite && next.canWrite) := by
  cases current <;> cases next <;> rfl

theorem update_eq_open {current next : State} {a : Bool} (h : current.update next = .open a) :
    ∃ b, current = .open b ∧ next = .open a := by
  cases current <;> cases next <;> simp_all [update]

@[simp] theorem closed_update (next : State) : closed.update next = closed := rfl

@[simp] theorem update_self (s : State) : s.update s = s := by
  cases s <;> rfl

/-- What a stream's state can become: it reads and writes no more than it did, and waits for an
acknowledgement only if it did. -/
structure Step (s s' : State) : Prop where
  canRead : s'.canRead → s.canRead
  canWrite : s'.canWrite → s.canWrite
  open_false : s' = .open false → s = .open false

theorem Step.refl (s : State) : Step s s := ⟨id, id, id⟩

theorem Step.trans {s s' s'' : State} (h : Step s s') (h' : Step s' s'') : Step s s'' :=
  ⟨h.canRead ∘ h'.canRead, h.canWrite ∘ h'.canWrite, h.open_false ∘ h'.open_false⟩

theorem Step.update (s : State) {next : State} (h : next ≠ .open false) : Step s (s.update next) where
  canRead h' := by
    rw [canRead_update, Bool.and_eq_true] at h'
    exact h'.1
  canWrite h' := by
    rw [canWrite_update, Bool.and_eq_true] at h'
    exact h'.1
  open_false h' := by
    obtain ⟨b, rfl, rfl⟩ := update_eq_open h'
    exact absurd rfl h

end State

/-- `Flag`: the flag the next frame of a stream still has to carry. -/
inductive Flag where
  | none
  | syn
  | ack
  deriving DecidableEq, Repr

/-- `Shared`: what a stream and its connection share. The wakers and the configuration, which is
the connection's, are left out. -/
structure Shared where
  state : State
  window : UInt32
  credit : UInt32
  buffer : Chunks
  deriving DecidableEq

namespace Shared

def new (window credit : UInt32) : Shared := ⟨.open false, window, credit, Chunks.new⟩

def updateState (s : Shared) (next : State) : State × Shared :=
  (s.state, { s with state := s.state.update next })

/-- `Shared::next_window_update`: the credit to grant the remote, when it is at least half the
receive window. -/
def nextWindowUpdate (cfg : Config) (s : Shared) : Option UInt32 :=
  if !s.state.canRead then none
  else
    let newCredit :=
      match cfg.windowUpdateMode with
      | .onReceive => cfg.receiveWindow.saturatingSub s.window
      | .onRead =>
        let bytesReceived := cfg.receiveWindow.saturatingSub s.window
        let bufferLen : UInt32 := if s.buffer.len < 2 ^ 32 then s.buffer.len.toUInt32 else 4294967295
        bytesReceived.saturatingSub bufferLen
    if newCredit ≥ cfg.receiveWindow / 2 then some newCredit else none

def isPendingAck (s : Shared) : Bool := s.state == .open false

section NextWindowUpdate

variable {cfg : Config} {sh : Shared} {credit : UInt32}

theorem defaultCredit_le_toNat (cfg : Config) : 262144 ≤ cfg.receiveWindow.toNat :=
  UInt32.le_iff_toNat_le.mp cfg.defaultCredit_le

theorem nextWindowUpdate_eq_some (h : sh.nextWindowUpdate cfg = some credit) :
    sh.state.canRead ∧ cfg.receiveWindow.toNat / 2 ≤ credit.toNat ∧
      credit.toNat = (match cfg.windowUpdateMode with
        | .onReceive => cfg.receiveWindow.toNat - sh.window.toNat
        | .onRead => cfg.receiveWindow.toNat - sh.window.toNat -
            (if sh.buffer.len < 2 ^ 32 then sh.buffer.len else 4294967295)) := by
  unfold nextWindowUpdate at h
  by_cases hread : sh.state.canRead
  · rw [if_neg (by simpa using hread)] at h
    dsimp only at h
    generalize hnew : (match cfg.windowUpdateMode with
      | .onReceive => cfg.receiveWindow.saturatingSub sh.window
      | .onRead =>
        (cfg.receiveWindow.saturatingSub sh.window).saturatingSub
          (if sh.buffer.len < 2 ^ 32 then sh.buffer.len.toUInt32 else 4294967295)) = newCredit at h
    split_ifs at h with hhalf
    cases h
    refine ⟨hread, ?_, ?_⟩
    · rwa [GE.ge, UInt32.le_iff_toNat_le, UInt32.toNat_div] at hhalf
    · cases hmode : cfg.windowUpdateMode with
      | onReceive =>
        simp only [hmode] at hnew ⊢
        rw [← hnew, UInt32.toNat_saturatingSub]
      | onRead =>
        simp only [hmode] at hnew ⊢
        rw [← hnew, UInt32.toNat_saturatingSub, UInt32.toNat_saturatingSub]
        split
        · rename_i hlen
          rw [UInt32.toNat_ofNat_of_lt' hlen]
        · rfl
  · rw [if_pos (by simpa using hread)] at h
    cases h

theorem credit_of_nextWindowUpdate_onReceive (hmode : cfg.windowUpdateMode = .onReceive)
    (h : sh.nextWindowUpdate cfg = some credit) :
    credit.toNat = cfg.receiveWindow.toNat - sh.window.toNat := by
  have hcredit := (nextWindowUpdate_eq_some h).2.2
  rwa [hmode] at hcredit

theorem credit_of_nextWindowUpdate_onRead (hmode : cfg.windowUpdateMode = .onRead)
    (h : sh.nextWindowUpdate cfg = some credit) :
    credit.toNat + sh.window.toNat + sh.buffer.len = cfg.receiveWindow.toNat := by
  obtain ⟨-, hhalf, hcredit⟩ := nextWindowUpdate_eq_some h
  rw [hmode] at hcredit
  dsimp only at hcredit
  have hrw := defaultCredit_le_toNat cfg
  have hlt := cfg.receiveWindow.toNat_lt
  split at hcredit <;> omega

end NextWindowUpdate

/-- The bounds a stream's shared state keeps: the window never passes the receive window (the
`debug_assert!` of `next_window_update`), the buffer never holds more than `max_buffer_size` and
a window beyond it, and in `OnRead` mode the window and the buffer together stay within the
receive window. -/
structure Bounded (cfg : Config) (sh : Shared) : Prop where
  window_le : sh.window.toNat ≤ cfg.receiveWindow.toNat
  buffer_le : sh.buffer.len ≤ cfg.maxBufferSize + cfg.receiveWindow.toNat
  onRead : cfg.windowUpdateMode = .onRead → sh.window.toNat + sh.buffer.len ≤ cfg.receiveWindow.toNat

theorem bounded_new {cfg : Config} {window : UInt32} (credit : UInt32)
    (hwindow : window.toNat ≤ cfg.receiveWindow.toNat) : (new window credit).Bounded cfg where
  window_le := hwindow
  buffer_le := by simp [new, Chunks.len_eq_length_contents]
  onRead _ := by simpa [new, Chunks.len_eq_length_contents] using hwindow

theorem Bounded.of_eq {cfg : Config} {sh sh' : Shared} (hb : sh.Bounded cfg) (hwindow : sh'.window = sh.window)
    (hbuffer : sh'.buffer.len ≤ sh.buffer.len) : sh'.Bounded cfg where
  window_le := hwindow ▸ hb.window_le
  buffer_le := le_trans hbuffer hb.buffer_le
  onRead hmode := by
    have := hb.onRead hmode
    rw [hwindow]
    omega

end Shared

/-- The commands a stream sends its connection, `StreamCommand`. -/
inductive StreamCommand where
  | sendFrame (frame : Frame)
  | closeStream (ack : Bool)
  deriving DecidableEq, Repr

def StreamCommand.WellFormed : StreamCommand → Prop
  | .sendFrame frame => frame.WellFormed
  | .closeStream _ => True

def StreamCommand.bodyLength : StreamCommand → Nat
  | .sendFrame frame => frame.body.length
  | .closeStream _ => 0

/-- The handle `Stream` the user holds: its id and the flag its next frame has to carry. Its
shared state is the one its connection keeps under its id, and its sender is the queue of
commands the connection keeps for it. -/
structure Stream where
  id : StreamId
  flag : Flag
  deriving DecidableEq, Repr

namespace Stream

def newInbound (id : StreamId) (credit : UInt32) : Stream × Shared :=
  (⟨id, .none⟩, Shared.new defaultCredit credit)

def newOutbound (id : StreamId) (window : UInt32) : Stream × Shared :=
  (⟨id, .none⟩, Shared.new window defaultCredit)

/-- `Stream::add_flag`: the header with the flag still to send, and the flag cleared. -/
def addFlag (s : Stream) (header : Header) : Header × Stream :=
  match s.flag with
  | .none => (header, s)
  | .syn => (header.syn, { s with flag := .none })
  | .ack => (header.ack, { s with flag := .none })

/-- `Stream::send_window_update`: in `OnRead` mode, the window update the reader grants. `ready`
says whether the command channel takes a command; a full one makes it `Pending`, with the window as
it was. -/
def sendWindowUpdate (cfg : Config) (ready : Bool) (s : Stream) (sh : Shared) :
    Poll Unit × Stream × Shared × List StreamCommand :=
  if cfg.windowUpdateMode = .onReceive then (.ready (), s, sh, [])
  else
    match sh.nextWindowUpdate cfg with
    | none => (.ready (), s, sh, [])
    | some credit =>
      if !ready then (.pending, s, sh, [])
      else
        let (header, s') := s.addFlag (Header.windowUpdate s.id credit)
        (.ready (), s', { sh with window := sh.window + credit }, [.sendFrame (Frame.new header)])

/-- `AsyncRead::poll_read` into a buffer of `capacity` bytes: the bytes read, none at the end of
the stream. `senderClosed` says whether the connection has gone. A window update left `Pending`
does not stop the read. -/
def pollRead (cfg : Config) (senderClosed ready : Bool) (s : Stream) (sh : Shared) (capacity : Nat) :
    Except Error (Poll (List UInt8) × Stream × Shared × List StreamCommand) :=
  if !cfg.readAfterClose && senderClosed then .ok (.ready [], s, sh, [])
  else
    let (_, s, sh, cmds) := sendWindowUpdate cfg ready s sh
    match sh.buffer.readInto capacity with
    | .error e => .error e
    | .ok (bytes, buffer) =>
      let sh := { sh with buffer }
      if bytes ≠ [] then .ok (.ready bytes, s, sh, cmds)
      else if !sh.state.canRead then .ok (.ready [], s, sh, cmds)
      else .ok (.pending, s, sh, cmds)

/-- `futures::Stream::poll_next`: the next chunk received whole, `none` at the end of the stream. -/
def pollNext (cfg : Config) (senderClosed ready : Bool) (s : Stream) (sh : Shared) :
    Poll (Option (List UInt8)) × Stream × Shared × List StreamCommand :=
  if !cfg.readAfterClose && senderClosed then (.ready none, s, sh, [])
  else
    let (_, s, sh, cmds) := sendWindowUpdate cfg ready s sh
    match sh.buffer.pop with
    | (some chunk, buffer) => (.ready (some chunk.asRef), s, { sh with buffer }, cmds)
    | (none, _) => if !sh.state.canRead then (.ready none, s, sh, cmds) else (.pending, s, sh, cmds)

/-- `AsyncWrite::poll_write`: at most the credit and the split size go in one data frame. -/
def pollWrite (cfg : Config) (ready : Bool) (s : Stream) (sh : Shared) (buf : List UInt8) :
    Except Error (Poll (Except WriteError Nat) × Stream × Shared × List StreamCommand) :=
  if !ready then .ok (.pending, s, sh, [])
  else if !sh.state.canWrite then .ok (.ready (.error .writeZero), s, sh, [])
  else if sh.credit = 0 then .ok (.pending, s, sh, [])
  else
    let k := min (min sh.credit.toNat buf.length) cfg.splitSendSize
    let sh := { sh with credit := sh.credit.saturatingSub k.toUInt32 }
    match Frame.data s.id (buf.take k) with
    | none => .error .panicked
    | some frame =>
      let (header, s) := s.addFlag frame.header
      let sh := if header.flags.contains Flags.ack then (sh.updateState (.open true)).2 else sh
      .ok (.ready (.ok k), s, sh, [.sendFrame { frame with header }])

def writtenOf : Poll (Except WriteError Nat) → Nat
  | .ready (.ok k) => k
  | _ => 0

/-- `AsyncWrite::poll_close`: the stream is closed for writing, with an ACK if one is still due,
once the command channel takes the command. -/
def pollClose (ready : Bool) (s : Stream) (sh : Shared) : Poll Unit × Stream × Shared × List StreamCommand :=
  if sh.state = .closed then (.ready (), s, sh, [])
  else if !ready then (.pending, s, sh, [])
  else
    let ack := s.flag = .ack
    let s := if ack then { s with flag := .none } else s
    (.ready (), s, (sh.updateState .sendClosed).2, [.closeStream ack])

/-! ### What each operation of a stream does -/

section AddFlag

variable (s : Stream) (h : Header)

@[simp] theorem addFlag_tag : (s.addFlag h).1.tag = h.tag := by
  unfold addFlag; split <;> rfl

@[simp] theorem addFlag_streamId : (s.addFlag h).1.streamId = h.streamId := by
  unfold addFlag; split <;> rfl

@[simp] theorem addFlag_length : (s.addFlag h).1.length = h.length := by
  unfold addFlag; split <;> rfl

@[simp] theorem id_addFlag : (s.addFlag h).2.id = s.id := by
  unfold addFlag; split <;> rfl

theorem contains_ack_addFlag (h0 : h.flags = 0) :
    (s.addFlag h).1.flags.contains Flags.ack = (s.flag == .ack) := by
  unfold addFlag
  split <;> simp_all [Header.syn, Header.ack] <;> decide

end AddFlag

section SendWindowUpdate

variable (cfg : Config) (ready : Bool) (s : Stream) (sh : Shared)

@[simp] theorem state_sendWindowUpdate : (sendWindowUpdate cfg ready s sh).2.2.1.state = sh.state := by
  unfold sendWindowUpdate; split <;> [rfl; split <;> [rfl; split <;> rfl]]

@[simp] theorem credit_sendWindowUpdate : (sendWindowUpdate cfg ready s sh).2.2.1.credit = sh.credit := by
  unfold sendWindowUpdate; split <;> [rfl; split <;> [rfl; split <;> rfl]]

@[simp] theorem buffer_sendWindowUpdate : (sendWindowUpdate cfg ready s sh).2.2.1.buffer = sh.buffer := by
  unfold sendWindowUpdate; split <;> [rfl; split <;> [rfl; split <;> rfl]]

@[simp] theorem id_sendWindowUpdate : (sendWindowUpdate cfg ready s sh).2.1.id = s.id := by
  unfold sendWindowUpdate; split <;> [rfl; split <;> [rfl; split <;> simp]]

theorem commands_sendWindowUpdate :
    ∀ c ∈ (sendWindowUpdate cfg ready s sh).2.2.2, ∃ header, c = .sendFrame (Frame.new header) ∧
      header.tag = .windowUpdate ∧ header.streamId = s.id := by
  unfold sendWindowUpdate
  split
  · simp
  · split
    · simp
    · split
      · simp
      · intro c hc
        exact ⟨_, List.mem_singleton.mp hc, by simp [Header.windowUpdate], by simp [Header.windowUpdate]⟩

theorem wellFormed_sendWindowUpdate : ∀ c ∈ (sendWindowUpdate cfg ready s sh).2.2.2, c.WellFormed := by
  intro c hc
  obtain ⟨header, rfl, htag, -⟩ := commands_sendWindowUpdate cfg ready s sh c hc
  exact (Frame.wellFormed_new_iff header).mpr fun h => absurd (htag.symm.trans h) (by decide)

theorem bounded_sendWindowUpdate {cfg : Config} {sh : Shared} (ready : Bool) (s : Stream) (hb : sh.Bounded cfg) :
    (sendWindowUpdate cfg ready s sh).2.2.1.Bounded cfg := by
  unfold Stream.sendWindowUpdate
  split
  · exact hb
  · rename_i hmode
    have hread : cfg.windowUpdateMode = .onRead := by
      cases h : cfg.windowUpdateMode
      · exact absurd h hmode
      · rfl
    split
    · exact hb
    · rename_i credit hcredit
      split
      · exact hb
      have hsum := Shared.credit_of_nextWindowUpdate_onRead hread hcredit
      have hwindow : (sh.window + credit).toNat = sh.window.toNat + credit.toNat := by
        have := cfg.receiveWindow.toNat_lt
        rw [UInt32.toNat_add]
        omega
      refine ⟨?_, hb.buffer_le, fun _ => ?_⟩ <;> (dsimp only; rw [hwindow]; omega)

end SendWindowUpdate

section Read

variable (cfg : Config) {senderClosed : Bool} (ready : Bool) (s : Stream) (sh : Shared)

theorem pollRead_eq (capacity : Nat) (hopen : cfg.readAfterClose = true ∨ senderClosed = false) :
    ∃ buffer, buffer.contents = sh.buffer.contents.drop capacity ∧
      pollRead cfg senderClosed ready s sh capacity =
        .ok ((if sh.buffer.contents.take capacity ≠ [] then .ready (sh.buffer.contents.take capacity)
            else if !sh.state.canRead then .ready [] else .pending),
          (sendWindowUpdate cfg ready s sh).2.1, { (sendWindowUpdate cfg ready s sh).2.2.1 with buffer },
          (sendWindowUpdate cfg ready s sh).2.2.2) := by
  obtain ⟨buffer, hread, hcontents⟩ := Chunks.readInto_spec capacity sh.buffer
  refine ⟨buffer, hcontents, ?_⟩
  have hguard : (!cfg.readAfterClose && senderClosed) = false := by
    rcases hopen with h | h <;> simp [h]
  have hstate := state_sendWindowUpdate cfg ready s sh
  have hbuffer := buffer_sendWindowUpdate cfg ready s sh
  unfold pollRead
  rw [if_neg (by simp [hguard])]
  generalize sendWindowUpdate cfg ready s sh = w at hstate hbuffer ⊢
  obtain ⟨_poll, s₁, sh₁, cmds⟩ := w
  dsimp only at hstate hbuffer ⊢
  rw [hbuffer, hread]
  dsimp only
  rw [hstate]
  split_ifs <;> rfl

theorem pollRead_spec (capacity : Nat) (hopen : cfg.readAfterClose = true ∨ senderClosed = false) :
    ∃ r s' sh' cmds, pollRead cfg senderClosed ready s sh capacity = .ok (r, s', sh', cmds) ∧ s'.id = s.id ∧
      sh'.state = sh.state ∧ sh'.credit = sh.credit ∧ (sh.Bounded cfg → sh'.Bounded cfg) ∧
      ∀ c ∈ cmds, c.WellFormed := by
  obtain ⟨buffer, hcontents, heq⟩ := pollRead_eq cfg ready s sh capacity hopen
  refine ⟨_, _, _, _, heq, id_sendWindowUpdate cfg ready s sh, state_sendWindowUpdate cfg ready s sh,
    credit_sendWindowUpdate cfg ready s sh, fun hb => ?_, wellFormed_sendWindowUpdate cfg ready s sh⟩
  refine (bounded_sendWindowUpdate ready s hb).of_eq rfl ?_
  rw [Chunks.len_eq_length_contents, Chunks.len_eq_length_contents, hcontents, buffer_sendWindowUpdate,
    List.length_drop]
  exact Nat.sub_le _ _

theorem pollNext_spec (hopen : cfg.readAfterClose = true ∨ senderClosed = false) :
    ∃ r s' sh' cmds, pollNext cfg senderClosed ready s sh = (r, s', sh', cmds) ∧ s'.id = s.id ∧
      sh'.state = sh.state ∧ sh'.credit = sh.credit ∧ (sh.Bounded cfg → sh'.Bounded cfg) ∧
      ∀ c ∈ cmds, c.WellFormed := by
  have hguard : (!cfg.readAfterClose && senderClosed) = false := by
    rcases hopen with h | h <;> simp [h]
  have hstate := state_sendWindowUpdate cfg ready s sh
  have hcredit := credit_sendWindowUpdate cfg ready s sh
  have hbuffer := buffer_sendWindowUpdate cfg ready s sh
  have hid := id_sendWindowUpdate cfg ready s sh
  have hwf := wellFormed_sendWindowUpdate cfg ready s sh
  have hbounded : sh.Bounded cfg → (sendWindowUpdate cfg ready s sh).2.2.1.Bounded cfg :=
    bounded_sendWindowUpdate ready s
  unfold pollNext
  rw [if_neg (by simp [hguard])]
  generalize sendWindowUpdate cfg ready s sh = w at hstate hcredit hbuffer hid hwf hbounded ⊢
  obtain ⟨_poll, s₁, sh₁, cmds⟩ := w
  dsimp only at hstate hcredit hbuffer hid hwf hbounded ⊢
  split
  · rename_i chunk buffer hpop
    have hlen : buffer.len ≤ sh₁.buffer.len := by
      have hcontents := Chunks.contents_pop sh₁.buffer
      rw [hpop] at hcontents
      rw [Chunks.len_eq_length_contents, Chunks.len_eq_length_contents, hcontents, List.length_append]
      exact Nat.le_add_left _ _
    exact ⟨_, _, _, _, rfl, hid, hstate, hcredit, fun hb => (hbounded hb).of_eq rfl hlen, hwf⟩
  · split <;> exact ⟨_, _, _, _, rfl, hid, hstate, hcredit, hbounded, hwf⟩

end Read

section Write

variable (cfg : Config) (s : Stream) (sh : Shared) (buf : List UInt8)

theorem pollWrite_of_credit (hw : sh.state.canWrite) (hc : sh.credit ≠ 0) :
    ∃ header s' sh', pollWrite cfg true s sh buf =
        .ok (.ready (.ok (min (min sh.credit.toNat buf.length) cfg.splitSendSize)), s', sh',
          [.sendFrame ⟨header, buf.take (min (min sh.credit.toNat buf.length) cfg.splitSendSize)⟩]) ∧
      header.tag = .data ∧ header.streamId = s.id ∧
      header.length.toNat = min (min sh.credit.toNat buf.length) cfg.splitSendSize ∧ s'.id = s.id ∧
      sh'.window = sh.window ∧ sh'.buffer = sh.buffer ∧ sh.state.Step sh'.state ∧
      sh'.credit.toNat + min (min sh.credit.toNat buf.length) cfg.splitSendSize = sh.credit.toNat := by
  set k := min (min sh.credit.toNat buf.length) cfg.splitSendSize with hk
  have hcredit := sh.credit.toNat_lt
  have hsize : UInt32.size = 2 ^ 32 := rfl
  have hlen : (buf.take k).length = k := List.length_take_of_le (by omega)
  have hdata := (Frame.data_eq_some s.id (show (buf.take k).length < 2 ^ 32 by omega)).1
  unfold pollWrite
  rw [if_neg (by decide), if_neg (by simpa using hw), if_neg hc]
  dsimp only
  rw [← hk, hdata]
  dsimp only
  refine ⟨_, _, _, rfl, by simp [Header.data], by simp [Header.data], ?_, id_addFlag _ _, ?_, ?_, ?_, ?_⟩
  · rw [addFlag_length, Header.data, hlen, UInt32.toNat_ofNat_of_lt' (by omega)]
  · split <;> rfl
  · split <;> rfl
  · split
    · exact State.Step.update _ (by decide)
    · exact State.Step.refl _
  · have hsub : (sh.credit.saturatingSub k.toUInt32).toNat = sh.credit.toNat - k := by
      rw [UInt32.toNat_saturatingSub, UInt32.toNat_ofNat_of_lt' (by omega)]
    split <;> (dsimp only [Shared.updateState]; omega)

theorem pollWrite_spec_of_eq {r : Poll (Except WriteError Nat)} (ready : Bool)
    (heq : pollWrite cfg ready s sh buf = .ok (r, s, sh, [])) (hr : writtenOf r = 0) :
    ∃ r s' sh' cmds, pollWrite cfg ready s sh buf = .ok (r, s', sh', cmds) ∧ s'.id = s.id ∧
      sh'.window = sh.window ∧ sh'.buffer = sh.buffer ∧ sh.state.Step sh'.state ∧
      sh'.credit.toNat + (cmds.map StreamCommand.bodyLength).sum = sh.credit.toNat ∧
      (cmds.map StreamCommand.bodyLength).sum = writtenOf r ∧
      ∀ c ∈ cmds, ∃ frame, c = .sendFrame frame ∧ frame.WellFormed ∧ frame.header.streamId = s.id :=
  ⟨r, s, sh, [], heq, rfl, rfl, rfl, State.Step.refl _, by simp, hr.symm, by simp⟩

/-- What `poll_write` changes: only the credit, by the bytes it sends and reports written, the
flag, and the state, by acknowledging; every frame it sends is a well-formed frame of the stream. -/
theorem pollWrite_spec (ready : Bool) :
    ∃ r s' sh' cmds, pollWrite cfg ready s sh buf = .ok (r, s', sh', cmds) ∧ s'.id = s.id ∧
      sh'.window = sh.window ∧ sh'.buffer = sh.buffer ∧ sh.state.Step sh'.state ∧
      sh'.credit.toNat + (cmds.map StreamCommand.bodyLength).sum = sh.credit.toNat ∧
      (cmds.map StreamCommand.bodyLength).sum = writtenOf r ∧
      ∀ c ∈ cmds, ∃ frame, c = .sendFrame frame ∧ frame.WellFormed ∧ frame.header.streamId = s.id := by
  cases ready with
  | false =>
    exact pollWrite_spec_of_eq cfg s sh buf false rfl rfl
  | true =>
    by_cases hw : sh.state.canWrite
    · by_cases hc : sh.credit = 0
      · exact pollWrite_spec_of_eq cfg s sh buf true
          (by rw [pollWrite, if_neg (by decide), if_neg (by simpa using hw), if_pos hc]) rfl
      · obtain ⟨header, s', sh', heq, htag, hid, hlength, hs', hwindow, hbuffer, hstep, hcredit⟩ :=
          pollWrite_of_credit cfg s sh buf hw hc
        have hlen : (buf.take (min (min sh.credit.toNat buf.length) cfg.splitSendSize)).length =
            min (min sh.credit.toNat buf.length) cfg.splitSendSize :=
          List.length_take_of_le (by omega)
        refine ⟨_, s', sh', _, heq, hs', hwindow, hbuffer, hstep, ?_, ?_, ?_⟩
        · simpa [StreamCommand.bodyLength, hlen] using hcredit
        · simp [StreamCommand.bodyLength, writtenOf]
        · simp only [List.mem_singleton, forall_eq]
          exact ⟨_, rfl, by simp [Frame.WellFormed, htag, hlength], hid⟩
    · exact pollWrite_spec_of_eq cfg s sh buf true
        (by rw [pollWrite, if_neg (by decide), if_pos (by simpa using hw)]) rfl

end Write

theorem pollClose_spec (ready : Bool) (s : Stream) (sh : Shared) :
    (pollClose ready s sh).2.1.id = s.id ∧ (pollClose ready s sh).2.2.1.window = sh.window ∧
      (pollClose ready s sh).2.2.1.credit = sh.credit ∧ (pollClose ready s sh).2.2.1.buffer = sh.buffer ∧
      sh.state.Step (pollClose ready s sh).2.2.1.state ∧
      ∀ c ∈ (pollClose ready s sh).2.2.2, ∃ ack, c = .closeStream ack := by
  unfold pollClose
  split
  · exact ⟨rfl, rfl, rfl, rfl, State.Step.refl _, by simp⟩
  split
  · exact ⟨rfl, rfl, rfl, rfl, State.Step.refl _, by simp⟩
  · refine ⟨by dsimp only; split <;> rfl, rfl, rfl, rfl, State.Step.update _ (by decide), ?_⟩
    simp only [List.mem_singleton, forall_eq]
    exact ⟨_, rfl⟩

end Stream

end Litep2p.Yamux
