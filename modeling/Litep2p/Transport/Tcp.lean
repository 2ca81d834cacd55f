import Mathlib
import Litep2p.Lib.AListKeys
import Litep2p.Lib.Mealy
import Litep2p.Transport.Manager.Manager

/-!
# The connection bookkeeping of the TCP transport

`transport/tcp/mod.rs`. `TcpTransport` keeps the addresses of the connections it dials or
negotiates (`pending_dials`), the inbound connections the manager has not yet taken, the raw
connections it has opened and not yet negotiated, the negotiated connections the manager has not
yet accepted (`pending_open`), and the open attempts the manager has cancelled (`canceled`). A
future is the result it completes with: a dial, negotiation or inbound handshake of
`pending_connections` is the endpoint a success reports, an open attempt of
`pending_raw_connections` its connection id and the addresses it tries. Which future completes
next, and how, is an input, as is a connection the listener accepts; `poll_next` handles one
completion at a time, and its loops skip the completions that report nothing.

`transport/websocket/mod.rs` keeps the same maps and sets and updates them the same way; only its
address checks differ. A `HashMap` is an association list and a `HashSet` a finite set. The
streams, the configuration and the executor are left out, as are the errors a failed future
carries and the end of the stream when the listener fails.
-/

namespace Litep2p.Tcp

open Manager

variable {P : Type} [DecidableEq P]

inductive AddressError where
  | invalidProtocol
  deriving DecidableEq, Repr

/-- The variants of `crate::Error` the calls of the transport return. -/
inductive Error where
  | addressError (error : AddressError)
  | connectionDoesntExist (connectionId : ConnectionId)
  deriving DecidableEq, Repr

/-- `TcpAddress::multiaddr_to_socket_address`: the socket address, as the host and port a
connection's endpoint is written back to, and the peer of a `/p2p` right after the port. What
follows that `/p2p` is not read. -/
def multiaddrToSocketAddress : Multiaddr P → Except AddressError (Multiaddr P × Option P)
  | host :: .tcp port :: rest =>
    let hostOk := match host with
      | .ip4 _ | .ip6 _ | .dns _ | .dns4 _ | .dns6 _ => true
      | _ => false
    if !hostOk then .error .invalidProtocol
    else
      match rest with
      | [] => .ok ([host, .tcp port], none)
      | .p2p peer :: _ => .ok ([host, .tcp port], some peer)
      | _ => .error .invalidProtocol
  | _ => .error .invalidProtocol

/-- `TcpTransport`, by its maps and sets and the results its futures complete with. -/
structure TcpTransport (P : Type) where
  pendingConnections : List (Endpoint P)
  pendingRawConnections : List (ConnectionId × List (Multiaddr P))
  pendingDials : AList fun _ : ConnectionId => Multiaddr P
  pendingInboundConnections : AList fun _ : ConnectionId => Multiaddr P
  openedRaw : AList fun _ : ConnectionId => Multiaddr P
  pendingOpen : Finset ConnectionId
  canceled : Finset ConnectionId

namespace TcpTransport

def new : TcpTransport P := ⟨[], [], ∅, ∅, ∅, ∅, ∅⟩

/-- A transport with no future in flight and nothing waiting for the manager, with the dials and
cancellations it keeps. -/
def idle (pendingDials : AList fun _ : ConnectionId => Multiaddr P) (canceled : Finset ConnectionId) :
    TcpTransport P :=
  ⟨[], [], pendingDials, ∅, ∅, ∅, canceled⟩

/-- A dial or a negotiation of the connection at `address`: the address is pending and the
future that succeeds with the dialer's endpoint runs. -/
def pushDial (t : TcpTransport P) (connectionId : ConnectionId) (address socketAddress : Multiaddr P) :
    TcpTransport P :=
  { t with
    pendingDials := t.pendingDials.insert connectionId address
    pendingConnections := t.pendingConnections ++ [.dialer socketAddress connectionId] }

def dial (t : TcpTransport P) (connectionId : ConnectionId) (address : Multiaddr P) :
    TcpTransport P × Except Error Unit :=
  match multiaddrToSocketAddress address with
  | .error error => (t, .error (.addressError error))
  | .ok (socketAddress, _) => (t.pushDial connectionId address socketAddress, .ok ())

def accept (t : TcpTransport P) (connectionId : ConnectionId) : TcpTransport P × Except Error Unit :=
  ({ t with pendingOpen := t.pendingOpen.erase connectionId },
    if connectionId ∈ t.pendingOpen then .ok () else .error (.connectionDoesntExist connectionId))

/-- `TcpTransport::on_inbound_connection`: the handshake that succeeds with the listener's
endpoint runs. -/
def onInboundConnection (t : TcpTransport P) (connectionId : ConnectionId) (address : Multiaddr P) :
    TcpTransport P :=
  { t with pendingConnections := t.pendingConnections ++ [.listener address connectionId] }

def acceptPending (t : TcpTransport P) (connectionId : ConnectionId) :
    TcpTransport P × Except Error Unit :=
  let pending := t.pendingInboundConnections.lookup connectionId
  let t := { t with pendingInboundConnections := t.pendingInboundConnections.erase connectionId }
  match pending with
  | some address => (t.onInboundConnection connectionId address, .ok ())
  | none => (t, .error (.connectionDoesntExist connectionId))

def rejectPending (t : TcpTransport P) (connectionId : ConnectionId) :
    TcpTransport P × Except Error Unit :=
  ({ t with pendingInboundConnections := t.pendingInboundConnections.erase connectionId },
    if connectionId ∈ t.pendingInboundConnections then .ok ()
    else .error (.connectionDoesntExist connectionId))

def reject (t : TcpTransport P) (connectionId : ConnectionId) : TcpTransport P × Except Error Unit :=
  ({ t with pendingOpen := t.pendingOpen.erase connectionId },
    if connectionId ∈ t.pendingOpen then .ok () else .error (.connectionDoesntExist connectionId))

def «open» (t : TcpTransport P) (connectionId : ConnectionId) (addresses : List (Multiaddr P)) :
    TcpTransport P :=
  { t with pendingRawConnections := t.pendingRawConnections ++ [(connectionId, addresses)] }

/-- `Transport::negotiate`: the raw connection is taken out of `opened_raw` before its address is
checked, so a failed check loses it. -/
def negotiate (t : TcpTransport P) (connectionId : ConnectionId) : TcpTransport P × Except Error Unit :=
  match t.openedRaw.lookup connectionId with
  | none => (t, .error (.connectionDoesntExist connectionId))
  | some address =>
    let t := { t with openedRaw := t.openedRaw.erase connectionId }
    match multiaddrToSocketAddress address with
    | .error error => (t, .error (.addressError error))
    | .ok (socketAddress, _) => (t.pushDial connectionId address socketAddress, .ok ())

def cancel (t : TcpTransport P) (connectionId : ConnectionId) : TcpTransport P :=
  { t with canceled := insert connectionId t.canceled }

/-- `poll_next` on a connection of the listener, numbered by `next_connection_id`. -/
def onListenerConnection (t : TcpTransport P) (connectionId : ConnectionId) (address : Multiaddr P) :
    TcpTransport P × List (TransportEvent P) :=
  ({ t with pendingInboundConnections := t.pendingInboundConnections.insert connectionId address },
    [.pendingInboundConnection connectionId])

/-- `poll_next` on a completed open attempt, with the address it opened or none when all failed:
every completion takes its id out of `canceled`, and a cancelled attempt reports nothing. -/
def onRawConnection (t : TcpTransport P) (connectionId : ConnectionId) (result : Option (Multiaddr P)) :
    TcpTransport P × List (TransportEvent P) :=
  let wasCanceled := connectionId ∈ t.canceled
  let t := { t with canceled := t.canceled.erase connectionId }
  if wasCanceled then (t, [])
  else
    match result with
    | some address =>
      ({ t with openedRaw := t.openedRaw.insert connectionId address },
        [.connectionOpened connectionId address])
    | none => (t, [.openFailure connectionId])

/-- `poll_next` on a completed dial, negotiation or inbound handshake, with the remote peer or
none when it failed: only a failure takes the connection out of `pending_dials`. -/
def onConnection (t : TcpTransport P) (endpoint : Endpoint P) (result : Option P) :
    TcpTransport P × List (TransportEvent P) :=
  match result with
  | some peer =>
    ({ t with pendingOpen := insert endpoint.connectionId t.pendingOpen },
      [.connectionEstablished peer endpoint])
  | none =>
    match t.pendingDials.lookup endpoint.connectionId with
    | some address =>
      ({ t with pendingDials := t.pendingDials.erase endpoint.connectionId },
        [.dialFailure endpoint.connectionId address])
    | none => (t, [])

end TcpTransport

/-- What drives the transport: a call of the manager, a connection of the listener, or the
completion of one of its futures, named by the connection id it carries. -/
inductive Input (P : Type) where
  | dial (connectionId : ConnectionId) (address : Multiaddr P)
  | accept (connectionId : ConnectionId)
  | acceptPending (connectionId : ConnectionId)
  | rejectPending (connectionId : ConnectionId)
  | reject (connectionId : ConnectionId)
  | «open» (connectionId : ConnectionId) (addresses : List (Multiaddr P))
  | negotiate (connectionId : ConnectionId)
  | cancel (connectionId : ConnectionId)
  | listenerConnection (connectionId : ConnectionId) (address : Multiaddr P)
  | rawConnectionCompleted (connectionId : ConnectionId) (result : Option (Multiaddr P))
  | connectionCompleted (connectionId : ConnectionId) (result : Option P)
  deriving DecidableEq, Repr

/-- The connection id of the future an input starts in `pending_connections`: a dial, a
negotiation, or the handshake of an inbound connection the manager takes. -/
def Input.startsConnection : Input P → Option ConnectionId
  | .dial connectionId _ | .negotiate connectionId | .acceptPending connectionId => some connectionId
  | _ => none

/-- What the transport answers: an event of `poll_next`, or the error a call returns. -/
inductive Output (P : Type) where
  | event (event : TransportEvent P)
  | failed (error : Error)
  deriving DecidableEq, Repr

namespace TcpTransport

/-- A call's new state, and its error as an output. -/
def reply (r : TcpTransport P × Except Error Unit) : TcpTransport P × List (Output P) :=
  match r.2 with
  | .ok () => (r.1, [])
  | .error error => (r.1, [.failed error])

def events (r : TcpTransport P × List (TransportEvent P)) : TcpTransport P × List (Output P) :=
  (r.1, r.2.map .event)

/-- One input to the transport. A completion names the first future in flight with its connection
id, and an open attempt succeeds only on one of the addresses it tries; a completion of no such
future changes nothing. -/
def step (t : TcpTransport P) : Input P → TcpTransport P × List (Output P)
  | .dial connectionId address => reply (t.dial connectionId address)
  | .accept connectionId => reply (t.accept connectionId)
  | .acceptPending connectionId => reply (t.acceptPending connectionId)
  | .rejectPending connectionId => reply (t.rejectPending connectionId)
  | .reject connectionId => reply (t.reject connectionId)
  | .open connectionId addresses => (t.open connectionId addresses, [])
  | .negotiate connectionId => reply (t.negotiate connectionId)
  | .cancel connectionId => (t.cancel connectionId, [])
  | .listenerConnection connectionId address => events (t.onListenerConnection connectionId address)
  | .rawConnectionCompleted connectionId result =>
    match t.pendingRawConnections.find? (·.1 = connectionId) with
    | some future =>
      if result.all (· ∈ future.2) then
        events ({ t with pendingRawConnections := t.pendingRawConnections.erase future }
          |>.onRawConnection connectionId result)
      else (t, [])
    | none => (t, [])
  | .connectionCompleted connectionId result =>
    match t.pendingConnections.find? (·.connectionId = connectionId) with
    | some endpoint =>
      events ({ t with pendingConnections := t.pendingConnections.erase endpoint }
        |>.onConnection endpoint result)
    | none => (t, [])

section Fields

variable (t : TcpTransport P)

omit [DecidableEq P] in
@[simp] theorem reply_fst (r : TcpTransport P × Except Error Unit) : (reply r).1 = r.1 := by
  unfold reply; split <;> rfl

omit [DecidableEq P] in
@[simp] theorem events_fst (r : TcpTransport P × List (TransportEvent P)) : (events r).1 = r.1 := rfl

omit [DecidableEq P] in
@[simp] theorem onConnection_pendingConnections (e : Endpoint P) (r : Option P) :
    (t.onConnection e r).1.pendingConnections = t.pendingConnections := by
  unfold onConnection; split
  · rfl
  · split <;> rfl

omit [DecidableEq P] in
@[simp] theorem onConnection_pendingRawConnections (e : Endpoint P) (r : Option P) :
    (t.onConnection e r).1.pendingRawConnections = t.pendingRawConnections := by
  unfold onConnection; split
  · rfl
  · split <;> rfl

omit [DecidableEq P] in
@[simp] theorem onConnection_canceled (e : Endpoint P) (r : Option P) :
    (t.onConnection e r).1.canceled = t.canceled := by
  unfold onConnection; split
  · rfl
  · split <;> rfl

omit [DecidableEq P] in
@[simp] theorem onRawConnection_pendingConnections (c : ConnectionId) (r : Option (Multiaddr P)) :
    (t.onRawConnection c r).1.pendingConnections = t.pendingConnections := by
  unfold onRawConnection
  cases r <;> dsimp only <;> split <;> rfl

omit [DecidableEq P] in
@[simp] theorem onRawConnection_pendingRawConnections (c : ConnectionId) (r : Option (Multiaddr P)) :
    (t.onRawConnection c r).1.pendingRawConnections = t.pendingRawConnections := by
  unfold onRawConnection
  cases r <;> dsimp only <;> split <;> rfl

omit [DecidableEq P] in
@[simp] theorem onRawConnection_pendingDials (c : ConnectionId) (r : Option (Multiaddr P)) :
    (t.onRawConnection c r).1.pendingDials = t.pendingDials := by
  unfold onRawConnection
  cases r <;> dsimp only <;> split <;> rfl

omit [DecidableEq P] in
@[simp] theorem onRawConnection_canceled (c : ConnectionId) (r : Option (Multiaddr P)) :
    (t.onRawConnection c r).1.canceled = t.canceled.erase c := by
  unfold onRawConnection
  cases r <;> dsimp only <;> split <;> rfl

end Fields

section Frame

variable {t : TcpTransport P} {id : ConnectionId}

omit [DecidableEq P] in
theorem find?_pendingConnections {c : ConnectionId} {e : Endpoint P}
    (he : t.pendingConnections.find? (·.connectionId = c) = some e) :
    e ∈ t.pendingConnections ∧ e.connectionId = c :=
  ⟨List.mem_of_find?_eq_some he, by simpa using List.find?_some he⟩

omit [DecidableEq P] in
theorem find?_pendingRawConnections {c : ConnectionId} {f : ConnectionId × List (Multiaddr P)}
    (hf : t.pendingRawConnections.find? (·.1 = c) = some f) :
    f ∈ t.pendingRawConnections ∧ f.1 = c :=
  ⟨List.mem_of_find?_eq_some hf, by simpa using List.find?_some hf⟩

theorem mem_pendingDials_step (i : Input P) (h : id ∈ t.pendingDials) :
    id ∈ (t.step i).1.pendingDials ∨
      i = .connectionCompleted id none ∧ ∃ e ∈ t.pendingConnections, e.connectionId = id := by
  cases i with
  | dial c a =>
    left; simp only [step, reply_fst, dial]; split <;> simp [pushDial, AList.mem_insert, h]
  | negotiate c =>
    left; simp only [step, reply_fst, negotiate]; split
    · exact h
    · split <;> simp [pushDial, AList.mem_insert, h]
  | connectionCompleted c r =>
    simp only [step]
    split
    · rename_i e he
      obtain ⟨hmem, hc⟩ := find?_pendingConnections he
      simp only [events_fst, onConnection]
      split
      · exact .inl h
      · split
        · by_cases hid : id = e.connectionId
          · exact .inr ⟨by rw [← hc, ← hid], e, hmem, hid.symm⟩
          · exact .inl (AList.mem_erase.mpr ⟨hid, h⟩)
        · exact .inl h
    · exact .inl h
  | rawConnectionCompleted c r =>
    left; simp only [step]
    split
    · split
      · simpa using h
      · exact h
    · exact h
  | acceptPending c => left; simp only [step, reply_fst, acceptPending]; split <;> exact h
  | accept | rejectPending | reject => left; simpa [step, accept, rejectPending, reject] using h
  | «open» | cancel | listenerConnection => exact .inl h

theorem mem_pendingConnections_step (i : Input P) {e : Endpoint P}
    (h : e ∈ (t.step i).1.pendingConnections) :
    e ∈ t.pendingConnections ∨ i.startsConnection = some e.connectionId := by
  cases i with
  | dial c a =>
    simp only [step, reply_fst, dial] at h; split at h
    · exact .inl h
    · simp only [pushDial, List.mem_append, List.mem_singleton] at h
      rcases h with h | rfl
      · exact .inl h
      · exact .inr rfl
  | negotiate c =>
    simp only [step, reply_fst, negotiate] at h; split at h
    · exact .inl h
    · split at h
      · exact .inl h
      · simp only [pushDial, List.mem_append, List.mem_singleton] at h
        rcases h with h | rfl
        · exact .inl h
        · exact .inr rfl
  | acceptPending c =>
    simp only [step, reply_fst, acceptPending] at h; split at h
    · simp only [onInboundConnection, List.mem_append, List.mem_singleton] at h
      rcases h with h | rfl
      · exact .inl h
      · exact .inr rfl
    · exact .inl h
  | connectionCompleted c r =>
    simp only [step] at h; split at h
    · simp only [events_fst, onConnection_pendingConnections] at h
      exact .inl (List.mem_of_mem_erase h)
    · exact .inl h
  | rawConnectionCompleted c r =>
    simp only [step] at h; split at h
    · split at h
      · simp only [events_fst, onRawConnection_pendingConnections] at h
        exact .inl h
      · exact .inl h
    · exact .inl h
  | accept | rejectPending | reject => left; simpa [step, accept, rejectPending, reject] using h
  | «open» | cancel | listenerConnection => exact .inl h

theorem mem_canceled_step (i : Input P) (h : id ∈ t.canceled) :
    id ∈ (t.step i).1.canceled ∨ ∃ f ∈ t.pendingRawConnections, f.1 = id := by
  cases i with
  | rawConnectionCompleted c r =>
    simp only [step]; split
    · rename_i f hf
      obtain ⟨hmem, hc⟩ := find?_pendingRawConnections hf
      split
      · by_cases hid : id = c
        · exact .inr ⟨f, hmem, hc.trans hid.symm⟩
        · left; simp [Finset.mem_erase, hid, h]
      · exact .inl h
    · exact .inl h
  | cancel c => left; simp [step, cancel, h]
  | connectionCompleted c r =>
    left; simp only [step]; split
    · simpa using h
    · exact h
  | dial c a =>
    left; simp only [step, reply_fst, dial]; split
    · exact h
    · exact h
  | negotiate c =>
    left; simp only [step, reply_fst, negotiate]; split
    · exact h
    · split <;> exact h
  | acceptPending c => left; simp only [step, reply_fst, acceptPending]; split <;> exact h
  | accept | rejectPending | reject => left; simpa [step, accept, rejectPending, reject] using h
  | «open» | listenerConnection => exact .inl h

theorem mem_pendingRawConnections_step (i : Input P) {f : ConnectionId × List (Multiaddr P)}
    (h : f ∈ (t.step i).1.pendingRawConnections) :
    f ∈ t.pendingRawConnections ∨ i = .open f.1 f.2 := by
  cases i with
  | «open» c a =>
    simp only [step, «open», List.mem_append, List.mem_singleton] at h
    rcases h with h | rfl
    · exact .inl h
    · exact .inr rfl
  | rawConnectionCompleted c r =>
    simp only [step] at h; split at h
    · split at h
      · simp only [events_fst, onRawConnection_pendingRawConnections] at h
        exact .inl (List.mem_of_mem_erase h)
      · exact .inl h
    · exact .inl h
  | connectionCompleted c r =>
    simp only [step] at h; split at h
    · simpa using h
    · exact .inl h
  | dial c a =>
    simp only [step, reply_fst, dial] at h; split at h
    · exact .inl h
    · exact .inl h
  | negotiate c =>
    simp only [step, reply_fst, negotiate] at h; split at h
    · exact .inl h
    · split at h <;> exact .inl h
  | acceptPending c => simp only [step, reply_fst, acceptPending] at h; split at h <;> exact .inl h
  | accept | rejectPending | reject => left; simpa [step, accept, rejectPending, reject] using h
  | cancel | listenerConnection => exact .inl h

end Frame

section Runs

variable {t : TcpTransport P} {id : ConnectionId}

def DialStranded (id : ConnectionId) (t : TcpTransport P) : Prop :=
  id ∈ t.pendingDials ∧ ∀ e ∈ t.pendingConnections, e.connectionId ≠ id

def CancelStranded (id : ConnectionId) (t : TcpTransport P) : Prop :=
  id ∈ t.canceled ∧ ∀ f ∈ t.pendingRawConnections, f.1 ≠ id

theorem dialStranded_step (i : Input P) (hi : i.startsConnection ≠ some id)
    (h : DialStranded id t) : DialStranded id (t.step i).1 := by
  obtain ⟨hmem, hidle⟩ := h
  refine ⟨?_, fun e he => ?_⟩
  · rcases mem_pendingDials_step i hmem with hmem | ⟨-, e, he, hid⟩
    · exact hmem
    · exact absurd hid (hidle e he)
  · rcases mem_pendingConnections_step i he with he | hstart
    · exact hidle e he
    · rintro rfl
      exact hi hstart

theorem cancelStranded_step (i : Input P) (hi : ∀ addresses, i ≠ .open id addresses)
    (h : CancelStranded id t) : CancelStranded id (t.step i).1 := by
  obtain ⟨hmem, hidle⟩ := h
  refine ⟨?_, fun f hf => ?_⟩
  · rcases mem_canceled_step i hmem with hmem | ⟨f, hf, hid⟩
    · exact hmem
    · exact absurd hid (hidle f hf)
  · rcases mem_pendingRawConnections_step i hf with hf | hopen
    · exact hidle f hf
    · rintro rfl
      exact hi f.2 hopen

/-- A stranded dial stays in `pending_dials` through every run that starts no new future for its
connection, as a run the manager drives does not: it numbers connections from a counter. -/
theorem dialStranded_run (h : DialStranded id t) (is : List (Input P))
    (his : ∀ i ∈ is, i.startsConnection ≠ some id) : DialStranded id (Mealy.run step t is).1 :=
  (Mealy.run_inv_outputs (DialStranded id) (fun i => i.startsConnection ≠ some id) (fun _ => True)
    (fun _ i h hi => dialStranded_step i hi h) (fun _ _ _ _ _ _ => trivial) is t h his).1

theorem dialStranded_run_dial :
    DialStranded 0 (idle (AList.singleton 0 []) {0} : TcpTransport Nat) ∧
      (∀ i ∈ ([.dial 1 [], .cancel 0, .negotiate 1] : List (Input Nat)), i.startsConnection ≠ some 0) ∧
      DialStranded 0 (Mealy.run step (idle (AList.singleton 0 []) {0} : TcpTransport Nat)
        [.dial 1 [], .cancel 0, .negotiate 1]).1 :=
  have h : DialStranded 0 (idle (AList.singleton 0 []) {0} : TcpTransport Nat) :=
    ⟨AList.mem_keys.mp (List.mem_singleton_self 0), by simp [idle]⟩
  have his : ∀ i ∈ ([.dial 1 [], .cancel 0, .negotiate 1] : List (Input Nat)), i.startsConnection ≠ some 0 := by
    decide
  ⟨h, his, dialStranded_run h _ his⟩

/-- A stranded cancellation stays in `canceled` through every run that opens its connection no
more. -/
theorem cancelStranded_run (h : CancelStranded id t) (is : List (Input P))
    (his : ∀ i ∈ is, ∀ addresses, i ≠ .open id addresses) : CancelStranded id (Mealy.run step t is).1 :=
  (Mealy.run_inv_outputs (CancelStranded id) (fun i => ∀ addresses, i ≠ .open id addresses)
    (fun _ => True) (fun _ i h hi => cancelStranded_step i hi h) (fun _ _ _ _ _ _ => trivial)
    is t h his).1

theorem cancelStranded_run_cancel :
    CancelStranded 0 (idle ∅ {0} : TcpTransport Nat) ∧
      (∀ i ∈ ([.cancel 0, .open 1 [], .negotiate 0] : List (Input Nat)), ∀ addresses, i ≠ .open 0 addresses) ∧
      CancelStranded 0 (Mealy.run step (idle ∅ {0} : TcpTransport Nat) [.cancel 0, .open 1 [], .negotiate 0]).1 :=
  have h : CancelStranded 0 (idle ∅ {0} : TcpTransport Nat) := ⟨by simp [idle], by simp [idle]⟩
  have his : ∀ i ∈ ([.cancel 0, .open 1 [], .negotiate 0] : List (Input Nat)), ∀ addresses, i ≠ .open 0 addresses := by
    simp
  ⟨h, his, cancelStranded_run h _ his⟩

end Runs

end TcpTransport

/-- The calls and completions of one successful open of the connection `connectionId` at `address`
as the manager drives it: the attempt opens the address, `on_connection_opened` cancels the
attempt on every transport it runs on, this one included, and negotiates the connection, the
negotiation succeeds with `peer`, and `on_connection_established` accepts the connection. -/
def openRound (address : Multiaddr P) (peer : P) (connectionId : ConnectionId) : List (Input P) :=
  [.open connectionId [address], .rawConnectionCompleted connectionId (some address),
    .cancel connectionId, .negotiate connectionId, .connectionCompleted connectionId (some peer),
    .accept connectionId]

def tcpAddress : Multiaddr P := [.ip4 1, .tcp 30333]

namespace TcpTransport

theorem run_openRound {address socketAddress : Multiaddr P} {peer? : Option P}
    (haddress : multiaddrToSocketAddress address = .ok (socketAddress, peer?)) (peer : P)
    (pendingDials : AList fun _ : ConnectionId => Multiaddr P) {canceled : Finset ConnectionId}
    {connectionId : ConnectionId} (hfresh : connectionId ∉ canceled) :
    (Mealy.run step (idle pendingDials canceled) (openRound address peer connectionId)).1 =
      idle (pendingDials.insert connectionId address) (insert connectionId canceled) := by
  have hraw : (step ⟨[], [(connectionId, [address])], pendingDials, ∅, ∅, ∅, canceled⟩
      (.rawConnectionCompleted connectionId (some address))).1 =
      ⟨[], [], pendingDials, ∅, .singleton connectionId address, ∅, canceled⟩ := by
    simp [step, onRawConnection, hfresh]
  have hnegotiate : (step ⟨[], [], pendingDials, ∅, .singleton connectionId address, ∅,
      insert connectionId canceled⟩ (.negotiate connectionId)).1 =
      ⟨[.dialer socketAddress connectionId], [], pendingDials.insert connectionId address, ∅, ∅, ∅,
        insert connectionId canceled⟩ := by
    simp [step, negotiate, haddress, pushDial]
  have hestablished : (step ⟨[.dialer socketAddress connectionId], [],
      pendingDials.insert connectionId address, ∅, ∅, ∅, insert connectionId canceled⟩
      (.connectionCompleted connectionId (some peer))).1 =
      ⟨[], [], pendingDials.insert connectionId address, ∅, ∅, {connectionId},
        insert connectionId canceled⟩ := by
    simp [step, onConnection, Endpoint.connectionId]
  have haccept : (step ⟨[], [], pendingDials.insert connectionId address, ∅, ∅, {connectionId},
      insert connectionId canceled⟩ (.accept connectionId)).1 =
      idle (pendingDials.insert connectionId address) (insert connectionId canceled) := by
    simp [step, accept, idle]
  simp only [openRound, Mealy.run_cons, Mealy.run_nil]
  rw [show (step (idle pendingDials canceled) (.open connectionId [address])).1 =
    ⟨[], [(connectionId, [address])], pendingDials, ∅, ∅, ∅, canceled⟩ from rfl, hraw,
    show (step ⟨[], [], pendingDials, ∅, .singleton connectionId address, ∅, canceled⟩
      (.cancel connectionId)).1 =
      ⟨[], [], pendingDials, ∅, .singleton connectionId address, ∅, insert connectionId canceled⟩ from rfl,
    hnegotiate, hestablished, haccept]

end TcpTransport

/-- After `n` successful opens of the connections `0` to `n - 1`, the transport is idle, with no
future left to complete any of them, yet each of the `n` connections is still in `pending_dials`
and in `canceled`. -/
theorem pendingDials_canceled_grow (peer : P) (n : Nat) :
    ∃ pendingDials, (Mealy.run TcpTransport.step TcpTransport.new
        ((List.range n).flatMap (openRound tcpAddress peer))).1 =
      TcpTransport.idle pendingDials (Finset.range n) ∧
      ∀ connectionId, connectionId ∈ pendingDials ↔ connectionId < n := by
  induction n with
  | zero => exact ⟨∅, rfl, by simp⟩
  | succ n ih =>
    obtain ⟨pendingDials, hrun, hmem⟩ := ih
    have hround := TcpTransport.run_openRound (rfl : multiaddrToSocketAddress (tcpAddress : Multiaddr P) = _)
      peer pendingDials (Finset.notMem_range_self (n := n))
    refine ⟨pendingDials.insert n tcpAddress, ?_, fun connectionId => ?_⟩
    · rw [List.range_succ, List.flatMap_append, Mealy.run_append, hrun, List.flatMap_singleton,
        hround, Finset.range_add_one]
    · rw [AList.mem_insert, hmem, Nat.lt_add_one_iff_lt_or_eq, or_comm]

end Litep2p.Tcp
