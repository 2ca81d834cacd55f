import Mathlib
import Litep2p.Lib.Mealy

/-!
# The peer state machine of the notification protocol

`protocol/notification/mod.rs`. The protocol keeps a `PeerState` per peer and moves it on the
events of its transport service (connections, substreams, dial failures), on the user's commands
and answers to inbound substreams, on the handshakes its `HandshakeService` completes or fails,
on its timers, and on the shutdown messages of the `Connection` tasks it started. A handler takes
the state out with `mem::replace(.., Poisoned)` and writes one back on each arm; an arm that
writes none leaves the peer `Poisoned`.

Substreams, handshakes and protocol names are left out. A substream is known by its id where the
protocol reads the id, and the `HandshakeService` by the peers and directions it negotiates. An
event that makes the handler call the transport service carries the service's answer: whether
`dial` and `open_substream` succeed; a substream the service opens takes the next id. The outputs
are what the protocol reports to its user, and each `debug_assert!(false)` it reaches.
-/

namespace Litep2p.Notification

abbrev SubstreamId := Nat

/-- `Direction`, also the direction of a handshake. -/
inductive Direction where
  | inbound
  | outbound
  deriving DecidableEq, Repr

inductive ConnectionState where
  | open
  | closed
  deriving DecidableEq, Repr

/-- `InboundState`, without the substreams it holds. -/
inductive InboundState where
  | closed
  | readingHandshake
  | validating
  | sendingHandshake
  | open
  deriving DecidableEq, Repr

/-- `OutboundState`, without the substream and handshake of `Open`. -/
inductive OutboundState where
  | closed
  | outboundInitiated (substream : SubstreamId)
  | negotiating
  | open
  deriving DecidableEq, Repr

def OutboundState.pendingOpen : OutboundState → Option SubstreamId
  | .outboundInitiated substream => some substream
  | _ => none

def OutboundState.isClosed : OutboundState → Bool
  | .closed => true
  | _ => false

/-- `PeerState`, without the names of `Validating` and the shutdown sender of `Open`. -/
inductive PeerState where
  | poisoned
  | validationPending (state : ConnectionState)
  | closed (pendingOpen : Option SubstreamId)
  | dialing
  | outboundInitiated (substream : SubstreamId)
  | validating (outbound : OutboundState) (inbound : InboundState) (direction : Direction)
  | open
  deriving DecidableEq, Repr

/-- `NotificationError`, by the variants the protocol reports. -/
inductive NotificationError where
  | rejected
  | noConnection
  | validationPending
  | dialFailure
  deriving DecidableEq, Repr

inductive ValidationResult where
  | accept
  | reject
  deriving DecidableEq, Repr

/-- `HandshakeEvent`, by its direction. -/
inductive HandshakeEvent where
  | negotiated (direction : Direction)
  | negotiationError (direction : Direction)
  deriving DecidableEq, Repr

/-- What the protocol reports to its user, and a `debug_assert!(false)` reached. -/
inductive Output (P : Type) where
  | notificationStreamOpened (peer : P) (direction : Direction)
  | notificationStreamOpenFailure (peer : P) (error : NotificationError)
  | inboundSubstream (peer : P)
  | debugAssertFailed
  deriving DecidableEq, Repr

/-- `NotificationProtocol`, by the fields its handlers read. -/
structure NotificationProtocol (P : Type) where
  autoAccept : Bool
  shouldDial : Bool
  peers : AList fun _ : P => PeerState
  pendingOutbound : AList fun _ : SubstreamId => P
  negotiation : List (P × Direction)
  nextSubstreamId : SubstreamId

variable {P : Type} [DecidableEq P]

namespace NotificationProtocol

def new (autoAccept shouldDial : Bool) : NotificationProtocol P :=
  ⟨autoAccept, shouldDial, ∅, ∅, [], 0⟩

def setPeer (s : NotificationProtocol P) (peer : P) (state : PeerState) : NotificationProtocol P :=
  { s with peers := s.peers.insert peer state }

def erasePeer (s : NotificationProtocol P) (peer : P) : NotificationProtocol P :=
  { s with peers := s.peers.erase peer }

def addPending (s : NotificationProtocol P) (substream : SubstreamId) (peer : P) :
    NotificationProtocol P :=
  { s with pendingOutbound := s.pendingOutbound.insert substream peer }

def negotiate (s : NotificationProtocol P) (peer : P) (direction : Direction) :
    NotificationProtocol P :=
  { s with negotiation := s.negotiation.insert (peer, direction) }

def removeNegotiation (s : NotificationProtocol P) (peer : P) (direction : Direction) :
    NotificationProtocol P :=
  { s with negotiation := s.negotiation.erase (peer, direction) }

/-- `TransportService::open_substream`, when the service opens one: the next substream id. -/
def openSubstream (s : NotificationProtocol P) (opened : Bool) :
    Option (SubstreamId × NotificationProtocol P) :=
  if opened then some (s.nextSubstreamId, { s with nextSubstreamId := s.nextSubstreamId + 1 })
  else none

def onOpenSubstream (s : NotificationProtocol P) (peer : P) (dialed opened : Bool) :
    NotificationProtocol P × List (Output P) :=
  match s.peers.lookup peer with
  | none =>
    if !s.shouldDial then (s, [.notificationStreamOpenFailure peer .dialFailure])
    else if dialed then (s.setPeer peer .dialing, [])
    else (s, [.notificationStreamOpenFailure peer .dialFailure])
  | some (.closed (some substream)) =>
    ((s.addPending substream peer).setPeer peer (.outboundInitiated substream), [])
  | some (.closed none) =>
    match s.openSubstream opened with
    | some (substream, s) => ((s.addPending substream peer).setPeer peer (.outboundInitiated substream), [])
    | none => (s.setPeer peer (.closed none), [.notificationStreamOpenFailure peer .noConnection])
  | some (.validationPending _) => (s, [.notificationStreamOpenFailure peer .validationPending])
  | some _ => (s, [])

def onConnectionEstablished (s : NotificationProtocol P) (peer : P) (opened : Bool) :
    NotificationProtocol P × List (Output P) :=
  match s.peers.lookup peer with
  | none => (s.setPeer peer (.closed none), [])
  | some .dialing => (s.setPeer peer (.closed none)).onOpenSubstream peer false opened
  -- `debug_assert_eq!(state, ConnectionState::Closed)`
  | some (.validationPending state) =>
    (s.setPeer peer (.validationPending .open), if state = .closed then [] else [.debugAssertFailed])
  | some _ => (s.setPeer peer .poisoned, [.debugAssertFailed])

def onConnectionClosed (s : NotificationProtocol P) (peer : P) :
    NotificationProtocol P × List (Output P) :=
  match s.peers.lookup peer with
  | none => (s, [.debugAssertFailed])
  | some state =>
    let s := ((s.erasePeer peer).removeNegotiation peer .outbound).removeNegotiation peer .inbound
    match state with
    | .outboundInitiated _ => (s, [.notificationStreamOpenFailure peer .rejected])
    | .validating .closed .validating _ => (s.setPeer peer (.validationPending .closed), [])
    | .validating .closed _ _ => (s, [])
    | .validating _ _ _ => (s, [.notificationStreamOpenFailure peer .rejected])
    | .validationPending _ => (s.setPeer peer (.validationPending .closed), [])
    | _ => (s, [])

def onOutboundSubstream (s : NotificationProtocol P) (peer : P) (substreamId : SubstreamId) :
    NotificationProtocol P × List (Output P) :=
  match s.peers.lookup peer with
  | none => (s, [.debugAssertFailed])
  | some state =>
    let s := { s with pendingOutbound := s.pendingOutbound.erase substreamId }
    match state with
    | .outboundInitiated _ =>
      ((s.negotiate peer .outbound).setPeer peer (.validating .negotiating .closed .outbound), [])
    | .validating outbound inbound direction =>
      match inbound, outbound with
      | .sendingHandshake, _ | .open, _ | _, .outboundInitiated _ =>
        ((s.negotiate peer .outbound).setPeer peer (.validating .negotiating inbound direction), [])
      | _, _ => (s.setPeer peer .poisoned, [.debugAssertFailed])
    | .closed (some pending) =>
      if pending = substreamId then (s.setPeer peer (.closed none), [])
      else (s.setPeer peer .poisoned, [.debugAssertFailed])
    | _ => (s.setPeer peer .poisoned, [.debugAssertFailed])

def onInboundSubstream (s : NotificationProtocol P) (peer : P) :
    NotificationProtocol P × List (Output P) :=
  match s.peers.lookup peer with
  | none => (s, [.debugAssertFailed])
  | some state =>
    match state with
    | .validationPending _ | .closed (some _) => (s, [])
    | .closed none =>
      ((s.negotiate peer .inbound).setPeer peer (.validating .closed .readingHandshake .inbound), [])
    | .validating outbound .closed direction =>
      ((s.negotiate peer .inbound).setPeer peer (.validating outbound .readingHandshake direction), [])
    | .outboundInitiated substream =>
      ((s.negotiate peer .inbound).setPeer peer
        (.validating (.outboundInitiated substream) .readingHandshake .outbound), [])
    | .validating .closed .validating _ => (s.setPeer peer (.validationPending .open), [])
    | _ => (s, [])

def onSubstreamOpenFailure (s : NotificationProtocol P) (substreamId : SubstreamId) :
    NotificationProtocol P × List (Output P) :=
  match s.pendingOutbound.lookup substreamId with
  | none => (s, [.debugAssertFailed])
  | some peer =>
    let s := { s with pendingOutbound := s.pendingOutbound.erase substreamId }
    match s.peers.lookup peer with
    | none => (s, [.debugAssertFailed])
    | some state =>
      match state with
      | .outboundInitiated _ =>
        (s.setPeer peer (.closed none), [.notificationStreamOpenFailure peer .rejected])
      | .validating outbound _ _ =>
        let s := (s.removeNegotiation peer .inbound).removeNegotiation peer .outbound
        match outbound with
        | .closed => (s.setPeer peer (.closed none), [])
        | .outboundInitiated substream =>
          (s.setPeer peer (.closed (some substream)), [.notificationStreamOpenFailure peer .rejected])
        | .negotiating | .open =>
          (s.setPeer peer (.closed none), [.notificationStreamOpenFailure peer .rejected])
      | .closed _ => (s.setPeer peer (.closed none), [])
      | _ => (s.setPeer peer (.closed none), [.debugAssertFailed])

def onCloseSubstream (s : NotificationProtocol P) (peer : P) :
    NotificationProtocol P × List (Output P) :=
  match s.peers.lookup peer with
  | some .open => (s.setPeer peer (.closed none), [])
  | _ => (s, [])

def onValidationResult (s : NotificationProtocol P) (peer : P) (result : ValidationResult)
    (opened : Bool) : NotificationProtocol P × List (Output P) :=
  match s.peers.lookup peer with
  | some (.validating outbound .validating direction) =>
    match result with
    | .reject =>
      (((s.removeNegotiation peer .outbound).removeNegotiation peer .inbound).setPeer peer
        (.closed outbound.pendingOpen), [])
    | .accept =>
      match outbound with
      | .closed =>
        match s.openSubstream opened with
        | some (substream, s) =>
          (((s.negotiate peer .inbound).addPending substream peer).setPeer peer
            (.validating (.outboundInitiated substream) .sendingHandshake direction), [])
        | none => (s.setPeer peer (.closed none), [.notificationStreamOpenFailure peer .rejected])
      | _ => ((s.negotiate peer .inbound).setPeer peer (.validating outbound .sendingHandshake direction), [])
  | some (.validationPending .open) =>
    (s.setPeer peer (.closed none),
      if result = .accept then [.notificationStreamOpenFailure peer .rejected] else [])
  | some (.validationPending .closed) =>
    (s.erasePeer peer,
      if result = .accept then [.notificationStreamOpenFailure peer .noConnection] else [])
  | _ => (s, [])

/-- The match that ends `on_handshake_event`: a peer with both substreams open gets its
`Connection` and is reported open; any other state is written back, and a timer starts. -/
def completeOpen (s : NotificationProtocol P) (peer : P) (state : PeerState)
    (outputs : List (Output P)) : NotificationProtocol P × List (Output P) :=
  match state with
  | .validating .open .open direction =>
    (s.setPeer peer .open, outputs ++ [.notificationStreamOpened peer direction])
  | state => (s.setPeer peer state, outputs)

def onHandshakeEvent (s : NotificationProtocol P) (peer : P) (event : HandshakeEvent) :
    NotificationProtocol P × List (Output P) :=
  match s.peers.lookup peer with
  | none => (s, [.debugAssertFailed])
  | some state =>
    match event with
    | .negotiated .outbound =>
      let s := s.removeNegotiation peer .outbound
      match state with
      | .validating .negotiating inbound direction =>
        s.completeOpen peer (.validating .open inbound direction) []
      | _ => s.completeOpen peer .poisoned [.debugAssertFailed]
    | .negotiated .inbound =>
      let s := s.removeNegotiation peer .inbound
      match state with
      | .validating outbound .readingHandshake direction =>
        if !outbound.isClosed && s.autoAccept then
          ((s.negotiate peer .inbound).setPeer peer (.validating outbound .sendingHandshake direction), [])
        else s.completeOpen peer (.validating outbound .validating direction) [.inboundSubstream peer]
      | .validating outbound .sendingHandshake direction =>
        s.completeOpen peer (.validating outbound .open direction) []
      | _ => s.completeOpen peer .poisoned [.debugAssertFailed]
    | .negotiationError _ =>
      let s := (s.removeNegotiation peer .outbound).removeNegotiation peer .inbound
      match state with
      | .validating outbound _ _ =>
        if !outbound.isClosed then
          (s.setPeer peer (.closed outbound.pendingOpen), [.notificationStreamOpenFailure peer .rejected])
        else s.completeOpen peer (.closed outbound.pendingOpen) []
      | _ => s.completeOpen peer .poisoned [.debugAssertFailed]

def onDialFailure (s : NotificationProtocol P) (peer : P) :
    NotificationProtocol P × List (Output P) :=
  match s.peers.lookup peer with
  | some .dialing => (s.erasePeer peer, [.notificationStreamOpenFailure peer .dialFailure])
  | _ => (s, [])

/-- A `Connection` task's shutdown message, as `next_event` handles it. -/
def onShutdown (s : NotificationProtocol P) (peer : P) : NotificationProtocol P × List (Output P) :=
  match s.peers.lookup peer with
  | some _ => (s.setPeer peer (.closed none), [])
  | none => (s, [])

/-- An expired timer, as `next_event` handles it: an outbound substream open alone for five
seconds is closed, and the connection force-closed. -/
def onTimer (s : NotificationProtocol P) (peer : P) : NotificationProtocol P × List (Output P) :=
  match s.peers.lookup peer with
  | some (.validating .open .closed _) =>
    (s.setPeer peer (.closed none), [.notificationStreamOpenFailure peer .rejected])
  | _ => (s, [])

end NotificationProtocol

/-- What `next_event` takes. An event that makes the handler call `dial` or `open_substream`
carries whether the call succeeds. -/
inductive Input (P : Type) where
  | connectionEstablished (peer : P) (opened : Bool)
  | connectionClosed (peer : P)
  | inboundSubstream (peer : P)
  | outboundSubstream (peer : P) (substream : SubstreamId)
  | substreamOpenFailure (substream : SubstreamId)
  | dialFailure (peer : P)
  | openSubstream (peer : P) (dialed opened : Bool)
  | closeSubstream (peer : P)
  | validationResult (peer : P) (result : ValidationResult) (opened : Bool)
  | handshakeEvent (peer : P) (event : HandshakeEvent)
  | timer (peer : P)
  | shutdown (peer : P)
  deriving DecidableEq, Repr

namespace NotificationProtocol

/-- One turn of `NotificationProtocol::next_event`. -/
def step (s : NotificationProtocol P) : Input P → NotificationProtocol P × List (Output P)
  | .connectionEstablished peer opened => s.onConnectionEstablished peer opened
  | .connectionClosed peer => s.onConnectionClosed peer
  | .inboundSubstream peer => s.onInboundSubstream peer
  | .outboundSubstream peer substream => s.onOutboundSubstream peer substream
  | .substreamOpenFailure substream => s.onSubstreamOpenFailure substream
  | .dialFailure peer => s.onDialFailure peer
  | .openSubstream peer dialed opened => s.onOpenSubstream peer dialed opened
  | .closeSubstream peer => s.onCloseSubstream peer
  | .validationResult peer result opened => s.onValidationResult peer result opened
  | .handshakeEvent peer event => s.onHandshakeEvent peer event
  | .timer peer => s.onTimer peer
  | .shutdown peer => s.onShutdown peer

/-- Peer 7 connects; the user opens a substream, both substreams are negotiated and the
`Connection` starts. The remote closes the substreams, so the `Connection` ends and sends its
shutdown message; before the protocol reads it, the user closes the substream and opens a new one.
The late shutdown message turns the new attempt into `Closed`, and when its outbound substream
opens the handler reaches `debug_assert!(false)` and leaves the peer `Poisoned`. -/
theorem late_shutdown_poisons_peer :
    (let r := Mealy.run step (new true true : NotificationProtocol Nat)
      [.connectionEstablished 7 true, .openSubstream 7 true true, .outboundSubstream 7 0,
        .handshakeEvent 7 (.negotiated .outbound), .inboundSubstream 7,
        .handshakeEvent 7 (.negotiated .inbound), .handshakeEvent 7 (.negotiated .inbound),
        .closeSubstream 7, .openSubstream 7 true true, .shutdown 7, .outboundSubstream 7 1]
    r.1.peers.lookup 7 = some .poisoned ∧
      r.2 = [.notificationStreamOpened 7 .outbound, .debugAssertFailed]) := by
  decide

end NotificationProtocol

/-! ## Each open attempt is reported once

A report of an open attempt for a peer is a `NotificationStreamOpened` or a
`NotificationStreamOpenFailure` for it; a request is the user's `OpenSubstream` for it or the
user's acceptance of its inbound substream. After a report the peer is idle: no attempt the user
asked for or accepted is under way, and an idle peer stays idle and unreported until a request
comes. So between two reports for a peer there is a request for it. -/

/-- A report of the outcome of an open attempt for `peer`. -/
@[simp] def Output.reportsOpen (peer : P) : Output P → Bool
  | .notificationStreamOpened p _ | .notificationStreamOpenFailure p _ => p == peer
  | _ => false

def Output.About (q : P) : Output P → Prop
  | .notificationStreamOpened p _ | .notificationStreamOpenFailure p _ | .inboundSubstream p => p = q
  | .debugAssertFailed => True

theorem Output.About.reportsOpen_ne {q p : P} {o : Output P} (h : o.About q) (hp : p ≠ q) :
    o.reportsOpen p = false := by
  cases o with
  | notificationStreamOpened p' _ | notificationStreamOpenFailure p' _ =>
    have hp' : p' = q := h
    simpa [hp'] using Ne.symm hp
  | inboundSubstream _ | debugAssertFailed => rfl

/-- A request to open a substream to `peer`: the user's command, or the user's acceptance of an
inbound substream from it. -/
def Input.requestsOpen (peer : P) : Input P → Bool
  | .openSubstream p _ _ => p == peer
  | .validationResult p .accept _ => p == peer
  | _ => false

/-- An inbound substream the user has not accepted. -/
@[simp] def InboundState.unaccepted : InboundState → Bool
  | .closed | .readingHandshake | .validating => true
  | .sendingHandshake | .open => false

/-- No open attempt that the user asked for or accepted is under way. -/
@[simp] def PeerState.idle : PeerState → Bool
  | .closed _ | .validationPending _ | .open | .poisoned => true
  | .validating outbound inbound _ => outbound.isClosed && inbound.unaccepted
  | .dialing | .outboundInitiated _ => false

attribute [simp] OutboundState.isClosed

namespace NotificationProtocol

def idleAt (s : NotificationProtocol P) (peer : P) : Bool := (s.peers.lookup peer).all PeerState.idle

@[simp] theorem setPeer_peers (s : NotificationProtocol P) (peer : P) (state : PeerState) :
    (s.setPeer peer state).peers = s.peers.insert peer state := rfl

@[simp] theorem erasePeer_peers (s : NotificationProtocol P) (peer : P) :
    (s.erasePeer peer).peers = s.peers.erase peer := rfl

omit [DecidableEq P] in
@[simp] theorem addPending_peers (s : NotificationProtocol P) (substream : SubstreamId) (peer : P) :
    (s.addPending substream peer).peers = s.peers := rfl

@[simp] theorem negotiate_peers (s : NotificationProtocol P) (peer : P) (direction : Direction) :
    (s.negotiate peer direction).peers = s.peers := rfl

@[simp] theorem removeNegotiation_peers (s : NotificationProtocol P) (peer : P)
    (direction : Direction) : (s.removeNegotiation peer direction).peers = s.peers := rfl

omit [DecidableEq P] in
@[simp] theorem openSubstream_false (s : NotificationProtocol P) : s.openSubstream false = none := rfl

omit [DecidableEq P] in
@[simp] theorem openSubstream_true (s : NotificationProtocol P) :
    s.openSubstream true = some (s.nextSubstreamId, { s with nextSubstreamId := s.nextSubstreamId + 1 }) :=
  rfl

/-- A turn that handles `peer` leaves every other peer's state as it was and reports for no
other peer. -/
structure Handles (peer : P) (s : NotificationProtocol P)
    (r : NotificationProtocol P × List (Output P)) : Prop where
  lookup_ne : ∀ p, p ≠ peer → r.1.peers.lookup p = s.peers.lookup p
  reports_ne : ∀ p, p ≠ peer → ∀ o ∈ r.2, o.reportsOpen p = false

/-- What a turn does to the reports for `peer`: without a request it keeps an idle peer idle and
reports nothing for it, and a report leaves the peer idle. -/
structure Respects (peer : P) (s : NotificationProtocol P)
    (r : NotificationProtocol P × List (Output P)) (request : Bool) : Prop where
  keeps : s.idleAt peer → request = false →
    r.1.idleAt peer ∧ ∀ o ∈ r.2, o.reportsOpen peer = false
  settles : (∃ o ∈ r.2, o.reportsOpen peer) → r.1.idleAt peer

theorem Handles.respects {q p : P} {s : NotificationProtocol P}
    {r : NotificationProtocol P × List (Output P)} (h : Handles q s r) (hp : p ≠ q)
    (request : Bool) : Respects p s r request where
  keeps hidle _ := ⟨by rw [idleAt, h.lookup_ne p hp]; exact hidle, h.reports_ne p hp⟩
  settles := by
    rintro ⟨o, ho, hrep⟩
    rw [h.reports_ne p hp o ho] at hrep
    cases hrep

/-- A handler of one peer respects the reports of every peer: of its own by `hself`, of the
others by `Handles`. -/
theorem respects_of_handles {q p : P} {s : NotificationProtocol P}
    {r : NotificationProtocol P × List (Output P)} {request : Bool} (h : Handles q s r)
    (hself : q = p → Respects p s r request) : Respects p s r request := by
  by_cases hq : q = p
  · exact hself hq
  · exact h.respects (Ne.symm hq) request

/-! ### The frame of a handler

A handler writes the state of its own peer only, with `setPeer` and `erasePeer`, and reports only
about it. -/

section Frame

variable {s t : NotificationProtocol P} {q : P} {outs : List (Output P)}

theorem lookup_setPeer_ne {p : P} (hp : p ≠ q) (state : PeerState) :
    (s.setPeer q state).peers.lookup p = s.peers.lookup p :=
  AList.lookup_insert_ne hp

theorem lookup_erasePeer_ne {p : P} (hp : p ≠ q) : (s.erasePeer q).peers.lookup p = s.peers.lookup p :=
  AList.lookup_erase_ne hp

theorem Handles.of_peers (hpeers : t.peers = s.peers) (houts : ∀ o ∈ outs, o.About q) :
    Handles q s (t, outs) :=
  ⟨fun _ _ => by rw [hpeers], fun _ hp o ho => (houts o ho).reportsOpen_ne hp⟩

theorem Handles.setPeer (h : Handles q s (t, outs)) (state : PeerState) :
    Handles q s (t.setPeer q state, outs) :=
  ⟨fun p hp => (lookup_setPeer_ne hp state).trans (h.lookup_ne p hp), h.reports_ne⟩

theorem Handles.erasePeer (h : Handles q s (t, outs)) : Handles q s (t.erasePeer q, outs) :=
  ⟨fun p hp => (lookup_erasePeer_ne hp).trans (h.lookup_ne p hp), h.reports_ne⟩

theorem Handles.removeNegotiation (h : Handles q s (t, outs)) (p : P) (direction : Direction) :
    Handles q s (t.removeNegotiation p direction, outs) :=
  ⟨h.lookup_ne, h.reports_ne⟩

theorem Handles.of_frame {r : NotificationProtocol P × List (Output P)}
    (hframe : ∀ p, p ≠ q → t.peers.lookup p = s.peers.lookup p) (h : Handles q t r) : Handles q s r :=
  ⟨fun p hp => (h.lookup_ne p hp).trans (hframe p hp), h.reports_ne⟩

theorem Handles.completeOpen (hpeers : t.peers = s.peers) (houts : ∀ o ∈ outs, o.About q)
    (state : PeerState) : Handles q s (t.completeOpen q state outs) := by
  unfold NotificationProtocol.completeOpen
  split
  · refine (Handles.of_peers hpeers fun o ho => ?_).setPeer _
    rcases List.mem_append.mp ho with ho | ho
    · exact houts o ho
    · rw [List.mem_singleton.mp ho]
      rfl
  · exact (Handles.of_peers hpeers houts).setPeer _

omit [DecidableEq P] in
theorem about_nil : ∀ o ∈ ([] : List (Output P)), o.About q := fun _ h => absurd h List.not_mem_nil

omit [DecidableEq P] in
theorem about_failure (e : NotificationError) : ∀ o ∈ [Output.notificationStreamOpenFailure q e], o.About q :=
  fun _ h => by rw [List.mem_singleton.mp h]; rfl

omit [DecidableEq P] in
theorem about_debugAssert : ∀ o ∈ ([.debugAssertFailed] : List (Output P)), o.About q :=
  fun _ h => by rw [List.mem_singleton.mp h]; trivial

end Frame

section Handlers

variable (s : NotificationProtocol P) (q : P)

/-! Each handler touches the peer it is called for and no other; the cases are the arms of the
handler, in order. -/

theorem onOpenSubstream_handles (dialed opened : Bool) :
    Handles q s (s.onOpenSubstream q dialed opened) := by
  unfold onOpenSubstream
  split
  · split_ifs
    · exact .of_peers (by rfl) (about_failure _)
    · exact Handles.setPeer (.of_peers (by rfl) about_nil) _
    · exact .of_peers (by rfl) (about_failure _)
  · exact Handles.setPeer (.of_peers (by rfl) about_nil) _
  · cases opened <;> simp only [openSubstream_true, openSubstream_false]
    · exact Handles.setPeer (.of_peers (by rfl) (about_failure _)) _
    · exact Handles.setPeer (.of_peers (by rfl) about_nil) _
  · exact .of_peers (by rfl) (about_failure _)
  · exact .of_peers (by rfl) about_nil

theorem onConnectionEstablished_handles (opened : Bool) :
    Handles q s (s.onConnectionEstablished q opened) := by
  unfold onConnectionEstablished
  split
  · exact Handles.setPeer (.of_peers (by rfl) about_nil) _
  · exact .of_frame (fun p hp => lookup_setPeer_ne hp _) (onOpenSubstream_handles _ q false opened)
  · split_ifs
    · exact Handles.setPeer (.of_peers (by rfl) about_nil) _
    · exact Handles.setPeer (.of_peers (by rfl) about_debugAssert) _
  · exact Handles.setPeer (.of_peers (by rfl) about_debugAssert) _

theorem onConnectionClosed_handles : Handles q s (s.onConnectionClosed q) := by
  unfold onConnectionClosed
  split
  · exact .of_peers (by rfl) about_debugAssert
  have herase : ∀ outs : List (Output P), (∀ o ∈ outs, o.About q) →
      Handles q s (((s.erasePeer q).removeNegotiation q .outbound).removeNegotiation q .inbound, outs) :=
    fun _ houts => ((Handles.erasePeer (.of_peers (by rfl) houts)).removeNegotiation q .outbound).removeNegotiation q .inbound
  split
  · exact herase _ (about_failure _)
  · exact Handles.setPeer (herase _ about_nil) _
  · exact herase _ about_nil
  · exact herase _ (about_failure _)
  · exact Handles.setPeer (herase _ about_nil) _
  · exact herase _ about_nil

theorem onInboundSubstream_handles : Handles q s (s.onInboundSubstream q) := by
  unfold onInboundSubstream
  split
  · exact .of_peers (by rfl) about_debugAssert
  · split
    · exact .of_peers (by rfl) about_nil
    · exact .of_peers (by rfl) about_nil
    · exact Handles.setPeer (.of_peers (by rfl) about_nil) _
    · exact Handles.setPeer (.of_peers (by rfl) about_nil) _
    · exact Handles.setPeer (.of_peers (by rfl) about_nil) _
    · exact Handles.setPeer (.of_peers (by rfl) about_nil) _
    · exact .of_peers (by rfl) about_nil

theorem onOutboundSubstream_handles (substreamId : SubstreamId) :
    Handles q s (s.onOutboundSubstream q substreamId) := by
  unfold onOutboundSubstream
  split
  · exact .of_peers (by rfl) about_debugAssert
  · split
    · exact Handles.setPeer (.of_peers (by rfl) about_nil) _
    · split
      · exact Handles.setPeer (.of_peers (by rfl) about_nil) _
      · exact Handles.setPeer (.of_peers (by rfl) about_nil) _
      · exact Handles.setPeer (.of_peers (by rfl) about_nil) _
      · exact Handles.setPeer (.of_peers (by rfl) about_debugAssert) _
    · split_ifs
      · exact Handles.setPeer (.of_peers (by rfl) about_nil) _
      · exact Handles.setPeer (.of_peers (by rfl) about_debugAssert) _
    · exact Handles.setPeer (.of_peers (by rfl) about_debugAssert) _

theorem onDialFailure_handles : Handles q s (s.onDialFailure q) := by
  unfold onDialFailure
  split
  · exact Handles.erasePeer (.of_peers (by rfl) (about_failure _))
  · exact .of_peers (by rfl) about_nil

theorem onCloseSubstream_handles : Handles q s (s.onCloseSubstream q) := by
  unfold onCloseSubstream
  split
  · exact Handles.setPeer (.of_peers (by rfl) about_nil) _
  · exact .of_peers (by rfl) about_nil

theorem onValidationResult_handles (result : ValidationResult) (opened : Bool) :
    Handles q s (s.onValidationResult q result opened) := by
  unfold onValidationResult
  split
  · cases result
    · dsimp only
      split
      · cases opened <;> simp only [openSubstream_true, openSubstream_false]
        · exact Handles.setPeer (.of_peers (by rfl) (about_failure _)) _
        · exact Handles.setPeer (.of_peers (by rfl) about_nil) _
      · exact Handles.setPeer (.of_peers (by rfl) about_nil) _
    · exact Handles.setPeer (.of_peers (by rfl) about_nil) _
  · split_ifs
    · exact Handles.setPeer (.of_peers (by rfl) (about_failure _)) _
    · exact Handles.setPeer (.of_peers (by rfl) about_nil) _
  · split_ifs
    · exact Handles.erasePeer (.of_peers (by rfl) (about_failure _))
    · exact Handles.erasePeer (.of_peers (by rfl) about_nil)
  · exact .of_peers (by rfl) about_nil

theorem onHandshakeEvent_handles (event : HandshakeEvent) :
    Handles q s (s.onHandshakeEvent q event) := by
  unfold onHandshakeEvent
  dsimp only
  split
  · exact .of_peers (by rfl) about_debugAssert
  · split
    · split
      · exact .completeOpen (by rfl) about_nil _
      · exact .completeOpen (by rfl) about_debugAssert _
    · split
      · split_ifs
        · exact Handles.setPeer (.of_peers (by rfl) about_nil) _
        · exact .completeOpen (by rfl) (fun o ho => by rw [List.mem_singleton.mp ho]; rfl) _
      · exact .completeOpen (by rfl) about_nil _
      · exact .completeOpen (by rfl) about_debugAssert _
    · split
      · split_ifs
        · exact Handles.setPeer (.of_peers (by rfl) (about_failure _)) _
        · exact .completeOpen (by rfl) about_nil _
      · exact .completeOpen (by rfl) about_debugAssert _

theorem onTimer_handles : Handles q s (s.onTimer q) := by
  unfold onTimer
  split
  · exact Handles.setPeer (.of_peers (by rfl) (about_failure _)) _
  · exact .of_peers (by rfl) about_nil

theorem onShutdown_handles : Handles q s (s.onShutdown q) := by
  unfold onShutdown
  split
  · exact Handles.setPeer (.of_peers (by rfl) about_nil) _
  · exact .of_peers (by rfl) about_nil

/-! Each handler keeps its own peer idle and unreported unless it is a request, and leaves it idle
when it reports for it. The cases are the arms of the handler. -/

theorem onOpenSubstream_respects (p : P) (dialed opened : Bool) :
    Respects p s (s.onOpenSubstream q dialed opened) (q == p) :=
  respects_of_handles (onOpenSubstream_handles s q dialed opened) fun hq => by
    subst hq
    cases opened <;> simp only [onOpenSubstream, openSubstream_true, openSubstream_false] <;>
      constructor <;> intros <;> repeat' split
    all_goals simp_all [idleAt]

theorem onConnectionEstablished_respects (p : P) (opened : Bool) :
    Respects p s (s.onConnectionEstablished q opened) false :=
  respects_of_handles (onConnectionEstablished_handles s q opened) fun hq => by
    subst hq
    cases opened <;> simp only [onConnectionEstablished, onOpenSubstream, openSubstream_true,
      openSubstream_false] <;> constructor <;> intros <;> repeat' split
    all_goals simp_all [idleAt]

theorem onConnectionClosed_respects (p : P) : Respects p s (s.onConnectionClosed q) false :=
  respects_of_handles (onConnectionClosed_handles s q) fun hq => by
    subst hq
    unfold onConnectionClosed
    constructor <;> intros <;> repeat' split
    all_goals simp_all [idleAt]

theorem onInboundSubstream_respects (p : P) : Respects p s (s.onInboundSubstream q) false :=
  respects_of_handles (onInboundSubstream_handles s q) fun hq => by
    subst hq
    unfold onInboundSubstream
    constructor <;> intros <;> repeat' split
    all_goals simp_all [idleAt]

theorem onOutboundSubstream_respects (p : P) (substreamId : SubstreamId) :
    Respects p s (s.onOutboundSubstream q substreamId) false :=
  respects_of_handles (onOutboundSubstream_handles s q substreamId) fun hq => by
    subst hq
    unfold onOutboundSubstream
    constructor <;> intros <;> repeat' split
    all_goals simp_all [idleAt]

theorem onDialFailure_respects (p : P) : Respects p s (s.onDialFailure q) false :=
  respects_of_handles (onDialFailure_handles s q) fun hq => by
    subst hq
    unfold onDialFailure
    constructor <;> intros <;> split
    all_goals simp_all [idleAt]

theorem onCloseSubstream_respects (p : P) : Respects p s (s.onCloseSubstream q) false :=
  respects_of_handles (onCloseSubstream_handles s q) fun hq => by
    subst hq
    unfold onCloseSubstream
    constructor <;> intros <;> split
    all_goals simp_all [idleAt]

theorem onValidationResult_respects (p : P) (result : ValidationResult) (opened : Bool) :
    Respects p s (s.onValidationResult q result opened) (q == p && result == .accept) :=
  respects_of_handles (onValidationResult_handles s q result opened) fun hq => by
    subst hq
    cases opened <;> simp only [onValidationResult, openSubstream_true, openSubstream_false] <;>
      constructor <;> intros <;> repeat' split
    all_goals simp_all [idleAt]

theorem onHandshakeEvent_respects (p : P) (event : HandshakeEvent) :
    Respects p s (s.onHandshakeEvent q event) false :=
  respects_of_handles (onHandshakeEvent_handles s q event) fun hq => by
    subst hq
    unfold onHandshakeEvent completeOpen
    dsimp only [removeNegotiation]
    cases s.autoAccept <;> constructor <;> intros <;> repeat' split
    all_goals simp_all [idleAt]

theorem onTimer_respects (p : P) : Respects p s (s.onTimer q) false :=
  respects_of_handles (onTimer_handles s q) fun hq => by
    subst hq
    unfold onTimer
    constructor <;> intros <;> split
    all_goals simp_all [idleAt]

theorem onShutdown_respects (p : P) : Respects p s (s.onShutdown q) false :=
  respects_of_handles (onShutdown_handles s q) fun hq => by
    subst hq
    unfold onShutdown
    constructor <;> intros <;> split
    all_goals simp_all [idleAt]

theorem onSubstreamOpenFailure_handles (substreamId : SubstreamId)
    (hpeer : s.pendingOutbound.lookup substreamId = some q) :
    Handles q s (s.onSubstreamOpenFailure substreamId) := by
  simp only [onSubstreamOpenFailure, hpeer]
  split
  · exact .of_peers (by rfl) about_debugAssert
  · split
    · exact Handles.setPeer (.of_peers (by rfl) (about_failure _)) _
    · split
      · exact Handles.setPeer (.of_peers (by rfl) about_nil) _
      · exact Handles.setPeer (.of_peers (by rfl) (about_failure _)) _
      · exact Handles.setPeer (.of_peers (by rfl) (about_failure _)) _
      · exact Handles.setPeer (.of_peers (by rfl) (about_failure _)) _
    · exact Handles.setPeer (.of_peers (by rfl) about_nil) _
    · exact Handles.setPeer (.of_peers (by rfl) about_debugAssert) _

theorem onSubstreamOpenFailure_respects (p : P) (substreamId : SubstreamId) :
    Respects p s (s.onSubstreamOpenFailure substreamId) false := by
  cases hpeer : s.pendingOutbound.lookup substreamId with
  | none =>
    have hnone : s.onSubstreamOpenFailure substreamId = (s, [.debugAssertFailed]) := by
      simp [onSubstreamOpenFailure, hpeer]
    rw [hnone]
    exact ⟨fun hidle _ => ⟨hidle, by simp⟩, fun ⟨o, ho, hrep⟩ => by simp_all⟩
  | some q =>
    refine respects_of_handles (onSubstreamOpenFailure_handles s q substreamId hpeer) fun hq => ?_
    subst hq
    simp only [onSubstreamOpenFailure, hpeer]
    constructor <;> intros <;> repeat' split
    all_goals simp_all [idleAt]

end Handlers

theorem step_respects (p : P) (s : NotificationProtocol P) (i : Input P) :
    Respects p s (s.step i) (i.requestsOpen p) := by
  cases i with
  | connectionEstablished q opened => exact onConnectionEstablished_respects s q p opened
  | connectionClosed q => exact onConnectionClosed_respects s q p
  | inboundSubstream q => exact onInboundSubstream_respects s q p
  | outboundSubstream q substream => exact onOutboundSubstream_respects s q p substream
  | substreamOpenFailure substream => exact onSubstreamOpenFailure_respects s p substream
  | dialFailure q => exact onDialFailure_respects s q p
  | openSubstream q dialed opened => exact onOpenSubstream_respects s q p dialed opened
  | closeSubstream q => exact onCloseSubstream_respects s q p
  | validationResult q result opened =>
    have h := onValidationResult_respects s q p result opened
    cases result
    · rw [beq_self_eq_true, Bool.and_true] at h
      exact h
    · rw [show (ValidationResult.reject == .accept) = false from rfl, Bool.and_false] at h
      exact h
  | handshakeEvent q event => exact onHandshakeEvent_respects s q p event
  | timer q => exact onTimer_respects s q p
  | shutdown q => exact onShutdown_respects s q p

theorem step_outputs_length_le (s : NotificationProtocol P) (i : Input P) :
    (s.step i).2.length ≤ 1 := by
  cases i <;> dsimp only [step, onConnectionEstablished, onConnectionClosed, onInboundSubstream,
    onOutboundSubstream, onSubstreamOpenFailure, onDialFailure, onOpenSubstream, onCloseSubstream,
    onValidationResult, onHandshakeEvent, completeOpen, onTimer, onShutdown] <;> repeat' split
  all_goals simp_all

/-- Between any two reports of an open attempt for a peer, in a run from any state, the user has
asked to open a substream to the peer or accepted one from it. -/
theorem open_reports_separated (s : NotificationProtocol P) (peer : P) (inputs : List (Input P))
    (before between after : List (Input P ⊕ Output P)) (first second : Output P)
    (htrace : Mealy.trace step s inputs = before ++ .inr first :: (between ++ .inr second :: after))
    (hfirst : first.reportsOpen peer = true) (hsecond : second.reportsOpen peer = true) :
    ∃ request, .inl request ∈ between ∧ request.requestsOpen peer = true :=
  Mealy.trace_separated (fun t => t.idleAt peer = true) (Input.requestsOpen peer)
    (Output.reportsOpen peer) (fun t i => (step_respects peer t i).keeps)
    (fun t i => (step_respects peer t i).settles)
    (fun t i => (List.countP_le_length).trans (step_outputs_length_le t i))
    inputs s before between after first second htrace hfirst hsecond

/-- With dialing off, two commands to open a substream to a peer that is not connected fail
twice, and the second command stands between the two reports. -/
theorem open_reports_separated_failed_twice :
    ∃ request, .inl request ∈ ([.inl (.openSubstream 7 false false)] : List (Input Nat ⊕ Output Nat)) ∧
      request.requestsOpen 7 = true :=
  open_reports_separated (new true false) 7 [.openSubstream 7 false false, .openSubstream 7 false false]
    [.inl (.openSubstream 7 false false)] [.inl (.openSubstream 7 false false)] []
    (.notificationStreamOpenFailure 7 .dialFailure) (.notificationStreamOpenFailure 7 .dialFailure)
    (by decide) rfl rfl

end NotificationProtocol

end Litep2p.Notification
