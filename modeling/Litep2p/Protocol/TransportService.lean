import Mathlib
import Litep2p.Lib.Mealy

/-!
# Connection tracking of a transport service

`protocol/transport_service.rs`: each protocol's `TransportService` keeps, per peer, a primary
connection and at most one secondary one, and reports `ConnectionEstablished` when a peer gets its
first connection and `ConnectionClosed` when it loses its last tracked one. A connection beyond
the second is ignored. A `ConnectionHandle` is modelled by the id of its connection, the endpoint
of an event by a type `E` the service passes on, and a keep-alive future by the peer and the
connection it downgrades when it fires.

Closing a connection that is not the primary empties the secondary slot whichever connection it
was (`secondary.take()`), so closing an ignored third connection forgets an open secondary one.
-/

namespace Litep2p.Protocol

abbrev ConnectionId := Nat

/-- `ConnectionContext`, by the connections of its handles. -/
structure ConnectionContext where
  primary : ConnectionId
  secondary : Option ConnectionId
  deriving DecidableEq, Repr

structure TransportService (P : Type) where
  connections : AList fun _ : P => ConnectionContext
  pendingKeepAliveTimeouts : List (P × ConnectionId)

/-- The events of `TransportEvent` that connection tracking emits. -/
inductive TransportEvent (P E : Type) where
  | connectionEstablished (peer : P) (endpoint : E)
  | connectionClosed (peer : P)
  deriving DecidableEq, Repr

variable {P E : Type} [DecidableEq P]

namespace TransportService

def new : TransportService P := ⟨∅, []⟩

def onConnectionEstablished (s : TransportService P) (peer : P) (endpoint : E)
    (connectionId : ConnectionId) : TransportService P × Option (TransportEvent P E) :=
  match s.connections.lookup peer with
  | some context =>
    match context.secondary with
    | some _ => (s, none)
    | none =>
      ({ connections := s.connections.insert peer { context with secondary := some connectionId }
         pendingKeepAliveTimeouts := s.pendingKeepAliveTimeouts ++ [(peer, connectionId)] }, none)
  | none =>
    ({ connections := s.connections.insert peer ⟨connectionId, none⟩
       pendingKeepAliveTimeouts := s.pendingKeepAliveTimeouts ++ [(peer, connectionId)] },
      some (.connectionEstablished peer endpoint))

/-- `TransportService::on_connection_closed`, with whether its `debug_assert!(false)` was reached
(the peer has no connection context). -/
def onConnectionClosed (s : TransportService P) (peer : P) (connectionId : ConnectionId) :
    TransportService P × Option (TransportEvent P E) × Bool :=
  match s.connections.lookup peer with
  | none => (s, none, true)
  | some context =>
    if context.primary = connectionId then
      match context.secondary with
      | none => ({ s with connections := s.connections.erase peer }, some (.connectionClosed peer), false)
      | some handle => ({ s with connections := s.connections.insert peer ⟨handle, none⟩ }, none, false)
    else
      -- `context.secondary.take()`: both arms of the match that follows only log
      ({ s with connections := s.connections.insert peer { context with secondary := none } }, none, false)

end TransportService

inductive ConnectionEvent (P E : Type) where
  | connectionEstablished (peer : P) (endpoint : E) (connectionId : ConnectionId)
  | connectionClosed (peer : P) (connectionId : ConnectionId)

/-- What the service hands on: an event, or a `debug_assert!(false)` reached. -/
inductive ServiceOutput (P E : Type) where
  | event (event : TransportEvent P E)
  | debugAssertFailed
  deriving DecidableEq, Repr

namespace TransportService

/-- One event of the `poll_next` loop. -/
def step (s : TransportService P) : ConnectionEvent P E → TransportService P × List (ServiceOutput P E)
  | .connectionEstablished peer endpoint connectionId =>
    let (s, event) := s.onConnectionEstablished peer endpoint connectionId
    (s, event.toList.map .event)
  | .connectionClosed peer connectionId =>
    let (s, event, failed) := s.onConnectionClosed peer connectionId
    (s, event.toList.map .event ++ if failed then [.debugAssertFailed] else [])

/-- Three connections to peer 7 open; then the third, the first and the second close. The close of
the ignored third one empties the secondary slot, so the close of the first reports
`ConnectionClosed` while the second is still open, and the close of the second finds no context and
reaches the `debug_assert!(false)`. -/
theorem connectionClosed_reported_while_secondary_open :
    (Mealy.run step (new : TransportService Nat)
      [.connectionEstablished 7 () 1, .connectionEstablished 7 () 2, .connectionEstablished 7 () 3,
        .connectionClosed 7 3, .connectionClosed 7 1, .connectionClosed 7 2]).2 =
      [.event (.connectionEstablished 7 ()), .event (.connectionClosed 7), .debugAssertFailed] := by
  decide

end TransportService

end Litep2p.Protocol
