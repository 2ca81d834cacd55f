import Mathlib
import Litep2p.Lib.Mealy
import Litep2p.Transport.Manager.Types

/-!
# The transport manager

`transport/manager/mod.rs`. The manager keeps a `PeerState` and an address store per peer, the
connections it waits for in `pending_connections`, and the connection limits. The user dials a
peer or an address; the transports answer with events, and a handler per event moves the peer's
state and the pending map.

A handler takes `&mut self` and returns a `Result`, so it is an `EStateM` program here: an error
keeps the state the handler had written when it returned, as the `?` of Rust does, and a panic
(`expect` on a `None`, `todo!()`) is an abort of its own. Debug assertions are compiled out.
The features `quic` and `websocket` are on. Which transports are installed is part of the state; whether their `open`, `dial` and `negotiate`
calls return `Ok` is the parameter `calls`. The `cancel` calls and the reports to protocols are
left out, as are the errors a failure event carries.
-/

namespace Litep2p.Manager

variable {P : Type} [DecidableEq P]

inductive Endpoint (P : Type) where
  | dialer (address : Multiaddr P) (connectionId : ConnectionId)
  | listener (address : Multiaddr P) (connectionId : ConnectionId)
  deriving DecidableEq, Repr

namespace Endpoint

def address : Endpoint P → Multiaddr P
  | .dialer address _ | .listener address _ => address

def connectionId : Endpoint P → ConnectionId
  | .dialer _ connectionId | .listener _ connectionId => connectionId

def isListener : Endpoint P → Bool
  | .listener .. => true
  | .dialer .. => false

end Endpoint

/-- `TransportEvent`, without the errors of its failures. -/
inductive TransportEvent (P : Type) where
  | connectionEstablished (peer : P) (endpoint : Endpoint P)
  | pendingInboundConnection (connectionId : ConnectionId)
  | connectionOpened (connectionId : ConnectionId) (address : Multiaddr P)
  | connectionClosed (peer : P) (connectionId : ConnectionId)
  | dialFailure (connectionId : ConnectionId) (address : Multiaddr P)
  | openFailure (connectionId : ConnectionId)
  deriving DecidableEq, Repr

/-- The variants of `crate::Error` the manager returns. A failed transport call returns
`transportError`. -/
inductive Error (P : Type) where
  | triedToDialSelf
  | peerDoesntExist (peer : P)
  | alreadyConnected
  | noAddressAvailable (peer : P)
  | invalidState
  | transportNotSupported (address : Multiaddr P)
  | peerIdMissing
  | connectionLimit (error : ConnectionLimitsError)
  | transportError
  deriving DecidableEq, Repr

/-- How a handler ends without a value: it returns an `Err`, or it panics. -/
inductive Abort (P : Type) where
  | error (error : Error P)
  | panic
  deriving DecidableEq, Repr

inductive ConnectionEstablishedResult where
  | accept
  | reject
  deriving DecidableEq, Repr

/-- Whether the calls the manager makes on an installed transport return `Ok`. -/
structure TransportCalls (P : Type) where
  openOk : SupportedTransport → ConnectionId → List (Multiaddr P) → Bool
  dialOk : SupportedTransport → ConnectionId → Multiaddr P → Bool
  negotiateOk : SupportedTransport → ConnectionId → Bool

def TransportCalls.succeed : TransportCalls P := ⟨fun _ _ _ => true, fun _ _ _ => true, fun _ _ => true⟩

/-- `TransportManager`, by the fields its handlers read. -/
structure TransportManager (P : Type) where
  localPeerId : P
  maxParallelDials : Nat
  listenAddresses : List (Multiaddr P)
  transports : List SupportedTransport
  nextConnectionId : ConnectionId
  peers : Peers P
  pendingConnections : AList fun _ : ConnectionId => P
  connectionLimits : ConnectionLimits

abbrev ManagerM (P : Type) := EStateM (Abort P) (TransportManager P)

def scoreConnectSuccess : Int := 100

def scoreConnectFailure : Int := -100

/-- The transport `dial` opens an address with: QUIC for a `/quic-v1`, WebSocket for a `/ws` or
`/wss`, TCP otherwise. -/
def openTransport (address : Multiaddr P) : SupportedTransport :=
  if address.any (fun protocol => match protocol with | .quicV1 => true | _ => false) then .quic
  else if address.any (fun protocol => match protocol with | .ws | .wss => true | _ => false) then
    .webSocket
  else .tcp

/-- The transport `dial_address` dials an address with, read off its protocol stack. -/
def dialTransport : Multiaddr P → Option SupportedTransport
  | first :: rest =>
    let host := match first with
      | .ip4 _ | .ip6 _ | .dns _ | .dns4 _ | .dns6 _ => true
      | _ => false
    if !host then none
    else
      match rest with
      | .tcp _ :: .ws :: _ | .tcp _ :: .wss :: _ => some .webSocket
      | .tcp _ :: .p2p _ :: _ => some .tcp
      | .udp _ :: .quicV1 :: _ => some .quic
      | _ => none
  | [] => none

/-- `collect::<HashMap<_, _>>()` of records by their address. -/
def recordsByAddress (records : List (AddressRecord (Multiaddr P))) :
    List (Multiaddr P × AddressRecord (Multiaddr P)) :=
  records.foldl (fun map record =>
    map.filter (fun entry => entry.1 ≠ record.address) ++ [(record.address, record)]) []

namespace TransportManager

/-- `TransportManager::new` with its installed transports, before any listen address. -/
def new (localPeerId : P) (transports : List SupportedTransport) (maxParallelDials : Nat)
    (maxIncomingConnections maxOutgoingConnections : Option Nat) : TransportManager P :=
  ⟨localPeerId, maxParallelDials, [], transports, 0, ∅, ∅,
    .new maxIncomingConnections maxOutgoingConnections⟩

def registerListenAddress (s : TransportManager P) (address : Multiaddr P) : TransportManager P :=
  { s with
    listenAddresses := (s.listenAddresses.insert address).insert (address ++ [.p2p s.localPeerId]) }

def fail {α : Type} (error : Error P) : ManagerM P α := throw (.error error)

def abort {α : Type} : ManagerM P α := throw .panic

def ofLimits {α : Type} : Except ConnectionLimitsError α → ManagerM P α
  | .ok a => pure a
  | .error error => fail (.connectionLimit error)

def insertPeer (peer : P) (context : PeerContext (Multiaddr P)) : ManagerM P Unit :=
  modify fun s => { s with peers := s.peers.insert peer context }

def replacePeer (peer : P) (context : PeerContext (Multiaddr P)) : ManagerM P Unit :=
  modify fun s => { s with peers := s.peers.replace peer context }

def erasePeer (peer : P) : ManagerM P Unit :=
  modify fun s => { s with peers := s.peers.erase peer }

def insertPending (connectionId : ConnectionId) (peer : P) : ManagerM P Unit :=
  modify fun s => { s with pendingConnections := s.pendingConnections.insert connectionId peer }

def removePending (connectionId : ConnectionId) : ManagerM P (Option P) :=
  modifyGet fun s => (s.pendingConnections.lookup connectionId,
    { s with pendingConnections := s.pendingConnections.erase connectionId })

def fetchConnectionId : ManagerM P ConnectionId :=
  modifyGet fun s => (s.nextConnectionId, { s with nextConnectionId := s.nextConnectionId + 1 })

/-- `transports.get_mut(&transport).expect("transport to be supported").open(..)?`, made when
there are addresses for the transport. -/
def openWith (calls : TransportCalls P) (connectionId : ConnectionId)
    (transport : SupportedTransport) (addresses : List (Multiaddr P)) : ManagerM P Unit := do
  if addresses.isEmpty then return
  let s ← get
  if !s.transports.contains transport then abort
  if !calls.openOk transport connectionId addresses then fail .transportError

def dial (calls : TransportCalls P) (peer : P) : ManagerM P Unit := do
  let s ← get
  let availableCapacity ← ofLimits s.connectionLimits.onDialAddress
  let limit := min availableCapacity s.maxParallelDials
  if peer = s.localPeerId then fail .triedToDialSelf
  let some context := s.peers.lookup peer | fail (.peerDoesntExist peer)
  erasePeer peer
  match context.state with
  | .connected .. =>
    insertPeer peer context
    fail .alreadyConnected
  | .dialing _ | .opening .. | .disconnected (some _) =>
    insertPeer peer context
  | .disconnected none =>
    let (taken, addresses) := context.addresses.take limit
    let records := recordsByAddress taken
    -- the context was removed above and is not put back on these two errors
    if records.isEmpty then fail (.noAddressAvailable peer)
    if records.any (fun entry => s.listenAddresses.contains entry.1) then fail .triedToDialSelf
    let connectionId ← fetchConnectionId
    let records := records.map fun entry => (entry.1, entry.2.setConnectionId connectionId)
    let addressesFor (transport : SupportedTransport) :=
      (records.filter fun entry => openTransport entry.1 = transport).map (·.1)
    let transports := records.foldl (fun transports entry =>
      transports.insert (openTransport entry.1)) []
    insertPeer peer ⟨.opening records connectionId transports, context.secondaryConnection, addresses⟩
    openWith calls connectionId .tcp (addressesFor .tcp)
    openWith calls connectionId .quic (addressesFor .quic)
    openWith calls connectionId .webSocket (addressesFor .webSocket)
    insertPending connectionId peer

def dialAddress (calls : TransportCalls P) (address : Multiaddr P) : ManagerM P Unit := do
  let s ← get
  let _ ← ofLimits s.connectionLimits.onDialAddress
  let some record := AddressRecord.fromMultiaddr address | fail .peerIdMissing
  if s.listenAddresses.contains record.address then fail .triedToDialSelf
  let some supportedTransport := dialTransport record.address
    | fail (.transportNotSupported record.address)
  let some remotePeerId := record.address.peerId? | abort
  let connectionId ← fetchConnectionId
  let record := record.setConnectionId connectionId
  match s.peers.lookup remotePeerId with
  | some context =>
    match context.state with
    | .connected .. => fail .alreadyConnected
    | .dialing _ | .opening .. | .disconnected (some _) => return
    | .disconnected none => replacePeer remotePeerId { context with state := .dialing record }
  | none => insertPeer remotePeerId ⟨.dialing record, none, .new⟩
  if !s.transports.contains supportedTransport then fail (.transportNotSupported record.address)
  if !calls.dialOk supportedTransport connectionId record.address then fail .transportError
  insertPending connectionId remotePeerId

def onDialFailure (connectionId : ConnectionId) : ManagerM P Unit := do
  let some peer ← removePending connectionId | fail .invalidState
  let s ← get
  let some context := s.peers.lookup peer | fail .invalidState
  match context.state with
  | .dialing record =>
    if record.connectionId ≠ some connectionId then return
    replacePeer peer { context with
      state := .disconnected none
      addresses := context.addresses.insert (record.updateScore scoreConnectFailure) }
  | .opening .. =>
    replacePeer peer { context with state := .disconnected none }
    abort
  | .connected record (some dialRecord) =>
    if dialRecord.connectionId ≠ some connectionId then return
    replacePeer peer { context with
      state := .connected record none
      addresses := context.addresses.insert (dialRecord.updateScore scoreConnectFailure) }
  | .disconnected (some dialRecord) =>
    if dialRecord.connectionId ≠ some connectionId then return
    replacePeer peer { context with
      state := .disconnected none
      addresses := context.addresses.insert (dialRecord.updateScore scoreConnectFailure) }
  | .connected _ none | .disconnected none => return

def onPendingIncomingConnection : ManagerM P Unit := do
  let s ← get
  ofLimits s.connectionLimits.onIncoming

def onConnectionClosed (peer : P) (connectionId : ConnectionId) :
    ManagerM P (Option (TransportEvent P)) := do
  modify fun s => { s with connectionLimits := s.connectionLimits.onConnectionClosed connectionId }
  let s ← get
  let some context := s.peers.lookup peer | fail (.peerDoesntExist peer)
  match context.state with
  | .connected record actualDialRecord =>
    if record.connectionId = some connectionId then
      match context.secondaryConnection with
      | none =>
        replacePeer peer { context with
          addresses := context.addresses.insert record
          state := .disconnected actualDialRecord }
        return some (.connectionClosed peer connectionId)
      | some secondaryConnection =>
        replacePeer peer { context with
          secondaryConnection := none
          addresses := context.addresses.insert record
          state := .connected secondaryConnection actualDialRecord }
        return none
    else
      match context.secondaryConnection with
      | some secondaryConnection =>
        if secondaryConnection.connectionId ≠ some connectionId then return none
        replacePeer peer { context with
          secondaryConnection := none
          addresses := context.addresses.insert secondaryConnection }
        return none
      | none =>
        replacePeer peer { context with state := .disconnected none }
        fail .invalidState
  | .disconnected _ =>
    match context.secondaryConnection with
    | some _ =>
      replacePeer peer { context with secondaryConnection := none }
      fail .invalidState
    | none => return some (.connectionClosed peer connectionId)
  | .dialing _ | .opening .. =>
    replacePeer peer { context with state := .disconnected none }
    fail .invalidState

def onConnectionEstablished (peer : P) (endpoint : Endpoint P) :
    ManagerM P ConnectionEstablishedResult := do
  if let some dialedPeer ← removePending endpoint.connectionId then
    if dialedPeer ≠ peer then fail .invalidState
  let s ← get
  match s.connectionLimits.onConnectionEstablished endpoint.connectionId endpoint.isListener with
  | .error _ => return .reject
  | .ok connectionLimits =>
  set { s with connectionLimits }
  let newRecord := AddressRecord.new peer endpoint.address scoreConnectSuccess
    (some endpoint.connectionId)
  match s.peers.lookup peer with
  | none =>
    insertPeer peer ⟨.connected newRecord none, none, .new⟩
    return .accept
  | some context =>
  match context.state with
  | .connected record dialRecord =>
    match context.secondaryConnection with
    | some _ =>
      if endpoint.isListener then
        replacePeer peer { context with
          addresses := context.addresses.insert
            (AddressRecord.new peer endpoint.address scoreConnectSuccess none) }
      return .reject
    | none =>
      match dialRecord with
      | some dial =>
        if dial.connectionId = some endpoint.connectionId then
          replacePeer peer { context with
            state := .connected record none
            secondaryConnection := some newRecord }
          return .accept
        else return .reject
      | none =>
        replacePeer peer { context with secondaryConnection := some newRecord }
        return .accept
  | .dialing record =>
    if record.connectionId = some endpoint.connectionId then
      replacePeer peer { context with state := .connected record none }
    else
      replacePeer peer { context with state := .connected newRecord (some record) }
    return .accept
  | .opening records _ transports =>
    if transports.any (!s.transports.contains ·) then abort
    let some (_, first) := records.head? | abort
    let some openingId := first.connectionId | abort
    let _ ← removePending openingId
    let (record, records) : AddressRecord (Multiaddr P) × List (Multiaddr P × AddressRecord (Multiaddr P)) :=
      match records.lookup endpoint.address with
      | some record =>
        ((record.updateScore scoreConnectSuccess).setConnectionId endpoint.connectionId,
          records.filter fun entry => entry.1 ≠ endpoint.address)
      | none => (newRecord, records)
    replacePeer peer { context with
      addresses := context.addresses.extend (records.map (·.2))
      state := .connected record none }
    return .accept
  | .disconnected dialRecord =>
    let (record, dialRecord) := match dialRecord with
      | some dial =>
        if dial.address = endpoint.address then (dial.setConnectionId endpoint.connectionId, none)
        else (newRecord, some dial)
      | none => (newRecord, none)
    replacePeer peer { context with state := .connected record dialRecord }
    return .accept

def onConnectionOpened (calls : TransportCalls P) (transport : SupportedTransport)
    (connectionId : ConnectionId) (address : Multiaddr P) : ManagerM P Unit := do
  let some peer ← removePending connectionId | fail .invalidState
  let s ← get
  let some context := s.peers.lookup peer | fail .invalidState
  match context.state with
  | .opening records openingId transports =>
    replacePeer peer { context with state := .disconnected none }
    if transports.any (!s.transports.contains ·) then abort
    let some dialRecord := records.lookup address | abort
    let records := records.filter fun entry => entry.1 ≠ address
    let dialRecord := dialRecord.updateScore scoreConnectSuccess
    if !s.transports.contains transport then abort
    if calls.negotiateOk transport openingId then
      insertPending openingId peer
      replacePeer peer { context with
        state := .dialing dialRecord
        addresses := records.foldl (fun store entry => store.insert entry.2) context.addresses }
    else
      fail .invalidState
  | _ => fail .invalidState

/-- `TransportManager::on_open_failure`: the peer whose last open attempt failed. -/
def onOpenFailure (transport : SupportedTransport) (connectionId : ConnectionId) :
    ManagerM P (Option P) := do
  let some peer ← removePending connectionId | fail .invalidState
  let s ← get
  let some context := s.peers.lookup peer | fail .invalidState
  match context.state with
  | .opening records openingId transports =>
    let transports := transports.erase transport
    if transports.isEmpty then
      replacePeer peer { context with
        state := .disconnected none
        addresses := records.foldl (fun store entry =>
          store.insert (entry.2.updateScore scoreConnectFailure)) context.addresses }
      return some peer
    insertPending openingId peer
    replacePeer peer { context with state := .opening records openingId transports }
    return none
  | _ => fail .invalidState

end TransportManager

/-- What the manager's `next` loop takes: a command of the user, an event of a transport, or the
close of a connection; and the connection id a transport takes for an inbound connection from the
counter it shares with the manager (`TransportHandle::next_connection_id`). -/
inductive Input (P : Type) where
  | allocateConnectionId
  | dial (peer : P)
  | dialAddress (address : Multiaddr P)
  | transportEvent (transport : SupportedTransport) (event : TransportEvent P)
  | connectionClosed (peer : P) (connectionId : ConnectionId)

/-- What the loop does on an input: return an event, call a transport, log a handler's error,
or panic. -/
inductive Output (P : Type) where
  | event (event : TransportEvent P)
  | accept (transport : SupportedTransport) (connectionId : ConnectionId)
  | reject (transport : SupportedTransport) (connectionId : ConnectionId)
  | acceptPending (transport : SupportedTransport) (connectionId : ConnectionId)
  | rejectPending (transport : SupportedTransport) (connectionId : ConnectionId)
  | failed (error : Error P)
  | panicked
  deriving DecidableEq, Repr

namespace TransportManager

/-- A handler run from a state, with its result and the state it leaves. -/
def call {α : Type} (m : ManagerM P α) (s : TransportManager P) :
    Except (Abort P) α × TransportManager P :=
  match m.run s with
  | .ok a s => (.ok a, s)
  | .error e s => (.error e, s)

/-- A handler whose error is only logged: its outputs on success, and what an abort gives. -/
def handle {α : Type} (m : ManagerM P α) (s : TransportManager P) (ok : α → List (Output P)) :
    TransportManager P × List (Output P) :=
  match call m s with
  | (.ok a, s) => (s, ok a)
  | (.error (.error error), s) => (s, [.failed error])
  | (.error .panic, s) => (s, [.panicked])

/-- One turn of `TransportManager::next`. -/
def step (calls : TransportCalls P) (s : TransportManager P) :
    Input P → TransportManager P × List (Output P)
  | .allocateConnectionId => ({ s with nextConnectionId := s.nextConnectionId + 1 }, [])
  | .dial peer => handle (dial calls peer) s fun _ => []
  | .dialAddress address => handle (dialAddress calls address) s fun _ => []
  | .connectionClosed peer connectionId =>
    handle (onConnectionClosed peer connectionId) s fun event => event.toList.map .event
  | .transportEvent transport event =>
    match event with
    | .dialFailure connectionId address =>
      match call (onDialFailure connectionId) s with
      | (.ok (), s) => (s, [.event (.dialFailure connectionId address)])
      | (.error .panic, s) => (s, [.panicked])
      | (.error (.error _), s) => (s, [])
    | .connectionEstablished peer endpoint =>
      match call (onConnectionEstablished peer endpoint) s with
      | (.ok .accept, s) =>
        (s, [.accept transport endpoint.connectionId, .event (.connectionEstablished peer endpoint)])
      | (.ok .reject, s) | (.error (.error _), s) => (s, [.reject transport endpoint.connectionId])
      | (.error .panic, s) => (s, [.panicked])
    | .connectionOpened connectionId address =>
      handle (onConnectionOpened calls transport connectionId address) s fun _ => []
    | .openFailure connectionId =>
      handle (onOpenFailure transport connectionId) s fun peer =>
        if peer.isSome then [.event (.openFailure connectionId)] else []
    | .pendingInboundConnection connectionId =>
      match call onPendingIncomingConnection s with
      | (.ok (), s) => (s, [.acceptPending transport connectionId])
      | (_, s) => (s, [.rejectPending transport connectionId])
    -- `event => panic!("event not supported")`
    | .connectionClosed .. => (s, [.panicked])

def quicAddress : Multiaddr Nat := [.ip4 1, .udp 30333, .quicV1, .p2p 7]

def remoteAddress (port : Nat) : Multiaddr Nat := [.ip4 2, .tcp port]

/-- A node with TCP alone installed dials the QUIC address of peer 7: `dial_address` puts the peer
in `Dialing` with connection 0 before it finds no QUIC transport, so the dial is recorded as in
flight but never pending, and a later dial of the peer returns `Ok` and does nothing. -/
theorem dialAddress_leaves_peer_dialing :
    (let r := Mealy.run (step .succeed) (new 0 [.tcp] 8 none none) [.dialAddress quicAddress, .dial 7]
    r.2 = [.failed (.transportNotSupported quicAddress)] ∧
      (r.1.peers.lookup 7).map (·.state) = some (.dialing ⟨0, quicAddress, some 0⟩) ∧
      r.1.pendingConnections.lookup 0 = none) := by
  decide

/-- With at most three incoming connections, peer 7 opens three inbound connections. The limits
record the third before the manager rejects it as one connection too many, and a rejected
connection is never reported closed: once the two accepted ones close, the third still counts. -/
theorem rejected_connection_stays_counted :
    (let inbound (connectionId port : Nat) : List (Input Nat) :=
      [.allocateConnectionId, .transportEvent .tcp (.pendingInboundConnection connectionId),
        .transportEvent .tcp (.connectionEstablished 7 (.listener (remoteAddress port) connectionId))]
    let r := Mealy.run (step .succeed) (new 0 [.tcp] 8 (some 3) none)
      (inbound 0 5000 ++ inbound 1 5001 ++ inbound 2 5002 ++ [.connectionClosed 7 0, .connectionClosed 7 1])
    .reject .tcp 2 ∈ r.2 ∧ .accept .tcp 2 ∉ r.2 ∧
      (r.1.peers.lookup 7).map (·.state) =
        some (.disconnected none) ∧
      r.1.connectionLimits.incomingConnections = [2]) := by
  decide

/-- Peer 7 connected once and is disconnected; a node with TCP alone installed dials its QUIC
address. `dial_address` returns `TransportNotSupported` after it moved the peer to `Dialing`. -/
theorem dialAddress_error_changes_peer :
    (let s := (Mealy.run (step .succeed) (new 0 [.tcp] 8 none none)
      [.allocateConnectionId, .transportEvent .tcp (.pendingInboundConnection 0),
        .transportEvent .tcp (.connectionEstablished 7 (.listener (remoteAddress 5000) 0)),
        .connectionClosed 7 0]).1
    let r := call (dialAddress .succeed quicAddress) s
    r.1 = .error (.error (.transportNotSupported quicAddress)) ∧
      (s.peers.lookup 7).map (·.state) = some (.disconnected none) ∧
      (r.2.peers.lookup 7).map (·.state) = some (.dialing ⟨0, quicAddress, some 1⟩)) := by
  decide

end TransportManager

end Litep2p.Manager
