import Mathlib

/-!
# Addresses, peer states and connection limits of the transport manager

`transport/manager/address.rs`, `types.rs` and `limits.rs`, over the protocols of a `Multiaddr`
that the manager reads. An `AddressRecord` is an address with a score and the connection it was
used for; its `PartialEq` and `Ord` read the score only, while its `Hash` is derived from all
three fields. An `AddressStore` keeps records in a `BinaryHeap` by score and their addresses in a
`HashSet`; the heap is a list here, and `pop` takes the first record of greatest score. A
`HashMap` is an association list, a `HashSet` a list without repetitions.
-/

namespace Litep2p.Manager

abbrev ConnectionId := Nat

/-- `SupportedTransport`, with the transports of the optional features. -/
inductive SupportedTransport where
  | tcp
  | quic
  | webRtc
  | webSocket
  deriving DecidableEq, Repr

def saturatingAddI32 (a b : Int) : Int :=
  max (-2 ^ 31) (min (2 ^ 31 - 1) (a + b))

/-- The protocols of a `Multiaddr` that the manager tells apart. An IP address is its integer,
a DNS name and the path of `/ws` are left out, and a `/p2p` names a peer. -/
inductive Protocol (P : Type) where
  | ip4 (address : Nat)
  | ip6 (address : Nat)
  | dns (name : Nat)
  | dns4 (name : Nat)
  | dns6 (name : Nat)
  | tcp (port : Nat)
  | udp (port : Nat)
  | quicV1
  | ws
  | wss
  | p2p (peer : P)
  | other (code : Nat)
  deriving DecidableEq, Repr

abbrev Multiaddr (P : Type) := List (Protocol P)

variable {P A : Type}

def Protocol.isP2p : Protocol P → Bool
  | .p2p _ => true
  | _ => false

namespace Multiaddr

/-- `PeerId::try_from_multiaddr`: the peer of a last `/p2p`. -/
def peerId? (address : Multiaddr P) : Option P :=
  match address.getLast? with
  | some (.p2p peer) => some peer
  | _ => none

def endsWithP2p (address : Multiaddr P) : Bool := (peerId? address).isSome

end Multiaddr

structure AddressRecord (A : Type) where
  score : Int
  address : A
  connectionId : Option ConnectionId
  deriving DecidableEq, Repr

namespace AddressRecord

def fromMultiaddr (address : Multiaddr P) : Option (AddressRecord (Multiaddr P)) :=
  if address.endsWithP2p then some ⟨0, address, none⟩ else none

/-- `AddressRecord::new`: an address without a last `/p2p` gets the peer's appended. -/
def new (peer : P) (address : Multiaddr P) (score : Int) (connectionId : Option ConnectionId) :
    AddressRecord (Multiaddr P) :=
  let address := if !address.endsWithP2p then address ++ [.p2p peer] else address
  ⟨score, address, connectionId⟩

def updateScore (record : AddressRecord A) (score : Int) : AddressRecord A :=
  { record with score := saturatingAddI32 record.score score }

def setConnectionId (record : AddressRecord A) (connectionId : ConnectionId) : AddressRecord A :=
  { record with connectionId := some connectionId }

end AddressRecord

structure AddressStore (A : Type) where
  byScore : List (AddressRecord A)
  byAddress : List A
  deriving DecidableEq, Repr

namespace AddressStore

variable [DecidableEq A]

def new : AddressStore A := ⟨[], []⟩

def isEmpty (s : AddressStore A) : Bool := s.byScore.isEmpty

def contains (s : AddressStore A) (address : A) : Bool := s.byAddress.contains address

/-- `AddressStore::insert`: a known address is not inserted again, and the record loses its
connection. -/
def insert (s : AddressStore A) (record : AddressRecord A) : AddressStore A :=
  if s.contains record.address then s
  else ⟨s.byScore ++ [{ record with connectionId := none }], s.byAddress ++ [record.address]⟩

/-- The first record of greatest score, which `BinaryHeap::pop` returns. -/
def best? (records : List (AddressRecord A)) : Option (AddressRecord A) :=
  records.foldl (fun best record =>
    match best with
    | none => some record
    | some b => if b.score < record.score then some record else some b) none

def pop (s : AddressStore A) : Option (AddressRecord A) × AddressStore A :=
  match best? s.byScore with
  | none => (none, s)
  | some record => (some record, ⟨s.byScore.erase record, s.byAddress.erase record.address⟩)

/-- `AddressStore::take`: at most `limit` records, by `pop`. -/
def take (s : AddressStore A) : Nat → List (AddressRecord A) × AddressStore A
  | 0 => ([], s)
  | limit + 1 =>
    match s.pop with
    | (none, s) => ([], s)
    | (some record, s) =>
      let (records, s) := s.take limit
      (record :: records, s)

/-- `impl FromIterator<AddressRecord> for AddressStore`: every record is pushed, without the check
of `insert`. -/
def fromRecords (records : List (AddressRecord A)) : AddressStore A :=
  records.foldl (fun s record =>
    ⟨s.byScore ++ [record], if s.byAddress.contains record.address then s.byAddress else s.byAddress ++ [record.address]⟩)
    new

def extend (s : AddressStore A) (records : List (AddressRecord A)) : AddressStore A :=
  records.foldl insert s

def addresses (s : AddressStore A) : List A := s.byScore.map (·.address)

end AddressStore

/-- `PeerState`. The records of `Opening` are a map from address to record. -/
inductive PeerState (A : Type) where
  | connected (record : AddressRecord A) (dialRecord : Option (AddressRecord A))
  | opening (records : List (A × AddressRecord A)) (connectionId : ConnectionId)
      (transports : List SupportedTransport)
  | dialing (record : AddressRecord A)
  | disconnected (dialRecord : Option (AddressRecord A))
  deriving DecidableEq, Repr

structure PeerContext (A : Type) where
  state : PeerState A
  secondaryConnection : Option (AddressRecord A)
  addresses : AddressStore A
  deriving DecidableEq, Repr

abbrev Peers (P : Type) := AList fun _ : P => PeerContext (Multiaddr P)

inductive ConnectionLimitsError where
  | maxIncomingConnectionsExceeded
  | maxOutgoingConnectionsExceeded
  deriving DecidableEq, Repr

/-- `ConnectionLimits`, with its configuration. -/
structure ConnectionLimits where
  maxIncomingConnections : Option Nat
  maxOutgoingConnections : Option Nat
  incomingConnections : List ConnectionId
  outgoingConnections : List ConnectionId
  deriving DecidableEq, Repr

namespace ConnectionLimits

def new (maxIncomingConnections maxOutgoingConnections : Option Nat) : ConnectionLimits :=
  ⟨maxIncomingConnections, maxOutgoingConnections, [], []⟩

def usizeMax : Nat := 2 ^ 64 - 1

/-- `ConnectionLimits::on_dial_address`: the number of outgoing connections still permitted. -/
def onDialAddress (l : ConnectionLimits) : Except ConnectionLimitsError Nat :=
  match l.maxOutgoingConnections with
  | some max =>
    if max ≤ l.outgoingConnections.length then .error .maxOutgoingConnectionsExceeded
    else .ok (max - l.outgoingConnections.length)
  | none => .ok usizeMax

def onIncoming (l : ConnectionLimits) : Except ConnectionLimitsError Unit :=
  match l.maxIncomingConnections with
  | some max => if max ≤ l.incomingConnections.length then .error .maxIncomingConnectionsExceeded else .ok ()
  | none => .ok ()

/-- `ConnectionLimits::on_connection_established`: a connection within the limit is recorded, in
the set of its direction, when that direction has a limit. -/
def onConnectionEstablished (l : ConnectionLimits) (connectionId : ConnectionId) (isListener : Bool) :
    Except ConnectionLimitsError ConnectionLimits :=
  let exceeded : Option ConnectionLimitsError :=
    if isListener then
      match l.maxIncomingConnections with
      | some max => if max ≤ l.incomingConnections.length then some .maxIncomingConnectionsExceeded else none
      | none => none
    else
      match l.maxOutgoingConnections with
      | some max => if max ≤ l.outgoingConnections.length then some .maxOutgoingConnectionsExceeded else none
      | none => none
  match exceeded with
  | some error => .error error
  | none =>
    if isListener then
      if l.maxIncomingConnections.isSome then
        .ok { l with incomingConnections := l.incomingConnections.insert connectionId }
      else .ok l
    else if l.maxOutgoingConnections.isSome then
      .ok { l with outgoingConnections := l.outgoingConnections.insert connectionId }
    else .ok l

def onConnectionClosed (l : ConnectionLimits) (connectionId : ConnectionId) : ConnectionLimits :=
  { l with
    incomingConnections := l.incomingConnections.erase connectionId
    outgoingConnections := l.outgoingConnections.erase connectionId }

end ConnectionLimits

end Litep2p.Manager
