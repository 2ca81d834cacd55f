import Mathlib
import Litep2p.Lib.SwissTable
import Litep2p.Transport.Manager.Types

/-!
# Known addresses through the transport manager handle

`TransportManagerHandle::add_known_address` keeps the addresses of a list that end with `/p2p`,
that an enabled transport supports and that are not local listen addresses, collects their
records into a `HashSet<AddressRecord>` and adds them to the peer's address store. The set is the
standard library's; `addKnownAddress` takes the function `collect` that builds it.

An `AddressRecord` hashes all its fields but compares scores only, and every fresh record has
score 0, so in a SwissTable two fresh records are one as soon as their tags meet.
`SwissTable.collectSmall` is the table the set lives in for up to seven addresses.
-/

namespace Litep2p.Manager

variable {P : Type} [DecidableEq P]

/-- `TransportManagerHandle`, by the fields `add_known_address` reads besides the peers: the
enabled transports (the field `supported_transport`) and the listen addresses. -/
structure TransportManagerHandle (P : Type) where
  transports : List SupportedTransport
  listenAddresses : List (Multiaddr P)

namespace TransportManagerHandle

def supportedTransport (h : TransportManagerHandle P) : Multiaddr P → Bool
  | first :: rest =>
    let host := match first with
      | .ip4 address | .ip6 address => address != 0
      | .dns _ | .dns4 _ | .dns6 _ => true
      | _ => false
    host && match rest with
      | .tcp _ :: .p2p _ :: _ => h.transports.contains .tcp
      | .tcp _ :: .ws :: _ | .tcp _ :: .wss :: _ => h.transports.contains .webSocket
      | .udp _ :: .quicV1 :: _ => h.transports.contains .quic
      | _ => false
  | [] => false

/-- `TransportManagerHandle::is_local_address`: the address up to its `/p2p` is a listen
address. -/
def isLocalAddress (h : TransportManagerHandle P) (address : Multiaddr P) : Bool :=
  h.listenAddresses.contains (address.takeWhile fun protocol => !protocol.isP2p)

/-- The record `add_known_address` makes of an address, if it keeps it. -/
def knownRecord (h : TransportManagerHandle P) (address : Multiaddr P) :
    Option (AddressRecord (Multiaddr P)) :=
  (AddressRecord.fromMultiaddr address).bind fun record =>
    if h.supportedTransport address && !h.isLocalAddress address then some record else none

/-- `TransportManagerHandle::add_known_address`, on the peers map the handle shares with the
manager. -/
def addKnownAddress (collect : List (AddressRecord (Multiaddr P)) → List (AddressRecord (Multiaddr P)))
    (h : TransportManagerHandle P) (peers : Peers P) (peer : P) (addresses : List (Multiaddr P)) :
    Peers P × Nat :=
  let addresses := collect (addresses.filterMap h.knownRecord)
  let numAdded := addresses.length
  if numAdded = 0 then (peers, 0)
  else
    match peers.lookup peer with
    | some context =>
      let store := addresses.foldl (fun store record =>
        if !store.contains record.address then store.insert record else store) context.addresses
      (peers.insert peer { context with addresses := store }, numAdded)
    | none =>
      (peers.insert peer ⟨.disconnected none, none, AddressStore.fromRecords addresses⟩, numAdded)

theorem addKnownAddress_of_lookup_none
    {collect : List (AddressRecord (Multiaddr P)) → List (AddressRecord (Multiaddr P))}
    {h : TransportManagerHandle P} {peers : Peers P} {peer : P} {addresses : List (Multiaddr P)}
    {record : AddressRecord (Multiaddr P)} {records : List (AddressRecord (Multiaddr P))}
    (hcollect : collect (addresses.filterMap h.knownRecord) = record :: records)
    (hpeer : peers.lookup peer = none) :
    h.addKnownAddress collect peers peer addresses =
      (peers.insert peer ⟨.disconnected none, none, AddressStore.fromRecords (record :: records)⟩,
        records.length + 1) := by
  simp only [addKnownAddress, hcollect, List.length_cons, Nat.add_one_ne_zero, if_false, hpeer]

end TransportManagerHandle

def tcpHandle : TransportManagerHandle P := ⟨[.tcp], []⟩

def AddressRecord.scoreEq {A : Type} (a b : AddressRecord A) : Bool := a.score == b.score

def tcpAddress (port : Nat) : Multiaddr Nat := [.ip4 1, .tcp port, .p2p 7]

theorem tcpHandle_knownRecord (port : Nat) :
    tcpHandle.knownRecord (tcpAddress port) = some ⟨0, tcpAddress port, none⟩ := by
  simp [TransportManagerHandle.knownRecord, AddressRecord.fromMultiaddr, Multiaddr.endsWithP2p,
    Multiaddr.peerId?, tcpAddress, TransportManagerHandle.supportedTransport,
    TransportManagerHandle.isLocalAddress, tcpHandle]

/-- Whatever the hash of the set, two TCP addresses of one peer that differ only in their port
are added as one: `add_known_address` stores the first alone and reports one address. -/
theorem addKnownAddress_merges_addresses (hash : AddressRecord (Multiaddr Nat) → UInt64) :
    ∃ i j : Nat, i ≠ j ∧
      tcpHandle.addKnownAddress (SwissTable.collectSmall hash AddressRecord.scoreEq) ∅ 7
          [tcpAddress i, tcpAddress j] =
        ((∅ : Peers Nat).insert 7
          ⟨.disconnected none, none, AddressStore.fromRecords [⟨0, tcpAddress i, none⟩]⟩, 1) := by
  let record : Fin 129 → AddressRecord (Multiaddr Nat) := fun k => ⟨0, tcpAddress k, none⟩
  obtain ⟨i, j, hne, htag⟩ := SwissTable.exists_h2_eq hash record
  refine ⟨i, j, fun h => hne (Fin.ext h), ?_⟩
  have hfilter : [tcpAddress i, tcpAddress j].filterMap tcpHandle.knownRecord = [record i, record j] := by
    simp only [List.filterMap_cons, tcpHandle_knownRecord, List.filterMap_nil, record]
  have hcollect : SwissTable.collectSmall hash AddressRecord.scoreEq [record i, record j] = [record i] := by
    simp only [SwissTable.collectSmall, List.foldl_cons, List.foldl_nil]
    have hfirst : SwissTable.insertSmall hash AddressRecord.scoreEq [] (record i) = [record i] := rfl
    rw [hfirst]
    exact SwissTable.insertSmall_of_mem (List.mem_singleton_self _) htag rfl
  rw [TransportManagerHandle.addKnownAddress_of_lookup_none (hfilter ▸ hcollect) rfl]
  rfl

end Litep2p.Manager
