import Litep2p.Kademlia.Query

/-! The handling of a received message by `Kademlia` (`mod.rs`): `on_message_received` decodes the
bytes with `KademliaMessage::from_bytes` and dispatches on the message type. A message read on the
substream of a query (`query_id = Some q`) that carries peers updates the routing table and is
registered with the query engine, whatever its type; the engine then reaches `unreachable!()`
when the type is not the one the query asked for (`onMessageReceived_eq_error_iff`). The store
is a component of its own, seen here through the operations the handler calls; what the handler
sends to the event channel, the transport service and the executor is returned as effects. -/

namespace Litep2p.Kademlia

set_option linter.dupNamespace false

inductive RoutingTableUpdateMode where
  | manual
  | automatic
  deriving DecidableEq, Repr

inductive IncomingRecordValidationMode where
  | manual
  | automatic
  deriving DecidableEq, Repr

/-- The operations of `MemoryStore` that the handler calls. -/
structure StoreOps (σ P A : Type) where
  /-- `MemoryStore::get`, which may drop an expired record. -/
  get : σ → RecordKey → σ × Option (Record P)
  /-- `MemoryStore::put`. -/
  put : σ → Record P → σ
  /-- `MemoryStore::get_providers`. -/
  getProviders : σ → RecordKey → σ × List (ContentProvider P A)
  /-- `MemoryStore::put_provider`. -/
  putProvider : σ → RecordKey → ContentProvider P A → σ

/-- What the handler hands to the event channel, the transport service and the executor. -/
inductive Effect (P A : Type) where
  /-- `KademliaEvent::RoutingTableUpdate`. -/
  | routingTableUpdate (peers : List P)
  /-- `TransportService::add_known_address`. -/
  | addKnownAddress (peer : P) (addresses : List A)
  /-- `KademliaEvent::IncomingRecord`. -/
  | incomingRecord (record : Record P)
  /-- `KademliaEvent::IncomingProvider`. -/
  | incomingProvider (providedKey : RecordKey) (provider : ContentProvider P A)
  /-- `send_message` of `KademliaMessage::find_node_response`. -/
  | sendFindNodeResponse (peer : P) (target : List UInt8) (peers : List (KademliaPeer P A))
  /-- `send_message` of `KademliaMessage::get_value_response`. -/
  | sendGetValueResponse (peer : P) (key : RecordKey) (peers : List (KademliaPeer P A))
      (record : Option (Record P))
  /-- `send_message` of `KademliaMessage::get_providers_response`. -/
  | sendGetProvidersResponse (peer : P) (providers : List (ContentProvider P A))
      (closerPeers : List (KademliaPeer P A))

def KademliaMessage.IsQueryResponse {P A : Type} : KademliaMessage P A → Bool
  | .findNode _ _ | .getRecord _ _ _ | .getProviders _ _ _ => true
  | _ => false

/-- `Kademlia`, with the fields `on_message_received` reads or writes. -/
structure Kademlia (P A σ : Type) where
  localPeerId : P
  replicationFactor : Nat
  routingTable : RoutingTable P A
  engine : QueryEngine P A
  store : σ
  /-- The keys of `peers`: the connected peers. -/
  peers : Finset P
  updateMode : RoutingTableUpdateMode
  validationMode : IncomingRecordValidationMode
  /-- `service.public_addresses().get_addresses()`. -/
  publicAddresses : List A

namespace Kademlia

variable {P A σ : Type} [DecidableEq P] (x : WireExternals P A)

def parallelismFactor : Nat := 3

/-- `Kademlia::new`, with the known peers of the configuration and an empty store. -/
def new (localPeerId : P) (replicationFactor : Nat) (knownPeers : List (P × List A)) (store : σ)
    (updateMode : RoutingTableUpdateMode) (validationMode : IncomingRecordValidationMode)
    (publicAddresses : List A) (random : P) : Kademlia P A σ × List (Effect P A) :=
  ({ localPeerId, replicationFactor, store, updateMode, validationMode, publicAddresses
     routingTable := knownPeers.foldl (fun t (peer, addresses) =>
       t.addKnownPeer x.toExternals peer addresses .notConnected random) (.new (x.keyOf localPeerId))
     engine := .new localPeerId replicationFactor parallelismFactor
     peers := ∅ },
   knownPeers.map fun (peer, addresses) => .addKnownAddress peer addresses)

def findNode (k : Kademlia P A σ) (peer : P) (queryId : QueryId) : Kademlia P A σ :=
  let candidates := k.routingTable.closest (x.keyOf peer) k.replicationFactor
  { k with engine := k.engine.startFindNode x queryId peer candidates }

def updateRoutingTable (k : Kademlia P A σ) (random : P) (peers : List (KademliaPeer P A)) :
    Kademlia P A σ × List (Effect P A) :=
  let peers := peers.filter fun peer => peer.peer ≠ k.localPeerId
  let routingTable := match k.updateMode with
    | .automatic => peers.foldl (fun t info => t.addKnownPeer x.toExternals info.peer info.addresses
        (if info.peer ∈ k.peers then .connected else .notConnected) random) k.routingTable
    | .manual => k.routingTable
  ({ k with routingTable },
   .routingTableUpdate (peers.map KademliaPeer.peer) ::
     peers.map fun info => .addKnownAddress info.peer info.addresses)

/-- A response of a query: the routing table updated with its peers, then the response registered. -/
def registerQueryResponse (k : Kademlia P A σ) (now : Nat) (random : P) (peer : P) (query : QueryId)
    (peers : List (KademliaPeer P A)) (message : KademliaMessage P A) :
    Except Error (Kademlia P A σ × List (Effect P A)) :=
  let (k', effects) := k.updateRoutingTable x random peers
  (k'.engine.registerResponse now query peer message).map fun engine => ({ k' with engine }, effects)

/-- `Kademlia::on_message_received`, at the time `now`; `random` is the id that
`RoutingTable::entry` would give a placeholder. -/
def onMessageReceived (s : StoreOps σ P A) (k : Kademlia P A σ) (now : Nat) (random : P) (peer : P)
    (queryId : Option QueryId) (bytes : List UInt8) :
    Except Error (Kademlia P A σ × List (Effect P A)) :=
  match KademliaMessage.fromBytes x now bytes with
  | none => .error .invalidData
  | some message@(.findNode target peers) =>
    match queryId with
    | some query => k.registerQueryResponse x now random peer query peers message
    | none => .ok (k, [.sendFindNodeResponse peer target
        (k.routingTable.closest (x.keyOfBytes target) k.replicationFactor)])
  | some (.putValue record) =>
    let store := match k.validationMode with
      | .automatic => s.put k.store record
      | .manual => k.store
    .ok ({ k with store }, [.incomingRecord record])
  | some message@(.getRecord key _ peers) =>
    match queryId, key with
    | some query, _ => k.registerQueryResponse x now random peer query peers message
    | none, some key =>
      let (store, value) := s.get k.store key
      .ok ({ k with store }, [.sendGetValueResponse peer key
        (k.routingTable.closest (x.keyOfBytes key) k.replicationFactor) value])
    | none, none => .ok (k, [])
  | some (.addProvider key providers) =>
    match providers.length, providers.getLast? with
    | 1, some provider =>
      if provider.peer = peer then
        .ok ({ k with store := s.putProvider k.store key ⟨peer, provider.addresses⟩ },
          [.incomingProvider key ⟨provider.peer, provider.addresses⟩])
      else .ok (k, [])
    | _, _ => .ok (k, [])
  | some message@(.getProviders key peers _) =>
    match queryId, key with
    | some query, _ => k.registerQueryResponse x now random peer query peers message
    | none, some key =>
      let (store, providers) := s.getProviders k.store key
      let providers := match providers.findIdx? (·.peer = k.localPeerId) with
        | some i => providers.modify i fun provider => { provider with addresses := k.publicAddresses }
        | none => providers
      .ok ({ k with store }, [.sendGetProvidersResponse peer providers
        (k.routingTable.closest (x.keyOfBytes key) k.replicationFactor)])
    | none, none => .ok (k, [])

@[simp] theorem updateRoutingTable_engine (k : Kademlia P A σ) (random : P)
    (peers : List (KademliaPeer P A)) : (k.updateRoutingTable x random peers).1.engine = k.engine :=
  rfl

theorem registerQueryResponse_eq_error_iff (k : Kademlia P A σ) (now : Nat) (random peer : P)
    (query : QueryId) (peers : List (KademliaPeer P A)) (message : KademliaMessage P A) (err : Error) :
    k.registerQueryResponse x now random peer query peers message = .error err ↔
      k.engine.registerResponse now query peer message = .error err := by
  unfold registerQueryResponse
  cases h : (k.updateRoutingTable x random peers).1.engine.registerResponse now query peer message <;>
    simp_all [Except.map]

/-- A message read on the substream of query `query` is refused when it does not decode, and
otherwise panics exactly when it is a response with peers that the query does not accept. -/
theorem onMessageReceived_eq_error_iff (s : StoreOps σ P A) (k : Kademlia P A σ) (now : Nat)
    (random peer : P) (query : QueryId) (bytes : List UInt8) (err : Error) :
    k.onMessageReceived x s now random peer (some query) bytes = .error err ↔
      (KademliaMessage.fromBytes x now bytes = none ∧ err = .invalidData) ∨
      ∃ message, KademliaMessage.fromBytes x now bytes = some message ∧
        message.IsQueryResponse = true ∧ err = .panicked ∧
        ∃ q, k.engine.queries.lookup query = some q ∧ q.Accepts message = false := by
  unfold onMessageReceived
  cases hm : KademliaMessage.fromBytes x now bytes with
  | none =>
      simp only [reduceCtorEq, false_and, exists_false, or_false, true_and, Except.error.injEq]
      exact eq_comm
  | some message =>
      simp only [reduceCtorEq, false_and, false_or, Option.some.injEq, exists_eq_left']
      cases message with
      | findNode target peers =>
          simp only [registerQueryResponse_eq_error_iff, QueryEngine.registerResponse_eq_error_iff,
            KademliaMessage.IsQueryResponse, true_and]
      | putValue record =>
          simp [KademliaMessage.IsQueryResponse]
      | getRecord key record peers =>
          simp only [registerQueryResponse_eq_error_iff, QueryEngine.registerResponse_eq_error_iff,
            KademliaMessage.IsQueryResponse, true_and]
      | addProvider key providers =>
          simp only [KademliaMessage.IsQueryResponse, Bool.false_eq_true, false_and, iff_false]
          split <;> (try split) <;> simp
      | getProviders key peers providers =>
          simp only [registerQueryResponse_eq_error_iff, QueryEngine.registerResponse_eq_error_iff,
            KademliaMessage.IsQueryResponse, true_and]

/-- Local peer 0 starts with peer 5 (address 1) known and runs a `FIND_NODE` query 0 for peer 7;
peer 5 answers on the query's substream with the bytes `08 01`, the message whose one field is
`type = 1` (`GET_VALUE`). Whatever the store, the handler reaches `unreachable!()`. -/
theorem onMessageReceived_panics_on_get_value_answer {σ : Type} (s : StoreOps σ Nat Nat) (store : σ) :
    ((Kademlia.new WireExternals.numeric 0 20 [(5, [1])] store .automatic .automatic [] 0).1.findNode
        WireExternals.numeric 7 0).onMessageReceived WireExternals.numeric s 0 0 5 (some 0) [8, 1] =
      .error .panicked := by
  have hdecode : KademliaMessage.fromBytes WireExternals.numeric 0 [8, 1] =
      some (.getRecord none none []) := by
    decide +kernel
  rw [onMessageReceived_eq_error_iff]
  exact .inr ⟨_, hdecode, rfl, rfl, _, AList.lookup_insert _, rfl⟩

end Kademlia

end Litep2p.Kademlia
