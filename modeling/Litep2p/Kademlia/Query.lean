import Mathlib
import Litep2p.Lib.SortedMap
import Litep2p.Kademlia.Message
import Litep2p.Kademlia.Closest
import Litep2p.Error

/-! The query engine of `query/mod.rs` and the contexts of its queries: how each schedules its
requests (`next_action`), takes a response or a failure to respond, and ends. A `HashMap` is an
`AList`, a `HashSet` a `Finset`, and a `BTreeMap<Distance, KademliaPeer>` a `SortedMap` keyed by
the distance as a number, which orders as `Distance` does. An `Instant` is a number of nanoseconds
of the local clock, and the time a call reads with `Instant::now()` is its argument `now`. The
cached request bytes of `SendMessage`, and the preimages of the targets that the engine's reports
carry, are left out.

`QueryEngine::register_response` dispatches on the query's type and then on the message's; each
query type accepts one message type and the others reach `unreachable!()`, modelled as
`Error.panicked` (`registerResponse_eq_error_iff`). -/

namespace Litep2p.Kademlia

variable {P A : Type} [DecidableEq P]

abbrev QueryId := Nat

abbrev PendingPeers (P A : Type) := AList fun _ : P => KademliaPeer P A

abbrev Candidates (P A : Type) := SortedMap Nat (KademliaPeer P A)

def Candidates.ofPeers (target : KeyBytes) (peers : List (KademliaPeer P A)) : Candidates P A :=
  peers.foldl (fun candidates peer => candidates.insert (RoutingTable.distanceTo target peer) peer) {}

/-- The loop that ends every context's `register_response`: the peers of a response that have
not been queried, are not awaited and are not the local peer become candidates. -/
def insertCandidates {V : Type} (localPeerId : P) (target : KeyBytes) (queried : Finset P)
    (pending : AList fun _ : P => V) (peers : List (KademliaPeer P A)) (candidates : Candidates P A) :
    Candidates P A :=
  (peers.filter fun peer => peer.peer ∉ queried ∧ peer.peer ∉ pending ∧ localPeerId ≠ peer.peer).foldl
    (fun candidates peer => candidates.insert (RoutingTable.distanceTo target peer) peer) candidates

structure PeerRecord (P : Type) where
  peer : P
  record : Record P
  deriving DecidableEq, Repr

/-- `QueryAction`; the message of `SendMessage` and the targets of the reports are left out. -/
inductive QueryAction (P A : Type) where
  | sendMessage (query : QueryId) (peer : P)
  | findNodeQuerySucceeded (query : QueryId) (peers : List (KademliaPeer P A))
  | putRecordToFoundNodes (record : Record P) (peers : List (KademliaPeer P A))
  | addProviderToFoundNodes (providedKey : RecordKey) (provider : ContentProvider P A)
      (peers : List (KademliaPeer P A))
  | getRecordQueryDone (queryId : QueryId) (records : List (PeerRecord P))
  | getProvidersQueryDone (queryId : QueryId) (providers : List (ContentProvider P A))
  | querySucceeded (query : QueryId)
  | queryFailed (query : QueryId)
  deriving DecidableEq, Repr

def defaultPeerTimeout : Nat := 10 * nanosPerSec

def saturatingSucc (n : Nat) : Nat := min (n + 1) (2 ^ 64 - 1)

structure FindNodeConfig (P : Type) where
  localPeerId : P
  replicationFactor : Nat
  parallelismFactor : Nat
  query : QueryId
  target : KeyBytes

/-- `FindNodeContext`: a pending peer is awaited since the instant it was sent the request. -/
structure FindNodeContext (P A : Type) where
  config : FindNodeConfig P
  pending : AList fun _ : P => KademliaPeer P A × Nat
  queried : Finset P
  candidates : Candidates P A
  responses : Candidates P A
  peerTimeout : Nat
  pendingResponses : Nat

namespace FindNodeContext

def new (config : FindNodeConfig P) (inPeers : List (KademliaPeer P A)) : FindNodeContext P A :=
  { config, pending := ∅, queried := ∅, candidates := Candidates.ofPeers config.target inPeers,
    responses := {}, peerTimeout := defaultPeerTimeout, pendingResponses := 0 }

def registerResponseFailure (c : FindNodeContext P A) (peer : P) : FindNodeContext P A :=
  match c.pending.lookup peer with
  | none => c
  | some (entry, _) =>
    { c with pending := c.pending.erase peer, pendingResponses := c.pendingResponses - 1,
             queried := insert entry.peer c.queried }

/-- The responses with `peer` at `distance`: kept while there are fewer than the replication
factor, and otherwise in place of the furthest one when it is closer. -/
def insertResponse (replicationFactor : Nat) (responses : Candidates P A) (distance : Nat)
    (peer : KademliaPeer P A) : Candidates P A :=
  if responses.size < replicationFactor then responses.insert distance peer
  else
    let furthestDistance := (responses.last?.map Prod.fst).getD distance
    if distance < furthestDistance then
      let responses := responses.insert distance peer
      if responses.size > replicationFactor then responses.dropLast else responses
    else responses

def registerResponse (c : FindNodeContext P A) (peer : P) (peers : List (KademliaPeer P A)) :
    FindNodeContext P A :=
  match c.pending.lookup peer with
  | none => c
  | some (entry, _) =>
    let pending := c.pending.erase peer
    let queried := insert entry.peer c.queried
    { c with
      pending, queried
      pendingResponses := c.pendingResponses - 1
      responses := insertResponse c.config.replicationFactor c.responses
        (RoutingTable.distanceTo c.config.target entry) entry
      candidates := insertCandidates c.config.localPeerId c.config.target queried pending peers
        c.candidates }

/-- `FindNodeContext::schedule_next_peer`, at the time `now`. -/
def scheduleNextPeer (c : FindNodeContext P A) (now : Nat) :
    FindNodeContext P A × Option (QueryAction P A) :=
  match c.candidates.popFirst with
  | none => (c, none)
  | some ((_, candidate), candidates) =>
    ({ c with
        candidates
        pending := c.pending.insert candidate.peer (candidate, now)
        pendingResponses := saturatingSucc c.pendingResponses },
      some (.sendMessage c.config.query candidate.peer))

def isDone (c : FindNodeContext P A) : Bool := c.pending.keys.isEmpty && c.candidates.isEmpty

/-- The loop of `next_action` over the pending peers: one off, saturating, for each peer awaited
for longer than the timeout. -/
def discountTimedOut (c : FindNodeContext P A) (now : Nat) : Nat :=
  c.pending.entries.foldl (fun pendingResponses entry =>
    if now - entry.2.2 > c.peerTimeout then pendingResponses - 1 else pendingResponses)
    c.pendingResponses

/-- `FindNodeContext::next_action`, at the time `now`. -/
def nextAction (c : FindNodeContext P A) (now : Nat) : FindNodeContext P A × Option (QueryAction P A) :=
  if c.isDone then
    (c, some (if c.responses.isEmpty then .queryFailed c.config.query
      else .querySucceeded c.config.query))
  else
    let c := { c with pendingResponses := c.discountTimedOut now }
    if c.pendingResponses = c.config.parallelismFactor then (c, none)
    else if c.responses.size < c.config.replicationFactor then c.scheduleNextPeer now
    else
      match c.candidates.first?, c.responses.last? with
      | some (_, candidatePeer), some (worstResponseDistance, _) =>
        if RoutingTable.distanceTo c.config.target candidatePeer < worstResponseDistance then
          c.scheduleNextPeer now
        else (c, some (.querySucceeded c.config.query))
      | _, _ => (c, some (.querySucceeded c.config.query))

end FindNodeContext

inductive Quorum where
  | all
  | one
  | n (neededResponses : ℕ+)
  deriving DecidableEq, Repr

structure GetRecordConfig (P : Type) where
  localPeerId : P
  knownRecords : Nat
  quorum : Quorum
  replicationFactor : Nat
  parallelismFactor : Nat
  query : QueryId
  target : KeyBytes

def GetRecordConfig.sufficientRecords (c : GetRecordConfig P) (records : Nat) : Bool :=
  let totalKnown := c.knownRecords + records
  match c.quorum with
  | .all => totalKnown ≥ c.replicationFactor
  | .one => totalKnown ≥ 1
  | .n neededResponses => totalKnown ≥ neededResponses

structure GetRecordContext (P A : Type) where
  config : GetRecordConfig P
  pending : PendingPeers P A
  queried : Finset P
  candidates : Candidates P A
  foundRecords : List (PeerRecord P)

namespace GetRecordContext

def new (config : GetRecordConfig P) (inPeers : List (KademliaPeer P A)) : GetRecordContext P A :=
  { config, pending := ∅, queried := ∅, candidates := Candidates.ofPeers config.target inPeers,
    foundRecords := [] }

def registerResponseFailure (c : GetRecordContext P A) (peer : P) : GetRecordContext P A :=
  match c.pending.lookup peer with
  | none => c
  | some entry => { c with pending := c.pending.erase peer, queried := insert entry.peer c.queried }

/-- `GetRecordContext::register_response`, at the time `now`: the record is kept when it has not
expired, whatever its key. -/
def registerResponse (c : GetRecordContext P A) (now : Nat) (peer : P) (record : Option (Record P))
    (peers : List (KademliaPeer P A)) : GetRecordContext P A :=
  match c.pending.lookup peer with
  | none => c
  | some entry =>
    let pending := c.pending.erase peer
    let queried := insert entry.peer c.queried
    { c with
      pending, queried
      foundRecords := match record with
        | some record => if !record.isExpired now then c.foundRecords ++ [⟨entry.peer, record⟩]
            else c.foundRecords
        | none => c.foundRecords
      candidates := insertCandidates c.config.localPeerId c.config.target queried pending peers
        c.candidates }

def scheduleNextPeer (c : GetRecordContext P A) : GetRecordContext P A × Option (QueryAction P A) :=
  match c.candidates.popFirst with
  | none => (c, none)
  | some ((_, candidate), candidates) =>
    ({ c with candidates, pending := c.pending.insert candidate.peer candidate },
      some (.sendMessage c.config.query candidate.peer))

def isDone (c : GetRecordContext P A) : Bool := c.pending.keys.isEmpty && c.candidates.isEmpty

def nextAction (c : GetRecordContext P A) : GetRecordContext P A × Option (QueryAction P A) :=
  let knownRecords := c.config.knownRecords + c.foundRecords.length
  if c.isDone then
    (c, some (if knownRecords = 0 then .queryFailed c.config.query else .querySucceeded c.config.query))
  else if c.config.sufficientRecords c.foundRecords.length then
    (c, some (.querySucceeded c.config.query))
  else if c.pending.keys.length = c.config.parallelismFactor then (c, none)
  else c.scheduleNextPeer

end GetRecordContext

structure GetProvidersConfig (P A : Type) where
  localPeerId : P
  parallelismFactor : Nat
  query : QueryId
  target : KeyBytes
  knownProviders : List (KademliaPeer P A)

structure GetProvidersContext (P A : Type) where
  config : GetProvidersConfig P A
  pending : PendingPeers P A
  queried : Finset P
  candidates : Candidates P A
  foundProviders : List (KademliaPeer P A)

namespace GetProvidersContext

def new (config : GetProvidersConfig P A) (candidatePeers : List (KademliaPeer P A)) :
    GetProvidersContext P A :=
  { config, pending := ∅, queried := ∅,
    candidates := Candidates.ofPeers config.target candidatePeers, foundProviders := [] }

def registerResponseFailure (c : GetProvidersContext P A) (peer : P) : GetProvidersContext P A :=
  match c.pending.lookup peer with
  | none => c
  | some entry => { c with pending := c.pending.erase peer, queried := insert entry.peer c.queried }

def registerResponse (c : GetProvidersContext P A) (peer : P) (providers closerPeers : List (KademliaPeer P A)) :
    GetProvidersContext P A :=
  match c.pending.lookup peer with
  | none => c
  | some entry =>
    let pending := c.pending.erase peer
    let queried := insert entry.peer c.queried
    { c with
      pending, queried
      foundProviders := c.foundProviders ++ providers
      candidates := insertCandidates c.config.localPeerId c.config.target queried pending closerPeers
        c.candidates }

def scheduleNextPeer (c : GetProvidersContext P A) : GetProvidersContext P A × Option (QueryAction P A) :=
  match c.candidates.popFirst with
  | none => (c, none)
  | some ((_, candidate), candidates) =>
    ({ c with candidates, pending := c.pending.insert candidate.peer candidate },
      some (.sendMessage c.config.query candidate.peer))

def isDone (c : GetProvidersContext P A) : Bool := c.pending.keys.isEmpty && c.candidates.isEmpty

/-- `GetProvidersContext::next_action`: a query that cannot go on fails when it has found no
provider, whatever it knew before it started. -/
def nextAction (c : GetProvidersContext P A) : GetProvidersContext P A × Option (QueryAction P A) :=
  if c.isDone then
    (c, some (if c.foundProviders.isEmpty then .queryFailed c.config.query
      else .querySucceeded c.config.query))
  else if c.pending.keys.length = c.config.parallelismFactor then (c, none)
  else c.scheduleNextPeer

variable [DecidableEq A]

def extendAddresses (addresses : List A) (more : List A) : List A :=
  more.foldl (fun addresses address => addresses.insert address) addresses

/-- The providers by peer, as `providers.entry(peer).or_default().extend(addresses)` gathers them;
the map's order is the model's choice, as a `HashMap`'s is the hasher's. -/
def mergeProviders (providers : List (KademliaPeer P A)) : AList fun _ : P => List A :=
  providers.foldl (fun merged provider =>
    merged.insert provider.peer (extendAddresses ((merged.lookup provider.peer).getD []) provider.addresses))
    ∅

/-- `GetProvidersContext::merge_and_sort_providers`; `sort_unstable_by` is a merge sort here, one
of the orders the unstable sort may leave peers at the same distance in. -/
def mergeAndSortProviders (x : WireExternals P A) (providers : List (KademliaPeer P A)) (target : KeyBytes) :
    List (ContentProvider P A) :=
  ((mergeProviders providers).entries.map fun entry => (⟨entry.1, entry.2⟩ : ContentProvider P A)).mergeSort
    fun p₁ p₂ => ((x.keyOf p₁.peer).distance target).val.toNat ≤ ((x.keyOf p₂.peer).distance target).val.toNat

def foundProvidersMerged (x : WireExternals P A) (c : GetProvidersContext P A) : List (ContentProvider P A) :=
  mergeAndSortProviders x (c.config.knownProviders ++ c.foundProviders) c.config.target

end GetProvidersContext

structure FindManyNodesContext (P A : Type) where
  query : QueryId
  peersToReport : List (KademliaPeer P A)

def FindManyNodesContext.nextAction (c : FindManyNodesContext P A) : Option (QueryAction P A) :=
  some (.querySucceeded c.query)

inductive QueryType (P A : Type) where
  | findNode (context : FindNodeContext P A)
  | putRecord (record : Record P) (context : FindNodeContext P A)
  | putRecordToPeers (record : Record P) (context : FindManyNodesContext P A)
  | getRecord (context : GetRecordContext P A)
  | addProvider (providedKey : RecordKey) (provider : ContentProvider P A) (context : FindNodeContext P A)
  | getProviders (context : GetProvidersContext P A)

/-- The message type each query type asks its peers for. -/
def QueryType.Accepts : QueryType P A → KademliaMessage P A → Bool
  | .findNode _, .findNode _ _ => true
  | .putRecord _ _, .findNode _ _ => true
  | .putRecordToPeers _ _, .findNode _ _ => true
  | .getRecord _, .getRecord _ _ _ => true
  | .addProvider _ _ _, .findNode _ _ => true
  | .getProviders _, .getProviders _ _ _ => true
  | _, _ => false

/-- A query's `next_action`, by its type. -/
def QueryType.nextAction (now : Nat) : QueryType P A → QueryType P A × Option (QueryAction P A)
  | .findNode context =>
    let r := context.nextAction now
    (.findNode r.1, r.2)
  | .putRecord record context =>
    let r := context.nextAction now
    (.putRecord record r.1, r.2)
  | .putRecordToPeers record context => (.putRecordToPeers record context, context.nextAction)
  | .getRecord context =>
    let r := context.nextAction
    (.getRecord r.1, r.2)
  | .addProvider providedKey provider context =>
    let r := context.nextAction now
    (.addProvider providedKey provider r.1, r.2)
  | .getProviders context =>
    let r := context.nextAction
    (.getProviders r.1, r.2)

def ContentProvider.toKademliaPeer (x : WireExternals P A) (provider : ContentProvider P A) :
    KademliaPeer P A :=
  { key := x.keyOf provider.peer, peer := provider.peer, addresses := provider.addresses,
    connection := .notConnected }

structure QueryEngine (P A : Type) where
  localPeerId : P
  replicationFactor : Nat
  parallelismFactor : Nat
  queries : AList fun _ : QueryId => QueryType P A

namespace QueryEngine

def new (localPeerId : P) (replicationFactor parallelismFactor : Nat) : QueryEngine P A :=
  { localPeerId, replicationFactor, parallelismFactor, queries := ∅ }

def findNodeConfig (e : QueryEngine P A) (query : QueryId) (target : KeyBytes) : FindNodeConfig P :=
  { localPeerId := e.localPeerId, replicationFactor := e.replicationFactor,
    parallelismFactor := e.parallelismFactor, query, target }

def setQuery (e : QueryEngine P A) (query : QueryId) (q : QueryType P A) : QueryEngine P A :=
  { e with queries := e.queries.insert query q }

def startFindNode (x : WireExternals P A) (e : QueryEngine P A) (queryId : QueryId) (target : P)
    (candidates : List (KademliaPeer P A)) : QueryEngine P A :=
  e.setQuery queryId
    (.findNode (.new (e.findNodeConfig queryId (x.keyOf target)) candidates))

def startPutRecord (x : WireExternals P A) (e : QueryEngine P A) (queryId : QueryId) (record : Record P)
    (candidates : List (KademliaPeer P A)) : QueryEngine P A :=
  e.setQuery queryId
    (.putRecord record (.new (e.findNodeConfig queryId (x.keyOfBytes record.key)) candidates))

def startPutRecordToPeers (e : QueryEngine P A) (queryId : QueryId) (record : Record P)
    (peersToReport : List (KademliaPeer P A)) : QueryEngine P A :=
  e.setQuery queryId (.putRecordToPeers record ⟨queryId, peersToReport⟩)

/-- `QueryEngine::start_get_record`, with the number `count` of records the local store holds. -/
def startGetRecord (x : WireExternals P A) (e : QueryEngine P A) (queryId : QueryId) (target : RecordKey)
    (candidates : List (KademliaPeer P A)) (quorum : Quorum) (count : Nat) : QueryEngine P A :=
  let config : GetRecordConfig P :=
    { localPeerId := e.localPeerId, knownRecords := count, quorum,
      replicationFactor := e.replicationFactor, parallelismFactor := e.parallelismFactor,
      query := queryId, target := x.keyOfBytes target }
  e.setQuery queryId (.getRecord (.new config candidates))

def startAddProvider (x : WireExternals P A) (e : QueryEngine P A) (queryId : QueryId)
    (providedKey : RecordKey) (provider : ContentProvider P A) (candidates : List (KademliaPeer P A)) :
    QueryEngine P A :=
  e.setQuery queryId
    (.addProvider providedKey provider
      (.new (e.findNodeConfig queryId (x.keyOfBytes providedKey)) candidates))

/-- `QueryEngine::start_get_providers`, with the providers the local store knows. -/
def startGetProviders (x : WireExternals P A) (e : QueryEngine P A) (queryId : QueryId) (key : RecordKey)
    (candidates : List (KademliaPeer P A)) (knownProviders : List (ContentProvider P A)) :
    QueryEngine P A :=
  let config : GetProvidersConfig P A :=
    { localPeerId := e.localPeerId, parallelismFactor := e.parallelismFactor,
      query := queryId, target := x.keyOfBytes key,
      knownProviders := knownProviders.map (ContentProvider.toKademliaPeer x) }
  e.setQuery queryId (.getProviders (.new config candidates))

def registerResponseFailure (e : QueryEngine P A) (query : QueryId) (peer : P) : QueryEngine P A :=
  match e.queries.lookup query with
  | none => e
  | some (.findNode context) => e.setQuery query (.findNode (context.registerResponseFailure peer))
  | some (.putRecord record context) =>
    e.setQuery query (.putRecord record (context.registerResponseFailure peer))
  | some (.putRecordToPeers _ _) => e
  | some (.getRecord context) => e.setQuery query (.getRecord (context.registerResponseFailure peer))
  | some (.addProvider providedKey provider context) =>
    e.setQuery query (.addProvider providedKey provider (context.registerResponseFailure peer))
  | some (.getProviders context) =>
    e.setQuery query (.getProviders (context.registerResponseFailure peer))

/-- `QueryEngine::register_response`, at the time `now`; `unreachable!()` is `Error.panicked`. -/
def registerResponse (e : QueryEngine P A) (now : Nat) (query : QueryId) (peer : P)
    (message : KademliaMessage P A) : Except Error (QueryEngine P A) :=
  match e.queries.lookup query, message with
  | none, _ => .ok e
  | some (.findNode context), .findNode _ peers =>
    .ok (e.setQuery query (.findNode (context.registerResponse peer peers)))
  | some (.putRecord record context), .findNode _ peers =>
    .ok (e.setQuery query (.putRecord record (context.registerResponse peer peers)))
  | some (.putRecordToPeers _ _), .findNode _ _ => .ok e
  | some (.getRecord context), .getRecord _ record peers =>
    .ok (e.setQuery query (.getRecord (context.registerResponse now peer record peers)))
  | some (.addProvider providedKey provider context), .findNode _ peers =>
    .ok (e.setQuery query (.addProvider providedKey provider (context.registerResponse peer peers)))
  | some (.getProviders context), .getProviders _ peers providers =>
    .ok (e.setQuery query (.getProviders (context.registerResponse peer providers peers)))
  | some _, _ => .error .panicked

/-- Registering a response fails exactly when the query is active and does not accept the
message's type, and then by a panic. -/
theorem registerResponse_eq_error_iff (e : QueryEngine P A) (now : Nat) (query : QueryId) (peer : P)
    (message : KademliaMessage P A) (err : Error) :
    e.registerResponse now query peer message = .error err ↔
      err = .panicked ∧ ∃ q, e.queries.lookup query = some q ∧ q.Accepts message = false := by
  unfold registerResponse
  cases hq : e.queries.lookup query with
  | none => simp
  | some q =>
      cases q <;> cases message <;>
        simp only [QueryType.Accepts, Option.some.injEq, exists_eq_left', Except.error.injEq,
          reduceCtorEq, and_true, and_false, Bool.true_eq_false, exists_eq', iff_self] <;>
        exact eq_comm

variable [DecidableEq A] (x : WireExternals P A)

/-- `QueryEngine::on_query_succeeded`: the query leaves the engine with its report;
`expect("query to exist")` is `Error.panicked`. -/
def onQuerySucceeded (e : QueryEngine P A) (query : QueryId) : Except Error (QueryEngine P A × QueryAction P A) :=
  match e.queries.lookup query with
  | none => .error .panicked
  | some q =>
    .ok ({ e with queries := e.queries.erase query },
      match q with
      | .findNode context => .findNodeQuerySucceeded query (context.responses.entries.map (·.2))
      | .putRecord record context => .putRecordToFoundNodes record (context.responses.entries.map (·.2))
      | .putRecordToPeers record context => .putRecordToFoundNodes record context.peersToReport
      | .getRecord context => .getRecordQueryDone context.config.query context.foundRecords
      | .addProvider providedKey provider context =>
        .addProviderToFoundNodes providedKey provider (context.responses.entries.map (·.2))
      | .getProviders context =>
        .getProvidersQueryDone context.config.query (context.foundProvidersMerged x))

def onQueryFailed (e : QueryEngine P A) (query : QueryId) : Except Error (QueryEngine P A × QueryAction P A) :=
  match e.queries.lookup query with
  | none => .error .panicked
  | some _ => .ok ({ e with queries := e.queries.erase query }, .queryFailed query)

/-- The loop of `QueryEngine::next_action` over the queries `queries`, at the time `now`: each
query's `next_action` runs, and changes it, until one has an action. -/
def nextActionOf (now : Nat) (e : QueryEngine P A) :
    List QueryId → Except Error (QueryEngine P A × Option (QueryAction P A))
  | [] => .ok (e, none)
  | query :: rest =>
    match e.queries.lookup query with
    | none => nextActionOf now e rest
    | some q =>
      let r := q.nextAction now
      let e := e.setQuery query r.1
      match r.2 with
      | some (.querySucceeded query) => (e.onQuerySucceeded x query).map fun r => (r.1, some r.2)
      | some (.queryFailed query) => (e.onQueryFailed query).map fun r => (r.1, some r.2)
      | some action => .ok (e, some action)
      | none => nextActionOf now e rest

def nextAction (e : QueryEngine P A) (now : Nat) : Except Error (QueryEngine P A × Option (QueryAction P A)) :=
  e.nextActionOf x now e.queries.keys

end QueryEngine

end Litep2p.Kademlia
