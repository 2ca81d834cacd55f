import Mathlib
import Litep2p.Lib.Mealy

/-! The bookkeeping of outbound requests in `RequestResponseProtocol` (`request_response/mod.rs`).
A request sent to a peer that is not connected waits in `pending_dials`, keyed by the peer; a
request whose substream is being opened waits in `pending_outbound`, keyed by the substream; a
request whose substream is open is a future of `pending_inbound`. The connected peers carry the
set `active` of their outbound requests, and every outcome reaches the user as a
`RequestFailed` or `ResponseReceived` event.

The protocol is a machine (`step`) over the user's commands and the transport's events; what
`TransportService::dial` and `open_substream` answer is part of the input, and so is the result
of a future when it resolves, in whatever order `FuturesUnordered` yields them. The inbound side
(requests the remote sends, `active_inbound` and the responses to them) touches none of this
bookkeeping and is left out.

A request id stops being held by the protocol only by leaving it, and no step reports on an id
the protocol does not hold (`step_confined`), so a request the protocol lets go
of without an event is never reported on (`run_no_event_of_not_known`). -/

namespace Litep2p.RequestResponse

abbrev RequestId := Nat

abbrev SubstreamId := Nat

section HeldIds

variable {κ β : Type} [DecidableEq κ] (ids : β → List RequestId)

def heldIds (m : AList fun _ : κ => β) : List RequestId :=
  m.entries.flatMap fun e => ids e.2

theorem mem_heldIds_insert {m : AList fun _ : κ => β} {k : κ} {b : β} {id : RequestId}
    (h : id ∈ heldIds ids (m.insert k b)) : id ∈ ids b ∨ id ∈ heldIds ids m := by
  simp only [heldIds, AList.entries_insert, List.flatMap_cons, List.mem_append] at h
  refine h.imp_right fun h => ?_
  obtain ⟨e, he, hid⟩ := List.mem_flatMap.mp h
  exact List.mem_flatMap.mpr ⟨e, (List.kerase_sublist k m.entries).subset he, hid⟩

theorem mem_heldIds_erase {m : AList fun _ : κ => β} {k : κ} {id : RequestId}
    (h : id ∈ heldIds ids (m.erase k)) : id ∈ heldIds ids m := by
  obtain ⟨e, he, hid⟩ := List.mem_flatMap.mp h
  exact List.mem_flatMap.mpr ⟨e, (List.kerase_sublist k m.entries).subset he, hid⟩

theorem mem_heldIds_of_lookup {m : AList fun _ : κ => β} {k : κ} {b : β} {id : RequestId}
    (hk : m.lookup k = some b) (h : id ∈ ids b) : id ∈ heldIds ids m :=
  List.mem_flatMap.mpr ⟨⟨k, b⟩, AList.mem_lookup_iff.mp hk, h⟩

end HeldIds

/-- What the protocol reads of a `SubstreamError`: a `MultistreamFailed` negotiation error, an io
error of kind `NotConnected` (directly, in yamux or in the negotiation), or another error. -/
inductive SubstreamOpenError where
  | multistreamFailed
  | notConnected
  | other
  deriving DecidableEq, Repr

/-- `RejectReason`; the substream error behind `SubstreamOpenError` is not kept. -/
inductive RejectReason where
  | substreamOpenError
  | connectionClosed
  | substreamClosed
  /-- `DialFailed`, with whether the dial failed at once (`Some(error)`). -/
  | dialFailed (immediate : Bool)
  deriving DecidableEq, Repr

def RejectReason.ofSubstreamError : SubstreamOpenError → RejectReason
  | .notConnected => .connectionClosed
  | _ => .substreamOpenError

inductive RequestResponseError where
  | rejected (reason : RejectReason)
  | canceled
  | timeout
  | notConnected
  | tooLargePayload
  | unsupportedProtocol
  deriving DecidableEq, Repr

inductive DialOptions where
  | dial
  | reject
  deriving DecidableEq, Repr

variable {P : Type}

/-- `RequestContext`: an outbound request and its fallback protocol and request. -/
structure RequestContext (P : Type) where
  peer : P
  requestId : RequestId
  request : List UInt8
  fallback : Option (List UInt8 × List UInt8)
  deriving DecidableEq, Repr

structure PeerContext where
  active : List RequestId
  deriving DecidableEq, Repr

/-- A future of `pending_inbound`: the request written on an open substream, waiting for the
response. -/
structure PendingRequest (P : Type) where
  peer : P
  requestId : RequestId
  fallbackProtocol : Option (List UInt8)
  request : List UInt8
  deriving DecidableEq, Repr

/-- `InnerRequestResponseEvent`, the events of outbound requests. -/
inductive InnerRequestResponseEvent (P : Type) where
  | responseReceived (peer : P) (requestId : RequestId) (response : List UInt8)
      (fallback : Option (List UInt8))
  | requestFailed (peer : P) (requestId : RequestId) (error : RequestResponseError)
  deriving DecidableEq, Repr

def InnerRequestResponseEvent.requestId : InnerRequestResponseEvent P → RequestId
  | .responseReceived _ requestId _ _ | .requestFailed _ requestId _ => requestId

/-- `RequestResponseProtocol`, by its outbound bookkeeping. `pending_outbound_cancels` is kept by
its keys. -/
structure RequestResponseProtocol (P : Type) where
  peers : AList fun _ : P => PeerContext
  pendingOutbound : AList fun _ : SubstreamId => RequestContext P
  pendingInbound : List (PendingRequest P)
  pendingOutboundCancels : List RequestId
  pendingDials : AList fun _ : P => RequestContext P

/-- A user command or a transport event, with what the transport service answers to the calls
its handling makes. -/
inductive Input (P : Type) where
  /-- `SendRequest` (`fallback = none`) or `SendRequestWithFallback`; `dial` is whether
  `service.dial` succeeds and `openSubstream` what `service.open_substream` returns. -/
  | sendRequest (peer : P) (requestId : RequestId) (request : List UInt8)
      (dialOptions : DialOptions) (fallback : Option (List UInt8 × List UInt8)) (dial : Bool)
      (openSubstream : Except SubstreamOpenError SubstreamId)
  | cancelRequest (requestId : RequestId)
  /-- `ConnectionEstablished`, with what `service.open_substream` returns. -/
  | connectionEstablished (peer : P) (openSubstream : Except SubstreamOpenError SubstreamId)
  | connectionClosed (peer : P)
  /-- `SubstreamOpened` in the outbound direction. -/
  | substreamOpened (peer : P) (substream : SubstreamId) (fallback : Option (List UInt8))
  | substreamOpenFailure (substream : SubstreamId) (error : SubstreamOpenError)
  | dialFailure (peer : P)
  /-- The future at `index` of `pending_inbound` resolves with `result`. -/
  | requestDone (index : Nat) (result : Except RequestResponseError (List UInt8))

def Input.sentId? : Input P → Option RequestId
  | .sendRequest _ requestId _ _ _ _ _ => some requestId
  | _ => none

namespace RequestResponseProtocol

/-- The request ids the protocol holds: in `pending_dials`, in `pending_outbound`, in the futures
and in the active sets of the peers. -/
def knownIds (s : RequestResponseProtocol P) : List RequestId :=
  heldIds (fun c => [c.requestId]) s.pendingDials ++ heldIds (fun c => [c.requestId]) s.pendingOutbound ++
    s.pendingInbound.map (·.requestId) ++ heldIds PeerContext.active s.peers

theorem mem_knownIds {s : RequestResponseProtocol P} {id : RequestId} :
    id ∈ knownIds s ↔ id ∈ heldIds (fun c => [c.requestId]) s.pendingDials ∨
      id ∈ heldIds (fun c => [c.requestId]) s.pendingOutbound ∨
      id ∈ s.pendingInbound.map (·.requestId) ∨ id ∈ heldIds PeerContext.active s.peers := by
  simp only [knownIds, List.mem_append, or_assoc]

theorem mem_knownIds_of_pendingOutbound {s : RequestResponseProtocol P} {substream : SubstreamId}
    {context : RequestContext P} (h : s.pendingOutbound.lookup substream = some context) :
    context.requestId ∈ knownIds s :=
  mem_knownIds.mpr (.inr (.inl (mem_heldIds_of_lookup _ h (List.mem_singleton_self _))))

/-- The result `r` of handling an input in state `s` holds and reports only request ids that `s`
holds or the id `sent` of a command. -/
def Confined (s : RequestResponseProtocol P) (sent : Option RequestId)
    (r : RequestResponseProtocol P × List (InnerRequestResponseEvent P)) : Prop :=
  (∀ id ∈ knownIds r.1, id ∈ knownIds s ∨ sent = some id) ∧
    ∀ e ∈ r.2, e.requestId ∈ knownIds s ∨ sent = some e.requestId

theorem Confined.of_subset {s s' : RequestResponseProtocol P} {sent : Option RequestId}
    {r : RequestResponseProtocol P × List (InnerRequestResponseEvent P)}
    (h : Confined s' sent r) (hs : ∀ id ∈ knownIds s', id ∈ knownIds s) : Confined s sent r :=
  ⟨fun id hid => (h.1 id hid).imp_left (hs id), fun e he => (h.2 e he).imp_left (hs _)⟩

theorem Confined.self {s : RequestResponseProtocol P} {sent : Option RequestId} :
    Confined s sent (s, []) :=
  ⟨fun _ h => .inl h, by simp⟩

variable [DecidableEq P]

def new : RequestResponseProtocol P := ⟨∅, ∅, [], [], ∅⟩

def removeActive (peers : AList fun _ : P => PeerContext) (peer : P) (requestId : RequestId) :
    AList fun _ : P => PeerContext :=
  match peers.lookup peer with
  | none => peers
  | some context => peers.insert peer ⟨context.active.erase requestId⟩

def onSendRequest (s : RequestResponseProtocol P) (peer : P) (requestId : RequestId)
    (request : List UInt8) (dialOptions : DialOptions) (fallback : Option (List UInt8 × List UInt8))
    (dial : Bool) (openSubstream : Except SubstreamOpenError SubstreamId) :
    RequestResponseProtocol P × Except RequestResponseError Unit :=
  match s.peers.lookup peer with
  | none =>
    match dialOptions with
    | .reject => (s, .error .notConnected)
    | .dial =>
      if dial then
        ({ s with pendingDials := s.pendingDials.insert peer ⟨peer, requestId, request, fallback⟩ },
          .ok ())
      else (s, .error (.rejected (.dialFailed true)))
  | some context =>
    match openSubstream with
    | .ok substreamId =>
      ({ s with
          peers := s.peers.insert peer ⟨context.active.insert requestId⟩
          pendingOutbound := s.pendingOutbound.insert substreamId ⟨peer, requestId, request, fallback⟩ },
        .ok ())
    | .error error => (s, .error (.rejected (.ofSubstreamError error)))

/-- `on_connection_established`. When the substream of the dial's request fails to open, the peer
is not registered. -/
def onConnectionEstablished (s : RequestResponseProtocol P) (peer : P)
    (openSubstream : Except SubstreamOpenError SubstreamId) :
    RequestResponseProtocol P × List (InnerRequestResponseEvent P) :=
  if peer ∈ s.peers then (s, [])
  else
    match s.pendingDials.lookup peer with
    | none => ({ s with peers := s.peers.insert peer ⟨[]⟩ }, [])
    | some context =>
      let s := { s with pendingDials := s.pendingDials.erase peer }
      match openSubstream with
      | .ok substreamId =>
        ({ s with
            peers := s.peers.insert peer ⟨[context.requestId]⟩
            pendingOutbound := s.pendingOutbound.insert substreamId
              ⟨peer, context.requestId, context.request, context.fallback⟩ }, [])
      | .error error =>
        (s, [.requestFailed peer context.requestId (.rejected (.ofSubstreamError error))])

/-- `on_connection_closed`: every active request of the peer is reported failed, while its
entries of `pending_outbound` and its futures stay. -/
def onConnectionClosed (s : RequestResponseProtocol P) (peer : P) :
    RequestResponseProtocol P × List (InnerRequestResponseEvent P) :=
  match s.peers.lookup peer with
  | none => (s, [])
  | some context =>
    ({ s with peers := s.peers.erase peer },
      context.active.map fun requestId => .requestFailed peer requestId (.rejected .connectionClosed))

/-- `on_outbound_substream`: the request, or its fallback if the fallback protocol was negotiated,
is written, and the future that waits for the response is pushed. -/
def onOutboundSubstream (s : RequestResponseProtocol P) (peer : P) (substreamId : SubstreamId)
    (fallbackProtocol : Option (List UInt8)) : RequestResponseProtocol P :=
  match s.pendingOutbound.lookup substreamId with
  | none => s
  | some context =>
    let request := match fallbackProtocol, context.fallback with
      | some protocol, some (fallbackProtocol, fallbackRequest) =>
        if protocol = fallbackProtocol then fallbackRequest else context.request
      | _, _ => context.request
    { s with
      pendingOutbound := s.pendingOutbound.erase substreamId
      pendingOutboundCancels := s.pendingOutboundCancels.insert context.requestId
      pendingInbound := s.pendingInbound ++ [⟨peer, context.requestId, fallbackProtocol, request⟩] }

def onSubstreamOpenFailure (s : RequestResponseProtocol P) (substream : SubstreamId)
    (error : SubstreamOpenError) : RequestResponseProtocol P × List (InnerRequestResponseEvent P) :=
  match s.pendingOutbound.lookup substream with
  | none => (s, [])
  | some context =>
    ({ s with
        pendingOutbound := s.pendingOutbound.erase substream
        peers := removeActive s.peers context.peer context.requestId },
      [.requestFailed context.peer context.requestId
        (match error with
          | .multistreamFailed => .unsupportedProtocol
          | error => .rejected (.ofSubstreamError error))])

def onDialFailure (s : RequestResponseProtocol P) (peer : P) :
    RequestResponseProtocol P × List (InnerRequestResponseEvent P) :=
  match s.pendingDials.lookup peer with
  | none => (s, [])
  | some context =>
    ({ s with
        pendingDials := s.pendingDials.erase peer
        peers := removeActive s.peers peer context.requestId },
      [.requestFailed peer context.requestId (.rejected (.dialFailed false))])

/-- `on_cancel_request`: the cancel handle is used, and the future, if still waiting, resolves with
`Canceled`. -/
def onCancelRequest (s : RequestResponseProtocol P) (requestId : RequestId) :
    RequestResponseProtocol P :=
  { s with pendingOutboundCancels := s.pendingOutboundCancels.erase requestId }

/-- `on_substream_event`: a resolved future is reported if its request is still active. -/
def onSubstreamEvent (s : RequestResponseProtocol P) (peer : P) (requestId : RequestId)
    (fallback : Option (List UInt8)) (message : Except RequestResponseError (List UInt8)) :
    RequestResponseProtocol P × List (InnerRequestResponseEvent P) :=
  match s.peers.lookup peer with
  | none => (s, [])
  | some context =>
    if requestId ∈ context.active then
      let s := { s with peers := s.peers.insert peer ⟨context.active.erase requestId⟩ }
      match message with
      | .ok response => (s, [.responseReceived peer requestId response fallback])
      | .error .canceled => (s, [])
      | .error error => (s, [.requestFailed peer requestId error])
    else (s, [])

/-- One round of the event loop: `handle_user_command`, `handle_service_event`, or a future of
`pending_inbound` that resolves. -/
def step (s : RequestResponseProtocol P) :
    Input P → RequestResponseProtocol P × List (InnerRequestResponseEvent P)
  | .sendRequest peer requestId request dialOptions fallback dial openSubstream =>
    match s.onSendRequest peer requestId request dialOptions fallback dial openSubstream with
    | (s, .ok ()) => (s, [])
    | (s, .error error) => (s, [.requestFailed peer requestId error])
  | .cancelRequest requestId => (s.onCancelRequest requestId, [])
  | .connectionEstablished peer openSubstream => s.onConnectionEstablished peer openSubstream
  | .connectionClosed peer => s.onConnectionClosed peer
  | .substreamOpened peer substream fallback => (s.onOutboundSubstream peer substream fallback, [])
  | .substreamOpenFailure substream error => s.onSubstreamOpenFailure substream error
  | .dialFailure peer => s.onDialFailure peer
  | .requestDone index result =>
    match s.pendingInbound[index]? with
    | none => (s, [])
    | some pending =>
      { s with pendingInbound := s.pendingInbound.eraseIdx index }.onSubstreamEvent pending.peer
        pending.requestId pending.fallbackProtocol result

theorem mem_knownIds_of_pendingDials {s : RequestResponseProtocol P} {peer : P} {context : RequestContext P}
    (h : s.pendingDials.lookup peer = some context) : context.requestId ∈ knownIds s :=
  mem_knownIds.mpr (.inl (mem_heldIds_of_lookup _ h (List.mem_singleton_self _)))

theorem mem_knownIds_of_active {s : RequestResponseProtocol P} {peer : P} {context : PeerContext}
    {id : RequestId} (h : s.peers.lookup peer = some context) (hid : id ∈ context.active) :
    id ∈ knownIds s :=
  mem_knownIds.mpr (.inr (.inr (.inr (mem_heldIds_of_lookup _ h hid))))

theorem mem_heldIds_removeActive {peers : AList fun _ : P => PeerContext} {peer : P}
    {requestId id : RequestId} (h : id ∈ heldIds PeerContext.active (removeActive peers peer requestId)) :
    id ∈ heldIds PeerContext.active peers := by
  unfold removeActive at h
  split at h
  · exact h
  · rename_i context hcontext
    rcases mem_heldIds_insert _ h with h | h
    · exact mem_heldIds_of_lookup _ hcontext (List.mem_of_mem_erase h)
    · exact h

theorem onSendRequest_known (s : RequestResponseProtocol P) (peer : P) (requestId : RequestId)
    (request : List UInt8) (dialOptions : DialOptions) (fallback : Option (List UInt8 × List UInt8))
    (dial : Bool) (openSubstream : Except SubstreamOpenError SubstreamId) :
    ∀ id ∈ knownIds (s.onSendRequest peer requestId request dialOptions fallback dial openSubstream).1,
      id ∈ knownIds s ∨ some requestId = some id := by
  intro id h
  unfold onSendRequest at h
  split at h
  · split at h
    · exact .inl h
    · split at h
      · rw [mem_knownIds] at h
        rw [mem_knownIds, Option.some.injEq]
        grind [mem_heldIds_insert]
      · exact .inl h
  · split at h
    · rw [mem_knownIds] at h
      rw [mem_knownIds, Option.some.injEq]
      grind [mem_heldIds_insert, mem_heldIds_of_lookup]
    · exact .inl h

theorem onConnectionEstablished_confined (s : RequestResponseProtocol P) (peer : P)
    (openSubstream : Except SubstreamOpenError SubstreamId) : Confined s none (s.onConnectionEstablished peer openSubstream) := by
  unfold onConnectionEstablished
  split
  · exact Confined.self
  · split
    · refine ⟨fun id h => .inl ?_, by simp⟩
      rw [mem_knownIds] at h ⊢
      grind [mem_heldIds_insert]
    · rename_i context hcontext
      split
      · refine ⟨fun id h => .inl ?_, by simp⟩
        rw [mem_knownIds] at h ⊢
        grind [mem_heldIds_insert, mem_heldIds_erase, mem_heldIds_of_lookup]
      · refine ⟨fun id h => .inl ?_, ?_⟩
        · rw [mem_knownIds] at h ⊢
          grind [mem_heldIds_erase]
        · simp only [List.mem_singleton, forall_eq, InnerRequestResponseEvent.requestId]
          exact .inl (mem_knownIds_of_pendingDials hcontext)

theorem onConnectionClosed_confined (s : RequestResponseProtocol P) (peer : P) :
    Confined s none (s.onConnectionClosed peer) := by
  unfold onConnectionClosed
  split
  · exact Confined.self
  · rename_i context hcontext
    refine ⟨fun id h => .inl ?_, ?_⟩
    · rw [mem_knownIds] at h ⊢
      grind [mem_heldIds_erase]
    · simp only [List.mem_map, forall_exists_index, and_imp, forall_apply_eq_imp_iff₂,
        InnerRequestResponseEvent.requestId]
      intro id hid
      exact .inl (mem_knownIds_of_active hcontext hid)

omit [DecidableEq P] in
theorem onOutboundSubstream_known (s : RequestResponseProtocol P) (peer : P) (substreamId : SubstreamId)
    (fallbackProtocol : Option (List UInt8)) :
    ∀ id ∈ knownIds (s.onOutboundSubstream peer substreamId fallbackProtocol), id ∈ knownIds s := by
  intro id h
  unfold onOutboundSubstream at h
  split at h
  · exact h
  · rw [mem_knownIds] at h ⊢
    grind [mem_heldIds_erase, mem_heldIds_of_lookup]

theorem onSubstreamOpenFailure_confined (s : RequestResponseProtocol P) (substream : SubstreamId)
    (error : SubstreamOpenError) : Confined s none (s.onSubstreamOpenFailure substream error) := by
  unfold onSubstreamOpenFailure
  split
  · exact Confined.self
  · rename_i context hcontext
    refine ⟨fun id h => .inl ?_, ?_⟩
    · rw [mem_knownIds] at h ⊢
      grind [mem_heldIds_erase, mem_heldIds_removeActive]
    · simp only [List.mem_singleton, forall_eq, InnerRequestResponseEvent.requestId]
      exact .inl (mem_knownIds_of_pendingOutbound hcontext)

theorem onDialFailure_confined (s : RequestResponseProtocol P) (peer : P) :
    Confined s none (s.onDialFailure peer) := by
  unfold onDialFailure
  split
  · exact Confined.self
  · rename_i context hcontext
    refine ⟨fun id h => .inl ?_, ?_⟩
    · rw [mem_knownIds] at h ⊢
      grind [mem_heldIds_erase, mem_heldIds_removeActive]
    · simp only [List.mem_singleton, forall_eq, InnerRequestResponseEvent.requestId]
      exact .inl (mem_knownIds_of_pendingDials hcontext)

theorem onSubstreamEvent_confined (s : RequestResponseProtocol P) (peer : P) (requestId : RequestId)
    (fallback : Option (List UInt8)) (message : Except RequestResponseError (List UInt8)) :
    Confined s none (s.onSubstreamEvent peer requestId fallback message) := by
  unfold onSubstreamEvent
  split
  · exact Confined.self
  · rename_i context hcontext
    split
    · rename_i hactive
      have hknown : requestId ∈ knownIds s := mem_knownIds_of_active hcontext hactive
      have hstate : ∀ id ∈ knownIds { s with peers := s.peers.insert peer ⟨context.active.erase requestId⟩ },
          id ∈ knownIds s := by
        intro id h
        rw [mem_knownIds] at h ⊢
        grind [mem_heldIds_insert, mem_heldIds_of_lookup, List.mem_of_mem_erase]
      split <;> exact ⟨fun id h => .inl (hstate id h), by simp [InnerRequestResponseEvent.requestId, hknown]⟩
    · exact Confined.self

theorem step_confined (s : RequestResponseProtocol P) (i : Input P) : Confined s i.sentId? (step s i) := by
  cases i with
  | sendRequest peer requestId request dialOptions fallback dial openSubstream =>
      have hknown := s.onSendRequest_known peer requestId request dialOptions fallback dial openSubstream
      simp only [step, Input.sentId?]
      split <;> rename_i r h <;> rw [h] at hknown
      · exact ⟨hknown, by simp⟩
      · exact ⟨hknown, by simp [InnerRequestResponseEvent.requestId]⟩
  | cancelRequest requestId => exact ⟨fun _ h => .inl h, by simp [step]⟩
  | connectionEstablished peer openSubstream => exact s.onConnectionEstablished_confined peer openSubstream
  | connectionClosed peer => exact s.onConnectionClosed_confined peer
  | substreamOpened peer substream fallback =>
      exact ⟨fun id h => .inl (s.onOutboundSubstream_known peer substream fallback id h), by simp [step]⟩
  | substreamOpenFailure substream error => exact s.onSubstreamOpenFailure_confined substream error
  | dialFailure peer => exact s.onDialFailure_confined peer
  | requestDone index result =>
      simp only [step]
      split
      · exact Confined.self
      · rename_i pending hpending
        refine (onSubstreamEvent_confined _ _ _ _ _).of_subset fun id h => ?_
        rw [mem_knownIds] at h ⊢
        grind [List.mem_of_mem_eraseIdx]

/-- A request id that the protocol does not hold, and that no later command sends, stays out of
the protocol, and no event reports on it. -/
theorem run_no_event_of_not_known {s : RequestResponseProtocol P} {id : RequestId}
    (hs : id ∉ knownIds s) (inputs : List (Input P)) (hfresh : ∀ i ∈ inputs, i.sentId? ≠ some id) :
    id ∉ knownIds (Mealy.run step s inputs).1 ∧ ∀ e ∈ (Mealy.run step s inputs).2, e.requestId ≠ id := by
  refine Mealy.run_inv_outputs (fun s => id ∉ knownIds s) (fun i => i.sentId? ≠ some id)
    (fun e : InnerRequestResponseEvent P => e.requestId ≠ id) ?_ ?_ inputs s hs hfresh
  · intro s i hs hi hid
    rcases (step_confined s i).1 id hid with h | h
    · exact hs h
    · exact hi h
  · rintro s i hs hi e he rfl
    rcases (step_confined s i).2 e he with h | h
    · exact hs h
    · exact hi h

/-- Two requests to peer 7, which is not connected, each with `DialOptions::Dial` and a dial that
starts: the second takes the first's place in `pending_dials`. Request 1 then has no event, the
protocol holds it nowhere, and whatever follows that sends no other request 1 never reports on it.
And a request to a connected peer whose connection closes while its substream opens is reported
failed twice: once by `on_connection_closed`, once by the open failure that follows. -/
theorem sendRequest_to_dialing_peer_loses_request (rest : List {i : Input Nat // i.sentId? ≠ some 1}) :
    let first : List (Input Nat) :=
      [.sendRequest 7 1 [] .dial none true (.error .other), .sendRequest 7 2 [] .dial none true (.error .other)]
    (Mealy.run step new first).2 = [] ∧ 1 ∉ knownIds (Mealy.run step new first).1 ∧
    (∀ e ∈ (Mealy.run step new (first ++ rest.map Subtype.val)).2, e.requestId ≠ 1) ∧
    (Mealy.run step new [.connectionEstablished 7 (.error .other), .sendRequest 7 1 [] .reject none true (.ok 0),
        .connectionClosed 7, .substreamOpenFailure 0 .other]).2 =
      [.requestFailed 7 1 (.rejected .connectionClosed), .requestFailed 7 1 (.rejected .substreamOpenError)] := by
  intro first
  have hfirst : (Mealy.run step new first).2 = [] ∧ 1 ∉ knownIds (Mealy.run step new first).1 := by
    decide
  have hrest : ∀ i ∈ rest.map Subtype.val, i.sentId? ≠ some 1 := by
    simp only [List.mem_map]
    rintro _ ⟨i, -, rfl⟩
    exact i.2
  refine ⟨hfirst.1, hfirst.2, fun e he => ?_, by decide⟩
  rw [Mealy.run_append, hfirst.1, List.nil_append] at he
  exact (run_no_event_of_not_known hfirst.2 _ hrest).2 e he

end RequestResponseProtocol

end Litep2p.RequestResponse
