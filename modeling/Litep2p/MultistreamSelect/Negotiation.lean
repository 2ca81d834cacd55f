import Litep2p.MultistreamSelect.Protocol

/-! The two halves of a WebRTC substream negotiation: `DialerState::propose` and
`DialerState::register_response` of `dialer_select.rs`, and `listener_negotiate` of
`listener_select.rs`. The listener walks the offered names with one pass of an iterator over
its supported names, so once the main name is not found the iterator is spent: it accepts
exactly when the main name is supported (`listenerNegotiate_frames`). -/

namespace Litep2p.MultistreamSelect

inductive ListenerSelectResult where
  | accepted (protocol : ProtocolName) (message : List UInt8)
  | rejected (message : List UInt8)
  deriving DecidableEq

def negotiationFailed : Error := .negotiationError (.multistreamSelectError .failed)

/-- The inner loop of `listener_negotiate`: the iterator of supported names, advanced up to the
first name equal to `protocol`; the name found and what is left of the iterator. -/
def findSupported (protocol : Protocol) : List ProtocolName → Option ProtocolName × List ProtocolName
  | [] => (none, [])
  | supported :: rest =>
    if protocol.bytes = supported then (some supported, rest) else findSupported protocol rest

/-- The outer loop of `listener_negotiate`, over the offered names, on one iterator. -/
def selectOffered : List ProtocolName → List Protocol → Option (ProtocolName × Protocol)
  | _, [] => none
  | supported, protocol :: offered =>
    match findSupported protocol supported with
    | (some name, _) => some (name, protocol)
    | (none, rest) => selectOffered rest offered

def listenerNegotiate (u : Uvi) (supported : List ProtocolName) (payload : List UInt8) :
    Except Error ListenerSelectResult :=
  match Message.decode u payload with
  | .error _ => .error .invalidData
  | .ok (.protocols (header :: offered)) =>
    if header = multistreamHeader then
      match selectOffered supported offered with
      | some (name, protocol) => do
        let message ← encodeMultistreamMessage u [.protocol protocol]
        pure (.accepted name message)
      | none => do
        let message ← encodeMultistreamMessage u [.notAvailable]
        pure (.rejected message)
    else .error negotiationFailed
  | .ok _ => .error negotiationFailed

inductive HandshakeState where
  | waitingResponse
  | waitingProtocol
  deriving DecidableEq, Repr

inductive HandshakeResult where
  | notReady
  | succeeded (protocol : ProtocolName)
  deriving DecidableEq

structure DialerState where
  protocol : ProtocolName
  fallbackNames : List ProtocolName
  state : HandshakeState

/-- `DialerState::propose`: the main name and the fallbacks that are valid protocols. -/
def DialerState.propose (u : Uvi) (protocol : ProtocolName) (fallbackNames : List ProtocolName) :
    Except Error (DialerState × List UInt8) := do
  let message ← encodeMultistreamMessage u
    (((protocol :: fallbackNames).filterMap fun name => (Protocol.tryFrom name).toOption).map .protocol)
  pure (⟨protocol, fallbackNames, .waitingResponse⟩, message)

/-- The loop of `DialerState::register_response` over the names of the response, from the
state `state`; the state it leaves and the result. -/
def DialerState.registerProtocols (d : DialerState) :
    HandshakeState → List Protocol → HandshakeState × Except Litep2p.NegotiationError HandshakeResult
  | .waitingResponse, [] => (.waitingResponse, .error .stateMismatch)
  | .waitingResponse, protocol :: protocols =>
    if protocol = multistreamHeader then d.registerProtocols .waitingProtocol protocols
    else (.waitingResponse, .error (.multistreamSelectError .failed))
  | .waitingProtocol, protocol :: _ =>
    if d.protocol = protocol.bytes then (.waitingProtocol, .ok (.succeeded d.protocol))
    else
      match d.fallbackNames.find? (· = protocol.bytes) with
      | some fallback => (.waitingProtocol, .ok (.succeeded fallback))
      | none => (.waitingProtocol, .error (.multistreamSelectError .failed))
  | .waitingProtocol, [] => (.waitingProtocol, .ok .notReady)

def DialerState.registerResponse (u : Uvi) (d : DialerState) (payload : List UInt8) :
    DialerState × Except Litep2p.NegotiationError HandshakeResult :=
  match Message.decode u payload with
  | .error _ => (d, .error (.parseError .invalidData))
  | .ok (.protocols protocols) =>
    let (state, result) := d.registerProtocols d.state protocols
    ({ d with state }, result)
  | .ok _ => (d, .error (.multistreamSelectError .failed))

theorem findSupported_of_mem {protocol : Protocol} :
    ∀ {supported : List ProtocolName}, protocol.bytes ∈ supported →
      ∃ rest, findSupported protocol supported = (some protocol.bytes, rest)
  | name :: rest, hmem => by
      rw [findSupported]
      split_ifs with h
      · exact ⟨rest, by rw [h]⟩
      · exact findSupported_of_mem ((List.mem_cons.mp hmem).resolve_left h)

theorem findSupported_of_not_mem {protocol : Protocol} :
    ∀ {supported : List ProtocolName}, protocol.bytes ∉ supported →
      findSupported protocol supported = (none, [])
  | [], _ => rfl
  | name :: rest, hmem => by
      rw [findSupported, if_neg (fun h : protocol.bytes = name => hmem (h ▸ List.mem_cons_self)),
        findSupported_of_not_mem (fun h => hmem (List.mem_cons_of_mem name h))]

theorem selectOffered_nil (offered : List Protocol) : selectOffered [] offered = none := by
  cases offered with
  | nil => rfl
  | cons protocol offered =>
      rw [selectOffered, findSupported]
      exact selectOffered_nil offered

theorem selectOffered_cons (supported : List ProtocolName) (protocol : Protocol)
    (offered : List Protocol) :
    selectOffered supported (protocol :: offered) =
      if protocol.bytes ∈ supported then some (protocol.bytes, protocol) else none := by
  rw [selectOffered]
  split_ifs with hmem
  · obtain ⟨rest, hfound⟩ := findSupported_of_mem hmem
    rw [hfound]
  · rw [findSupported_of_not_mem hmem]
    exact selectOffered_nil offered

theorem filterMap_tryFrom :
    ∀ (names : List ProtocolName), (∀ name ∈ names, name.head? = some slash) →
      ∃ ps : List Protocol, names.filterMap (fun name => (Protocol.tryFrom name).toOption) = ps ∧
        ps.map Protocol.bytes = names
  | [], _ => ⟨[], rfl, rfl⟩
  | name :: names, hslash => by
      obtain ⟨ps, hps, hbytes⟩ := filterMap_tryFrom names fun n hn => hslash n (List.mem_cons_of_mem _ hn)
      have hname := hslash name List.mem_cons_self
      refine ⟨⟨name, hname⟩ :: ps, ?_, by rw [List.map_cons, hbytes]⟩
      rw [List.filterMap_cons, Protocol.tryFrom, dif_pos hname, hps]
      rfl

/-- The proposal of names that are protocols of at most 128 MiB: the framed header, then each
name framed. -/
theorem propose_eq_frames (u : Uvi) (protocol : ProtocolName) (fallbackNames : List ProtocolName)
    (hslash : ∀ name ∈ protocol :: fallbackNames, name.head? = some slash)
    (hlen : ∀ name ∈ protocol :: fallbackNames, name.length + 1 ≤ uviBytesMaxLen) :
    ∃ ps : List Protocol, ps.map Protocol.bytes = protocol :: fallbackNames ∧
      DialerState.propose u protocol fallbackNames =
        .ok (⟨protocol, fallbackNames, .waitingResponse⟩,
          frame u msgMultistream10 ++ ps.flatMap fun p => frame u (p.bytes ++ [newline])) := by
  obtain ⟨ps, hps, hbytes⟩ := filterMap_tryFrom _ hslash
  refine ⟨ps, hbytes, ?_⟩
  have hframes : ∀ m ∈ ps.map Message.protocol, (m.encode u).length ≤ uviBytesMaxLen := by
    intro m hm
    obtain ⟨p, hp, rfl⟩ := List.mem_map.mp hm
    have := hlen p.bytes (hbytes ▸ List.mem_map_of_mem hp)
    simpa [Message.encode] using this
  rw [DialerState.propose, hps, encodeMultistreamMessage_eq u _ hframes, List.flatMap_map]
  rfl

section Handshake

variable {u : Uvi} (hu : u.RoundTrip)
include hu

/-- What the listener answers to a proposal: acceptance of the main name when it is supported,
rejection otherwise, whatever the fallbacks. -/
theorem listenerNegotiate_frames (supported : List ProtocolName) (p : Protocol) (ps : List Protocol)
    (hcount : ps.length + 1 < maxProtocols)
    (hlen : ∀ q ∈ p :: ps, q.bytes.length + 1 ≤ uviBytesMaxLen) :
    listenerNegotiate u supported
        (frame u msgMultistream10 ++ (p :: ps).flatMap fun q => frame u (q.bytes ++ [newline])) =
      if p.bytes ∈ supported then
        .ok (.accepted p.bytes (frame u msgMultistream10 ++ frame u (p.bytes ++ [newline])))
      else .ok (.rejected (frame u msgMultistream10 ++ frame u msgProtocolNa)) := by
  have hmax : uviBytesMaxLen < 2 ^ 64 := by decide
  rw [listenerNegotiate, decode_frames hu (List.cons_ne_nil p ps) (by simpa using hcount)
    (fun q hq => Nat.lt_of_le_of_lt (hlen q hq) hmax)]
  dsimp only
  rw [if_pos rfl, selectOffered_cons]
  split_ifs
  · dsimp only
    rw [encodeMultistreamMessage_eq u [.protocol p]
      (by simpa [Message.encode] using hlen p List.mem_cons_self), List.flatMap_singleton]
    rfl
  · dsimp only
    rw [encodeMultistreamMessage_eq u [.notAvailable]
      (fun m hm => by
        rw [List.mem_singleton.mp hm]
        exact show msgProtocolNa.length ≤ uviBytesMaxLen by decide +kernel), List.flatMap_singleton]
    rfl

theorem registerResponse_accepted (d : DialerState) (hstate : d.state = .waitingResponse)
    (p : Protocol) (hp : p.bytes = d.protocol) (hlen : p.bytes.length + 1 ≤ uviBytesMaxLen) :
    (d.registerResponse u (frame u msgMultistream10 ++ frame u (p.bytes ++ [newline]))).2 =
      .ok (.succeeded d.protocol) := by
  have hmax : uviBytesMaxLen < 2 ^ 64 := by decide
  have hdecode := decode_frames hu (List.cons_ne_nil p []) (by simp [maxProtocols])
    (fun q hq => by rw [List.mem_singleton.mp hq]; exact Nat.lt_of_le_of_lt hlen hmax)
  rw [List.flatMap_singleton] at hdecode
  rw [DialerState.registerResponse, hdecode]
  dsimp only
  rw [hstate, DialerState.registerProtocols, if_pos rfl, DialerState.registerProtocols, if_pos hp.symm]

theorem registerResponse_notAvailable (d : DialerState) :
    (d.registerResponse u (frame u msgMultistream10 ++ frame u msgProtocolNa)).2 =
      .error (.parseError .invalidData) := by
  rw [DialerState.registerResponse, decode_notAvailable_reply hu]

/-- A proposal of names that are protocols: the listener accepts the main name when it supports
it and the dialer then succeeds with it; when it supports none of the names it rejects, and the
dialer fails. -/
theorem negotiate_agreement (m : ProtocolName) (F supported : List ProtocolName)
    (hslash : ∀ name ∈ m :: F, name.head? = some slash)
    (hlen : ∀ name ∈ m :: F, name.length + 1 ≤ uviBytesMaxLen)
    (hcount : F.length + 1 < maxProtocols) :
    ∃ d msg, DialerState.propose u m F = .ok (d, msg) ∧
      (m ∈ supported → ∃ reply, listenerNegotiate u supported msg = .ok (.accepted m reply) ∧
        (d.registerResponse u reply).2 = .ok (.succeeded m)) ∧
      ((∀ name ∈ m :: F, name ∉ supported) → ∃ reply,
        listenerNegotiate u supported msg = .ok (.rejected reply) ∧
        ∃ e, (d.registerResponse u reply).2 = .error e) := by
  obtain ⟨ps, hbytes, hpropose⟩ := propose_eq_frames u m F hslash hlen
  obtain ⟨p, ps, rfl⟩ : ∃ p ps', ps = p :: ps' := by
    cases ps with
    | nil => exact absurd hbytes (by simp)
    | cons p ps' => exact ⟨p, ps', rfl⟩
  obtain ⟨rfl, hps⟩ := List.cons_eq_cons.mp hbytes
  have hpslen : ps.length = F.length := by rw [← hps, List.length_map]
  have hframe_len : ∀ q ∈ p :: ps, q.bytes.length + 1 ≤ uviBytesMaxLen := fun q hq =>
    hlen q.bytes (hbytes ▸ List.mem_map_of_mem hq)
  have hlistener := listenerNegotiate_frames hu supported p ps (by omega) hframe_len
  refine ⟨_, _, hpropose, fun hm => ?_, fun hnone => ?_⟩
  · rw [if_pos hm] at hlistener
    exact ⟨_, hlistener, registerResponse_accepted hu _ rfl p rfl (hframe_len p List.mem_cons_self)⟩
  · rw [if_neg (hnone p.bytes List.mem_cons_self)] at hlistener
    exact ⟨_, hlistener, _, registerResponse_notAvailable hu _⟩

end Handshake

/-- Run at the main name `/a` with fallback `/b`, against a listener that supports `/a`. -/
theorem negotiate_agreement_main_supported :
    (∀ name ∈ "/a".toUTF8.toList :: ["/b".toUTF8.toList], name.head? = some slash) ∧
    (∀ name ∈ "/a".toUTF8.toList :: ["/b".toUTF8.toList], name.length + 1 ≤ uviBytesMaxLen) ∧
    ["/b".toUTF8.toList].length + 1 < maxProtocols ∧
    ∃ d msg, DialerState.propose Uvi.leb128 "/a".toUTF8.toList ["/b".toUTF8.toList] = .ok (d, msg) ∧
      ("/a".toUTF8.toList ∈ ["/a".toUTF8.toList] → ∃ reply,
        listenerNegotiate Uvi.leb128 ["/a".toUTF8.toList] msg = .ok (.accepted "/a".toUTF8.toList reply) ∧
        (d.registerResponse Uvi.leb128 reply).2 = .ok (.succeeded "/a".toUTF8.toList)) ∧
      ((∀ name ∈ "/a".toUTF8.toList :: ["/b".toUTF8.toList], name ∉ ["/a".toUTF8.toList]) → ∃ reply,
        listenerNegotiate Uvi.leb128 ["/a".toUTF8.toList] msg = .ok (.rejected reply) ∧
        ∃ e, (d.registerResponse Uvi.leb128 reply).2 = .error e) := by
  have hslash : ∀ name ∈ "/a".toUTF8.toList :: ["/b".toUTF8.toList], name.head? = some slash := by
    decide +kernel
  have hlen : ∀ name ∈ "/a".toUTF8.toList :: ["/b".toUTF8.toList],
      name.length + 1 ≤ uviBytesMaxLen := by
    decide +kernel
  have hcount : ["/b".toUTF8.toList].length + 1 < maxProtocols := by decide
  exact ⟨hslash, hlen, hcount, negotiate_agreement Uvi.roundTrip_leb128 _ _ _ hslash hlen hcount⟩

/-- The main name `/a` unsupported and the fallback `/b` supported: the listener rejects, since
the search for `/a` spent its iterator of supported names, and the dialer fails to parse the
rejection. -/
theorem negotiate_rejects_supported_fallback :
    (DialerState.propose Uvi.leb128 "/a".toUTF8.toList ["/b".toUTF8.toList]).bind (fun proposal =>
        listenerNegotiate Uvi.leb128 ["/b".toUTF8.toList] proposal.2) =
      .ok (.rejected (frame Uvi.leb128 msgMultistream10 ++ frame Uvi.leb128 msgProtocolNa)) ∧
    (DialerState.registerResponse Uvi.leb128 ⟨"/a".toUTF8.toList, ["/b".toUTF8.toList], .waitingResponse⟩
        (frame Uvi.leb128 msgMultistream10 ++ frame Uvi.leb128 msgProtocolNa)).2 =
      .error (.parseError .invalidData) := by
  decide +kernel

end Litep2p.MultistreamSelect
