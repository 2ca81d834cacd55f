import Mathlib
import Litep2p.Lib.Mealy
import Litep2p.Kademlia.Query

/-!
# The peers of a query

Every context of a query keeps the peers it awaits (`pending`), those that have answered or failed
to (`queried`) and those it may still ask (`candidates`), and moves them the same way:
`next_action` sends a request to the first candidate, which becomes pending; a response or a
failure moves a pending peer to the queried ones, and a response's closer peers that are none of
these, nor the local peer, become candidates. `PeersStep` says so once, over the three sets, and
each context's step moves its sets by a `PeersStep` (`FindNodeContext.step_peersStep` and its two
siblings). From it: the three sets stay pairwise disjoint, the local peer is never awaited, and no
peer is sent two requests (`queryPeers_disjoint`).

A peer carries its key, which `KademliaPeer::new` and the decoding of a response compute from its
id (`wellKeyed_schemaPeers`); two candidates of one peer would be filed at one distance, so the map
of candidates holds each peer once.
-/

namespace Litep2p.Kademlia

variable {P A : Type} [DecidableEq P]

def WellKeyed (x : WireExternals P A) (peer : KademliaPeer P A) : Prop := peer.key = x.keyOf peer.peer

omit [DecidableEq P] in
theorem wellKeyed_schemaPeers (x : WireExternals P A) (peers : List SchemaPeer) :
    ∀ peer ∈ schemaPeers x peers, WellKeyed x peer := by
  intro peer hpeer
  obtain ⟨record, -, hrecord⟩ := List.mem_filterMap.mp hpeer
  simp only [KademliaPeer.tryFrom, Option.bind_eq_bind, Option.bind_eq_some_iff, Option.pure_def,
    Option.some.injEq] at hrecord
  obtain ⟨id, -, connection, -, rfl⟩ := hrecord
  rfl

/-- What drives a query's context: the engine asks for its next action at the time `now`, or
hands it a peer's response, with the payload of the query's type and the closer peers, or the
peer's failure to respond. -/
inductive ContextInput (P A R : Type) where
  | nextAction (now : Nat)
  | response (now : Nat) (peer : P) (payload : R) (peers : List (KademliaPeer P A))
  | failure (peer : P)

def ContextInput.WellKeyed {R : Type} (x : WireExternals P A) : ContextInput P A R → Prop
  | .response _ _ _ peers => ∀ peer ∈ peers, Kademlia.WellKeyed x peer
  | _ => True

def QueryAction.sentTo : QueryAction P A → Option P
  | .sendMessage _ peer => some peer
  | _ => none

omit [DecidableEq P] in
theorem filterMap_sentTo_toList (action : Option (QueryAction P A)) :
    action.toList.filterMap QueryAction.sentTo = (action.bind QueryAction.sentTo).toList := by
  cases action <;> rfl

/-- The three peer sets of a query. -/
structure QueryPeers (P A V : Type) [DecidableEq P] where
  pending : AList fun _ : P => V
  queried : Finset P
  candidates : Candidates P A

/-- The candidates, the pending peers and the queried peers are pairwise disjoint, and the local
peer is not pending. -/
def QueryPeers.Disjoint {V : Type} (localPeerId : P) (q : QueryPeers P A V) : Prop :=
  (∀ e ∈ q.candidates.entries, e.2.peer ∉ q.pending ∧ e.2.peer ∉ q.queried) ∧
    (∀ p ∈ q.pending, p ∉ q.queried) ∧ localPeerId ∉ q.pending

@[simp] theorem insertCandidates_nil {V : Type} (localPeerId : P) (target : KeyBytes) (queried : Finset P)
    (pending : AList fun _ : P => V) (candidates : Candidates P A) :
    insertCandidates localPeerId target queried pending [] candidates = candidates := rfl

theorem mem_insertCandidates {V : Type} {localPeerId : P} {target : KeyBytes} {queried : Finset P}
    {pending : AList fun _ : P => V} {peers : List (KademliaPeer P A)} {candidates : Candidates P A}
    {e : Nat × KademliaPeer P A}
    (he : e ∈ (insertCandidates localPeerId target queried pending peers candidates).entries) :
    e ∈ candidates.entries ∨ ∃ peer ∈ peers, peer.peer ∉ queried ∧ peer.peer ∉ pending ∧
      localPeerId ≠ peer.peer ∧ e = (RoutingTable.distanceTo target peer, peer) := by
  rcases SortedMap.mem_foldl_insert _ _ _ he with he | ⟨peer, hpeer, rfl⟩
  · exact .inl he
  · simp only [List.mem_filter, decide_eq_true_eq] at hpeer
    exact .inr ⟨peer, hpeer.1, hpeer.2.1, hpeer.2.2.1, hpeer.2.2.2, rfl⟩

section Abstract

variable {V : Type} (x : WireExternals P A) (localPeerId : P) (target : KeyBytes)
  (peerOf : V → KademliaPeer P A)

/-- What one call can do to a query's peers, with the peer it sends a request to: nothing; send to
the first candidate, which becomes pending with the entry `v`; or take a pending peer's response
or failure, with its closer peers (none for a failure). -/
inductive PeersStep : QueryPeers P A V → QueryPeers P A V → Option P → Prop
  | stay (q : QueryPeers P A V) : PeersStep q q none
  | schedule (q : QueryPeers P A V) {e : Nat × KademliaPeer P A} {rest : Candidates P A} (v : V)
      (hpop : q.candidates.popFirst = some (e, rest)) (hv : peerOf v = e.2) :
      PeersStep q ⟨q.pending.insert e.2.peer v, q.queried, rest⟩ (some e.2.peer)
  | respond (q : QueryPeers P A V) {p : P} {v : V} (peers : List (KademliaPeer P A))
      (hp : q.pending.lookup p = some v) (hpeers : ∀ peer ∈ peers, WellKeyed x peer) :
      PeersStep q ⟨q.pending.erase p, insert (peerOf v).peer q.queried,
        insertCandidates localPeerId target (insert (peerOf v).peer q.queried) (q.pending.erase p)
          peers q.candidates⟩ none

/-- The bookkeeping `PeersStep` keeps from any candidates: each candidate is well keyed and filed
at its distance, and is neither pending nor queried; no pending peer is queried; and each pending
entry is the well-keyed peer it is filed under. -/
structure PeersBook (q : QueryPeers P A V) : Prop where
  keyed : ∀ e ∈ q.candidates.entries, WellKeyed x e.2 ∧ e.1 = RoutingTable.distanceTo target e.2
  candidate_fresh : ∀ e ∈ q.candidates.entries, e.2.peer ∉ q.pending ∧ e.2.peer ∉ q.queried
  pending_fresh : ∀ p ∈ q.pending, p ∉ q.queried
  pending_peer : ∀ p v, q.pending.lookup p = some v → (peerOf v).peer = p
  pending_keyed : ∀ p v, q.pending.lookup p = some v → WellKeyed x (peerOf v)

/-- The bookkeeping with the local peer: no candidate is the local peer, and it is not pending. -/
structure PeersWF (q : QueryPeers P A V) : Prop where
  keyed : ∀ e ∈ q.candidates.entries, WellKeyed x e.2 ∧ e.1 = RoutingTable.distanceTo target e.2
  candidate_fresh : ∀ e ∈ q.candidates.entries,
    e.2.peer ∉ q.pending ∧ e.2.peer ∉ q.queried ∧ e.2.peer ≠ localPeerId
  pending_fresh : ∀ p ∈ q.pending, p ∉ q.queried
  pending_peer : ∀ p v, q.pending.lookup p = some v → (peerOf v).peer = p
  local_not_pending : localPeerId ∉ q.pending

variable {x localPeerId target peerOf}

theorem PeersWF.disjoint {q : QueryPeers P A V} (h : PeersWF x localPeerId target peerOf q) :
    q.Disjoint localPeerId :=
  ⟨fun e he => ⟨(h.candidate_fresh e he).1, (h.candidate_fresh e he).2.1⟩, h.pending_fresh,
    h.local_not_pending⟩

theorem eq_of_peer_eq {q : QueryPeers P A V}
    (hkeyed : ∀ e ∈ q.candidates.entries, WellKeyed x e.2 ∧ e.1 = RoutingTable.distanceTo target e.2)
    {e₁ e₂ : Nat × KademliaPeer P A} (h₁ : e₁ ∈ q.candidates.entries) (h₂ : e₂ ∈ q.candidates.entries)
    (hpeer : e₁.2.peer = e₂.2.peer) : e₁ = e₂ := by
  obtain ⟨hkey₁, hdist₁⟩ := hkeyed e₁ h₁
  obtain ⟨hkey₂, hdist₂⟩ := hkeyed e₂ h₂
  refine q.candidates.eq_of_mem_of_fst_eq h₁ h₂ ?_
  rw [hdist₁, hdist₂, RoutingTable.distanceTo, RoutingTable.distanceTo, hkey₁, hkey₂, hpeer]

omit [DecidableEq P] in
theorem keyed_new {inPeers : List (KademliaPeer P A)} (hpeers : ∀ peer ∈ inPeers, WellKeyed x peer) :
    ∀ e ∈ (Candidates.ofPeers target inPeers).entries,
      (WellKeyed x e.2 ∧ e.1 = RoutingTable.distanceTo target e.2) ∧ e.2 ∈ inPeers := by
  intro e he
  rcases SortedMap.mem_foldl_insert _ _ _ he with he | ⟨peer, hpeer, rfl⟩
  · simp at he
  · exact ⟨⟨hpeers peer hpeer, rfl⟩, hpeer⟩

theorem peersBook_new {inPeers : List (KademliaPeer P A)} (hpeers : ∀ peer ∈ inPeers, WellKeyed x peer) :
    PeersBook x target peerOf ⟨∅, ∅, Candidates.ofPeers target inPeers⟩ :=
  ⟨fun e he => (keyed_new hpeers e he).1, fun _ _ => ⟨by simp, by simp⟩, by simp, by simp, by simp⟩

theorem peersWF_new {inPeers : List (KademliaPeer P A)}
    (hpeers : ∀ peer ∈ inPeers, WellKeyed x peer ∧ peer.peer ≠ localPeerId) :
    PeersWF x localPeerId target peerOf ⟨∅, ∅, Candidates.ofPeers target inPeers⟩ := by
  have hkeyed : ∀ e ∈ (Candidates.ofPeers target inPeers).entries,
      (WellKeyed x e.2 ∧ e.1 = RoutingTable.distanceTo target e.2) ∧ e.2 ∈ inPeers :=
    keyed_new fun peer hpeer => (hpeers peer hpeer).1
  refine ⟨fun e he => (hkeyed e he).1, fun e he => ⟨by simp, by simp, ?_⟩, by simp, by simp, by simp⟩
  exact (hpeers e.2 (hkeyed e he).2).2

section Schedule

variable {q : QueryPeers P A V} {e : Nat × KademliaPeer P A} {rest : Candidates P A} {v : V}

theorem popFirst_fresh (hkeyed : ∀ e ∈ q.candidates.entries,
      WellKeyed x e.2 ∧ e.1 = RoutingTable.distanceTo target e.2)
    (hpop : q.candidates.popFirst = some (e, rest)) :
    e ∈ q.candidates.entries ∧ ∀ r ∈ rest.entries, r ∈ q.candidates.entries ∧ r.2.peer ≠ e.2.peer := by
  have hentries := SortedMap.popFirst_eq_some.mp hpop
  have he : e ∈ q.candidates.entries := by rw [hentries]; exact List.mem_cons_self
  refine ⟨he, fun r hr => ?_⟩
  have hrmem : r ∈ q.candidates.entries := by rw [hentries]; exact List.mem_cons_of_mem _ hr
  refine ⟨hrmem, fun hpeer => ?_⟩
  have hlt : e.1 < r.1 := by
    have hsorted := q.candidates.sorted
    rw [hentries] at hsorted
    exact List.rel_of_pairwise_cons hsorted hr
  exact absurd (eq_of_peer_eq hkeyed he hrmem hpeer.symm) (by rintro rfl; exact lt_irrefl _ hlt)

theorem PeersBook.schedule (h : PeersBook x target peerOf q)
    (hpop : q.candidates.popFirst = some (e, rest)) (hv : peerOf v = e.2) :
    PeersBook x target peerOf ⟨q.pending.insert e.2.peer v, q.queried, rest⟩ := by
  obtain ⟨he, hrest⟩ := popFirst_fresh h.keyed hpop
  obtain ⟨hpend, hqueried⟩ := h.candidate_fresh e he
  refine ⟨fun r hr => h.keyed r (hrest r hr).1, fun r hr => ?_, fun p hp => ?_, fun p w hp => ?_,
    fun p w hp => ?_⟩
  · obtain ⟨hrpend, hrqueried⟩ := h.candidate_fresh r (hrest r hr).1
    exact ⟨by simp [AList.mem_insert, (hrest r hr).2, hrpend], hrqueried⟩
  · rcases (AList.mem_insert _).mp hp with rfl | hp
    · exact hqueried
    · exact h.pending_fresh p hp
  · by_cases hpe : p = e.2.peer
    · subst hpe
      rw [AList.lookup_insert, Option.some.injEq] at hp
      rw [← hp, hv]
    · rw [AList.lookup_insert_ne hpe] at hp
      exact h.pending_peer p w hp
  · by_cases hpe : p = e.2.peer
    · subst hpe
      rw [AList.lookup_insert, Option.some.injEq] at hp
      rw [← hp, hv]
      exact (h.keyed e he).1
    · rw [AList.lookup_insert_ne hpe] at hp
      exact h.pending_keyed p w hp

theorem PeersWF.schedule (h : PeersWF x localPeerId target peerOf q)
    (hpop : q.candidates.popFirst = some (e, rest)) (hv : peerOf v = e.2) :
    PeersWF x localPeerId target peerOf ⟨q.pending.insert e.2.peer v, q.queried, rest⟩ := by
  obtain ⟨he, hrest⟩ := popFirst_fresh h.keyed hpop
  obtain ⟨hpend, hqueried, hlocal⟩ := h.candidate_fresh e he
  refine ⟨fun r hr => h.keyed r (hrest r hr).1, fun r hr => ?_, fun p hp => ?_, fun p w hp => ?_, ?_⟩
  · obtain ⟨hrpend, hrqueried, hrlocal⟩ := h.candidate_fresh r (hrest r hr).1
    exact ⟨by simp [AList.mem_insert, (hrest r hr).2, hrpend], hrqueried, hrlocal⟩
  · rcases (AList.mem_insert _).mp hp with rfl | hp
    · exact hqueried
    · exact h.pending_fresh p hp
  · by_cases hpe : p = e.2.peer
    · subst hpe
      rw [AList.lookup_insert, Option.some.injEq] at hp
      rw [← hp, hv]
    · rw [AList.lookup_insert_ne hpe] at hp
      exact h.pending_peer p w hp
  · simp [AList.mem_insert, Ne.symm hlocal, h.local_not_pending]

end Schedule

section Respond

variable {q : QueryPeers P A V} {p : P} {v : V} {peers : List (KademliaPeer P A)}

theorem candidate_respond (hfresh : ∀ e ∈ q.candidates.entries, e.2.peer ∉ q.pending ∧ e.2.peer ∉ q.queried)
    (hpmem : p ∈ q.pending) {e : Nat × KademliaPeer P A}
    (he : e ∈ (insertCandidates localPeerId target (insert p q.queried) (q.pending.erase p) peers
      q.candidates).entries) :
    (e ∈ q.candidates.entries ∧ e.2.peer ∉ q.pending.erase p ∧ e.2.peer ∉ insert p q.queried) ∨
      ∃ peer ∈ peers, e.2.peer ∉ insert p q.queried ∧ e.2.peer ∉ q.pending.erase p ∧
        localPeerId ≠ peer.peer ∧ e = (RoutingTable.distanceTo target peer, peer) := by
  rcases mem_insertCandidates he with he | ⟨peer, hpeer, hq, hpend, hlocal, rfl⟩
  · obtain ⟨hepend, hequeried⟩ := hfresh e he
    have hep : e.2.peer ≠ p := fun heq => hepend (heq ▸ hpmem)
    exact .inl ⟨he, fun hmem => hepend (AList.mem_erase.mp hmem).2, by simp [hep, hequeried]⟩
  · exact .inr ⟨peer, hpeer, hq, hpend, hlocal, rfl⟩

theorem PeersBook.respond (h : PeersBook x target peerOf q) (hp : q.pending.lookup p = some v)
    (hpeers : ∀ peer ∈ peers, WellKeyed x peer) :
    PeersBook x target peerOf ⟨q.pending.erase p, insert (peerOf v).peer q.queried,
      insertCandidates localPeerId target (insert (peerOf v).peer q.queried) (q.pending.erase p)
        peers q.candidates⟩ := by
  have hpmem : p ∈ q.pending := AList.lookup_isSome.mp (by rw [hp]; rfl)
  rw [h.pending_peer p v hp]
  refine ⟨fun e he => ?_, fun e he => ?_, fun r hr => ?_, fun r w hr => ?_, fun r w hr => ?_⟩
  · rcases candidate_respond h.candidate_fresh hpmem he with ⟨he, -⟩ | ⟨peer, hpeer, -, -, -, rfl⟩
    · exact h.keyed e he
    · exact ⟨hpeers peer hpeer, rfl⟩
  · rcases candidate_respond h.candidate_fresh hpmem he with ⟨-, hfresh⟩ | ⟨-, -, hq, hpend, -⟩
    · exact ⟨hfresh.1, hfresh.2⟩
    · exact ⟨hpend, hq⟩
  · obtain ⟨hrp, hrmem⟩ := AList.mem_erase.mp hr
    simp [hrp, h.pending_fresh r hrmem]
  · have hrp : r ≠ p := fun hrp => by rw [hrp, AList.lookup_erase] at hr; cases hr
    rw [AList.lookup_erase_ne hrp] at hr
    exact h.pending_peer r w hr
  · have hrp : r ≠ p := fun hrp => by rw [hrp, AList.lookup_erase] at hr; cases hr
    rw [AList.lookup_erase_ne hrp] at hr
    exact h.pending_keyed r w hr

theorem PeersWF.respond (h : PeersWF x localPeerId target peerOf q) (hp : q.pending.lookup p = some v)
    (hpeers : ∀ peer ∈ peers, WellKeyed x peer) :
    PeersWF x localPeerId target peerOf ⟨q.pending.erase p, insert (peerOf v).peer q.queried,
      insertCandidates localPeerId target (insert (peerOf v).peer q.queried) (q.pending.erase p)
        peers q.candidates⟩ := by
  have hpmem : p ∈ q.pending := AList.lookup_isSome.mp (by rw [hp]; rfl)
  have hfresh : ∀ e ∈ q.candidates.entries, e.2.peer ∉ q.pending ∧ e.2.peer ∉ q.queried :=
    fun e he => ⟨(h.candidate_fresh e he).1, (h.candidate_fresh e he).2.1⟩
  rw [h.pending_peer p v hp]
  refine ⟨fun e he => ?_, fun e he => ?_, fun r hr => ?_, fun r w hr => ?_, ?_⟩
  · rcases candidate_respond hfresh hpmem he with ⟨he, -⟩ | ⟨peer, hpeer, -, -, -, rfl⟩
    · exact h.keyed e he
    · exact ⟨hpeers peer hpeer, rfl⟩
  · rcases candidate_respond hfresh hpmem he with ⟨he, hfresh⟩ | ⟨peer, -, hq, hpend, hlocal, rfl⟩
    · exact ⟨hfresh.1, hfresh.2, (h.candidate_fresh e he).2.2⟩
    · exact ⟨hpend, hq, Ne.symm hlocal⟩
  · obtain ⟨hrp, hrmem⟩ := AList.mem_erase.mp hr
    simp [hrp, h.pending_fresh r hrmem]
  · have hrp : r ≠ p := fun hrp => by rw [hrp, AList.lookup_erase] at hr; cases hr
    rw [AList.lookup_erase_ne hrp] at hr
    exact h.pending_peer r w hr
  · exact fun hmem => h.local_not_pending (AList.mem_erase.mp hmem).2

end Respond

theorem PeersBook.step {q q' : QueryPeers P A V} {sent? : Option P}
    (h : PeersBook x target peerOf q) (hstep : PeersStep x localPeerId target peerOf q q' sent?) :
    PeersBook x target peerOf q' := by
  cases hstep with
  | stay => exact h
  | schedule v hpop hv => exact h.schedule hpop hv
  | respond peers hp hpeers => exact h.respond hp hpeers

theorem PeersWF.step {q q' : QueryPeers P A V} {sent? : Option P}
    (h : PeersWF x localPeerId target peerOf q) (hstep : PeersStep x localPeerId target peerOf q q' sent?) :
    PeersWF x localPeerId target peerOf q' := by
  cases hstep with
  | stay => exact h
  | schedule v hpop hv => exact h.schedule hpop hv
  | respond peers hp hpeers => exact h.respond hp hpeers

theorem PeersStep.queried_subset {q q' : QueryPeers P A V} {sent? : Option P}
    (hstep : PeersStep x localPeerId target peerOf q q' sent?) : q.queried ⊆ q'.queried := by
  cases hstep with
  | stay => exact subset_rfl
  | schedule => exact subset_rfl
  | respond => exact Finset.subset_insert _ _

def QueryPeers.Known {V : Type} (q : QueryPeers P A V) (p : P) : Prop := p ∈ q.pending ∨ p ∈ q.queried

theorem PeersStep.known {q q' : QueryPeers P A V} {sent? : Option P}
    (h : PeersWF x localPeerId target peerOf q) (hstep : PeersStep x localPeerId target peerOf q q' sent?)
    {p : P} (hp : q.Known p) : q'.Known p := by
  cases hstep with
  | stay => exact hp
  | schedule v hpop hv => exact hp.imp (fun hp => (AList.mem_insert _).mpr (.inr hp)) id
  | respond peers hr hpeers =>
    rename_i r w
    rw [QueryPeers.Known, h.pending_peer r w hr]
    by_cases hpr : p = r
    · exact .inr (Finset.mem_insert.mpr (.inl hpr))
    · rcases hp with hp | hp
      · exact .inl (AList.mem_erase.mpr ⟨hpr, hp⟩)
      · exact .inr (Finset.mem_insert_of_mem hp)

theorem PeersStep.sent_fresh {q q' : QueryPeers P A V} {sent? : Option P}
    (h : PeersWF x localPeerId target peerOf q) (hstep : PeersStep x localPeerId target peerOf q q' sent?)
    {p : P} (hp : sent? = some p) : ¬ q.Known p ∧ q'.Known p := by
  cases hstep with
  | stay => cases hp
  | schedule v hpop hv =>
    rename_i e rest
    cases hp
    have he : e ∈ q.candidates.entries := by
      rw [SortedMap.popFirst_eq_some.mp hpop]; exact List.mem_cons_self
    obtain ⟨hpend, hqueried, -⟩ := h.candidate_fresh e he
    exact ⟨fun hk => hk.elim hpend hqueried, .inl ((AList.mem_insert _).mpr (.inl rfl))⟩
  | respond => cases hp

/-- The run rule of `PeersStep`: a machine each of whose steps moves the peers it shows by a
`PeersStep` and sends to the peer the step names keeps the bookkeeping through every run, and
sends no peer two requests. `fixed` is what the steps keep besides, such as the configuration. -/
theorem run_peersWF {σ ι ω : Type} (step : σ → ι → σ × List ω) (view : σ → QueryPeers P A V)
    (sent : ω → Option P) (allowed : ι → Prop) (fixed : σ → Prop)
    (hfixed : ∀ s i, fixed s → allowed i → fixed (step s i).1)
    (hstep : ∀ s i, fixed s → allowed i → ∃ sent?,
      PeersStep x localPeerId target peerOf (view s) (view (step s i).1) sent? ∧
        (step s i).2.filterMap sent = sent?.toList)
    (is : List ι) (s : σ) (hs : fixed s ∧ PeersWF x localPeerId target peerOf (view s))
    (his : ∀ i ∈ is, allowed i) :
    PeersWF x localPeerId target peerOf (view (Mealy.run step s is).1) ∧
      ((Mealy.run step s is).2.filterMap sent).Nodup := by
  let inv : σ → Prop := fun s => fixed s ∧ PeersWF x localPeerId target peerOf (view s)
  have hinv : ∀ s i, inv s → allowed i → inv (step s i).1 := fun s i hs hi =>
    ⟨hfixed s i hs.1 hi, (hstep s i hs.1 hi).elim fun _ hsent => hs.2.step hsent.1⟩
  refine ⟨(Mealy.run_inv_outputs inv allowed (fun _ => True) hinv (fun _ _ _ _ _ _ => trivial)
    is s hs his).1.2, (Mealy.run_nodup_keys sent inv allowed (fun s p => (view s).Known p) hinv
      (fun s i p hs hi hp => ?_) (fun s i hs hi p hp => ?_) (fun s i hs hi => ?_) is s hs his).1⟩
  · obtain ⟨sent?, hsent, -⟩ := hstep s i hs.1 hi
    exact hsent.known hs.2 hp
  · obtain ⟨sent?, hsent, hout⟩ := hstep s i hs.1 hi
    rw [hout, Option.mem_toList] at hp
    exact hsent.sent_fresh hs.2 hp
  · obtain ⟨sent?, -, hout⟩ := hstep s i hs.1 hi
    rw [hout]
    cases sent? <;> simp

end Abstract

namespace FindNodeContext

/-- A `FIND_NODE` context driven by the engine; its responses carry no payload of their own. -/
def step (c : FindNodeContext P A) : ContextInput P A Unit → FindNodeContext P A × List (QueryAction P A)
  | .nextAction now =>
    let r := c.nextAction now
    (r.1, r.2.toList)
  | .response _ peer _ peers => (c.registerResponse peer peers, [])
  | .failure peer => (c.registerResponseFailure peer, [])

def peers (c : FindNodeContext P A) : QueryPeers P A (KademliaPeer P A × Nat) :=
  ⟨c.pending, c.queried, c.candidates⟩

theorem nextAction_cases (c : FindNodeContext P A) (now : Nat) :
    (∃ action, c.nextAction now = (c, some action) ∧ action.sentTo = none) ∨
    (∃ action?, c.nextAction now = ({ c with pendingResponses := c.discountTimedOut now }, action?) ∧
      action?.bind QueryAction.sentTo = none) ∨
    (c.discountTimedOut now ≠ c.config.parallelismFactor ∧
      c.nextAction now = { c with pendingResponses := c.discountTimedOut now }.scheduleNextPeer now) := by
  unfold nextAction
  split
  · exact .inl ⟨_, rfl, by split <;> rfl⟩
  · dsimp only
    split
    · exact .inr (.inl ⟨none, rfl, rfl⟩)
    · rename_i hne
      split
      · exact .inr (.inr ⟨hne, rfl⟩)
      · split
        · split
          · exact .inr (.inr ⟨hne, rfl⟩)
          · exact .inr (.inl ⟨_, rfl, rfl⟩)
        · exact .inr (.inl ⟨_, rfl, rfl⟩)

theorem config_scheduleNextPeer (c : FindNodeContext P A) (now : Nat) :
    (c.scheduleNextPeer now).1.config = c.config := by
  unfold scheduleNextPeer
  split <;> rfl

theorem config_step (c : FindNodeContext P A) (i : ContextInput P A Unit) :
    (c.step i).1.config = c.config := by
  cases i with
  | nextAction now =>
    rcases nextAction_cases c now with ⟨_, h, _⟩ | ⟨_, h, _⟩ | ⟨_, h⟩ <;> simp only [step, h]
    exact config_scheduleNextPeer _ now
  | response now peer payload peers =>
    simp only [step, registerResponse]
    split <;> rfl
  | failure peer =>
    simp only [step, registerResponseFailure]
    split <;> rfl

variable (x : WireExternals P A) (c : FindNodeContext P A)

theorem scheduleNextPeer_peersStep (now : Nat) :
    ∃ sent?, PeersStep x c.config.localPeerId c.config.target Prod.fst c.peers
      (c.scheduleNextPeer now).1.peers sent? ∧ (c.scheduleNextPeer now).2.bind QueryAction.sentTo = sent? := by
  unfold scheduleNextPeer
  split
  · exact ⟨none, .stay _, rfl⟩
  · rename_i d candidate candidates hpop
    exact ⟨some candidate.peer, .schedule c.peers (e := (d, candidate)) (candidate, now) hpop rfl, rfl⟩

theorem nextAction_peersStep (now : Nat) :
    ∃ sent?, PeersStep x c.config.localPeerId c.config.target Prod.fst c.peers
      (c.nextAction now).1.peers sent? ∧ (c.nextAction now).2.bind QueryAction.sentTo = sent? := by
  rcases nextAction_cases c now with ⟨action, h, hsent⟩ | ⟨action?, h, hsent⟩ | ⟨-, h⟩ <;> rw [h]
  · exact ⟨none, .stay _, hsent⟩
  · exact ⟨none, .stay _, hsent⟩
  · exact scheduleNextPeer_peersStep x { c with pendingResponses := c.discountTimedOut now } now

theorem step_peersStep (i : ContextInput P A Unit) (hi : i.WellKeyed x) :
    (c.step i).1.config = c.config ∧ ∃ sent?,
      PeersStep x c.config.localPeerId c.config.target Prod.fst c.peers (c.step i).1.peers sent? ∧
        (c.step i).2.filterMap QueryAction.sentTo = sent?.toList := by
  refine ⟨config_step c i, ?_⟩
  cases i with
  | nextAction now =>
    obtain ⟨sent?, hstep, hsent⟩ := nextAction_peersStep x c now
    exact ⟨sent?, hstep, by rw [step, filterMap_sentTo_toList, hsent]⟩
  | response now peer payload peers =>
    refine ⟨none, ?_, rfl⟩
    simp only [step, registerResponse]
    split
    · exact .stay _
    · rename_i entry instant hlookup
      exact .respond c.peers peers hlookup hi
  | failure peer =>
    refine ⟨none, ?_, rfl⟩
    simp only [step, registerResponseFailure]
    split
    · exact .stay _
    · rename_i entry instant hlookup
      exact .respond c.peers [] hlookup (by simp)

end FindNodeContext

namespace GetRecordContext

/-- A `GET_VALUE` context driven by the engine; a response carries the record it holds. -/
def step (c : GetRecordContext P A) :
    ContextInput P A (Option (Record P)) → GetRecordContext P A × List (QueryAction P A)
  | .nextAction _ =>
    let r := c.nextAction
    (r.1, r.2.toList)
  | .response now peer record peers => (c.registerResponse now peer record peers, [])
  | .failure peer => (c.registerResponseFailure peer, [])

def peers (c : GetRecordContext P A) : QueryPeers P A (KademliaPeer P A) :=
  ⟨c.pending, c.queried, c.candidates⟩

variable (x : WireExternals P A) (c : GetRecordContext P A)

theorem scheduleNextPeer_peersStep :
    c.scheduleNextPeer.1.config = c.config ∧ ∃ sent?,
      PeersStep x c.config.localPeerId c.config.target id c.peers c.scheduleNextPeer.1.peers sent? ∧
        c.scheduleNextPeer.2.bind QueryAction.sentTo = sent? := by
  unfold scheduleNextPeer
  split
  · exact ⟨rfl, none, .stay _, rfl⟩
  · rename_i d candidate candidates hpop
    exact ⟨rfl, some candidate.peer, .schedule c.peers (e := (d, candidate)) candidate hpop rfl, rfl⟩

theorem nextAction_peersStep :
    c.nextAction.1.config = c.config ∧ ∃ sent?,
      PeersStep x c.config.localPeerId c.config.target id c.peers c.nextAction.1.peers sent? ∧
        c.nextAction.2.bind QueryAction.sentTo = sent? := by
  unfold nextAction
  dsimp only
  split
  · exact ⟨rfl, none, .stay _, by split <;> rfl⟩
  · split
    · exact ⟨rfl, none, .stay _, rfl⟩
    · split
      · exact ⟨rfl, none, .stay _, rfl⟩
      · exact scheduleNextPeer_peersStep x c

theorem step_peersStep (i : ContextInput P A (Option (Record P))) (hi : i.WellKeyed x) :
    (c.step i).1.config = c.config ∧ ∃ sent?,
      PeersStep x c.config.localPeerId c.config.target id c.peers (c.step i).1.peers sent? ∧
        (c.step i).2.filterMap QueryAction.sentTo = sent?.toList := by
  cases i with
  | nextAction now =>
    obtain ⟨hconfig, sent?, hstep, hsent⟩ := nextAction_peersStep x c
    exact ⟨hconfig, sent?, hstep, by rw [step, filterMap_sentTo_toList, hsent]⟩
  | response now peer record peers =>
    refine ⟨?_, none, ?_, rfl⟩ <;> simp only [step, registerResponse] <;> split
    · rfl
    · rfl
    · exact .stay _
    · rename_i entry hlookup
      exact .respond c.peers peers hlookup hi
  | failure peer =>
    refine ⟨?_, none, ?_, rfl⟩ <;> simp only [step, registerResponseFailure] <;> split
    · rfl
    · rfl
    · exact .stay _
    · rename_i entry hlookup
      exact .respond c.peers [] hlookup (by simp)

end GetRecordContext

namespace GetProvidersContext

/-- A `GET_PROVIDERS` context driven by the engine; a response carries the providers it knows. -/
def step (c : GetProvidersContext P A) :
    ContextInput P A (List (KademliaPeer P A)) → GetProvidersContext P A × List (QueryAction P A)
  | .nextAction _ =>
    let r := c.nextAction
    (r.1, r.2.toList)
  | .response _ peer providers peers => (c.registerResponse peer providers peers, [])
  | .failure peer => (c.registerResponseFailure peer, [])

def peers (c : GetProvidersContext P A) : QueryPeers P A (KademliaPeer P A) :=
  ⟨c.pending, c.queried, c.candidates⟩

variable (x : WireExternals P A) (c : GetProvidersContext P A)

theorem scheduleNextPeer_peersStep :
    c.scheduleNextPeer.1.config = c.config ∧ ∃ sent?,
      PeersStep x c.config.localPeerId c.config.target id c.peers c.scheduleNextPeer.1.peers sent? ∧
        c.scheduleNextPeer.2.bind QueryAction.sentTo = sent? := by
  unfold scheduleNextPeer
  split
  · exact ⟨rfl, none, .stay _, rfl⟩
  · rename_i d candidate candidates hpop
    exact ⟨rfl, some candidate.peer, .schedule c.peers (e := (d, candidate)) candidate hpop rfl, rfl⟩

theorem nextAction_peersStep :
    c.nextAction.1.config = c.config ∧ ∃ sent?,
      PeersStep x c.config.localPeerId c.config.target id c.peers c.nextAction.1.peers sent? ∧
        c.nextAction.2.bind QueryAction.sentTo = sent? := by
  unfold nextAction
  split
  · exact ⟨rfl, none, .stay _, by split <;> rfl⟩
  · split
    · exact ⟨rfl, none, .stay _, rfl⟩
    · exact scheduleNextPeer_peersStep x c

theorem step_peersStep (i : ContextInput P A (List (KademliaPeer P A))) (hi : i.WellKeyed x) :
    (c.step i).1.config = c.config ∧ ∃ sent?,
      PeersStep x c.config.localPeerId c.config.target id c.peers (c.step i).1.peers sent? ∧
        (c.step i).2.filterMap QueryAction.sentTo = sent?.toList := by
  cases i with
  | nextAction now =>
    obtain ⟨hconfig, sent?, hstep, hsent⟩ := nextAction_peersStep x c
    exact ⟨hconfig, sent?, hstep, by rw [step, filterMap_sentTo_toList, hsent]⟩
  | response now peer providers peers =>
    refine ⟨?_, none, ?_, rfl⟩ <;> simp only [step, registerResponse] <;> split
    · rfl
    · rfl
    · exact .stay _
    · rename_i entry hlookup
      exact .respond c.peers peers hlookup hi
  | failure peer =>
    refine ⟨?_, none, ?_, rfl⟩ <;> simp only [step, registerResponseFailure] <;> split
    · rfl
    · rfl
    · exact .stay _
    · rename_i entry hlookup
      exact .respond c.peers [] hlookup (by simp)

end GetProvidersContext

/-- For each of the three contexts, every initial candidate list of well-keyed peers without the
local peer, and every run of `next_action`, responses with well-keyed closer peers and failures,
for any peers in any order: the candidates, the pending peers and the queried peers stay pairwise
disjoint, the local peer is never pending, and no peer is sent two requests. -/
theorem queryPeers_disjoint (x : WireExternals P A) :
    (∀ (config : FindNodeConfig P) (inPeers : List (KademliaPeer P A)) (is : List (ContextInput P A Unit)),
      (∀ peer ∈ inPeers, WellKeyed x peer ∧ peer.peer ≠ config.localPeerId) → (∀ i ∈ is, i.WellKeyed x) →
      (Mealy.run FindNodeContext.step (.new config inPeers) is).1.peers.Disjoint config.localPeerId ∧
        ((Mealy.run FindNodeContext.step (.new config inPeers) is).2.filterMap QueryAction.sentTo).Nodup) ∧
    (∀ (config : GetRecordConfig P) (inPeers : List (KademliaPeer P A))
        (is : List (ContextInput P A (Option (Record P)))),
      (∀ peer ∈ inPeers, WellKeyed x peer ∧ peer.peer ≠ config.localPeerId) → (∀ i ∈ is, i.WellKeyed x) →
      (Mealy.run GetRecordContext.step (.new config inPeers) is).1.peers.Disjoint config.localPeerId ∧
        ((Mealy.run GetRecordContext.step (.new config inPeers) is).2.filterMap QueryAction.sentTo).Nodup) ∧
    (∀ (config : GetProvidersConfig P A) (inPeers : List (KademliaPeer P A))
        (is : List (ContextInput P A (List (KademliaPeer P A)))),
      (∀ peer ∈ inPeers, WellKeyed x peer ∧ peer.peer ≠ config.localPeerId) → (∀ i ∈ is, i.WellKeyed x) →
      (Mealy.run GetProvidersContext.step (.new config inPeers) is).1.peers.Disjoint config.localPeerId ∧
        ((Mealy.run GetProvidersContext.step (.new config inPeers) is).2.filterMap
          QueryAction.sentTo).Nodup) := by
  refine ⟨fun config inPeers is hpeers his => ?_, fun config inPeers is hpeers his => ?_,
    fun config inPeers is hpeers his => ?_⟩
  · obtain ⟨hwf, hnodup⟩ := run_peersWF FindNodeContext.step FindNodeContext.peers QueryAction.sentTo
      (ContextInput.WellKeyed x) (fun c => c.config = config)
      (fun c i hc hi => (FindNodeContext.step_peersStep x c i hi).1.trans hc)
      (fun c i hc hi => hc ▸ (FindNodeContext.step_peersStep x c i hi).2) is (.new config inPeers) ⟨rfl, peersWF_new hpeers⟩ his
    exact ⟨hwf.disjoint, hnodup⟩
  · obtain ⟨hwf, hnodup⟩ := run_peersWF GetRecordContext.step GetRecordContext.peers QueryAction.sentTo
      (ContextInput.WellKeyed x) (fun c => c.config = config)
      (fun c i hc hi => (GetRecordContext.step_peersStep x c i hi).1.trans hc)
      (fun c i hc hi => hc ▸ (GetRecordContext.step_peersStep x c i hi).2) is (.new config inPeers)
      ⟨rfl, peersWF_new hpeers⟩ his
    exact ⟨hwf.disjoint, hnodup⟩
  · obtain ⟨hwf, hnodup⟩ := run_peersWF GetProvidersContext.step GetProvidersContext.peers
      QueryAction.sentTo (ContextInput.WellKeyed x) (fun c => c.config = config)
      (fun c i hc hi => (GetProvidersContext.step_peersStep x c i hi).1.trans hc)
      (fun c i hc hi => hc ▸ (GetProvidersContext.step_peersStep x c i hi).2) is (.new config inPeers)
      ⟨rfl, peersWF_new hpeers⟩ his
    exact ⟨hwf.disjoint, hnodup⟩

/-- Local peer 1 looks for the key `0` from peer 5, which answers with peer 6; the query then asks
peer 6. -/
theorem queryPeers_disjoint_findNode_run :
    (Mealy.run FindNodeContext.step
        (.new ⟨1, 20, 3, 0, ⟨0⟩⟩ [KademliaPeer.new WireExternals.numeric.toExternals 5 [] .connected])
        [.nextAction 0, .response 0 5 () [KademliaPeer.new WireExternals.numeric.toExternals 6 [] .connected],
          .nextAction 0]).1.peers.Disjoint 1 ∧
      ((Mealy.run FindNodeContext.step
        (.new ⟨1, 20, 3, 0, ⟨0⟩⟩ [KademliaPeer.new WireExternals.numeric.toExternals 5 [] .connected])
        [.nextAction 0, .response 0 5 () [KademliaPeer.new WireExternals.numeric.toExternals 6 [] .connected],
          .nextAction 0]).2.filterMap QueryAction.sentTo).Nodup :=
  (queryPeers_disjoint WireExternals.numeric).1 _ _ _ (by simp [WellKeyed, KademliaPeer.new])
    (by simp [ContextInput.WellKeyed, WellKeyed, KademliaPeer.new])

end Litep2p.Kademlia
