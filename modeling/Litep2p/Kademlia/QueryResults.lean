import Mathlib
import Litep2p.Lib.TopK
import Litep2p.Kademlia.QueryPeers

/-!
# What queries report

A `FIND_NODE` query, and the `PUT_VALUE` and `ADD_PROVIDER` queries that run one, report the
responses they kept: by increasing distance, the `replication_factor` peers closest to the target
among those whose responses were registered (`responses_closest`). Each peer answers once, for it
is queried from then on and never pending again, and distinct well-keyed peers lie at distinct
distances, so the window rules of `TopK` apply to every response.
-/

namespace Litep2p.Kademlia

open TopK

variable {P A : Type} [DecidableEq P] [DecidableEq A]

namespace FindNodeContext

/-- The pending peer whose response the input registers: `register_response` takes it out of the
pending peers and offers it to the responses. -/
def registeredBy (c : FindNodeContext P A) : ContextInput P A Unit → List (KademliaPeer P A)
  | .response _ peer _ _ => ((c.pending.lookup peer).map Prod.fst).toList
  | _ => []

def responseEntry (target : KeyBytes) (peer : KademliaPeer P A) : Nat × KademliaPeer P A :=
  (RoutingTable.distanceTo target peer, peer)

omit [DecidableEq A] in
theorem responses_scheduleNextPeer (c : FindNodeContext P A) (now : Nat) :
    (c.scheduleNextPeer now).1.responses = c.responses := by
  unfold scheduleNextPeer
  split <;> rfl

omit [DecidableEq A] in
theorem responses_nextAction (c : FindNodeContext P A) (now : Nat) :
    (c.nextAction now).1.responses = c.responses := by
  rcases nextAction_cases c now with ⟨_, h, _⟩ | ⟨_, h, _⟩ | ⟨_, h⟩ <;> rw [h]
  exact responses_scheduleNextPeer _ now

omit [DecidableEq A] in
theorem responses_registerResponseFailure (c : FindNodeContext P A) (peer : P) :
    (c.registerResponseFailure peer).responses = c.responses := by
  unfold registerResponseFailure
  split <;> rfl

/-- `register_response` keeps the window of responses: a response whose distance no earlier one
has is taken in while there are fewer than `k`, in place of the furthest when it is closer, and
left out otherwise. -/
theorem isTopK_insertResponse {k d : Nat} {responses : Candidates P A}
    {S : Finset (Nat × KademliaPeer P A)} {peer : KademliaPeer P A}
    (h : IsTopK Prod.fst k S responses.entries) (hfresh : ∀ e ∈ S, e.1 ≠ d) :
    IsTopK Prod.fst k (insert (d, peer) S) (insertResponse k responses d peer).entries := by
  have hnew : (d, peer) ∉ S := fun hmem => hfresh _ hmem rfl
  have hentries : ∀ e ∈ responses.entries, e.1 ≠ d := fun e he => hfresh e (h.subset e he)
  by_cases hlen : responses.size < k
  · rw [insertResponse, if_pos hlen]
    exact h.insert_of_length_lt hlen hnew (responses.insert d peer).sorted
      fun e => SortedMap.mem_insertEntry_of_fresh d peer hentries
  have hfull : responses.entries.length = k := by
    have := h.length_eq
    rw [SortedMap.size] at hlen
    omega
  rcases List.eq_nil_or_concat' responses.entries with hnil | ⟨L₀, w, hLw⟩
  · have hkeep : insertResponse k responses d peer = responses := by
      simp [insertResponse, hlen, SortedMap.last?, hnil]
    rw [hkeep]
    exact h.insert_of_lt hfull (by simp [hnil])
  have hsorted : (L₀ ++ [w]).Pairwise fun a b => a.1 < b.1 := hLw ▸ responses.sorted
  by_cases hlt : d < w.1
  · have hL₀ : ∀ e ∈ L₀, e.1 ≠ d := fun e he => hentries e (hLw ▸ List.mem_append_left _ he)
    have hins : (responses.insert d peer).entries = SortedMap.insertEntry d peer L₀ ++ [w] := by
      rw [SortedMap.entries_insert, hLw, SortedMap.insertEntry_append_of_lt d peer hlt]
    have hover : (responses.insert d peer).size > k := by
      rw [SortedMap.size, hins, List.length_append, SortedMap.length_insertEntry_of_fresh d peer hL₀,
        ← hfull, hLw, List.length_append]
      omega
    have hwindow : (insertResponse k responses d peer).entries = SortedMap.insertEntry d peer L₀ := by
      simp only [insertResponse, if_neg hlen, SortedMap.last?, hLw, List.getLast?_concat,
        Option.map_some, Option.getD_some, if_pos hlt, if_pos hover, SortedMap.entries_dropLast, hins,
        List.dropLast_concat]
    rw [hwindow]
    rw [hLw] at h hfull
    exact h.insert_of_lt_last hfull hnew hlt
      (SortedMap.pairwise_insertEntry d peer (List.pairwise_append.mp hsorted).1)
      fun e => SortedMap.mem_insertEntry_of_fresh d peer hL₀
  · have hkeep : insertResponse k responses d peer = responses := by
      simp [insertResponse, hlen, SortedMap.last?, hLw, hlt]
    rw [hkeep]
    refine h.insert_of_lt hfull fun e he => lt_of_le_of_ne ?_ (hentries e he)
    calc e.1 ≤ w.1 := le_last hsorted (hLw ▸ he)
      _ ≤ d := not_lt.mp hlt

variable (x : WireExternals P A)

/-- What a `FIND_NODE` run keeps of the peers `registered` whose responses it registered: the
bookkeeping of its peers, each registered peer queried and well keyed, and its responses the
window of the registered peers. -/
structure ResponsesInv (c : FindNodeContext P A) (registered : List (KademliaPeer P A)) : Prop where
  book : PeersBook x c.config.target Prod.fst c.peers
  registered_queried : ∀ r ∈ registered, r.peer ∈ c.queried ∧ WellKeyed x r
  window : IsTopK Prod.fst c.config.replicationFactor
    (registered.map (responseEntry c.config.target)).toFinset c.responses.entries

variable {x}

theorem distance_fresh (hkey : Function.Injective x.keyOf) {c : FindNodeContext P A}
    {registered : List (KademliaPeer P A)} (h : ResponsesInv x c registered) {peer : P}
    {entry : KademliaPeer P A} {instant : Nat} (hl : c.pending.lookup peer = some (entry, instant)) :
    ∀ e ∈ (registered.map (responseEntry c.config.target)).toFinset,
      e.1 ≠ RoutingTable.distanceTo c.config.target entry := by
  have hpend : peer ∈ c.pending := AList.lookup_isSome.mp (by rw [hl]; rfl)
  have hentry : entry.peer = peer := h.book.pending_peer peer (entry, instant) hl
  have hkeyed : WellKeyed x entry := h.book.pending_keyed peer (entry, instant) hl
  intro e he hdist
  obtain ⟨r, hr, rfl⟩ := List.mem_map.mp (List.mem_toFinset.mp he)
  obtain ⟨hrq, hrk⟩ := h.registered_queried r hr
  have hpeer : r.peer = entry.peer := by
    apply hkey
    rw [← hrk, ← hkeyed]
    exact RoutingTable.key_eq_of_distanceTo_eq hdist
  exact h.book.pending_fresh peer hpend (hentry ▸ hpeer ▸ hrq)

theorem responsesInv_step (hkey : Function.Injective x.keyOf) {c : FindNodeContext P A}
    {registered : List (KademliaPeer P A)} (h : ResponsesInv x c registered)
    {i : ContextInput P A Unit} (hi : i.WellKeyed x) :
    ResponsesInv x (c.step i).1 (registered ++ c.registeredBy i) := by
  obtain ⟨hconfig, sent?, hstep, -⟩ := step_peersStep x c i hi
  have hqueried := hstep.queried_subset
  refine ⟨hconfig ▸ h.book.step hstep, fun r hr => ?_, ?_⟩
  · rcases List.mem_append.mp hr with hr | hr
    · exact ⟨hqueried (h.registered_queried r hr).1, (h.registered_queried r hr).2⟩
    · cases i with
      | response now peer payload peers =>
        simp only [registeredBy, Option.mem_toList, Option.map_eq_some_iff] at hr
        obtain ⟨⟨entry, instant⟩, hl, rfl⟩ := hr
        refine ⟨?_, h.book.pending_keyed peer (entry, instant) hl⟩
        simp [step, registerResponse, hl]
      | nextAction now => simp [registeredBy] at hr
      | failure peer => simp [registeredBy] at hr
  · rw [hconfig]
    cases i with
    | nextAction now =>
      simpa [step, registeredBy, responses_nextAction] using h.window
    | failure peer =>
      simpa [step, registeredBy, responses_registerResponseFailure] using h.window
    | response now peer payload peers =>
      cases hl : c.pending.lookup peer with
      | none => simpa [step, registerResponse, registeredBy, hl] using h.window
      | some v =>
        obtain ⟨entry, instant⟩ := v
        have hset : ((registered ++ [entry]).map (responseEntry c.config.target)).toFinset =
            insert (responseEntry c.config.target entry)
              (registered.map (responseEntry c.config.target)).toFinset := by
          ext e
          simp
        simp only [step, registerResponse, registeredBy, hl, Option.map_some, Option.toList_some]
        rw [hset]
        exact isTopK_insertResponse h.window (distance_fresh hkey h hl)

end FindNodeContext

/-- Along every run of a `FIND_NODE` context, from any candidates and through any interleaving of
`next_action`, responses and failures, its responses are, by increasing distance, the
`replication_factor` peers closest to the target among those whose responses it registered.
These are the peers `on_query_succeeded` reports for a `FIND_NODE`, `PUT_VALUE` or `ADD_PROVIDER`
query. -/
theorem responses_closest (x : WireExternals P A) (hkey : Function.Injective x.keyOf)
    (config : FindNodeConfig P) (inPeers : List (KademliaPeer P A))
    (hpeers : ∀ peer ∈ inPeers, WellKeyed x peer) (is : List (ContextInput P A Unit))
    (his : ∀ i ∈ is, i.WellKeyed x) :
    IsTopK Prod.fst config.replicationFactor
      ((Mealy.observe FindNodeContext.step FindNodeContext.registeredBy
        (FindNodeContext.new config inPeers) is).map (FindNodeContext.responseEntry config.target)).toFinset
      (Mealy.run FindNodeContext.step (FindNodeContext.new config inPeers) is).1.responses.entries := by
  have hnew : FindNodeContext.ResponsesInv x (FindNodeContext.new config inPeers) [] :=
    ⟨peersBook_new hpeers, by simp, isTopK_empty⟩
  have hrun := Mealy.run_observe_inv FindNodeContext.registeredBy
    (fun c registered => FindNodeContext.ResponsesInv x c registered ∧ c.config = config)
    (ContextInput.WellKeyed x)
    (fun c registered i h hi => ⟨FindNodeContext.responsesInv_step hkey h.1 hi,
      (FindNodeContext.step_peersStep x c i hi).1.trans h.2⟩)
    is _ [] ⟨hnew, rfl⟩ his
  rw [List.nil_append] at hrun
  obtain ⟨hinv, hconfig⟩ := hrun
  have hwindow := hinv.window
  rw [hconfig] at hwindow
  exact hwindow

theorem responses_closest_keyed_run :
    IsTopK Prod.fst 1
      ((Mealy.observe FindNodeContext.step FindNodeContext.registeredBy
        (FindNodeContext.new ⟨⟨0⟩, 1, 3, 0, ⟨0⟩⟩
          [KademliaPeer.new WireExternals.keyed.toExternals ⟨5⟩ [] .connected,
            KademliaPeer.new WireExternals.keyed.toExternals ⟨6⟩ [] .connected])
        [.nextAction 0, .nextAction 0, .response 0 ⟨6⟩ () [], .response 0 ⟨5⟩ () []]).map
          (FindNodeContext.responseEntry ⟨0⟩)).toFinset
      (Mealy.run FindNodeContext.step
        (FindNodeContext.new ⟨⟨0⟩, 1, 3, 0, ⟨0⟩⟩
          [KademliaPeer.new WireExternals.keyed.toExternals ⟨5⟩ [] .connected,
            KademliaPeer.new WireExternals.keyed.toExternals ⟨6⟩ [] .connected])
        [.nextAction 0, .nextAction 0, .response 0 ⟨6⟩ () [], .response 0 ⟨5⟩ () []]).1.responses.entries :=
  responses_closest WireExternals.keyed Function.injective_id ⟨⟨0⟩, 1, 3, 0, ⟨0⟩⟩
    [KademliaPeer.new WireExternals.keyed.toExternals ⟨5⟩ [] .connected,
      KademliaPeer.new WireExternals.keyed.toExternals ⟨6⟩ [] .connected]
    (by simp [WellKeyed, KademliaPeer.new, WireExternals.keyed])
    [.nextAction 0, .nextAction 0, .response 0 ⟨6⟩ () [], .response 0 ⟨5⟩ () []]
    (by simp [ContextInput.WellKeyed])

namespace FindNodeContext

omit [DecidableEq P] [DecidableEq A] in
theorem discountTimedOut_eq (c : FindNodeContext P A) (now : Nat) :
    c.discountTimedOut now =
      c.pendingResponses - c.pending.entries.countP fun entry => now - entry.2.2 > c.peerTimeout := by
  have hfold : ∀ (entries : List (Sigma fun _ : P => KademliaPeer P A × Nat)) (count : Nat),
      entries.foldl (fun count entry => if now - entry.2.2 > c.peerTimeout then count - 1 else count)
        count = count - entries.countP fun entry => now - entry.2.2 > c.peerTimeout := by
    intro entries
    induction entries with
    | nil => simp
    | cons entry entries ih =>
      intro count
      rw [List.foldl_cons, ih, List.countP_cons]
      by_cases htimeout : now - entry.2.2 > c.peerTimeout
      · simp only [htimeout, if_true, decide_true]
        omega
      · simp [htimeout]
  exact hfold _ _

omit [DecidableEq A] in
theorem pendingResponses_scheduleNextPeer_le (c : FindNodeContext P A) (now : Nat) :
    (c.scheduleNextPeer now).1.pendingResponses ≤ c.pendingResponses + 1 := by
  unfold scheduleNextPeer
  split
  · exact Nat.le_succ _
  · exact min_le_left _ _

omit [DecidableEq A] in
/-- `next_action` sends a request only while the count is below the parallelism factor, so it
keeps the count at most that factor. -/
theorem pendingResponses_nextAction_le {c : FindNodeContext P A} (now : Nat)
    (h : c.pendingResponses ≤ c.config.parallelismFactor) :
    (c.nextAction now).1.pendingResponses ≤ c.config.parallelismFactor := by
  have hdiscount : c.discountTimedOut now ≤ c.config.parallelismFactor := by
    rw [discountTimedOut_eq]
    exact (Nat.sub_le _ _).trans h
  rcases nextAction_cases c now with ⟨_, hnext, _⟩ | ⟨_, hnext, _⟩ | ⟨hne, hnext⟩ <;> rw [hnext]
  · exact h
  · exact hdiscount
  · exact (pendingResponses_scheduleNextPeer_le _ now).trans (lt_of_le_of_ne hdiscount hne)

omit [DecidableEq A] in
/-- Along every run, the count of pending responses is at most the parallelism factor. -/
theorem pendingResponses_le_parallelismFactor (config : FindNodeConfig P)
    (inPeers : List (KademliaPeer P A)) (is : List (ContextInput P A Unit)) :
    (Mealy.run step (new config inPeers) is).1.pendingResponses ≤ config.parallelismFactor := by
  let inv : FindNodeContext P A → Prop := fun c =>
    c.config = config ∧ c.pendingResponses ≤ config.parallelismFactor
  have hstep : ∀ c i, inv c → True → inv (c.step i).1 := by
    rintro c i ⟨hconfig, hle⟩ -
    refine ⟨(config_step c i).trans hconfig, ?_⟩
    subst hconfig
    cases i with
    | nextAction now => exact pendingResponses_nextAction_le now hle
    | response now peer payload peers =>
      simp only [step, registerResponse]
      split
      · exact hle
      · exact (Nat.sub_le _ _).trans hle
    | failure peer =>
      simp only [step, registerResponseFailure]
      split
      · exact hle
      · exact (Nat.sub_le _ _).trans hle
  exact (Mealy.run_inv_outputs inv (fun _ => True) (fun _ => True) hstep (fun _ _ _ _ _ _ => trivial) is
    (new config inPeers) ⟨rfl, Nat.zero_le _⟩ (fun _ _ => trivial)).1.2

end FindNodeContext

/-- With a parallelism factor of one, three candidates, and `next_action` called at the start and
twice after the timeout: the second call discounts the first peer and sends to the second, the
third discounts the first peer again and sends to the third. The count of pending responses is
then one, while two requests are within the timeout. -/
theorem pendingResponses_recounts_timeouts :
    (Mealy.run FindNodeContext.step
        (.new ⟨0, 20, 1, 0, ⟨0⟩⟩ ([1, 2, 3].map fun n => KademliaPeer.new WireExternals.numeric.toExternals n [] .connected))
        [.nextAction 0, .nextAction (defaultPeerTimeout + 1), .nextAction (defaultPeerTimeout + 2)]).2 =
      [.sendMessage 0 1, .sendMessage 0 2, .sendMessage 0 3] ∧
    (Mealy.run FindNodeContext.step
        (.new ⟨0, 20, 1, 0, ⟨0⟩⟩ ([1, 2, 3].map fun n => KademliaPeer.new WireExternals.numeric.toExternals n [] .connected))
        [.nextAction 0, .nextAction (defaultPeerTimeout + 1), .nextAction (defaultPeerTimeout + 2)]).1.pendingResponses = 1 ∧
    ((Mealy.run FindNodeContext.step
        (.new ⟨0, 20, 1, 0, ⟨0⟩⟩ ([1, 2, 3].map fun n => KademliaPeer.new WireExternals.numeric.toExternals n [] .connected))
        [.nextAction 0, .nextAction (defaultPeerTimeout + 1), .nextAction (defaultPeerTimeout + 2)]).1.pending.entries.filter
        fun e => defaultPeerTimeout + 2 - e.2.2 ≤ defaultPeerTimeout).length = 2 := by
  decide

/-- A `GET_VALUE` query for the key `[1]` whose one peer answers with a record of the key `[2]`:
the record is kept and reported, for `register_response` never compares the keys. -/
theorem getRecord_reports_record_of_other_key :
    (do
      let (e, _) ← ((QueryEngine.new 0 20 3).startGetRecord WireExternals.numeric 0 [1]
        [KademliaPeer.new WireExternals.numeric.toExternals 5 [] .connected] .one 0).nextAction
          WireExternals.numeric 0
      let e ← e.registerResponse 0 0 5 (.getRecord none (some ⟨[2], [17], none, none⟩) [])
      e.nextAction WireExternals.numeric 0).map Prod.snd =
    .ok (some (.getRecordQueryDone 0 [⟨5, ⟨[2], [17], none, none⟩⟩])) := by
  decide

end Litep2p.Kademlia
