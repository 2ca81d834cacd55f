import Mathlib
import Litep2p.Yamux.Invariant

/-! `Closing`, the future `Connection::poll_close` turns an active connection into: it closes the
channel of every stream, drains what the streams had queued into the frames waiting for the
socket, queues `Term` after all of them, flushes them to the socket and closes it.

The loop of `Closing::poll` waits on two things only: the stream receivers, which yield the
commands of the streams in an order of their own, and the socket. `Closing.step` is one turn of
that loop on what it waited for, `Closing.Event`, followed by the turns that wait for nothing.

`Closing.Inv` is what the connection's invariant leaves of a closing one: distinct receivers, and
well-formed frames and commands; every turn keeps it and hands the socket only well-formed frames.
What a turn drains is `Closing.drained`, the ghost by which the graceful close is stated: each
stream's frames reach the socket as it queued them (`Closing.Accounts`). -/

namespace Litep2p.Yamux

def updateQueue (receivers : List Receiver) (id : StreamId) (f : List StreamCommand → List StreamCommand) :
    List Receiver :=
  receivers.map fun (r : Receiver) => if r.id = id then { r with queue := f r.queue } else r

/-- The frame a command of the stream `id` puts on the wire: its own frame, or the frame that
half-closes the stream. -/
def StreamCommand.frame (id : StreamId) : StreamCommand → Frame
  | .sendFrame frame => frame
  | .closeStream ack => Frame.closeStream id ack

theorem StreamCommand.WellFormed.frame {c : StreamCommand} (hc : c.WellFormed) (id : StreamId) :
    (c.frame id).WellFormed := by
  cases c with
  | sendFrame frame => exact hc
  | closeStream ack => exact (Frame.wellFormed_new_iff _).mpr fun _ => by split <;> rfl

inductive ClosingState where
  | closingStreamReceiver
  | drainingStreamReceiver
  | flushingPendingFrames
  | closingSocket
  deriving DecidableEq, Repr

/-- `Closing`: where its loop is, the receivers of the streams' channels, and the frames waiting
for the socket. -/
structure Closing where
  state : ClosingState
  receivers : List Receiver
  pendingFrames : List Frame

def Active.close (a : Active) : Closing := ⟨.closingStreamReceiver, a.receivers, a.pendingFrames⟩

namespace Closing

/-- What the loop of `Closing::poll` waits for: an item of the stream `id` from the stream
receivers, or a socket ready for the next frame, or to close. -/
inductive Event where
  | item (id : StreamId)
  | socketReady

/-- `DrainingStreamReceiver` once no receiver is left: the stream receivers have ended, so `Term`
is queued after every other frame and the frames are flushed. -/
def settle (c : Closing) : Closing :=
  match c.state, c.receivers with
  | .drainingStreamReceiver, [] =>
    { c with state := .flushingPendingFrames, pendingFrames := c.pendingFrames ++ [Frame.term] }
  | _, _ => c

/-- `ClosingStreamReceiver`: the channel of every stream is closed, after which no stream can
queue a command; what they queued is left to drain. -/
def closeReceivers (c : Closing) : Closing :=
  match c.state with
  | .closingStreamReceiver => settle { c with state := .drainingStreamReceiver }
  | _ => c

/-- The stream receivers yield the next item of the stream `id`: the frame of its next command is
queued, and a channel with nothing left ends, its receiver gone. -/
def drain (c : Closing) (id : StreamId) : Closing :=
  match c.receivers.find? (·.id == id) with
  | none => c
  | some r =>
    match r.queue with
    | cmd :: _ =>
      { c with
        receivers := updateQueue c.receivers id List.tail
        pendingFrames := c.pendingFrames ++ [cmd.frame id] }
    | [] => { c with receivers := c.receivers.filter (·.id != id) }

/-- One turn of the loop of `Closing::poll` on what it waited for, and the frame it hands the
socket; `none` once the socket is closed and the future done. -/
def step (c : Closing) : Event → Option Closing × List Frame
  | .item id => if c.state = .drainingStreamReceiver then (some (c.drain id).settle, []) else (some c, [])
  | .socketReady =>
    match c.state, c.pendingFrames with
    | .flushingPendingFrames, frame :: rest => (some { c with pendingFrames := rest }, [frame])
    | .flushingPendingFrames, [] => (some { c with state := .closingSocket }, [])
    | .closingSocket, _ => (none, [])
    | _, _ => (some c, [])

/-! ### The invariant of a closing connection -/

/-- Distinct receivers, and well-formed frames waiting and commands queued. -/
structure Inv (c : Closing) : Prop where
  receivers_nodup : (c.receivers.map Receiver.id).Nodup
  pending_wf : ∀ f ∈ c.pendingFrames, f.WellFormed
  queue_wf : ∀ r ∈ c.receivers, ∀ cmd ∈ r.queue, cmd.WellFormed

variable {c : Closing}

theorem inv_close {cfg : Config} {a : Active} (ha : a.Inv cfg) : a.close.Inv :=
  ⟨ha.receivers_nodup, ha.pending_wf, ha.queue_wf⟩

theorem Inv.withTerm (hc : c.Inv) (state : ClosingState) :
    ({ c with state, pendingFrames := c.pendingFrames ++ [Frame.term] } : Closing).Inv := by
  refine ⟨hc.receivers_nodup, fun f hf => ?_, hc.queue_wf⟩
  rcases List.mem_append.mp hf with hf | hf
  · exact hc.pending_wf f hf
  · rw [List.mem_singleton.mp hf]
    exact (Frame.wellFormed_new_iff _).mpr fun h => by cases h

theorem Inv.settle (hc : c.Inv) : c.settle.Inv := by
  unfold Closing.settle
  split
  · exact hc.withTerm _
  · exact hc

theorem Inv.closeReceivers (hc : c.Inv) : c.closeReceivers.Inv := by
  unfold Closing.closeReceivers
  split
  · exact Inv.settle ⟨hc.receivers_nodup, hc.pending_wf, hc.queue_wf⟩
  · exact hc

theorem Inv.drain (hc : c.Inv) (id : StreamId) : (c.drain id).Inv := by
  unfold Closing.drain
  split
  · exact hc
  rename_i r hfind
  have hr : r ∈ c.receivers := List.mem_of_find?_eq_some hfind
  split
  · rename_i cmd rest hqueue
    have hmap : (updateQueue c.receivers id List.tail).map Receiver.id = c.receivers.map Receiver.id := by
      rw [updateQueue, List.map_map]
      exact List.map_congr_left fun r _ => by dsimp only [Function.comp]; split <;> rfl
    refine ⟨hmap ▸ hc.receivers_nodup, fun f hf => ?_, fun r' hr' cmd' hcmd' => ?_⟩
    · rcases List.mem_append.mp hf with hf | hf
      · exact hc.pending_wf f hf
      · rw [List.mem_singleton.mp hf]
        exact (hc.queue_wf r hr cmd (by rw [hqueue]; exact List.mem_cons_self)).frame id
    · obtain ⟨r₀, hr₀, rfl⟩ := List.mem_map.mp hr'
      split at hcmd'
      · exact hc.queue_wf r₀ hr₀ cmd' (List.mem_of_mem_tail hcmd')
      · exact hc.queue_wf r₀ hr₀ cmd' hcmd'
  · exact ⟨(List.Sublist.map Receiver.id List.filter_sublist).nodup hc.receivers_nodup, hc.pending_wf,
      fun r' hr' => hc.queue_wf r' (List.mem_of_mem_filter hr')⟩

theorem Inv.step (hc : c.Inv) (e : Event) :
    (∀ c' ∈ (c.step e).1, c'.Inv) ∧ (∀ f ∈ (c.step e).2, f.WellFormed) ∧ (c.step e).2.length ≤ 1 := by
  have hquiet : ∀ c' : Closing, c'.Inv → (∀ c'' ∈ some c', Closing.Inv c'') ∧ (∀ f ∈ ([] : List Frame), f.WellFormed) ∧
      ([] : List Frame).length ≤ 1 :=
    fun c' h => ⟨fun c'' hc'' => Option.mem_some_iff.mp hc'' ▸ h, fun _ hf => absurd hf List.not_mem_nil,
      Nat.zero_le _⟩
  cases e with
  | item id =>
    unfold Closing.step
    split_ifs
    · exact hquiet _ (hc.drain id).settle
    · exact hquiet c hc
  | socketReady =>
    cases hstate : c.state <;> simp only [Closing.step, hstate]
    · exact hquiet c hc
    · exact hquiet c hc
    · cases hpending : c.pendingFrames with
      | nil => exact hquiet _ ⟨hc.receivers_nodup, fun _ hf => absurd hf List.not_mem_nil, hc.queue_wf⟩
      | cons frame rest =>
        have hwf : ∀ f ∈ frame :: rest, f.WellFormed := hpending ▸ hc.pending_wf
        refine ⟨fun c' hc' => Option.mem_some_iff.mp hc' ▸ ?_, fun f hf => ?_, le_rfl⟩
        · exact ⟨hc.receivers_nodup, fun f hf => hwf f (List.mem_cons_of_mem _ hf), hc.queue_wf⟩
        · exact hwf f (List.mem_singleton.mp hf ▸ List.mem_cons_self)
    · exact ⟨(fun _ hc' => by cases hc'), fun _ hf => absurd hf List.not_mem_nil, Nat.zero_le _⟩

theorem settle_of_ne_nil (h : c.receivers ≠ []) : c.settle = c := by
  unfold Closing.settle
  split
  · rename_i hempty
    exact absurd hempty h
  · rfl

theorem updateQueue_of_not_mem {rs : List Receiver} {id : StreamId} (hid : id ∉ rs.map Receiver.id)
    (f : List StreamCommand → List StreamCommand) : updateQueue rs id f = rs := by
  have hsame : ∀ r ∈ rs, (if r.id = id then { r with queue := f r.queue } else r) = r :=
    fun r hr => if_neg fun he => hid (by rw [← he]; exact List.mem_map_of_mem hr)
  rw [updateQueue, List.map_congr_left hsame, List.map_id']

theorem drain_head_cons {rid : StreamId} {cmd : StreamCommand} {q : List StreamCommand} {d : Bool}
    {rest : List Receiver} (hrecv : c.receivers = ⟨rid, cmd :: q, d⟩ :: rest) (hid : rid ∉ rest.map Receiver.id) :
    c.drain rid = { c with
      receivers := ⟨rid, q, d⟩ :: rest
      pendingFrames := c.pendingFrames ++ [cmd.frame rid] } := by
  have hfind : c.receivers.find? (·.id == rid) = some ⟨rid, cmd :: q, d⟩ := by
    rw [hrecv]
    exact List.find?_cons_of_pos (beq_self_eq_true rid)
  have hupdate : updateQueue c.receivers rid List.tail = ⟨rid, q, d⟩ :: rest := by
    rw [hrecv, updateQueue, List.map_cons, if_pos rfl, ← updateQueue, updateQueue_of_not_mem hid]
    rfl
  rw [Closing.drain, hfind]
  dsimp only
  rw [hupdate]

theorem drain_head_nil {rid : StreamId} {d : Bool} {rest : List Receiver}
    (hrecv : c.receivers = ⟨rid, [], d⟩ :: rest) (hid : rid ∉ rest.map Receiver.id) :
    c.drain rid = { c with receivers := rest } := by
  have hfind : c.receivers.find? (·.id == rid) = some ⟨rid, [], d⟩ := by
    rw [hrecv]
    exact List.find?_cons_of_pos (beq_self_eq_true rid)
  have hfilter : c.receivers.filter (·.id != rid) = rest := by
    rw [hrecv, List.filter_cons_of_neg (by simp)]
    exact List.filter_eq_self.mpr fun r hr =>
      bne_iff_ne.mpr fun he => hid (by rw [← he]; exact List.mem_map_of_mem hr)
  rw [Closing.drain, hfind]
  dsimp only
  rw [hfilter]

/-! ### What a turn drains -/

theorem find?_id_of_mem {rs : List Receiver} (hnodup : (rs.map Receiver.id).Nodup) {r : Receiver}
    (hr : r ∈ rs) : rs.find? (·.id == r.id) = some r := by
  have hsome : (rs.find? (·.id == r.id)).isSome := List.find?_isSome.mpr ⟨r, hr, by simp⟩
  obtain ⟨r', hfind⟩ := Option.isSome_iff_exists.mp hsome
  have hid : r'.id = r.id := by simpa using List.find?_some hfind
  rw [hfind, List.inj_on_of_nodup_map hnodup (List.mem_of_find?_eq_some hfind) hr hid]

theorem find?_updateQueue (rs : List Receiver) (id id' : StreamId) (f : List StreamCommand → List StreamCommand) :
    (updateQueue rs id f).find? (·.id == id') =
      (rs.find? (·.id == id')).map fun r => if r.id = id then { r with queue := f r.queue } else r := by
  have hsame : ((·.id == id') ∘ fun (r : Receiver) => if r.id = id then { r with queue := f r.queue } else r) =
      (·.id == id') :=
    funext fun r => by dsimp only [Function.comp]; split <;> rfl
  rw [updateQueue, List.find?_map, hsame]

theorem find?_filter_ne (rs : List Receiver) {id id' : StreamId} (hne : id' ≠ id) :
    (rs.filter (·.id != id)).find? (·.id == id') = rs.find? (·.id == id') := by
  rw [List.find?_filter]
  congr 1
  funext r
  by_cases h : r.id = id'
  · simp [h, hne]
  · simp [h]

def queued (c : Closing) (id : StreamId) : List Frame :=
  ((c.receivers.find? (·.id == id)).map fun r => r.queue.map (StreamCommand.frame id)).getD []

/-- What a turn drains: the stream and the frame of the command it takes, if it takes one. -/
def drained (c : Closing) : Event → List (StreamId × Frame)
  | .item id =>
    match c.state, c.receivers.find? (·.id == id) with
    | .drainingStreamReceiver, some ⟨_, cmd :: _, _⟩ => [(id, cmd.frame id)]
    | _, _ => []
  | .socketReady => []

/-- What has been drained, `D`, and what is still queued in `c` make up, stream by stream, the
frames of the commands the receivers `R` had queued when the connection began to close; and only
streams of `R` are drained or left. -/
structure Accounts (R : List Receiver) (D : List (StreamId × Frame)) (c : Closing) : Prop where
  receivers_mem : ∀ r ∈ c.receivers, r.id ∈ R.map Receiver.id
  drained_mem : ∀ p ∈ D, p.1 ∈ R.map Receiver.id
  stream : ∀ r ∈ R, (D.filter (·.1 = r.id)).map Prod.snd ++ c.queued r.id = r.queue.map (StreamCommand.frame r.id)

variable {R : List Receiver} {D : List (StreamId × Frame)}

theorem accounts_close {cfg : Config} {a : Active} (ha : a.Inv cfg) : Accounts a.receivers [] a.close := by
  refine ⟨fun r hr => List.mem_map_of_mem hr, fun _ hp => absurd hp List.not_mem_nil, fun r hr => ?_⟩
  rw [List.filter_nil, List.map_nil, List.nil_append, queued, Active.close]
  dsimp only
  rw [find?_id_of_mem ha.receivers_nodup hr]
  rfl

theorem queued_eq {id : StreamId} {r : Receiver} (h : c.receivers.find? (·.id == id) = some r) :
    c.queued id = r.queue.map (StreamCommand.frame id) := by
  rw [queued, h]
  rfl

theorem queued_eq_nil {id : StreamId} (h : c.receivers.find? (·.id == id) = none) : c.queued id = [] := by
  rw [queued, h]
  rfl

theorem Accounts.of_receivers {c' : Closing} (hacc : Accounts R D c) (hrecv : c'.receivers = c.receivers) :
    Accounts R D c' :=
  ⟨hrecv ▸ hacc.receivers_mem, hacc.drained_mem, fun r hr => by
    rw [queued, hrecv]
    exact hacc.stream r hr⟩

theorem Accounts.take (hacc : Accounts R D c) {c' : Closing} {r : Receiver} {cmd : StreamCommand}
    {rest : List StreamCommand} {id : StreamId} (hfind : c.receivers.find? (·.id == id) = some r)
    (hqueue : r.queue = cmd :: rest) (hrecv : c'.receivers = updateQueue c.receivers id List.tail) :
    Accounts R (D ++ [(id, cmd.frame id)]) c' := by
  have hrid : r.id = id := by simpa using List.find?_some hfind
  have hmem : id ∈ R.map Receiver.id := hrid ▸ hacc.receivers_mem r (List.mem_of_find?_eq_some hfind)
  have hother : ∀ id', id' ≠ id → c'.queued id' = c.queued id' := by
    intro id' hne
    rw [queued, queued, hrecv, find?_updateQueue]
    cases hfind' : c.receivers.find? (·.id == id') with
    | none => rfl
    | some r₁ =>
      have hr₁ : r₁.id = id' := by simpa using List.find?_some hfind'
      simp only [Option.map_some, hr₁, if_neg hne]
  refine ⟨fun r' hr' => ?_, fun p hp => ?_, fun r₀ hr₀ => ?_⟩
  · rw [hrecv] at hr'
    obtain ⟨r₁, hr₁, rfl⟩ := List.mem_map.mp hr'
    have hid : (if r₁.id = id then { r₁ with queue := r₁.queue.tail } else r₁).id = r₁.id := by split <;> rfl
    rw [hid]
    exact hacc.receivers_mem r₁ hr₁
  · rcases List.mem_append.mp hp with hp | hp
    · exact hacc.drained_mem p hp
    · rw [List.mem_singleton.mp hp]
      exact hmem
  · have hstream := hacc.stream r₀ hr₀
    rw [List.filter_append, List.map_append, List.append_assoc]
    by_cases hid : r₀.id = id
    · have hfind₀ : c.receivers.find? (·.id == r₀.id) = some r := by rw [hid]; exact hfind
      have hfind' : c'.receivers.find? (·.id == r₀.id) = some { r with queue := rest } := by
        rw [hrecv, find?_updateQueue, hfind₀, Option.map_some, if_pos hrid, hqueue]
        rfl
      rw [queued_eq hfind₀, hqueue] at hstream
      rw [queued_eq hfind', ← hstream, hid]
      simp
    · rw [hother _ hid, ← hstream]
      simp [Ne.symm hid]

theorem Accounts.remove (hacc : Accounts R D c) {c' : Closing} {r : Receiver} {id : StreamId}
    (hfind : c.receivers.find? (·.id == id) = some r) (hqueue : r.queue = [])
    (hrecv : c'.receivers = c.receivers.filter (·.id != id)) : Accounts R D c' := by
  refine ⟨fun r' hr' => ?_, hacc.drained_mem, fun r₀ hr₀ => ?_⟩
  · rw [hrecv] at hr'
    exact hacc.receivers_mem r' (List.mem_of_mem_filter hr')
  have hstream := hacc.stream r₀ hr₀
  by_cases hid : r₀.id = id
  · have hfind₀ : c.receivers.find? (·.id == r₀.id) = some r := by rw [hid]; exact hfind
    have hnone : c'.receivers.find? (·.id == r₀.id) = none := by
      rw [hrecv, hid]
      exact List.find?_eq_none.mpr fun x hx => by simpa using (List.mem_filter.mp hx).2
    rw [queued_eq hfind₀, hqueue] at hstream
    rw [queued_eq_nil hnone]
    exact hstream
  · rw [queued, hrecv, find?_filter_ne _ hid]
    exact hstream

theorem Accounts.drained_eq (hacc : Accounts R D c) (hempty : c.receivers = []) :
    ∀ r ∈ R, (D.filter (·.1 = r.id)).map Prod.snd = r.queue.map (StreamCommand.frame r.id) := by
  intro r hr
  have hstream := hacc.stream r hr
  rw [queued, hempty] at hstream
  simpa using hstream

/-! ### How far a close has come -/

/-- Where a close that began with the frames `P` waiting stands in its phase, having drained `D`
and handed the socket `sent`: while draining nothing is sent and the frames drained wait after
`P`; once flushing, what was sent and what waits make up `P`, the frames drained and `Term`, the
receivers all gone; once closing the socket, all of it was sent. -/
def Phase (P : List Frame) (D : List (StreamId × Frame)) (sent : List Frame) (c : Closing) : Prop :=
  match c.state with
  | .closingStreamReceiver => False
  | .drainingStreamReceiver => sent = [] ∧ c.pendingFrames = P ++ D.map Prod.snd
  | .flushingPendingFrames => c.receivers = [] ∧ sent ++ c.pendingFrames = P ++ D.map Prod.snd ++ [Frame.term]
  | .closingSocket => c.receivers = [] ∧ sent = P ++ D.map Prod.snd ++ [Frame.term]

/-- How far a close that began with the receivers `R` and the frames `P` waiting has come: a
sound closing state, accounting stream by stream for what was drained, in its phase; or, once the
socket is closed, `P`, every stream's frames as it queued them and `Term` sent. -/
def Progress (R : List Receiver) (P : List Frame) : Option Closing → List (StreamId × Frame) → List Frame → Prop
  | some c, D, sent => c.Inv ∧ Accounts R D c ∧ Phase P D sent c
  | none, D, sent => sent = P ++ D.map Prod.snd ++ [Frame.term] ∧ (∀ p ∈ D, p.1 ∈ R.map Receiver.id) ∧
    ∀ r ∈ R, (D.filter (·.1 = r.id)).map Prod.snd = r.queue.map (StreamCommand.frame r.id)

variable {P sent : List Frame}

theorem Progress.settle (h : Progress R P (some c) D sent) : Progress R P (some c.settle) D sent := by
  obtain ⟨hc, hacc, hphase⟩ := h
  unfold Closing.settle
  split
  · rename_i hstate hempty
    rw [Phase, hstate] at hphase
    obtain ⟨hsent, hpending⟩ := hphase
    refine ⟨hc.withTerm _, hacc.of_receivers rfl, ?_⟩
    show c.receivers = [] ∧ sent ++ (c.pendingFrames ++ [Frame.term]) = _
    rw [hsent, hpending, List.nil_append, List.append_assoc]
    exact ⟨hempty, rfl⟩
  · exact ⟨hc, hacc, hphase⟩

theorem phase_draining (hstate : c.state = .drainingStreamReceiver) :
    Phase P D sent c ↔ sent = [] ∧ c.pendingFrames = P ++ D.map Prod.snd := by
  rw [Phase, hstate]

theorem phase_flushing (hstate : c.state = .flushingPendingFrames) :
    Phase P D sent c ↔ c.receivers = [] ∧ sent ++ c.pendingFrames = P ++ D.map Prod.snd ++ [Frame.term] := by
  rw [Phase, hstate]

theorem phase_closingSocket (hstate : c.state = .closingSocket) :
    Phase P D sent c ↔ c.receivers = [] ∧ sent = P ++ D.map Prod.snd ++ [Frame.term] := by
  rw [Phase, hstate]

theorem Progress.drain (h : Progress R P (some c) D sent) (hstate : c.state = .drainingStreamReceiver)
    (id : StreamId) : Progress R P (some (c.drain id)) (D ++ c.drained (.item id)) sent := by
  obtain ⟨hc, hacc, hphase⟩ := h
  obtain ⟨hsent, hpending⟩ := (phase_draining hstate).mp hphase
  have hinv := hc.drain id
  cases hfind : c.receivers.find? (·.id == id) with
  | none =>
    have hdrain : c.drain id = c := by rw [Closing.drain, hfind]
    have hdrained : c.drained (.item id) = [] := by simp only [drained, hstate, hfind]
    rw [hdrain, hdrained, List.append_nil]
    exact ⟨hc, hacc, hphase⟩
  | some r =>
    obtain ⟨rid, queue, dropped⟩ := r
    cases queue with
    | nil =>
      have hdrain : c.drain id = { c with receivers := c.receivers.filter (·.id != id) } := by
        rw [Closing.drain, hfind]
      have hdrained : c.drained (.item id) = [] := by simp only [drained, hstate, hfind]
      rw [hdrain] at hinv ⊢
      rw [hdrained, List.append_nil]
      exact ⟨hinv, hacc.remove hfind rfl rfl, (phase_draining (by exact hstate)).mpr ⟨hsent, hpending⟩⟩
    | cons cmd rest =>
      have hdrain : c.drain id = { c with
          receivers := updateQueue c.receivers id List.tail
          pendingFrames := c.pendingFrames ++ [cmd.frame id] } := by
        rw [Closing.drain, hfind]
      have hdrained : c.drained (.item id) = [(id, cmd.frame id)] := by simp only [drained, hstate, hfind]
      rw [hdrain] at hinv ⊢
      rw [hdrained]
      refine ⟨hinv, hacc.take hfind rfl rfl, (phase_draining (by exact hstate)).mpr ⟨hsent, ?_⟩⟩
      show c.pendingFrames ++ [cmd.frame id] = _
      rw [hpending, List.map_append, List.append_assoc]
      rfl

theorem Progress.step (h : Progress R P (some c) D sent) (e : Event) :
    Progress R P (c.step e).1 (D ++ c.drained e) (sent ++ (c.step e).2) := by
  have hinv := (h.1.step e).1
  obtain ⟨hc, hacc, hphase⟩ := h
  cases e with
  | item id =>
    by_cases hstate : c.state = .drainingStreamReceiver
    · simp only [Closing.step, if_pos hstate, List.append_nil]
      exact (Progress.drain ⟨hc, hacc, hphase⟩ hstate id).settle
    · have hdrained : c.drained (.item id) = [] := by
        simp only [drained]
        cases hs : c.state <;> first | exact absurd hs hstate | rfl
      simp only [Closing.step, if_neg hstate, hdrained, List.append_nil]
      exact ⟨hc, hacc, hphase⟩
  | socketReady =>
    rw [show c.drained .socketReady = [] from rfl, List.append_nil]
    cases hstate : c.state with
    | closingStreamReceiver =>
      rw [Phase, hstate] at hphase
      exact hphase.elim
    | drainingStreamReceiver =>
      simp only [Closing.step, hstate, List.append_nil]
      exact ⟨hc, hacc, hphase⟩
    | flushingPendingFrames =>
      obtain ⟨hempty, hflush⟩ := (phase_flushing hstate).mp hphase
      simp only [Closing.step, hstate] at hinv ⊢
      cases hpending : c.pendingFrames with
      | nil =>
        simp only [hpending] at hinv ⊢
        rw [hpending, List.append_nil] at hflush
        refine ⟨hinv _ rfl, hacc.of_receivers rfl, (phase_closingSocket rfl).mpr ⟨hempty, ?_⟩⟩
        rw [List.append_nil]
        exact hflush
      | cons frame rest =>
        simp only [hpending] at hinv ⊢
        rw [hpending] at hflush
        refine ⟨hinv _ rfl, hacc.of_receivers rfl, (phase_flushing rfl).mpr ⟨hempty, ?_⟩⟩
        rw [List.append_assoc]
        exact hflush
    | closingSocket =>
      obtain ⟨hempty, hsent⟩ := (phase_closingSocket hstate).mp hphase
      simp only [Closing.step, hstate, List.append_nil]
      exact ⟨hsent, hacc.drained_mem, hacc.drained_eq hempty⟩

theorem progress_close {cfg : Config} {a : Active} (ha : a.Inv cfg) :
    Progress a.receivers a.pendingFrames (some a.close.closeReceivers) [] [] := by
  have hstart : Progress a.receivers a.pendingFrames (some { a.close with state := .drainingStreamReceiver }) [] [] :=
    ⟨⟨ha.receivers_nodup, ha.pending_wf, ha.queue_wf⟩, (accounts_close ha).of_receivers rfl,
      (phase_draining rfl).mpr ⟨rfl, by simp [Active.close]⟩⟩
  exact hstart.settle

end Closing

end Litep2p.Yamux
