import Mathlib
import Litep2p.Yamux.Safety

/-! The graceful close of a yamux connection. After `Connection::poll_close`, whatever the order in
which the stream receivers yield, and whatever the user and the remote do meanwhile, the socket
gets the frames that were waiting, then every command each stream had queued, in the order the
stream queued them, none lost and none repeated, and `Term` last, after which the socket is
closed (`run_close_flushes`). And the close completes: once the stream receivers have yielded
their items and the socket was ready often enough, the connection is closed
(`run_close_completes`).

What the close drains is the ghost of the run, `ConnectionState.drained`; `Closing.Progress`
relates it to the state and to what was sent, and `Mealy.run_observe_outputs_inv` carries that
over the run. -/

namespace Litep2p.Yamux

namespace ConnectionState

def drained : ConnectionState → Input → List (StreamId × Frame)
  | .closing c, i => (i.closingEvent.map c.drained).getD []
  | _, _ => []

/-- A close that began with the receivers `R` and the frames `P` waiting, as far as it has come,
having drained `D` and shown `outs`: closing or closed, with only frames shown. -/
def Closes (R : List Receiver) (P : List Frame) (st : ConnectionState) (D : List (StreamId × Frame))
    (outs : List Output) : Prop :=
  ∃ oc sent, st = oc.elim .closed .closing ∧ outs = sent.map .frame ∧ Closing.Progress R P oc D sent

variable {cfg : Config} {R : List Receiver} {P : List Frame}

theorem closes_step {st : ConnectionState} {D : List (StreamId × Frame)} {outs : List Output}
    (h : Closes R P st D outs) (i : Input) :
    Closes R P (st.step cfg i).1 (D ++ st.drained i) (outs ++ (st.step cfg i).2) := by
  obtain ⟨oc, sent, rfl, rfl, hprogress⟩ := h
  cases oc with
  | none =>
    dsimp only [Option.elim]
    refine ⟨none, sent, rfl, List.append_nil _, ?_⟩
    rw [show drained .closed i = [] from rfl, List.append_nil]
    exact hprogress
  | some c =>
    dsimp only [Option.elim]
    cases he : i.closingEvent with
    | none =>
      have hstep : (closing c).step cfg i = (closing c, []) := by simp only [ConnectionState.step, he]
      refine ⟨some c, sent, by rw [hstep]; rfl, by rw [hstep, List.append_nil], ?_⟩
      rw [show drained (closing c) i = [] by simp only [drained, he]; rfl, List.append_nil]
      exact hprogress
    | some e =>
      have hstep : (closing c).step cfg i = ((c.step e).1.elim .closed .closing, (c.step e).2.map .frame) := by
        simp only [ConnectionState.step, he]
      refine ⟨(c.step e).1, sent ++ (c.step e).2, by rw [hstep], by rw [hstep, List.map_append], ?_⟩
      rw [show drained (closing c) i = c.drained e by simp only [drained, he, Option.map_some, Option.getD_some]]
      exact hprogress.step e

/-- A run that reached the session `s` and then closes: the run of the rest from the closing state
`poll_close` leads to. -/
theorem run_pollClose {mode : Mode} {is : List Input} {s : Session} (hs : (run cfg mode is).1 = .active s)
    (js : List Input) :
    run cfg mode (is ++ .pollClose :: js) =
      ((Mealy.run (step cfg) (.closing s.active.close.closeReceivers) js).1,
        (run cfg mode is).2 ++ (Mealy.run (step cfg) (.closing s.active.close.closeReceivers) js).2) := by
  rw [run, Mealy.run_append, ← run, hs, Mealy.run_cons]
  rfl

/-- Graceful close: once the user closes a connection a run reached, every continuation that gets
it closed has shown, after the close, exactly the frames that were waiting, then the frames of the
commands its streams had queued, each stream's in the order it queued them and nothing else, and
`Term` last. -/
theorem run_close_flushes (cfg : Config) (mode : Mode) (is js : List Input) {s : Session}
    (hs : (run cfg mode is).1 = .active s) (hclosed : (run cfg mode (is ++ .pollClose :: js)).1 = .closed) :
    ∃ D : List (StreamId × Frame),
      (run cfg mode (is ++ .pollClose :: js)).2 =
        (run cfg mode is).2 ++ (s.active.pendingFrames ++ D.map Prod.snd ++ [Frame.term]).map .frame ∧
      (∀ p ∈ D, p.1 ∈ s.active.receivers.map Receiver.id) ∧
      ∀ r ∈ s.active.receivers, (D.filter (·.1 = r.id)).map Prod.snd = r.queue.map (StreamCommand.frame r.id) := by
  have hstart : Closes s.active.receivers s.active.pendingFrames (.closing s.active.close.closeReceivers) [] [] :=
    ⟨some _, [], rfl, rfl, Closing.progress_close (inv_of_run hs).1.active⟩
  obtain ⟨oc, sent, hst, houts, hprogress⟩ :=
    Mealy.run_observe_outputs_inv drained (Closes s.active.receivers s.active.pendingFrames)
      (fun _ _ _ i h => closes_step h i) js _ [] [] hstart
  rw [run_pollClose hs] at hclosed ⊢
  cases oc with
  | some c =>
    rw [hclosed] at hst
    cases hst
  | none =>
    obtain ⟨hsent, hmem, hstream⟩ := hprogress
    refine ⟨_, ?_, hmem, hstream⟩
    rw [List.nil_append] at houts
    dsimp only
    rw [houts, hsent]

theorem run_close_flushes_write :
    ∃ s, (run Config.default .client [.openStream, .write 1 [1, 2, 3]]).1 = .active s ∧
      (run Config.default .client ([.openStream, .write 1 [1, 2, 3]] ++
        .pollClose :: [.command 1, .command 1, .sendFrame, .sendFrame, .sendFrame, .sendFrame])).1 = .closed ∧
      ∃ D : List (StreamId × Frame),
        (run Config.default .client ([.openStream, .write 1 [1, 2, 3]] ++
          .pollClose :: [.command 1, .command 1, .sendFrame, .sendFrame, .sendFrame, .sendFrame])).2 =
          (run Config.default .client [.openStream, .write 1 [1, 2, 3]]).2 ++
            (s.active.pendingFrames ++ D.map Prod.snd ++ [Frame.term]).map .frame ∧
        (∀ p ∈ D, p.1 ∈ s.active.receivers.map Receiver.id) ∧
        ∀ r ∈ s.active.receivers, (D.filter (·.1 = r.id)).map Prod.snd = r.queue.map (StreamCommand.frame r.id) :=
  ⟨_, rfl, rfl, run_close_flushes Config.default .client [.openStream, .write 1 [1, 2, 3]]
    [.command 1, .command 1, .sendFrame, .sendFrame, .sendFrame, .sendFrame] rfl rfl⟩

/-! ### The close completes -/

/-- The inputs that let the close of `a` complete: the items of each stream's channel in turn, its
commands and then its end, and the socket ready for each frame and to close. -/
def closeSchedule (a : Active) : List Input :=
  (a.receivers.map fun r => List.replicate (r.queue.length + 1) (Input.command r.id)).flatten ++
    List.replicate (a.pendingFrames.length + (a.receivers.map fun r => r.queue.length).sum + 3) .sendFrame

theorem step_closing_command {c : Closing} (hstate : c.state = .drainingStreamReceiver) (id : StreamId) :
    (closing c).step cfg (.command id) = (.closing (c.drain id).settle, []) := by
  simp only [ConnectionState.step, Input.closingEvent, Closing.step, if_pos hstate, Option.elim, List.map_nil]

theorem run_drain_receiver {c : Closing} {rid : StreamId} {d : Bool} {rest : List Receiver}
    (hid : rid ∉ rest.map Receiver.id) :
    ∀ q : List StreamCommand, c.state = .drainingStreamReceiver → c.receivers = ⟨rid, q, d⟩ :: rest →
      Mealy.run (step cfg) (.closing c) (List.replicate (q.length + 1) (.command rid)) =
        (.closing { c with
          receivers := rest
          pendingFrames := c.pendingFrames ++ q.map (StreamCommand.frame rid) }.settle, []) := by
  intro q
  induction q generalizing c with
  | nil =>
    intro hstate hrecv
    rw [List.length_nil, List.replicate_succ, List.replicate_zero, Mealy.run_cons, step_closing_command hstate,
      Closing.drain_head_nil hrecv hid, List.map_nil, List.append_nil]
    rfl
  | cons cmd q ih =>
    intro hstate hrecv
    have hdrain := Closing.drain_head_cons hrecv hid
    have hsettle : (c.drain rid).settle = c.drain rid := by
      rw [Closing.settle_of_ne_nil]
      rw [hdrain]
      exact List.cons_ne_nil _ _
    have hnext := ih (show ({ c with
        receivers := ⟨rid, q, d⟩ :: rest
        pendingFrames := c.pendingFrames ++ [cmd.frame rid] } : Closing).state = .drainingStreamReceiver from hstate) rfl
    rw [List.length_cons, List.replicate_succ, Mealy.run_cons, step_closing_command hstate, hsettle, hdrain]
    dsimp only
    rw [hnext, List.map_cons, List.append_assoc, List.singleton_append]
    rfl

/-- The receivers yield all their items, each in turn: then every frame they had waits, `Term`
last, to be flushed. -/
theorem run_drain_all (cfg : Config) :
    ∀ (rs : List Receiver) (c : Closing), (rs.map Receiver.id).Nodup → c.state = .drainingStreamReceiver →
      c.receivers = rs →
      Mealy.run (step cfg) (.closing c.settle)
          (rs.map fun r => List.replicate (r.queue.length + 1) (Input.command r.id)).flatten =
        (.closing ⟨.flushingPendingFrames, [],
          c.pendingFrames ++ (rs.map fun r => r.queue.map (StreamCommand.frame r.id)).flatten ++ [Frame.term]⟩,
          []) := by
  intro rs
  induction rs with
  | nil =>
    intro c _ hstate hrecv
    simp only [List.map_nil, List.flatten_nil, Mealy.run_nil, List.append_nil]
    unfold Closing.settle
    rw [hstate, hrecv]
  | cons r rest ih =>
    intro c hnodup hstate hrecv
    obtain ⟨rid, q, d⟩ := r
    rw [List.map_cons, List.nodup_cons] at hnodup
    rw [Closing.settle_of_ne_nil (by rw [hrecv]; exact List.cons_ne_nil _ _), List.map_cons, List.flatten_cons,
      Mealy.run_append, run_drain_receiver hnodup.1 q hstate hrecv]
    dsimp only
    rw [ih { c with receivers := rest, pendingFrames := c.pendingFrames ++ q.map (StreamCommand.frame rid) }
      hnodup.2 hstate rfl, List.map_cons, List.flatten_cons]
    simp only [List.append_nil, List.append_assoc]

/-- The socket ready for each frame waiting and twice more flushes them all and closes the
socket. -/
theorem run_flush (cfg : Config) :
    ∀ (fs : List Frame) (c : Closing), c.state = .flushingPendingFrames → c.pendingFrames = fs →
      Mealy.run (step cfg) (.closing c) (List.replicate (fs.length + 2) .sendFrame) = (.closed, fs.map .frame) := by
  intro fs
  induction fs with
  | nil =>
    intro c hstate hpending
    have hfirst : (closing c).step cfg .sendFrame = (.closing { c with state := .closingSocket }, []) := by
      simp only [ConnectionState.step, Input.closingEvent, Closing.step, hstate, hpending, Option.elim,
        List.map_nil]
    rw [List.length_nil, List.replicate_succ, Mealy.run_cons, hfirst, List.replicate_succ, Mealy.run_cons]
    rfl
  | cons f fs ih =>
    intro c hstate hpending
    have hfirst : (closing c).step cfg .sendFrame = (.closing { c with pendingFrames := fs }, [.frame f]) := by
      simp only [ConnectionState.step, Input.closingEvent, Closing.step, hstate, hpending, Option.elim,
        List.map_cons, List.map_nil]
    rw [List.length_cons, show fs.length + 1 + 2 = (fs.length + 2) + 1 by omega, List.replicate_succ,
      Mealy.run_cons, hfirst]
    dsimp only
    rw [ih { c with pendingFrames := fs } hstate rfl]
    rfl

/-- The close completes: once the user closes a connection a run reached, the connection is closed
as soon as each stream's channel has yielded its items, stream after stream, and the socket was
ready for every frame and to close; it has then sent the frames that were waiting, each stream's
frames in the order it queued them, and `Term`. -/
theorem run_close_completes (cfg : Config) (mode : Mode) (is : List Input) {s : Session}
    (hs : (run cfg mode is).1 = .active s) :
    run cfg mode (is ++ .pollClose :: closeSchedule s.active) =
      (.closed, (run cfg mode is).2 ++ (s.active.pendingFrames ++
        (s.active.receivers.map fun r => r.queue.map (StreamCommand.frame r.id)).flatten ++ [Frame.term]).map .frame) := by
  have hdrained := run_drain_all cfg s.active.receivers
    ⟨.drainingStreamReceiver, s.active.receivers, s.active.pendingFrames⟩ (inv_of_run hs).1.active.receivers_nodup rfl rfl
  have hlength : (s.active.pendingFrames ++
      (s.active.receivers.map fun r => r.queue.map (StreamCommand.frame r.id)).flatten ++ [Frame.term]).length + 2 =
      s.active.pendingFrames.length + (s.active.receivers.map fun r => r.queue.length).sum + 3 := by
    simp only [List.length_append, List.length_flatten, List.map_map, Function.comp_def, List.length_map,
      List.length_singleton]
  rw [run_pollClose hs, closeSchedule, Mealy.run_append]
  rw [show s.active.close.closeReceivers =
      Closing.settle ⟨.drainingStreamReceiver, s.active.receivers, s.active.pendingFrames⟩ from rfl, hdrained]
  dsimp only
  rw [← hlength, run_flush cfg _ ⟨.flushingPendingFrames, [], _⟩ rfl rfl, List.nil_append]

theorem run_close_completes_write :
    ∃ s, (run Config.default .client [.openStream, .write 1 [1, 2, 3]]).1 = .active s ∧
      run Config.default .client ([.openStream, .write 1 [1, 2, 3]] ++ .pollClose :: closeSchedule s.active) =
        (.closed, (run Config.default .client [.openStream, .write 1 [1, 2, 3]]).2 ++ (s.active.pendingFrames ++
          (s.active.receivers.map fun r => r.queue.map (StreamCommand.frame r.id)).flatten ++ [Frame.term]).map .frame) :=
  ⟨_, rfl, run_close_completes Config.default .client [.openStream, .write 1 [1, 2, 3]] rfl⟩

end ConnectionState

end Litep2p.Yamux
