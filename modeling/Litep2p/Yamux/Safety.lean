import Mathlib
import Litep2p.Yamux.Session

/-! What every run of a yamux connection and its user keeps, from `Connection::new` on, whatever
the remote sends and the user does, in any order.

A run panics only where the remote sends a window update that takes a credit past `u32::MAX`, and
always does then: never at the `expect` of `on_drop_stream`, the assertion of `next_stream_id` or
the `expect` of `poll_write`. Every frame written to the socket is well formed, every
stream handed out has the parity of the side that opened it, and no outbound id is handed out
twice. In every state reached, each stream's window and buffer stay within their bounds, the
streams within `max_num_streams` and those waiting for an acknowledgement within
`MAX_ACK_BACKLOG`, and each handle the user holds is of a distinct stream the connection knows;
and a step only moves the state of a stream forward. No run writes on a stream more than the
remote allowed it, counted by `Mealy.run_potential` with the credit a state holds as potential.

All of it is read off `Session.next`, the one lemma per input, by the invariant rules of
`Mealy`. -/

namespace Litep2p.Yamux

namespace ConnectionState

/-- A connection from `Connection::new` in mode `mode`, driven by the inputs `is`: the state it
reaches and what it shows on the way. -/
def run (cfg : Config) (mode : Mode) (is : List Input) : ConnectionState × List Output :=
  Mealy.run (step cfg) (.active (Session.new mode)) is

/-- The outbound ids a state has handed out: those below its next one. An ended connection hands
out no more. -/
def Issued : ConnectionState → StreamId → Prop
  | .active s, k => k.toNat < s.active.nextId.toNat
  | _, _ => True

variable {cfg : Config} {mode : Mode}

theorem step_closing (cfg : Config) {c : Closing} (hc : c.Inv) (i : Input) :
    (((closing c).step cfg i).1 = .closed ∨ ∃ c', ((closing c).step cfg i).1 = .closing c' ∧ c'.Inv) ∧
      ∃ fs : List Frame, ((closing c).step cfg i).2 = fs.map .frame ∧ (∀ f ∈ fs, f.WellFormed) ∧
        fs.length ≤ 1 := by
  simp only [ConnectionState.step]
  cases he : i.closingEvent with
  | none => exact ⟨.inr ⟨c, rfl, hc⟩, [], rfl, fun _ hf => absurd hf List.not_mem_nil, Nat.zero_le _⟩
  | some e =>
    obtain ⟨hinv, hwf, hlen⟩ := hc.step e
    dsimp only
    refine ⟨?_, (c.step e).2, rfl, hwf, hlen⟩
    cases hc' : (c.step e).1 with
    | none => exact .inl rfl
    | some c' => exact .inr ⟨c', rfl, hinv c' hc'⟩

theorem step_closing_ne_active (cfg : Config) {c : Closing} (hc : c.Inv) (i : Input) (s : Session) :
    ((closing c).step cfg i).1 ≠ .active s := by
  rcases (step_closing cfg hc i).1 with hr | ⟨c', hr, -⟩ <;> rw [hr] <;> exact fun h => by cases h

theorem good_step {st : ConnectionState} (hst : st.Good cfg mode) (i : Input) :
    (st.step cfg i).1.Good cfg mode ∧ ∀ o ∈ (st.step cfg i).2, o.Good mode := by
  cases st with
  | active s =>
    obtain ⟨h, rfl⟩ := hst
    exact ⟨(Session.next h i).good, (Session.next h i).outputs⟩
  | closing c =>
    obtain ⟨hr, fs, hfs, hwf, -⟩ := step_closing cfg hst i
    refine ⟨?_, fun o ho => ?_⟩
    · rcases hr with hr | ⟨c', hr, hc'⟩ <;> rw [hr]
      · trivial
      · exact hc'
    rw [hfs] at ho
    obtain ⟨f, hf, rfl⟩ := List.mem_map.mp ho
    exact hwf f hf
  | _ => exact ⟨trivial, fun _ ho => absurd ho List.not_mem_nil⟩

theorem run_good (cfg : Config) (mode : Mode) (is : List Input) :
    (run cfg mode is).1.Good cfg mode ∧ ∀ o ∈ (run cfg mode is).2, o.Good mode :=
  Mealy.run_inv_outputs (Good cfg mode) (fun _ => True) (Output.Good mode)
    (fun _ i hst _ => (good_step hst i).1) (fun _ i hst _ => (good_step hst i).2) is _
    ⟨Session.inv_new cfg mode, rfl⟩ fun _ _ => trivial

theorem inv_of_run {is : List Input} {s : Session} (hs : (run cfg mode is).1 = .active s) :
    s.Inv cfg ∧ s.active.mode = mode := by
  have hgood := (run_good cfg mode is).1
  rwa [hs] at hgood

/-! ### Outbound ids -/

theorem issued_step {st : ConnectionState} (hst : st.Good cfg mode) (i : Input) {k : StreamId}
    (hk : st.Issued k) : (st.step cfg i).1.Issued k := by
  cases st with
  | active s =>
    have hnext := Session.next hst.1 i
    show (s.step cfg i).1.Issued k
    cases hr : (s.step cfg i).1 with
    | active s' => exact lt_of_lt_of_le hk (hnext.evolves s' hr).nextId_le
    | _ => trivial
  | closing c =>
    cases hr : ((closing c).step cfg i).1 with
    | active s => exact absurd hr (step_closing_ne_active cfg hst i s)
    | _ => trivial
  | _ => exact hk

theorem fresh_step {st : ConnectionState} (hst : st.Good cfg mode) (i : Input) :
    ∀ k ∈ (st.step cfg i).2.filterMap Output.outboundId, ¬ st.Issued k ∧ (st.step cfg i).1.Issued k := by
  intro k hk
  cases st with
  | active s =>
    have hnext := Session.next hst.1 i
    obtain ⟨rfl, hafter⟩ := hnext.fresh k hk
    refine ⟨lt_irrefl _, ?_⟩
    show (s.step cfg i).1.Issued s.active.nextId
    cases hr : (s.step cfg i).1 with
    | active s' => exact hafter s' hr
    | _ => trivial
  | closing c =>
    obtain ⟨-, fs, hfs, -⟩ := step_closing cfg hst i
    rw [hfs] at hk
    simp [Output.outboundId] at hk
  | _ => exact absurd hk List.not_mem_nil

private theorem nodup_of_length_le_one {α : Type*} : ∀ {l : List α}, l.length ≤ 1 → l.Nodup
  | [], _ => List.nodup_nil
  | [_], _ => List.nodup_singleton _
  | _ :: _ :: _, h => absurd h (by simp)

theorem nodup_step {st : ConnectionState} (hst : st.Good cfg mode) (i : Input) :
    ((st.step cfg i).2.filterMap Output.outboundId).Nodup := by
  refine nodup_of_length_le_one (le_trans (List.length_filterMap_le _ _) ?_)
  cases st with
  | active s => exact (Session.next hst.1 i).single
  | closing c =>
    obtain ⟨-, fs, hfs, -, hlen⟩ := step_closing cfg hst i
    rw [hfs, List.length_map]
    exact hlen
  | _ => exact Nat.zero_le _

/-- No outbound stream id is handed out twice along a run: `next_stream_id` only moves up, so no
stream the connection opens ever takes the id of one it opened before. -/
theorem run_outbound_nodup (cfg : Config) (mode : Mode) (is : List Input) :
    ((run cfg mode is).2.filterMap Output.outboundId).Nodup :=
  (Mealy.run_nodup_keys Output.outboundId (Good cfg mode) (fun _ => True) Issued
    (fun _ i hst _ => (good_step hst i).1) (fun _ i _ hst _ hk => issued_step hst i hk)
    (fun _ i hst _ => fresh_step hst i) (fun _ i hst _ => nodup_step hst i) is (.active (Session.new mode))
    ⟨Session.inv_new cfg mode, rfl⟩ fun _ _ => trivial).1

/-! ### What every run keeps -/

/-- A step from a sound state that has not panicked panics only from an active connection, on a
window update that overflows a credit. -/
theorem step_eq_panicked {st : ConnectionState} (hst : st.Good cfg mode) (hne : st ≠ .panicked) {i : Input}
    (h : (st.step cfg i).1 = .panicked) :
    ∃ s f, st = .active s ∧ i = .frame (.ok f) ∧ s.active.creditOverflows cfg f = true := by
  cases st with
  | active s =>
    have hpanics := (Session.next hst.1 i).panicked h
    cases i with
    | frame item =>
      cases item with
      | ok f => exact ⟨s, f, rfl, rfl, hpanics⟩
      | error e => exact hpanics.elim
    | _ => exact hpanics.elim
  | closing c =>
    rcases (step_closing cfg hst i).1 with hr | ⟨c', hr, -⟩ <;> rw [hr] at h <;> cases h
  | panicked => exact absurd rfl hne
  | _ => cases h

/-- A run panics exactly when the remote sends an active connection a window update that takes a
credit past `u32::MAX`, the credit of the stream it opens or of the known stream it is for:
`on_drop_stream` always finds the stream it drops, `next_stream_id` always proposes an id of the
connection's parity and `poll_write` never frames more than a `u32` counts, but the two additions
of `on_window_update` panic on overflow. -/
theorem run_panicked_iff (cfg : Config) (mode : Mode) (is : List Input) :
    (run cfg mode is).1 = .panicked ↔
      ∃ is₁ f is₂ s, is = is₁ ++ .frame (.ok f) :: is₂ ∧ (run cfg mode is₁).1 = .active s ∧
        s.active.creditOverflows cfg f = true := by
  refine (Mealy.run_enter_iff (fun st => st = ConnectionState.panicked) (fun _ _ h => by subst h; rfl) is _
    (fun h => by cases h)).trans ⟨?_, ?_⟩
  · rintro ⟨is₁, i, is₂, rfl, hne, hin⟩
    obtain ⟨s, f, hs, rfl, hover⟩ := step_eq_panicked ((run_good cfg mode is₁).1) hne hin
    exact ⟨is₁, f, is₂, s, rfl, hs, hover⟩
  · rintro ⟨is₁, f, is₂, s, rfl, hs, hover⟩
    have hs' : (Mealy.run (step cfg) (.active (Session.new mode)) is₁).1 = .active s := hs
    refine ⟨is₁, .frame (.ok f), is₂, rfl, fun h => ?_, ?_⟩
    · rw [hs'] at h
      cases h
    · rw [hs']
      exact congrArg Prod.fst (Session.receive_of_creditOverflows hover)

/-- A window update of `u32::MAX` for a stream opened with `DEFAULT_CREDIT` panics. -/
example : (run Config.default .client [.openStream, .frame (.ok (Frame.windowUpdate 1 0xFFFFFFFF))]).1 =
    .panicked := rfl

/-- Every frame a run writes to the socket is well formed: a data frame carries as many bytes as
its header announces, any other frame none. -/
theorem run_frames_wellFormed (cfg : Config) (mode : Mode) (is : List Input) :
    ∀ f, Output.frame f ∈ (run cfg mode is).2 →
      f.body.length = if f.header.tag = .data then f.header.length.toNat else 0 :=
  fun _ hf => (run_good cfg mode is).2 _ hf

theorem run_frames_wellFormed_write :
    Output.frame ⟨(Header.data 1 3).syn, [1, 2, 3]⟩ ∈
        (run Config.default .client [.openStream, .write 1 [1, 2, 3], .command 1, .sendFrame]).2 ∧
      [1, 2, 3].length = if (Header.data 1 3).syn.tag = .data then (Header.data 1 3).syn.length.toNat else 0 :=
  have hmem : Output.frame ⟨(Header.data 1 3).syn, [1, 2, 3]⟩ ∈
      (run Config.default .client [.openStream, .write 1 [1, 2, 3], .command 1, .sendFrame]).2 :=
    show _ ∈ [Output.outbound (.ready (.ok 1)), .written 1 (.ready (.ok 3)),
      .frame ⟨(Header.data 1 3).syn, [1, 2, 3]⟩] from
      List.mem_cons_of_mem _ (List.mem_cons_of_mem _ List.mem_cons_self)
  ⟨hmem, run_frames_wellFormed Config.default .client _ _ hmem⟩

/-- Every stream a run hands out has the parity of the side that opened it: the remote's for an
inbound stream, the connection's own for an outbound one. -/
theorem run_stream_parity (cfg : Config) (mode : Mode) (is : List Input) :
    (∀ id, Output.inbound id ∈ (run cfg mode is).2 → mode.isOutbound id = false) ∧
      ∀ id, Output.outbound (.ready (.ok id)) ∈ (run cfg mode is).2 → mode.isOutbound id = true :=
  ⟨fun _ h => (run_good cfg mode is).2 _ h, fun _ h => (run_good cfg mode is).2 _ h⟩

/-- In every state a run reaches, each stream's window stays within the receive window (the
`debug_assert!` of `next_window_update`), its buffer within `max_buffer_size` and a receive window,
and in `OnRead` mode its window and buffer together within the receive window. -/
theorem run_window_buffer_le (cfg : Config) (mode : Mode) (is : List Input) (id : StreamId) {s : Session}
    {sh : Shared} (hs : (run cfg mode is).1 = .active s) (hsh : s.active.streams.lookup id = some sh) :
    sh.window.toNat ≤ cfg.receiveWindow.toNat ∧ sh.buffer.len ≤ cfg.maxBufferSize + cfg.receiveWindow.toNat ∧
      (cfg.windowUpdateMode = .onRead → sh.window.toNat + sh.buffer.len ≤ cfg.receiveWindow.toNat) := by
  have hb := (inv_of_run hs).1.active.bounded id sh hsh
  exact ⟨hb.window_le, hb.buffer_le, hb.onRead⟩

theorem run_window_buffer_le_data :
    ∃ s sh, (run Config.default .client [.openStream, .frame (.ok ⟨Header.data 1 3, [1, 2, 3]⟩)]).1 = .active s ∧
      s.active.streams.lookup 1 = some sh ∧ sh.buffer.len = 3 ∧
      sh.window.toNat ≤ Config.default.receiveWindow.toNat ∧
      sh.buffer.len ≤ Config.default.maxBufferSize + Config.default.receiveWindow.toNat ∧
      (Config.default.windowUpdateMode = .onRead →
        sh.window.toNat + sh.buffer.len ≤ Config.default.receiveWindow.toNat) :=
  ⟨_, _, rfl, rfl, rfl,
    run_window_buffer_le Config.default .client [.openStream, .frame (.ok ⟨Header.data 1 3, [1, 2, 3]⟩)] 1 rfl rfl⟩

/-- In every state a run reaches, the connection knows at most `max_num_streams` streams, and at
most `MAX_ACK_BACKLOG` of its own wait for an acknowledgement. -/
theorem run_stream_limits (cfg : Config) (mode : Mode) (is : List Input) {s : Session}
    (hs : (run cfg mode is).1 = .active s) :
    s.active.streams.keys.length ≤ cfg.maxNumStreams ∧ s.active.ackBacklog ≤ maxAckBacklog :=
  ⟨(inv_of_run hs).1.active.length_le, (inv_of_run hs).1.active.ackBacklog_le⟩

theorem run_stream_limits_openStream :
    ∃ s, (run Config.default .server [.openStream, .openStream]).1 = .active s ∧
      s.active.streams.keys.length ≤ Config.default.maxNumStreams ∧ s.active.ackBacklog ≤ maxAckBacklog :=
  ⟨_, rfl, run_stream_limits Config.default .server [.openStream, .openStream] rfl⟩

/-- In every state a run reaches, the user holds at most one handle of a stream, and the stream of
each handle is known to the connection, with a receiver whose channel is open. -/
theorem run_handles_known (cfg : Config) (mode : Mode) (is : List Input) {s : Session}
    (hs : (run cfg mode is).1 = .active s) :
    (s.handles.map Stream.id).Nodup ∧ ∀ hd ∈ s.handles, hd.id ∈ s.active.streams ∧
      ∃ r ∈ s.active.receivers, r.id = hd.id ∧ r.senderDropped = false := by
  have h := (inv_of_run hs).1
  exact ⟨h.handles_nodup, fun hd hh => ⟨h.mem_streams hh, h.handle_receiver hd hh⟩⟩

theorem run_handles_known_openStream :
    ∃ s, (run Config.default .client [.openStream]).1 = .active s ∧ (s.handles.map Stream.id).Nodup ∧
      ∀ hd ∈ s.handles, hd.id ∈ s.active.streams ∧
        ∃ r ∈ s.active.receivers, r.id = hd.id ∧ r.senderDropped = false :=
  ⟨_, rfl, run_handles_known Config.default .client [.openStream] rfl⟩

/-- A step of a run only moves the state of a stream it keeps forward: a stream closed for reading
or writing stays closed, and an acknowledged one is never waiting for its acknowledgement again. -/
theorem run_state_step (cfg : Config) (mode : Mode) (is : List Input) (i : Input) (id : StreamId)
    {s s' : Session} {sh sh' : Shared} (hs : (run cfg mode is).1 = .active s)
    (hs' : (run cfg mode (is ++ [i])).1 = .active s') (hsh : s.active.streams.lookup id = some sh)
    (hsh' : s'.active.streams.lookup id = some sh') :
    (sh'.state.canRead → sh.state.canRead) ∧ (sh'.state.canWrite → sh.state.canWrite) ∧
      (sh'.state = .open false → sh.state = .open false) := by
  have hstep : (s.step cfg i).1 = .active s' := by
    rw [run, Mealy.run_append, ← run, hs] at hs'
    exact hs'
  have h := ((Session.next (inv_of_run hs).1 i).evolves s' hstep).step id sh sh' hsh hsh'
  exact ⟨h.canRead, h.canWrite, h.open_false⟩

theorem run_state_step_close :
    ∃ s s' sh sh', (run Config.default .client [.openStream]).1 = .active s ∧
      (run Config.default .client ([.openStream] ++ [.close 1])).1 = .active s' ∧
      s.active.streams.lookup 1 = some sh ∧ s'.active.streams.lookup 1 = some sh' ∧
      (sh'.state.canRead → sh.state.canRead) ∧ (sh'.state.canWrite → sh.state.canWrite) ∧
      (sh'.state = .open false → sh.state = .open false) :=
  ⟨_, _, _, _, rfl, rfl, rfl, rfl, run_state_step Config.default .client [.openStream] (.close 1) 1 rfl rfl rfl rfl⟩

/-! ### Flow control -/

/-- One step from a sound state writes on a stream no more than the credit the state held for it,
the credit of the window update it may receive for it, and a fresh `DEFAULT_CREDIT` for a stream of
that id it opens. -/
theorem credit_step {st : ConnectionState} (hst : st.Good cfg mode) (i : Input) (id : StreamId) :
    (st.step cfg i).1.credit id + ((st.step cfg i).2.map (Output.sent id)).sum ≤
      st.credit id + i.granted id + ((st.step cfg i).2.map fun o => defaultCredit.toNat * o.opened id).sum := by
  cases st with
  | active s =>
    rw [List.sum_map_mul_left]
    exact (Session.next hst.1 i).credit id
  | closing c =>
    obtain ⟨-, fs, hfs, -⟩ := step_closing cfg hst i
    have hcredit : ((closing c).step cfg i).1.credit id = 0 := by
      cases hr : ((closing c).step cfg i).1 with
      | active s => exact absurd hr (step_closing_ne_active cfg hst i s)
      | _ => rfl
    have hsent : (fs.map (Output.sent id ∘ Output.frame)).sum = 0 :=
      List.sum_eq_zero fun x hx => by
        obtain ⟨f, -, rfl⟩ := List.mem_map.mp hx
        rfl
    rw [hfs, hcredit, List.map_map, List.map_map, hsent]
    exact Nat.zero_le _
  | _ => exact Nat.zero_le _

/-- Flow control: along every run, the bytes the user's writes put on a stream never exceed the
credit the remote granted it: `DEFAULT_CREDIT` for each time a stream of that id was opened, and
the credit of every window update the remote sent for it. -/
theorem run_sent_le_credit (cfg : Config) (mode : Mode) (is : List Input) (id : StreamId) :
    ((run cfg mode is).2.map (Output.sent id)).sum ≤
      (is.map (Input.granted id)).sum + defaultCredit.toNat * ((run cfg mode is).2.map (Output.opened id)).sum := by
  have h := Mealy.run_potential (Good cfg mode) (fun _ => True) (credit id) (Input.granted id)
    (Output.sent id) (fun o => defaultCredit.toNat * o.opened id) (fun _ i hst _ => (good_step hst i).1)
    (fun _ i hst _ => credit_step hst i id) is (.active (Session.new mode)) ⟨Session.inv_new cfg mode, rfl⟩
    fun _ _ => trivial
  have hnew : (ConnectionState.active (Session.new mode)).credit id = 0 := rfl
  rw [List.sum_map_mul_left, hnew] at h
  unfold run
  omega

end ConnectionState

end Litep2p.Yamux
