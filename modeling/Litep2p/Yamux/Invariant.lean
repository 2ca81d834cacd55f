import Mathlib
import Litep2p.Yamux.Connection
import Litep2p.Lib.AListKeys

/-! What an active yamux connection keeps true, whatever the remote sends and the user does.

The ids: the next outbound id has the connection's own parity and is above every outbound stream
it knows, so `poll_new_outbound` never reuses an id and its assertion never fails; every receiver
is for a known stream and no two are for the same, so `on_drop_stream` always finds the stream it
drops. The bounds: the window of each stream stays within the receive window, its buffer within
`max_buffer_size` and a window, the number of streams within `max_num_streams` and the streams
waiting for an acknowledgement within `MAX_ACK_BACKLOG`. The frames queued for the socket and the
commands queued by the streams are well formed.

The handlers change the connection in a few ways only: queue frames (`Inv.queue`), step the
shared state of a known stream (`Inv.update`), add a stream the connection did not know
(`Inv.insert_new`), draw the next outbound id (`Inv.advance`), change the queues of the receivers
(`Inv.mapReceivers`) and forget a stream (`Inv.erase`). Each keeps the invariant, and each handler
is shown to be made of them. -/

namespace Litep2p.Yamux

theorem Mode.isOutbound_add_two (mode : Mode) {id : StreamId} (hfit : id.toNat + 2 < 2 ^ 32) :
    mode.isOutbound (id + 2) = mode.isOutbound id := by
  have hadd : (id + 2).toNat = id.toNat + 2 := by
    rw [UInt32.toNat_add]
    simp only [UInt32.reduceToNat]
    omega
  cases mode with
  | client =>
    apply Bool.eq_iff_iff.mpr
    simp only [isOutbound, StreamId.isClient_iff, hadd]
    omega
  | server =>
    apply Bool.eq_iff_iff.mpr
    simp only [isOutbound, StreamId.isServer_iff, hadd]
    omega

namespace Shared

variable {cfg : Config} {sh : Shared}

@[simp] theorem window_finish (sh : Shared) (b : Bool) : (sh.finish b).window = sh.window := by
  unfold finish; split <;> rfl

@[simp] theorem credit_finish (sh : Shared) (b : Bool) : (sh.finish b).credit = sh.credit := by
  unfold finish; split <;> rfl

@[simp] theorem buffer_finish (sh : Shared) (b : Bool) : (sh.finish b).buffer = sh.buffer := by
  unfold finish; split <;> rfl

theorem step_finish (sh : Shared) (b : Bool) : sh.state.Step (sh.finish b).state := by
  unfold finish
  split
  · exact State.Step.update _ (by decide)
  · exact State.Step.refl _

theorem Bounded.finish (hb : sh.Bounded cfg) (b : Bool) : (sh.finish b).Bounded cfg :=
  hb.of_eq (window_finish sh b) (by rw [buffer_finish])

@[simp] theorem state_receive (sh : Shared) (frame : Frame) : (sh.receive frame).state = sh.state := rfl

@[simp] theorem credit_receive (sh : Shared) (frame : Frame) : (sh.receive frame).credit = sh.credit := rfl

theorem Bounded.receive (hb : sh.Bounded cfg) (frame : Frame) (hfit : frame.body.length ≤ sh.window.toNat)
    (hbuf : sh.buffer.len + frame.body.length ≤ cfg.maxBufferSize + cfg.receiveWindow.toNat) :
    (sh.receive frame).Bounded cfg := by
  have hlt : frame.body.length < 2 ^ 32 := lt_of_le_of_lt hfit sh.window.toNat_lt
  have hsize : UInt32.size = 2 ^ 32 := rfl
  have hwindow : (sh.window.saturatingSub frame.bodyLen).toNat = sh.window.toNat - frame.body.length := by
    rw [UInt32.toNat_saturatingSub, Frame.bodyLen, UInt32.toNat_ofNat_of_lt' (by omega)]
  have hle := hb.window_le
  refine ⟨?_, ?_, fun hmode => ?_⟩
  · dsimp only [Shared.receive]
    rw [hwindow]
    omega
  · dsimp only [Shared.receive]
    rw [Chunks.len_push]
    exact hbuf
  · have := hb.onRead hmode
    dsimp only [Shared.receive]
    rw [Chunks.len_push, hwindow]
    omega

@[simp] theorem state_updateOnReceive (sh : Shared) (cfg : Config) : (sh.updateOnReceive cfg).1.state = sh.state := by
  unfold updateOnReceive; split <;> [split <;> rfl; rfl]

@[simp] theorem credit_updateOnReceive (sh : Shared) (cfg : Config) :
    (sh.updateOnReceive cfg).1.credit = sh.credit := by
  unfold updateOnReceive; split <;> [split <;> rfl; rfl]

theorem Bounded.updateOnReceive (hb : sh.Bounded cfg) : (sh.updateOnReceive cfg).1.Bounded cfg := by
  unfold Shared.updateOnReceive
  split
  · rename_i hmode
    split
    · rename_i credit hcredit
      have hsum := credit_of_nextWindowUpdate_onReceive hmode hcredit
      have hle := hb.window_le
      have hlt := cfg.receiveWindow.toNat_lt
      have hwindow : (sh.window + credit).toNat = cfg.receiveWindow.toNat := by
        rw [UInt32.toNat_add]
        omega
      refine ⟨?_, hb.buffer_le, fun hread => absurd (hmode.symm.trans hread) (by decide)⟩
      dsimp only
      rw [hwindow]
    · exact hb
  · exact hb

end Shared

/-- The frames an action asks to queue. -/
def Action.frames : Action → List Frame
  | .none => []
  | .new _ windowUpdate => windowUpdate.toList
  | .update frame | .ping frame | .reset frame | .terminate frame => [frame]

def Action.stream? : Action → Option Stream
  | .new stream _ => some stream
  | _ => Option.none

def Frame.creditFor (f : Frame) (id : StreamId) : ℕ :=
  if f.header.tag = .windowUpdate ∧ f.header.streamId = id then f.header.credit.toNat else 0

namespace Active

/-- The invariant of an active connection. -/
structure Inv (cfg : Config) (a : Active) : Prop where
  nextId_outbound : a.mode.isOutbound a.nextId
  lt_nextId : ∀ id ∈ a.streams, a.mode.isOutbound id → id.toNat < a.nextId.toNat
  receivers_nodup : (a.receivers.map Receiver.id).Nodup
  receiver_mem : ∀ r ∈ a.receivers, r.id ∈ a.streams
  bounded : ∀ id sh, a.streams.lookup id = some sh → sh.Bounded cfg
  length_le : a.streams.keys.length ≤ cfg.maxNumStreams
  ackBacklog_le : a.ackBacklog ≤ maxAckBacklog
  pending_wf : ∀ f ∈ a.pendingFrames, f.WellFormed
  queue_wf : ∀ r ∈ a.receivers, ∀ c ∈ r.queue, c.WellFormed

def creditOf (a : Active) (id : StreamId) : ℕ :=
  ((a.streams.lookup id).map fun sh => sh.credit.toNat).getD 0

theorem creditOf_of_lookup {a : Active} {id : StreamId} {sh : Shared} (h : a.streams.lookup id = some sh) :
    a.creditOf id = sh.credit.toNat := by
  rw [creditOf, h]
  rfl

theorem creditOf_of_streams_insert {a a' : Active} {id : StreamId} {sh : Shared}
    (h : a'.streams = a.streams.insert id sh) (id' : StreamId) :
    a'.creditOf id' = if id' = id then sh.credit.toNat else a.creditOf id' := by
  unfold creditOf
  rw [h]
  split
  · rename_i he
    rw [he, AList.lookup_insert]
    rfl
  · rename_i hne
    rw [AList.lookup_insert_ne hne]

theorem creditOf_insert (a : Active) (id : StreamId) (sh : Shared) (id' : StreamId) :
    { a with streams := a.streams.insert id sh }.creditOf id' =
      if id' = id then sh.credit.toNat else a.creditOf id' :=
  creditOf_of_streams_insert rfl id'

theorem inv_new (cfg : Config) (mode : Mode) : (new mode).Inv cfg where
  nextId_outbound := by cases mode <;> decide
  lt_nextId _ h := absurd h (AList.notMem_empty _)
  receivers_nodup := List.nodup_nil
  receiver_mem _ h := absurd h List.not_mem_nil
  bounded _ _ h := by simp [new] at h
  length_le := Nat.zero_le _
  ackBacklog_le := by simp [new, ackBacklog, maxAckBacklog]
  pending_wf _ h := absurd h List.not_mem_nil
  queue_wf _ h := absurd h List.not_mem_nil

section Primitives

variable {cfg : Config} {a : Active}

theorem Inv.queue (h : a.Inv cfg) {fs : List Frame} (hfs : ∀ f ∈ fs, f.WellFormed) :
    { a with pendingFrames := a.pendingFrames ++ fs }.Inv cfg :=
  { h with
    pending_wf := fun f hf => (List.mem_append.mp hf).elim (h.pending_wf f) (hfs f) }

theorem Inv.update (h : a.Inv cfg) {id : StreamId} {sh sh' : Shared} (hlookup : a.streams.lookup id = some sh)
    (hstep : sh.state.Step sh'.state) (hb : sh.Bounded cfg → sh'.Bounded cfg) :
    { a with streams := a.streams.insert id sh' }.Inv cfg := by
  have hmem : id ∈ a.streams := AList.lookup_isSome.mp (by rw [hlookup]; rfl)
  have hkeys : ∀ x, x ∈ a.streams.insert id sh' ↔ x ∈ a.streams := fun x => by
    rw [AList.mem_insert]
    exact ⟨fun hx => hx.elim (fun hx => hx ▸ hmem) fun hx => hx, Or.inr⟩
  refine ⟨h.nextId_outbound, fun x hx => h.lt_nextId x ((hkeys x).mp hx), h.receivers_nodup,
    fun r hr => (hkeys r.id).mpr (h.receiver_mem r hr), ?_, ?_, ?_, h.pending_wf, h.queue_wf⟩
  · intro x shx hx
    by_cases hxid : x = id
    · subst hxid
      rw [AList.lookup_insert, Option.some.injEq] at hx
      exact hx ▸ hb (h.bounded x sh hlookup)
    · rw [AList.lookup_insert_ne hxid] at hx
      exact h.bounded x shx hx
  · rw [AList.length_keys_insert_of_mem sh' hmem]
    exact h.length_le
  · have hcount := AList.countP_entries_of_lookup
      (fun e : Sigma fun _ : StreamId => Shared => a.mode.isOutbound e.1 && e.2.isPendingAck) hlookup
    have hpending : sh'.isPendingAck → sh.isPendingAck := by
      simp only [Shared.isPendingAck, beq_iff_eq]
      exact hstep.open_false
    have hle := h.ackBacklog_le
    simp only [ackBacklog] at hle ⊢
    rw [AList.countP_entries_insert]
    rw [hcount] at hle
    dsimp only at hle ⊢
    have : (if (a.mode.isOutbound id && sh'.isPendingAck) = true then 1 else 0) ≤
        (if (a.mode.isOutbound id && sh.isPendingAck) = true then 1 else 0) := by
      cases hp : sh'.isPendingAck
      · simp
      · rw [hpending hp]
    omega

theorem Inv.insert_new (h : a.Inv cfg) {id : StreamId} {sh : Shared} (hid : id ∉ a.streams)
    (hlen : a.streams.keys.length < cfg.maxNumStreams) (hb : sh.Bounded cfg)
    (hlt : a.mode.isOutbound id → id.toNat < a.nextId.toNat)
    (hback : a.mode.isOutbound id → sh.isPendingAck → a.ackBacklog < maxAckBacklog)
    {queue : List StreamCommand} (hqueue : ∀ c ∈ queue, c.WellFormed) (dropped : Bool) :
    { a with streams := a.streams.insert id sh, receivers := a.receivers ++ [Receiver.mk id queue dropped] }.Inv cfg := by
  refine ⟨h.nextId_outbound, ?_, ?_, ?_, ?_, ?_, ?_, h.pending_wf, ?_⟩
  · intro x hx hout
    rcases (AList.mem_insert _).mp hx with rfl | hx
    · exact hlt hout
    · exact h.lt_nextId x hx hout
  · rw [List.map_append, List.nodup_append]
    refine ⟨h.receivers_nodup, List.nodup_singleton _, ?_⟩
    intro x hx y hy hxy
    simp only [List.map_cons, List.map_nil, List.mem_singleton] at hy
    obtain ⟨r, hr, rfl⟩ := List.mem_map.mp hx
    apply hid
    rw [← hy, ← hxy]
    exact h.receiver_mem r hr
  · intro r hr
    rcases List.mem_append.mp hr with hr | hr
    · exact (AList.mem_insert _).mpr (Or.inr (h.receiver_mem r hr))
    · rw [List.mem_singleton.mp hr]
      exact (AList.mem_insert _).mpr (Or.inl rfl)
  · intro x shx hx
    by_cases hxid : x = id
    · subst hxid
      rw [AList.lookup_insert, Option.some.injEq] at hx
      exact hx ▸ hb
    · rw [AList.lookup_insert_ne hxid] at hx
      exact h.bounded x shx hx
  · rw [AList.length_keys_insert_of_notMem sh hid]
    omega
  · have hle : a.streams.entries.countP (fun e => a.mode.isOutbound e.1 && e.2.isPendingAck) ≤
        maxAckBacklog := h.ackBacklog_le
    simp only [ackBacklog]
    rw [AList.countP_entries_insert, AList.countP_entries_erase_of_notMem _ hid]
    dsimp only
    by_cases hp : (a.mode.isOutbound id && sh.isPendingAck) = true
    · rw [Bool.and_eq_true] at hp
      have hlt : a.streams.entries.countP (fun e => a.mode.isOutbound e.1 && e.2.isPendingAck) <
          maxAckBacklog := hback hp.1 hp.2
      simp only [hp.1, hp.2, Bool.and_self, if_true]
      omega
    · simp only [hp, Bool.false_eq_true, if_false]
      omega
  · intro r hr
    rcases List.mem_append.mp hr with hr | hr
    · exact h.queue_wf r hr
    · rw [List.mem_singleton.mp hr]
      exact hqueue

theorem Inv.advance (h : a.Inv cfg) (hfit : a.nextId.toNat + 2 < 2 ^ 32) :
    { a with nextId := a.nextId + 2 }.Inv cfg := by
  have hadd : (a.nextId + 2).toNat = a.nextId.toNat + 2 := by
    rw [UInt32.toNat_add]
    simp only [UInt32.reduceToNat]
    omega
  refine { h with nextId_outbound := ?_, lt_nextId := ?_ }
  · dsimp only
    rw [a.mode.isOutbound_add_two hfit]
    exact h.nextId_outbound
  · intro x hx hout
    have := h.lt_nextId x hx hout
    dsimp only
    omega

theorem Inv.mapReceivers (h : a.Inv cfg) (g : Receiver → Receiver) (hid : ∀ r, (g r).id = r.id)
    (hqueue : ∀ r ∈ a.receivers, (∀ c ∈ r.queue, c.WellFormed) → ∀ c ∈ (g r).queue, c.WellFormed) :
    { a with receivers := a.receivers.map g }.Inv cfg := by
  have hmap : (a.receivers.map g).map Receiver.id = a.receivers.map Receiver.id := by
    rw [List.map_map]
    exact List.map_congr_left fun r _ => hid r
  refine { h with receivers_nodup := ?_, receiver_mem := ?_, queue_wf := ?_ }
  · dsimp only
    rw [hmap]
    exact h.receivers_nodup
  · intro r hr
    obtain ⟨r₀, hr₀, rfl⟩ := List.mem_map.mp hr
    rw [hid]
    exact h.receiver_mem r₀ hr₀
  · intro r hr
    obtain ⟨r₀, hr₀, rfl⟩ := List.mem_map.mp hr
    exact hqueue r₀ hr₀ (h.queue_wf r₀ hr₀)

theorem Inv.filterReceivers (h : a.Inv cfg) (q : Receiver → Bool) :
    { a with receivers := a.receivers.filter q }.Inv cfg :=
  { h with
    receivers_nodup := by
      dsimp only
      exact (List.Sublist.map Receiver.id List.filter_sublist).nodup h.receivers_nodup
    receiver_mem := fun r hr => h.receiver_mem r (List.mem_of_mem_filter hr)
    queue_wf := fun r hr => h.queue_wf r (List.mem_of_mem_filter hr) }

theorem Inv.erase (h : a.Inv cfg) {id : StreamId} (hno : ∀ r ∈ a.receivers, r.id ≠ id) :
    { a with streams := a.streams.erase id }.Inv cfg := by
  refine { h with lt_nextId := ?_, receiver_mem := ?_, bounded := ?_, length_le := ?_, ackBacklog_le := ?_ }
  · intro x hx hout
    exact h.lt_nextId x (AList.mem_erase.mp hx).2 hout
  · intro r hr
    exact AList.mem_erase.mpr ⟨hno r hr, h.receiver_mem r hr⟩
  · intro x shx hx
    by_cases hxid : x = id
    · subst hxid
      rw [AList.lookup_erase] at hx
      cases hx
    · rw [AList.lookup_erase_ne hxid] at hx
      exact h.bounded x shx hx
  · exact le_trans (AList.length_keys_erase_le id a.streams) h.length_le
  · exact le_trans (AList.countP_entries_erase_le _ id a.streams) h.ackBacklog_le

end Primitives

theorem applyAction_eq (a : Active) (act : Action) :
    a.applyAction act = (act.stream?, { a with pendingFrames := a.pendingFrames ++ act.frames }) := by
  cases act with
  | none => simp [applyAction, Action.frames, Action.stream?]
  | _ => rfl

/-- What a frame handler may do: keep the streams and ask for frames, step a known stream within the
bounds and ask for frames, or open a stream of the remote's parity that it did not know, within
the limit on streams. The credit of a stream grows by at most what the frame grants it, `gain`, and
a stream opened starts with at most `DEFAULT_CREDIT` and that. -/
inductive Handled (cfg : Config) (a : Active) (gain : StreamId → ℕ) : Action × Active → Prop
  | keep (act : Action) (hact : act.stream? = none) (hwf : ∀ f ∈ act.frames, f.WellFormed) :
      Handled cfg a gain (act, a)
  | update (act : Action) {id : StreamId} {sh sh' : Shared} (hact : act.stream? = none)
      (hwf : ∀ f ∈ act.frames, f.WellFormed) (hlookup : a.streams.lookup id = some sh)
      (hstep : sh.state.Step sh'.state) (hb : sh.Bounded cfg → sh'.Bounded cfg)
      (hcredit : sh'.credit.toNat ≤ sh.credit.toNat + gain id) :
      Handled cfg a gain (act, { a with streams := a.streams.insert id sh' })
  | new (stream : Stream) (update : Option Frame) {id : StreamId} {sh : Shared} (hsid : stream.id = id)
      (hid : id ∉ a.streams) (hout : a.mode.isOutbound id = false)
      (hlen : a.streams.keys.length < cfg.maxNumStreams) (hb : sh.Bounded cfg)
      (hwf : ∀ f ∈ update.toList, f.WellFormed) (hcredit : sh.credit.toNat ≤ defaultCredit.toNat + gain id) :
      Handled cfg a gain (.new stream update,
        { a with
          streams := a.streams.insert id sh
          receivers := a.receivers ++ [Receiver.mk id [] false] })

section Handled

variable {cfg : Config} {a : Active} {gain : StreamId → ℕ}

theorem Handled.inv (h : a.Inv cfg) {r : Action × Active} (hr : Handled cfg a gain r) :
    (r.2.applyAction r.1).2.Inv cfg := by
  rw [applyAction_eq]
  cases hr with
  | keep act _ hwf => exact h.queue hwf
  | update act _ hwf hlookup hstep hb => exact (h.update hlookup hstep hb).queue hwf
  | new stream update _ hid hout hlen hb hwf =>
    refine (h.insert_new hid hlen hb (by simp [hout]) (by simp [hout]) (fun _ h => absurd h List.not_mem_nil)
      false).queue ?_
    exact hwf

theorem Handled.receivers {r : Action × Active} (hr : Handled cfg a gain r) :
    (r.2.applyAction r.1).2.receivers =
      a.receivers ++ ((r.2.applyAction r.1).1.map fun s => Receiver.mk s.id [] false).toList := by
  rw [applyAction_eq]
  cases hr with
  | keep act hact _ => simp [hact]
  | update act hact => simp [hact]
  | new stream update hsid =>
    subst hsid
    rfl

theorem Handled.stream_fresh {r : Action × Active} (hr : Handled cfg a gain r) {s : Stream}
    (hs : (r.2.applyAction r.1).1 = some s) : s.id ∉ a.streams ∧ a.mode.isOutbound s.id = false := by
  rw [applyAction_eq] at hs
  cases hr with
  | keep act hact _ => simp [hact] at hs
  | update act hact => simp [hact] at hs
  | new stream update hsid hid hout =>
    cases hs
    exact hsid ▸ ⟨hid, hout⟩

theorem Handled.step {r : Action × Active} (hr : Handled cfg a gain r) {id : StreamId} {sh sh' : Shared}
    (hbefore : a.streams.lookup id = some sh) (hafter : (r.2.applyAction r.1).2.streams.lookup id = some sh') :
    sh.state.Step sh'.state := by
  rw [applyAction_eq] at hafter
  cases hr with
  | keep =>
    rw [hbefore, Option.some.injEq] at hafter
    exact hafter ▸ State.Step.refl _
  | @update act id₀ sh₀ sh₀' _ _ hlookup hstep _ =>
    dsimp only at hafter
    by_cases hid : id = id₀
    · subst hid
      rw [AList.lookup_insert, Option.some.injEq] at hafter
      rw [hlookup, Option.some.injEq] at hbefore
      exact hbefore ▸ hafter ▸ hstep
    · rw [AList.lookup_insert_ne hid, hbefore, Option.some.injEq] at hafter
      exact hafter ▸ State.Step.refl _
  | @new stream update id₀ sh₀ _ hnew =>
    dsimp only at hafter
    have hid : id ≠ id₀ := fun h => hnew (h ▸ AList.lookup_isSome.mp (by rw [hbefore]; rfl))
    rw [AList.lookup_insert_ne hid, hbefore, Option.some.injEq] at hafter
    exact hafter ▸ State.Step.refl _

theorem Handled.ids {r : Action × Active} (hr : Handled cfg a gain r) :
    (r.2.applyAction r.1).2.mode = a.mode ∧ (r.2.applyAction r.1).2.nextId = a.nextId := by
  rw [applyAction_eq]
  cases hr <;> exact ⟨rfl, rfl⟩

theorem Handled.credit {r : Action × Active} (hr : Handled cfg a gain r) (id : StreamId) :
    (r.2.applyAction r.1).2.creditOf id ≤ a.creditOf id + gain id +
      defaultCredit.toNat * (r.2.applyAction r.1).1.elim 0 (fun s => if s.id = id then 1 else 0) := by
  rw [applyAction_eq]
  cases hr with
  | keep act =>
    show a.creditOf id ≤ _
    omega
  | @update act id₀ sh sh' _ _ hlookup _ _ hcredit =>
    show { a with streams := a.streams.insert id₀ sh' }.creditOf id ≤ _
    rw [creditOf_insert]
    split
    · rename_i he
      rw [he, creditOf_of_lookup hlookup]
      omega
    · omega
  | @new stream update id₀ sh hsid _ _ _ _ _ hcredit =>
    show { a with streams := a.streams.insert id₀ sh }.creditOf id ≤ _
    rw [creditOf_insert]
    dsimp only [Action.stream?, Option.elim]
    subst hsid
    split
    · rename_i he
      rw [if_pos he.symm, he]
      omega
    · omega

theorem handled_onReset (a : Active) (id : StreamId) : Handled cfg a gain (a.onReset id) := by
  unfold onReset
  split
  · rename_i sh hlookup
    exact .update .none rfl (by simp [Action.frames]) hlookup (State.Step.update _ (by decide))
      (fun hb => hb.of_eq rfl le_rfl) (Nat.le_add_right _ _)
  · exact .keep .none rfl (by simp [Action.frames])

theorem handled_onPing (a : Active) (frame : Frame) : Handled cfg a gain (a.onPing frame, a) := by
  unfold onPing
  dsimp only
  split_ifs
  · exact .keep .none rfl (by simp [Action.frames])
  · refine .keep _ rfl ?_
    simp only [Action.frames, List.mem_singleton, forall_eq]
    exact (Frame.wellFormed_new_iff _).mpr fun h => by cases h
  · exact .keep .none rfl (by simp [Action.frames])

theorem wellFormed_goAway {h : Header} (htag : h.tag = .goAway) : (Frame.new h).WellFormed :=
  (Frame.wellFormed_new_iff h).mpr fun h' => absurd (htag.symm.trans h') (by decide)

theorem isOutbound_of_isValidRemoteId {id : StreamId} {tag : Tag} (htag : tag = .data ∨ tag = .windowUpdate)
    (hvalid : a.isValidRemoteId id tag) : a.mode.isOutbound id = false := by
  have hnot : ¬(tag = .ping ∨ tag = .goAway) := by rcases htag with rfl | rfl <;> decide
  unfold isValidRemoteId at hvalid
  rw [if_neg hnot] at hvalid
  cases hmode : a.mode <;> rw [hmode] at hvalid <;>
    simp_all [Mode.isOutbound, StreamId.isClient]

theorem handled_onData (h : a.Inv cfg) (frame : Frame) : Handled cfg a gain (a.onData cfg frame) := by
  have hprotocol : ∀ f ∈ (Action.terminate Frame.protocolError).frames, f.WellFormed := by
    simp only [Action.frames, List.mem_singleton, forall_eq]
    exact wellFormed_goAway rfl
  by_cases hrst : frame.header.flags.contains Flags.rst
  · rw [onData, if_pos hrst]
    exact handled_onReset a _
  rw [onData, if_neg hrst]
  by_cases hsyn : frame.header.flags.contains Flags.syn
  · rw [if_pos hsyn]
    by_cases hvalid : (!a.isValidRemoteId frame.header.streamId .data) = true
    · rw [if_pos hvalid]
      exact .keep _ rfl hprotocol
    rw [if_neg hvalid]
    by_cases hbody : frame.body.length > defaultCredit.toNat
    · rw [if_pos hbody]
      exact .keep _ rfl hprotocol
    rw [if_neg hbody]
    by_cases hmem : frame.header.streamId ∈ a.streams
    · rw [if_pos hmem]
      exact .keep _ rfl hprotocol
    rw [if_neg hmem]
    by_cases hlen : a.streams.keys.length = cfg.maxNumStreams
    · rw [if_pos hlen]
      refine .keep _ rfl ?_
      simp only [Action.frames, List.mem_singleton, forall_eq]
      exact wellFormed_goAway rfl
    rw [if_neg hlen, makeNewInboundStream, Stream.newInbound]
    dsimp only
    generalize hu : (((Shared.new defaultCredit defaultCredit).finish
      (frame.header.flags.contains Flags.fin)).receive frame).updateOnReceive cfg = u
    obtain ⟨sh, credit⟩ := u
    dsimp only
    have hdefault : defaultCredit.toNat = 262144 := rfl
    have hrw := Shared.defaultCredit_le_toNat cfg
    have hb : sh.Bounded cfg := by
      have hnew : (Shared.new defaultCredit defaultCredit).Bounded cfg :=
        Shared.bounded_new _ (by omega)
      have hrecv := (hnew.finish (frame.header.flags.contains Flags.fin)).receive frame
        (by simp [Shared.new]; omega)
        (by simp [Shared.new, Chunks.len_eq_length_contents]; omega)
      rw [← show (_ : Shared × Option UInt32).1 = sh from congrArg Prod.fst hu]
      exact hrecv.updateOnReceive
    have hcredit : sh.credit = defaultCredit := by
      rw [← show (_ : Shared × Option UInt32).1 = sh from congrArg Prod.fst hu]
      simp [Shared.new]
    refine .new _ _ (by split <;> rfl) hmem
      (isOutbound_of_isValidRemoteId (.inl rfl) (by simpa using hvalid)) (by have := h.length_le; omega) hb ?_
      (by rw [hcredit]; exact Nat.le_add_right _ _)
    intro f hf
    obtain ⟨c, -, rfl⟩ := Option.mem_map.mp (Option.mem_toList.mp hf)
    exact (Frame.wellFormed_new_iff _).mpr fun h' => by cases h'
  · rw [if_neg hsyn]
    split
    · exact .keep .none rfl (by simp [Action.frames])
    · rename_i sh hlookup
      by_cases hfit : frame.body.length > sh.window.toNat
      · rw [if_pos hfit]
        exact .keep _ rfl hprotocol
      rw [if_neg hfit]
      have hb := h.bounded _ sh hlookup
      have hstep := sh.step_finish (frame.header.flags.contains Flags.fin)
      dsimp only
      split
      · refine .update _ rfl ?_ hlookup hstep (fun hb => hb.finish _) (by simp)
        simp only [Action.frames, List.mem_singleton, forall_eq]
        exact (Frame.wellFormed_new_iff _).mpr fun _ => rfl
      · rename_i hbuf
        have hle := hb.window_le
        have hrecv := (hb.finish (frame.header.flags.contains Flags.fin)).receive frame
          (by simp only [Shared.window_finish]; omega) (by simp only [Shared.buffer_finish] at hbuf ⊢; omega)
        split
        · rename_i sh' credit hu
          rw [← show (_ : Shared × Option UInt32).1 = sh' from congrArg Prod.fst hu]
          refine .update _ rfl ?_ hlookup ?_ (fun _ => hrecv.updateOnReceive) (by simp)
          · simp only [Action.frames, List.mem_singleton, forall_eq]
            exact (Frame.wellFormed_new_iff _).mpr fun h' => by cases h'
          · simpa using hstep
        · rename_i sh' hu
          rw [← show (_ : Shared × Option UInt32).1 = sh' from congrArg Prod.fst hu]
          exact .update .none rfl (by simp [Action.frames]) hlookup (by simpa using hstep)
            (fun _ => hrecv.updateOnReceive) (by simp)

theorem handled_onWindowUpdate (h : a.Inv cfg) (frame : Frame)
    (hgain : frame.header.credit.toNat ≤ gain frame.header.streamId) {r : Action × Active}
    (hr : a.onWindowUpdate cfg frame = .ok r) : Handled cfg a gain r := by
  have hprotocol : ∀ f ∈ (Action.terminate Frame.protocolError).frames, f.WellFormed := by
    simp only [Action.frames, List.mem_singleton, forall_eq]
    exact wellFormed_goAway rfl
  by_cases hrst : frame.header.flags.contains Flags.rst
  · rw [onWindowUpdate, if_pos hrst] at hr
    cases hr
    exact handled_onReset a _
  rw [onWindowUpdate, if_neg hrst] at hr
  by_cases hsyn : frame.header.flags.contains Flags.syn
  · rw [if_pos hsyn] at hr
    by_cases hvalid : (!a.isValidRemoteId frame.header.streamId .windowUpdate) = true
    · rw [if_pos hvalid] at hr
      cases hr
      exact .keep _ rfl hprotocol
    rw [if_neg hvalid] at hr
    by_cases hmem : frame.header.streamId ∈ a.streams
    · rw [if_pos hmem] at hr
      cases hr
      exact .keep _ rfl hprotocol
    rw [if_neg hmem] at hr
    by_cases hlen : a.streams.keys.length = cfg.maxNumStreams
    · rw [if_pos hlen] at hr
      cases hr
      exact .keep _ rfl hprotocol
    rw [if_neg hlen] at hr
    by_cases hfit : frame.header.credit.toNat + defaultCredit.toNat < 2 ^ 32
    · rw [if_pos hfit, makeNewInboundStream, Stream.newInbound] at hr
      cases hr
      have hb : (Shared.new defaultCredit (frame.header.credit + defaultCredit)).Bounded cfg :=
        Shared.bounded_new _ (by have := Shared.defaultCredit_le_toNat cfg; exact this)
      have hcredit : (frame.header.credit + defaultCredit).toNat = frame.header.credit.toNat + defaultCredit.toNat := by
        rw [UInt32.toNat_add]
        exact Nat.mod_eq_of_lt hfit
      exact .new _ _ rfl hmem (isOutbound_of_isValidRemoteId (.inr rfl) (by simpa using hvalid))
        (by have := h.length_le; omega) (hb.finish _) (by simp) (by simp [Shared.new]; omega)
    · rw [if_neg hfit] at hr
      cases hr
  · rw [if_neg hsyn] at hr
    split at hr
    · cases hr
      exact .keep .none rfl (by simp [Action.frames])
    · rename_i sh hlookup
      split at hr
      · rename_i hfit
        cases hr
        have hcredit : (sh.credit + frame.header.credit).toNat = sh.credit.toNat + frame.header.credit.toNat := by
          rw [UInt32.toNat_add]
          exact Nat.mod_eq_of_lt hfit
        exact .update .none rfl (by simp [Action.frames]) hlookup
          (Shared.step_finish { sh with credit := sh.credit + frame.header.credit } _)
          (fun hb => (show Shared.Bounded cfg { sh with credit := sh.credit + frame.header.credit } from
            hb.of_eq rfl le_rfl).finish _) (by simp only [Shared.credit_finish]; omega)
      · cases hr

end Handled

section Acknowledge

variable {cfg : Config} {a : Active} (frame : Frame)

theorem Inv.acknowledge (h : a.Inv cfg) : (a.acknowledge frame).Inv cfg := by
  unfold Active.acknowledge
  split
  · split
    · rename_i sh hlookup
      exact h.update hlookup (State.Step.update _ (by decide)) fun hb => hb.of_eq rfl le_rfl
    · exact h
  · exact h

@[simp] theorem receivers_acknowledge : (a.acknowledge frame).receivers = a.receivers := by
  unfold Active.acknowledge
  split
  · split <;> rfl
  · rfl

@[simp] theorem mode_acknowledge : (a.acknowledge frame).mode = a.mode := by
  unfold Active.acknowledge
  split
  · split <;> rfl
  · rfl

@[simp] theorem nextId_acknowledge : (a.acknowledge frame).nextId = a.nextId := by
  unfold Active.acknowledge
  split
  · split <;> rfl
  · rfl

@[simp] theorem creditOf_acknowledge (id : StreamId) : (a.acknowledge frame).creditOf id = a.creditOf id := by
  unfold Active.acknowledge
  split
  · split
    · rename_i sh hlookup
      rw [creditOf_insert]
      split
      · rename_i he
        rw [he, creditOf_of_lookup hlookup]
        rfl
      · rfl
    · rfl
  · rfl

theorem mem_acknowledge {id : StreamId} : id ∈ (a.acknowledge frame).streams ↔ id ∈ a.streams := by
  unfold Active.acknowledge
  split
  · split
    · rename_i sh hlookup
      rw [AList.mem_insert]
      have hmem : frame.header.streamId ∈ a.streams := AList.lookup_isSome.mp (by rw [hlookup]; rfl)
      exact ⟨fun h => h.elim (fun h => h ▸ hmem) fun h => h, Or.inr⟩
    · exact Iff.rfl
  · exact Iff.rfl

theorem step_acknowledge {id : StreamId} {sh sh' : Shared} (hbefore : a.streams.lookup id = some sh)
    (hafter : (a.acknowledge frame).streams.lookup id = some sh') : sh.state.Step sh'.state := by
  unfold Active.acknowledge at hafter
  split at hafter
  · split at hafter
    · rename_i sh₀ hlookup
      dsimp only at hafter
      by_cases hid : id = frame.header.streamId
      · subst hid
        rw [AList.lookup_insert, Option.some.injEq] at hafter
        rw [hlookup, Option.some.injEq] at hbefore
        subst hbefore hafter
        exact State.Step.update _ (by decide)
      · rw [AList.lookup_insert_ne hid, hbefore, Option.some.injEq] at hafter
        exact hafter ▸ State.Step.refl _
    · rw [hbefore, Option.some.injEq] at hafter
      exact hafter ▸ State.Step.refl _
  · rw [hbefore, Option.some.injEq] at hafter
    exact hafter ▸ State.Step.refl _

end Acknowledge

section Outbound

variable {cfg : Config} {a : Active}

theorem nextStreamId_eq (h : a.Inv cfg) :
    a.nextStreamId = if a.nextId.toNat + 2 < 2 ^ 32 then .ok (.ok (a.nextId, { a with nextId := a.nextId + 2 }))
      else .ok (.error .noMoreStreamIds) := by
  unfold nextStreamId
  split
  · exact if_pos h.nextId_outbound
  · rfl

/-- `poll_new_outbound` never panics: it fails, waits, or opens a stream with the next outbound id,
which the connection does not know, with a new receiver and the default credit, leaving the
streams it knew as they were. -/
theorem pollNewOutbound_spec (h : a.Inv cfg) :
    (∃ e, a.pollNewOutbound cfg = .ok (.ready (.error e), a)) ∨ a.pollNewOutbound cfg = .ok (.pending, a) ∨
      ∃ stream a', a.pollNewOutbound cfg = .ok (.ready (.ok stream), a') ∧ a'.Inv cfg ∧ stream.id ∉ a.streams ∧
        a'.receivers = a.receivers ++ [Receiver.mk stream.id [] false] ∧
        a'.streams = a.streams.insert stream.id (Shared.new cfg.receiveWindow defaultCredit) ∧
        stream.id = a.nextId ∧ a'.mode = a.mode ∧ a'.nextId.toNat = a.nextId.toNat + 2 := by
  unfold pollNewOutbound
  split
  · exact .inl ⟨_, rfl⟩
  split
  · exact .inr (.inl rfl)
  rename_i hlen hback
  rw [nextStreamId_eq h]
  by_cases hfit : a.nextId.toNat + 2 < 2 ^ 32
  · rw [if_pos hfit]
    dsimp only
    right; right
    have hid : a.nextId ∉ a.streams := fun hmem =>
      absurd (h.lt_nextId _ hmem h.nextId_outbound) (lt_irrefl _)
    have hadvance := h.advance hfit
    let a₁ : Active := { a with nextId := a.nextId + 2 }
    let fs : List Frame := if cfg.receiveWindow - defaultCredit > 0 then
      [Frame.new (Header.windowUpdate a.nextId (cfg.receiveWindow - defaultCredit)).syn] else []
    have hqueue : { a₁ with pendingFrames := a₁.pendingFrames ++ fs }.Inv cfg := by
      refine hadvance.queue fun f hf => ?_
      simp only [fs] at hf
      split at hf
      · rw [List.mem_singleton.mp hf]
        exact (Frame.wellFormed_new_iff _).mpr fun h' => by cases h'
      · cases hf
    have hhqueue : (if cfg.receiveWindow - defaultCredit > 0 then
        { a₁ with pendingFrames := a₁.pendingFrames ++
          [Frame.new (Header.windowUpdate a.nextId (cfg.receiveWindow - defaultCredit)).syn] } else a₁) =
        { a₁ with pendingFrames := a₁.pendingFrames ++ fs } := by
      simp only [fs]
      split <;> simp
    have hadd : (a.nextId + 2).toNat = a.nextId.toNat + 2 := by
      rw [UInt32.toNat_add]
      simp only [UInt32.reduceToNat]
      omega
    have hnew := hqueue.insert_new hid (show a.streams.keys.length < cfg.maxNumStreams by omega)
      (Shared.bounded_new defaultCredit le_rfl)
      (show a.mode.isOutbound a.nextId → a.nextId.toNat < (a.nextId + 2).toNat from fun _ => by omega)
      (fun _ _ => show a.ackBacklog < maxAckBacklog by omega) (fun _ h => absurd h List.not_mem_nil) false
    refine ⟨_, _, rfl, ?_, ?_, ?_, ?_, ?_, ?_, ?_⟩
    · dsimp only [makeNewOutboundStream, Stream.newOutbound]
      rw [hhqueue]
      exact hnew
    · dsimp only [makeNewOutboundStream, Stream.newOutbound]
      split <;> exact hid
    · dsimp only [makeNewOutboundStream, Stream.newOutbound]
      rw [hhqueue]
      split <;> rfl
    · dsimp only [makeNewOutboundStream, Stream.newOutbound]
      rw [hhqueue]
      split <;> rfl
    · dsimp only [makeNewOutboundStream, Stream.newOutbound]
      split <;> rfl
    · dsimp only [makeNewOutboundStream, Stream.newOutbound]
      rw [hhqueue]
    · dsimp only [makeNewOutboundStream, Stream.newOutbound]
      rw [hhqueue]
      exact hadd
  · rw [if_neg hfit]
    exact .inl ⟨_, rfl⟩

end Outbound

section Drop

variable {a : Active}

theorem onDropStream_eq (cfg : Config) {id : StreamId} {sh : Shared} (hlookup : a.streams.lookup id = some sh) :
    ∃ fs, a.onDropStream cfg id = .ok { a with streams := a.streams.erase id, pendingFrames := a.pendingFrames ++ fs } ∧
      ∀ f ∈ fs, f.WellFormed := by
  unfold onDropStream
  rw [hlookup]
  refine ⟨_, rfl, fun f hf => ?_⟩
  have hempty : ∀ h : Header, h.tag = .data → h.length = 0 → (Frame.new h).WellFormed :=
    fun h _ hlen => (Frame.wellFormed_new_iff h).mpr fun _ => hlen
  split at hf
  · exact (List.mem_singleton.mp hf) ▸ hempty _ rfl rfl
  · exact (List.mem_singleton.mp hf) ▸ hempty _ rfl rfl
  · split at hf
    · exact (List.mem_singleton.mp hf) ▸ hempty _ rfl rfl
    · cases hf
  · cases hf

theorem Inv.dropStream {cfg : Config} (h : a.Inv cfg) {id : StreamId} (hmem : id ∈ a.streams) :
    ∃ a', { a with receivers := a.receivers.filter (·.id != id) }.onDropStream cfg id = .ok a' ∧ a'.Inv cfg ∧
      a'.receivers = a.receivers.filter (·.id != id) ∧ a'.streams.lookup id = none ∧
      (∀ id', id' ≠ id → a'.streams.lookup id' = a.streams.lookup id') ∧ a'.mode = a.mode ∧ a'.nextId = a.nextId := by
  obtain ⟨sh, hlookup⟩ := Option.isSome_iff_exists.mp (AList.lookup_isSome.mpr hmem)
  obtain ⟨fs, heq, hfs⟩ := onDropStream_eq cfg (a := { a with receivers := a.receivers.filter (·.id != id) })
    hlookup
  refine ⟨_, heq, ?_, rfl, AList.lookup_erase _ _, fun id' hne => AList.lookup_erase_ne hne, rfl, rfl⟩
  refine (Inv.erase (h.filterReceivers _) fun r hr => ?_).queue hfs
  simpa using (List.mem_filter.mp hr).2

end Drop

/-- What `on_frame` does, when it does not close the connection: it keeps the invariant, hands out
only a stream of the remote's parity that it did not know, with a new receiver, only steps the
streams it knew, keeps the mode and the next outbound id, and grows a credit only by what the
frame grants, or to `DEFAULT_CREDIT` and that for a stream it opens. -/
theorem onFrame_spec {cfg : Config} {a : Active} (h : a.Inv cfg) {frame : Frame} {r : Option Stream × Active}
    (hr : a.onFrame cfg frame = .ok (.ok r)) :
    r.2.Inv cfg ∧ r.2.receivers = a.receivers ++ (r.1.map fun s => Receiver.mk s.id [] false).toList ∧
      (∀ s, r.1 = some s → s.id ∉ a.streams ∧ a.mode.isOutbound s.id = false) ∧
      (∀ id sh sh', a.streams.lookup id = some sh → r.2.streams.lookup id = some sh' → sh.state.Step sh'.state) ∧
      r.2.mode = a.mode ∧ r.2.nextId = a.nextId ∧
      ∀ id, r.2.creditOf id ≤ a.creditOf id + frame.creditFor id +
        defaultCredit.toNat * r.1.elim 0 (fun s => if s.id = id then 1 else 0) := by
  have hack := h.acknowledge frame
  have hhandled : ∃ act, Handled cfg (a.acknowledge frame) frame.creditFor act ∧ r = act.2.applyAction act.1 := by
    unfold onFrame at hr
    split at hr
    · exact ⟨_, handled_onData hack frame, (Except.ok.inj (Except.ok.inj hr)).symm⟩
    · rename_i htag
      have hgain : frame.header.credit.toNat ≤ frame.creditFor frame.header.streamId := by
        simp [Frame.creditFor, htag]
      dsimp only at hr
      cases hw : (a.acknowledge frame).onWindowUpdate cfg frame with
      | error e =>
        rw [hw] at hr
        cases hr
      | ok act =>
        rw [hw] at hr
        exact ⟨act, handled_onWindowUpdate hack frame hgain hw, (Except.ok.inj (Except.ok.inj hr)).symm⟩
    · exact ⟨_, handled_onPing _ frame, (Except.ok.inj (Except.ok.inj hr)).symm⟩
    · cases hr
  obtain ⟨act, hact, rfl⟩ := hhandled
  refine ⟨hact.inv hack, by rw [hact.receivers, receivers_acknowledge], fun s hs => ?_, ?_,
    by rw [hact.ids.1, mode_acknowledge], by rw [hact.ids.2, nextId_acknowledge],
    fun id => by simpa using hact.credit id⟩
  · obtain ⟨hnew, hout⟩ := hact.stream_fresh hs
    exact ⟨fun hmem => hnew ((mem_acknowledge frame).mpr hmem), by rwa [mode_acknowledge] at hout⟩
  · intro id sh sh' hbefore hafter
    obtain ⟨sh₀, hmid⟩ : ∃ sh₀, (a.acknowledge frame).streams.lookup id = some sh₀ := by
      have hmem : id ∈ (a.acknowledge frame).streams :=
        (mem_acknowledge frame).mpr (AList.lookup_isSome.mp (by rw [hbefore]; rfl))
      exact Option.isSome_iff_exists.mp (AList.lookup_isSome.mpr hmem)
    exact (step_acknowledge frame hbefore hmid).trans (hact.step hmid hafter)

section Overflow

variable {cfg : Config} {a : Active} {frame : Frame}

theorem lookup_credit_acknowledge (f : Frame) (id : StreamId) :
    ((a.acknowledge f).streams.lookup id).map Shared.credit = (a.streams.lookup id).map Shared.credit := by
  unfold Active.acknowledge
  split
  · split
    · rename_i sh hlookup
      by_cases hid : id = f.header.streamId
      · rw [hid, AList.lookup_insert, hlookup]
        rfl
      · rw [AList.lookup_insert_ne hid]
    · rfl
  · rfl

theorem length_keys_acknowledge (f : Frame) : (a.acknowledge f).streams.keys.length = a.streams.keys.length := by
  unfold Active.acknowledge
  split
  · split
    · rename_i sh hlookup
      exact AList.length_keys_insert_of_mem _ (AList.lookup_isSome.mp (by rw [hlookup]; rfl))
    · rfl
  · rfl

theorem creditBefore_acknowledge (f : Frame) : (a.acknowledge f).creditBefore cfg frame = a.creditBefore cfg frame := by
  simp only [creditBefore, isValidRemoteId, mode_acknowledge, mem_acknowledge, length_keys_acknowledge,
    lookup_credit_acknowledge]
  congr

/-- `on_window_update` fails only by a panic, and panics exactly when the frame, without `RST`,
takes the credit it adds to past `u32::MAX`. -/
theorem onWindowUpdate_eq_error_iff (e : Error) :
    a.onWindowUpdate cfg frame = .error e ↔ e = .panicked ∧ frame.header.flags.contains Flags.rst = false ∧
      (a.creditBefore cfg frame).any (fun credit => 2 ^ 32 ≤ credit.toNat + frame.header.credit.toNat) = true := by
  unfold onWindowUpdate creditBefore
  by_cases hrst : frame.header.flags.contains Flags.rst
  · simp [hrst]
  simp only [hrst, Bool.false_eq_true, if_false, true_and]
  by_cases hsyn : frame.header.flags.contains Flags.syn
  · simp only [hsyn, if_true]
    by_cases hopen : (a.isValidRemoteId frame.header.streamId .windowUpdate && frame.header.streamId ∉ a.streams &&
        a.streams.keys.length ≠ cfg.maxNumStreams) = true
    · obtain ⟨⟨hvalid, hmem⟩, hlen⟩ : (a.isValidRemoteId frame.header.streamId .windowUpdate = true ∧
          frame.header.streamId ∉ a.streams) ∧ a.streams.keys.length ≠ cfg.maxNumStreams := by
        simpa using hopen
      rw [if_neg (by simpa using hvalid), if_neg hmem, if_neg hlen, if_pos hopen, Option.any_some,
        decide_eq_true_iff]
      split_ifs with hfit
      · exact ⟨fun h => (by cases h), fun ⟨_, hover⟩ => by omega⟩
      · exact ⟨fun h => ⟨(Except.error.inj h).symm, by omega⟩, fun ⟨he, _⟩ => he ▸ rfl⟩
    · rw [if_neg hopen, Option.any_none]
      simp only [Bool.and_eq_true, decide_eq_true_eq, not_and, Decidable.not_not] at hopen
      split_ifs <;> simp_all
  · simp only [hsyn, Bool.false_eq_true, if_false]
    cases hl : a.streams.lookup frame.header.streamId with
    | none => simp
    | some sh =>
      dsimp only
      rw [Option.map_some, Option.any_some, decide_eq_true_iff]
      split_ifs with hfit
      · exact ⟨fun h => (by cases h), fun ⟨_, hover⟩ => by omega⟩
      · exact ⟨fun h => ⟨(Except.error.inj h).symm, by omega⟩, fun ⟨he, _⟩ => he ▸ rfl⟩

theorem onFrame_eq_error_iff (e : Error) :
    a.onFrame cfg frame = .error e ↔ e = .panicked ∧ a.creditOverflows cfg frame = true := by
  unfold onFrame creditOverflows
  rw [← creditBefore_acknowledge frame]
  cases htag : frame.header.tag with
  | windowUpdate =>
    dsimp only
    cases hw : (a.acknowledge frame).onWindowUpdate cfg frame with
    | error e' =>
      obtain ⟨rfl, hrst, hover⟩ := (onWindowUpdate_eq_error_iff e').mp hw
      exact ⟨fun h => ⟨(Except.error.inj h).symm, by rw [hrst, hover]; rfl⟩, fun ⟨he, _⟩ => he ▸ rfl⟩
    | ok r =>
      have hfit : ¬ (Error.panicked = .panicked ∧ frame.header.flags.contains Flags.rst = false ∧
          ((a.acknowledge frame).creditBefore cfg frame).any
            (fun credit => 2 ^ 32 ≤ credit.toNat + frame.header.credit.toNat) = true) := by
        rw [← onWindowUpdate_eq_error_iff, hw]
        exact fun h => by cases h
      simp_all [Except.map]
  | _ => simp
end Overflow

end Active

end Litep2p.Yamux
