import Mathlib

/-!
# Runs of a machine with outputs

A component that answers each input with a new state and a list of outputs (the events it sends,
the messages it writes) is a function `step : σ → ι → σ × List ω`. `run` feeds it a sequence of
inputs and collects the outputs in order. `run_inv_outputs` is the invariant rule of such runs: a
property of states that every allowed step keeps, and under which no allowed step emits a bad
output, holds at the end of every allowed run, and no output of the run is bad. `run_potential`
is the rule for what a run can only spend as it is given: a potential of the state that pays for
what each step spends. `run_nodup_keys` is the rule for what a run names at most once: keys that a
step names only when its state did not yet remember them, and remembers from then on.

`run_enter_iff` is the rule for an absorbing set of states, such as a panic: a run ends in it
exactly when one of its steps enters it.

`observe` collects a ghost of a run, what each step is seen doing, and `run_observe_inv` is the
invariant rule that relates the state to it; `run_observe_outputs_inv` relates the outputs too.

`trace` lays a run out as its inputs and outputs in the order they happen. `trace_separated` is
the rule for a property of such traces: between any two reports there is a request. It holds when
a report leaves the machine quiet, a quiet machine stays quiet and reports nothing until a
request comes, and no step reports twice.
-/

namespace Mealy

variable {σ ι ω : Type*} (step : σ → ι → σ × List ω)

/-- The state a sequence of inputs leads to, and the outputs emitted on the way. -/
def run : σ → List ι → σ × List ω
  | s, [] => (s, [])
  | s, i :: is =>
    let r := run (step s i).1 is
    (r.1, (step s i).2 ++ r.2)

@[simp] theorem run_nil (s : σ) : run step s [] = (s, []) := rfl

@[simp] theorem run_cons (s : σ) (i : ι) (is : List ι) :
    run step s (i :: is) =
      ((run step (step s i).1 is).1, (step s i).2 ++ (run step (step s i).1 is).2) := rfl

theorem run_append (s : σ) (is js : List ι) :
    run step s (is ++ js) =
      ((run step (run step s is).1 js).1, (run step s is).2 ++ (run step (run step s is).1 js).2) := by
  induction is generalizing s with
  | nil => rfl
  | cons i is ih => simp [ih]

variable {step}

/-- The invariant rule with outputs: `inv` is kept by every allowed step, and no allowed step from
a state satisfying it emits an output that is not `good`. -/
theorem run_inv_outputs (inv : σ → Prop) (allowed : ι → Prop) (good : ω → Prop)
    (hinv : ∀ s i, inv s → allowed i → inv (step s i).1)
    (hout : ∀ s i, inv s → allowed i → ∀ o ∈ (step s i).2, good o) :
    ∀ (is : List ι) (s : σ), inv s → (∀ i ∈ is, allowed i) →
      inv (run step s is).1 ∧ ∀ o ∈ (run step s is).2, good o := by
  intro is
  induction is with
  | nil => simp
  | cons i is ih =>
      intro s hs hallowed
      have hi : allowed i := hallowed i (List.mem_cons_self ..)
      obtain ⟨hend, hgood⟩ := ih (step s i).1 (hinv s i hs hi)
        (fun j hj => hallowed j (List.mem_cons_of_mem _ hj))
      refine ⟨hend, fun o ho => ?_⟩
      rcases List.mem_append.mp ho with ho | ho
      · exact hout s i hs hi o ho
      · exact hgood o ho

section Absorbing

variable (bad : σ → Prop) (habsorb : ∀ s i, bad s → bad (step s i).1)
include habsorb

theorem run_absorbing : ∀ (is : List ι) (s : σ), bad s → bad (run step s is).1
  | [], _, hs => hs
  | i :: is, s, hs => run_absorbing is (step s i).1 (habsorb s i hs)

/-- The rule for entering an absorbing set: a run from outside it ends in it exactly when some step
of the run enters it from outside. -/
theorem run_enter_iff (is : List ι) (s : σ) (hs : ¬ bad s) :
    bad (run step s is).1 ↔
      ∃ is₁ i is₂, is = is₁ ++ i :: is₂ ∧ ¬ bad (run step s is₁).1 ∧ bad (step (run step s is₁).1 i).1 := by
  constructor
  · induction is generalizing s with
    | nil => exact fun h => absurd h hs
    | cons i is ih =>
      intro hend
      by_cases hi : bad (step s i).1
      · exact ⟨[], i, is, rfl, hs, hi⟩
      · obtain ⟨is₁, j, is₂, rfl, hout, hin⟩ := ih (step s i).1 hi hend
        exact ⟨i :: is₁, j, is₂, rfl, hout, hin⟩
  · rintro ⟨is₁, i, is₂, rfl, -, hin⟩
    rw [run_append, run_cons]
    exact run_absorbing bad habsorb is₂ _ hin

end Absorbing

/-- The rule for what a run can spend only once it was given it: a potential `Φ` of the state,
with what the outputs of a step spend, never exceeds the potential before with what the input gains
and the outputs bring. Then along every allowed run the potential at its end with all that was
spent is at most the potential at its start with all that was gained and brought. -/
theorem run_potential (inv : σ → Prop) (allowed : ι → Prop) (Φ : σ → ℕ) (gain : ι → ℕ)
    (spend bring : ω → ℕ) (hinv : ∀ s i, inv s → allowed i → inv (step s i).1)
    (hstep : ∀ s i, inv s → allowed i →
      Φ (step s i).1 + ((step s i).2.map spend).sum ≤ Φ s + gain i + ((step s i).2.map bring).sum) :
    ∀ (is : List ι) (s : σ), inv s → (∀ i ∈ is, allowed i) →
      Φ (run step s is).1 + ((run step s is).2.map spend).sum ≤
        Φ s + (is.map gain).sum + ((run step s is).2.map bring).sum := by
  intro is
  induction is with
  | nil => simp
  | cons i is ih =>
    intro s hs hallowed
    have hi : allowed i := hallowed i List.mem_cons_self
    have hfirst := hstep s i hs hi
    have hrest := ih (step s i).1 (hinv s i hs hi) fun j hj => hallowed j (List.mem_cons_of_mem _ hj)
    rw [run_cons, List.map_append, List.map_append, List.sum_append, List.sum_append, List.map_cons,
      List.sum_cons]
    dsimp only
    omega

/-- A state remembers along an allowed run what it remembered at its start, when every allowed
step keeps `inv` and forgets nothing. -/
theorem run_seen {κ : Type*} (inv : σ → Prop) (allowed : ι → Prop) (seen : σ → κ → Prop)
    (hinv : ∀ s i, inv s → allowed i → inv (step s i).1)
    (hkeep : ∀ s i k, inv s → allowed i → seen s k → seen (step s i).1 k)
    (is : List ι) (s : σ) (hs : inv s) (his : ∀ i ∈ is, allowed i) (k : κ) (hk : seen s k) :
    seen (run step s is).1 k :=
  (run_inv_outputs (fun s => inv s ∧ seen s k) allowed (fun _ => True)
    (fun s i h hi => ⟨hinv s i h.1 hi, hkeep s i k h.1 hi h.2⟩) (fun _ _ _ _ _ _ => trivial)
    is s ⟨hs, hk⟩ his).1.2

/-- The rule for keys named once: `inv` is kept by every allowed step, a state forgets no key it
remembers, and a step names in its outputs, each once, only keys its state did not remember and
remembers after. Then no key is named twice along an allowed run, and each one it names was not
remembered at its start and is at its end. -/
theorem run_nodup_keys {κ : Type*} (key : ω → Option κ) (inv : σ → Prop) (allowed : ι → Prop)
    (seen : σ → κ → Prop)
    (hinv : ∀ s i, inv s → allowed i → inv (step s i).1)
    (hkeep : ∀ s i k, inv s → allowed i → seen s k → seen (step s i).1 k)
    (hfresh : ∀ s i, inv s → allowed i → ∀ k ∈ (step s i).2.filterMap key,
      ¬ seen s k ∧ seen (step s i).1 k)
    (hnodup : ∀ s i, inv s → allowed i → ((step s i).2.filterMap key).Nodup) :
    ∀ (is : List ι) (s : σ), inv s → (∀ i ∈ is, allowed i) →
      ((run step s is).2.filterMap key).Nodup ∧
        ∀ k ∈ (run step s is).2.filterMap key, ¬ seen s k ∧ seen (run step s is).1 k := by
  intro is
  induction is with
  | nil => simp
  | cons i is ih =>
    intro s hs hallowed
    have hi : allowed i := hallowed i List.mem_cons_self
    have hrest : ∀ j ∈ is, allowed j := fun j hj => hallowed j (List.mem_cons_of_mem _ hj)
    have hs' := hinv s i hs hi
    obtain ⟨hnodup', hfresh'⟩ := ih (step s i).1 hs' hrest
    rw [run_cons, List.filterMap_append]
    refine ⟨List.nodup_append.mpr ⟨hnodup s i hs hi, hnodup', fun k hk k' hk' hkk' => ?_⟩,
      fun k hk => ?_⟩
    · subst hkk'
      exact (hfresh' k hk').1 (hfresh s i hs hi k hk).2
    · rcases List.mem_append.mp hk with hk | hk
      · exact ⟨(hfresh s i hs hi k hk).1,
          run_seen inv allowed seen hinv hkeep is _ hs' hrest k (hfresh s i hs hi k hk).2⟩
      · exact ⟨fun hseen => (hfresh' k hk).1 (hkeep s i k hs hi hseen), (hfresh' k hk).2⟩

/-- What an observer `obs` sees of each step of a run, in order: a ghost of the run that no output
carries, such as the entries a step takes out of its state. -/
def observe {κ : Type*} (step : σ → ι → σ × List ω) (obs : σ → ι → List κ) : σ → List ι → List κ
  | _, [] => []
  | s, i :: is => obs s i ++ observe step obs (step s i).1 is

/-- The invariant rule with a ghost: a relation between a state and what was observed before it,
kept by every allowed step together with what that step is observed doing, holds at the end of
every allowed run with all that the run was observed doing. -/
theorem run_observe_inv {κ : Type*} (obs : σ → ι → List κ) (inv : σ → List κ → Prop)
    (allowed : ι → Prop) (hstep : ∀ s g i, inv s g → allowed i → inv (step s i).1 (g ++ obs s i)) :
    ∀ (is : List ι) (s : σ) (g : List κ), inv s g → (∀ i ∈ is, allowed i) →
      inv (run step s is).1 (g ++ observe step obs s is) := by
  intro is
  induction is with
  | nil => simp [observe]
  | cons i is ih =>
    intro s g hs hallowed
    have hs' := hstep s g i hs (hallowed i List.mem_cons_self)
    have hend := ih (step s i).1 (g ++ obs s i) hs' fun j hj => hallowed j (List.mem_cons_of_mem _ hj)
    rwa [List.append_assoc] at hend

/-- The invariant rule with a ghost and the outputs: a relation between a state, what was observed
and what was output before it, kept by every step together with what that step is observed doing
and outputs, holds at the end of every run with all that the run was observed doing and output. -/
theorem run_observe_outputs_inv {κ : Type*} (obs : σ → ι → List κ) (inv : σ → List κ → List ω → Prop)
    (hstep : ∀ s g o i, inv s g o → inv (step s i).1 (g ++ obs s i) (o ++ (step s i).2)) :
    ∀ (is : List ι) (s : σ) (g : List κ) (o : List ω), inv s g o →
      inv (run step s is).1 (g ++ observe step obs s is) (o ++ (run step s is).2) := by
  intro is
  induction is with
  | nil => simp [observe]
  | cons i is ih =>
    intro s g o hs
    have hend := ih (step s i).1 (g ++ obs s i) (o ++ (step s i).2) (hstep s g o i hs)
    simpa only [observe, run_cons, List.append_assoc] using hend

def trace (step : σ → ι → σ × List ω) : σ → List ι → List (ι ⊕ ω)
  | _, [] => []
  | s, i :: is => .inl i :: ((step s i).2.map .inr ++ trace step (step s i).1 is)

@[simp] theorem trace_nil (s : σ) : trace step s [] = [] := rfl

@[simp] theorem trace_cons (s : σ) (i : ι) (is : List ι) :
    trace step s (i :: is) = .inl i :: ((step s i).2.map .inr ++ trace step (step s i).1 is) := rfl

theorem append_eq_append_cons_of_not_mem {α : Type*} {l₁ l₂ b c : List α} {z : α}
    (h : l₁ ++ l₂ = b ++ z :: c) (hz : z ∉ l₁) : ∃ b', b = l₁ ++ b' ∧ l₂ = b' ++ z :: c := by
  rcases List.append_eq_append_iff.mp h with ⟨b', hb, hl⟩ | ⟨c', hl, hc⟩
  · exact ⟨b', hb, hl⟩
  · cases c' with
    | nil => exact ⟨[], by simpa using hl.symm, by simpa using hc.symm⟩
    | cons w c' =>
      obtain ⟨rfl, -⟩ := List.cons.inj hc
      exact absurd (hl ▸ List.mem_append_right b List.mem_cons_self) hz

section Separation

variable (quiet : σ → Prop) (req : ι → Bool) (rep : ω → Bool)

theorem two_le_countP_of_map_inr {outputs : List ω} {a c : List (ι ⊕ ω)} {x y : ω}
    (hout : outputs.map Sum.inr = a ++ .inr x :: c) (hy : .inr y ∈ c) (hx : rep x = true)
    (hyrep : rep y = true) : 2 ≤ outputs.countP rep := by
  have hpos : 0 < c.countP (Sum.elim (fun _ => false) rep) :=
    List.countP_pos_iff.mpr ⟨_, hy, by simpa using hyrep⟩
  have hcount : outputs.countP rep = (outputs.map Sum.inr).countP (Sum.elim (fun _ : ι => false) rep) := by
    simp only [List.countP_map, Sum.elim_comp_inr]
  rw [hcount, hout, List.countP_append, List.countP_cons]
  simp [hx]
  omega

theorem trace_req_before_rep
    (hkeep : ∀ s i, quiet s → req i = false →
      quiet (step s i).1 ∧ ∀ o ∈ (step s i).2, rep o = false) :
    ∀ (is : List ι) (s : σ) (b c : List (ι ⊕ ω)) (y : ω), quiet s →
      trace step s is = b ++ .inr y :: c → rep y = true →
      ∃ k, .inl k ∈ b ∧ req k = true := by
  intro is
  induction is with
  | nil => simp
  | cons i is ih =>
    intro s b c y hquiet htrace hy
    cases b with
    | nil => simp at htrace
    | cons b₀ b =>
      rw [trace_cons, List.cons_append, List.cons.injEq] at htrace
      obtain ⟨rfl, htrace⟩ := htrace
      cases hreq : req i
      · obtain ⟨hquiet', hsilent⟩ := hkeep s i hquiet hreq
        have hy' : (Sum.inr y : ι ⊕ ω) ∉ (step s i).2.map Sum.inr := by
          intro hmem
          simp only [List.mem_map, Sum.inr.injEq] at hmem
          obtain ⟨o, ho, rfl⟩ := hmem
          simp [hsilent o ho] at hy
        obtain ⟨b', rfl, hrest⟩ := append_eq_append_cons_of_not_mem htrace hy'
        obtain ⟨k, hk, hreqk⟩ := ih _ b' c y hquiet' hrest hy
        exact ⟨k, by simp [hk], hreqk⟩
      · exact ⟨i, List.mem_cons_self, hreq⟩

theorem trace_separated
    (hkeep : ∀ s i, quiet s → req i = false →
      quiet (step s i).1 ∧ ∀ o ∈ (step s i).2, rep o = false)
    (hsettle : ∀ s i, (∃ o ∈ (step s i).2, rep o = true) → quiet (step s i).1)
    (honce : ∀ s i, (step s i).2.countP rep ≤ 1) :
    ∀ (is : List ι) (s : σ) (a b c : List (ι ⊕ ω)) (x y : ω),
      trace step s is = a ++ .inr x :: (b ++ .inr y :: c) → rep x = true → rep y = true →
      ∃ k, .inl k ∈ b ∧ req k = true := by
  intro is
  induction is with
  | nil => simp
  | cons i is ih =>
    intro s a b c x y htrace hx hy
    cases a with
    | nil => simp at htrace
    | cons a₀ a =>
      rw [trace_cons, List.cons_append, List.cons.injEq] at htrace
      obtain ⟨-, htrace⟩ := htrace
      rcases List.append_eq_append_iff.mp htrace with ⟨a', rfl, hrest⟩ | ⟨c', hout, hrest⟩
      · exact ih _ a' b c x y hrest hx hy
      · cases c' with
        | nil => exact ih _ [] b c x y (by simpa using hrest.symm) hx hy
        | cons c₀ c' =>
          rw [List.cons_append, List.cons.injEq] at hrest
          obtain ⟨rfl, hrest⟩ := hrest
          have hxo : x ∈ (step s i).2 := by
            have hmem : (Sum.inr x : ι ⊕ ω) ∈ (step s i).2.map Sum.inr := by simp [hout]
            simpa using hmem
          have hquiet := hsettle s i ⟨x, hxo, hx⟩
          have hy' : (Sum.inr y : ι ⊕ ω) ∉ c' := by
            intro hmem
            have hcount := two_le_countP_of_map_inr rep hout hmem hx hy
            have hle := honce s i
            omega
          obtain ⟨b', rfl, hrest'⟩ := append_eq_append_cons_of_not_mem hrest.symm hy'
          obtain ⟨k, hk, hreqk⟩ :=
            trace_req_before_rep quiet req rep hkeep is _ b' c y hquiet hrest' hy
          exact ⟨k, by simp [hk], hreqk⟩

end Separation

end Mealy
