import Mathlib

/-! Observational equivalence of two runs of a system under a simulation.
A system takes steps with inputs in `ι` and answers queries in `κ`; `answers` collects the
answers a sequence of calls receives. Two states related by a relation that every allowed step
keeps, and on which the answers agree, receive the same answers for every allowed sequence of
calls (`answers_eq_of_simulation`). -/

namespace Simulation

variable {σ τ ι κ ω : Type*}

inductive Call (ι κ : Type*) where
  | step (i : ι)
  | query (q : κ)

/-- The answers to the queries among `calls`, each asked of the state the steps before it left. -/
def answers (step : σ → ι → σ) (answer : σ → κ → ω) : σ → List (Call ι κ) → List ω
  | _, [] => []
  | s, .step i :: calls => answers step answer (step s i) calls
  | s, .query q :: calls => answer s q :: answers step answer s calls

/-- Every step of the run of `calls` from `s` is one that `ok` allows in the state it meets. -/
def Allowed (step : σ → ι → σ) (ok : σ → ι → Prop) : σ → List (Call ι κ) → Prop
  | _, [] => True
  | s, .step i :: calls => ok s i ∧ Allowed step ok (step s i) calls
  | s, .query _ :: calls => Allowed step ok s calls

/-- `Allowed` is decided call by call. -/
def decideAllowed {step : σ → ι → σ} {ok : σ → ι → Prop} [hok : ∀ s i, Decidable (ok s i)] :
    ∀ (s : σ) (calls : List (Call ι κ)), Decidable (Allowed step ok s calls)
  | _, [] => isTrue trivial
  | s, .step i :: calls => @instDecidableAnd _ _ (hok s i) (decideAllowed (step s i) calls)
  | s, .query _ :: calls => decideAllowed s calls

instance {step : σ → ι → σ} {ok : σ → ι → Prop} [∀ s i, Decidable (ok s i)] (s : σ)
    (calls : List (Call ι κ)) : Decidable (Allowed step ok s calls) :=
  decideAllowed s calls

section
variable {step₁ : σ → ι → σ} {step₂ : τ → ι → τ} {answer₁ : σ → κ → ω} {answer₂ : τ → κ → ω}
  (R : σ → τ → Prop) {ok : σ → ι → Prop}

theorem answers_eq_of_simulation (hstep : ∀ s t i, R s t → ok s i → R (step₁ s i) (step₂ t i))
    (hanswer : ∀ s t q, R s t → answer₁ s q = answer₂ t q) :
    ∀ (calls : List (Call ι κ)) {s : σ} {t : τ}, R s t → Allowed step₁ ok s calls →
      answers step₁ answer₁ s calls = answers step₂ answer₂ t calls
  | [], _, _, _, _ => rfl
  | .step i :: calls, s, t, hR, hallowed => by
      rw [answers, answers]
      exact answers_eq_of_simulation hstep hanswer calls (hstep s t i hR hallowed.1) hallowed.2
  | .query q :: calls, s, t, hR, hallowed => by
      rw [answers, answers, hanswer s t q hR]
      exact congrArg _ (answers_eq_of_simulation hstep hanswer calls hR hallowed)

end

end Simulation
