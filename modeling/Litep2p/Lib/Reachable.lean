import Mathlib

/-!
# Reachable states of a step function

A component driven by inputs `ι` through `step : σ → ι → σ` reaches the states obtained from its
initial state by any sequence of inputs. `Reachable.induction_on_inv` is the invariant rule: a
property that holds initially and that every step keeps holds in every reachable state.
-/

namespace StepSystem

variable {σ ι : Type*} (step : σ → ι → σ)

def Reachable (init s : σ) : Prop :=
  Relation.ReflTransGen (fun a b => ∃ i, step a i = b) init s

variable {step}

theorem Reachable.refl (init : σ) : Reachable step init init :=
  Relation.ReflTransGen.refl

theorem Reachable.tail {init s : σ} (h : Reachable step init s) (i : ι) :
    Reachable step init (step s i) :=
  Relation.ReflTransGen.tail h ⟨i, rfl⟩

theorem Reachable.foldl {init s : σ} (h : Reachable step init s) (is : List ι) :
    Reachable step init (is.foldl step s) := by
  induction is generalizing s with
  | nil => exact h
  | cons i is ih => exact ih (h.tail i)

theorem Reachable.induction_on_inv {init s : σ} (inv : σ → Prop) (h0 : inv init)
    (hstep : ∀ s i, inv s → inv (step s i)) (h : Reachable step init s) : inv s := by
  induction h with
  | refl => exact h0
  | tail _ hab ih =>
      obtain ⟨i, rfl⟩ := hab
      exact hstep _ i ih

end StepSystem
