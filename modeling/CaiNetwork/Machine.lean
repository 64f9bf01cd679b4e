/-
CaiNetwork/Machine.lean

Runs of a machine: a state, and operations that are applied to it one after the other.

`Meets` says that every operation of a run meets a condition in the state it is applied to,
`Always` that every state of the run has a property, the first and the last included, and
`EachStep` that every step relates the state before to the state after.  An invariant that every
step keeps under the condition holds in every state of every run that meets it
(`always_of_invariant`, `eachStep_of_invariant`, `eachStep_iff_meets`).
-/

import Mathlib.Logic.Basic

namespace CaiNetwork.Machine

variable {σ ω : Type} (step : ω → σ → σ)

/-- The state after a run. -/
def run : List ω → σ → σ
  | [], s => s
  | o :: os, s => run os (step o s)

/-- Every operation of the run meets the condition where it is applied. -/
def Meets (cond : ω → σ → Prop) : List ω → σ → Prop
  | [], _ => True
  | o :: os, s => cond o s ∧ Meets cond os (step o s)

/-- Every state of the run has the property. -/
def Always (P : σ → Prop) : List ω → σ → Prop
  | [], s => P s
  | o :: os, s => P s ∧ Always P os (step o s)

/-- Every step of the run relates the state before it to the state after it. -/
def EachStep (R : ω → σ → σ → Prop) : List ω → σ → Prop
  | [], _ => True
  | o :: os, s => R o s (step o s) ∧ EachStep R os (step o s)

variable {step} {cond : ω → σ → Prop} {Inv P : σ → Prop} {os : List ω} {s : σ}

/-- **Invariants of runs.** -/
theorem always_of_invariant (hstep : ∀ o s, Inv s → cond o s → Inv (step o s))
    (hmeets : Meets step cond os s) (hinv : Inv s) : Always step Inv os s := by
  induction os generalizing s with
  | nil => exact hinv
  | cons o os ih => exact ⟨hinv, ih hmeets.2 (hstep o s hinv hmeets.1)⟩

theorem Always.imp (h : Always step P os s) {Q : σ → Prop} (hPQ : ∀ s, P s → Q s) :
    Always step Q os s := by
  induction os generalizing s with
  | nil => exact hPQ s h
  | cons o os ih => exact ⟨hPQ s h.1, ih h.2⟩

/-- **What every step does from a state of the invariant.** -/
theorem eachStep_of_invariant {R : ω → σ → σ → Prop}
    (hstep : ∀ o s, Inv s → cond o s → Inv (step o s))
    (hR : ∀ o s, Inv s → cond o s → R o s (step o s))
    (hmeets : Meets step cond os s) (hinv : Inv s) : EachStep step R os s := by
  induction os generalizing s with
  | nil => exact trivial
  | cons o os ih => exact ⟨hR o s hinv hmeets.1, ih hmeets.2 (hstep o s hinv hmeets.1)⟩

/-- **Exact conditions**: where, from a state of the invariant, a step does what is asked exactly
when it meets the condition, a run does so throughout exactly when it meets the condition
throughout. -/
theorem eachStep_iff_meets {R : ω → σ → σ → Prop} (hstep : ∀ o s, Inv s → cond o s → Inv (step o s))
    (hR : ∀ o s, Inv s → (R o s (step o s) ↔ cond o s)) (hinv : Inv s) :
    EachStep step R os s ↔ Meets step cond os s := by
  induction os generalizing s with
  | nil => exact Iff.rfl
  | cons o os ih =>
    rw [EachStep, Meets, hR o s hinv]
    exact and_congr_right fun hcond => ih (hstep o s hinv hcond)

/-- A condition on the operations alone is met in every state. -/
theorem meets_of_forall {ok : ω → Prop} (h : ∀ o ∈ os, ok o) :
    Meets step (fun o _ => ok o) os s := by
  induction os generalizing s with
  | nil => exact trivial
  | cons o os ih =>
    exact ⟨h o List.mem_cons_self, ih fun o' ho' => h o' (List.mem_cons_of_mem _ ho')⟩

theorem Meets.and {cond' : ω → σ → Prop} (h : Meets step cond os s) (h' : Meets step cond' os s) :
    Meets step (fun o s => cond o s ∧ cond' o s) os s := by
  induction os generalizing s with
  | nil => exact trivial
  | cons o os ih => exact ⟨⟨h.1, h'.1⟩, ih h.2 h'.2⟩

end CaiNetwork.Machine
