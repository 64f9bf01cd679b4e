/-
CaiNetwork/Action.lean

Actions: computations that read and write a state and may raise.

What a program wrote before it raised stays written, so an action is a function from a state to
an outcome *and* a state (`Action σ ε α`).  `Within R x` says that the action moves every state
along `R`, whatever its outcome; for a reflexive and transitive relation there is a rule per way
of building actions (`Within.bind`, `Within.ite`, `Within.each`).
-/

import Mathlib.Logic.Basic

namespace CaiNetwork

/-- A computation on a state, which may raise; the state after it is known in both cases. -/
def Action (σ ε α : Type) : Type := σ → Except ε α × σ

namespace Action

variable {σ ε α β : Type}

instance : Monad (Action σ ε) where
  pure a := fun s => (.ok a, s)
  bind x f := fun s =>
    match x s with
    | (.ok a, t) => f a t
    | (.error e, t) => (.error e, t)

instance : MonadStateOf σ (Action σ ε) where
  get := fun s => (.ok s, s)
  set t := fun _ => (.ok ⟨⟩, t)
  modifyGet f := fun s => (.ok (f s).1, (f s).2)

instance : MonadExceptOf ε (Action σ ε) where
  throw e := fun s => (.error e, s)
  tryCatch x h := fun s =>
    match x s with
    | (.error e, t) => h e t
    | (.ok a, t) => (.ok a, t)

/-- A computation that does not touch the state. -/
def lift (x : Except ε α) : Action σ ε α := fun s => (x, s)

/-- The same action on every item of a list, from left to right. -/
def each (f : α → Action σ ε β) : List α → Action σ ε (List β)
  | [] => pure []
  | a :: as => do
    let b ← f a
    let bs ← each f as
    return b :: bs

/-! ### Outcomes -/

variable {x : Action σ ε α} {f : α → Action σ ε β} {s t : σ}

@[simp] theorem lift_apply (r : Except ε α) : (lift r : Action σ ε α) s = (r, s) := rfl

@[simp] theorem throw_apply (e : ε) : (throw e : Action σ ε α) s = (.error e, s) := rfl

@[simp] theorem get_apply : (get : Action σ ε σ) s = (.ok s, s) := rfl

@[simp] theorem set_apply : (set t : Action σ ε PUnit) s = (.ok ⟨⟩, t) := rfl

@[simp] theorem modify_apply (g : σ → σ) : (modify g : Action σ ε PUnit) s = (.ok ⟨⟩, g s) := rfl

theorem bind_of_ok {a : α} (h : x s = (.ok a, t)) : (x >>= f) s = f a t := by
  show (match x s with | (.ok a, t) => f a t | (.error e, t) => (.error e, t)) = f a t
  rw [h]

theorem bind_of_error {e : ε} (h : x s = (.error e, t)) : (x >>= f) s = (.error e, t) := by
  show (match x s with | (.ok a, t) => f a t | (.error e, t) => (.error e, t)) = (.error e, t)
  rw [h]

/-- **Inversion of a sequence**: it raised in its first part, or the first part returned and the
second went on from there. -/
theorem bind_cases (x : Action σ ε α) (f : α → Action σ ε β) (s : σ) :
    (∃ e t, x s = (.error e, t) ∧ (x >>= f) s = (.error e, t)) ∨
      ∃ a t, x s = (.ok a, t) ∧ (x >>= f) s = f a t := by
  rcases hx : x s with ⟨e | a, t⟩
  · exact .inl ⟨e, t, rfl, bind_of_error hx⟩
  · exact .inr ⟨a, t, rfl, bind_of_ok hx⟩

/-- A sequence that ends with a result leaves the state of its first part. -/
theorem bind_pure_state {g : α → β} : ((x >>= fun a => pure (g a)) s).2 = (x s).2 := by
  rcases bind_cases x (fun a => pure (g a)) s with ⟨e, t, hx, hbind⟩ | ⟨a, t, hx, hbind⟩
  · rw [hbind, hx]
  · rw [hbind, hx]
    rfl

/-- A sequence that returns went through its first part. -/
theorem bind_returns {b : β} (h : ((x >>= f) s).1 = .ok b) :
    ∃ a t, x s = (.ok a, t) ∧ (f a t).1 = .ok b := by
  rcases bind_cases x f s with ⟨e, t, -, hbind⟩ | ⟨a, t, hx, hbind⟩
  · rw [hbind] at h
    cases h
  · rw [hbind] at h
    exact ⟨a, t, hx, h⟩

/-! ### Moving within a relation -/

/-- The action moves every state along the relation, whatever its outcome. -/
def Within (R : σ → σ → Prop) (x : Action σ ε α) : Prop := ∀ s, R s (x s).2

section Rules

variable {R : σ → σ → Prop}

/-- An action that changes no state moves along every reflexive relation. -/
theorem Within.of_same (hrefl : ∀ s, R s s) (h : ∀ s, (x s).2 = s) : Within R x := by
  intro s
  rw [h s]
  exact hrefl s

theorem Within.pure (hrefl : ∀ s, R s s) (a : α) : Within R (pure a : Action σ ε α) :=
  .of_same hrefl fun _ => rfl

theorem Within.lift (hrefl : ∀ s, R s s) (r : Except ε α) : Within R (lift r : Action σ ε α) :=
  .of_same hrefl fun _ => rfl

theorem Within.throw (hrefl : ∀ s, R s s) (e : ε) : Within R (throw e : Action σ ε α) :=
  .of_same hrefl fun _ => rfl

theorem Within.modify {g : σ → σ} (h : ∀ s, R s (g s)) : Within R (modify g : Action σ ε PUnit) := h

theorem Within.bind (htrans : ∀ {a b c}, R a b → R b c → R a c) (hx : Within R x)
    (hf : ∀ a, Within R (f a)) : Within R (x >>= f) := by
  intro s
  have hfirst := hx s
  rcases bind_cases x f s with ⟨e, t, hxs, hbind⟩ | ⟨a, t, hxs, hbind⟩
  · rw [hbind]
    rwa [hxs] at hfirst
  · rw [hbind]
    rw [hxs] at hfirst
    exact htrans hfirst (hf a t)

/-- A sequence that starts by reading the state may use what it read. -/
theorem Within.get_bind {g : σ → Action σ ε α} (h : ∀ s, R s ((g s) s).2) :
    Within R (get >>= g) := h

/-- A sequence that starts by writing the state goes on from what it wrote. -/
theorem Within.set_bind {g : PUnit → Action σ ε α} (htrans : ∀ {a b c}, R a b → R b c → R a c)
    (ht : R s t) (hg : Within R (g ⟨⟩)) : R s ((set t >>= g) s).2 := htrans ht (hg t)

theorem Within.ite {p : Prop} [Decidable p] {y : Action σ ε α} (hx : p → Within R x)
    (hy : ¬p → Within R y) : Within R (if p then x else y) := by
  split
  · exact hx ‹_›
  · exact hy ‹_›

theorem Within.each (hrefl : ∀ s, R s s) (htrans : ∀ {a b c}, R a b → R b c → R a c)
    (hf : ∀ a, Within R (f a)) (as : List α) : Within R (each f as) := by
  induction as with
  | nil => exact .pure hrefl _
  | cons a as ih =>
    refine .bind htrans (hf a) fun b => ?_
    exact .bind htrans ih fun bs => .pure hrefl _

theorem Within.imp {S : σ → σ → Prop} (hx : Within R x) (h : ∀ {s t}, R s t → S s t) :
    Within S x := fun s => h (hx s)

end Rules

/-- The action leaves this part of the state alone. -/
abbrev Keeps {γ : Type} (part : σ → γ) (x : Action σ ε α) : Prop :=
  Within (fun s t => part t = part s) x

end Action

end CaiNetwork
