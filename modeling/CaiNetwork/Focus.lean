/-
CaiNetwork/Focus.lean

Actions on a part of a state.

`Action.part` runs an action on one component of a record, `Action.first` on the first item of a
list that answers a test, and `Action.firstSome` on one item after the other until one answers.
The rules say what such an action does to the whole: a list moves item
by item along the relation the action keeps on the item it found (`first_moves`), and an item
looked up by a test that the relation respects moves with it (`find_moves`).
-/

import CaiNetwork.Action
import Mathlib.Data.List.Forall2

namespace CaiNetwork.Action

open List

variable {σ τ ε α β : Type}

/-- An action on one component of a record. -/
def part (view : σ → τ) (put : τ → σ → σ) (x : Action τ ε α) : Action σ ε α := fun s =>
  ((x (view s)).1, put (x (view s)).2 s)

/-- An action on the first item of a list that answers the test. -/
def first (p : α → Bool) (missing : ε) (x : Action α ε β) : Action (List α) ε β
  | [] => (.error missing, [])
  | a :: as =>
    if p a then ((x a).1, (x a).2 :: as)
    else ((first p missing x as).1, a :: (first p missing x as).2)

/-- The first answer of an action on the items of a list, from left to right. -/
def firstSome (f : α → Action σ ε (Option β)) : List α → Action σ ε (Option β)
  | [] => pure none
  | a :: as => do
    match ← f a with
    | some b => pure (some b)
    | none => firstSome f as

theorem Within.firstSome {S : σ → σ → Prop} (hrefl : ∀ s, S s s)
    (htrans : ∀ {a b c}, S a b → S b c → S a c) {f : α → Action σ ε (Option β)}
    (hf : ∀ a, Within S (f a)) (as : List α) : Within S (firstSome f as) := by
  induction as with
  | nil => exact .pure hrefl _
  | cons a as ih =>
    refine .bind htrans (hf a) fun found => ?_
    cases found with
    | some b => exact .pure hrefl _
    | none => exact ih

variable {p : α → Bool} {missing : ε} {x : Action α ε β} {R : α → α → Prop} {as bs : List α}

/-- The list moves item by item where the item found does. -/
theorem first_moves (hrefl : ∀ a, R a a) (hx : ∀ a, as.find? p = some a → R a (x a).2) :
    List.Forall₂ R as (first p missing x as).2 := by
  induction as with
  | nil => exact .nil
  | cons a as ih =>
    rw [first]
    by_cases ha : p a = true
    · rw [if_pos ha]
      refine .cons (hx a ?_) (forall₂_same.mpr fun b _ => hrefl b)
      rw [find?_cons_of_pos ha]
    · rw [if_neg ha]
      refine .cons (hrefl a) (ih fun b hb => hx b ?_)
      rwa [find?_cons_of_neg ha]

/-- An action that returns found its item. -/
theorem first_returns {b : β} (h : (first p missing x as).1 = .ok b) :
    ∃ a, as.find? p = some a ∧ (x a).1 = .ok b := by
  induction as with
  | nil => cases h
  | cons a as ih =>
    rw [first] at h
    by_cases ha : p a = true
    · rw [if_pos ha] at h
      exact ⟨a, find?_cons_of_pos ha, h⟩
    · rw [if_neg ha] at h
      obtain ⟨c, hc, hxc⟩ := ih h
      exact ⟨c, by rwa [find?_cons_of_neg ha], hxc⟩

/-- Without an item that answers the test, the action raises and nothing changes. -/
theorem first_missing (h : as.find? p = none) : first p missing x as = (.error missing, as) := by
  induction as with
  | nil => rfl
  | cons a as ih =>
    rw [find?_eq_none] at h
    have ha := h a mem_cons_self
    have has : as.find? p = none := find?_eq_none.mpr fun b hb => h b (mem_cons_of_mem a hb)
    rw [first, if_neg ha, ih has]

/-- Where the item is found, the outcome is the action's on it. -/
theorem first_outcome {a : α} (h : as.find? p = some a) : (first p missing x as).1 = (x a).1 := by
  induction as with
  | nil => cases h
  | cons c as ih =>
    rw [first]
    by_cases hc : p c = true
    · rw [find?_cons_of_pos hc] at h
      cases h
      rw [if_pos hc]
    · rw [find?_cons_of_neg hc] at h
      rw [if_neg hc]
      exact ih h

/-- The item that was found is the one the action left, where the action keeps the test. -/
theorem find_first {a : α} (h : as.find? p = some a) (hkeep : p (x a).2 = true) :
    (first p missing x as).2.find? p = some (x a).2 := by
  induction as with
  | nil => cases h
  | cons c as ih =>
    rw [first]
    by_cases hc : p c = true
    · rw [find?_cons_of_pos hc] at h
      cases h
      rw [if_pos hc]
      exact find?_cons_of_pos hkeep
    · rw [find?_cons_of_neg hc] at h
      rw [if_neg hc]
      show (c :: (first p missing x as).2).find? p = some (x a).2
      rw [find?_cons_of_neg hc]
      exact ih h

/-- An action that does not change the item it finds changes nothing. -/
theorem first_same (hx : ∀ a, as.find? p = some a → (x a).2 = a) :
    (first p missing x as).2 = as := by
  induction as with
  | nil => rfl
  | cons a as ih =>
    rw [first]
    by_cases ha : p a = true
    · rw [if_pos ha, hx a (find?_cons_of_pos ha)]
    · rw [if_neg ha, ih fun b hb => hx b (by rwa [find?_cons_of_neg ha])]

/-- A lookup by a test that the relation respects finds related items. -/
theorem find_moves (hR : ∀ {a b}, R a b → p b = p a) (h : List.Forall₂ R as bs) {a : α}
    (ha : as.find? p = some a) : ∃ b, bs.find? p = some b ∧ R a b := by
  induction h with
  | nil => cases ha
  | @cons c d as bs hcd hrest ih =>
    by_cases hc : p c = true
    · rw [find?_cons_of_pos hc] at ha
      cases ha
      exact ⟨d, find?_cons_of_pos ((hR hcd).trans hc), hcd⟩
    · rw [find?_cons_of_neg hc] at ha
      obtain ⟨b, hb, hab⟩ := ih ha
      exact ⟨b, by rwa [find?_cons_of_neg (by rwa [hR hcd])], hab⟩

/-- Item by item relations compose. -/
theorem moves_trans (htrans : ∀ {a b c}, R a b → R b c → R a c) {cs : List α}
    (hab : List.Forall₂ R as bs) (hbc : List.Forall₂ R bs cs) : List.Forall₂ R as cs := by
  induction hab generalizing cs with
  | nil => exact hbc
  | cons h _ ih =>
    cases hbc with
    | cons h' hrest => exact .cons (htrans h h') (ih hrest)

/-! ### Reading first, and raising before anything is written -/

section Clean

variable {f : β → Action σ ε α} {x : Action σ ε β} {s : σ}

/-- What a sequence does, by the outcome of its first part. -/
theorem bind_outcome {P : Except ε α × σ → Prop}
    (herror : ∀ e, (x s).1 = .error e → P (.error e, (x s).2))
    (hf : ∀ b, (x s).1 = .ok b → P (f b (x s).2)) : P ((x >>= f) s) := by
  rcases bind_cases x f s with ⟨e, t, hxs, hbind⟩ | ⟨b, t, hxs, hbind⟩
  · rw [hbind]
    rw [hxs] at herror
    exact herror e rfl
  · rw [hbind]
    rw [hxs] at hf
    exact hf b rfl

/-- After an action that only reads, the sequence goes on from the same state. -/
theorem after_read {P : Except ε α × σ → Prop} (hx : (x s).2 = s) (herror : ∀ e, P (.error e, s))
    (hf : ∀ b, (x s).1 = .ok b → P (f b s)) : P ((x >>= f) s) :=
  bind_outcome (fun e _ => hx.symm ▸ herror e) fun b hb => hx.symm ▸ hf b hb

/-- After a check of the arguments, too. -/
theorem after_lift {P : Except ε α × σ → Prop} {r : Except ε β} (herror : ∀ e, P (.error e, s))
    (hf : ∀ b, r = .ok b → P (f b s)) : P ((lift r >>= f) s) :=
  after_read rfl herror hf

/-- What a reflexive relation makes of the two. -/
theorem moves_read {R : σ → σ → Prop} (hs : R s s) (hx : (x s).2 = s)
    (hf : ∀ b, (x s).1 = .ok b → R s (f b s).2) : R s ((x >>= f) s).2 :=
  after_read (P := fun o => R s o.2) hx (fun _ => hs) hf

theorem moves_lift {R : σ → σ → Prop} {r : Except ε β} (hs : R s s)
    (hf : ∀ b, r = .ok b → R s (f b s).2) : R s ((lift r >>= f) s).2 :=
  moves_read hs rfl hf

/-- A sequence that returns after a check of the arguments has passed it. -/
theorem lift_returns {r : Except ε β} {a : α} (h : ((lift r >>= f) s).1 = .ok a) :
    ∃ b, r = .ok b ∧ (f b s).1 = .ok a := by
  obtain ⟨b, t, hb, ha⟩ := bind_returns h
  cases hb
  exact ⟨b, rfl, ha⟩

/-- A sequence that returns after reading goes on from the same state. -/
theorem read_returns {a : α} (hx : (x s).2 = s) (h : ((x >>= f) s).1 = .ok a) :
    ∃ b, (x s).1 = .ok b ∧ (f b s).1 = .ok a := by
  obtain ⟨b, t, hb, ha⟩ := bind_returns h
  rw [hb] at hx
  cases hx
  exact ⟨b, congrArg Prod.fst hb, ha⟩

/-- An action that raises has changed nothing. -/
def Clean (x : Action σ ε α) : Prop := ∀ s e, (x s).1 = .error e → (x s).2 = s

theorem Clean.first {y : Action α ε β} (hy : Clean y) : Clean (first p missing y) := by
  intro as e h
  refine first_same fun a ha => hy a e ?_
  rwa [first_outcome ha] at h

end Clean

end CaiNetwork.Action
