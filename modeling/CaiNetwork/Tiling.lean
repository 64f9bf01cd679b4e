/-
CaiNetwork/Tiling.lean

Half-open intervals that follow one another: each starts where the one before it ends, and none is
empty.  A point between the ends lies in exactly one of them (`Tiles.countP_inside`).
-/

import Mathlib.Order.Lattice
import Mathlib.Data.List.Basic

namespace CaiNetwork

variable {α : Type*} [LinearOrder α]

/-- The point lies in the interval. -/
def holdsPoint (x : α) (interval : α × α) : Bool := interval.1 ≤ x && x < interval.2

theorem holdsPoint_iff {x : α} {interval : α × α} :
    holdsPoint x interval = true ↔ interval.1 ≤ x ∧ x < interval.2 := by
  rw [holdsPoint, Bool.and_eq_true, decide_eq_true_eq, decide_eq_true_eq]

/-- The intervals lead from the first point to the second. -/
inductive Tiles : α → List (α × α) → α → Prop
  | nil (a : α) : Tiles a [] a
  | cons {a m b : α} {rest : List (α × α)} :
      a < m → Tiles m rest b → Tiles a ((a, m) :: rest) b

namespace Tiles

variable {a b : α} {intervals : List (α × α)}

theorem nonempty (h : Tiles a intervals b) {interval : α × α} (hmem : interval ∈ intervals) :
    interval.1 < interval.2 := by
  induction h with
  | nil a => cases hmem
  | cons hlt _ ih =>
    rcases List.mem_cons.mp hmem with rfl | hmem
    · exact hlt
    · exact ih hmem

theorem countP_before (h : Tiles a intervals b) {x : α} (hx : x < a) :
    intervals.countP (holdsPoint x) = 0 := by
  induction h with
  | nil a => rfl
  | cons hlt _ ih =>
    rw [List.countP_cons_of_neg, ih (hx.trans hlt)]
    rw [holdsPoint_iff]
    exact fun hin => absurd hx (not_lt.mpr hin.1)

/-- A point between the ends lies in one interval. -/
theorem countP_inside (h : Tiles a intervals b) {x : α} (hx : a ≤ x) (hxb : x < b) :
    intervals.countP (holdsPoint x) = 1 := by
  induction h with
  | nil a => exact absurd hxb (not_lt.mpr hx)
  | @cons a m b rest hlt htail ih =>
    by_cases hfirst : x < m
    · rw [List.countP_cons_of_pos (holdsPoint_iff.mpr ⟨hx, hfirst⟩), htail.countP_before hfirst]
    · rw [List.countP_cons_of_neg, ih (not_lt.mp hfirst) hxb]
      rw [holdsPoint_iff]
      exact fun hin => hfirst hin.2

end Tiles

end CaiNetwork
