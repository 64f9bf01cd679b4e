/-
CaiNetwork/LargestRemainder.lean

Dividing a total by weights with the method of the largest remainders.

Every item gets the whole part of its share, and the units that are left go, one each, to the first
items of a list sorted by remainder (`sum_dealt`, `rem_pos_of_mem_take`), so no amount is a unit or
more away from its share.  Sorting is stable: someone who sorts the items by another order first
serves the same items exactly when in every class of tied items the served ones come first in the
other order too (`served_resorted_iff`, `forall_take_drop_iff`).
-/

import Mathlib.Data.List.Pairwise
import Mathlib.Data.List.Sort
import Mathlib.Algebra.BigOperators.Group.List.Basic
import Mathlib.Algebra.Order.BigOperators.Group.List
import Mathlib.Algebra.Order.Ring.Int
import Mathlib.Tactic.LinearCombination

namespace CaiNetwork.LargestRemainder

open List

variable {α : Type*}

/-! ### Stable sorting -/

section Stable

variable {r s : α → α → Prop} [DecidableRel r] [Std.Total r] [IsTrans α r]

omit [DecidableRel r] [Std.Total r] [IsTrans α r] in
/-- Sorted by `r`, and by `s` where `r` does not decide. -/
def Then (r s : α → α → Prop) (a b : α) : Prop := r a b ∧ (r b a → s a b)

omit [Std.Total r] [IsTrans α r] in
instance [DecidableRel s] : DecidableRel (Then r s) := fun a b =>
  inferInstanceAs (Decidable (r a b ∧ (r b a → s a b)))

instance [Std.Total s] : Std.Total (Then r s) where
  total a b := by
    by_cases hab : r a b
    · by_cases hba : r b a
      · exact (Std.Total.total a b : s a b ∨ s b a).imp (fun h => ⟨hab, fun _ => h⟩)
          fun h => ⟨hba, fun _ => h⟩
      · exact .inl ⟨hab, fun h => absurd h hba⟩
    · exact .inr ⟨(Std.Total.total b a).resolve_right hab, fun h => absurd h hab⟩

instance [IsTrans α s] : IsTrans α (Then r s) where
  trans a b c hab hbc := by
    refine ⟨IsTrans.trans a b c hab.1 hbc.1, fun hca => ?_⟩
    exact IsTrans.trans a b c (hab.2 (IsTrans.trans b c a hbc.1 hca))
      (hbc.2 (IsTrans.trans c a b hca hab.1))

theorem pairwise_orderedInsert_then {a : α} {l : List α} (hl : l.Pairwise (Then r s))
    (ha : ∀ b ∈ l, s a b) : (l.orderedInsert r a).Pairwise (Then r s) := by
  induction l with
  | nil => exact pairwise_singleton _ _
  | cons b l ih =>
    obtain ⟨hb, hl'⟩ := pairwise_cons.mp hl
    by_cases hab : r a b
    · rw [orderedInsert_cons_of_le _ _ hab]
      refine pairwise_cons.mpr ⟨fun c hc => ⟨?_, fun _ => ha c hc⟩, hl⟩
      obtain rfl | hc := mem_cons.mp hc
      · exact hab
      · exact IsTrans.trans a b c hab (hb c hc).1
    · rw [orderedInsert_of_not_le _ _ hab]
      have hba : r b a := (Std.Total.total b a).resolve_right hab
      refine pairwise_cons.mpr ⟨fun c hc => ?_, ih hl' fun c hc => ha c (mem_cons_of_mem b hc)⟩
      obtain rfl | hc := (mem_orderedInsert r).mp hc
      · exact ⟨hba, fun h => absurd h hab⟩
      · exact hb c hc

/-- **A sort keeps the order of the tied items.** -/
theorem pairwise_insertionSort_then {l : List α} (hl : l.Pairwise s) :
    (l.insertionSort r).Pairwise (Then r s) := by
  induction l with
  | nil => exact List.Pairwise.nil
  | cons a l ih =>
    obtain ⟨ha, hl⟩ := pairwise_cons.mp hl
    rw [insertionSort_cons]
    exact pairwise_orderedInsert_then (ih hl) fun b hb => ha b ((mem_insertionSort r).mp hb)

omit [Std.Total r] in
theorem filter_orderedInsert (p : α → Bool) (a : α) {l : List α} (hl : l.Pairwise r) :
    (l.orderedInsert r a).filter p =
      if p a then (l.filter p).orderedInsert r a else l.filter p := by
  induction l with
  | nil => cases hp : p a <;> simp [hp]
  | cons b l ih =>
    obtain ⟨hb, hl⟩ := pairwise_cons.mp hl
    by_cases hab : r a b
    · rw [orderedInsert_cons_of_le _ _ hab]
      -- the new item is before all others, in the filtered list as well
      have hfirst : ∀ c ∈ (b :: l).filter p, r a c := by
        intro c hc
        obtain rfl | hc := mem_cons.mp (mem_filter.mp hc).1
        · exact hab
        · exact IsTrans.trans a b c hab (hb c hc)
      have hinsert : ((b :: l).filter p).orderedInsert r a = a :: (b :: l).filter p := by
        cases hf : (b :: l).filter p with
        | nil => rfl
        | cons c m =>
          exact orderedInsert_cons_of_le _ _ (hfirst c (hf ▸ mem_cons_self))
      rw [hinsert, filter_cons]
    · rw [orderedInsert_of_not_le _ _ hab, filter_cons, ih hl, filter_cons]
      cases hpb : p b
      · rfl
      · cases hpa : p a
        · rfl
        · simp only [↓reduceIte]
          rw [orderedInsert_of_not_le _ _ hab]

/-- Sorting and selecting commute. -/
theorem filter_insertionSort (p : α → Bool) (l : List α) :
    (l.insertionSort r).filter p = (l.filter p).insertionSort r := by
  induction l with
  | nil => rfl
  | cons a l ih =>
    rw [insertionSort_cons, filter_orderedInsert p a (pairwise_insertionSort r l), ih, filter_cons]
    cases p a <;> rfl

end Stable

/-! ### Serving twice -/

section Served

variable {flag : α → Bool}

/-- The marked items come first. -/
abbrev MarkedFirst (flag : α → Bool) (l : List α) : Prop :=
  l.Pairwise fun a b => flag b = true → flag a = true

/-- The marked items come first exactly when the mark of every place is known from their number. -/
theorem markedFirst_iff {l : List α} : MarkedFirst flag l ↔
      ∀ (j : Nat) (a : α), l[j]? = some a → flag a = decide (j < l.countP flag) := by
  induction l with
  | nil => simp
  | cons a l ih =>
    rw [MarkedFirst, pairwise_cons, ← MarkedFirst, ih]
    cases ha : flag a with
    | true =>
      simp only [countP_cons_of_pos ha]
      constructor
      · rintro ⟨-, h⟩ j b hj
        cases j with
        | zero => rw [← Option.some.inj hj, ha]; simp
        | succ j => rw [h j b hj]; simp
      · intro h
        refine ⟨fun _ _ _ => trivial, fun j b hj => ?_⟩
        rw [h (j + 1) b hj]
        simp
    | false =>
      have hneg : ¬ flag a = true := Bool.eq_false_iff.mp ha
      simp only [countP_cons_of_neg hneg]
      constructor
      · rintro ⟨hnone, h⟩ j b hj
        have hcount : l.countP flag = 0 := countP_eq_zero.mpr fun c hc hflag =>
          absurd (hnone c hc hflag) nofun
        cases j with
        | zero => rw [← Option.some.inj hj, ha, hcount]; rfl
        | succ j => rw [h j b hj, hcount]; simp
      · intro h
        have hcount : l.countP flag = 0 := by
          have h0 := h 0 a rfl
          rw [ha] at h0
          exact Nat.eq_zero_of_not_pos (of_decide_eq_false h0.symm)
        refine ⟨fun c hc hflag => absurd hflag (countP_eq_zero.mp hcount c hc), fun j b hj => ?_⟩
        rw [h (j + 1) b hj, hcount]
        simp

/-- A list whose first items are treated in one way and the others in another. -/
theorem mapIdx_lt {β : Type*} (f : α → Bool → β) (l : List α) (k : Nat) :
    l.mapIdx (fun j a => f a (decide (j < k))) =
      (l.take k).map (f · true) ++ (l.drop k).map (f · false) := by
  induction l generalizing k with
  | nil => simp
  | cons a l ih =>
    cases k with
    | zero =>
      have h := ih 0
      simp only [Nat.not_lt_zero, decide_false, take_zero, map_nil, nil_append, drop_zero] at h
      simp [h]
    | succ k =>
      have h := ih k
      simp only [mapIdx_cons, take_succ_cons, drop_succ_cons, map_cons,
        cons_append, Nat.zero_lt_succ, decide_true, Nat.add_lt_add_iff_right]
      rw [h]

/-- Of two items of an ordered list one comes first. -/
theorem either_of_pairwise {s : α → α → Prop} {l : List α} {a b : α} (hl : l.Pairwise s)
    (ha : a ∈ l) (hb : b ∈ l) (hne : a ≠ b) : s a b ∨ s b a := by
  have hsymm : Std.Symm fun a b => s a b ∨ s b a := ⟨fun _ _ => Or.symm⟩
  have hor : l.Pairwise fun a b => s a b ∨ s b a := hl.imp .inl
  exact hor.forall ha hb hne

variable {r q : α → α → Prop} [DecidableRel r] [Std.Total r] [IsTrans α r]
  [DecidableRel q] [Std.Total q] [IsTrans α q]

/-- **Sorting again.**  A list is sorted by `r`, with marked items first.  It is sorted by `q`, and
then by `r` again: the marked items still come first exactly when among tied items no marked one
comes after an unmarked one in the order `q`. -/
theorem served_resorted_iff {l : List α} (hl : l.Pairwise r) (hflag : MarkedFirst flag l) :
    MarkedFirst flag ((l.insertionSort q).insertionSort r) ↔
      ∀ y ∈ l, ∀ x ∈ l, flag y = true → flag x = false → r x y → q y x := by
  have hsorted : ((l.insertionSort q).insertionSort r).Pairwise
      (Then r (Then q fun a b => flag b = true → flag a = true)) :=
    pairwise_insertionSort_then (pairwise_insertionSort_then hflag)
  have hmem : ∀ {a}, a ∈ (l.insertionSort q).insertionSort r ↔ a ∈ l :=
    ((mem_insertionSort r).trans (mem_insertionSort q))
  constructor
  · intro h y hy x hx hyflag hxflag htie
    have hne : x ≠ y := by
      rintro rfl
      exact absurd (hyflag.symm.trans hxflag) nofun
    by_contra hnot
    -- one of the two comes first in the last list: `x` breaks the marks, `y` the order
    have hpair : ((l.insertionSort q).insertionSort r).Pairwise fun a b =>
        (flag b = true → flag a = true) ∧ (r b a → q a b) :=
      (h.and hsorted).imp fun hab => ⟨hab.1, fun hba => (hab.2.2 hba).1⟩
    obtain ⟨hmarks, -⟩ | ⟨-, horder⟩ := either_of_pairwise hpair (hmem.mpr hx) (hmem.mpr hy) hne
    · exact absurd ((hmarks hyflag).symm.trans hxflag) nofun
    · exact hnot (horder htie)
  · intro h
    refine hsorted.imp_of_mem fun {a b} ha hb hab hbflag => ?_
    by_contra haflag
    have haflag : flag a = false := Bool.eq_false_iff.mpr haflag
    -- marked items precede unmarked ones in the list that was sorted first
    have hne : a ≠ b := by
      rintro rfl
      exact absurd (hbflag.symm.trans haflag) nofun
    have hba : r b a := by
      have hpair : l.Pairwise fun c d => r c d ∧ (flag d = true → flag c = true) := hl.and hflag
      obtain ⟨-, hmarks⟩ | ⟨hba, -⟩ := either_of_pairwise hpair (hmem.mp ha) (hmem.mp hb) hne
      · exact absurd ((hmarks hbflag).symm.trans haflag) nofun
      · exact hba
    have hq := h b (hmem.mp hb) a (hmem.mp ha) hbflag haflag hab.1
    exact absurd (((hab.2 hba).2 hq hbflag).symm.trans haflag) nofun

end Served

/-! ### Classes of tied items -/

section Classes

variable {r : α → α → Prop} [DecidableRel r]

/-- Neither of the two is before the other. -/
def tied (r : α → α → Prop) [DecidableRel r] (c a : α) : Bool := r a c ∧ r c a

/-- The one is before the other, and not tied with it. -/
def ahead (r : α → α → Prop) [DecidableRel r] (c a : α) : Bool := r a c ∧ ¬ r c a

variable [Std.Total r] [IsTrans α r]

/-- Where a sorted list is cut, a class of tied items is cut after those that are ahead of it. -/
theorem filter_tied_take_drop {l : List α} (hl : l.Pairwise r) (c : α) (k : Nat) :
    (l.take k).filter (tied r c) = (l.filter (tied r c)).take (k - l.countP (ahead r c)) ∧
      (l.drop k).filter (tied r c) = (l.filter (tied r c)).drop (k - l.countP (ahead r c)) := by
  induction l generalizing k with
  | nil => simp
  | cons a l ih =>
    obtain ⟨ha, hl⟩ := pairwise_cons.mp hl
    by_cases hca : r c a
    · -- nothing after an item that is tied or behind is ahead of the class
      have hcount : (a :: l).countP (ahead r c) = 0 := by
        refine countP_eq_zero.mpr fun b hb hahead => ?_
        have hnot : ¬ r c b := (of_decide_eq_true hahead).2
        obtain rfl | hb := mem_cons.mp hb
        · exact hnot hca
        · exact hnot (IsTrans.trans c a b hca (ha b hb))
      rw [hcount, Nat.sub_zero]
      rw [countP_cons, Nat.add_eq_zero_iff] at hcount
      by_cases hac : r a c
      · have htied : tied r c a = true := decide_eq_true ⟨hac, hca⟩
        cases k with
        | zero => simp
        | succ k =>
          obtain ⟨htake, hdrop⟩ := ih hl k
          rw [hcount.1, Nat.sub_zero] at htake hdrop
          simp only [take_succ_cons, drop_succ_cons, filter_cons_of_pos htied]
          exact ⟨congrArg _ htake, hdrop⟩
      · have hnone : (a :: l).filter (tied r c) = [] := by
          refine filter_eq_nil_iff.mpr fun b hb htied => ?_
          have hbc : r b c := (of_decide_eq_true htied).1
          obtain rfl | hb := mem_cons.mp hb
          · exact hac hbc
          · exact hac (IsTrans.trans a b c (ha b hb) hbc)
        have hsub : ∀ {m : List α}, m.Sublist (a :: l) → m.filter (tied r c) = [] := fun hm =>
          sublist_nil.mp (hnone ▸ hm.filter _)
        rw [hsub (take_sublist k _), hsub (drop_sublist k _), hnone]
        simp
    · have hac : r a c := (Std.Total.total a c).resolve_right hca
      have hahead : ahead r c a = true := decide_eq_true ⟨hac, hca⟩
      have htied : ¬ tied r c a = true := fun h => hca (of_decide_eq_true h).2
      rw [countP_cons_of_pos hahead, filter_cons_of_neg htied]
      cases k with
      | zero => simp [filter_cons_of_neg htied]
      | succ k =>
        rw [take_succ_cons, drop_succ_cons, filter_cons_of_neg htied, Nat.add_sub_add_right]
        exact ih hl k

/-- A class of tied items stands in a sorted list as in the list itself. -/
theorem filter_tied_insertionSort (l : List α) (c : α) :
    (l.insertionSort r).filter (tied r c) = l.filter (tied r c) := by
  rw [filter_insertionSort]
  refine List.Pairwise.insertionSort_eq (pairwise_of_forall_mem_list fun a ha b hb => ?_)
  have hac := (of_decide_eq_true (mem_filter.mp ha).2).1
  have hcb := (of_decide_eq_true (mem_filter.mp hb).2).2
  exact IsTrans.trans a c b hac hcb

/-- **Who is served, class by class.**  The first items of the sorted list against the others, as
far as they are tied: in each class they are the first ones of the list, as many as the items
ahead of the class leave. -/
theorem forall_take_drop_iff {q : α → α → Prop} (l : List α) {k : Nat} :
    (∀ y ∈ (l.insertionSort r).take k, ∀ x ∈ (l.insertionSort r).drop k, r x y → q y x) ↔
      ∀ c ∈ l, ∀ y ∈ (l.filter (tied r c)).take (k - l.countP (ahead r c)),
        ∀ x ∈ (l.filter (tied r c)).drop (k - l.countP (ahead r c)), q y x := by
  have hsorted := pairwise_insertionSort r l
  have hcut : ∀ c, ((l.insertionSort r).take k).filter (tied r c) =
        (l.filter (tied r c)).take (k - l.countP (ahead r c)) ∧
      ((l.insertionSort r).drop k).filter (tied r c) =
        (l.filter (tied r c)).drop (k - l.countP (ahead r c)) := by
    intro c
    have h := filter_tied_take_drop hsorted c k
    rwa [filter_tied_insertionSort, (perm_insertionSort r l).countP_eq] at h
  constructor
  · intro h c _ y hy x hx
    rw [← (hcut c).1] at hy
    rw [← (hcut c).2] at hx
    obtain ⟨hy, hyc⟩ := mem_filter.mp hy
    obtain ⟨hx, hxc⟩ := mem_filter.mp hx
    exact h y hy x hx (IsTrans.trans x c y (of_decide_eq_true hxc).1 (of_decide_eq_true hyc).2)
  · intro h y hy x hx hxy
    have hyx : r y x := by
      rw [← take_append_drop k (l.insertionSort r)] at hsorted
      exact (pairwise_append.mp hsorted).2.2 y hy x hx
    have hmem : y ∈ l := (mem_insertionSort r).mp (mem_of_mem_take hy)
    have hself : r y y := IsTrans.trans y x y hyx hxy
    refine h y hmem y ?_ x ?_
    · rw [← (hcut y).1]
      exact mem_filter.mpr ⟨hy, decide_eq_true ⟨hself, hself⟩⟩
    · rw [← (hcut y).2]
      exact mem_filter.mpr ⟨hx, decide_eq_true ⟨hxy, hyx⟩⟩

end Classes

/-! ### Whole parts and remainders -/

section Shares

variable (weight : α → Int) (total whole : Int)

/-- The whole part of the share of an item. -/
def share (a : α) : Int := total * weight a / whole

/-- What the whole part leaves of the share, in parts of the whole. -/
def rem (a : α) : Int := total * weight a % whole

/-- The units that the whole parts leave. -/
def left (l : List α) : Int := total - (l.map (share weight total whole)).sum

variable {weight total whole} {l : List α}

theorem rem_nonneg (hwhole : 0 < whole) (a : α) : 0 ≤ rem weight total whole a :=
  Int.emod_nonneg _ hwhole.ne'

theorem rem_lt (hwhole : 0 < whole) (a : α) : rem weight total whole a < whole :=
  Int.emod_lt_of_pos _ hwhole

theorem whole_mul_share (a : α) :
    whole * share weight total whole a + rem weight total whole a = total * weight a :=
  Int.mul_ediv_add_emod _ _

theorem whole_mul_sum_share (l : List α) :
    whole * (l.map (share weight total whole)).sum + (l.map (rem weight total whole)).sum =
      total * (l.map weight).sum := by
  induction l with
  | nil => simp
  | cons a l ih =>
    simp only [map_cons, sum_cons]
    linear_combination ih + @whole_mul_share _ weight total whole a

/-- The remainders make up the units that are left. -/
theorem sum_rem (hsum : (l.map weight).sum = whole) :
    (l.map (rem weight total whole)).sum = whole * left weight total whole l := by
  have h : whole * (l.map (share weight total whole)).sum + (l.map (rem weight total whole)).sum =
      total * (l.map weight).sum := whole_mul_sum_share l
  rw [hsum] at h
  rw [left]
  linear_combination h

theorem sum_rem_nonneg (hwhole : 0 < whole) (l : List α) :
    0 ≤ (l.map (rem weight total whole)).sum :=
  sum_nonneg fun x hx => by
    obtain ⟨a, -, rfl⟩ := mem_map.mp hx
    exact rem_nonneg hwhole a

theorem sum_rem_add_length_le (hwhole : 0 < whole) (l : List α) :
    (l.map (rem weight total whole)).sum + l.length ≤ whole * l.length := by
  induction l with
  | nil => simp
  | cons a l ih =>
    have ha : rem weight total whole a < whole := rem_lt hwhole a
    simp only [map_cons, sum_cons, length_cons, Nat.cast_add, Nat.cast_one, mul_add, mul_one]
    omega

/-- **The units go around once**: there are fewer than items. -/
theorem left_bounds (hwhole : 0 < whole) (hsum : (l.map weight).sum = whole) (hl : l ≠ []) :
    0 ≤ left weight total whole l ∧ left weight total whole l < l.length := by
  have hrem : (l.map (rem weight total whole)).sum = whole * left weight total whole l :=
    sum_rem hsum
  have hnonneg : 0 ≤ (l.map (rem weight total whole)).sum := sum_rem_nonneg hwhole l
  have hle : (l.map (rem weight total whole)).sum + l.length ≤ whole * l.length :=
    sum_rem_add_length_le hwhole l
  have hlen : 0 < (l.length : Int) := Int.natCast_pos.mpr (length_pos_of_ne_nil hl)
  rw [hrem] at hnonneg hle
  refine ⟨nonneg_of_mul_nonneg_right hnonneg hwhole, ?_⟩
  have hlt : whole * left weight total whole l < whole * l.length := by omega
  exact lt_of_mul_lt_mul_left hlt hwhole.le

/-- **Only items with a remainder get a unit**, in a list sorted by remainder. -/
theorem rem_pos_of_mem_take (hwhole : 0 < whole) (hsum : (l.map weight).sum = whole) {k : Nat}
    (hk : (k : Int) = left weight total whole l) (hlen : k ≤ l.length)
    (hsorted : l.Pairwise fun a b => rem weight total whole b ≤ rem weight total whole a)
    {y : α} (hy : y ∈ l.take k) : 0 < rem weight total whole y := by
  have hrem : (l.map (rem weight total whole)).sum = whole * left weight total whole l :=
    sum_rem hsum
  have htake : ((l.take k).map (rem weight total whole)).sum + (l.take k).length ≤
    whole * (l.take k).length := sum_rem_add_length_le hwhole _
  rw [← take_append_drop k l, map_append, sum_append, take_append_drop, ← hk] at hrem
  have hlength : (l.take k).length = k := length_take_of_le hlen
  have hpos : 0 < k := hlength ▸ length_pos_of_mem hy
  rw [hlength] at htake
  -- the first items alone do not have the remainders that make up their units
  obtain ⟨x, hx, hxpos⟩ : ∃ x ∈ l.drop k, 0 < rem weight total whole x := by
    by_contra hnone
    have hzero : ((l.drop k).map (rem weight total whole)).sum = 0 := sum_eq_zero fun v hv => by
        obtain ⟨x, hx, rfl⟩ := mem_map.mp hv
        exact le_antisymm (not_lt.mp fun h => hnone ⟨x, hx, h⟩) (rem_nonneg hwhole x)
    omega
  rw [← take_append_drop k l] at hsorted
  exact lt_of_lt_of_le hxpos ((pairwise_append.mp hsorted).2.2 y hy x hx)

/-- The whole part, and one more where there is a remainder, are less than a unit away from the
share. -/
theorem share_close (hwhole : 0 < whole) (a : α) {extra : Bool}
    (hextra : extra = true → 0 < rem weight total whole a) :
    |(share weight total whole a + (if extra then 1 else 0)) * whole - total * weight a| <
      whole := by
  have hdiv := @whole_mul_share _ weight total whole a
  have hnonneg : 0 ≤ rem weight total whole a := rem_nonneg hwhole a
  have hlt : rem weight total whole a < whole := rem_lt hwhole a
  rw [abs_lt, ← hdiv, mul_comm whole, add_mul]
  cases extra with
  | false => simp only [Bool.false_eq_true, if_false]; omega
  | true =>
    have hpos := hextra rfl
    simp only [if_true]
    omega

theorem left_perm {m : List α} (h : l.Perm m) :
    left weight total whole l = left weight total whole m := by
  rw [left, left, (h.map _).sum_eq]

/-- **The whole parts and the units make up the total.** -/
theorem sum_dealt {k : Nat} (hk : (k : Int) = left weight total whole l) (hlen : k ≤ l.length) :
    ((l.take k).map fun a => share weight total whole a + 1).sum +
      ((l.drop k).map (share weight total whole)).sum = total := by
  have hsum : ((l.take k).map (share weight total whole)).sum +
      ((l.drop k).map (share weight total whole)).sum = (l.map (share weight total whole)).sum := by
    rw [← sum_append, ← map_append, take_append_drop]
  rw [left] at hk
  rw [sum_map_add, map_const', sum_replicate, length_take_of_le hlen, nsmul_one]
  omega

/-- With a remainder, one more than the whole part is the share rounded up. -/
theorem share_add_one (hwhole : 0 < whole) {a : α} (hpos : 0 < rem weight total whole a) :
    share weight total whole a + 1 = (total * weight a + whole - 1) / whole := by
  have hdiv := @whole_mul_share _ weight total whole a
  have hlt : rem weight total whole a < whole := rem_lt hwhole a
  rw [eq_comm, Int.ediv_eq_iff_of_pos hwhole, add_mul, mul_comm _ whole]
  omega

/-- Of two items the one with the larger weight has the larger whole part, or the larger
remainder. -/
theorem share_lt (hwhole : 0 < whole) (htotal : 0 < total) {a b : α} (hlt : weight a < weight b)
    (hrem : rem weight total whole b ≤ rem weight total whole a) :
    share weight total whole a < share weight total whole b := by
  have hmul : total * weight a < total * weight b := mul_lt_mul_of_pos_left hlt htotal
  refine lt_of_le_of_ne (Int.ediv_le_ediv hwhole hmul.le) fun heq => ?_
  have ha := @whole_mul_share _ weight total whole a
  have hb := @whole_mul_share _ weight total whole b
  rw [heq] at ha
  omega

end Shares

end CaiNetwork.LargestRemainder
