/-
CaiNetwork/Tally.lean

Running totals under keys: the data structure behind every `d[k] = d.get(k, 0) + v` loop.

A `Tally κ` is an association list that keeps the insertion order of its keys, as a Python
dictionary does.  A tally built from a list of entries is determined by the entries alone
(`get_ofEntries`, `total_ofEntries`), and each key is stored once (`keys_nodup_ofEntries`).
`tallyOnce` is the loop with a guard: of several items with one identity only the first is counted.
Where identities are distinct the guard is idle (`tallyOnce_of_nodup`).
-/

import Mathlib.Data.List.Basic
import Mathlib.Data.List.Induction
import Mathlib.Data.List.Nodup
import Mathlib.Algebra.Ring.Int.Defs
import Mathlib.Algebra.BigOperators.Group.List.Lemmas
import Mathlib.Algebra.Order.BigOperators.Group.Finset

namespace CaiNetwork

open List

/-- Integer totals under keys, in the insertion order of the keys. -/
abbrev Tally (κ : Type) := List (κ × Int)

namespace Tally

variable {κ : Type} [DecidableEq κ]

/-- `t[k] = t.get(k, 0) + d`. -/
def bump (k : κ) (d : Int) : Tally κ → Tally κ
  | [] => [(k, d)]
  | (k', v) :: t => if k' = k then (k', v + d) :: t else (k', v) :: bump k d t

/-- `t[k] = v`. -/
def set (k : κ) (v : Int) : Tally κ → Tally κ
  | [] => [(k, v)]
  | (k', v') :: t => if k' = k then (k', v) :: t else (k', v') :: set k v t

/-- `t.get(k, 0)`. -/
def get (k : κ) : Tally κ → Int
  | [] => 0
  | (k', v) :: t => if k' = k then v else get k t

/-- `sum(t.values())`. -/
def total (t : Tally κ) : Int := (t.map Prod.snd).sum

/-- The tally of a list of entries, added in order. -/
def ofEntries (es : List (κ × Int)) : Tally κ :=
  es.foldl (fun t e => bump e.1 e.2 t) []

/-! ### One update -/

variable {d : Int}

theorem lookup_cons_eq (k a : κ) {w : Int} (t : Tally κ) :
    List.lookup k ((a, w) :: t) = if k = a then some w else List.lookup k t := by
  rw [lookup_cons]
  by_cases h : k = a
  · simp [h]
  · simp [h, beq_eq_false_iff_ne.mpr h]

theorem lookup_set (k k' : κ) (v : Int) (t : Tally κ) :
    List.lookup k (set k' v t) = if k = k' then some v else List.lookup k t := by
  induction t with
  | nil => rw [set, lookup_cons_eq]
  | cons e t ih =>
    obtain ⟨a, w⟩ := e
    rw [set]
    by_cases ha : a = k'
    · subst ha
      rw [if_pos rfl, lookup_cons_eq, lookup_cons_eq]
      by_cases h : k = a <;> simp [h]
    · rw [if_neg ha, lookup_cons_eq, lookup_cons_eq, ih]
      by_cases h : k = a
      · subst h
        simp [ha]
      · simp [h]

theorem mem_keys_set {k k' : κ} {v : Int} {t : Tally κ} :
    k ∈ (set k' v t).map Prod.fst ↔ k = k' ∨ k ∈ t.map Prod.fst := by
  induction t with
  | nil => simp [set]
  | cons e t ih =>
    obtain ⟨a, w⟩ := e
    rw [set]
    by_cases ha : a = k'
    · subst ha
      simp
    · rw [if_neg ha, map_cons, mem_cons, ih, map_cons, mem_cons]
      exact or_left_comm

theorem nodup_set (k : κ) (v : Int) {t : Tally κ} (h : (t.map Prod.fst).Nodup) :
    ((set k v t).map Prod.fst).Nodup := by
  induction t with
  | nil => exact nodup_singleton k
  | cons e t ih =>
    rw [set]
    rw [map_cons, nodup_cons] at h
    split
    · rename_i he
      rw [map_cons, nodup_cons]
      exact ⟨he ▸ h.1, h.2⟩
    · rename_i he
      rw [map_cons, nodup_cons, mem_keys_set]
      refine ⟨?_, ih h.2⟩
      rintro (heq | hmem)
      · exact he heq
      · exact h.1 hmem

theorem get_bump (k j : κ) (t : Tally κ) :
    get j (bump k d t) = get j t + if k = j then d else 0 := by
  induction t with
  | nil => simp [bump, get]
  | cons e t ih =>
    obtain ⟨k', v⟩ := e
    by_cases hk : k' = k
    · subst hk
      by_cases hj : k' = j <;> simp [bump, get, hj]
    · by_cases hj : k' = j
      · subst hj
        simp [bump, get, hk, Ne.symm hk]
      · simp [bump, get, hk, hj, ih]

theorem total_bump (k : κ) (t : Tally κ) : total (bump k d t) = total t + d := by
  induction t with
  | nil => simp [bump, total]
  | cons e t ih =>
    obtain ⟨k', v⟩ := e
    by_cases hk : k' = k
    · simp [bump, total, hk]; omega
    · simp only [bump, hk, if_false, total, map_cons, sum_cons] at ih ⊢
      omega

theorem bump_eq_set (k : κ) (t : Tally κ) : bump k d t = set k (get k t + d) t := by
  induction t with
  | nil => simp [bump, set, get]
  | cons e t ih =>
    obtain ⟨k', v⟩ := e
    by_cases hk : k' = k
    · simp [bump, set, get, hk]
    · simp [bump, set, get, hk, ih]

theorem mem_keys_bump (k j : κ) (t : Tally κ) :
    j ∈ (bump k d t).map Prod.fst ↔ j = k ∨ j ∈ t.map Prod.fst := by
  rw [bump_eq_set, mem_keys_set]

theorem keys_nodup_bump (k : κ) {t : Tally κ} (h : (t.map Prod.fst).Nodup) :
    ((bump k d t).map Prod.fst).Nodup := by
  rw [bump_eq_set]
  exact nodup_set k _ h

/-! ### Tallies of lists of entries -/

@[simp] theorem ofEntries_nil : ofEntries ([] : List (κ × Int)) = [] := rfl

theorem ofEntries_append (es fs : List (κ × Int)) :
    ofEntries (es ++ fs) = fs.foldl (fun t e => bump e.1 e.2 t) (ofEntries es) := by
  simp [ofEntries, foldl_append]

/-- **The value under a key is the sum of the key's entries.** -/
theorem get_ofEntries (j : κ) (es : List (κ × Int)) :
    get j (ofEntries es) = ((es.filter (fun e => e.1 = j)).map Prod.snd).sum := by
  induction es using List.reverseRecOn with
  | nil => simp [get]
  | append_singleton es e ih =>
    simp only [ofEntries_append, foldl_cons, foldl_nil, get_bump, ih,
      filter_append, map_append, sum_append]
    by_cases he : e.1 = j <;> simp [he]

/-- **The total is the sum of all entries.** -/
theorem total_ofEntries (es : List (κ × Int)) : total (ofEntries es) = (es.map Prod.snd).sum := by
  induction es using List.reverseRecOn with
  | nil => rfl
  | append_singleton es e ih =>
    simp [ofEntries_append, total_bump, ih]

theorem mem_keys_ofEntries (j : κ) (es : List (κ × Int)) :
    j ∈ (ofEntries es).map Prod.fst ↔ j ∈ es.map Prod.fst := by
  induction es using List.reverseRecOn with
  | nil => simp
  | append_singleton es e ih =>
    rw [ofEntries_append]
    simp only [foldl_cons, foldl_nil, mem_keys_bump, ih, map_append,
      map_cons, map_nil, mem_append, mem_singleton]
    tauto

theorem keys_nodup_ofEntries (es : List (κ × Int)) : ((ofEntries es).map Prod.fst).Nodup := by
  induction es using List.reverseRecOn with
  | nil => exact nodup_nil
  | append_singleton es e ih =>
    rw [ofEntries_append]
    exact keys_nodup_bump e.1 ih

theorem get_of_mem {k : κ} {v : Int} {t : Tally κ} (hnd : (t.map Prod.fst).Nodup)
    (h : (k, v) ∈ t) : get k t = v := by
  induction t with
  | nil => simp at h
  | cons e t ih =>
    rw [map_cons, nodup_cons] at hnd
    rcases mem_cons.mp h with rfl | hmem
    · simp [get]
    · have hne : e.1 ≠ k := by
        rintro rfl
        exact hnd.1 (mem_map.mpr ⟨_, hmem, rfl⟩)
      simp [get, hne, ih hnd.2 hmem]

theorem get_of_not_mem {k : κ} {t : Tally κ} (h : k ∉ t.map Prod.fst) : get k t = 0 := by
  induction t with
  | nil => rfl
  | cons e t ih =>
    simp only [map_cons, mem_cons, not_or] at h
    simp [get, Ne.symm h.1, ih h.2]

theorem mem_of_key_mem {k : κ} {t : Tally κ} (hnd : (t.map Prod.fst).Nodup)
    (h : k ∈ t.map Prod.fst) : (k, get k t) ∈ t := by
  obtain ⟨⟨k', v⟩, hmem, rfl⟩ := mem_map.mp h
  rwa [get_of_mem hnd hmem]

/-- The order of the keys does not matter to a lookup. -/
theorem get_perm {k : κ} {t u : Tally κ} (hp : t.Perm u) (hnd : (t.map Prod.fst).Nodup) :
    get k t = get k u := by
  have hnd' : (u.map Prod.fst).Nodup := (hp.map Prod.fst).nodup_iff.mp hnd
  by_cases hk : k ∈ u.map Prod.fst
  · exact get_of_mem hnd (hp.mem_iff.mpr (mem_of_key_mem hnd' hk))
  · have hk' : k ∉ t.map Prod.fst := fun h => hk ((hp.map Prod.fst).mem_iff.mp h)
    rw [get_of_not_mem hk, get_of_not_mem hk']

omit [DecidableEq κ] in
theorem total_perm {t u : Tally κ} (hp : t.Perm u) : total t = total u := (hp.map Prod.snd).sum_eq

theorem set_of_not_mem {k : κ} {v : Int} {t : Tally κ} (h : k ∉ t.map Prod.fst) :
    set k v t = t ++ [(k, v)] := by
  induction t with
  | nil => rfl
  | cons e t ih =>
    simp only [map_cons, mem_cons, not_or] at h
    rw [set, if_neg (Ne.symm h.1), ih h.2, cons_append]

/-- Storing entries of distinct keys one after the other lists them. -/
theorem foldl_set_of_nodup {es t : Tally κ} (hnd : ((t ++ es).map Prod.fst).Nodup) :
    es.foldl (fun t e => set e.1 e.2 t) t = t ++ es := by
  induction es generalizing t with
  | nil => rw [foldl_nil, append_nil]
  | cons e es ih =>
    have hmem : e.1 ∉ t.map Prod.fst := by
      rw [map_append, nodup_append] at hnd
      exact fun h => hnd.2.2 e.1 h e.1 (by simp) rfl
    rw [foldl_cons, set_of_not_mem hmem, ih, append_assoc, singleton_append]
    rwa [append_assoc, singleton_append]

/-- With each key stored once, a property of every stored value that zero has is a property
of every `get`. -/
theorem forall_value_iff {P : Int → Prop} (h0 : P 0) {t : Tally κ}
    (hnd : (t.map Prod.fst).Nodup) : (∀ e ∈ t, P e.2) ↔ ∀ k, P (get k t) := by
  constructor
  · intro h k
    by_cases hk : k ∈ t.map Prod.fst
    · exact h _ (mem_of_key_mem hnd hk)
    · rwa [get_of_not_mem hk]
  · rintro h ⟨k, v⟩ hmem
    simpa [get_of_mem hnd hmem] using h k

theorem mem_of_mem_set {k : κ} {v : Int} {t : Tally κ} {e : κ × Int} (h : e ∈ set k v t) :
    e = (k, v) ∨ e ∈ t := by
  induction t with
  | nil => exact .inl (mem_singleton.mp h)
  | cons a t ih =>
    rw [set] at h
    split at h
    · rename_i ha
      rcases mem_cons.mp h with rfl | hmem
      · exact .inl (by rw [ha])
      · exact .inr (mem_cons_of_mem _ hmem)
    · rcases mem_cons.mp h with rfl | hmem
      · exact .inr mem_cons_self
      · exact (ih hmem).imp_right (mem_cons_of_mem _)

theorem get_filter_ne {k dropped : κ} (hne : k ≠ dropped) (t : Tally κ) :
    get k (t.filter fun e => e.1 ≠ dropped) = get k t := by
  induction t with
  | nil => rfl
  | cons e t ih =>
    rw [filter_cons]
    by_cases hk : e.1 = k
    · simp [get, hk, hne]
    · split
      · simp only [get, if_neg hk]
        exact ih
      · rw [ih]
        simp only [get, if_neg hk]

theorem get_nonneg {t : Tally κ} (h : ∀ e ∈ t, 0 ≤ e.2) (k : κ) : 0 ≤ get k t := by
  induction t with
  | nil => exact le_rfl
  | cons e t ih =>
    rw [get]
    split
    · exact h e mem_cons_self
    · exact ih fun e' he' => h e' (mem_cons_of_mem _ he')

/-- The values of distinct keys are at most the total. -/
theorem sum_get_le_total {t : Tally κ} (hnd : (t.map Prod.fst).Nodup)
    (hnonneg : ∀ e ∈ t, 0 ≤ e.2) {keys : List κ} (hkeys : keys.Nodup) :
    (keys.map fun k => get k t).sum ≤ total t := by
  have hget : ∀ k, 0 ≤ get k t := (forall_value_iff le_rfl hnd).mp hnonneg
  have htotal : total t = ((t.map Prod.fst).map fun k => get k t).sum := by
    rw [total, map_map]
    congr 1
    apply map_congr_left
    intro e he
    exact (get_of_mem hnd he).symm
  rw [htotal, ← sum_toFinset _ hkeys, ← sum_toFinset _ hnd]
  calc keys.toFinset.sum (fun k => get k t)
      ≤ (keys.toFinset ∪ (t.map Prod.fst).toFinset).sum (fun k => get k t) := by
        apply Finset.sum_le_sum_of_subset_of_nonneg Finset.subset_union_left
        intro k _ _
        exact hget k
    _ = (t.map Prod.fst).toFinset.sum (fun k => get k t) := by
        symm
        apply Finset.sum_subset Finset.subset_union_right
        intro k _ hk
        exact get_of_not_mem (fun hmem => hk (mem_toFinset.mpr hmem))

/-! ### Counting each item once -/

variable {α ι : Type} [DecidableEq ι]

/-- One turn of the guarded loop over the identities seen so far and the running tally. -/
def onceStep (ident : α → ι) (entry : α → Option (κ × Int)) (acc : List ι × Tally κ) (x : α) :
    List ι × Tally κ :=
  if ident x ∈ acc.1 then acc
  else
    match entry x with
    | none => (ident x :: acc.1, acc.2)
    | some e => (ident x :: acc.1, bump e.1 e.2 acc.2)

/-- The tally of the entries of a list, where of several items with one identity only the
first counts. -/
def tallyOnce (ident : α → ι) (entry : α → Option (κ × Int)) (xs : List α) : Tally κ :=
  (xs.foldl (onceStep ident entry) ([], [])).2

variable (ident : α → ι) (entry : α → Option (κ × Int))

theorem keys_nodup_tallyOnce (xs : List α) : ((tallyOnce ident entry xs).map Prod.fst).Nodup := by
  refine foldlRecOn xs _ (motive := fun acc : List ι × Tally κ => (acc.2.map Prod.fst).Nodup)
    nodup_nil fun acc h x _ => ?_
  rw [onceStep]
  split
  · exact h
  · rcases entry x with - | e
    · exact h
    · exact keys_nodup_bump e.1 h

/-- The loop sees an item only through its identity and its entry. -/
theorem tallyOnce_map {g : α → α} {xs : List α} (hident : ∀ x ∈ xs, ident (g x) = ident x)
    (hentry : ∀ x ∈ xs, entry (g x) = entry x) :
    tallyOnce ident entry (xs.map g) = tallyOnce ident entry xs := by
  rw [tallyOnce, tallyOnce, foldl_map]
  refine congrArg Prod.snd (foldl_ext _ _ _ fun acc x hx => ?_)
  rw [onceStep, onceStep, hident x hx, hentry x hx]

theorem foldl_onceStep_of_nodup (xs : List α) (acc : List ι × Tally κ)
    (hnd : (xs.map ident).Nodup) (hnew : ∀ x ∈ xs, ident x ∉ acc.1) :
    (xs.foldl (onceStep ident entry) acc).2 =
      (xs.filterMap entry).foldl (fun t e => bump e.1 e.2 t) acc.2 := by
  induction xs generalizing acc with
  | nil => rfl
  | cons x xs ih =>
    rw [map_cons, nodup_cons] at hnd
    have hx : ident x ∉ acc.1 := hnew x mem_cons_self
    have hrest : ∀ y ∈ xs, ident y ∉ ident x :: acc.1 := by
      intro y hy hmem
      rcases mem_cons.mp hmem with heq | hmem
      · exact hnd.1 (heq ▸ mem_map_of_mem hy)
      · exact hnew y (mem_cons_of_mem _ hy) hmem
    rw [foldl_cons, onceStep, if_neg hx]
    rcases he : entry x with - | e
    · rw [filterMap_cons_none he]
      exact ih (ident x :: acc.1, acc.2) hnd.2 hrest
    · rw [filterMap_cons_some he]
      exact ih (ident x :: acc.1, bump e.1 e.2 acc.2) hnd.2 hrest

/-- **With distinct identities the guard is idle.** -/
theorem tallyOnce_of_nodup {xs : List α} (hnd : (xs.map ident).Nodup) :
    tallyOnce ident entry xs = ofEntries (xs.filterMap entry) :=
  foldl_onceStep_of_nodup ident entry xs ([], []) hnd (fun _ _ => not_mem_nil)

end Tally

end CaiNetwork
