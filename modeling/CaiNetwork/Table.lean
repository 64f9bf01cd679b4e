/-
CaiNetwork/Table.lean

Tables: lists of records that are looked up by a key.

A lookup takes the first record of a key (`Table.find`), a change rewrites the first record of a
key and keeps every other in its place (`Table.update`), and a write replaces the first record of
its key or adds one (`Table.upsert`).  While the keys are distinct the order of the records does not
matter (`find_eq_some`).  A program that looks the keys up in a dictionary of positions rewrites the
last record of a key instead (`updateLast`, `upsertAll_eq`).
-/

import Mathlib.Data.List.Sort
import Mathlib.Data.List.Nodup
import Mathlib.Data.List.Induction
import CaiNetwork.Json

namespace CaiNetwork.Table

open List

variable {α κ : Type} [DecidableEq κ] (key : α → κ)

/-- The first record of a key. -/
def find (k : κ) (l : List α) : Option α := l.find? (fun a => key a = k)

/-- The first record of a key is rewritten. -/
def update (k : κ) (f : α → α) : List α → List α
  | [] => []
  | a :: l => if key a = k then f a :: l else a :: update k f l

variable {key} {k : κ} {f : α → α} {l : List α} {a b : α}

/-! ### Looking up -/

theorem mem_of_find (h : find key k l = some a) : a ∈ l := mem_of_find?_eq_some h

theorem key_of_find (h : find key k l = some a) : key a = k := by
  have hp := find?_some h
  simpa using hp

theorem find_eq_none : find key k l = none ↔ k ∉ l.map key := by
  rw [find, find?_eq_none, mem_map]
  simp

/-- Among distinct keys the first record of a key is the only one. -/
theorem find_eq_some (hnd : (l.map key).Nodup) : find key k l = some a ↔ a ∈ l ∧ key a = k := by
  constructor
  · intro h
    exact ⟨mem_of_find h, key_of_find h⟩
  · rintro ⟨hmem, hkey⟩
    rcases hfind : find key k l with - | b
    · rw [find_eq_none] at hfind
      exact absurd (hkey ▸ mem_map_of_mem hmem) hfind
    · have hsame : b = a := by
        apply inj_on_of_nodup_map hnd (mem_of_find hfind) hmem
        rw [key_of_find hfind, hkey]
      rw [hsame]

theorem find_perm {m : List α} (hp : l.Perm m) (hnd : (l.map key).Nodup) :
    find key k l = find key k m := by
  have hnd' : (m.map key).Nodup := (hp.map key).nodup_iff.mp hnd
  ext a
  rw [find_eq_some hnd, find_eq_some hnd', hp.mem_iff]

/-! ### Rewriting -/

theorem map_key_update (hf : ∀ a, key a = k → key (f a) = k) :
    (update key k f l).map key = l.map key := by
  induction l with
  | nil => rfl
  | cons a l ih =>
    rw [update]
    split
    · rename_i ha
      rw [map_cons, map_cons, hf a ha, ha]
    · rw [map_cons, map_cons, ih]

theorem find_update (hf : ∀ a, key a = k → key (f a) = k) (j : κ) : find key j (update key k f l) =
      if j = k then (find key k l).map f else find key j l := by
  induction l with
  | nil => simp [find, update]
  | cons a l ih =>
    rw [update]
    by_cases ha : key a = k
    · rw [if_pos ha]
      by_cases hj : j = k
      · subst hj
        simp [find, hf a ha, ha]
      · have hja : key a ≠ j := fun h => hj (h.symm.trans ha)
        have hjf : key (f a) ≠ j := fun h => hj (h.symm.trans (hf a ha))
        simp [find, hja, hjf, hj]
    · rw [if_neg ha]
      by_cases hj : key a = j
      · subst hj
        simp [find, ha]
      · have hcons : find key j (a :: update key k f l) = find key j (update key k f l) := by
          simp [find, hj]
        have hcons' : find key j (a :: l) = find key j l := by simp [find, hj]
        have hcons'' : find key k (a :: l) = find key k l := by simp [find, ha]
        rw [hcons, ih, hcons', hcons'']

/-- The records after a change: the old ones, and the first of the key in its new form. -/
theorem mem_update (h : b ∈ update key k f l) : b ∈ l ∨ ∃ a, find key k l = some a ∧ b = f a := by
  induction l with
  | nil => cases h
  | cons a l ih =>
    rw [update] at h
    split at h
    · rename_i ha
      rcases mem_cons.mp h with rfl | hl
      · exact .inr ⟨a, by simp [find, ha], rfl⟩
      · exact .inl (mem_cons_of_mem _ hl)
    · rename_i ha
      rcases mem_cons.mp h with rfl | hl
      · exact .inl mem_cons_self
      · rcases ih hl with hold | ⟨a', hfind, rfl⟩
        · exact .inl (mem_cons_of_mem _ hold)
        · exact .inr ⟨a', by simpa [find, ha] using hfind, rfl⟩

/-- A view of the records that the change does not alter is the same before and after. -/
theorem filterMap_update {β : Type} {view : α → Option β}
    (h : ∀ a, find key k l = some a → view (f a) = view a) :
    (update key k f l).filterMap view = l.filterMap view := by
  induction l with
  | nil => rfl
  | cons a l ih =>
    rw [update]
    by_cases ha : key a = k
    · have hview : view (f a) = view a := h a (by simp [find, ha])
      rw [if_pos ha, filterMap_cons, filterMap_cons, hview]
    · have hrest : (update key k f l).filterMap view = l.filterMap view := by
        apply ih
        intro b hb
        apply h b
        simpa [find, ha] using hb
      rw [if_neg ha, filterMap_cons, filterMap_cons, hrest]

/-! ### Writing a record -/

variable (key) in
/-- The record takes the place of the first one of its key, or the end of the table. -/
def upsert (a : α) (l : List α) : List α :=
  if key a ∈ l.map key then update key (key a) (fun _ => a) l else l ++ [a]

theorem nodup_upsert (h : (l.map key).Nodup) : ((upsert key a l).map key).Nodup := by
  unfold upsert
  split
  · rwa [map_key_update fun b _ => rfl]
  · rename_i hnew
    rw [map_append, nodup_append]
    refine ⟨h, nodup_singleton _, ?_⟩
    rintro b hb c hc rfl
    rw [map_singleton, mem_singleton] at hc
    exact hnew (hc ▸ hb)

theorem find_upsert (a : α) (l : List α) (j : κ) :
    find key j (upsert key a l) = if j = key a then some a else find key j l := by
  unfold upsert
  split
  · rename_i hmem
    rw [find_update fun b _ => rfl]
    by_cases hj : j = key a
    · obtain ⟨b, hb⟩ := Option.ne_none_iff_exists'.mp (mt find_eq_none.mp (not_not.mpr hmem))
      rw [if_pos hj, if_pos hj, hb, Option.map_some]
    · rw [if_neg hj, if_neg hj]
  · rename_i hnew
    rw [find, find?_append]
    by_cases hj : j = key a
    · subst hj
      have hnone : l.find? (fun b => key b = key a) = none := find_eq_none.mpr hnew
      rw [if_pos rfl, hnone]
      simp
    · have hlast : [a].find? (fun b => key b = j) = none := by simp [Ne.symm hj]
      rw [if_neg hj, hlast, Option.or_none, find]

theorem mem_upsert (h : b ∈ upsert key a l) : b ∈ l ∨ b = a := by
  unfold upsert at h
  split at h
  · rcases mem_update h with hold | ⟨-, -, rfl⟩
    · exact .inl hold
    · exact .inr rfl
  · simpa using h

/-- A view that the written record has in common with the one it replaces, and that leaves a new
record out, is the same before and after. -/
theorem filterMap_upsert {β : Type} {view : α → Option β}
    (hold : ∀ b, find key (key a) l = some b → view a = view b)
    (hnew : find key (key a) l = none → view a = none) :
    (upsert key a l).filterMap view = l.filterMap view := by
  unfold upsert
  split
  · exact filterMap_update hold
  · rename_i hmem
    rw [filterMap_append, filterMap_cons, hnew (find_eq_none.mpr hmem)]
    simp

/-! ### Dictionaries -/

section Dictionary

variable [BEq κ] [LawfulBEq κ] {β : Type} {d : List (κ × β)} {v : β} {j : κ}

theorem lookup_eq_find : d.lookup k = (find Prod.fst k d).map Prod.snd := by
  induction d with
  | nil => rfl
  | cons entry d ih =>
    rw [find, lookup_cons]
    by_cases h : entry.1 = k
    · simp [h]
    · rw [beq_false_of_ne (Ne.symm h), ih, find, find?_cons_of_neg (by simpa using h)]

theorem mem_of_lookup (h : d.lookup k = some v) : (k, v) ∈ d := by
  rw [lookup_eq_find, Option.map_eq_some_iff] at h
  obtain ⟨entry, hfind, rfl⟩ := h
  rw [← key_of_find hfind]
  exact mem_of_find hfind

theorem lookup_filter_ne :
    (d.filter fun entry => entry.1 ≠ k).lookup j = if j = k then none else d.lookup j := by
  rw [lookup_eq_find, lookup_eq_find, find, find?_filter]
  split
  next h => rw [h, find?_eq_none.mpr (by simp), Option.map_none]
  next h =>
    congr 2
    funext entry
    by_cases hj : entry.1 = j
    · simp [hj, h]
    · simp [hj]

end Dictionary

/-! ### Last records -/

section Last

variable {α κ : Type} [DecidableEq κ] (key : α → κ)

/-- The last record of a key is rewritten. -/
def updateLast (k : κ) (f : α → α) : List α → List α
  | [] => []
  | a :: l => if key a = k ∧ k ∉ l.map key then f a :: l else a :: updateLast k f l

/-- The last record of a key. -/
def findLast (k : κ) (l : List α) : Option α := find key k l.reverse

/-- The last record of every key is rewritten. -/
def rewriteLast (g : α → α) : List α → List α
  | [] => []
  | a :: l => (if key a ∈ l.map key then a else g a) :: rewriteLast g l

variable {key} {k : κ} {l m : List α} {a : α} {g h : α → α}

theorem findLast_append_singleton :
    findLast key k (l ++ [a]) = if key a = k then some a else findLast key k l := by
  by_cases ha : key a = k
  · simp [findLast, find, ha]
  · simp [findLast, find, ha]

theorem findLast_cons : findLast key k (a :: l) =
    (findLast key k l).or (if key a = k then some a else none) := by
  rw [findLast, findLast, find, find, reverse_cons, find?_append]
  congr 1
  by_cases ha : key a = k
  · simp [ha]
  · simp [ha]

theorem findLast_eq_none : findLast key k l = none ↔ k ∉ l.map key := by
  rw [findLast, find_eq_none]
  simp

theorem key_of_findLast (h : findLast key k l = some a) : key a = k := key_of_find h

theorem mem_of_findLast (h : findLast key k l = some a) : a ∈ l := mem_reverse.mp (mem_of_find h)

theorem key_getD_findLast (items : List α) (a : α) :
    key ((findLast key (key a) items).getD a) = key a := by
  cases hfind : findLast key (key a) items with
  | none => rfl
  | some b => exact key_of_findLast hfind

theorem map_key_rewriteLast (hg : ∀ a, key (g a) = key a) :
    (rewriteLast key g l).map key = l.map key := by
  induction l with
  | nil => rfl
  | cons a l ih =>
    rw [rewriteLast, map_cons, map_cons, ih]
    split
    · rfl
    · rw [hg a]

theorem rewriteLast_congr (hgh : ∀ a, findLast key (key a) l = some a → g a = h a) :
    rewriteLast key g l = rewriteLast key h l := by
  induction l with
  | nil => rfl
  | cons a l ih =>
    rw [rewriteLast, rewriteLast, ih fun b hb => hgh b (by rw [findLast_cons, hb]; rfl)]
    split
    · rfl
    · rename_i hlast
      rw [hgh a]
      rw [findLast_cons, findLast_eq_none.mpr hlast]
      simp

/-- Rewriting the last record of a key is rewriting that of every key, with one more change. -/
theorem updateLast_rewriteLast (hg : ∀ a, key (g a) = key a) (hk : k ∈ l.map key)
    (hm : k ∉ m.map key) : updateLast key k (fun _ => a) (rewriteLast key g l ++ m) =
      rewriteLast key (fun b => if key b = k then a else g b) l ++ m := by
  induction l with
  | nil => exact absurd hk not_mem_nil
  | cons b l ih =>
    have hkeys : k ∈ (rewriteLast key g l ++ m).map key ↔ k ∈ l.map key := by
      rw [map_append, mem_append, map_key_rewriteLast hg]
      exact or_iff_left hm
    have hhead : key (if key b ∈ l.map key then b else g b) = key b := by
      split
      · rfl
      · exact hg b
    rw [rewriteLast, rewriteLast, cons_append, cons_append, updateLast, hhead]
    by_cases hb : key b = k
    · by_cases hl : k ∈ l.map key
      · rw [if_neg fun hlast => hlast.2 (hkeys.mpr hl), ih hl, hb, if_pos hl, if_pos hl]
      · rw [if_pos ⟨hb, fun h => hl (hkeys.mp h)⟩, hb, if_neg hl, if_pos rfl]
        congr 2
        refine rewriteLast_congr fun c hc => (if_neg fun hck => hl ?_).symm
        exact mem_map.mpr ⟨c, mem_of_findLast hc, hck⟩
    · have hl : k ∈ l.map key := (mem_cons.mp hk).resolve_left (Ne.symm hb)
      rw [if_neg fun hlast => hb hlast.1, ih hl, if_neg hb]

variable (key) in
/-- Records take the place of the last record of their key, where the table has had one, and are
appended otherwise. -/
def upsertAll (items l : List α) : List α :=
  items.foldl (fun current item =>
    if key item ∈ l.map key then updateLast key (key item) (fun _ => item) current
    else current ++ [item]) l

/-- **What a table holds after many records**: the last ones of the known keys in the places of the
known records, and those of new keys behind them. -/
theorem upsertAll_eq (items l : List α) : upsertAll key items l =
      rewriteLast key (fun a => (findLast key (key a) items).getD a) l ++
        items.filter fun item => key item ∉ l.map key := by
  induction items using List.reverseRecOn with
  | nil =>
    have hid : rewriteLast key (fun a => (findLast key (key a) []).getD a) l = l := by
      induction l with
      | nil => rfl
      | cons a l ih =>
        rw [rewriteLast, ih]
        split <;> rfl
    rw [hid]
    simp [upsertAll]
  | append_singleton items item ih =>
    have hstep : upsertAll key (items ++ [item]) l =
        if key item ∈ l.map key then updateLast key (key item) (fun _ => item)
          (upsertAll key items l)
        else upsertAll key items l ++ [item] := by
      rw [upsertAll, foldl_append]
      rfl
    rw [hstep, ih]
    by_cases hitem : key item ∈ l.map key
    · rw [if_pos hitem, updateLast_rewriteLast (key_getD_findLast items) hitem]
      · rw [filter_append, filter_cons_of_neg (by simpa using hitem), filter_nil, append_nil]
        congr 1
        refine rewriteLast_congr fun a _ => ?_
        rw [findLast_append_singleton]
        by_cases ha : key a = key item
        · rw [if_pos ha, if_pos ha.symm]; rfl
        · rw [if_neg ha, if_neg (Ne.symm ha)]
      · intro h
        obtain ⟨b, hb, hkb⟩ := mem_map.mp h
        have hnew := (mem_filter.mp hb).2
        rw [hkb] at hnew
        exact absurd hitem (of_decide_eq_true hnew)
    · rw [if_neg hitem, filter_append, filter_cons_of_pos (by simpa using hitem),
        filter_nil, append_assoc]
      congr 1
      refine rewriteLast_congr fun a ha => ?_
      have hne : ¬ key item = key a := fun h =>
        hitem (h ▸ mem_map_of_mem (mem_of_findLast ha))
      rw [findLast_append_singleton, if_neg hne]

/-! ### Records of one owner -/

variable {ω : Type} [DecidableEq ω] {owner : α → ω} {s : ω}

/-- The records of every other owner stay where no last record of a key changes, except within one
owner. -/
theorem filter_rewriteLast_of_owner {o : ω} (ho : o ≠ s)
    (hl : ∀ a, findLast key (key a) l = some a → g a = a ∨ (owner a = s ∧ owner (g a) = s)) :
    (rewriteLast key g l).filter (fun a => owner a = o) = l.filter fun a => owner a = o := by
  induction l with
  | nil => rfl
  | cons a l ih =>
    have hrest := ih fun b hb => hl b (by rw [findLast_cons, hb]; rfl)
    rw [rewriteLast, filter_cons, filter_cons, hrest]
    split
    · rfl
    · rename_i hlast
      obtain hsame | ⟨ha, hga⟩ := hl a (by rw [findLast_cons, findLast_eq_none.mpr hlast]; simp)
      · rw [hsame]
      · rw [ha, hga]
        simp [Ne.symm ho]

theorem filter_key_rewriteLast (hg : ∀ a, key (g a) = key a) (k : κ) :
    (rewriteLast key g l).filter (fun a => key a = k) =
      rewriteLast key g (l.filter fun a => key a = k) := by
  induction l with
  | nil => rfl
  | cons a l ih =>
    have hhead : key (if key a ∈ l.map key then a else g a) = key a := by
      split
      · rfl
      · exact hg a
    by_cases ha : key a = k
    · have hkeys : key a ∈ (l.filter fun b => key b = k).map key ↔ key a ∈ l.map key := by
        simp only [mem_map, mem_filter, decide_eq_true_eq]
        constructor
        · rintro ⟨b, ⟨hb, -⟩, hkb⟩
          exact ⟨b, hb, hkb⟩
        · rintro ⟨b, hb, hkb⟩
          exact ⟨b, ⟨hb, hkb.trans ha⟩, hkb⟩
      have hkeep : (a :: l).filter (fun b => key b = k) = a :: l.filter fun b => key b = k := by
        rw [filter_cons, if_pos (by simpa using ha)]
      rw [hkeep, rewriteLast, rewriteLast, filter_cons]
      subst ha
      simp only [hkeys, hhead, ih, decide_true, if_true]
    · have hdrop : (a :: l).filter (fun b => key b = k) = l.filter fun b => key b = k := by
        rw [filter_cons, if_neg (by simpa using ha)]
      rw [hdrop, rewriteLast, filter_cons]
      simp only [hhead, ih, ha, decide_false, Bool.false_eq_true, if_false]

theorem rewriteLast_of_key (hm : ∀ b ∈ l, key b = k) (ha : key a = k) :
    rewriteLast key g (l ++ [a]) = l ++ [g a] := by
  induction l with
  | nil => rfl
  | cons b l ih =>
    have hb : key b ∈ (l ++ [a]).map key := by
      rw [hm b mem_cons_self, ← ha]
      exact mem_map_of_mem (mem_append_right _ mem_cons_self)
    rw [cons_append, rewriteLast, if_pos hb, ih fun c hc => hm c (mem_cons_of_mem b hc)]
    rfl

theorem filter_key_of_findLast (h : findLast key k l = some a) :
    ∃ m, l.filter (fun b => key b = k) = m ++ [a] ∧ ∀ b ∈ m, key b = k := by
  obtain ⟨hkey, after, before, hsplit, hnone⟩ := find?_eq_some_iff_append.mp h
  refine ⟨before.reverse.filter fun b => key b = k, ?_,
    fun b hb => of_decide_eq_true (mem_filter.mp hb).2⟩
  have hafter : after.reverse.filter (fun b => key b = k) = [] :=
    filter_eq_nil_iff.mpr fun b hb => by simpa using hnone b (mem_reverse.mp hb)
  rw [← reverse_reverse l, hsplit, reverse_append, reverse_cons, filter_append, hafter, append_nil,
    filter_append, filter_cons_of_pos (by simpa using hkey), filter_nil]

/-- The records of another owner stay in their places. -/
theorem filter_upsertAll_of_owner {items : List α} {o : ω} (ho : o ≠ s)
    (hknown : ∀ a, findLast key (key a) l = some a → (findLast key (key a) items).getD a = a ∨
      (owner a = s ∧ owner ((findLast key (key a) items).getD a) = s))
    (hunknown : ∀ item ∈ items, key item ∉ l.map key → owner item = s) :
    (upsertAll key items l).filter (fun a => owner a = o) = l.filter fun a => owner a = o := by
  have hnew : (items.filter fun item => key item ∉ l.map key).filter (fun b => owner b = o) =
      [] := by
    refine filter_eq_nil_iff.mpr fun b hb hob => ?_
    obtain ⟨hb, hkb⟩ := mem_filter.mp hb
    exact ho ((of_decide_eq_true hob).symm.trans (hunknown b hb (of_decide_eq_true hkb)))
  rw [upsertAll_eq, filter_append, hnew, append_nil, filter_rewriteLast_of_owner ho hknown]

/-- **When a table keeps the records of the other owners**: no last record of a key is changed,
except within the one owner, and the new keys are records of that owner. -/
theorem upsertAll_owner_iff (items l : List α) (s : ω) :
    (∀ o, o ≠ s → ((upsertAll key items l).filter fun a => owner a = o).Perm
        (l.filter fun a => owner a = o)) ↔
      (∀ a, findLast key (key a) l = some a → (findLast key (key a) items).getD a = a ∨
          (owner a = s ∧ owner ((findLast key (key a) items).getD a) = s)) ∧
        ∀ item ∈ items, key item ∉ l.map key → owner item = s := by
  constructor
  · intro hperm
    constructor
    · intro a ha
      -- among the records of its key only this one is changed
      obtain ⟨m, hfilter, hm⟩ := filter_key_of_findLast ha
      have hnew : (items.filter fun item => key item ∉ l.map key).filter (fun b => key b = key a) =
          [] := by
        refine filter_eq_nil_iff.mpr fun b hb hkb => ?_
        have hunknown := of_decide_eq_true (mem_filter.mp hb).2
        rw [of_decide_eq_true hkb] at hunknown
        exact hunknown (mem_map_of_mem (mem_of_findLast ha))
      have hlast : ∀ o, o ≠ s →
          ([(findLast key (key a) items).getD a].filter fun b => owner b = o).Perm
            ([a].filter fun b => owner b = o) := by
        intro o ho
        have h := (hperm o ho).filter fun b => key b = key a
        rw [filter_comm, filter_comm (l := l), upsertAll_eq, filter_append,
          filter_key_rewriteLast (key_getD_findLast items), hfilter, rewriteLast_of_key hm rfl,
            hnew, append_nil,
          filter_append, filter_append] at h
        exact (perm_append_left_iff _).mp h
      by_cases howner : owner a = s
      · by_cases howner' : owner ((findLast key (key a) items).getD a) = s
        · exact .inr ⟨howner, howner'⟩
        · have h := (hlast _ howner').length_eq
          rw [filter_cons_of_pos (by simp), filter_cons_of_neg
            (by simpa [howner] using Ne.symm howner')] at h
          exact absurd h nofun
      · have h := hlast _ howner
        have hmem : a ∈ [a].filter fun b => owner b = owner a :=
          mem_filter.mpr ⟨mem_singleton_self a, decide_eq_true rfl⟩
        exact .inl (mem_singleton.mp (mem_filter.mp (h.mem_iff.mpr hmem)).1).symm
    · intro item hitem hunknown
      by_contra howner
      have hmem : item ∈ upsertAll key items l := by
        rw [upsertAll_eq]
        exact mem_append_right _ (mem_filter.mpr ⟨hitem, decide_eq_true hunknown⟩)
      have h := (hperm _ howner).mem_iff.mp (mem_filter.mpr ⟨hmem, decide_eq_true rfl⟩)
      exact hunknown (mem_map_of_mem (mem_filter.mp h).1)
  · rintro ⟨hknown, hunknown⟩ o ho
    rw [filter_upsertAll_of_owner ho hknown hunknown]

end Last

/-! ### Order of time -/

section Time

variable (time : α → String)

/-- The order of a sort by time with `reverse=True`. -/
def newer (a b : α) : Prop := Json.stringLe (time b) (time a) = true

instance : DecidableRel (newer time) := fun a b =>
  inferInstanceAs (Decidable (Json.stringLe (time b) (time a) = true))

instance : Std.Total (newer time) := ⟨fun _ _ => Json.textLe_total _ _⟩

instance : IsTrans α (newer time) := ⟨fun _ _ _ hab hbc => Json.textLe_trans hbc hab⟩

/-- `sort(key=..., reverse=True)`: the latest first, equal times in their old order. -/
def newestFirst (l : List α) : List α := l.insertionSort (newer time)

theorem perm_newestFirst (l : List α) : (newestFirst time l).Perm l := perm_insertionSort _ l

@[simp] theorem mem_newestFirst : a ∈ newestFirst time l ↔ a ∈ l :=
  (perm_newestFirst time l).mem_iff

omit [DecidableEq κ] in
theorem nodup_newestFirst : ((newestFirst time l).map key).Nodup ↔ (l.map key).Nodup :=
  ((perm_newestFirst time l).map key).nodup_iff

theorem find_newestFirst (hnd : (l.map key).Nodup) :
    find key k (newestFirst time l) = find key k l :=
  (find_perm (perm_newestFirst time l).symm hnd).symm

end Time

end CaiNetwork.Table
