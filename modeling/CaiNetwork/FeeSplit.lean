/-
CaiNetwork/FeeSplit.lean

What a committee member gets of a fee (`split_amount_by_validator_bond` in `validators.py`).

The bond of a validator is what the input gives its ids (`bondOf`); the split is a division by
largest remainders over these bonds (`mem_countedBonds`).  The units left over are handed out by
id (`paid_amount`), and the bonds are sorted by id first, which makes the order of the input
irrelevant (`splitAmountByValidatorBond_perm`).
-/

import CaiNetwork.Committee
import CaiNetwork.LargestRemainder
import CaiNetwork.Table

namespace CaiNetwork

open List

open LargestRemainder

section Bonds

variable (host : Host) (bonds : Tally String) (ids : List String)

/-- The ids that a split is for: those of the dictionary where no others are given. -/
def candidateIds : List String := if ids = [] then bonds.map Prod.fst else ids

/-- The bond that an id has in the dictionary, itself or in its normal form. -/
def bondAt (raw : String) : Int :=
  if normalizeValidatorId host raw = "" then 0
  else max 0 ((bonds.lookup raw).getD (Tally.get (normalizeValidatorId host raw) bonds))

/-- The bond of a validator: that of all ids with this normal form. -/
def bondOf (validatorId : String) : Int :=
  (((candidateIds bonds ids).filter (normalizeValidatorId host · = validatorId)).map
    (bondAt host bonds)).sum

def totalBond : Int := ((candidateIds bonds ids).map (bondAt host bonds)).sum

/-- The bonds that the loop adds up. -/
def countedBonds : Tally String := Tally.ofEntries (bondEntries host bonds ids)

end Bonds

/-- What a validator gets; a share of nothing is not listed. -/
def shareOf (shares : List ValidatorFeeShare) (validatorId : String) : Int :=
  ((Table.find ValidatorFeeShare.validatorId validatorId shares).map
    ValidatorFeeShare.amountAtomic).getD 0

/-- A split is exact and in proportion to the bonds: every share is rounded down or up, and a
larger bond never gets less.  Nobody without a bond has a share. -/
structure FairSplit (amount : Int) (bond : String → Int) (total : Int)
    (shares : List ValidatorFeeShare) : Prop where
  sum : (shares.map ValidatorFeeShare.amountAtomic).sum = amount
  bonded : ∀ share ∈ shares, 0 < bond share.validatorId
  round : ∀ v, 0 < bond v → shareOf shares v = amount * bond v / total ∨
    shareOf shares v = (amount * bond v + total - 1) / total
  mono : ∀ v w, 0 < bond v → bond v < bond w → shareOf shares v ≤ shareOf shares w

/-! ### Orders -/

instance : Std.Total entryLe := ⟨fun _ _ => Json.textLe_total _ _⟩

instance : IsTrans (String × Int) entryLe := ⟨fun _ _ _ => Json.textLe_trans⟩

instance : Std.Total remainderBefore where
  total a b := by
    obtain hlt | heq | hgt := lt_trichotomy a.2 b.2
    · exact .inr (.inl hlt)
    · exact (Json.textLe_total _ _).imp (fun h => .inr ⟨heq, h⟩) fun h => .inr ⟨heq.symm, h⟩
    · exact .inl (.inl hgt)

instance : IsTrans (ValidatorFeeShare × Int) remainderBefore where
  trans a b c := by
    rintro (hab | ⟨hab, hids⟩) (hbc | ⟨hbc, hids'⟩)
    · exact .inl (hbc.trans hab)
    · exact .inl (hbc ▸ hab)
    · exact .inl (hab ▸ hbc)
    · exact .inr ⟨hab.trans hbc, Json.textLe_trans hids hids'⟩

/-! ### Serving -/

theorem sum_filter_pos {α : Type} {f : α → Int} {l : List α} (h : ∀ a ∈ l, 0 ≤ f a) :
    ((l.filter fun a => 0 < f a).map f).sum = (l.map f).sum := by
  induction l with
  | nil => rfl
  | cons a l ih =>
    have hrest := ih fun b hb => h b (mem_cons_of_mem _ hb)
    rw [filter_cons]
    split
    · rw [map_cons, sum_cons, hrest, map_cons, sum_cons]
    · rename_i hnot
      rw [decide_eq_true_iff, not_lt] at hnot
      rw [hrest, map_cons, sum_cons, le_antisymm hnot (h a mem_cons_self), zero_add]

/-- An amount and the bonds it is divided over. -/
structure FeeDivision where
  amount : Int
  bonded : Tally String
  amount_pos : 0 < amount
  total_pos : 0 < Tally.total bonded
  nodup : (bonded.map Prod.fst).Nodup
  nonneg : ∀ e ∈ bonded, 0 ≤ e.2

namespace FeeDivision

variable (d : FeeDivision)

/-- The whole parts with their remainders, in the order of the ids. -/
def parts : List (ValidatorFeeShare × Int) := (d.bonded.insertionSort entryLe).map fun e =>
  (⟨e.1, e.2, d.amount * e.2 / Tally.total d.bonded⟩, d.amount * e.2 % Tally.total d.bonded)

/-- The parts as they are served. -/
def queue : List (ValidatorFeeShare × Int) := d.parts.insertionSort remainderBefore

/-- The units that the whole parts leave. -/
def units : Nat := (d.amount - (d.parts.map fun s => s.1.amountAtomic).sum).toNat

/-- A part with its unit, if it gets one. -/
def paid (s : ValidatorFeeShare × Int) : ValidatorFeeShare :=
  if s.1.validatorId ∈ (d.queue.take d.units).map fun s => s.1.validatorId
  then { s.1 with amountAtomic := s.1.amountAtomic + 1 } else s.1

/-- The shares of the split: nothing is not listed. -/
def shares : List ValidatorFeeShare :=
  (d.parts.map d.paid).filter fun share => share.amountAtomic > 0

/-- The whole part by the bond as the weight. -/
abbrev share : ValidatorFeeShare × Int → Int :=
  LargestRemainder.share (fun s => s.1.bondedAtomic) d.amount (Tally.total d.bonded)

/-- The remainder by the bond as the weight. -/
abbrev rem : ValidatorFeeShare × Int → Int :=
  LargestRemainder.rem (fun s => s.1.bondedAtomic) d.amount (Tally.total d.bonded)

variable {d} {s t : ValidatorFeeShare × Int}

theorem queue_perm : d.queue.Perm d.parts := perm_insertionSort _ _

theorem of_mem_parts (h : s ∈ d.parts) :
    s.1.amountAtomic = d.share s ∧ s.2 = d.rem s ∧ 0 ≤ s.1.bondedAtomic := by
  obtain ⟨e, he, rfl⟩ := mem_map.mp h
  exact ⟨rfl, rfl, d.nonneg e ((mem_insertionSort entryLe).mp he)⟩

theorem sum_bonds : (d.queue.map fun s => s.1.bondedAtomic).sum = Tally.total d.bonded := by
  rw [(queue_perm.map _).sum_eq, parts, map_map]
  exact ((perm_insertionSort entryLe d.bonded).map Prod.snd).sum_eq

theorem pairwise_queue : d.queue.Pairwise fun a b => d.rem b ≤ d.rem a := by
  refine (pairwise_insertionSort remainderBefore _).imp_of_mem fun {a b} ha hb hab => ?_
  rw [← (of_mem_parts (queue_perm.mem_iff.mp ha)).2.1,
    ← (of_mem_parts (queue_perm.mem_iff.mp hb)).2.1]
  exact hab.elim le_of_lt fun h => h.1.ge

theorem units_bounds : (d.units : Int) =
      left (fun s => s.1.bondedAtomic) d.amount (Tally.total d.bonded) d.queue ∧
    d.units ≤ d.queue.length := by
  have hne : d.queue ≠ [] := by
    intro hnil
    have hsum := d.sum_bonds
    rw [hnil] at hsum
    exact d.total_pos.ne hsum
  have hbounds := @left_bounds _ _ d.amount _ _ d.total_pos sum_bonds hne
  have hshares : d.parts.map (fun s => s.1.amountAtomic) = d.parts.map d.share :=
    map_congr_left fun s hs => (of_mem_parts hs).1
  rw [left_perm queue_perm, left] at hbounds ⊢
  rw [units, hshares, share]
  omega

theorem nodup_ids : (d.parts.map fun s => s.1.validatorId).Nodup := by
  rw [parts, map_map]
  exact ((perm_insertionSort entryLe d.bonded).map Prod.fst).nodup_iff.mpr d.nodup

/-- **A part gets a unit exactly when it is served.** -/
theorem paid_amount : (∀ s ∈ d.queue.take d.units, (d.paid s).amountAtomic = d.share s + 1) ∧
    ∀ s ∈ d.queue.drop d.units, (d.paid s).amountAtomic = d.share s := by
  have hids : (d.queue.map fun s => s.1.validatorId).Nodup :=
    (queue_perm.map _).nodup_iff.mpr nodup_ids
  rw [← take_append_drop d.units d.queue, map_append] at hids
  constructor
  · intro s hs
    rw [← (of_mem_parts (queue_perm.mem_iff.mp (mem_of_mem_take hs))).1, paid,
      if_pos (mem_map_of_mem hs)]
  · intro s hs
    rw [← (of_mem_parts (queue_perm.mem_iff.mp (mem_of_mem_drop hs))).1, paid,
      if_neg fun h => disjoint_of_nodup_append hids h (mem_map_of_mem hs)]

theorem sum_paid : (d.parts.map fun s => (d.paid s).amountAtomic).sum = d.amount := by
  obtain ⟨hserved, hothers⟩ := d.paid_amount
  rw [← (queue_perm.map _).sum_eq]
  conv_lhs => rw [← take_append_drop d.units d.queue]
  rw [map_append, sum_append, map_congr_left hserved, map_congr_left hothers]
  exact sum_dealt units_bounds.1 units_bounds.2

theorem mem_cut (hs : s ∈ d.parts) : s ∈ d.queue.take d.units ∨ s ∈ d.queue.drop d.units := by
  rw [← mem_append, take_append_drop]
  exact queue_perm.mem_iff.mpr hs

theorem paid_round (hs : s ∈ d.parts) :
    (d.paid s).amountAtomic = d.amount * s.1.bondedAtomic / Tally.total d.bonded ∨
      (d.paid s).amountAtomic =
        (d.amount * s.1.bondedAtomic + Tally.total d.bonded - 1) / Tally.total d.bonded := by
  obtain hs | hs := mem_cut hs
  · have hpos := rem_pos_of_mem_take d.total_pos sum_bonds units_bounds.1 units_bounds.2
      pairwise_queue hs
    exact .inr ((paid_amount.1 s hs).trans (share_add_one d.total_pos hpos))
  · exact .inl (paid_amount.2 s hs)

theorem paid_nonneg (hs : s ∈ d.parts) : 0 ≤ (d.paid s).amountAtomic := by
  have hshare : 0 ≤ d.share s :=
    Int.ediv_nonneg (mul_nonneg d.amount_pos.le (of_mem_parts hs).2.2) d.total_pos.le
  obtain hs | hs := mem_cut hs
  · rw [paid_amount.1 s hs]
    omega
  · rw [paid_amount.2 s hs]
    exact hshare

/-- **A larger bond never gets less.** -/
theorem paid_mono (hs : s ∈ d.parts) (ht : t ∈ d.parts)
    (hlt : s.1.bondedAtomic < t.1.bondedAtomic) :
    (d.paid s).amountAtomic ≤ (d.paid t).amountAtomic := by
  obtain ⟨hserved, hothers⟩ := d.paid_amount
  have hle : d.share s ≤ d.share t :=
    Int.ediv_le_ediv d.total_pos (mul_le_mul_of_nonneg_left hlt.le d.amount_pos.le)
  obtain hs | hs := mem_cut hs <;> obtain ht | ht := mem_cut ht
  · rw [hserved s hs, hserved t ht]
    omega
  · -- the smaller bond alone is served, before the other: its whole part is smaller
    have hsorted := d.pairwise_queue
    rw [← take_append_drop d.units d.queue] at hsorted
    have hrem := (pairwise_append.mp hsorted).2.2 s hs t ht
    have hshare : d.share s < d.share t := share_lt d.total_pos d.amount_pos hlt hrem
    rw [hserved s hs, hothers t ht]
    omega
  · rw [hothers s hs, hserved t ht]
    omega
  · rw [hothers s hs, hothers t ht]
    exact hle

/-! ### The list of shares -/

theorem paid_validatorId : (d.paid s).validatorId = s.1.validatorId := by
  rw [paid]
  split <;> rfl

theorem shareOf_shares (hs : s ∈ d.parts) :
    shareOf d.shares s.1.validatorId = (d.paid s).amountAtomic := by
  have hids : ((d.parts.map d.paid).map ValidatorFeeShare.validatorId).Nodup := by
    rw [map_map]
    exact map_congr_left (fun s _ => paid_validatorId (s := s)) ▸ d.nodup_ids
  have hmem := mem_map_of_mem (f := d.paid) hs
  rcases hfind : Table.find ValidatorFeeShare.validatorId s.1.validatorId d.shares with - | share
  · -- a share that is not listed is nothing
    have hnone : d.paid s ∉ d.shares := fun h =>
      Table.find_eq_none.mp hfind (paid_validatorId (d := d) ▸ mem_map_of_mem h)
    have hle : ¬ (d.paid s).amountAtomic > 0 := fun h =>
      hnone (mem_filter.mpr ⟨hmem, decide_eq_true h⟩)
    rw [shareOf, hfind]
    exact le_antisymm (paid_nonneg hs) (not_lt.mp hle)
  · have hshare : share = d.paid s := inj_on_of_nodup_map hids
      (mem_of_mem_filter (Table.mem_of_find hfind)) hmem
      ((Table.key_of_find hfind).trans paid_validatorId.symm)
    rw [shareOf, hfind, hshare]
    rfl

theorem fair {bond : String → Int} (hbonded : ∀ e, e ∈ d.bonded ↔ 0 < e.2 ∧ e.2 = bond e.1) :
    FairSplit d.amount bond (Tally.total d.bonded) d.shares := by
  -- every bond has its part
  have hpart : ∀ v, 0 < bond v → ∃ s ∈ d.parts, s.1.validatorId = v ∧ s.1.bondedAtomic = bond v :=
    fun v hv => ⟨_, mem_map_of_mem ((mem_insertionSort entryLe).mpr
      ((hbonded (v, bond v)).mpr ⟨hv, rfl⟩)), rfl, rfl⟩
  refine ⟨?_, ?_, ?_, ?_⟩
  · have hnonneg : ∀ share ∈ d.parts.map d.paid, 0 ≤ share.amountAtomic := by
      intro share hshare
      obtain ⟨s, hs, rfl⟩ := mem_map.mp hshare
      exact paid_nonneg hs
    rw [shares, sum_filter_pos hnonneg, map_map]
    exact sum_paid
  · intro share hshare
    obtain ⟨s, hs, rfl⟩ := mem_map.mp (mem_of_mem_filter hshare)
    obtain ⟨e, he, rfl⟩ := mem_map.mp hs
    obtain ⟨hpos, hbond⟩ := (hbonded e).mp ((mem_insertionSort entryLe).mp he)
    rw [paid_validatorId, ← hbond]
    exact hpos
  · intro v hv
    obtain ⟨s, hs, hid, hbond⟩ := hpart v hv
    rw [← hid, shareOf_shares hs, hid, ← hbond]
    exact paid_round hs
  · intro v w hv hlt
    obtain ⟨s, hs, hid, hbond⟩ := hpart v hv
    obtain ⟨t, ht, hid', hbond'⟩ := hpart w (hv.trans hlt)
    rw [← hid, ← hid', shareOf_shares hs, shareOf_shares ht]
    exact paid_mono hs ht (hbond.trans_lt (hlt.trans_eq hbond'.symm))

end FeeDivision

/-! ### The split -/

variable {host : Host} {amount : Int} {bonds bonds' : Tally String} {ids ids' : List String}

theorem bondAt_nonneg (raw : String) : 0 ≤ bondAt host bonds raw := by
  rw [bondAt]
  split
  · exact le_rfl
  · exact le_max_left _ _

/-- The loop leaves out what adds nothing. -/
theorem bondEntries_eq : bondEntries host bonds ids = ((candidateIds bonds ids).map fun raw =>
    (normalizeValidatorId host raw, bondAt host bonds raw)).filter fun e => 0 < e.2 := by
  rw [bondEntries, ← candidateIds, ← filterMap_eq_filter, filterMap_map]
  refine filterMap_congr fun raw _ => ?_
  by_cases hid : normalizeValidatorId host raw = ""
  · simp [Option.guard, bondAt, hid]
  · by_cases hle : max 0 ((bonds.lookup raw).getD
        (Tally.get (normalizeValidatorId host raw) bonds)) ≤ 0
    · simp only [Option.guard, bondAt, hid, hle, Function.comp, if_false, if_true, or_true,
        not_lt.mpr hle, decide_false, Bool.false_eq_true]
    · simp only [Option.guard, bondAt, hid, hle, Function.comp, if_false, if_true, or_self,
        not_le.mp hle, decide_true]

theorem sum_bondEntries (p : String → Bool) :
    (((bondEntries host bonds ids).filter (fun e => p e.1)).map Prod.snd).sum =
      (((candidateIds bonds ids).filter (fun raw => p (normalizeValidatorId host raw))).map
        (bondAt host bonds)).sum := by
  rw [bondEntries_eq, filter_comm, sum_filter_pos, filter_map, map_map]
  · rfl
  · intro e he
    obtain ⟨raw, -, rfl⟩ := mem_map.mp (mem_of_mem_filter he)
    exact bondAt_nonneg raw

theorem total_countedBonds :
    Tally.total (countedBonds host bonds ids) = totalBond host bonds ids := by
  have hsum := @sum_bondEntries host bonds ids fun _ => true
  rwa [filter_true, filter_true, ← Tally.total_ofEntries] at hsum

theorem get_countedBonds (v : String) :
    Tally.get v (countedBonds host bonds ids) = bondOf host bonds ids v := by
  rw [countedBonds, Tally.get_ofEntries]
  exact sum_bondEntries fun id => id = v

/-- **The loop adds up the bonds**: what it has for a validator is the validator's bond. -/
theorem mem_countedBonds {e : String × Int} :
    e ∈ countedBonds host bonds ids ↔ 0 < e.2 ∧ e.2 = bondOf host bonds ids e.1 := by
  have hnd := Tally.keys_nodup_ofEntries (bondEntries host bonds ids)
  have hkey : e.1 ∈ (countedBonds host bonds ids).map Prod.fst ↔
      0 < bondOf host bonds ids e.1 := by
    rw [← get_countedBonds]
    refine ⟨fun h => ?_, fun h => ?_⟩
    · rw [countedBonds, Tally.mem_keys_ofEntries] at h
      obtain ⟨entry, hentry, hid⟩ := mem_map.mp h
      rw [countedBonds, Tally.get_ofEntries]
      refine sum_pos _ (fun x hx => ?_) fun hnil => ?_
      · obtain ⟨f, hf, rfl⟩ := mem_map.mp hx
        rw [bondEntries_eq] at hf
        exact of_decide_eq_true (mem_filter.mp (mem_of_mem_filter hf)).2
      · exact filter_eq_nil_iff.mp (map_eq_nil_iff.mp hnil) entry hentry (by simp [hid])
    · by_contra hnot
      rw [Tally.get_of_not_mem hnot] at h
      exact lt_irrefl _ h
  refine ⟨fun h => ?_, fun ⟨hpos, hbond⟩ => ?_⟩
  · have hbond : e.2 = bondOf host bonds ids e.1 := by
      rw [← get_countedBonds]
      exact (Tally.get_of_mem hnd h).symm
    exact ⟨hbond ▸ hkey.mp (mem_map_of_mem h), hbond⟩
  · have hmem := Tally.mem_of_key_mem hnd (hkey.mpr (hbond ▸ hpos))
    rwa [← countedBonds, get_countedBonds, ← hbond] at hmem

/-- The bonds that count do not depend on the order of the input. -/
theorem countedBonds_perm (hnd : (bonds.map Prod.fst).Nodup) (hbonds : List.Perm bonds bonds')
    (hids : ids.Perm ids') :
    List.Perm (countedBonds host bonds ids) (countedBonds host bonds' ids') := by
  have hcandidates : (candidateIds bonds ids).Perm (candidateIds bonds' ids') := by
    unfold candidateIds
    by_cases hnil : ids = []
    · rw [if_pos hnil, if_pos (nil_perm.mp (hnil ▸ hids))]
      exact hbonds.map _
    · rw [if_neg hnil, if_neg fun h : ids' = [] => hnil (perm_nil.mp (h ▸ hids))]
      exact hids
  have hbond : ∀ v, bondOf host bonds ids v = bondOf host bonds' ids' v := by
    intro v
    have hat : bondAt host bonds = bondAt host bonds' := by
      funext raw
      simp only [bondAt, Json.lookup_perm hbonds hnd, Tally.get_perm hbonds hnd]
    rw [bondOf, bondOf, hat]
    exact ((hcandidates.filter _).map _).sum_eq
  refine (perm_ext_iff_of_nodup (Tally.keys_nodup_ofEntries _).of_map
    (Tally.keys_nodup_ofEntries _).of_map).mpr fun e => ?_
  rw [← countedBonds, ← countedBonds, mem_countedBonds, mem_countedBonds, hbond]

/-- **The order of the input does not matter.** -/
theorem splitAmountByValidatorBond_perm (hnd : (bonds.map Prod.fst).Nodup)
    (hbonds : List.Perm bonds bonds') (hids : ids.Perm ids') :
    splitAmountByValidatorBond host amount bonds ids =
      splitAmountByValidatorBond host amount bonds' ids' := by
  have hperm := @countedBonds_perm host _ _ _ _ hnd hbonds hids
  have hsorted : (countedBonds host bonds ids).insertionSort entryLe =
      (countedBonds host bonds' ids').insertionSort entryLe := by
    refine List.Perm.eq_of_pairwise ?_ (pairwise_insertionSort entryLe _)
      (pairwise_insertionSort entryLe _) (((perm_insertionSort entryLe _).trans hperm).trans
        (perm_insertionSort entryLe _).symm)
    intro e f he hf hef hfe
    have hkeys : e.1 = f.1 := Json.byteChars_injective
      (le_antisymm ((Json.textLe_iff _ _).mp hef) ((Json.textLe_iff _ _).mp hfe))
    exact inj_on_of_nodup_map (Tally.keys_nodup_ofEntries (bondEntries host bonds ids))
      ((mem_insertionSort entryLe).mp he)
      (hperm.mem_iff.mpr ((mem_insertionSort entryLe).mp hf)) hkeys
  rw [countedBonds, countedBonds] at hsorted hperm
  simp only [splitAmountByValidatorBond, Tally.total_perm hperm, hsorted]

/-- The division that a split with something to divide makes. -/
def feeDivision (hamount : 0 < amount) {v : String} (h : 0 < bondOf host bonds ids v) :
    FeeDivision where
  amount := amount
  bonded := countedBonds host bonds ids
  amount_pos := hamount
  total_pos := by
    refine sum_pos _ (fun x hx => ?_) fun hnil => ?_
    · obtain ⟨e, he, rfl⟩ := mem_map.mp hx
      exact (mem_countedBonds.mp he).1
    · have hmem : (v, bondOf host bonds ids v) ∈ countedBonds host bonds ids :=
        mem_countedBonds.mpr ⟨h, rfl⟩
      rw [map_eq_nil_iff.mp hnil] at hmem
      cases hmem
  nodup := Tally.keys_nodup_ofEntries _
  nonneg e he := (mem_countedBonds.mp he).1.le

end CaiNetwork
