/-
CaiNetwork/Committee.lean

Committees of bonded validators, and fees split over them (`validators.py`).

A committee is drawn by a lottery that is weighted by bond and determined by a seed
(`selectWeightedCommittee`); its quorum is two thirds of its bond, rounded up, and two disjoint
groups of members never both hold it (`not_quorum_twice`).  A fee is split in proportion to the
bonds, and what the divisions leave over goes to the largest remainders
(`splitAmountByValidatorBond`).
-/

import CaiNetwork.Registry

namespace CaiNetwork

open List

/-! ### Quorums -/

/-- `_quorum_bond_atomic`. -/
def quorumBondAtomic (totalBondedAtomic : Int) : Int :=
  if totalBondedAtomic ≤ 0 then 0 else (2 * totalBondedAtomic + 2) / 3

/-- The quorum is the least whole amount that is two thirds of the total. -/
theorem quorumBondAtomic_le_iff {total weight : Int} (htotal : 0 < total) :
    quorumBondAtomic total ≤ weight ↔ 2 * total ≤ 3 * weight := by
  rw [quorumBondAtomic, if_neg (by omega)]
  omega

/-- **No two disjoint groups both hold the quorum.** -/
theorem not_quorum_twice {total accepted rejected : Int} (htotal : 0 < total)
    (hdisjoint : accepted + rejected ≤ total) (haccepted : quorumBondAtomic total ≤ accepted) :
    rejected < quorumBondAtomic total := by
  by_contra hrejected
  rw [quorumBondAtomic_le_iff htotal] at haccepted
  have hrejected := (quorumBondAtomic_le_iff htotal).mp (not_lt.mp hrejected)
  omega

/-! ### Committees -/

/-- `ValidatorCommitteeSnapshot`. -/
structure ValidatorCommitteeSnapshot where
  validatorIds : List String
  bondedAtomicByValidatorId : Tally String
  totalBondedAtomic : Int
  quorumBondAtomic : Int

/-- `_deterministic_uniform`, in the floating point arithmetic of the interpreter. -/
def deterministicUniform (selectionSeed validatorId : String) : Float :=
  let s := Sha256.digestWords (toBytes (selectionSeed ++ ":" ++ validatorId).toList)
  let numerator := [s.a, s.b, s.c, s.d, s.e, s.f, s.g, s.h].foldl (fun n w => n * 2 ^ 32 + w) 0 + 1
  Float.ofNat numerator / Float.ofNat (2 ^ 256 + 1)

/-- The ticket of a validator in the lottery. -/
def lotteryKey (selectionSeed : String) (record : ValidatorRecord) : Float :=
  Float.log (deterministicUniform selectionSeed record.validatorId) /
    Float.ofInt (max 1 record.bondedAtomic)

/-- The order of the sort with `reverse=True`: the larger pair of ticket and id comes first, and
equal pairs keep their order. -/
def rankedBefore (a b : Float × ValidatorRecord) : Prop :=
  ¬(a.1 < b.1 ∨ ((a.1 == b.1) = true ∧ Json.stringLe b.2.validatorId a.2.validatorId = false))

instance : DecidableRel rankedBefore := fun a b =>
  inferInstanceAs (Decidable (¬(a.1 < b.1 ∨
    ((a.1 == b.1) = true ∧ Json.stringLe b.2.validatorId a.2.validatorId = false))))

/-- `_select_weighted_committee`. -/
def selectWeightedCommittee (bonded : List ValidatorRecord) (desiredSize : Nat)
    (selectionSeed : String) : List ValidatorRecord :=
  (((bonded.map fun record => (lotteryKey selectionSeed record, record)).insertionSort
    rankedBefore).take desiredSize).map Prod.snd

/-- The snapshot of the chosen records. -/
def committeeOfRecords (records : List ValidatorRecord) : ValidatorCommitteeSnapshot :=
  let bonds := records.foldl (fun t r => Tally.set r.validatorId r.bondedAtomic t) []
  { validatorIds := (bonds.insertionSort entryLe).map Prod.fst
    bondedAtomicByValidatorId := bonds
    totalBondedAtomic := Tally.total bonds
    quorumBondAtomic := quorumBondAtomic (Tally.total bonds) }

/-- `select_validator_committee_snapshot`, of the bonded validators. -/
def selectValidatorCommitteeSnapshot (bonded : List ValidatorRecord) (selectionSeed : String)
    (money : MoneyPolicy) (targetSize : Option Int) : ValidatorCommitteeSnapshot :=
  if bonded = [] then ⟨[], [], 0, 0⟩
  else
    let wanted := targetSize.getD money.validatorCommitteeTargetSize
    let desiredSize := min (if wanted ≤ 0 then bonded.length else wanted.toNat) bonded.length
    committeeOfRecords (if desiredSize ≥ bonded.length then bonded
      else selectWeightedCommittee bonded desiredSize selectionSeed)

/-- The keys of a dictionary that is filled with the bonds of records. -/
theorem mem_keys_bonds {validatorId : String} {records : List ValidatorRecord} :
    ∀ {t : Tally String}, validatorId ∈ (records.foldl
        (fun t r => Tally.set r.validatorId r.bondedAtomic t) t).map Prod.fst ↔
      validatorId ∈ t.map Prod.fst ∨ ∃ r ∈ records, r.validatorId = validatorId := by
  induction records with
  | nil => intro t; simp
  | cons r records ih =>
    intro t
    rw [foldl_cons, ih, Tally.mem_keys_set]
    constructor
    · rintro ((rfl | hkey) | ⟨r', hr', hid⟩)
      · exact .inr ⟨r, mem_cons_self, rfl⟩
      · exact .inl hkey
      · exact .inr ⟨r', mem_cons_of_mem _ hr', hid⟩
    · rintro (hkey | ⟨r', hr', hid⟩)
      · exact .inl (.inr hkey)
      · rcases mem_cons.mp hr' with rfl | hr'
        · exact .inl (.inl hid.symm)
        · exact .inr ⟨r', hr', hid⟩

theorem mem_selectWeightedCommittee {bonded : List ValidatorRecord} {desiredSize : Nat}
    {selectionSeed : String} {record : ValidatorRecord}
    (h : record ∈ selectWeightedCommittee bonded desiredSize selectionSeed) : record ∈ bonded := by
  obtain ⟨ranked, hranked, rfl⟩ := mem_map.mp h
  have hsorted := (mem_insertionSort rankedBefore).mp (mem_of_mem_take hranked)
  obtain ⟨r, hr, rfl⟩ := mem_map.mp hsorted
  exact hr

/-- A committee is drawn from the bonded validators. -/
theorem mem_validatorIds_select {bonded : List ValidatorRecord} {selectionSeed : String}
    {money : MoneyPolicy} {targetSize : Option Int} {validatorId : String}
    (h : validatorId ∈ (selectValidatorCommitteeSnapshot bonded selectionSeed money
        targetSize).validatorIds ∨
      validatorId ∈ ((selectValidatorCommitteeSnapshot bonded selectionSeed money
        targetSize).bondedAtomicByValidatorId).map Prod.fst) :
    ∃ r ∈ bonded, r.validatorId = validatorId := by
  rw [selectValidatorCommitteeSnapshot] at h
  split at h
  · simp at h
  -- the ids of a snapshot are the keys of its bonds
  have hkey : ∀ {records : List ValidatorRecord},
      validatorId ∈ (committeeOfRecords records).validatorIds ∨
        validatorId ∈ ((committeeOfRecords records).bondedAtomicByValidatorId).map Prod.fst →
      ∃ r ∈ records, r.validatorId = validatorId := by
    intro records hmem
    have hbonds : validatorId ∈ ((committeeOfRecords records).bondedAtomicByValidatorId).map
        Prod.fst := by
      rcases hmem with hid | hbonds
      · obtain ⟨e, he, rfl⟩ := mem_map.mp hid
        exact mem_map_of_mem ((mem_insertionSort entryLe).mp he)
      · exact hbonds
    rcases mem_keys_bonds.mp hbonds with hnone | hrecord
    · cases hnone
    · exact hrecord
  obtain ⟨r, hr, hid⟩ := hkey h
  refine ⟨r, ?_, hid⟩
  generalize min _ bonded.length = desiredSize at hr
  split at hr
  · exact hr
  · exact mem_selectWeightedCommittee hr

/-! ### Fees -/

/-- `ValidatorFeeShare`. -/
structure ValidatorFeeShare where
  validatorId : String
  bondedAtomic : Int
  amountAtomic : Int
deriving DecidableEq

variable (host : Host)

/-- The entries of `bonded_by_validator`, in the order they are added up. -/
def bondEntries (bonds : Tally String) (validatorIds : List String) : List (String × Int) :=
  let candidates := if validatorIds = [] then bonds.map Prod.fst else validatorIds
  candidates.filterMap fun raw =>
    let validatorId := normalizeValidatorId host raw
    let bonded := max 0 ((bonds.lookup raw).getD (Tally.get validatorId bonds))
    if validatorId = "" ∨ bonded ≤ 0 then none else some (validatorId, bonded)

/-- The order in which the units left over are handed out: by descending remainder, then by
id. -/
def remainderBefore (a b : ValidatorFeeShare × Int) : Prop :=
  b.2 < a.2 ∨ (a.2 = b.2 ∧ Json.stringLe a.1.validatorId b.1.validatorId = true)

instance : DecidableRel remainderBefore := fun a b =>
  inferInstanceAs (Decidable (b.2 < a.2 ∨
    (a.2 = b.2 ∧ Json.stringLe a.1.validatorId b.1.validatorId = true)))

/-- `split_amount_by_validator_bond`. -/
def splitAmountByValidatorBond (amountAtomic : Int) (bonds : Tally String)
    (validatorIds : List String) : List ValidatorFeeShare :=
  let amount := max 0 amountAtomic
  let bonded := Tally.ofEntries (bondEntries host bonds validatorIds)
  let total := Tally.total bonded
  if amount ≤ 0 ∨ total ≤ 0 then []
  else
    let shares : List (ValidatorFeeShare × Int) := (bonded.insertionSort entryLe).map fun e =>
      (⟨e.1, e.2, amount * e.2 / total⟩, amount * e.2 % total)
    let left := amount - (shares.map fun s => s.1.amountAtomic).sum
    let lucky : List String := ((shares.insertionSort remainderBefore).take left.toNat).map
      fun s => s.1.validatorId
    (shares.map fun s =>
      if s.1.validatorId ∈ lucky then { s.1 with amountAtomic := s.1.amountAtomic + 1 }
      else s.1).filter fun share => share.amountAtomic > 0

/-- Every share goes to a normalised id. -/
theorem mem_splitAmountByValidatorBond {amountAtomic : Int} {bonds : Tally String}
    {validatorIds : List String} {share : ValidatorFeeShare}
    (h : share ∈ splitAmountByValidatorBond host amountAtomic bonds validatorIds) :
    ∃ raw, share.validatorId = normalizeValidatorId host raw ∧
      (raw ∈ validatorIds ∨ raw ∈ bonds.map Prod.fst) := by
  rw [splitAmountByValidatorBond] at h
  dsimp only at h
  split at h
  · cases h
  obtain ⟨hmem, -⟩ := mem_filter.mp h
  obtain ⟨s, hs, hshare⟩ := mem_map.mp hmem
  obtain ⟨e, he, rfl⟩ := mem_map.mp hs
  -- the share of an entry is the entry's, with or without the extra unit
  have hid : share.validatorId = e.1 := by
    rw [← hshare]
    split <;> rfl
  have hkey : e.1 ∈ (Tally.ofEntries (bondEntries host bonds validatorIds)).map Prod.fst :=
    mem_map_of_mem ((mem_insertionSort entryLe).mp he)
  rw [Tally.mem_keys_ofEntries] at hkey
  obtain ⟨entry, hentry, hfst⟩ := mem_map.mp hkey
  rw [bondEntries] at hentry
  obtain ⟨raw, hraw, hsome⟩ := mem_filterMap.mp hentry
  dsimp only at hsome
  split at hsome
  · cases hsome
  cases hsome
  refine ⟨raw, hid.trans hfst.symm, ?_⟩
  split at hraw
  · exact .inr hraw
  · exact .inl hraw

end CaiNetwork
