/-
CaiNetwork/Settlement/Votes.lean

The votes on a settlement.

`latestVotes` keeps one vote per member of the committee, so the two sides of a vote are held by
disjoint groups of members (`voteBond_add_le`).  With the quorum of a committee that was drawn from
bonded validators (`Drawn`), both sides never reach it (`CommitteeSound.not_both_sides`).
-/

import CaiNetwork.Settlement.Lifecycle

namespace CaiNetwork

open List

/-! ### One vote per member -/

section LatestVotes

variable {committee : Tally String} {seen : List String} {votes : List ValidatorAttestation}

theorem mem_latestVotes {vote : ValidatorAttestation}
    (h : vote ∈ latestVotes committee seen votes) :
    vote ∈ votes ∧ vote.validatorId ∈ committee.map Prod.fst ∧ vote.validatorId ∉ seen := by
  induction votes generalizing seen with
  | nil => cases h
  | cons v votes ih =>
    rw [latestVotes] at h
    split at h
    · obtain ⟨hmem, hrest⟩ := ih h
      exact ⟨mem_cons_of_mem _ hmem, hrest⟩
    · rename_i hv
      rw [not_or, not_not] at hv
      rcases mem_cons.mp h with rfl | hmem
      · exact ⟨mem_cons_self, hv⟩
      · obtain ⟨hmem, hin, hseen⟩ := ih hmem
        exact ⟨mem_cons_of_mem _ hmem, hin, fun hs => hseen (mem_cons_of_mem _ hs)⟩

/-- **One vote per member.** -/
theorem nodup_latestVotes :
    ((latestVotes committee seen votes).map ValidatorAttestation.validatorId).Nodup := by
  induction votes generalizing seen with
  | nil => exact nodup_nil
  | cons v votes ih =>
    rw [latestVotes]
    split
    · exact ih
    · rw [map_cons, nodup_cons]
      refine ⟨?_, ih⟩
      intro hmem
      obtain ⟨w, hw, hid⟩ := mem_map.mp hmem
      apply (mem_latestVotes hw).2.2
      rw [hid]
      exact mem_cons_self

/-- Without repeated voters the latest votes are the votes of members. -/
theorem latestVotes_eq_filter (hnd : (votes.map ValidatorAttestation.validatorId).Nodup)
    (hseen : ∀ vote ∈ votes, vote.validatorId ∉ seen) : latestVotes committee seen votes =
      votes.filter fun vote => vote.validatorId ∈ committee.map Prod.fst := by
  induction votes generalizing seen with
  | nil => rfl
  | cons v votes ih =>
    rw [map_cons, nodup_cons] at hnd
    have hrest : ∀ vote ∈ votes, vote.validatorId ∉ seen :=
      fun vote hvote => hseen vote (mem_cons_of_mem _ hvote)
    rw [latestVotes, filter_cons]
    by_cases hv : v.validatorId ∈ committee.map Prod.fst
    · rw [if_neg (by simpa [hv] using hseen v mem_cons_self), if_pos (by simpa using hv)]
      rw [ih hnd.2]
      intro vote hvote hmem
      rcases mem_cons.mp hmem with heq | hmem
      · exact hnd.1 (heq ▸ mem_map_of_mem hvote)
      · exact hrest vote hvote hmem
    · rw [if_pos (.inl hv), if_neg (by simpa using hv)]
      exact ih hnd.2 hrest

end LatestVotes

/-! ### The two sides -/

theorem sum_filter_add_sum_filter {α : Type} (p : α → Bool) (f : α → Int) (l : List α) :
    ((l.filter fun a => p a = true).map f).sum + ((l.filter fun a => p a = false).map f).sum =
      (l.map f).sum := by
  induction l with
  | nil => rfl
  | cons a l ih =>
    rcases hp : p a with - | -
    · simp [hp, ← ih]
      omega
    · simp [hp, ← ih]
      omega

/-- The bonds of the two sides are at most the bond of the committee. -/
theorem voteBond_add_le {item : SettlementRecord}
    (hnd : (item.committeeBondedAtomicByValidatorId.map Prod.fst).Nodup)
    (hnonneg : ∀ e ∈ item.committeeBondedAtomicByValidatorId, 0 ≤ e.2)
    (attestations : List ValidatorAttestation) :
    item.voteBond true (item.votes attestations) + item.voteBond false (item.votes attestations) ≤
      Tally.total item.committeeBondedAtomicByValidatorId := by
  rw [SettlementRecord.voteBond, SettlementRecord.voteBond,
    sum_filter_add_sum_filter ValidatorAttestation.accepted]
  have honce : ((item.votes attestations).map ValidatorAttestation.validatorId).Nodup :=
    nodup_latestVotes
  have hsum := Tally.sum_get_le_total hnd hnonneg honce
  rwa [map_map] at hsum

/-! ### Committees drawn from bonded validators -/

variable (host : Host) (policy : WalletPolicy)

/-- The committee of a record. -/
def SettlementRecord.committee (item : SettlementRecord) : ValidatorCommitteeSnapshot where
  validatorIds := item.committeeValidatorIds
  bondedAtomicByValidatorId := item.committeeBondedAtomicByValidatorId
  totalBondedAtomic := item.committeeTotalBondedAtomic
  quorumBondAtomic := item.committeeQuorumBondAtomic

/-- The committee is one that a node draws from the validators that a chain backs. -/
def Drawn (committee : ValidatorCommitteeSnapshot) : Prop :=
  ∃ blocks records selectionSeed money targetSize,
    committee = selectValidatorCommitteeSnapshot (listBondedValidators host policy blocks records)
      selectionSeed money targetSize

/-- What is known of the numbers of a drawn committee. -/
structure CommitteeSound (committee : ValidatorCommitteeSnapshot) : Prop where
  nodup : (committee.bondedAtomicByValidatorId.map Prod.fst).Nodup
  positive : ∀ e ∈ committee.bondedAtomicByValidatorId, 0 < e.2
  total : committee.totalBondedAtomic = Tally.total committee.bondedAtomicByValidatorId
  quorum : committee.quorumBondAtomic =
    quorumBondAtomic (Tally.total committee.bondedAtomicByValidatorId)
  ids : ∀ validatorId, validatorId ∈ committee.validatorIds ↔
    validatorId ∈ committee.bondedAtomicByValidatorId.map Prod.fst

variable {host policy}

theorem committeeOfRecords_sound {records : List ValidatorRecord}
    (hpos : ∀ record ∈ records, 0 < record.bondedAtomic) :
    CommitteeSound (committeeOfRecords records) := by
  -- the loop that fills the dictionary keeps both properties of its entries
  have hfold : ∀ (records : List ValidatorRecord) (t : Tally String),
      (∀ record ∈ records, 0 < record.bondedAtomic) → (t.map Prod.fst).Nodup → (∀ e ∈ t, 0 < e.2) →
      ((records.foldl (fun t r => Tally.set r.validatorId r.bondedAtomic t) t).map Prod.fst).Nodup ∧
      ∀ e ∈ records.foldl (fun t r => Tally.set r.validatorId r.bondedAtomic t) t, 0 < e.2 := by
    intro records
    induction records with
    | nil => exact fun t _ hnd ht => ⟨hnd, ht⟩
    | cons r records ih =>
      intro t hr hnd ht
      apply ih _ (fun record hrecord => hr record (mem_cons_of_mem _ hrecord))
      · exact Tally.nodup_set _ _ hnd
      · intro e he
        rcases Tally.mem_of_mem_set he with rfl | hmem
        · exact hr r mem_cons_self
        · exact ht e hmem
  obtain ⟨hnd, hvalues⟩ := hfold records [] hpos nodup_nil (fun e he => by cases he)
  refine ⟨hnd, hvalues, rfl, rfl, fun validatorId => ?_⟩
  show validatorId ∈ (List.insertionSort entryLe _).map Prod.fst ↔ _
  exact ((perm_insertionSort entryLe _).map Prod.fst).mem_iff

/-- **The numbers of a drawn committee are in order.** -/
theorem Drawn.sound {committee : ValidatorCommitteeSnapshot} (h : Drawn host policy committee) :
    CommitteeSound committee := by
  obtain ⟨blocks, records, selectionSeed, money, targetSize, rfl⟩ := h
  have hpos : ∀ record ∈ listBondedValidators host policy blocks records,
      0 < record.bondedAtomic := fun record hrecord => (mem_listBondedValidators.mp hrecord).2.2.1
  rw [selectValidatorCommitteeSnapshot]
  split
  · refine ⟨nodup_nil, fun e he => ?_, rfl, rfl, fun validatorId => Iff.rfl⟩
    cases he
  · apply committeeOfRecords_sound
    intro record hrecord
    generalize min _ (listBondedValidators host policy blocks records).length = size at hrecord
    split at hrecord
    · exact hpos record hrecord
    · exact hpos record (mem_selectWeightedCommittee hrecord)

theorem CommitteeSound.total_pos {committee : ValidatorCommitteeSnapshot}
    (h : CommitteeSound committee) (hquorum : 0 < committee.quorumBondAtomic) :
    0 < Tally.total committee.bondedAtomicByValidatorId := by
  rw [h.quorum, quorumBondAtomic] at hquorum
  split at hquorum
  · omega
  · omega

theorem CommitteeSound.ids_ne_nil {committee : ValidatorCommitteeSnapshot}
    (h : CommitteeSound committee) (hquorum : 0 < committee.quorumBondAtomic) :
    committee.validatorIds ≠ [] := by
  intro hids
  have hbonds : committee.bondedAtomicByValidatorId = [] := by
    rw [eq_nil_iff_forall_not_mem]
    intro e he
    have hid := (h.ids e.1).mpr (mem_map_of_mem he)
    rw [hids] at hid
    cases hid
  have htotal := h.total_pos hquorum
  rw [hbonds] at htotal
  exact absurd htotal (by simp [Tally.total])

/-- **Accepting and rejecting bond never both reach the quorum.** -/
theorem CommitteeSound.not_both_sides {item : SettlementRecord}
    (h : CommitteeSound item.committee) (hquorum : 0 < item.committeeQuorumBondAtomic)
    {attestations : List ValidatorAttestation} :
    ¬(item.committeeQuorumBondAtomic ≤ item.voteBond true (item.votes attestations) ∧
      item.committeeQuorumBondAtomic ≤ item.voteBond false (item.votes attestations)) := by
  rintro ⟨haccepted, hrejected⟩
  have hsum := voteBond_add_le h.nodup (fun e he => (h.positive e he).le) attestations
  have hquorum_eq : item.committeeQuorumBondAtomic =
      quorumBondAtomic (Tally.total item.committeeBondedAtomicByValidatorId) := h.quorum
  rw [hquorum_eq] at haccepted hrejected
  have htotal : 0 < Tally.total item.committeeBondedAtomicByValidatorId := h.total_pos hquorum
  have hlt := not_quorum_twice htotal hsum haccepted
  omega

end CaiNetwork
