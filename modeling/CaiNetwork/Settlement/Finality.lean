/-
CaiNetwork/Settlement/Finality.lean

The invariant of the settlement files.

`Sound` says what holds of the settlements and the votes of a node between any two operations:
ids are unique, a validator votes once on a settlement, a committee with a quorum was drawn from
bonded validators, and a settlement is finalized or applied only with a quorum of accepting bond.
The operations change the files by a few kinds of writes; those made of edits that apply nothing
are `Steady`.  Only the first application of a finalized settlement is not
(`applyFinalizedSettlement_cases`).
-/

import CaiNetwork.Settlement.Funding
import CaiNetwork.Settlement.Votes

namespace CaiNetwork

open List Action

open CaiNetwork.Action (Within)

variable {host : Host} {policy : WalletPolicy} {node : Node} {item : SettlementRecord}

variable {settlementId : String} {a b : Node} {moment : Moment}

/-! ### The settlement file -/

/-- The ids of the settlements. -/
abbrev Node.settlementIds (node : Node) : List String :=
  node.settlements.map SettlementRecord.settlementId

variable {money : MoneyPolicy}

theorem Node.resolveSettlement_save (hnd : node.settlementIds.Nodup) :
    (node.saveSettlement item).resolveSettlement settlementId =
      if settlementId = item.settlementId then
        (node.resolveSettlement settlementId).map fun _ => item
      else node.resolveSettlement settlementId := by
  have hlist : (node.listSettlements.map SettlementRecord.settlementId).Nodup :=
    (Table.nodup_newestFirst _).mpr hnd
  have hkeys : ∀ a : SettlementRecord, a.settlementId = item.settlementId →
      ((fun _ => item) a).settlementId = item.settlementId := fun _ _ => rfl
  have hsaved : ((Table.update SettlementRecord.settlementId item.settlementId (fun _ => item)
      node.listSettlements).map SettlementRecord.settlementId).Nodup := by
    rwa [Table.map_key_update hkeys]
  have hfind : (node.saveSettlement item).resolveSettlement settlementId =
      Table.find SettlementRecord.settlementId settlementId
        (Table.update SettlementRecord.settlementId item.settlementId (fun _ => item)
          node.listSettlements) := Table.find_newestFirst _ hsaved
  rw [hfind, Table.find_update hkeys]
  split
  next heq =>
    rw [heq]
    rfl
  next => rfl

theorem Node.nodup_save (hnd : node.settlementIds.Nodup) :
    (node.saveSettlement item).settlementIds.Nodup := by
  show ((Table.update SettlementRecord.settlementId item.settlementId (fun _ => item)
    node.listSettlements).map SettlementRecord.settlementId).Nodup
  rw [Table.map_key_update fun _ _ => rfl]
  exact (Table.nodup_newestFirst _).mpr hnd

/-- The node with one more settlement. -/
def Node.addSettlement (node : Node) (item : SettlementRecord) : Node :=
  { node with settlements := node.listSettlements ++ [item] }

theorem Node.nodup_add (hnd : node.settlementIds.Nodup)
    (hfresh : item.settlementId ∉ node.settlementIds) :
    (node.addSettlement item).settlementIds.Nodup := by
  have hperm : (node.listSettlements.map SettlementRecord.settlementId).Perm node.settlementIds :=
    (Table.perm_newestFirst _ node.settlements).map _
  show ((node.listSettlements ++ [item]).map SettlementRecord.settlementId).Nodup
  rw [map_append, nodup_append]
  refine ⟨hperm.nodup_iff.mpr hnd, nodup_singleton _, ?_⟩
  intro id hid id' hid' heq
  rw [map_singleton, mem_singleton] at hid'
  rw [heq, hid', hperm.mem_iff] at hid
  exact hfresh hid

theorem Node.resolveSettlement_fresh (hnd : node.settlementIds.Nodup)
    (hfresh : settlementId ∉ node.settlementIds) : node.resolveSettlement settlementId = none := by
  rw [Node.resolveSettlement, Node.listSettlements, Table.find_newestFirst _ hnd,
    Table.find_eq_none]
  exact hfresh

theorem Node.resolveSettlement_add (hnd : node.settlementIds.Nodup)
    (hfresh : item.settlementId ∉ node.settlementIds) (settlementId : String) :
    (node.addSettlement item).resolveSettlement settlementId =
      if settlementId = item.settlementId then some item
      else node.resolveSettlement settlementId := by
  have hfind : (node.addSettlement item).resolveSettlement settlementId =
      Table.find SettlementRecord.settlementId settlementId (node.listSettlements ++ [item]) :=
    Table.find_newestFirst _ (Node.nodup_add hnd hfresh)
  rw [hfind, Table.find, find?_append]
  show (node.resolveSettlement settlementId).or _ = _
  split
  next heq =>
    rw [heq, Node.resolveSettlement_fresh hnd hfresh]
    simp
  next hne =>
    have hne' : ¬item.settlementId = settlementId := fun h => hne h.symm
    simp [hne']

theorem Node.settlementId_of_resolve
    (h : node.resolveSettlement settlementId = some item) : item.settlementId = settlementId :=
  Table.key_of_find h

/-! ### Accepting bond -/

/-- No validator has two votes on a settlement. -/
def VotesOnce (attestations : List ValidatorAttestation) : Prop :=
  (attestations.map fun vote => (vote.settlementId, vote.validatorId)).Nodup

/-- The accepting votes on a settlement. -/
def acceptingVotes (settlementId : String) (attestations : List ValidatorAttestation) :
    List ValidatorAttestation :=
  attestations.filter fun vote => vote.settlementId = settlementId ∧ vote.accepted = true

/-- The accepting bond, added up in the order of the attestation file. -/
def SettlementRecord.acceptedBond (item : SettlementRecord)
    (attestations : List ValidatorAttestation) : Int :=
  ((acceptingVotes item.settlementId attestations).map fun vote =>
    Tally.get vote.validatorId item.committeeBondedAtomicByValidatorId).sum

theorem VotesOnce.nodup_validators {attestations : List ValidatorAttestation}
    (h : VotesOnce attestations) :
    ((attestations.filter fun vote => vote.settlementId = settlementId).map
      ValidatorAttestation.validatorId).Nodup := by
  have hpairs : ((attestations.filter fun vote => vote.settlementId = settlementId).map
      fun vote => (vote.settlementId, vote.validatorId)).Nodup :=
    h.sublist (filter_sublist.map _)
  rw [nodup_map_iff_inj_on hpairs.of_map]
  intro v hv w hw heq
  apply inj_on_of_nodup_map hpairs hv hw
  have hv' := (mem_filter.mp hv).2
  have hw' := (mem_filter.mp hw).2
  rw [decide_eq_true_eq] at hv' hw'
  rw [hv', hw', heq]

/-- Votes of others have no bond in the committee. -/
theorem sum_bonds_members {bonds : Tally String} {votes : List ValidatorAttestation} :
    ((votes.filter fun vote => vote.validatorId ∈ bonds.map Prod.fst).map fun vote =>
      Tally.get vote.validatorId bonds).sum =
      (votes.map fun vote => Tally.get vote.validatorId bonds).sum := by
  induction votes with
  | nil => rfl
  | cons vote votes ih =>
    rw [filter_cons, map_cons, sum_cons, ← ih]
    split
    next => rfl
    next hvote =>
      rw [decide_eq_true_eq] at hvote
      rw [Tally.get_of_not_mem hvote, zero_add]

/-- **The counted bond is the sum over the file.** -/
theorem voteBond_votes (h : VotesOnce node.attestations) :
    item.voteBond true (item.votes (node.attestationsOf item.settlementId)) =
      item.acceptedBond node.attestations := by
  have hperm := Table.perm_newestFirst ValidatorAttestation.createdAt
    (node.attestations.filter fun vote => vote.settlementId = item.settlementId)
  have hnd : ((node.attestationsOf item.settlementId).map ValidatorAttestation.validatorId).Nodup :=
    (hperm.map _).nodup_iff.mpr h.nodup_validators
  have hvotes : item.votes (node.attestationsOf item.settlementId) =
      (node.attestationsOf item.settlementId).filter fun vote =>
        vote.validatorId ∈ item.committeeBondedAtomicByValidatorId.map Prod.fst :=
    latestVotes_eq_filter hnd fun _ _ => not_mem_nil
  rw [hvotes, SettlementRecord.voteBond, filter_comm, sum_bonds_members]
  -- the order of the votes does not matter to the sum
  have hsum := ((hperm.filter fun vote => vote.accepted = true).map fun vote =>
    Tally.get vote.validatorId item.committeeBondedAtomicByValidatorId).sum_eq
  refine hsum.trans ?_
  rw [SettlementRecord.acceptedBond, acceptingVotes, filter_filter]
  congr 2
  apply filter_congr
  intro vote _
  rw [Bool.decide_and, Bool.and_comm]

/-! ### The invariant -/

/-- Which committees the settlements of a node may have. -/
structure CommitteeRule where
  allows : String → ValidatorCommitteeSnapshot → Prop
  sound : ∀ {settlementId committee}, allows settlementId committee → CommitteeSound committee

/-- Committees that are drawn from bonded validators. -/
def CommitteeRule.drawn (host : Host) (policy : WalletPolicy) : CommitteeRule where
  allows _ committee := Drawn host policy committee
  sound := Drawn.sound

variable (rule : CommitteeRule)

/-- A record is in order with the votes of the node. -/
structure RecordSound (attestations : List ValidatorAttestation) (item : SettlementRecord) :
    Prop where
  committee : 0 < item.committeeQuorumBondAtomic → rule.allows item.settlementId item.committee
  accepted : item.status = .finalized ∨ item.status = .applied →
    0 < item.committeeQuorumBondAtomic ∧
      item.committeeQuorumBondAtomic ≤ item.acceptedBond attestations
  applied : item.status = .applied ↔ item.appliedAt ≠ none

/-- The settlements and the votes of a node are in order. -/
structure Sound (node : Node) : Prop where
  ids : node.settlementIds.Nodup
  votes : VotesOnce node.attestations
  record : ∀ settlementId item, node.resolveSettlement settlementId = some item →
    RecordSound rule node.attestations item

/-- The settlement is applied. -/
def Applied (node : Node) (settlementId : String) : Prop :=
  ∃ item, node.resolveSettlement settlementId = some item ∧ item.status = .applied

/-- The funding of a settlement and the amounts that its audit quotes are the same. -/
structure SameTerms (old new : SettlementRecord) : Prop where
  funding : new.funding = old.funding
  quote : Json.getD new.balanceAudit "quote" = Json.getD old.balanceAudit "quote"
  debits : Json.getD new.balanceAudit "debits" = Json.getD old.balanceAudit "debits"

/-- A change of a record that keeps it sound and neither applies it nor takes that back. -/
structure Edit (attestations : List ValidatorAttestation) (old new : SettlementRecord) :
    Prop where
  sound : RecordSound rule attestations old → RecordSound rule attestations new
  applied : RecordSound rule attestations old →
    (new.status = .applied ↔ old.status = .applied)
  terms : SameTerms old new

/-- The node stays sound, the same settlements are applied, and they have the same terms. -/
structure SameApplied (a b : Node) : Prop where
  sound : Sound rule a → Sound rule b
  applied : Sound rule a → ∀ settlementId, Applied b settlementId ↔ Applied a settlementId
  terms : Sound rule a → ∀ settlementId new, b.resolveSettlement settlementId = some new →
    ∃ old, a.resolveSettlement settlementId = some old ∧ SameTerms old new

/-- The same settlements are applied, and nothing is taken. -/
structure Steady (host : Host) (a b : Node) : Prop extends SameApplied rule a b where
  nothing : NothingTaken host a b

variable {rule}

theorem SameTerms.refl (item : SettlementRecord) : SameTerms item item := ⟨rfl, rfl, rfl⟩

theorem SameTerms.trans {a b c : SettlementRecord} (h : SameTerms a b) (h' : SameTerms b c) :
    SameTerms a c :=
  ⟨h'.funding.trans h.funding, h'.quote.trans h.quote, h'.debits.trans h.debits⟩

theorem SameTerms.readable {old new : SettlementRecord} (h : SameTerms old new)
    (hold : AuditReadable host old) : AuditReadable host new := by
  rw [AuditReadable, h.quote, h.debits]
  exact hold

theorem SameApplied.trans {c : Node} (h : SameApplied rule a b)
    (h' : SameApplied rule b c) : SameApplied rule a c := by
  refine ⟨fun ha => h'.sound (h.sound ha), fun ha settlementId => ?_,
    fun ha settlementId new hnew => ?_⟩
  · rw [h'.applied (h.sound ha), h.applied ha]
  · obtain ⟨mid, hmid, hterms⟩ := h'.terms (h.sound ha) settlementId new hnew
    obtain ⟨old, hold, hterms'⟩ := h.terms ha settlementId mid hmid
    exact ⟨old, hold, hterms'.trans hterms⟩

theorem Steady.refl (a : Node) : Steady rule host a a :=
  ⟨⟨id, fun _ _ => Iff.rfl, fun _ _ new h => ⟨new, h, .refl new⟩⟩, .refl a⟩

theorem Steady.trans {c : Node} (h : Steady rule host a b) (h' : Steady rule host b c) :
    Steady rule host a c :=
  ⟨h.toSameApplied.trans h'.toSameApplied, h.nothing.trans h'.nothing⟩

theorem Node.resolveSettlement_of_same (hs : b.settlements = a.settlements)
    (settlementId : String) : b.resolveSettlement settlementId =
      a.resolveSettlement settlementId := by
  rw [Node.resolveSettlement, Node.resolveSettlement, Node.listSettlements, Node.listSettlements,
    hs]

/-- Soundness is a matter of two files. -/
theorem Sound.of_same (hs : b.settlements = a.settlements)
    (ha : b.attestations = a.attestations) (h : Sound rule a) : Sound rule b := by
  refine ⟨?_, ?_, fun settlementId item hitem => ?_⟩
  · rw [Node.settlementIds, hs]
    exact h.ids
  · rw [ha]
    exact h.votes
  · rw [ha]
    rw [Node.resolveSettlement_of_same hs] at hitem
    exact h.record settlementId item hitem

theorem SameApplied.of_same (hs : b.settlements = a.settlements)
    (ha : b.attestations = a.attestations) : SameApplied rule a b := by
  refine ⟨Sound.of_same hs ha, fun _ settlementId => ?_, fun _ settlementId new hnew => ?_⟩
  · rw [Applied, Applied, Node.resolveSettlement_of_same hs]
  · rw [Node.resolveSettlement_of_same hs] at hnew
    exact ⟨new, hnew, .refl new⟩

theorem Quiet.steady (h : Quiet host a b) : Steady rule host a b :=
  ⟨.of_same h.settlements h.attestations, h.nothingTaken⟩

theorem Within.steady_of_quiet {α : Type} {x : NodeAction α} (h : Within (Quiet host) x) :
    Within (Steady rule host) x := h.imp Quiet.steady

/-! ### Writes -/

/-- A record is saved in place of one with the same id. -/
theorem Sound.save (h : Sound rule node) (hitem : RecordSound rule node.attestations item) :
    Sound rule (node.saveSettlement item) := by
  refine ⟨Node.nodup_save h.ids, h.votes, fun settlementId new hnew => ?_⟩
  rw [Node.resolveSettlement_save h.ids] at hnew
  split at hnew
  · rw [Option.map_eq_some_iff] at hnew
    obtain ⟨-, -, rfl⟩ := hnew
    exact hitem
  · exact h.record settlementId new hnew

/-- A record is added under a new id. -/
theorem Sound.add (h : Sound rule node) (hfresh : item.settlementId ∉ node.settlementIds)
    (hitem : RecordSound rule node.attestations item) : Sound rule (node.addSettlement item) := by
  refine ⟨Node.nodup_add h.ids hfresh, h.votes, fun settlementId new hnew => ?_⟩
  rw [Node.resolveSettlement_add h.ids hfresh] at hnew
  split at hnew
  · cases hnew
    exact hitem
  · exact h.record settlementId new hnew

theorem Steady.save {old : SettlementRecord}
    (hold : node.resolveSettlement item.settlementId = some old)
    (hedit : Edit rule node.attestations old item) :
    Steady rule host node (node.saveSettlement item) := by
  refine ⟨⟨fun h => h.save (hedit.sound (h.record _ _ hold)), fun h settlementId => ?_,
    fun h settlementId new hnew => ?_⟩, ⟨fun _ hl => hl, .refl⟩⟩
  · rw [Applied, Applied, Node.resolveSettlement_save h.ids]
    split
    next heq =>
      rw [heq, hold]
      simpa using hedit.applied (h.record _ _ hold)
    next => rfl
  · rw [Node.resolveSettlement_save h.ids] at hnew
    split at hnew
    next heq =>
      rw [heq, hold] at hnew
      cases hnew
      exact ⟨old, heq ▸ hold, hedit.terms⟩
    next => exact ⟨new, hnew, .refl new⟩

/-- A vote is added. -/
theorem Steady.addVote {vote : ValidatorAttestation}
    (hnew : ∀ v ∈ node.attestations, ¬(v.settlementId = vote.settlementId ∧
      v.validatorId = vote.validatorId)) :
    Steady rule host node { node with attestations := node.attestations ++ [vote] } := by
  refine ⟨⟨fun h => ⟨h.ids, ?_, fun settlementId item hitem => ?_⟩, fun _ _ => Iff.rfl,
    fun _ _ new hresolve => ⟨new, hresolve, .refl new⟩⟩, ⟨fun _ hl => hl, .refl⟩⟩
  · rw [VotesOnce, map_append, nodup_append]
    refine ⟨h.votes, nodup_singleton _, ?_⟩
    intro key hkey key' hkey' heq
    obtain ⟨v, hv, rfl⟩ := mem_map.mp hkey
    rw [map_singleton, mem_singleton] at hkey'
    rw [hkey', Prod.mk.injEq] at heq
    exact hnew v hv heq
  · have hsound := h.record settlementId item hitem
    refine ⟨hsound.committee, fun hstatus => ?_, hsound.applied⟩
    -- the bond of the new vote is not negative
    obtain ⟨hquorum, haccepted⟩ := hsound.accepted hstatus
    refine ⟨hquorum, haccepted.trans ?_⟩
    rw [SettlementRecord.acceptedBond, SettlementRecord.acceptedBond, acceptingVotes,
      acceptingVotes, filter_append, map_append, sum_append]
    apply Int.le_add_of_nonneg_right
    apply sum_nonneg
    intro bond hbond
    obtain ⟨v, -, rfl⟩ := mem_map.mp hbond
    have hcommittee := rule.sound (hsound.committee hquorum)
    exact (Tally.forall_value_iff le_rfl hcommittee.nodup).mp
      (fun e he => (hcommittee.positive e he).le) v.validatorId

/-- The votes on a settlement that is neither finalized nor applied are dropped. -/
theorem Steady.dropVotes (settlementId : String)
    (hpending : ∀ item, node.resolveSettlement settlementId = some item →
      item.status ≠ .finalized ∧ item.status ≠ .applied) :
    Steady rule host node
      { node with
        attestations := (Table.newestFirst ValidatorAttestation.createdAt node.attestations).filter
          fun vote => vote.settlementId ≠ settlementId } := by
  have hperm := (Table.perm_newestFirst ValidatorAttestation.createdAt node.attestations).filter
    fun vote => vote.settlementId ≠ settlementId
  refine ⟨⟨fun h => ⟨h.ids, ?_, fun otherId item hitem => ?_⟩, fun _ _ => Iff.rfl,
    fun _ _ new hresolve => ⟨new, hresolve, .refl new⟩⟩, ⟨fun _ hl => hl, .refl⟩⟩
  · rw [VotesOnce, (hperm.map _).nodup_iff]
    exact h.votes.sublist (filter_sublist.map _)
  · have hsound := h.record otherId item hitem
    refine ⟨hsound.committee, fun hstatus => ?_, hsound.applied⟩
    -- the votes on another settlement are all still there
    have hother : item.settlementId ≠ settlementId := by
      intro heq
      obtain ⟨hfinalized, happlied⟩ := hpending item
        (by rwa [← heq, Node.settlementId_of_resolve hitem])
      exact hstatus.elim hfinalized happlied
    obtain ⟨hquorum, haccepted⟩ := hsound.accepted hstatus
    refine ⟨hquorum, haccepted.trans_eq ?_⟩
    rw [SettlementRecord.acceptedBond, SettlementRecord.acceptedBond]
    symm
    refine ((hperm.filter _).map _).sum_eq.trans ?_
    rw [filter_filter, acceptingVotes]
    congr 2
    apply filter_congr
    intro vote _
    by_cases hvote : vote.settlementId = item.settlementId
    · simp [hvote, hother]
    · simp [hvote]

/-! ### Edits -/

variable {attestations : List ValidatorAttestation}

/-- Sections of the audit other than the quoted amounts may be written. -/
theorem Edit.section (name : String) (value : Json) (hquote : name ≠ "quote")
    (hdebits : name ≠ "debits") : Edit rule attestations item
      { item with balanceAudit := Json.set item.balanceAudit name value } := by
  refine ⟨fun h => ⟨h.committee, h.accepted, h.applied⟩, fun _ => Iff.rfl, rfl, ?_, ?_⟩
  · rw [Json.getD, Json.lookup_set, if_neg hquote.symm, ← Json.getD]
  · rw [Json.getD, Json.lookup_set, if_neg hdebits.symm, ← Json.getD]

/-- A settlement without a quorum may get a committee. -/
theorem Edit.withCommittee {money : MoneyPolicy} {selectionSeed : String}
    {committee : ValidatorCommitteeSnapshot} (hallowed : rule.allows item.settlementId committee)
    (hnone : ¬(item.committeeValidatorIds ≠ [] ∧ 0 < item.committeeQuorumBondAtomic)) :
    Edit rule attestations item (item.withCommittee money selectionSeed committee) := by
  refine ⟨fun h => ⟨fun _ => hallowed, fun hstatus => ?_, h.applied⟩, fun _ => Iff.rfl,
    rfl, rfl, rfl⟩
  obtain ⟨hquorum, -⟩ := h.accepted hstatus
  exact absurd ⟨(rule.sound (h.committee hquorum)).ids_ne_nil hquorum, hquorum⟩ hnone

/-- **Counting the votes.** -/
theorem Edit.counted (hvotes : VotesOnce node.attestations) : Edit rule node.attestations item
      (item.counted (node.attestationsOf item.settlementId)) := by
  have hstatus : (item.counted (node.attestationsOf item.settlementId)).status =
      if item.committeeQuorumBondAtomic ≤ 0 then .pending
      else if item.committeeQuorumBondAtomic ≤ item.acceptedBond node.attestations then
        if item.appliedAt = none then .finalized else .applied
      else if item.committeeQuorumBondAtomic ≤
          item.voteBond false (item.votes (node.attestationsOf item.settlementId)) then .rejected
      else .pending := by
    rw [← voteBond_votes hvotes]
    rfl
  -- a settlement that was applied has its quorum still
  have happlied : RecordSound rule node.attestations item →
      ((item.counted (node.attestationsOf item.settlementId)).status = .applied ↔
        item.appliedAt ≠ none) := by
    intro h
    rw [hstatus]
    constructor
    · intro happlied hnone
      rw [if_pos hnone] at happlied
      split_ifs at happlied
    · intro hsome
      obtain ⟨hquorum, haccepted⟩ := h.accepted (.inr (h.applied.mpr hsome))
      rw [if_neg (not_le.mpr hquorum), if_pos haccepted, if_neg hsome]
  refine ⟨fun h => ⟨h.committee, fun hfinal => ?_, happlied h⟩,
    fun h => (happlied h).trans h.applied.symm, rfl, rfl, rfl⟩
  by_cases hquorum : item.committeeQuorumBondAtomic ≤ 0
  · rw [hstatus, if_pos hquorum] at hfinal
    rcases hfinal with hfinal | hfinal <;> cases hfinal
  by_cases haccepted : item.committeeQuorumBondAtomic ≤ item.acceptedBond node.attestations
  · exact ⟨not_le.mp hquorum, haccepted⟩
  · rw [hstatus, if_neg hquorum, if_neg haccepted] at hfinal
    split at hfinal <;> rcases hfinal with hfinal | hfinal <;> cases hfinal

/-- A settlement that was not applied may be opened again. -/
theorem Edit.reopened (hstatus : item.status ≠ .applied) :
    Edit rule attestations item item.reopened := by
  refine ⟨fun h => ⟨h.committee, fun hfinal => ?_, ?_⟩, fun _ => ?_, rfl, rfl, rfl⟩
  · rcases hfinal with hfinal | hfinal <;> cases hfinal
  · exact iff_of_false (fun h => by cases h) (fun h => h rfl)
  · exact iff_of_false (fun h => by cases h) hstatus

theorem Edit.credited (walletId : Option String) :
    Edit rule attestations item { item with aiDevelopmentCreditedWalletId := walletId } :=
  ⟨fun h => ⟨h.committee, h.accepted, h.applied⟩, fun _ => Iff.rfl, rfl, rfl, rfl⟩

/-! ### Steady operations -/

theorem saveSettlementBalanceAudit_apply (audit : Fields)
    (h : node.resolveSettlement item.settlementId = some item) :
    saveSettlementBalanceAudit item audit node = (.ok { item with balanceAudit := audit },
        node.saveSettlement { item with balanceAudit := audit }) := by
  rw [saveSettlementBalanceAudit, bind_of_ok get_apply, h]
  rfl

theorem steady_saveSection (name : String) (value : Json) (hquote : name ≠ "quote")
    (hdebits : name ≠ "debits") (h : node.resolveSettlement item.settlementId = some item) :
    Steady rule host node
      (saveSettlementBalanceAudit item (Json.set item.balanceAudit name value) node).2 := by
  rw [saveSettlementBalanceAudit_apply _ h]
  exact .save h (.section name value hquote hdebits)

/-- What signing can do: it fails or finds no settlement, or it writes an envelope into the audit
of the settlement. -/
theorem signSettlementEnvelope_cases (backend : SigningBackend) (money : MoneyPolicy)
    (moment : Moment) (settlementId : String) (node : Node) :
    (∃ r node', signSettlementEnvelope host backend money moment settlementId node = (r, node') ∧
      (∀ signed, r ≠ .ok (some signed)) ∧ Quiet host node node') ∨
    ∃ settlement mid envelope, node.resolveSettlement settlementId = some settlement ∧
      Quiet host node mid ∧ signSettlementEnvelope host backend money moment settlementId node =
        (.ok (some { settlement with
            balanceAudit := Json.set settlement.balanceAudit "signed_envelope" envelope }),
          mid.saveSettlement { settlement with
            balanceAudit := Json.set settlement.balanceAudit "signed_envelope" envelope }) := by
  have hget : signSettlementEnvelope host backend money moment settlementId node = _ :=
    bind_of_ok get_apply
  cases hresolve : node.resolveSettlement settlementId with
  | none =>
    rw [hresolve] at hget
    exact .inl ⟨_, node, hget, fun _ h => (by cases h), .refl node⟩
  | some settlement =>
    rw [hresolve] at hget
    dsimp only at hget
    rw [bind_of_ok findWalletById_apply, bind_of_ok get_apply] at hget
    rw [← Node.settlementId_of_resolve hresolve] at hresolve
    cases henvelope : envelopeFor host backend money moment node.unlocked settlement
        (Table.find WalletRecord.walletId settlement.sourceWalletId
          (listWallets host node.wallets)) with
    | error e =>
      rw [henvelope, bind_of_error (lift_apply _)] at hget
      exact .inl ⟨_, _, hget, fun _ h => (by cases h), quiet_read⟩
    | ok envelope =>
      rw [henvelope, bind_of_ok (lift_apply _)] at hget
      have hsave : saveSettlementBalanceAudit settlement
          (Json.set settlement.balanceAudit "signed_envelope" envelope.toJson)
          { node with wallets := listWallets host node.wallets } = _ :=
        saveSettlementBalanceAudit_apply _ hresolve
      rw [bind_of_ok hsave] at hget
      exact .inr ⟨settlement, _, envelope.toJson, rfl, quiet_read, hget⟩

theorem steady_signSettlementEnvelope (backend : SigningBackend) (money : MoneyPolicy)
    (moment : Moment) (settlementId : String) :
    Within (Steady rule host) (signSettlementEnvelope host backend money moment settlementId) := by
  intro node
  rcases signSettlementEnvelope_cases backend money moment settlementId node with
    ⟨r, node', hsign, -, hquiet⟩ | ⟨settlement, mid, envelope, hresolve, hquiet, hsign⟩
  · rw [hsign]
    exact hquiet.steady
  · rw [hsign]
    rw [← Node.settlementId_of_resolve hresolve, ← Node.resolveSettlement_of_same
      hquiet.settlements] at hresolve
    exact hquiet.steady.trans
      (.save hresolve (.section "signed_envelope" envelope (by decide) (by decide)))

variable (host policy) in
theorem drawCommittee_cases (money : MoneyPolicy) (moment : Moment) (selectionSeed : String)
    (targetSize : Option Int) (node : Node) :
    (∃ e, drawCommittee host policy money moment selectionSeed targetSize node = (.error e, node)) ∨
    ∃ blocks, listChainBlocks host policy moment.clock node.chain = .ok blocks ∧
      drawCommittee host policy money moment selectionSeed targetSize node =
        (.ok (selectValidatorCommitteeSnapshot
          (listBondedValidators host policy blocks node.records) selectionSeed money targetSize),
          node) := by
  rw [drawCommittee]
  rcases hread : listChainBlocks host policy moment.clock node.chain with e | blocks
  · exact .inl ⟨e, bind_of_error (Prod.ext hread rfl)⟩
  · exact .inr ⟨blocks, rfl, bind_of_ok (Prod.ext hread rfl)⟩

/-- The committee is the one that the node draws from its chain and its registry with a seed and a
size. -/
def DrawnWith (host : Host) (policy : WalletPolicy) (node : Node) (selectionSeed : String)
    (money : MoneyPolicy) (targetSize : Option Int) (committee : ValidatorCommitteeSnapshot) :
      Prop :=
  ∃ clock blocks, listChainBlocks host policy clock node.chain = .ok blocks ∧
    committee = selectValidatorCommitteeSnapshot
      (listBondedValidators host policy blocks node.records) selectionSeed money targetSize

/-- The committee is the one that the node draws for a settlement: with the seed of the record or
else its id, and with the size of the record or else that of the policy. -/
def DrawnFor (host : Host) (policy : WalletPolicy) (money : MoneyPolicy) (item : SettlementRecord)
    (node : Node) (committee : ValidatorCommitteeSnapshot) : Prop :=
  DrawnWith host policy node ((nonempty? item.committeeSelectionSeed).getD item.settlementId) money
    (if 0 < item.committeeTargetSize then some item.committeeTargetSize else none) committee

theorem DrawnWith.drawn {selectionSeed : String} {targetSize : Option Int}
    {committee : ValidatorCommitteeSnapshot}
    (h : DrawnWith host policy node selectionSeed money targetSize committee) :
    Drawn host policy committee := by
  obtain ⟨-, blocks, -, heq⟩ := h
  exact ⟨blocks, node.records, selectionSeed, money, targetSize, heq⟩

theorem steady_ensureSettlementCommittee (backend : SigningBackend) (money : MoneyPolicy)
    (moment : Moment)
    (hallowed : ∀ item committee, node.resolveSettlement settlementId = some item →
      DrawnFor host policy money item node committee → rule.allows settlementId committee) :
    Steady rule host node
      (ensureSettlementCommittee host policy backend money moment settlementId node).2 := by
  rw [ensureSettlementCommittee, bind_of_ok get_apply]
  cases hresolve : node.resolveSettlement settlementId with
  | none => exact .refl node
  | some item =>
    obtain rfl := Node.settlementId_of_resolve hresolve
    dsimp only
    split
    next => exact .refl node
    next hnone =>
    have hallowed := fun committee => hallowed item committee hresolve
    unfold DrawnFor at hallowed
    generalize (nonempty? item.committeeSelectionSeed).getD item.settlementId = selectionSeed at *
    generalize (if 0 < item.committeeTargetSize then some item.committeeTargetSize else none) =
      targetSize at *
    rcases drawCommittee_cases host policy money moment _ _ node with
      ⟨e, hdraw⟩ | ⟨blocks, hblocks, hdraw⟩
    · rw [bind_of_error hdraw]
      exact .refl node
    rw [bind_of_ok hdraw]
    split
    next => exact .refl node
    next =>
    -- the new committee is saved, then the settlement is signed
    have hsave : Steady rule host node (node.saveSettlement (item.withCommittee money
        selectionSeed (selectValidatorCommitteeSnapshot
          (listBondedValidators host policy blocks node.records) selectionSeed money
          targetSize))) :=
      .save hresolve (.withCommittee (hallowed _ ⟨_, _, hblocks, rfl⟩) hnone)
    refine hsave.trans ?_
    exact Within.bind (R := Steady rule host) .trans
      (steady_signSettlementEnvelope backend money moment item.settlementId)
      (fun _ => .pure .refl _) (node.saveSettlement _)

theorem refreshSettlementFinality_apply : refreshSettlementFinality settlementId node =
      match node.resolveSettlement settlementId with
      | none => (.ok none, node)
      | some item => (.ok (some (item.counted (node.attestationsOf settlementId))),
          node.saveSettlement (item.counted (node.attestationsOf settlementId))) := by
  rw [refreshSettlementFinality, bind_of_ok get_apply]
  cases node.resolveSettlement settlementId with
  | none => rfl
  | some item => rfl

theorem steady_refreshSettlementFinality (settlementId : String) (h : Sound rule node) :
    Steady rule host node (refreshSettlementFinality settlementId node).2 := by
  rw [refreshSettlementFinality_apply]
  cases hresolve : node.resolveSettlement settlementId with
  | none => exact .refl node
  | some item =>
    obtain rfl := Node.settlementId_of_resolve hresolve
    exact .save hresolve (.counted h.votes)

theorem steady_reopenSettlement {backend : SigningBackend} {settlement : SettlementRecord}
    (hrejected : ∀ item, node.resolveSettlement settlementId = some item →
      item.status = .rejected) :
    Steady rule host node
      (reopenSettlement host backend money moment settlement settlementId node).2 := by
  rw [reopenSettlement, bind_of_ok (modify_apply _)]
  refine Steady.trans (.dropVotes settlementId fun item hitem => ?_) ?_
  · rw [hrejected item hitem]
    simp
  -- the record is looked up after the votes were dropped
  refine Within.get_bind (R := fun a b => (∀ item, a.resolveSettlement settlementId = some item →
    item.status = .rejected) → Steady rule host a b) (fun node hrejected => ?_) _ hrejected
  cases hresolve : node.resolveSettlement settlementId with
  | none => exact .refl node
  | some item =>
    have hstatus := hrejected item hresolve
    obtain rfl := Node.settlementId_of_resolve hresolve
    have hsave : Steady rule host node (node.saveSettlement item.reopened) := by
      refine .save hresolve (.reopened ?_)
      rw [hstatus]
      exact fun h => by cases h
    refine hsave.trans ?_
    exact Within.bind (R := Steady rule host) .trans
      (steady_signSettlementEnvelope backend money moment item.settlementId)
      (fun _ => .pure .refl _) (node.saveSettlement item.reopened)

theorem steady_resetRetryableSettlementRejection (backend : SigningBackend) (money : MoneyPolicy)
    (moment : Moment) (settlementId : String) (h : Sound rule node) : Steady rule host node
      (resetRetryableSettlementRejection host backend money moment settlementId node).2 := by
  rw [resetRetryableSettlementRejection, bind_of_ok get_apply]
  cases hresolve : node.resolveSettlement settlementId with
  | none => exact .refl node
  | some settlement =>
    dsimp only
    split
    next => exact .refl node
    next hrejected =>
    split
    next => exact .refl node
    next =>
    rw [not_not] at hrejected
    have hsteady : Steady rule host node _ :=
      steady_signSettlementEnvelope backend money moment settlementId node
    rcases signSettlementEnvelope_cases backend money moment settlementId node with
      ⟨r, node', hsign, hr, hquiet⟩ | ⟨settlement', mid, envelope, hresolve', hquiet, hsign⟩
    · rw [hsign] at hsteady
      cases r with
      | error e =>
        rw [bind_of_error hsign]
        exact hsteady
      | ok signed =>
        cases signed with
        | none =>
          rw [bind_of_ok hsign]
          exact hsteady
        | some signed => exact absurd rfl (hr signed)
    · rw [hsign] at hsteady
      rw [bind_of_ok hsign]
      dsimp only
      split
      next => exact hsteady
      next =>
      refine hsteady.trans (steady_reopenSettlement ?_)
      -- signing did not change the status
      intro item hitem
      rw [hresolve] at hresolve'
      cases hresolve'
      have hids : mid.settlementIds.Nodup := by
        rw [Node.settlementIds, hquiet.settlements]
        exact h.ids
      obtain rfl := Node.settlementId_of_resolve hresolve
      rw [Node.resolveSettlement_save hids, if_pos rfl,
        Node.resolveSettlement_of_same hquiet.settlements, hresolve] at hitem
      cases hitem
      exact hrejected

theorem steady_finishWorkerPayouts
    {records : List WorkerPayoutRecord} {settlement : Option SettlementRecord}
    (hsettlement : ∀ item ∈ settlement, node.resolveSettlement item.settlementId = some item) :
    Steady rule host node (finishWorkerPayouts host money moment settlement records node).2 := by
  cases settlement with
  | none => exact .refl node
  | some item =>
    rw [finishWorkerPayouts]
    have hresolve := hsettlement item rfl
    have hsave := saveSettlementBalanceAudit_apply
      (Json.set item.balanceAudit "payouts" (settlementWorkerPayoutAccounting money item records))
      hresolve
    have hsteady : Steady rule host node _ := steady_saveSection "payouts"
      (settlementWorkerPayoutAccounting money item records) (by decide) (by decide) hresolve
    rw [hsave] at hsteady
    rw [bind_of_ok hsave]
    refine hsteady.trans ?_
    split
    · exact (quiet_applyFinalizedWorkerPayouts moment _ _).steady
    · exact .refl _

theorem steady_recordWorkerPayouts {args : PayoutArgs} :
    Within (Steady rule host) (recordWorkerPayouts host money moment args) := by
  rw [recordWorkerPayouts]
  refine .get_bind fun node => ?_
  have hsettlement : ∀ item ∈ node.resolveSettlement args.settlementId,
      node.resolveSettlement item.settlementId = some item := by
    intro item hitem
    rw [Node.settlementId_of_resolve hitem]
    exact hitem
  dsimp only
  split
  next => exact steady_finishWorkerPayouts hsettlement
  next =>
  split
  next => exact .refl node
  next =>
    -- the payouts are added first, which settlements do not see
    have hquiet : ∀ payouts, Quiet host node { node with payouts } :=
      fun _ => .of_same rfl rfl rfl rfl
    exact (hquiet _).steady.trans (steady_finishWorkerPayouts hsettlement)

/-! ### Applying -/

theorem aiDevelopmentFee_credited {credited : SettlementRecord}
    (h : (applyFinalizedAiDevelopmentFee host moment item node).1 = .ok (some credited)) :
    ∃ walletId, credited = { item with aiDevelopmentCreditedWalletId := walletId } := by
  rw [applyFinalizedAiDevelopmentFee] at h
  split at h
  · cases h
  obtain ⟨-, found, hfound, -⟩ := finds_findAiDevelopmentWallet host item node
  rw [bind_of_ok (Prod.ext hfound rfl)] at h
  cases found with
  | none => cases h
  | some wallet =>
    obtain ⟨_, t, -, hreturned⟩ := bind_returns h
    cases hreturned
    exact ⟨_, rfl⟩

theorem steady_paySettlement (money : MoneyPolicy) (moment : Moment)
    (h : node.resolveSettlement item.settlementId = some item) :
    Steady rule host node (paySettlement host policy money moment item node).2 := by
  -- what follows the fee is quiet
  have hrest : ∀ item : SettlementRecord, Within (Steady rule host) (do
      applyFinalizedWorkerPayouts host moment item.settlementId
      let _ ← recordChainEntriesForSettlement host policy money item moment
      return some item : NodeAction (Option SettlementRecord)) := by
    intro item
    refine .bind .trans (Within.steady_of_quiet (quiet_applyFinalizedWorkerPayouts _ _)) ?_
    intro _
    refine .bind .trans (Within.steady_of_quiet (quiet_recordChainEntriesForSettlement _ _ _)) ?_
    exact fun _ => .pure .refl _
  have hfee : Quiet host node _ := quiet_applyFinalizedAiDevelopmentFee moment item node
  rw [paySettlement]
  rcases hresult : applyFinalizedAiDevelopmentFee host moment item node with ⟨e | credited, mid⟩
  · rw [bind_of_error hresult]
    rw [hresult] at hfee
    exact hfee.steady
  rw [bind_of_ok hresult]
  rw [hresult] at hfee
  refine hfee.steady.trans ?_
  cases credited with
  | none => exact hrest item mid
  | some credited =>
    obtain ⟨walletId, rfl⟩ := aiDevelopmentFee_credited (by rw [hresult])
    rw [← Node.resolveSettlement_of_same hfee.settlements] at h
    have hsave : Steady rule host mid
        (mid.saveSettlement { item with aiDevelopmentCreditedWalletId := walletId }) :=
      .save h (.credited walletId)
    exact hsave.trans (hrest _ _)

/-- The first application of a settlement: it is marked, its funding was taken, and no other
settlement is applied. -/
structure FirstApplied (host : Host) (policy : WalletPolicy) (rule : CommitteeRule)
    (money : MoneyPolicy) (moment : Moment) (item : SettlementRecord) (a b : Node) : Prop where
  sound : Sound rule b
  terms : ∀ settlementId new, b.resolveSettlement settlementId = some new →
    ∃ old, a.resolveSettlement settlementId = some old ∧ SameTerms old new
  recorded : a.resolveSettlement item.settlementId = some item
  fresh : ¬Applied a item.settlementId
  applied : ∀ settlementId, Applied b settlementId ↔
    Applied a settlementId ∨ settlementId = item.settlementId
  taken : FundingTaken host policy money moment item.funding a b ∨
    Unbacked host policy money moment item.funding a

theorem RecordSound.markedApplied {validatorId : Option String}
    {audit : Fields} (h : RecordSound rule attestations item) (hstatus : item.status = .finalized) :
    RecordSound rule attestations (item.markedApplied moment validatorId audit) :=
  ⟨h.committee, fun _ => h.accepted (.inl hstatus), iff_of_true rfl (fun hnone => nomatch hnone)⟩

theorem SameTerms.markedApplied {validatorId : Option String} (applied : Json) :
    SameTerms item (item.markedApplied moment validatorId
      (Json.set item.balanceAudit "applied" applied)) :=
  have hedit : Edit ⟨fun _ _ => False, False.elim⟩ [] item _ :=
    .section "applied" applied (by decide) (by decide)
  ⟨rfl, hedit.terms.quote, hedit.terms.debits⟩

/-- The settlement is marked in place of the finalized one, and the rest follows. -/
theorem FirstApplied.intro {money : MoneyPolicy} (validatorId : Option String)
    {audit : Fields} {mid : Node} (h : Sound rule node)
    (hresolve : node.resolveSettlement item.settlementId = some item)
    (hstatus : item.status = .finalized) (hs : mid.settlements = node.settlements)
    (ha : mid.attestations = node.attestations)
    (haudit : ∃ applied, audit = Json.set item.balanceAudit "applied" applied)
    (htaken : FundingTaken host policy money moment item.funding node mid ∨
      Unbacked host policy money moment item.funding node)
    (hsteady : Steady rule host
      (mid.saveSettlement (item.markedApplied moment validatorId audit)) b) :
    FirstApplied host policy rule money moment item node b := by
  have hmid : Sound rule mid := h.of_same hs ha
  have hresolve' : mid.resolveSettlement item.settlementId = some item := by
    rw [Node.resolveSettlement_of_same hs, hresolve]
  have hsaved : Sound rule (mid.saveSettlement (item.markedApplied moment validatorId audit)) :=
    hmid.save ((hmid.record _ _ hresolve').markedApplied hstatus)
  have hlookup : ∀ settlementId, (mid.saveSettlement (item.markedApplied moment validatorId
      audit)).resolveSettlement settlementId = if settlementId = item.settlementId then
        some (item.markedApplied moment validatorId audit)
      else node.resolveSettlement settlementId := by
    intro settlementId
    rw [Node.resolveSettlement_save hmid.ids, Node.resolveSettlement_of_same hs]
    show (if settlementId = item.settlementId then _ else _) = _
    split
    next heq =>
      rw [heq, hresolve]
      rfl
    next => rfl
  refine ⟨hsteady.sound hsaved, fun settlementId new hnew => ?_, hresolve, ?_,
    fun settlementId => ?_, ?_⟩
  · obtain ⟨marked, hmarked, hterms⟩ := hsteady.terms hsaved settlementId new hnew
    rw [hlookup] at hmarked
    split at hmarked
    next heq =>
      cases hmarked
      obtain ⟨applied, rfl⟩ := haudit
      exact ⟨item, heq ▸ hresolve, (SameTerms.markedApplied applied).trans hterms⟩
    next => exact ⟨marked, hmarked, hterms⟩
  · rintro ⟨other, hother, happlied⟩
    rw [hresolve] at hother
    cases hother
    rw [hstatus] at happlied
    cases happlied
  · rw [hsteady.applied hsaved, Applied, Applied, hlookup]
    split
    next heq => exact iff_of_true ⟨_, rfl, rfl⟩ (.inr heq)
    next hne => exact (or_iff_left hne).symm
  · exact htaken.imp_left fun htaken =>
      FundingTaken.nothingTaken (b := mid.saveSettlement _) ⟨htaken.reserve, htaken.wallet⟩
        hsteady.nothing

/-- The amounts that the audits of the node quote can be read. -/
def Readable (host : Host) (node : Node) : Prop :=
  ∀ settlementId item, node.resolveSettlement settlementId = some item → AuditReadable host item

/-- What an operation that may apply a settlement does: the same settlements are applied as
before, and nothing was taken unless an audit could not be read; or one of the settlements that
it may apply is applied for the first time. -/
def Outcome (host : Host) (policy : WalletPolicy) (rule : CommitteeRule)
    (applies : MoneyPolicy → Moment → String → Prop) (a b : Node) : Prop :=
  (SameApplied rule a b ∧ (Readable host a → NothingTaken host a b)) ∨
    ∃ money moment item, applies money moment item.settlementId ∧
      FirstApplied host policy rule money moment item a b

variable {applies : MoneyPolicy → Moment → String → Prop}

theorem Steady.outcome (h : Steady rule host node b) : Outcome host policy rule applies node b :=
  Or.inl ⟨h.toSameApplied, fun _ => h.nothing⟩

/-- **What an application can do.** -/
theorem applyFinalizedSettlement_outcome (money : MoneyPolicy) (moment : Moment)
    (validatorId : Option String) (settlementId : String) (h : Sound rule node) :
    Outcome host policy rule (fun m t i => m = money ∧ t = moment ∧ i = settlementId) node
      (applyFinalizedSettlement host policy money moment validatorId settlementId node).2 := by
  rw [applyFinalizedSettlement, bind_of_ok get_apply]
  cases hresolve : node.resolveSettlement settlementId with
  | none => exact (Steady.refl node).outcome
  | some item =>
    obtain rfl := Node.settlementId_of_resolve hresolve
    have hsound := h.record _ _ hresolve
    dsimp only
    split
    next => exact (Steady.refl node).outcome
    next hstatus =>
    split
    next hnone =>
      -- a finalized settlement is funded
      have hfinalized : item.status = .finalized := by
        by_contra hne
        exact hsound.applied.mp (by tauto) hnone
      rcases fundSettlement_cases money moment validatorId item node with
        ⟨e, node', hfund, hs, ha, hnothing⟩ | ⟨audit, mid, hfund, hs, ha, haudit, htaken⟩
      · rw [bind_of_error hfund]
        exact .inl ⟨.of_same hs ha, fun hreadable => hnothing (hreadable _ item hresolve)⟩
      · rw [bind_of_ok hfund]
        refine .inr ⟨money, moment, item, ⟨rfl, rfl, rfl⟩, .intro validatorId h
          hresolve hfinalized hs ha haudit htaken ?_⟩
        apply steady_paySettlement
        have hids : mid.settlementIds.Nodup := (h.of_same hs ha).ids
        rw [Node.resolveSettlement_save hids, if_pos rfl, Node.resolveSettlement_of_same hs]
        show (node.resolveSettlement item.settlementId).map _ = _
        rw [hresolve]
        rfl
    next hsome =>
      -- a settlement that has its funding is applied already
      have happlied : item.status = .applied := hsound.applied.mpr hsome
      rw [if_neg (not_not.mpr happlied)]
      exact (steady_paySettlement money moment hresolve).outcome

/-- An outcome after a change of the settlements and the votes alone. -/
theorem Outcome.after {mid : Node} (ha : Sound rule a) (hmid : SameApplied rule a mid)
    (hchain : mid.chain = a.chain) (hpurse : mid.purse = a.purse) (hledger : mid.ledger = a.ledger)
    (h : Outcome host policy rule applies mid b) : Outcome host policy rule applies a b := by
  rcases h with ⟨hsame, hnothing⟩ | ⟨money, moment, item, happlies, hfirst⟩
  · refine .inl ⟨hmid.trans hsame, fun hreadable => ?_⟩
    have hreadable' : Readable host mid := by
      intro settlementId new hnew
      obtain ⟨old, hold, hterms⟩ := hmid.terms ha settlementId new hnew
      exact hterms.readable (hreadable settlementId old hold)
    obtain ⟨hl, hc⟩ := hnothing hreadable'
    exact ⟨fun ledger h => hl ledger (hledger.trans h), hpurse ▸ hc⟩
  · obtain ⟨old, hold, hterms⟩ := hmid.terms ha _ _ hfirst.recorded
    have hid : item.settlementId = old.settlementId := congrArg Funding.settlementId hterms.funding
    have hwallets : mid.wallets = a.wallets := congrArg Prod.fst hpurse
    refine .inr ⟨money, moment, old, hid ▸ happlies, ⟨hfirst.sound, fun settlementId new hnew => ?_,
      hid ▸ hold, ?_, fun settlementId => ?_, ?_⟩⟩
    · obtain ⟨item', hitem', hterms'⟩ := hfirst.terms settlementId new hnew
      obtain ⟨old', hold', hterms''⟩ := hmid.terms ha settlementId item' hitem'
      exact ⟨old', hold', hterms''.trans hterms'⟩
    · rw [← hid, ← hmid.applied ha]
      exact hfirst.fresh
    · rw [hfirst.applied, hmid.applied ha, hid]
    · rw [← hterms.funding]
      refine hfirst.taken.imp (fun htaken => ⟨?_, ?_⟩) fun hunbacked => ?_
      · rw [Node.reserve, ← hledger]
        exact htaken.reserve
      · rw [sourceBlocks, ← hchain, ← hpurse]
        exact htaken.wallet
      · rw [Unbacked, reserveBlocks, sourceBlocks, Node.reserve, ← hchain, ← hwallets, ← hledger]
        exact hunbacked

/-! ### Voting -/

/-- Counting votes returns, and touches no file but the settlements. -/
theorem refreshSettlementFinality_frame (settlementId : String) (node : Node) :
    ∃ r node', refreshSettlementFinality settlementId node = (.ok r, node') ∧
      node'.chain = node.chain ∧ node'.purse = node.purse ∧ node'.ledger = node.ledger := by
  rw [refreshSettlementFinality_apply]
  cases node.resolveSettlement settlementId with
  | none => exact ⟨_, _, rfl, rfl, rfl, rfl⟩
  | some item => exact ⟨_, _, rfl, rfl, rfl, rfl⟩

/-- The settlements that an attestation may apply. -/
def AttestationArgs.Applies (args : AttestationArgs) (host : Host) (moment : Moment)
    (m : MoneyPolicy) (t : Moment) (settlementId : String) : Prop :=
  args.applyOnFinalize = true ∧ m = .ofNetwork host host.activeNetwork ∧ t = moment ∧
    settlementId = args.settlementId

/-- The votes are counted, and a finalized settlement may be applied. -/
theorem settleVotes_outcome {args : AttestationArgs} (h : Sound rule node) :
    Outcome host policy rule (args.Applies host moment) node
      (settleVotes host policy moment args node).2 := by
  have hsteady : Steady rule host node _ := steady_refreshSettlementFinality args.settlementId h
  obtain ⟨r, node', hrefresh, hchain, hpurse, hledger⟩ :=
    refreshSettlementFinality_frame args.settlementId node
  rw [hrefresh] at hsteady
  rw [settleVotes, bind_of_ok hrefresh]
  apply Outcome.after h hsteady.toSameApplied hchain hpurse hledger
  split
  next hfinal =>
    have houtcome : Outcome host policy rule _ _ _ := applyFinalizedSettlement_outcome
      (.ofNetwork host host.activeNetwork) moment (some args.validatorId) args.settlementId
      (hsteady.sound h)
    rw [bind_pure_state]
    refine houtcome.imp_right fun ⟨m, t, item, happlies, hfirst⟩ =>
      ⟨m, t, item, ⟨hfinal.1, happlies⟩, hfirst⟩
  next => exact (Steady.refl node').outcome

/-- **What recording an attestation can do.** -/
theorem recordValidatorAttestation_outcome {args : AttestationArgs} (h : Sound rule node) :
    Outcome host policy rule (args.Applies host moment) node
      (recordValidatorAttestation host policy moment args node).2 := by
  rw [recordValidatorAttestation, bind_of_ok get_apply]
  dsimp only
  split
  next => exact (Steady.refl node).outcome
  next =>
  cases hfind : (node.attestationsOf args.settlementId).find? fun item =>
      item.validatorId = args.validatorId with
  | some item =>
    dsimp only
    split
    next =>
      rw [bind_pure_state]
      exact settleVotes_outcome h
    next => exact (Steady.refl node).outcome
  | none =>
    -- the validator has no vote on the settlement
    have hnew : ∀ v ∈ node.attestations, ¬(v.settlementId = args.settlementId ∧
        v.validatorId = args.validatorId) := by
      rintro v hv ⟨hsettlement, hvalidator⟩
      rw [find?_eq_none] at hfind
      have hmem : v ∈ node.attestationsOf args.settlementId := by
        rw [Node.attestationsOf, Table.mem_newestFirst, mem_filter]
        exact ⟨hv, by simpa using hsettlement⟩
      exact hfind v hmem (by simpa using hvalidator)
    have hvote : Steady rule host node
        { node with attestations := node.attestations ++ [args.attestation moment] } :=
      .addVote hnew
    dsimp only
    rw [bind_of_ok (modify_apply _), bind_pure_state]
    apply Outcome.after h hvote.toSameApplied rfl rfl rfl
    exact settleVotes_outcome (hvote.sound h)

end CaiNetwork
