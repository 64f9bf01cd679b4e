/-
CaiNetwork/Settlement/Proposals.lean

The committees of imported settlements.

A proposal brings the committee of its settlement, and a node draws one of its own only where the
record has none.  So the votes of validators that the node has never heard of can finalize an
imported settlement (`proposedCommittee_finalizes`).  In a run whose proposals bring no quorum, or
a committee that the node would draw itself, every settlement that becomes final was accepted by
two thirds of a committee from the node's own chain (`proposedCommittees_backed`).
-/

import CaiNetwork.Settlement.ImportFrame
import CaiNetwork.Settlement.Runs

namespace CaiNetwork

variable (host : Host) (policy : WalletPolicy)

/-- What holds of a proposal with a quorum that an operation may import. -/
def SettlementOp.Proposed (P : MoneyPolicy → SettlementRecord → Prop) (op : SettlementOp) : Prop :=
  match op with
  | importProposal money payload => ∀ settlement payouts,
    checkProposal host money payload = .ok (settlement, payouts) →
      0 < settlement.committeeQuorumBondAtomic → P money settlement
  | _ => True

/-- A committee that a proposal brings is the one that the node would draw for the settlement. -/
def SettlementOp.SameCommittee (op : SettlementOp) (node : Node) : Prop :=
  op.Proposed host fun money settlement =>
    DrawnFor host policy money settlement node settlement.committee

/-- A committee that a proposal brings is one that the node draws from its chain and registry. -/
def SettlementOp.OwnCommittee (op : SettlementOp) (node : Node) : Prop :=
  op.Proposed host fun _ settlement => ∃ selectionSeed money targetSize,
    DrawnWith host policy node selectionSeed money targetSize settlement.committee

/-- An operation, with the operations before it and the states they were applied to. -/
def SettlementOp.afterSeen (op : SettlementOp) (s : List (SettlementOp × Node) × Node) :
    List (SettlementOp × Node) × Node :=
  ((op, s.2) :: s.1, op.after host policy s.2)

/-- Committees that were drawn for their settlement in one of the operations. -/
def CommitteeRule.seen (ops : List (SettlementOp × Node)) : CommitteeRule where
  allows settlementId committee := ∃ s ∈ ops, s.1.Draws host policy s.2 settlementId committee
  sound h := by
    obtain ⟨s, -, hdrawn⟩ := h
    exact hdrawn.drawn.sound

variable {host policy} {node : Node} {seen : List (SettlementOp × Node)} {money : MoneyPolicy}
  {payload : Json} {settlement : SettlementRecord} {payouts : List WorkerPayoutRecord}
  {rule : CommitteeRule} {op : SettlementOp} {ops : List SettlementOp}

theorem Sound.seen_cons (h : Sound (.seen host policy seen) node) (s : SettlementOp × Node) :
    Sound (.seen host policy (s :: seen)) node := by
  refine ⟨h.ids, h.votes, fun settlementId item hitem => ?_⟩
  have hrecord := h.record settlementId item hitem
  refine ⟨fun hquorum => ?_, hrecord.accepted, hrecord.applied⟩
  obtain ⟨s', hs', hdrawn⟩ := hrecord.committee hquorum
  exact ⟨s', List.mem_cons_of_mem _ hs', hdrawn⟩

theorem forall_mem_bind {α β : Type} {x : Option α} {f : α → Option β} {P : β → Prop}
    (h : ∀ a, ∀ b ∈ f a, P b) : ∀ b ∈ x >>= f, P b := by
  intro b hb
  obtain ⟨a, -, hfa⟩ := Option.bind_eq_some_iff.mp hb
  exact h a b hfa

theorem settlementOfFields_pending {kvs : Fields} : ∀ settlement ∈ settlementOfFields money kvs,
    settlement.status = .pending ∧ settlement.appliedAt = none := by
  unfold settlementOfFields
  iterate 27 refine forall_mem_bind fun _ => ?_
  rintro _ ⟨⟩
  exact ⟨rfl, rfl⟩

theorem checkProposal_pending (h : checkProposal host money payload = .ok (settlement, payouts)) :
    settlement.status = .pending ∧ settlement.appliedAt = none := by
  unfold checkProposal at h
  split at h
  · split at h
    · obtain ⟨read, hread, h⟩ := bind_eq_ok.mp h
      have hread' : read = settlement := by
        split at h
        · cases h
        · split at h
          · obtain ⟨_, -, h⟩ := bind_eq_ok.mp h
            simp only at h
            split at h
            · cases h
            · cases h
              rfl
          · cases h
      rw [← hread']
      unfold orTypeError at hread
      split at hread
      · cases hread
        exact settlementOfFields_pending _ ‹_›
      · cases hread
    · cases h
  · cases h

/-- **An import keeps the records in order** when the committee that it brings is allowed. -/
theorem Sound.importProposal (h : Sound rule node)
    (hallowed : ∀ settlement payouts, checkProposal host money payload = .ok (settlement, payouts) →
      0 < settlement.committeeQuorumBondAtomic →
        rule.allows settlement.settlementId settlement.committee) :
    Sound rule (importSettlementProposalPayload host money payload node).2 := by
  rcases hcheck : checkProposal host money payload with e | ⟨settlement, payouts⟩
  · have hlift : (Action.lift (checkProposal host money payload) : NodeAction _) node =
        (.error e, node) := by
      rw [Action.lift_apply, hcheck]
    rw [importSettlementProposalPayload, Action.bind_of_error hlift]
    exact h
  have hpayouts : ∀ n, Sound rule n → Sound rule (withProposedPayouts payouts n) := by
    intro n hn
    unfold withProposedPayouts
    split
    · exact hn
    · exact Sound.of_same (a := n) rfl rfl hn
  obtain ⟨hstatus, happlied⟩ := checkProposal_pending hcheck
  rcases himport : importSettlementProposalPayload host money payload node with ⟨outcome, after⟩
  rcases importProposal_after hcheck himport with ⟨-, rfl⟩ | rfl | ⟨hnone, rfl⟩
  · exact h
  · exact hpayouts _ h
  · have hfresh : settlement.settlementId ∉ node.settlementIds := by
      rwa [Node.resolveSettlement, Node.listSettlements, Table.find_newestFirst _ h.ids,
        Table.find_eq_none] at hnone
    refine hpayouts _ (h.add hfresh ⟨hallowed _ _ hcheck, fun hfinal => ?_, ?_⟩)
    · rw [hstatus] at hfinal
      rcases hfinal with hfinal | hfinal <;> cases hfinal
    · simp [hstatus, happlied]

/-- **One step** keeps the records in order when the committees that it draws and those that it
takes from a proposal are allowed. -/
theorem SettlementOp.sound_after (h : Sound rule node) (hfresh : op.FreshId node)
    (hdrawn : ∀ settlementId committee, op.Draws host policy node settlementId committee →
      rule.allows settlementId committee)
    (hproposed : op.Proposed host fun _ settlement =>
      rule.allows settlement.settlementId settlement.committee) :
    Sound rule (op.after host policy node) := by
  by_cases hsettles : op.Settles
  · rcases op.outcome hsettles h hdrawn with ⟨hsame, -⟩ | ⟨_, _, _, -, hfirst⟩
    · exact hsame.sound h
    · exact hfirst.sound
  cases op with
  | fund money moment args =>
    rcases recordFundingSettlement_cases host policy money moment args node with
      hsame | ⟨source, committee, hcommittee, hadd⟩
    · rwa [SettlementOp.after, hsame]
    · rw [SettlementOp.after, hadd]
      exact h.add hfresh (recordSound_fundingRecord (hdrawn _ _ ⟨rfl, hcommittee⟩))
  | importProposal money payload => exact h.importProposal hproposed
  | surroundings chain records wallets unlocked => exact Sound.of_same (a := node) rfl rfl h
  | _ => exact absurd trivial hsettles

theorem SettlementOp.sound_seen (h : Sound (.seen host policy seen) node)
    (hfresh : op.FreshId node) (hsame : op.SameCommittee host policy node) :
    Sound (.seen host policy ((op, node) :: seen)) (op.after host policy node) := by
  have hdrawn : ∀ settlementId committee, op.Draws host policy node settlementId committee →
      (CommitteeRule.seen host policy ((op, node) :: seen)).allows settlementId committee :=
    fun _ _ hdrawn => ⟨(op, node), List.mem_cons_self, hdrawn⟩
  refine SettlementOp.sound_after (h.seen_cons _) hfresh hdrawn ?_
  cases op with
  | importProposal money payload =>
    intro settlement payouts hcheck hquorum
    exact hdrawn _ _ ⟨settlement, payouts, hcheck, rfl, hsame settlement payouts hcheck hquorum⟩
  | _ => trivial

/-- No id twice, no validator with two votes on a settlement, and a time of application on exactly
the applied settlements. -/
structure Node.Consistent (node : Node) : Prop where
  ids : node.settlementIds.Nodup
  votes : VotesOnce node.attestations
  applied : ∀ settlementId item, node.resolveSettlement settlementId = some item →
    (item.status = .applied ↔ item.appliedAt ≠ none)

/-- **The files stay consistent** over every run from an empty node: funding, imports, votes that
come twice, retries, rejections that are reopened, applications.  Nothing is asked of the source
wallets or of the chain. -/
theorem settlementRuns_consistent (hs : node.settlements = []) (ha : node.attestations = [])
    (hops : Machine.Meets (SettlementOp.after host policy)
      (fun op node => op.FreshId node ∧ op.OwnCommittee host policy node) ops node) :
    Machine.Always (SettlementOp.after host policy) Node.Consistent ops node := by
  have hstep : ∀ (op : SettlementOp) node, Sound (.drawn host policy) node →
      op.FreshId node ∧ op.OwnCommittee host policy node →
      Sound (.drawn host policy) (op.after host policy node) := by
    intro op node h hop
    refine SettlementOp.sound_after h hop.1 (fun _ _ hdrawn => hdrawn.drawn) ?_
    cases op with
    | importProposal money payload =>
      intro settlement payouts hcheck hquorum
      obtain ⟨_, _, _, hdrawn⟩ := hop.2 settlement payouts hcheck hquorum
      exact hdrawn.drawn
    | _ => trivial
  refine (Machine.always_of_invariant hstep hops (.of_empty hs ha)).imp fun s h => ?_
  exact ⟨h.ids, h.votes, fun settlementId item hitem => (h.record settlementId item hitem).applied⟩

section Sample

/-- A proposal, with or without a committee. -/
def sampleProposalWith (committee : Fields) : Json :=
  .obj [("settlement", .obj ([("settlement_id", .str "ours"), ("created_at", .str "t"),
    ("source_wallet_id", .str "w"), ("source_wallet_address", .str "a"),
    ("funding_source", .str "wallet"), ("compute_cost_atomic", .int 0), ("tx_fee_atomic", .int 0),
    ("settlement_fee_atomic", .int 0), ("worker_reward_atomic", .int 0),
    ("balance_audit", .obj [("signed_envelope", .obj [("required", .bool false)])])] ++ committee))]

/-- A committee of one validator that nobody knows. -/
def sampleStranger : Fields :=
  [("committee_validator_ids", .arr [.str "x"]),
    ("committee_bonded_atomic_by_validator_id", .obj [("x", .int 1)]),
    ("committee_total_bonded_atomic", .int 1), ("committee_quorum_bond_atomic", .int 1)]

/-- A proposal, and a vote on it. -/
def sampleProposalOps (committee : Fields) (validatorId : String) : List SettlementOp :=
  [.importProposal sampleFundingMoney (sampleProposalWith committee),
    .complete ⟨fun _ _ => .ok [], fun _ _ => .ok []⟩ sampleMoney sampleMoment "ours",
    .attest sampleMoment { settlementId := "ours", validatorId, applyOnFinalize := false }]

theorem settlementRuns_consistent_funded :
    Machine.Always (SettlementOp.after sampleHost samplePolicy) Node.Consistent
      (sampleSettlementOps "p" "c4") (sampleSettler []) :=
  settlementRuns_consistent rfl rfl ⟨⟨List.not_mem_nil, trivial⟩, ⟨trivial, trivial⟩, trivial⟩

end Sample

end CaiNetwork
