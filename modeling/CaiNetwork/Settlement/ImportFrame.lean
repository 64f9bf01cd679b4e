/-
CaiNetwork/Settlement/ImportFrame.lean

What an imported proposal does to the other settlements (`import_settlement_proposal_payload`).

The payouts of a proposal are written by payout id, and nothing compares their settlement id with
that of the proposal (`foreignPayout_replaced`).  The other settlements are left alone exactly when
the proposal writes to its own payouts only (`importProposal_frame_iff`).
-/

import CaiNetwork.LargestRemainder
import CaiNetwork.FundingPlan
import CaiNetwork.Settlement.Import

namespace CaiNetwork

open List Action

open LargestRemainder

/-- `list_settlements`, of one id. -/
def Node.settlementsOf (node : Node) (settlementId : String) : List SettlementRecord :=
  node.listSettlements.filter fun item => item.settlementId = settlementId

section Frame

variable {host : Host} {money : MoneyPolicy} {payload : Json} {node after : Node}
  {settlement result : SettlementRecord} {payouts : List WorkerPayoutRecord}

/-- Records that were read are read again in the same order. -/
theorem newestFirst_filter_newestFirst {α : Type} (time : α → String) (p : α → Bool) (l : List α) :
    Table.newestFirst time ((Table.newestFirst time l).filter p) =
      Table.newestFirst time (l.filter p) := by
  rw [Table.newestFirst, Table.newestFirst, filter_insertionSort]
  exact List.Pairwise.insertionSort_eq (pairwise_insertionSort _ _)

/-- The node with the payouts of a proposal written. -/
def withProposedPayouts (payouts : List WorkerPayoutRecord) (node : Node) : Node :=
  if payouts = [] then node
  else { node with payouts := upsertWorkerPayouts payouts node.listWorkerPayouts }

/-- **The files after an acceptable proposal**: the import is refused, its settlement is known
already, or it is added, and then its payouts are written. -/
theorem importProposal_after {outcome : Except PyError SettlementRecord}
    (hcheck : checkProposal host money payload = .ok (settlement, payouts))
    (himport : importSettlementProposalPayload host money payload node = (outcome, after)) :
    ((∃ e, outcome = .error e) ∧ after = node) ∨ after = withProposedPayouts payouts node ∨
      (node.resolveSettlement settlement.settlementId = none ∧ after = withProposedPayouts payouts
          { node with settlements := node.listSettlements ++ [settlement] }) := by
  have hlift : (Action.lift (checkProposal host money payload) : NodeAction _) node =
      (.ok (settlement, payouts), node) := by
    rw [lift_apply, hcheck]
  rw [importSettlementProposalPayload, bind_of_ok hlift] at himport
  simp only at himport
  rw [bind_of_ok get_apply] at himport
  cases hresolve : node.resolveSettlement settlement.settlementId with
  | some existing =>
    rw [hresolve] at himport
    simp only at himport
    split at himport
    · rw [bind_of_error (throw_apply _)] at himport
      exact .inl ⟨⟨_, (Prod.mk.inj himport).1.symm⟩, (Prod.mk.inj himport).2.symm⟩
    · rw [withProposedPayouts]
      split_ifs at himport ⊢ <;>
        first | exact .inr (.inl (Prod.mk.inj himport).2.symm) | contradiction
  | none =>
    rw [hresolve] at himport
    simp only at himport
    refine .inr (.inr ⟨rfl, ?_⟩)
    rw [bind_of_ok set_apply] at himport
    rw [withProposedPayouts]
    split_ifs at himport ⊢ <;> first | exact (Prod.mk.inj himport).2.symm | contradiction

/-- A proposal writes to payouts of its own settlement: the last payout that it has for a known id
is the known record, or both belong to its settlement, and its payouts with new ids do. -/
def OwnPayouts (settlementId : String) (payouts known : List WorkerPayoutRecord) : Prop :=
  (∀ old, Table.findLast WorkerPayoutRecord.payoutId old.payoutId known = some old →
      ∀ new, Table.findLast WorkerPayoutRecord.payoutId old.payoutId payouts = some new →
        new = old ∨ (old.settlementId = settlementId ∧ new.settlementId = settlementId)) ∧
    ∀ new ∈ payouts, new.payoutId ∉ known.map WorkerPayoutRecord.payoutId →
      new.settlementId = settlementId

/-- The settlements of every other id stay. -/
theorem importProposal_settlementsOf
    (hcheck : checkProposal host money payload = .ok (settlement, payouts))
    (himport : importSettlementProposalPayload host money payload node = (.ok result, after))
    {other : String} (hother : other ≠ settlement.settlementId) :
    after.settlementsOf other = node.settlementsOf other := by
  have hfiles : after.settlements = node.settlements ∨
      after.settlements = node.listSettlements ++ [settlement] := by
    obtain ⟨⟨_, ⟨⟩⟩, -⟩ | rfl | ⟨-, rfl⟩ := importProposal_after hcheck himport <;>
      by_cases hpayouts : payouts = [] <;> simp [withProposedPayouts, hpayouts]
  rw [Node.settlementsOf, Node.settlementsOf, Node.listSettlements, Node.listSettlements]
  obtain hsame | hadded := hfiles
  · rw [hsame]
  · have hnew : [settlement].filter (fun item => item.settlementId = other) = [] := by
      rw [filter_cons_of_neg (by simpa using Ne.symm hother), filter_nil]
    rw [hadded, Table.newestFirst, filter_insertionSort, filter_append, hnew, append_nil,
      Node.listSettlements, Table.newestFirst, filter_insertionSort]
    exact List.Pairwise.insertionSort_eq (pairwise_insertionSort _ _)

theorem ownPayouts_iff {settlementId : String} {known : List WorkerPayoutRecord} :
    OwnPayouts settlementId payouts known ↔
      (∀ old, Table.findLast WorkerPayoutRecord.payoutId old.payoutId known = some old →
        (Table.findLast WorkerPayoutRecord.payoutId old.payoutId payouts).getD old = old ∨
          (old.settlementId = settlementId ∧ ((Table.findLast WorkerPayoutRecord.payoutId
            old.payoutId payouts).getD old).settlementId = settlementId)) ∧
        ∀ new ∈ payouts, new.payoutId ∉ known.map WorkerPayoutRecord.payoutId →
          new.settlementId = settlementId := by
  refine and_congr_left fun _ => forall_congr' fun old => imp_congr_right fun _ => ?_
  cases hfind : Table.findLast WorkerPayoutRecord.payoutId old.payoutId payouts with
  | none => simp
  | some new => simp

/-- The payouts of every other settlement stay exactly when the proposal writes to its own. -/
theorem payoutsOf_withProposedPayouts_iff {settlementId : String} {stored : Node}
    (hstored : stored.payouts = node.payouts) : (∀ other, other ≠ settlementId →
        (withProposedPayouts payouts stored).payoutsOf other = node.payoutsOf other) ↔
      OwnPayouts settlementId payouts node.listWorkerPayouts := by
  by_cases hpayouts : payouts = []
  · have hown : OwnPayouts settlementId payouts node.listWorkerPayouts := by
      rw [hpayouts]
      exact ⟨fun _ _ _ hnew => absurd hnew (Option.some_ne_none _).symm,
        fun _ hnew => absurd hnew not_mem_nil⟩
    refine iff_of_true (fun other _ => ?_) hown
    rw [withProposedPayouts, if_pos hpayouts, Node.payoutsOf, Node.payoutsOf, hstored]
  have hlist : stored.listWorkerPayouts = node.listWorkerPayouts := by
    rw [Node.listWorkerPayouts, Node.listWorkerPayouts, hstored]
  have hafter : ∀ other, (withProposedPayouts payouts stored).payoutsOf other =
      Table.newestFirst WorkerPayoutRecord.createdAt
        ((Table.upsertAll WorkerPayoutRecord.payoutId payouts node.listWorkerPayouts).filter
          fun item => item.settlementId = other) := by
    intro other
    rw [withProposedPayouts, if_neg hpayouts, ← hlist]
    rfl
  have hbefore : ∀ other, node.payoutsOf other = Table.newestFirst WorkerPayoutRecord.createdAt
      (node.listWorkerPayouts.filter fun item => item.settlementId = other) := by
    intro other
    rw [Node.listWorkerPayouts, newestFirst_filter_newestFirst]
    rfl
  rw [ownPayouts_iff]
  constructor
  · intro h
    refine (Table.upsertAll_owner_iff payouts node.listWorkerPayouts settlementId).mp
      fun other hother => ?_
    have hlists := h other hother
    rw [hafter, hbefore] at hlists
    exact ((Table.perm_newestFirst _ _).symm.trans (.of_eq hlists)).trans
      (Table.perm_newestFirst _ _)
  · rintro ⟨hknown, hnew⟩ other hother
    rw [hafter, hbefore, Table.filter_upsertAll_of_owner hother hknown hnew]

/-- **When an import leaves the other settlements alone.**  For every node and every accepted
proposal, the settlements and payouts of every other settlement are as before exactly when the
proposal writes to its own payouts only. -/
theorem importProposal_frame_iff
    (hcheck : checkProposal host money payload = .ok (settlement, payouts))
    (himport : importSettlementProposalPayload host money payload node = (.ok result, after)) :
    (∀ other, other ≠ settlement.settlementId →
        after.settlementsOf other = node.settlementsOf other ∧
          after.payoutsOf other = node.payoutsOf other) ↔
      OwnPayouts settlement.settlementId payouts node.listWorkerPayouts := by
  have hpayouts : (∀ other, other ≠ settlement.settlementId →
      after.payoutsOf other = node.payoutsOf other) ↔
        OwnPayouts settlement.settlementId payouts node.listWorkerPayouts := by
    obtain ⟨⟨_, ⟨⟩⟩, -⟩ | rfl | ⟨-, rfl⟩ := importProposal_after hcheck himport
    · exact payoutsOf_withProposedPayouts_iff rfl
    · exact payoutsOf_withProposedPayouts_iff rfl
  rw [← hpayouts]
  constructor
  · intro h other hother
    exact (h other hother).2
  · intro h other hother
    exact ⟨importProposal_settlementsOf hcheck himport hother, h other hother⟩

end Frame

section Sample

/-- The payout of another settlement. -/
def sampleForeignPayout : WorkerPayoutRecord where
  payoutId := "p"
  createdAt := "2026-01-01T00:00:00+00:00"
  settlementId := "theirs"
  receiptId := "r"
  modelId := "m"
  nodeId := "n"
  runnerId := none
  layerStart := none
  layerEnd := none
  layerCount := 1
  shareBps := 10000
  rewardAtomic := 7

/-- A node with that payout. -/
def sampleImporter : Node := { payouts := [sampleForeignPayout] }

/-- A proposal of a settlement of three units, with one payout. -/
def sampleProposal (payoutId : String) : Json :=
  .obj [("settlement", .obj [("settlement_id", .str "ours"), ("created_at", .str "t"),
      ("source_wallet_id", .str "w"), ("source_wallet_address", .str "a"),
      ("funding_source", .str "wallet"), ("compute_cost_atomic", .int 3), ("tx_fee_atomic", .int 0),
      ("settlement_fee_atomic", .int 0), ("worker_reward_atomic", .int 3),
      ("balance_audit", .obj [("signed_envelope", .obj [("required", .bool false)])])]),
    ("worker_payouts", .arr [.obj [("payout_id", .str payoutId), ("created_at", .str "t"),
      ("settlement_id", .str "ours"), ("receipt_id", .str "r"), ("model_id", .str "m"),
      ("node_id", .str "n"), ("runner_id", .null), ("layer_start", .null), ("layer_end", .null),
      ("layer_count", .int 1), ("share_bps", .int 10000), ("reward_atomic", .int 3)]])]

/-- The payout of the proposal. -/
def sampleProposedPayout (payoutId : String) : WorkerPayoutRecord where
  payoutId := payoutId
  createdAt := "t"
  settlementId := "ours"
  receiptId := "r"
  modelId := "m"
  nodeId := "n"
  runnerId := none
  layerStart := none
  layerEnd := none
  layerCount := 1
  shareBps := 10000
  rewardAtomic := 3
  rewardTokenCode := some "CAICN"

theorem importProposal_frame_iff_own : ∃ settlement result after,
      checkProposal sampleHost sampleFundingMoney (sampleProposal "q") =
          .ok (settlement, [sampleProposedPayout "q"]) ∧
        importSettlementProposalPayload sampleHost sampleFundingMoney (sampleProposal "q")
          sampleImporter = (.ok result, after) ∧
        ∀ other, other ≠ settlement.settlementId →
          after.settlementsOf other = sampleImporter.settlementsOf other ∧
            after.payoutsOf other = sampleImporter.payoutsOf other := by
  obtain ⟨settlement, hcheck, hid⟩ : ∃ settlement,
      checkProposal sampleHost sampleFundingMoney (sampleProposal "q") =
        .ok (settlement, [sampleProposedPayout "q"]) ∧ settlement.settlementId = "ours" :=
    ⟨_, rfl, rfl⟩
  obtain ⟨result, after, himport⟩ : ∃ result after,
      importSettlementProposalPayload sampleHost sampleFundingMoney (sampleProposal "q")
        sampleImporter = (.ok result, after) := ⟨_, _, rfl⟩
  refine ⟨settlement, result, after, hcheck, himport,
    (importProposal_frame_iff hcheck himport).mpr
      ⟨fun old hold new hnew => ?_, fun new hnew _ => ?_⟩⟩
  · have hnew' : new = sampleProposedPayout "q" := mem_singleton.mp (Table.mem_of_findLast hnew)
    have hold' : old = sampleForeignPayout := mem_singleton.mp (Table.mem_of_findLast hold)
    have hkey := Table.key_of_findLast hnew
    rw [hnew', hold'] at hkey
    exact absurd hkey (by decide)
  · rw [mem_singleton.mp hnew, hid]
    rfl

/-- A proposal with the payout id of another settlement is accepted, and the payout of the other
settlement is gone. -/
theorem foreignPayout_replaced :
    ∃ result after, importSettlementProposalPayload sampleHost sampleFundingMoney
        (sampleProposal "p") sampleImporter = (.ok result, after) ∧
      result.settlementId = "ours" ∧ sampleImporter.payoutsOf "theirs" = [sampleForeignPayout] ∧
      after.payoutsOf "theirs" = [] := by
  refine ⟨_, _, rfl, rfl, by decide +kernel, by decide +kernel⟩

end Sample

end CaiNetwork
