/-
CaiNetwork/Settlement/Accounting.lean

The arithmetic of a settlement: how its cost is divided, and the checks of that division
(`_settlement_worker_payout_accounting`, `validate_settlement_accounting`).

The reward is divided by layers with the largest remainders (`deterministicSplit`).  A settlement
is in order when its payouts are this division and the payouts with the two fees make up the cost
(`validateSettlementAccounting_eq_nil`).
-/

import CaiNetwork.Settlement.Records

namespace CaiNetwork

/-! ### Dictionaries -/

/-- `d[k] = v`. -/
def Json.set (kvs : Fields) (k : String) (v : Json) : Fields :=
  match kvs with
  | [] => [(k, v)]
  | e :: rest => if e.1 = k then (k, v) :: rest else e :: Json.set rest k v

theorem Json.lookup_cons_ite {k j : String} (v : Json) {kvs : Fields} :
    ((k, v) :: kvs).lookup j = if j = k then some v else kvs.lookup j := by
  by_cases hj : j = k
  · simp [hj]
  · have hne : (j == k) = false := beq_false_of_ne hj
    rw [List.lookup_cons, hne, if_neg hj]

theorem Json.lookup_set (kvs : Fields) (k j : String) (v : Json) :
    (Json.set kvs k v).lookup j = if j = k then some v else kvs.lookup j := by
  induction kvs with
  | nil => rw [Json.set, Json.lookup_cons_ite]
  | cons e rest ih =>
    obtain ⟨a, w⟩ := e
    rw [Json.set]
    by_cases ha : a = k
    · subst ha
      rw [if_pos rfl, Json.lookup_cons_ite, Json.lookup_cons_ite]
      split <;> rfl
    · rw [if_neg ha, Json.lookup_cons_ite, Json.lookup_cons_ite, ih]
      by_cases hja : j = a
      · have hjk : j ≠ k := hja ▸ ha
        rw [if_pos hja, if_neg hjk]
        simp [hja]
      · simp [hja]

/-! ### The division of the workers' reward -/

/-- `max(int(item.layer_count or 1), 1)`. -/
def WorkerPayoutRecord.weight (item : WorkerPayoutRecord) : Int :=
  max (if item.layerCount = 0 then 1 else item.layerCount) 1

/-- A payout with its whole part and its remainder. -/
structure SplitPart where
  payout : WorkerPayoutRecord
  expectedRewardAtomic : Int
  remainder : Int

/-- `key=lambda entry: (-entry[2], entry[0].node_id)`. -/
def splitPartBefore (a b : SplitPart) : Prop :=
  b.remainder < a.remainder ∨
    (a.remainder = b.remainder ∧ Json.stringLe a.payout.nodeId b.payout.nodeId = true)

instance : DecidableRel splitPartBefore := fun a b =>
  inferInstanceAs (Decidable (b.remainder < a.remainder ∨
    (a.remainder = b.remainder ∧ Json.stringLe a.payout.nodeId b.payout.nodeId = true)))

/-- `_payout_sort_key`, compared. -/
def payoutBefore (a b : SplitPart) : Prop :=
  let start : WorkerPayoutRecord → Int := fun item => item.layerStart.getD (10 ^ 9)
  let runner : WorkerPayoutRecord → String := fun item => item.runnerId.getD ""
  if a.payout.layerStart.isNone ≠ b.payout.layerStart.isNone then
    b.payout.layerStart.isNone = true
  else if start a.payout ≠ start b.payout then start a.payout < start b.payout
  else if a.payout.nodeId ≠ b.payout.nodeId then
    Json.stringLe a.payout.nodeId b.payout.nodeId = true
  else Json.stringLe (runner a.payout) (runner b.payout) = true

instance : DecidableRel payoutBefore := fun a b => by
  unfold payoutBefore
  infer_instance

/-- The units left over are handed out one by one, from the front and around. -/
def handOut (remainder : Nat) (parts : List SplitPart) : List SplitPart :=
  parts.mapIdx fun j part =>
    { part with expectedRewardAtomic := part.expectedRewardAtomic +
        ((List.range remainder).countP fun i => i % parts.length = j : Nat) }

/-- `_deterministic_worker_payout_split_audit`, as payouts with their expected rewards. -/
def deterministicSplit (totalRewardAtomic : Int) (payouts : List WorkerPayoutRecord) :
    List SplitPart :=
  if totalRewardAtomic ≤ 0 ∨ payouts = [] then []
  else
    let totalWeight := (payouts.map WorkerPayoutRecord.weight).sum
    let parts : List SplitPart := payouts.map fun item =>
      ⟨item, totalRewardAtomic * item.weight / totalWeight,
        totalRewardAtomic * item.weight % totalWeight⟩
    let left := totalRewardAtomic - (parts.map SplitPart.expectedRewardAtomic).sum
    (handOut left.toNat (parts.insertionSort splitPartBefore)).insertionSort payoutBefore

/-- An entry of `deterministic_split`. -/
def SplitPart.audit (part : SplitPart) : Json :=
  let item := part.payout
  .obj [("payout_id", .str item.payoutId), ("node_id", .str item.nodeId),
    ("runner_id", optStr item.runnerId),
    ("layer_start", (item.layerStart.map Json.int).getD .null),
    ("layer_end", (item.layerEnd.map Json.int).getD .null),
    ("layer_count", .int item.layerCount), ("share_bps", .int item.shareBps),
    ("expected_reward_atomic", .int part.expectedRewardAtomic),
    ("recorded_reward_atomic", .int item.rewardAtomic),
    ("reward_matches_expected", .bool (item.rewardAtomic = part.expectedRewardAtomic))]

/-! ### The account of a settlement -/

/-- The amounts `_settlement_worker_payout_accounting` compares. -/
structure PayoutAccount where
  expectedWorkerReward : Int
  recordedWorkerReward : Int
  settlementFee : Int
  aiDevelopmentFee : Int
  computeCost : Int
  expectedSettlementFee : Int
  expectedAiDevelopmentFee : Int
  split : List SplitPart

/-- The account of a settlement with these payouts. -/
def payoutAccount (money : MoneyPolicy) (settlement : SettlementRecord)
    (payouts : List WorkerPayoutRecord) : PayoutAccount :=
  let computeCost := max 0 settlement.computeCostAtomic
  let expected := max 0 settlement.workerRewardAtomic
  { expectedWorkerReward := expected
    recordedWorkerReward := (payouts.map fun item => max 0 item.rewardAtomic).sum
    settlementFee := max 0 settlement.settlementFeeAtomic
    aiDevelopmentFee := max 0 settlement.aiDevelopmentFeeAtomic
    computeCost := computeCost
    expectedSettlementFee := computeCost * money.validatorSettlementFeeBps / 10000
    expectedAiDevelopmentFee := computeCost * money.aiDevelopmentFeeBps / 10000
    split := deterministicSplit expected payouts }

namespace PayoutAccount

variable (account : PayoutAccount)

/-- `worker_plus_validator_plus_ai_atomic`. -/
def workerPlusFees : Int :=
  account.recordedWorkerReward + account.settlementFee + account.aiDevelopmentFee

/-- `deterministic_split_matches`. -/
def splitMatches : Bool :=
  if account.split = [] then account.expectedWorkerReward = 0
  else account.split.all fun part => part.payout.rewardAtomic = part.expectedRewardAtomic

end PayoutAccount

/-- `_settlement_worker_payout_accounting`. -/
def settlementWorkerPayoutAccounting (money : MoneyPolicy) (settlement : SettlementRecord)
    (payouts : List WorkerPayoutRecord) : Json :=
  let account := payoutAccount money settlement payouts
  .obj [("schema_version", .int 1),
    ("reward_token_code",
      .str ((nonempty? settlement.rewardTokenCode).getD money.rewardTokenCode)),
    ("settlement_id", .str settlement.settlementId), ("payout_count", .int payouts.length),
    ("payout_ids", .arr (((payouts.map WorkerPayoutRecord.payoutId).insertionSort
      fun a b => Json.stringLe a b = true).map Json.str)),
    ("participant_node_ids", .arr ((((payouts.map WorkerPayoutRecord.nodeId).dedup).insertionSort
      fun a b => Json.stringLe a b = true).map Json.str)),
    ("deterministic_split", .arr (account.split.map SplitPart.audit)),
    ("expected_worker_reward_atomic", .int account.expectedWorkerReward),
    ("recorded_worker_reward_atomic", .int account.recordedWorkerReward),
    ("settlement_fee_atomic", .int account.settlementFee),
    ("ai_development_fee_atomic", .int account.aiDevelopmentFee),
    ("expected_settlement_fee_atomic", .int account.expectedSettlementFee),
    ("expected_ai_development_fee_atomic", .int account.expectedAiDevelopmentFee),
    ("compute_cost_atomic", .int account.computeCost),
    ("worker_plus_validator_plus_ai_atomic", .int account.workerPlusFees),
    ("settlement_fee_matches_policy",
      .bool (account.settlementFee = account.expectedSettlementFee)),
    ("ai_development_fee_matches_policy",
      .bool (account.aiDevelopmentFee = account.expectedAiDevelopmentFee)),
    ("deterministic_split_matches", .bool account.splitMatches),
    ("worker_reward_matches_payouts",
      .bool (account.recordedWorkerReward = account.expectedWorkerReward)),
    ("worker_plus_validator_plus_ai_matches_compute",
      .bool (account.workerPlusFees = account.computeCost))]

/-- `validate_settlement_accounting`. -/
def validateSettlementAccounting (money : MoneyPolicy) (settlement : SettlementRecord)
    (payouts : List WorkerPayoutRecord) : List String :=
  let account := payoutAccount money settlement payouts
  (if account.recordedWorkerReward ≠ account.expectedWorkerReward then
    ["Worker payout total does not match settlement worker reward " ++
      s!"({account.recordedWorkerReward} != {account.expectedWorkerReward})."] else []) ++
  (if account.splitMatches = false then
    ["Worker payout split does not match deterministic layer-share calculation."] else []) ++
  (if account.workerPlusFees ≠ account.computeCost then
    ["Worker payouts plus validator and AI fees do not match compute cost " ++
      s!"({account.workerPlusFees} != {account.computeCost})."] else []) ++
  (if account.settlementFee ≠ account.expectedSettlementFee then
    ["Validator settlement fee does not match policy " ++
      s!"({account.settlementFee} != {account.expectedSettlementFee})."] else []) ++
  (if account.aiDevelopmentFee ≠ account.expectedAiDevelopmentFee then
    ["AI development fee does not match policy " ++
      s!"({account.aiDevelopmentFee} != {account.expectedAiDevelopmentFee})."] else [])

/-- **A settlement in order**: the payouts are the division of the workers' reward, and with the
two fees, which are those of the policy, they make up the cost. -/
theorem validateSettlementAccounting_eq_nil {money : MoneyPolicy} {settlement : SettlementRecord}
    {payouts : List WorkerPayoutRecord} :
    validateSettlementAccounting money settlement payouts = [] ↔
      (payoutAccount money settlement payouts).recordedWorkerReward =
        max 0 settlement.workerRewardAtomic ∧
      (payoutAccount money settlement payouts).splitMatches = true ∧
      (payoutAccount money settlement payouts).workerPlusFees = max 0 settlement.computeCostAtomic ∧
      (payoutAccount money settlement payouts).settlementFee =
        (payoutAccount money settlement payouts).expectedSettlementFee ∧
      (payoutAccount money settlement payouts).aiDevelopmentFee =
        (payoutAccount money settlement payouts).expectedAiDevelopmentFee := by
  rw [validateSettlementAccounting]
  simp only [List.append_eq_nil_iff, ite_errors_eq_nil, not_not, Bool.not_eq_false, and_assoc]
  rfl

end CaiNetwork
