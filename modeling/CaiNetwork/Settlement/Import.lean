/-
CaiNetwork/Settlement/Import.lean

Settlement proposals of other nodes (`export_settlement_proposal_payload`,
`import_settlement_proposal_payload`).

The record of a proposal is taken over with its committee; only the state of the votes is reset.
A dictionary is a record when it has the fields of the record and the values have the declared
types (`settlementOfFields`, `payoutOfFields`); the program itself does not look at the types, and
what it does with other values is not modelled.
-/

import CaiNetwork.Settlement.Lifecycle

namespace CaiNetwork

/-! ### Reading values -/

namespace Json

/-- A string. -/
def asStr : Json → Option String
  | .str s => some s
  | _ => none

/-- An integer. -/
def asInt : Json → Option Int
  | .int n => some n
  | _ => none

/-- `None` or a string. -/
def asOptStr : Json → Option (Option String)
  | .null => some none
  | .str s => some (some s)
  | _ => none

/-- `None` or an integer. -/
def asOptInt : Json → Option (Option Int)
  | .null => some none
  | .int n => some (some n)
  | _ => none

/-- A list of strings. -/
def asStrList : Json → Option (List String)
  | .arr xs => xs.mapM asStr
  | _ => none

/-- A dictionary. -/
def asObj : Json → Option Fields
  | .obj kvs => some kvs
  | _ => none

/-- A dictionary of integers. -/
def asTally : Json → Option (Tally String)
  | .obj kvs => kvs.mapM fun e => e.2.asInt.map fun n => (e.1, n)
  | _ => none

end Json

/-- A field that the constructor requires. -/
def requiredField {α : Type} (read : Json → Option α) (kvs : Fields) (k : String) :
    Option α := do
  read (← kvs.lookup k)

/-- A field with a default. -/
def defaultField {α : Type} (read : Json → Option α) (kvs : Fields) (k : String)
    (default : α) : Option α :=
  match kvs.lookup k with
  | none => some default
  | some v => read v

/-! ### Records from dictionaries -/

/-- The fields of `SettlementRecord`. -/
def settlementFieldNames : List String :=
  ["settlement_id", "created_at", "source_wallet_id", "source_wallet_address", "funding_source",
    "compute_cost_atomic", "tx_fee_atomic", "settlement_fee_atomic", "worker_reward_atomic",
    "committee_selection_seed", "committee_target_size", "committee_selection_mode",
    "committee_validator_ids", "committee_bonded_atomic_by_validator_id",
    "committee_total_bonded_atomic", "committee_quorum_bond_atomic", "reward_token_code",
    "ai_development_fee_atomic", "ai_development_wallet_id", "ai_development_address",
    "ai_development_credited_wallet_id", "accepted_attestations", "rejected_attestations",
    "accepted_bond_atomic", "rejected_bond_atomic", "status", "note",
    "source_wallet_debit_atomic", "reserve_debit_atomic", "reserve_limit_identity_keys",
    "reserve_client_ip_hash", "applied_at", "applied_by_validator_id", "balance_audit"]

/-- `_coerce_settlement_record` and the resets that follow it.  The fields that are reset may hold
any value. -/
def settlementOfFields (money : MoneyPolicy) (kvs : Fields) :
    Option SettlementRecord := do
  guard (kvs.all fun e => e.1 ∈ settlementFieldNames)
  return {
    settlementId := ← requiredField Json.asStr kvs "settlement_id"
    createdAt := ← requiredField Json.asStr kvs "created_at"
    sourceWalletId := ← requiredField Json.asStr kvs "source_wallet_id"
    sourceWalletAddress := ← requiredField Json.asStr kvs "source_wallet_address"
    fundingSource := ← requiredField Json.asStr kvs "funding_source"
    computeCostAtomic := ← requiredField Json.asInt kvs "compute_cost_atomic"
    txFeeAtomic := ← requiredField Json.asInt kvs "tx_fee_atomic"
    settlementFeeAtomic := ← requiredField Json.asInt kvs "settlement_fee_atomic"
    workerRewardAtomic := ← requiredField Json.asInt kvs "worker_reward_atomic"
    committeeSelectionSeed := ← defaultField Json.asOptStr kvs "committee_selection_seed" none
    committeeTargetSize := ← defaultField Json.asInt kvs "committee_target_size" 0
    committeeSelectionMode := ← defaultField Json.asStr kvs "committee_selection_mode" "all_bonded"
    committeeValidatorIds := ← defaultField Json.asStrList kvs "committee_validator_ids" []
    committeeBondedAtomicByValidatorId :=
      ← defaultField Json.asTally kvs "committee_bonded_atomic_by_validator_id" []
    committeeTotalBondedAtomic := ← defaultField Json.asInt kvs "committee_total_bonded_atomic" 0
    committeeQuorumBondAtomic := ← defaultField Json.asInt kvs "committee_quorum_bond_atomic" 0
    rewardTokenCode :=
      ← defaultField Json.asOptStr kvs "reward_token_code" (some money.rewardTokenCode)
    aiDevelopmentFeeAtomic := ← defaultField Json.asInt kvs "ai_development_fee_atomic" 0
    aiDevelopmentWalletId :=
      ← defaultField Json.asOptStr kvs "ai_development_wallet_id" (some money.aiDevelopmentWalletId)
    aiDevelopmentAddress :=
      ← defaultField Json.asOptStr kvs "ai_development_address" (some money.aiDevelopmentAddress)
    note := ← defaultField Json.asOptStr kvs "note" none
    sourceWalletDebitAtomic := ← defaultField Json.asInt kvs "source_wallet_debit_atomic" 0
    reserveDebitAtomic := ← defaultField Json.asInt kvs "reserve_debit_atomic" 0
    reserveLimitIdentityKeys := ← defaultField Json.asStrList kvs "reserve_limit_identity_keys" []
    reserveClientIpHash := ← defaultField Json.asOptStr kvs "reserve_client_ip_hash" none
    balanceAudit := ← defaultField Json.asObj kvs "balance_audit" [] }

/-- The fields of `WorkerPayoutRecord`. -/
def payoutFieldNames : List String :=
  ["payout_id", "created_at", "settlement_id", "receipt_id", "model_id", "node_id", "runner_id",
    "layer_start", "layer_end", "layer_count", "share_bps", "reward_atomic", "reward_token_code",
    "recipient_address", "credited_wallet_id", "status", "note"]

/-- `_coerce_worker_payout_record`: whatever the proposal says, the payout is not credited and
its status is the one of a new payout. -/
def payoutOfFields (money : MoneyPolicy) (kvs : Fields) :
    Option WorkerPayoutRecord := do
  guard (kvs.all fun e => e.1 ∈ payoutFieldNames)
  let recipient ← defaultField Json.asOptStr kvs "recipient_address" none
  return {
    payoutId := ← requiredField Json.asStr kvs "payout_id"
    createdAt := ← requiredField Json.asStr kvs "created_at"
    settlementId := ← requiredField Json.asStr kvs "settlement_id"
    receiptId := ← requiredField Json.asStr kvs "receipt_id"
    modelId := ← requiredField Json.asStr kvs "model_id"
    nodeId := ← requiredField Json.asStr kvs "node_id"
    runnerId := ← requiredField Json.asOptStr kvs "runner_id"
    layerStart := ← requiredField Json.asOptInt kvs "layer_start"
    layerEnd := ← requiredField Json.asOptInt kvs "layer_end"
    layerCount := ← requiredField Json.asInt kvs "layer_count"
    shareBps := ← requiredField Json.asInt kvs "share_bps"
    rewardAtomic := ← requiredField Json.asInt kvs "reward_atomic"
    rewardTokenCode :=
      ← defaultField Json.asOptStr kvs "reward_token_code" (some money.rewardTokenCode)
    recipientAddress := recipient
    creditedWalletId := none
    status := if strip (recipient.getD "") = "" then .unbound else .pendingSettlement
    note := ← defaultField Json.asOptStr kvs "note" none }

/-! ### Importing -/

variable (host : Host)

/-- A reading that raises a `TypeError` when there is nothing. -/
def orTypeError {α : Type} : Option α → Except PyError α
  | some a => .ok a
  | none => .error .typeError

/-- The checks of `import_settlement_proposal_payload` that do not look at the files: the record
and the payouts of an acceptable proposal. -/
def checkProposal (money : MoneyPolicy) (payload : Json) :
    Except PyError (SettlementRecord × List WorkerPayoutRecord) := do
  let .obj kvs := payload
    | throw (.valueError "Settlement proposal payload must be an object.")
  let .obj raw := Json.getD kvs "settlement"
    | throw (.valueError "Settlement proposal is missing settlement record.")
  let settlement ← orTypeError (settlementOfFields money raw)
  match verifySettlementEnvelope host money settlement with
  | some message => throw (.valueError message)
  | none =>
    let .arr rawPayouts := (Json.getD kvs "worker_payouts").pyOr (.arr [])
      | throw (.valueError "Settlement proposal worker_payouts must be a list.")
    let payouts ← orTypeError ((rawPayouts.filterMap Json.asObj).mapM
      (payoutOfFields (.ofNetwork host host.activeNetwork)))
    let errors := validateSettlementAccounting money settlement payouts
    if errors ≠ [] then
      throw (.valueError ("Settlement payout accounting mismatch: " ++ " ".intercalate errors))
    return (settlement, payouts)

/-- `_upsert_worker_payout_records`: a payout whose id is known before the loop takes the place of
the last record with it, the others are appended. -/
def upsertWorkerPayouts (payouts existing : List WorkerPayoutRecord) : List WorkerPayoutRecord :=
  Table.upsertAll WorkerPayoutRecord.payoutId payouts existing

/-- `import_settlement_proposal_payload`. -/
def importSettlementProposalPayload (money : MoneyPolicy) (payload : Json) :
    NodeAction SettlementRecord := do
  let (settlement, payouts) ← .lift (checkProposal host money payload)
  let node ← get
  match node.resolveSettlement settlement.settlementId with
  | some existing =>
    if settlementEnvelopeHash (settlementEnvelopePayload host money existing) ≠
        settlementEnvelopeHash (settlementEnvelopePayload host money settlement) then
      throw (.valueError "Existing settlement envelope differs from proposal.")
  | none => set { node with settlements := node.listSettlements ++ [settlement] }
  if payouts ≠ [] then
    modify fun node => { node with payouts := upsertWorkerPayouts payouts node.listWorkerPayouts }
  return ((← get).resolveSettlement settlement.settlementId).getD settlement

/-! ### New payouts -/

/-- A participant of a job. -/
structure Participant where
  nodeId : String
  rewardAtomic : Int
  runnerId : Option String := none
  layerStart : Option Int := none
  layerEnd : Option Int := none
  layerCount : Int
  shareBps : Int
  note : Option String := none

/-- The arguments of `record_worker_payouts`, every participant with the random id that is drawn
for its payout. -/
structure PayoutArgs where
  settlementId : String
  receiptId : String
  modelId : String
  participants : List (String × Participant)

/-- The payout of a participant. -/
def newPayout (money : MoneyPolicy) (moment : Moment) (node : Node) (args : PayoutArgs)
    (token : String) (item : Participant) : WorkerPayoutRecord :=
  let recipient := node.resolveWorkerRewardAddress item.nodeId
  { payoutId := token
    createdAt := moment.now.text
    settlementId := args.settlementId
    receiptId := args.receiptId
    modelId := args.modelId
    nodeId := item.nodeId
    runnerId := item.runnerId
    layerStart := item.layerStart
    layerEnd := item.layerEnd
    layerCount := item.layerCount
    shareBps := item.shareBps
    rewardAtomic := item.rewardAtomic
    rewardTokenCode := some money.rewardTokenCode
    recipientAddress := recipient
    creditedWalletId := none
    status := if recipient = none then .unbound else .pendingSettlement
    note := item.note }

/-- The end of `record_worker_payouts`: the account goes into the audit, and the payouts of a
settlement that is applied already are credited. -/
def finishWorkerPayouts (money : MoneyPolicy) (moment : Moment)
    (settlement : Option SettlementRecord) (records : List WorkerPayoutRecord) :
    NodeAction Unit := do
  match settlement with
  | none => return
  | some settlement =>
    let settlement ← saveSettlementBalanceAudit settlement
      (Json.set settlement.balanceAudit "payouts"
        (settlementWorkerPayoutAccounting money settlement records))
    if settlement.status = .applied ∨ settlement.appliedAt ≠ none then
      applyFinalizedWorkerPayouts host moment settlement.settlementId

/-- The errors of new payouts; without a settlement there is nothing to compare with. -/
def newPayoutErrors (money : MoneyPolicy) (settlement : Option SettlementRecord)
    (records : List WorkerPayoutRecord) : List String :=
  match settlement with
  | none => []
  | some settlement => validateSettlementAccounting money settlement records

/-- `record_worker_payouts`. -/
def recordWorkerPayouts (money : MoneyPolicy) (moment : Moment) (args : PayoutArgs) :
    NodeAction Unit := do
  let node ← get
  let settlement := node.resolveSettlement args.settlementId
  let existing := (node.payoutsOf args.settlementId).filter fun item =>
    item.receiptId = args.receiptId
  if existing ≠ [] then
    finishWorkerPayouts host money moment settlement existing
  else
    let records := args.participants.map fun entry =>
      newPayout money moment node args entry.1 entry.2
    let errors := newPayoutErrors money settlement records
    if errors ≠ [] then
      throw (.valueError ("Settlement payout accounting mismatch: " ++ " ".intercalate errors))
    modify fun node => { node with payouts := node.listWorkerPayouts ++ records }
    finishWorkerPayouts host money moment settlement records

/-- `bind_worker_reward_address`. -/
def bindWorkerRewardAddress (nodeId address : String) : NodeAction Unit :=
  modify fun node => { node with
    rewardAddresses := (nodeId, host.normalizeAddress address) ::
      node.rewardAddresses.filter fun entry => entry.1 ≠ nodeId }

end CaiNetwork
