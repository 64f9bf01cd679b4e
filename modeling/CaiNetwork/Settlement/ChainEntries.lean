/-
CaiNetwork/Settlement/ChainEntries.lean

The chain entries of an applied settlement (`record_chain_entries_for_settlement`).

An applied settlement is written to the chain as one block.  The recording can be repeated; a
transaction whose id or whose nonce is on the chain already is left out (`missingTransactions`),
and the block of what is left has to pass the append by itself.
-/

import CaiNetwork.History
import CaiNetwork.Settlement.Envelope

namespace CaiNetwork

variable (host : Host) (policy : WalletPolicy) (money : MoneyPolicy)

/-! ### Amounts -/

/-- `_optional_int`. -/
def optionalInt (value : Json) : Except PyError (Option Int) :=
  match value with
  | .null => .ok none
  | v =>
    match host.int v with
    | .ok n => .ok (some n)
    | .error (.valueError _) => .ok none
    | .error .typeError => .ok none
    | .error e => .error e

/-- `_settlement_execution_pricing_audit`. -/
def settlementPricingAudit (settlement : SettlementRecord) : Fields :=
  match Json.getD settlement.balanceAudit "execution" with
  | .obj execution =>
    match Json.getD execution "pricing" with
    | .obj pricing => pricing
    | _ => []
  | _ => []

/-- `_settlement_reserved_compute_atomic`. -/
def settlementReservedComputeAtomic (settlement : SettlementRecord) :
    Except PyError (Option Int) :=
  optionalInt host (Json.getD (settlementPricingAudit settlement) "reserved_compute_cost_atomic")

/-- `_settlement_reservation_surplus_atomic`. -/
def settlementReservationSurplusAtomic (settlement : SettlementRecord) : Except PyError Int := do
  match ← optionalInt host
      (Json.getD (settlementPricingAudit settlement) "reservation_surplus_atomic") with
  | some surplus => return max 0 surplus
  | none =>
    match ← settlementReservedComputeAtomic host settlement with
    | none => return 0
    | some reserved => return max 0 (reserved - settlement.computeCostAtomic)

/-- `_validator_fee_payout_split`. -/
def validatorFeePayoutSplit (settlement : SettlementRecord) (amountAtomic : Int) :
    List ValidatorFeeShare :=
  splitAmountByValidatorBond host (max 0 amountAtomic)
    settlement.committeeBondedAtomicByValidatorId settlement.committeeValidatorIds

/-! ### The transactions -/

variable (now : Timestamp) (settlement : SettlementRecord)

/-- A transaction of the settlement, with the arguments that all of them share. -/
def settlementTransaction (args : TransactionArgs) : ChainTransaction :=
  makeChainTransaction host now { args with
    settlementId := some settlement.settlementId
    chainId := some money.chainNetwork.value }

/-- `str(settlement.source_wallet_address or "").strip()`. -/
def SettlementRecord.sourceAddress (settlement : SettlementRecord) : String :=
  strip settlement.sourceWalletAddress

/-- The debit of the source wallet. -/
def walletDebitTransactions : List ChainTransaction :=
  let debit := max 0 settlement.sourceWalletDebitAtomic
  if 0 < debit ∧ settlement.sourceAddress ≠ "" then
    [settlementTransaction host money now settlement
      { txType := "settlement_wallet_debit"
        address := settlement.sourceAddress
        deltaAtomic := -debit
        walletId := some settlement.sourceWalletId
        note := some s!"Wallet debit for finalized settlement {settlement.settlementId}."
        nonce := some s!"{settlement.settlementId}:wallet-debit"
        metadata := [("reward_token_code", .str money.rewardTokenCode),
          ("funding_source", .str settlement.fundingSource)] }]
  else []

/-- The note that a reservation was larger than the cost; it moves nothing. -/
def surplusTransactions : Except PyError (List ChainTransaction) := do
  let surplus ← settlementReservationSurplusAtomic host settlement
  if 0 < surplus ∧ settlement.sourceAddress ≠ "" then
    let reserved ← settlementReservedComputeAtomic host settlement
    return [settlementTransaction host money now settlement
      { txType := "settlement_reservation_surplus_release"
        address := settlement.sourceAddress
        deltaAtomic := 0
        walletId := some settlement.sourceWalletId
        note := some ("Reservation surplus released for finalized settlement " ++
          s!"{settlement.settlementId}.")
        nonce := some s!"{settlement.settlementId}:reservation-surplus-release"
        metadata := [("reward_token_code", .str money.rewardTokenCode),
          ("funding_source", .str settlement.fundingSource),
          ("reserved_compute_cost_atomic", (reserved.map Json.int).getD .null),
          ("actual_compute_cost_atomic", .int settlement.computeCostAtomic),
          ("reservation_surplus_atomic", .int surplus)] }]
  else return []

/-- The debit of the compute reserve. -/
def reserveDebitTransactions : List ChainTransaction :=
  let debit := max 0 settlement.reserveDebitAtomic
  if 0 < debit then
    [settlementTransaction host money now settlement
      { txType := "settlement_compute_reserve_debit"
        address := computeReserveChainAddress host money
        deltaAtomic := -debit
        walletId := some s!"system-compute-reserve-{money.chainNetwork.value}"
        note := some s!"Compute reserve debit for finalized settlement {settlement.settlementId}."
        nonce := some s!"{settlement.settlementId}:reserve-debit"
        metadata := [("reward_token_code", .str money.rewardTokenCode),
          ("funding_source", .str settlement.fundingSource),
          ("source_wallet_id", .str settlement.sourceWalletId),
          ("source_wallet_address", .str settlement.sourceWalletAddress),
          ("compute_cost_atomic", .int settlement.computeCostAtomic),
          ("reserve_debit_atomic", .int debit),
          ("reserve_limit_identity_keys",
            .arr (settlement.reserveLimitIdentityKeys.map Json.str)),
          ("reserve_client_ip_hash", optStr settlement.reserveClientIpHash)] }]
  else []

/-- What distinguishes the two fees of a settlement on the chain. -/
structure FeeKind where
  poolAddress : String
  poolTxType : String
  poolWalletId : String
  poolNote : String
  poolNonce : String
  /-- The pool entry of the settlement fee names the committee, that of the other fee does not. -/
  poolNamesCommittee : Bool
  payoutTxType : String
  payoutNote : String
  payoutNonce : String → String

/-- The committee, as the metadata of a fee names it. -/
def committeeMetadata : Fields :=
  [("committee_validator_ids", .arr (settlement.committeeValidatorIds.map Json.str)),
    ("committee_quorum_bond_atomic", .int settlement.committeeQuorumBondAtomic)]

/-- The metadata every entry of a fee starts with. -/
def feeMetadata : Fields :=
  [("reward_token_code", .str money.rewardTokenCode),
    ("funding_source", .str settlement.fundingSource),
    ("source_wallet_id", .str settlement.sourceWalletId),
    ("source_wallet_address", .str settlement.sourceWalletAddress)]

/-- The share of one validator in a fee. -/
def feeShareTransaction (records : List ValidatorRecord) (kind : FeeKind) (totalBonded : Int)
    (share : ValidatorFeeShare) : ChainTransaction :=
  settlementTransaction host money now settlement
    { txType := kind.payoutTxType
      address := share.validatorId
      deltaAtomic := share.amountAtomic
      walletId := (getValidatorRecord records share.validatorId).bind ValidatorRecord.walletId
      note := some kind.payoutNote
      nonce := some (kind.payoutNonce share.validatorId)
      metadata := feeMetadata money settlement ++
        [("validator_id", .str share.validatorId),
          ("validator_bonded_atomic", .int share.bondedAtomic),
          ("committee_total_bonded_atomic", .int totalBonded)] ++
        committeeMetadata settlement ++ [("distribution", .str "committee_bond_weighted")] }

/-- The fee that goes to a pool. -/
def feePoolTransaction (kind : FeeKind) (fee : Int) : ChainTransaction :=
  settlementTransaction host money now settlement
    { txType := kind.poolTxType
      address := kind.poolAddress
      deltaAtomic := fee
      walletId := some kind.poolWalletId
      note := some kind.poolNote
      nonce := some kind.poolNonce
      metadata := feeMetadata money settlement ++
        (if kind.poolNamesCommittee then committeeMetadata settlement else []) ++
        [("distribution", .str "legacy_pool")] }

/-- The entries of a fee: shares of the committee, or one credit of the pool when there is no
committee or the pool was credited before. -/
def feeTransactions (records : List ValidatorRecord) (history : List ChainTransaction)
    (kind : FeeKind) (feeAtomic : Int) : List ChainTransaction :=
  let fee := max 0 feeAtomic
  if 0 < fee then
    let legacy := history.any fun tx => tx.txType = kind.poolTxType ∧
      host.normalizeAddress tx.address = host.normalizeAddress kind.poolAddress
    let shares := validatorFeePayoutSplit host settlement fee
    if shares ≠ [] ∧ legacy = false then
      shares.map (feeShareTransaction host money now settlement records kind
        (shares.map ValidatorFeeShare.bondedAtomic).sum)
    else [feePoolTransaction host money now settlement kind fee]
  else []

/-- The transaction fee. -/
def txFeeKind : FeeKind where
  poolAddress := txFeePoolChainAddress host money
  poolTxType := "settlement_tx_fee_credit"
  poolWalletId := s!"system-tx-fee-pool-{money.chainNetwork.value}"
  poolNote := s!"Transaction fee from finalized settlement {settlement.settlementId}."
  poolNonce := s!"{settlement.settlementId}:tx-fee"
  poolNamesCommittee := false
  payoutTxType := "validator_tx_fee_payout"
  payoutNote := s!"Validator tx fee payout for {settlement.settlementId}."
  payoutNonce validatorId := s!"{settlement.settlementId}:tx-fee:{validatorId}"

/-- The settlement fee. -/
def settlementFeeKind : FeeKind where
  poolAddress := validatorSettlementFeePoolChainAddress host money
  poolTxType := "settlement_validator_fee_credit"
  poolWalletId := s!"system-validator-settlement-fee-pool-{money.chainNetwork.value}"
  poolNote := s!"Validator settlement fee from finalized settlement {settlement.settlementId}."
  poolNonce := s!"{settlement.settlementId}:validator-settlement-fee"
  poolNamesCommittee := true
  payoutTxType := "validator_settlement_fee_payout"
  payoutNote := s!"Validator settlement fee payout for {settlement.settlementId}."
  payoutNonce validatorId :=
    s!"{settlement.settlementId}:validator-settlement-fee:{validatorId}"

/-- The credit of the development fund. -/
def aiDevelopmentTransactions : List ChainTransaction :=
  let fee := max 0 settlement.aiDevelopmentFeeAtomic
  let address := strip (settlement.aiDevelopmentAddress.getD "")
  if 0 < fee ∧ address ≠ "" then
    [settlementTransaction host money now settlement
      { txType := "ai_development_fee_credit"
        address := address
        deltaAtomic := fee
        walletId := settlement.aiDevelopmentWalletId
        note := some s!"AI development fee from finalized settlement {settlement.settlementId}."
        nonce := some s!"{settlement.settlementId}:ai-development-fee"
        metadata := [("reward_token_code", .str money.rewardTokenCode)] }]
  else []

/-- The credit of a worker, at the address it has when it is recorded. -/
def workerRewardTransaction (recipient : String) (payout : WorkerPayoutRecord) :
    ChainTransaction :=
  settlementTransaction host money now settlement
    { txType := "worker_reward_credit"
      address := recipient
      deltaAtomic := max 0 payout.rewardAtomic
      payoutId := some payout.payoutId
      walletId := payout.creditedWalletId
      note := some s!"Worker reward for node {payout.nodeId}."
      nonce := some s!"{settlement.settlementId}:worker-reward:{payout.payoutId}"
      metadata := [("node_id", .str payout.nodeId), ("runner_id", optStr payout.runnerId),
        ("model_id", .str payout.modelId), ("share_bps", .int payout.shareBps),
        ("reward_token_code",
          .str ((nonempty? payout.rewardTokenCode).getD money.rewardTokenCode))] }

/-! ### Recording -/

/-- `payout.recipient_address or resolve_worker_reward_address(payout.node_id)`. -/
def payoutRecipient (node : Node) (payout : WorkerPayoutRecord) : Option String :=
  match nonempty? payout.recipientAddress with
  | some address => some address
  | none => nonempty? (node.resolveWorkerRewardAddress payout.nodeId)

/-- The payouts of the settlement that have an address, with that address. -/
def payableWorkers (node : Node) : List (String × WorkerPayoutRecord) :=
  (node.payoutsOf settlement.settlementId).filterMap fun payout =>
    (payoutRecipient node payout).map fun recipient => (recipient, payout)

/-- The addresses that the recording resolves are written into the payouts; without any the file
stays as it is. -/
def boundPayouts (node : Node) : List WorkerPayoutRecord :=
  if (payableWorkers settlement node).all fun entry => entry.2.recipientAddress = some entry.1 then
    node.payouts
  else
    (payableWorkers settlement node).foldl (fun payouts entry =>
      if entry.2.recipientAddress = some entry.1 then payouts
      else Table.update WorkerPayoutRecord.payoutId entry.2.payoutId
        (fun payout => { payout with recipientAddress := some entry.1 }) payouts)
      node.listWorkerPayouts

/-- `_record_if_missing`, over the whole list: a transaction whose id or nonce is known is left
out, and the others become known. -/
def missingTransactions : List String → List (String × String) → List ChainTransaction →
    List ChainTransaction
  | _, _, [] => []
  | ids, nonces, tx :: txs =>
    let txId := strip tx.txId
    if txId ≠ "" ∧ txId ∈ ids then missingTransactions ids nonces txs
    else
      match nonceKey host tx with
      | none => tx :: missingTransactions (if txId = "" then ids else txId :: ids) nonces txs
      | some key =>
        if key ∈ nonces then missingTransactions ids nonces txs
        else tx :: missingTransactions (if txId = "" then ids else txId :: ids) (key :: nonces) txs

/-- `recorded_tx_ids`. -/
def recordedTxIds (history : List ChainTransaction) : List String :=
  (history.map fun tx => strip tx.txId).filter (· ≠ "")

/-- `recorded_nonces`. -/
def recordedNonces (history : List ChainTransaction) : List (String × String) :=
  (history.filter fun tx => strip tx.address ≠ "").filterMap (nonceKey host)

/-- All transactions of the settlement, in the order of the source. -/
def settlementTransactions (records : List ValidatorRecord) (history : List ChainTransaction)
    (surplus : List ChainTransaction) (workers : List (String × WorkerPayoutRecord)) :
    List ChainTransaction :=
  walletDebitTransactions host money now settlement ++ surplus ++
  reserveDebitTransactions host money now settlement ++
  feeTransactions host money now settlement records history (txFeeKind host money settlement)
    settlement.txFeeAtomic ++
  feeTransactions host money now settlement records history
    (settlementFeeKind host money settlement) settlement.settlementFeeAtomic ++
  aiDevelopmentTransactions host money now settlement ++
  workers.map fun entry => workerRewardTransaction host money now settlement entry.1 entry.2

/-- `record_chain_entries_for_settlement`; the balances it notes in the audit are left out. -/
def recordChainEntriesForSettlement (moment : Moment) : NodeAction Nat := do
  if settlement.status ≠ .applied ∧ settlement.appliedAt = none then return 0
  let _ ← onChain (ensureChainGenesis host policy money moment)
  let blocks ← readBlocks host policy moment
  let history := (chainSettlementHistory host blocks settlement.settlementId).map HistoryEntry.tx
  let surplus ← .lift (surplusTransactions host money moment.now settlement)
  let node ← get
  let pending := missingTransactions host (recordedTxIds history) (recordedNonces host history)
    (settlementTransactions host money moment.now settlement node.records history surplus
      (payableWorkers settlement node))
  set { node with payouts := boundPayouts settlement node }
  let _ ← onChain (appendChainBlock host policy moment settlement.appliedByValidatorId pending)
  return pending.length

/-- `record_chain_entries_for_finalized_settlements`. -/
def recordChainEntriesForFinalizedSettlements (moment : Moment) (onlyIfChainRecorded : Bool) :
    NodeAction Nat := do
  let counts ← Action.each (fun settlement => do
    if settlement.status = .applied ∨ settlement.appliedAt ≠ none then
      let blocks ← readBlocks host policy moment
      if onlyIfChainRecorded ∧
          chainSettlementHistory host blocks settlement.settlementId (some 1) = []
      then return 0
      else recordChainEntriesForSettlement host policy money settlement moment
    else return 0) (← get).listSettlements
  return counts.sum

end CaiNetwork
