/-
CaiNetwork/Settlement/Lifecycle.lean

The life of a settlement (`settlement.py`): it is recorded for a funded job, gets a committee,
collects attestations, is finalized by a quorum of accepting bond, and is applied.

Applying is one operation with several writes: the wallet, the ledger, the settlement, the
payouts and the chain are written one after the other, and a failure late in the sequence keeps
the earlier writes.
-/

import CaiNetwork.Settlement.ChainEntries

namespace CaiNetwork

/-! ### Funding decisions -/

/-- `FundingSource`. -/
inductive FundingSource
  | reserve
  | wallet
deriving DecidableEq

/-- `FundingSource.value`. -/
def FundingSource.value : FundingSource → String
  | .reserve => "reserve"
  | .wallet => "wallet"

/-- `FeeQuote`. -/
structure FeeQuote where
  computeCostAtomic : Int
  txFeeAtomic : Int
  settlementFeeAtomic : Int
  aiDevelopmentFeeAtomic : Int
  workerRewardAtomic : Int
deriving DecidableEq

/-- The fields of `FundingDecision` that a settlement takes over. -/
structure FundingDecision where
  fundingSource : Option FundingSource
  feeQuote : FeeQuote
  reserveBeforeAtomic : Int
  reserveAfterAtomic : Int
  walletBeforeAtomic : Int
  walletAfterAtomic : Int
  reserveLimitIdentityKeys : List String := []
  reserveClientIpHash : Option String := none
deriving DecidableEq

/-- What the decision takes from the wallet. -/
def FundingDecision.walletDebit (decision : FundingDecision) : Int :=
  max 0 (decision.walletBeforeAtomic - decision.walletAfterAtomic)

/-- What the decision takes from the reserve. -/
def FundingDecision.reserveDebit (decision : FundingDecision) : Int :=
  max 0 (decision.reserveBeforeAtomic - decision.reserveAfterAtomic)

/-! ### Recording a settlement -/

variable (host : Host) (policy : WalletPolicy)
variable (money : MoneyPolicy) (moment : Moment) (settlement item : SettlementRecord)
  (settlementId : String)

/-- `_initial_settlement_balance_audit`. -/
def initialSettlementBalanceAudit (sourceWalletId sourceWalletAddress : String)
    (decision : FundingDecision) (validatorSyncAudit : Option Json) : Fields :=
  let quote := decision.feeQuote
  let rewardPlusFees :=
    quote.workerRewardAtomic + quote.settlementFeeAtomic + quote.aiDevelopmentFeeAtomic
  [("schema_version", .int 1), ("network", .str money.chainNetwork.value),
    ("reward_token_code", .str money.rewardTokenCode), ("source_wallet_id", .str sourceWalletId),
    ("source_wallet_address", .str sourceWalletAddress),
    ("funding_source", optStr (decision.fundingSource.map FundingSource.value)),
    ("quote", .obj [("reserve_before_atomic", .int decision.reserveBeforeAtomic),
      ("reserve_after_atomic", .int decision.reserveAfterAtomic),
      ("wallet_before_atomic", .int decision.walletBeforeAtomic),
      ("wallet_after_atomic", .int decision.walletAfterAtomic)]),
    ("debits", .obj [("source_wallet_debit_atomic", .int decision.walletDebit),
      ("reserve_debit_atomic", .int decision.reserveDebit),
      ("reserve_limit_identity_keys", .arr (decision.reserveLimitIdentityKeys.map Json.str)),
      ("reserve_client_ip_hash", optStr decision.reserveClientIpHash)]),
    ("fees", .obj [("compute_cost_atomic", .int quote.computeCostAtomic),
      ("tx_fee_atomic", .int quote.txFeeAtomic),
      ("settlement_fee_atomic", .int quote.settlementFeeAtomic),
      ("ai_development_fee_atomic", .int quote.aiDevelopmentFeeAtomic),
      ("worker_reward_atomic", .int quote.workerRewardAtomic),
      ("worker_reward_plus_fees_atomic", .int rewardPlusFees),
      ("worker_plus_validator_plus_ai_matches_compute",
        .bool (rewardPlusFees = quote.computeCostAtomic))])] ++
  (validatorSyncAudit.map fun audit => ("pre_settlement_validator_sync", audit.sortKeys)).toList

/-- The arguments of `record_funding_settlement`. -/
structure FundingArgs where
  sourceWalletId : String
  sourceWalletAddress : String
  decision : FundingDecision
  note : Option String := none
  /-- The outcome of the sync with the peers, if there was one. -/
  validatorSyncAudit : Option Json := none

/-- The committee that the node draws now (`select_validator_committee_snapshot`). -/
def drawCommittee (selectionSeed : String)
    (targetSize : Option Int) : NodeAction ValidatorCommitteeSnapshot := do
  let blocks ← readBlocks host policy moment
  return selectValidatorCommitteeSnapshot
    (listBondedValidators host policy blocks (← get).records) selectionSeed money targetSize

/-- The record of a new settlement. -/
def fundingRecord (args : FundingArgs)
    (source : FundingSource) (committee : ValidatorCommitteeSnapshot) : SettlementRecord where
  settlementId := moment.token
  createdAt := moment.now.text
  sourceWalletId := args.sourceWalletId
  sourceWalletAddress := args.sourceWalletAddress
  fundingSource := source.value
  computeCostAtomic := args.decision.feeQuote.computeCostAtomic
  txFeeAtomic := args.decision.feeQuote.txFeeAtomic
  settlementFeeAtomic := args.decision.feeQuote.settlementFeeAtomic
  workerRewardAtomic := args.decision.feeQuote.workerRewardAtomic
  rewardTokenCode := some money.rewardTokenCode
  aiDevelopmentFeeAtomic := args.decision.feeQuote.aiDevelopmentFeeAtomic
  aiDevelopmentWalletId := some money.aiDevelopmentWalletId
  aiDevelopmentAddress := some money.aiDevelopmentAddress
  sourceWalletDebitAtomic := args.decision.walletDebit
  reserveDebitAtomic := args.decision.reserveDebit
  reserveLimitIdentityKeys := args.decision.reserveLimitIdentityKeys
  reserveClientIpHash := args.decision.reserveClientIpHash
  committeeSelectionSeed := some moment.token
  committeeTargetSize := min money.validatorCommitteeTargetSize committee.validatorIds.length
  committeeSelectionMode := money.validatorCommitteeSelectionMode
  committeeValidatorIds := committee.validatorIds
  committeeBondedAtomicByValidatorId := committee.bondedAtomicByValidatorId
  committeeTotalBondedAtomic := committee.totalBondedAtomic
  committeeQuorumBondAtomic := committee.quorumBondAtomic
  balanceAudit := initialSettlementBalanceAudit money args.sourceWalletId
    args.sourceWalletAddress args.decision args.validatorSyncAudit
  note := args.note

/-- `record_funding_settlement`; the sync with the peers is an operation of its own. -/
def recordFundingSettlement (args : FundingArgs) :
    NodeAction SettlementRecord := do
  match args.decision.fundingSource with
  | none => throw (.valueError "Funding decision has no funding source.")
  | some source =>
    let committee ← drawCommittee host policy money moment moment.token none
    let record := fundingRecord money moment args source committee
    modify fun node => { node with settlements := node.listSettlements ++ [record] }
    return record

/-! ### Committees -/

/-- The record with a newly drawn committee. -/
def SettlementRecord.withCommittee (money : MoneyPolicy)
    (selectionSeed : String) (committee : ValidatorCommitteeSnapshot) : SettlementRecord :=
  { item with
    committeeSelectionSeed := some selectionSeed
    committeeTargetSize :=
      let size : Int := committee.validatorIds.length
      min (max 1 (if item.committeeTargetSize = 0 then size else item.committeeTargetSize)) size
    committeeSelectionMode := money.validatorCommitteeSelectionMode
    committeeValidatorIds := committee.validatorIds
    committeeBondedAtomicByValidatorId := committee.bondedAtomicByValidatorId
    committeeTotalBondedAtomic := committee.totalBondedAtomic
    committeeQuorumBondAtomic := committee.quorumBondAtomic }

/-- `ensure_settlement_committee`. -/
def ensureSettlementCommittee (backend : SigningBackend) (money : MoneyPolicy) (moment : Moment)
    (settlementId : String) : NodeAction (Option SettlementRecord) := do
  match (← get).resolveSettlement settlementId with
  | none => return none
  | some item =>
    if item.committeeValidatorIds ≠ [] ∧ 0 < item.committeeQuorumBondAtomic then return some item
    let selectionSeed := (nonempty? item.committeeSelectionSeed).getD item.settlementId
    let committee ← drawCommittee host policy money moment selectionSeed
      (if 0 < item.committeeTargetSize then some item.committeeTargetSize else none)
    if committee.validatorIds = [] then return some item
    let item := item.withCommittee money selectionSeed committee
    modify fun node => node.saveSettlement item
    return some ((← signSettlementEnvelope host backend money moment item.settlementId).getD item)

/-! ### Votes -/

/-- The first vote of every committee member, in a list with the latest votes first. -/
def latestVotes (committee : Tally String) : List String → List ValidatorAttestation →
    List ValidatorAttestation
  | _, [] => []
  | seen, vote :: votes =>
    if vote.validatorId ∉ committee.map Prod.fst ∨ vote.validatorId ∈ seen then
      latestVotes committee seen votes
    else vote :: latestVotes committee (vote.validatorId :: seen) votes

/-- The votes that count for a settlement. -/
def SettlementRecord.votes (attestations : List ValidatorAttestation) :
    List ValidatorAttestation :=
  latestVotes item.committeeBondedAtomicByValidatorId [] attestations

/-- The bond behind one side of the votes. -/
def SettlementRecord.voteBond (side : Bool) (votes : List ValidatorAttestation) : Int :=
  ((votes.filter fun vote => vote.accepted = side).map fun vote =>
    Tally.get vote.validatorId item.committeeBondedAtomicByValidatorId).sum

/-- The record after its votes are counted. -/
def SettlementRecord.counted (attestations : List ValidatorAttestation) : SettlementRecord :=
  let votes := item.votes attestations
  let accepted := item.voteBond true votes
  let rejected := item.voteBond false votes
  { item with
    acceptedAttestations := (votes.filter fun vote => vote.accepted = true).length
    rejectedAttestations := (votes.filter fun vote => vote.accepted = false).length
    acceptedBondAtomic := accepted
    rejectedBondAtomic := rejected
    status :=
      if item.committeeQuorumBondAtomic ≤ 0 then .pending
      else if item.committeeQuorumBondAtomic ≤ accepted then
        if item.appliedAt = none then .finalized else .applied
      else if item.committeeQuorumBondAtomic ≤ rejected then .rejected
      else .pending }

/-- `refresh_settlement_finality`. -/
def refreshSettlementFinality : NodeAction (Option SettlementRecord) := do
  let node ← get
  match node.resolveSettlement settlementId with
  | none => return none
  | some item =>
    let item := item.counted (node.attestationsOf settlementId)
    set (node.saveSettlement item)
    return some item

/-! ### Funding -/

/-- `int(d.get(k) or 0)`. -/
def intField (d : Fields) (k : String) : Except PyError Int :=
  host.int ((Json.getD d k).pyOr (.int 0))

/-- `int(d.get(k) or 0) == n`. -/
def intFieldIs (d : Fields) (k : String) (n : Int) : Except PyError Bool := do
  return decide ((← intField host d k) = n)

/-- The `applied` section of an audit with the given sections; `moved` is the source wallet's
balance before and after. -/
def appliedSection (quote debits : Json) (reserveBefore reserveAfter : Int)
    (moved : Option (Int × Int)) : Except PyError Json := do
  let quote ← (quote.pyOr (.obj [])).asDict
  let debits ← (debits.pyOr (.obj [])).asDict
  let reserveMatches ← intFieldIs host debits "reserve_debit_atomic" (reserveBefore - reserveAfter)
  let walletMatches ← match moved with
    | none => pure true
    | some (before, after) => intFieldIs host debits "source_wallet_debit_atomic" (before - after)
  let quoteIs (k : String) (n : Int) : Except PyError Bool :=
    if quote = [] then .ok true else intFieldIs host quote k n
  let quoteReserve ← quoteIs "reserve_after_atomic" reserveAfter
  let quoteWallet ← match moved with
    | none => pure true
    | some (_, after) => quoteIs "wallet_after_atomic" after
  let amount (n : Option Int) : Json := (n.map Json.int).getD .null
  return .obj
    [("reserve_before_atomic", .int reserveBefore), ("reserve_after_atomic", .int reserveAfter),
      ("source_wallet_before_atomic", amount (moved.map Prod.fst)),
      ("source_wallet_after_atomic", amount (moved.map Prod.snd)),
      ("reserve_delta_atomic", .int (reserveAfter - reserveBefore)),
      ("source_wallet_delta_atomic", amount (moved.map fun m => m.2 - m.1)),
      ("reserve_delta_matches_debit", .bool reserveMatches),
      ("source_wallet_delta_matches_debit", .bool walletMatches),
      ("quote_reserve_after_matches_applied", .bool quoteReserve),
      ("quote_wallet_after_matches_applied", .bool quoteWallet)]

/-- `_with_applied_balance_audit`. -/
def withAppliedBalanceAudit (reserveBefore reserveAfter : Int)
    (moved : Option (Int × Int)) : Except PyError Fields := do
  let audit := settlement.balanceAudit
  let applied ← appliedSection host (Json.getD audit "quote") (Json.getD audit "debits")
    reserveBefore reserveAfter moved
  return Json.set audit "applied" applied

/-- `find_wallet_by_id(item.source_wallet_id)`, else `find_wallet_by_address`. -/
def findSourceWallet : NodeAction (Option WalletRecord) := do
  match ← findWalletById host item.sourceWalletId with
  | some wallet => return some wallet
  | none => findWalletByAddress host item.sourceWalletAddress

/-- The debit of the source wallet: its balance before and after, if it has one that counts.  A
wallet of this node without a transaction on the chain is neither checked nor debited. -/
def debitSourceWallet :
    NodeAction (Option (Int × Int)) := do
  let debit := max 0 item.sourceWalletDebitAtomic
  if debit ≤ 0 then return none
  let source ← findSourceWallet host item
  let _ ← onChain (ensureChainGenesis host policy money moment)
  let blocks ← readBlocks host policy moment
  match source with
  | none =>
    let before := chainBalanceAtomic host blocks item.sourceWalletAddress
    if before < debit then
      throw (.valueError "Source wallet chain balance is insufficient to apply settlement.")
    return some (before, before - debit)
  | some wallet =>
    if hasChainActivityForAddress host blocks wallet.address = false then return none
    let before := chainBalanceAtomic host blocks wallet.address
    if before < debit then
      throw (.valueError "Source wallet balance is insufficient to apply settlement.")
    updateWallet host { wallet with spendableBalanceAtomic := before - debit }
    appendJournalEntry
      { eventType := .validatorSettlementDebit
        createdAt := moment.now.text
        walletId := wallet.walletId
        amountAtomic := debit
        note := s!"Validator-applied debit for settlement {item.settlementId}." }
    return some (before, before - debit)

/-- The ledger after a settlement is funded. -/
def LedgerState.funded (ledger : LedgerState) (item : SettlementRecord) : LedgerState :=
  { ledger with
    computeReserveBalanceAtomic :=
      ledger.computeReserveBalanceAtomic - max 0 item.reserveDebitAtomic
    validatorFeePoolAtomic :=
      if validatorFeePayoutSplit host item item.settlementFeeAtomic = [] then
        ledger.validatorFeePoolAtomic + item.settlementFeeAtomic
      else ledger.validatorFeePoolAtomic
    aiDevelopmentFeePoolAtomic :=
      ledger.aiDevelopmentFeePoolAtomic + item.aiDevelopmentFeeAtomic
    txFeePoolAtomic :=
      if validatorFeePayoutSplit host item item.txFeeAtomic = [] then
        ledger.txFeePoolAtomic + item.txFeeAtomic
      else ledger.txFeePoolAtomic
    workerDistributedAtomic := ledger.workerDistributedAtomic + item.workerRewardAtomic
    settlementsApplied := ledger.settlementsApplied + 1 }

/-- The first application of a finalized settlement: the funding is taken, then the settlement
is marked. -/
def fundSettlement (validatorId : Option String)
    (item : SettlementRecord) : NodeAction SettlementRecord := do
  let stored ← loadOrCreateLedger money
  let ledger ← chainBackedLedgerSnapshot host policy money moment stored
  let reserveBefore := ledger.computeReserveBalanceAtomic
  if max 0 item.reserveDebitAtomic > reserveBefore then
    throw (.valueError "Reserve balance is insufficient to apply settlement.")
  let moved ← debitSourceWallet host policy money moment item
  let ledger := ledger.funded host item
  saveLedger ledger
  let audit ← .lift (withAppliedBalanceAudit host item reserveBefore
    ledger.computeReserveBalanceAtomic moved)
  let item := { item with
    appliedAt := some moment.now
    appliedByValidatorId := validatorId
    status := .applied
    balanceAudit := audit }
  modify fun node => node.saveSettlement item
  return item

/-! ### Credits -/

/-- The balance of a wallet grows, with a journal entry. -/
def creditWallet (wallet : WalletRecord) (entry : JournalEntry) : NodeAction Unit := do
  updateWallet host { wallet with
    spendableBalanceAtomic := wallet.spendableBalanceAtomic + entry.amountAtomic }
  appendJournalEntry entry

/-- The wallet of the development fund, if it is one of this node's: by its id, else by its
address. -/
def findAiDevelopmentWallet :
    NodeAction (Option WalletRecord) := do
  let byId ← match nonempty? settlement.aiDevelopmentWalletId with
    | some walletId => findWalletById host walletId
    | none => pure none
  match byId, nonempty? settlement.aiDevelopmentAddress with
  | none, some address => findWalletByAddress host address
  | found, _ => pure found

/-- `_apply_finalized_ai_development_fee`: the record when the fee was credited. -/
def applyFinalizedAiDevelopmentFee :
    NodeAction (Option SettlementRecord) := do
  let amount := max 0 settlement.aiDevelopmentFeeAtomic
  if amount ≤ 0 ∨ nonempty? settlement.aiDevelopmentCreditedWalletId ≠ none then return none
  match ← findAiDevelopmentWallet host settlement with
  | none => return none
  | some wallet =>
    creditWallet host wallet
      { eventType := .aiDevelopmentFeeCredit
        createdAt := moment.now.text
        walletId := wallet.walletId
        amountAtomic := amount
        note := "AI development fee credited from finalized settlement " ++
          s!"{settlement.settlementId}." }
    return some { settlement with aiDevelopmentCreditedWalletId := some wallet.walletId }

/-- `_apply_finalized_worker_payout_record`. -/
def applyFinalizedWorkerPayoutRecord (reconciled : Bool)
    (item : WorkerPayoutRecord) : NodeAction WorkerPayoutRecord := do
  match item.recipientAddress with
  | none => return { item with status := .unbound, creditedWalletId := none }
  | some address =>
    match ← findWalletByAddress host address with
    | none => return { item with creditedWalletId := none, status := .recordedExternalAddress }
    | some wallet =>
      if item.creditedWalletId ≠ some wallet.walletId then
        let action := if reconciled then "reconciled" else "credited"
        creditWallet host wallet
          { eventType := .workerRewardCredit
            createdAt := moment.now.text
            walletId := wallet.walletId
            amountAtomic := item.rewardAtomic
            note := s!"Worker reward {action} for node {item.nodeId} " ++
              s!"from finalized settlement {item.settlementId}." }
        modify fun node =>
          { node with creditedPayouts := node.creditedPayouts ++ [item.payoutId] }
      return { item with
        creditedWalletId := some wallet.walletId
        status := .creditedLocalWallet }

/-- One turn of the loop of `_apply_finalized_worker_payouts`. -/
def applyFinalizedWorkerPayout (item : WorkerPayoutRecord) : NodeAction WorkerPayoutRecord := do
  let node ← get
  if item.settlementId ≠ settlementId ∨ item.status = .creditedLocalWallet then return item
  applyFinalizedWorkerPayoutRecord host moment false { item with
    recipientAddress := item.recipientAddress.or (node.resolveWorkerRewardAddress item.nodeId) }

/-- `_apply_finalized_worker_payouts`; the file is written when a payout was looked at. -/
def applyFinalizedWorkerPayouts : NodeAction Unit := do
  let payouts := (← get).listWorkerPayouts
  let updated ← Action.each (applyFinalizedWorkerPayout host moment settlementId) payouts
  if payouts.any fun item =>
      item.settlementId = settlementId ∧ item.status ≠ .creditedLocalWallet then
    modify fun node => { node with payouts := updated }

/-- One turn of the loop of `reconcile_worker_payouts`. -/
def reconcileWorkerPayout (item : WorkerPayoutRecord) :
    NodeAction WorkerPayoutRecord := do
  let node ← get
  if item.status = .creditedLocalWallet then return item
  match node.resolveWorkerRewardAddress item.nodeId with
  | none => return item
  | some address =>
    let item := { item with recipientAddress := some address }
    let due := (node.resolveSettlement item.settlementId).any fun settlement =>
      settlement.status = .applied ∨ settlement.appliedAt ≠ none
    if due then applyFinalizedWorkerPayoutRecord host moment true item
    else return { item with status := .pendingSettlement, creditedWalletId := none }

/-- `reconcile_worker_payouts`; the file is written when a payout has an address to reconcile. -/
def reconcileWorkerPayouts : NodeAction Unit := do
  let node ← get
  let payouts := node.listWorkerPayouts
  let updated ← Action.each (reconcileWorkerPayout host moment) payouts
  if payouts.any fun item => item.status ≠ .creditedLocalWallet ∧
      node.resolveWorkerRewardAddress item.nodeId ≠ none then
    modify fun node => { node with payouts := updated }

/-! ### Applying -/

/-- The end of `apply_finalized_settlement`: the credits, and the entries of the chain. -/
def paySettlement :
    NodeAction (Option SettlementRecord) := do
  let item ← match ← applyFinalizedAiDevelopmentFee host moment item with
    | none => pure item
    | some credited => do
      modify fun node => node.saveSettlement credited
      pure credited
  applyFinalizedWorkerPayouts host moment item.settlementId
  let _ ← recordChainEntriesForSettlement host policy money item moment
  return some item

/-- `apply_finalized_settlement`. -/
def applyFinalizedSettlement (validatorId : Option String) (settlementId : String) :
    NodeAction (Option SettlementRecord) := do
  match (← get).resolveSettlement settlementId with
  | none => return none
  | some item =>
    if item.status ≠ .finalized ∧ item.status ≠ .applied then return some item
    if item.appliedAt = none then
      let item ← fundSettlement host policy money moment validatorId item
      paySettlement host policy money moment item
    else if item.status ≠ .applied then
      let item := { item with status := .applied }
      modify fun node => node.saveSettlement item
      paySettlement host policy money moment item
    else paySettlement host policy money moment item

/-! ### Attestations -/

/-- The arguments of `record_validator_attestation`. -/
structure AttestationArgs where
  settlementId : String
  validatorId : String
  accepted : Bool := true
  note : Option String := none
  applyOnFinalize : Bool := true

/-- The attestation that is recorded. -/
def AttestationArgs.attestation (args : AttestationArgs) (moment : Moment) :
    ValidatorAttestation where
  attestationId := moment.token
  createdAt := moment.now.text
  settlementId := args.settlementId
  validatorId := args.validatorId
  accepted := args.accepted
  note := args.note

/-- The end of `record_validator_attestation`: the votes are counted, and a finalized settlement
is applied. -/
def settleVotes (args : AttestationArgs) : NodeAction Unit := do
  let settlement ← refreshSettlementFinality args.settlementId
  if args.applyOnFinalize ∧
      (settlement.map SettlementRecord.status) = some .finalized then
    let _ ← applyFinalizedSettlement host policy (.ofNetwork host host.activeNetwork) moment
      (some args.validatorId) args.settlementId

/-- `record_validator_attestation`. -/
def recordValidatorAttestation (args : AttestationArgs) :
    NodeAction ValidatorAttestation := do
  let node ← get
  let committee := ((node.resolveSettlement args.settlementId).map
    SettlementRecord.committeeValidatorIds).getD []
  if committee ≠ [] ∧ args.validatorId ∉ committee then
    throw (.valueError "Validator is not a member of this settlement committee.")
  match (node.attestationsOf args.settlementId).find? fun item =>
      item.validatorId = args.validatorId with
  | some item =>
    -- a replay of the same position is idempotent, the opposite position is refused
    if item.accepted = args.accepted then
      settleVotes host policy moment args
      return item
    throw (.conflictingAttestation item.attestationId)
  | none =>
    modify fun node => { node with
      attestations := node.attestations ++ [args.attestation moment] }
    settleVotes host policy moment args
    return args.attestation moment

/-! ### Retries -/

/-- `_RETRYABLE_SETTLEMENT_ENVELOPE_REJECTION_NOTES`. -/
def retryableRejectionNotes : List String :=
  ["settlement signed envelope payload hash does not match",
    "settlement signed envelope is missing"]

/-- A rejection that is only about the envelope. -/
def retryableRejection (attestations : List ValidatorAttestation) : Bool :=
  attestations ≠ [] && attestations.all fun item => item.accepted = false &&
    host.lower (strip (item.note.getD "")) ∈ retryableRejectionNotes

/-- The status of the envelope in a record. -/
def envelopeStatus : Json :=
  Json.getD (Json.getD settlement.balanceAudit "signed_envelope").fields "status"

/-- The record before any vote. -/
def SettlementRecord.reopened : SettlementRecord :=
  { item with
    acceptedAttestations := 0
    rejectedAttestations := 0
    acceptedBondAtomic := 0
    rejectedBondAtomic := 0
    status := .pending
    appliedAt := none
    appliedByValidatorId := none }

/-- The end of `reset_retryable_settlement_rejection`: the votes are dropped, the record is opened
again and signed again. -/
def reopenSettlement (backend : SigningBackend) (money : MoneyPolicy) (moment : Moment)
    (settlement : SettlementRecord) (settlementId : String) :
    NodeAction (Option SettlementRecord) := do
  modify fun node => { node with
    attestations := (Table.newestFirst ValidatorAttestation.createdAt node.attestations).filter
      fun item => item.settlementId ≠ settlementId }
  match (← get).resolveSettlement settlementId with
  | none => return some settlement
  | some item =>
    let item := item.reopened
    modify fun node => node.saveSettlement item
    return some ((← signSettlementEnvelope host backend money moment settlementId).getD item)

/-- `reset_retryable_settlement_rejection`. -/
def resetRetryableSettlementRejection (backend : SigningBackend) (money : MoneyPolicy)
    (moment : Moment) (settlementId : String) : NodeAction (Option SettlementRecord) := do
  let node ← get
  match node.resolveSettlement settlementId with
  | none => return none
  | some settlement =>
    if settlement.status ≠ .rejected then return some settlement
    if retryableRejection host (node.attestationsOf settlementId) = false then
      return some settlement
    match ← signSettlementEnvelope host backend money moment settlementId with
    | none => return some settlement
    | some signed =>
      if (envelopeStatus signed).isStr "signed" = false then return some settlement
      reopenSettlement host backend money moment settlement settlementId

end CaiNetwork
