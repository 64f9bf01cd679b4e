/-
CaiNetwork/Settlement/Records.lean

The files of a node that settlements and the validator mode read and write (`settlement.py`,
`wallet.py`, `node_config.py`).

`Node` is the record of these files; an operation is an `Action` on it, because an operation that
raises has often written something before.  Fields that no modelled operation reads are left out,
and so are the ids of journal entries.
-/

import CaiNetwork.Action
import CaiNetwork.Table
import CaiNetwork.Transfer

namespace CaiNetwork

/-! ### Settlements and attestations -/

/-- `SettlementRecord.status`. -/
inductive SettlementStatus
  | pending
  | finalized
  | applied
  | rejected
deriving DecidableEq

/-- `SettlementRecord`. -/
structure SettlementRecord where
  settlementId : String
  createdAt : String
  sourceWalletId : String
  sourceWalletAddress : String
  fundingSource : String
  computeCostAtomic : Int
  txFeeAtomic : Int
  settlementFeeAtomic : Int
  workerRewardAtomic : Int
  committeeSelectionSeed : Option String
  committeeTargetSize : Int
  committeeSelectionMode : String
  committeeValidatorIds : List String
  committeeBondedAtomicByValidatorId : Tally String
  committeeTotalBondedAtomic : Int
  committeeQuorumBondAtomic : Int
  rewardTokenCode : Option String := none
  aiDevelopmentFeeAtomic : Int := 0
  aiDevelopmentWalletId : Option String := none
  aiDevelopmentAddress : Option String := none
  aiDevelopmentCreditedWalletId : Option String := none
  acceptedAttestations : Nat := 0
  rejectedAttestations : Nat := 0
  acceptedBondAtomic : Int := 0
  rejectedBondAtomic : Int := 0
  status : SettlementStatus := .pending
  note : Option String := none
  sourceWalletDebitAtomic : Int := 0
  reserveDebitAtomic : Int := 0
  reserveLimitIdentityKeys : List String := []
  reserveClientIpHash : Option String := none
  appliedAt : Option Timestamp := none
  appliedByValidatorId : Option String := none
  balanceAudit : Fields := []

/-- `ValidatorAttestation`. -/
structure ValidatorAttestation where
  attestationId : String
  createdAt : String
  settlementId : String
  validatorId : String
  accepted : Bool
  note : Option String
deriving DecidableEq

/-! ### Payouts of workers -/

/-- `WorkerPayoutRecord.status`. -/
inductive PayoutStatus
  | unbound
  | pendingSettlement
  | recordedExternalAddress
  | creditedLocalWallet
deriving DecidableEq

/-- `WorkerPayoutRecord`. -/
structure WorkerPayoutRecord where
  payoutId : String
  createdAt : String
  settlementId : String
  receiptId : String
  modelId : String
  nodeId : String
  runnerId : Option String
  layerStart : Option Int
  layerEnd : Option Int
  layerCount : Int
  shareBps : Int
  rewardAtomic : Int
  rewardTokenCode : Option String := none
  recipientAddress : Option String := none
  creditedWalletId : Option String := none
  status : PayoutStatus := .unbound
  note : Option String := none
deriving DecidableEq

/-! ### Wallet files -/

/-- The numbers of `LedgerState`. -/
structure LedgerState where
  computeReserveBalanceAtomic : Int
  projectTreasuryBalanceAtomic : Int
  aiDevelopmentFeePoolAtomic : Int := 0
  validatorFeePoolAtomic : Int := 0
  validatorSlashedAtomic : Int := 0
  txFeePoolAtomic : Int := 0
  workerDistributedAtomic : Int := 0
  settlementsApplied : Nat := 0
deriving DecidableEq

/-- The events that settlements and the validator mode write to the journal. -/
inductive JournalEvent
  | validatorSettlementDebit
  | aiDevelopmentFeeCredit
  | workerRewardCredit
  | validatorBondLocked
  | validatorUnbondingStarted
  | validatorBondReleased
  | validatorJailed
deriving DecidableEq

/-- `JournalEntry`. -/
structure JournalEntry where
  eventType : JournalEvent
  createdAt : String
  walletId : String
  amountAtomic : Int
  note : String
deriving DecidableEq

/-! ### The validator configuration -/

/-- The validator part of `NodeRuntimeConfig`, without the fields of replicated validators. -/
structure ValidatorConfig where
  enabled : Bool := false
  state : ValidatorLifecycleState := .unbonded
  walletId : Option String := none
  address : Option String := none
  bondAtomic : Int := 0
  staticIpConfirmed : Bool := false
  unbondingStartedAt : Option String := none
  unbondingAvailableAt : Option String := none
  jailedAt : Option String := none
  unjailAvailableAt : Option String := none
  jailReason : Option String := none
  lastSlashAtomic : Int := 0
  totalSlashedAtomic : Int := 0
  workerEnabled : Bool := false
deriving DecidableEq

/-! ### The node -/

/-- The files of a node. -/
structure Node where
  chain : ChainFile := []
  records : List ValidatorRecord := []
  wallets : List WalletRecord := []
  /-- The dictionary of the unlocked signing key, if the file is there. -/
  unlocked : Option Fields := none
  ledger : Option LedgerState := none
  journal : List JournalEntry := []
  settlements : List SettlementRecord := []
  attestations : List ValidatorAttestation := []
  payouts : List WorkerPayoutRecord := []
  /-- `worker_reward_address_by_node_id` of the node configuration. -/
  rewardAddresses : List (String × String) := []
  /-- Not a file: the ids of the payouts whose reward was added to a wallet, in order. -/
  creditedPayouts : List String := []
  config : ValidatorConfig := {}
  /-- `active_wallet_id` and `unlocked_wallet_id` of the session. -/
  activeWalletId : Option String := none
  unlockedWalletId : Option String := none

/-- An operation of the node. -/
abbrev NodeAction (α : Type) := Action Node PyError α

namespace Node

variable (node : Node)

/-- `list_settlements`. -/
def listSettlements : List SettlementRecord :=
  Table.newestFirst SettlementRecord.createdAt node.settlements

/-- `resolve_settlement`. -/
def resolveSettlement (settlementId : String) : Option SettlementRecord :=
  Table.find SettlementRecord.settlementId settlementId node.listSettlements

/-- `list_attestations(settlement_id=...)`. -/
def attestationsOf (settlementId : String) : List ValidatorAttestation :=
  Table.newestFirst ValidatorAttestation.createdAt
    (node.attestations.filter fun item => item.settlementId = settlementId)

/-- `list_worker_payouts`. -/
def listWorkerPayouts : List WorkerPayoutRecord :=
  Table.newestFirst WorkerPayoutRecord.createdAt node.payouts

/-- `list_worker_payouts(settlement_id=...)`. -/
def payoutsOf (settlementId : String) : List WorkerPayoutRecord :=
  Table.newestFirst WorkerPayoutRecord.createdAt
    (node.payouts.filter fun item => item.settlementId = settlementId)

/-- `resolve_worker_reward_address`. -/
def resolveWorkerRewardAddress (nodeId : String) : Option String :=
  node.rewardAddresses.lookup nodeId

/-- `settlements[index] = item` and `save_settlements`, for the first record of the item's id. -/
def saveSettlement (item : SettlementRecord) : Node :=
  { node with
    settlements := Table.update SettlementRecord.settlementId item.settlementId (fun _ => item)
      node.listSettlements }

end Node

variable (host : Host) (policy : WalletPolicy)

/-! ### Wallets and the ledger -/

/-- `find_wallet_by_id`; reading the wallets normalises the file. -/
def findWalletById (walletId : String) : NodeAction (Option WalletRecord) := do
  modify fun node => { node with wallets := listWallets host node.wallets }
  return Table.find WalletRecord.walletId walletId (← get).wallets

/-- `find_wallet_by_address`. -/
def findWalletByAddress (address : String) : NodeAction (Option WalletRecord) := do
  modify fun node => { node with wallets := listWallets host node.wallets }
  return Table.find (fun wallet => host.normalizeAddress wallet.address)
    (host.normalizeAddress address) (← get).wallets

/-- `update_wallet`. -/
def updateWallet (wallet : WalletRecord) : NodeAction Unit := do
  modify fun node => { node with wallets := listWallets host node.wallets }
  if wallet.walletId ∈ (← get).wallets.map WalletRecord.walletId then
    modify fun node =>
      { node with
        wallets :=
          Table.update WalletRecord.walletId wallet.walletId (fun _ => wallet) node.wallets }
  else throw (.valueError s!"Wallet '{wallet.walletId}' not found.")

/-- `append_journal_entry`. -/
def appendJournalEntry (entry : JournalEntry) : NodeAction Unit :=
  modify fun node => { node with journal := node.journal ++ [entry] }

/-- `load_or_create_ledger`. -/
def loadOrCreateLedger (money : MoneyPolicy) : NodeAction LedgerState := do
  match (← get).ledger with
  | some ledger => return ledger
  | none =>
    let ledger : LedgerState :=
      { computeReserveBalanceAtomic := atomicOfCoins money.computeReserveCoins money.decimals
        projectTreasuryBalanceAtomic := 0 }
    modify fun node => { node with ledger := some ledger }
    return ledger

/-- `save_ledger`. -/
def saveLedger (ledger : LedgerState) : NodeAction Unit :=
  modify fun node => { node with ledger := some ledger }

/-! ### The chain of the node -/

/-- An operation on the chain file. -/
def onChain {α : Type} (f : ChainFile → Written α) : NodeAction α := fun node =>
  ((f node.chain).1, { node with chain := (f node.chain).2 })

/-- `list_chain_blocks`. -/
def readBlocks (moment : Moment) : NodeAction Chain := fun node =>
  (listChainBlocks host policy moment.clock node.chain, node)

/-- `has_chain_activity_for_address`. -/
def hasChainActivityForAddress (blocks : Chain) (address : String) : Bool :=
  (allTransactions blocks).any fun tx =>
    host.normalizeAddress tx.address = host.normalizeAddress address

/-- `validator_settlement_fee_pool_chain_address`. -/
def validatorSettlementFeePoolChainAddress (money : MoneyPolicy) : String :=
  systemAddress host "system:validator-settlement-fee-pool" money

/-- `validator_slash_pool_chain_address`. -/
def validatorSlashPoolChainAddress (money : MoneyPolicy) : String :=
  systemAddress host "system:validator-slash-pool" money

/-- `chain_backed_ledger_snapshot`. -/
def chainBackedLedgerSnapshot (money : MoneyPolicy) (moment : Moment) (ledger : LedgerState) :
    NodeAction LedgerState := do
  let _ ← onChain (ensureChainGenesis host policy money moment)
  let blocks ← readBlocks host policy moment
  return { ledger with
    computeReserveBalanceAtomic :=
      chainBalanceAtomic host blocks (computeReserveChainAddress host money)
    projectTreasuryBalanceAtomic :=
      chainBalanceAtomic host blocks money.developerTreasuryAddress
    aiDevelopmentFeePoolAtomic := chainBalanceAtomic host blocks money.aiDevelopmentAddress
    validatorFeePoolAtomic :=
      chainBalanceAtomic host blocks (validatorSettlementFeePoolChainAddress host money)
    validatorSlashedAtomic :=
      chainBalanceAtomic host blocks (validatorSlashPoolChainAddress host money)
    txFeePoolAtomic := chainBalanceAtomic host blocks (txFeePoolChainAddress host money) }

/-! ### What these operations leave alone -/

section Frames

variable {host policy}

/-- `find_wallet_by_id` and `find_wallet_by_address` change the spelling of addresses at most. -/
theorem findWalletById_apply {walletId : String} {node : Node} : findWalletById host walletId node =
      (.ok (Table.find WalletRecord.walletId walletId (listWallets host node.wallets)),
        { node with wallets := listWallets host node.wallets }) := rfl

variable (host) in
theorem updateWallet_apply (wallet : WalletRecord) (node : Node) : updateWallet host wallet node =
      if wallet.walletId ∈ (listWallets host node.wallets).map WalletRecord.walletId then
        (.ok (),
          { node with
            wallets := Table.update WalletRecord.walletId wallet.walletId (fun _ => wallet)
              (listWallets host node.wallets) })
      else (.error (.valueError s!"Wallet '{wallet.walletId}' not found."),
        { node with wallets := listWallets host node.wallets }) := by
  show (if wallet.walletId ∈ (listWallets host node.wallets).map WalletRecord.walletId then
    (modify _ : NodeAction Unit) else throw _) _ = _
  split <;> rfl

end Frames

end CaiNetwork
