/-
CaiNetwork/Validator/Mode.lean

The validator mode of a node (`node_config.py`): locking a self-bond, unbonding, jail, and the
checks that reading the configuration makes.

Every operation starts by reading the configuration, and the reading itself resets a bonded
configuration whose bond the chain does not back (`loadOrCreateNodeConfig`).  A bond leaves the
pool on the way out of `unbonding`, with nothing lost, or on the way into `jailed`, where a part
of it goes to the slash pool.

Left out: replicas of one validator, the worker's model list, and the relay.
-/

import CaiNetwork.Validator.Bonds

namespace CaiNetwork

variable (host : Host) (policy : WalletPolicy)

/-! ### Times -/

/-- What `_parse_iso_datetime` and a comparison with the clock make of a stored time. -/
inductive Deadline
  | absent
  | ahead (time : String) (seconds : Int)
  | reached
deriving DecidableEq

/-- The computations with times that the validator mode uses. -/
structure Calendar where
  /-- The text of a time some seconds later. -/
  plusSeconds : Timestamp → Int → String
  deadline : Timestamp → Option String → Deadline

/-! ### The transactions of bonds -/

section Transactions

variable (money : MoneyPolicy) (moment : Moment) (wallet : WalletRecord) (metadata : Fields)
  (amountAtomic : Int)

/-- The debit of the wallet whose bond is locked. -/
def bondLockDebit : ChainTransaction :=
  makeChainTransaction host moment.now
    { txType := "validator_bond_lock"
      address := wallet.address
      deltaAtomic := -amountAtomic
      walletId := some wallet.walletId
      nonce := some s!"{moment.token}:wallet-lock"
      metadata
      chainId := some money.chainNetwork.value }

/-- The credit of the pool. -/
def bondPoolCredit : ChainTransaction :=
  makeChainTransaction host moment.now
    { txType := "validator_bond_pool_credit"
      address := validatorBondPoolChainAddress host money
      deltaAtomic := amountAtomic
      walletId := some s!"system-validator-bond-pool-{money.chainNetwork.value}"
      counterpartyAddress := some wallet.address
      nonce := some s!"{moment.token}:pool-credit"
      metadata
      chainId := some money.chainNetwork.value }

/-- The debit of the pool, with which a release and a slash begin. -/
def bondPoolDebit : ChainTransaction :=
  makeChainTransaction host moment.now
    { txType := "validator_bond_pool_debit"
      address := validatorBondPoolChainAddress host money
      deltaAtomic := -amountAtomic
      walletId := some s!"system-validator-bond-pool-{money.chainNetwork.value}"
      counterpartyAddress := some wallet.address
      nonce := some s!"{moment.token}:pool-debit"
      metadata
      chainId := some money.chainNetwork.value }

/-- The credit of what is released. -/
def bondReleaseCredit : ChainTransaction :=
  makeChainTransaction host moment.now
    { txType := "validator_bond_release_credit"
      address := wallet.address
      deltaAtomic := amountAtomic
      walletId := some wallet.walletId
      nonce := some s!"{moment.token}:wallet-credit"
      metadata
      chainId := some money.chainNetwork.value }

/-- The credit of what is slashed. -/
def bondSlashCredit : ChainTransaction :=
  makeChainTransaction host moment.now
    { txType := "validator_slash_pool_credit"
      address := validatorSlashPoolChainAddress host money
      deltaAtomic := amountAtomic
      walletId := some s!"system-validator-slash-pool-{money.chainNetwork.value}"
      counterpartyAddress := some wallet.address
      nonce := some s!"{moment.token}:slash-credit"
      metadata
      chainId := some money.chainNetwork.value }

/-- The transactions of `_record_validator_bond_lock`. -/
def bondLockTransactions (validatorId : String) (bondAtomic : Int) : List ChainTransaction :=
  let metadata : Fields :=
    [("bond_id", .str moment.token), ("validator_id", .str validatorId),
      ("validator_wallet_id", .str wallet.walletId), ("validator_address", .str validatorId),
      ("bond_atomic", .int bondAtomic), ("reward_token_code", .str money.rewardTokenCode)]
  [bondLockDebit host money moment wallet metadata bondAtomic,
    bondPoolCredit host money moment wallet metadata bondAtomic]

/-- The transactions of `_record_validator_bond_release`. -/
def bondReleaseTransactions (validatorId : String) (releasedAtomic : Int) (note : String) :
    List ChainTransaction :=
  let metadata : Fields :=
    [("release_id", .str moment.token), ("validator_id", .str validatorId),
      ("validator_wallet_id", .str wallet.walletId), ("validator_address", .str validatorId),
      ("released_atomic", .int releasedAtomic),
      ("reward_token_code", .str money.rewardTokenCode), ("note", .str note)]
  [bondPoolDebit host money moment wallet metadata releasedAtomic,
    bondReleaseCredit host money moment wallet metadata releasedAtomic]

/-- The transactions of `_record_validator_bond_slash`. -/
def bondSlashTransactions (validatorId : String) (slashAtomic releasedAtomic : Int)
    (reason : String) : List ChainTransaction :=
  let metadata : Fields :=
    [("slash_id", .str moment.token), ("validator_id", .str validatorId),
      ("validator_wallet_id", .str wallet.walletId), ("validator_address", .str validatorId),
      ("slash_atomic", .int slashAtomic), ("released_atomic", .int releasedAtomic),
      ("reward_token_code", .str money.rewardTokenCode), ("reason", .str reason)]
  bondPoolDebit host money moment wallet metadata (max 0 (slashAtomic + releasedAtomic)) ::
    ((if 0 < releasedAtomic then
      [bondReleaseCredit host money moment wallet metadata releasedAtomic] else []) ++
    if 0 < slashAtomic then
      [bondSlashCredit host money moment wallet metadata slashAtomic] else [])

end Transactions

variable (calendar : Calendar) (moment : Moment) (money : MoneyPolicy) (wallet : WalletRecord)

/-- `_record_validator_bond_lock`. -/
def recordValidatorBondLock (bondAtomic : Int) (validatorAddress : String) : NodeAction Unit := do
  if bondAtomic ≤ 0 then throw (.valueError "Validator self-bond must be positive.")
  let blocks ← readBlocks host policy moment
  if chainBalanceAtomic host blocks wallet.address < bondAtomic then
    throw (.valueError ("Active wallet chain balance is too low for validator mode. " ++
      s!"Minimum self-bond is {money.validatorMinBondCoins}."))
  let validatorId := host.normalizeAddress validatorAddress
  let _ ← onChain (appendChainBlock host policy moment (some validatorId)
    (bondLockTransactions host money moment wallet validatorId bondAtomic))

/-- `_record_validator_bond_release`. -/
def recordValidatorBondRelease
    (config : ValidatorConfig) (releasedAtomic : Int) (note : String) : NodeAction Unit := do
  if releasedAtomic ≤ 0 then return
  let validatorId := config.validatorId host wallet
  let _ ← onChain (appendChainBlock host policy moment (some validatorId)
    (bondReleaseTransactions host money moment wallet validatorId releasedAtomic note))

/-- `_record_validator_bond_slash`. -/
def recordValidatorBondSlash
    (config : ValidatorConfig) (slashAtomic releasedAtomic : Int) (reason : String) :
    NodeAction Unit := do
  if max 0 (slashAtomic + releasedAtomic) ≤ 0 then return
  let validatorId := config.validatorId host wallet
  let _ ← onChain (appendChainBlock host policy moment (some validatorId)
    (bondSlashTransactions host money moment wallet validatorId slashAtomic releasedAtomic reason))

/-! ### Reading the configuration -/

namespace ValidatorConfig

variable (config : ValidatorConfig)

/-- The configuration of a node that is no validator. -/
def reset : ValidatorConfig :=
  { config with
    enabled := false
    state := .unbonded
    walletId := none
    address := none
    bondAtomic := 0
    unbondingStartedAt := none
    unbondingAvailableAt := none }

/-- A state that holds a bond. -/
def holdsBond : Prop := config.state = .bonded ∨ config.state = .unbonding

instance : Decidable config.holdsBond :=
  inferInstanceAs (Decidable (config.state = .bonded ∨ config.state = .unbonding))

/-- The fields that a bond needs. -/
def bondComplete : Bool :=
  (nonempty? config.walletId).isSome && (nonempty? config.address).isSome &&
    decide (0 < config.bondAtomic)

/-- A bond that lacks a field is dropped. -/
def withoutBrokenBond : ValidatorConfig :=
  if config.holdsBond ∧ config.bondComplete = false then config.reset else config

/-- A validator is no worker. -/
def withoutWorker : ValidatorConfig :=
  if config.holdsBond then { config with workerEnabled := false } else config

/-- Only an unbonding validator has unbonding times. -/
def withoutTimes : ValidatorConfig :=
  if config.state = .unbonding then config
  else { config with unbondingStartedAt := none, unbondingAvailableAt := none }

/-- An unbonded validator has no wallet. -/
def withoutWallet : ValidatorConfig :=
  if config.state = .unbonded then
    { config with walletId := none, address := none, bondAtomic := 0 }
  else config

/-- A state that the program does not know is taken for unbonded. -/
def knownState : ValidatorLifecycleState → ValidatorLifecycleState
  | .other _ => .unbonded
  | state => state

/-- The flag follows the state, and the address is in normal form. -/
def spelled : ValidatorConfig :=
  { config with
    enabled := decide (config.state = .bonded)
    state := knownState config.state
    address := config.address.map host.normalizeAddress }

/-- The corrections of `load_or_create_node_config` before it looks at the chain. -/
def settled : ValidatorConfig :=
  (config.spelled host).withoutBrokenBond.withoutWorker.withoutTimes.withoutWallet

/-- Its corrections after that. -/
def unjailed : ValidatorConfig :=
  if config.state = .jailed then config
  else
    { config with
      jailedAt := none
      unjailAvailableAt := none
      jailReason := none
      lastSlashAtomic := 0 }

end ValidatorConfig

/-- `_local_validator_config_is_chain_backed`. -/
def localValidatorConfigIsChainBacked (config : ValidatorConfig) :
    NodeAction Bool := do
  if config.state ≠ .bonded ∨ config.bondComplete = false then return false
  match ← findWalletById host (config.walletId.getD "") with
  | none => return false
  | some wallet =>
    if host.normalizeAddress wallet.address ≠ host.normalizeAddress (config.address.getD "") then
      return false
    validatorBondIsChainBacked host policy moment (moneyPolicyForWalletPolicy host policy) wallet
      config

/-- A bonded configuration without a bond is reset, and its wallet's reserve with it. -/
def dropStaleBond (config : ValidatorConfig) : NodeAction ValidatorConfig := do
  if let some walletId := nonempty? config.walletId then
    if let some wallet ← findWalletById host walletId then
      if wallet.validatorReservedAtomic ≠ 0 then
        updateWallet host { wallet with validatorReservedAtomic := 0 }
  return config.reset

/-- The wallet of a bond, if the configuration names one. -/
def findBondWallet (config : ValidatorConfig) : NodeAction (Option WalletRecord) :=
  match nonempty? config.walletId with
  | none => return none
  | some walletId => findWalletById host walletId

/-- The check of a bonded configuration against the chain. -/
def checkBond (config : ValidatorConfig) : NodeAction ValidatorConfig := do
  if config.state ≠ .bonded then return config
  if ← localValidatorConfigIsChainBacked host policy moment config then return config
  else dropStaleBond host config

/-- `load_or_create_node_config`. -/
def loadOrCreateNodeConfig : NodeAction ValidatorConfig := do
  let config ← checkBond host policy moment ((← get).config.settled host)
  modify fun node => { node with config := config.unjailed }
  return config.unjailed

/-- `save_node_config`. -/
def saveNodeConfig (config : ValidatorConfig) : NodeAction Unit :=
  modify fun node => { node with config }

/-- `get_active_wallet`. -/
def getActiveWallet : NodeAction (Option WalletRecord) := do
  match (← get).activeWalletId with
  | none => return none
  | some walletId => findWalletById host walletId

/-! ### The registry -/

/-- `sync_validator_record`, on the fields that the chain and the committees read. -/
def syncValidatorRecord (record : ValidatorRecord) (file : List ValidatorRecord) :
    List ValidatorRecord :=
  let record := { record with bondedAtomic := max 0 record.bondedAtomic }
  let existing := listValidatorRecords file
  if record.validatorId ∈ existing.map ValidatorRecord.validatorId then
    Table.update ValidatorRecord.validatorId record.validatorId (fun _ => record) existing
  else existing ++ [record]

/-- The state and the bond that a configuration announces. -/
def announcedBond (config : ValidatorConfig) :
    NodeAction (ValidatorLifecycleState × Int) := do
  if config.state ≠ .bonded then return (config.state, config.bondAtomic)
  match ← findBondWallet host config with
  | none => return (.unbonded, 0)
  | some wallet =>
    if ← validatorBondIsChainBacked host policy moment (moneyPolicyForWalletPolicy host policy)
        wallet config then return (config.state, config.bondAtomic)
    else return (.unbonded, 0)

/-- `_sync_local_validator_registry`. -/
def syncLocalValidatorRegistry (config : ValidatorConfig)
    (validatorIdOverride : Option String) : NodeAction Unit := do
  match (nonempty? validatorIdOverride).or (nonempty? config.address) with
  | none => return
  | some validatorId =>
    let (state, bondedAtomic) ← announcedBond host policy moment config
    modify fun node =>
      { node with
        records := syncValidatorRecord
          { validatorId := host.normalizeAddress validatorId
            walletId := config.walletId
            address := host.normalizeAddress validatorId
            state
            bondedAtomic } node.records }

/-- The end of every operation of the mode: the configuration is saved and announced. -/
def saveAndAnnounce (config : ValidatorConfig)
    (validatorIdOverride : Option String) : NodeAction ValidatorConfig := do
  saveNodeConfig config
  syncLocalValidatorRegistry host policy moment config validatorIdOverride
  return config

/-! ### Turning the mode on -/

/-- The part of `ValidatorModeStatus` that turning the mode on reads. -/
structure ValidatorModeStatus where
  canEnable : Bool
  reason : String
  requiredBondAtomic : Int
deriving DecidableEq

/-- `assess_validator_network_status`; `unreachable` is the reason for which the node's entry in
the network state is no validator's, if there is one. -/
def assessValidatorNetworkStatus (unreachable : Option String) (config : ValidatorConfig) :
    Option String :=
  match unreachable with
  | some reason => some reason
  | none =>
    if config.staticIpConfirmed then none
    else some ("Confirm that this validator node uses a static public IP before enabling " ++
      "validator mode.")

/-- The reason text of an unbonding validator. -/
def unbondingReason : Deadline → String
  | .absent => "Validator is currently unbonding and cannot be re-enabled yet."
  | .ahead time seconds =>
    "Validator is currently unbonding and cannot be re-enabled yet. Bond release becomes " ++
      s!"available at {time} ({max 1 seconds} second(s) remaining)."
  | .reached =>
    "Validator is currently unbonding and cannot be re-enabled yet. Bond release is ready; run " ++
      "validator unbond completion to move back to unbonded state."

/-- The bond of a wallet that still has the address of the configuration. -/
def bondOfAddressIsChainBacked (config : ValidatorConfig) : NodeAction Bool :=
  if host.normalizeAddress wallet.address = host.normalizeAddress (config.address.getD "") then
    validatorBondIsChainBacked host policy moment money wallet config
  else return false

/-- The status of a bonded validator. -/
def bondedModeStatus (network : Option String)
    (config : ValidatorConfig) (active : Option WalletRecord) (requiredBondAtomic : Int) :
    NodeAction ValidatorModeStatus := do
  match ← findBondWallet host config with
  | none => return ⟨false, "Validator wallet could not be found locally.", requiredBondAtomic⟩
  | some wallet =>
    let backed ← bondOfAddressIsChainBacked host policy moment money wallet config
    if active.map WalletRecord.walletId ≠ some wallet.walletId then
      return ⟨false, "Select the bonded validator wallet before changing validator mode.",
        requiredBondAtomic⟩
    if backed = false then
      return ⟨false, "Validator self-bond is not backed by an on-chain bond lock.",
        requiredBondAtomic⟩
    if config.bondAtomic ≠ requiredBondAtomic then
      return ⟨false, "Validator bond no longer matches the current minimum self-bond policy.",
        requiredBondAtomic⟩
    match network with
    | some reason => return ⟨false, reason, requiredBondAtomic⟩
    | none => return ⟨true, "Validator mode is already bonded on this node.", requiredBondAtomic⟩

/-- The status of a node that is no validator. -/
def unbondedModeStatus (network : Option String) (config : ValidatorConfig)
    (active : Option WalletRecord) (unlockedWalletId : Option String)
    (spendableAtomic requiredBondAtomic : Int) : ValidatorModeStatus :=
  if config.workerEnabled then
    ⟨false, "Disable worker mode before enabling validator mode.", requiredBondAtomic⟩
  else
    match active with
    | none =>
      ⟨false, "Select an active wallet before enabling validator mode.", requiredBondAtomic⟩
    | some wallet =>
      if unlockedWalletId ≠ some wallet.walletId then
        ⟨false, "Unlock the active wallet before enabling validator mode.", requiredBondAtomic⟩
      else
        match network with
        | some reason => ⟨false, reason, requiredBondAtomic⟩
        | none =>
          if spendableAtomic < requiredBondAtomic then
            ⟨false, "Active wallet chain balance is too low for validator mode. " ++
              s!"Minimum self-bond is {money.validatorMinBondCoins}.", requiredBondAtomic⟩
          else ⟨true, "Validator mode is ready to enable on this node.", requiredBondAtomic⟩

/-- `wallet_chain_balance_or_local_atomic`, or nothing without a wallet. -/
def walletChainBalanceOrLocalAtomic : Option WalletRecord → NodeAction Int
  | none => return 0
  | some wallet => do
    let blocks ← readBlocks host policy moment
    if blocks.isEmpty then return wallet.spendableBalanceAtomic
    return chainBalanceAtomic host blocks wallet.address

/-- `get_validator_mode_status`. -/
def getValidatorModeStatus (unreachable : Option String) : NodeAction ValidatorModeStatus := do
  let config ← loadOrCreateNodeConfig host policy moment
  let _ ← onChain (ensureChainGenesis host policy money moment)
  let requiredBondAtomic ← Action.lift
    (coinsToAtomic host money.validatorMinBondCoins money.decimals)
  let active ← getActiveWallet host
  let spendableAtomic ← walletChainBalanceOrLocalAtomic host policy moment active
  let network := assessValidatorNetworkStatus unreachable
    (← loadOrCreateNodeConfig host policy moment)
  match config.state with
  | .jailed =>
    let reason := "Validator is jailed and cannot be re-enabled yet."
    return ⟨false, match nonempty? config.jailReason with
      | none => reason
      | some last => s!"{reason} Last reason: {last}", requiredBondAtomic⟩
  | .unbonding =>
    return ⟨false, unbondingReason (calendar.deadline moment.now config.unbondingAvailableAt),
      requiredBondAtomic⟩
  | .bonded => bondedModeStatus host policy moment money network config active requiredBondAtomic
  | _ =>
    return unbondedModeStatus money network config active (← get).unlockedWalletId spendableAtomic
      requiredBondAtomic

/-- The wallet's balance is taken from the chain and its bond is set aside. -/
def reserveBond (reservedAtomic : Int) :
    NodeAction Unit := do
  let blocks ← readBlocks host policy moment
  updateWallet host
    { wallet with
      spendableBalanceAtomic := chainBalanceAtomic host blocks wallet.address
      validatorReservedAtomic := reservedAtomic }

/-- The configuration of a new bond. -/
def ValidatorConfig.bondedBy (config : ValidatorConfig) (wallet : WalletRecord)
    (bondAtomic : Int) : ValidatorConfig :=
  { config with
    enabled := true
    state := .bonded
    walletId := some wallet.walletId
    address := some (host.normalizeAddress wallet.address)
    bondAtomic
    unbondingStartedAt := none
    unbondingAvailableAt := none }

/-- The new bond of `set_validator_mode`. -/
def lockBond (config : ValidatorConfig)
    (wallet : WalletRecord) (bondAtomic : Int) : NodeAction ValidatorConfig := do
  recordValidatorBondLock host policy moment money wallet bondAtomic wallet.address
  reserveBond host policy moment wallet bondAtomic
  appendJournalEntry
    { eventType := .validatorBondLocked
      createdAt := moment.now.text
      walletId := wallet.walletId
      amountAtomic := bondAtomic
      note := "Validator mode enabled and self-bond locked on-chain." }
  let config := config.bondedBy host wallet bondAtomic
  saveAndAnnounce host policy moment config config.address

/-- `set_validator_mode(True)`. -/
def enableValidatorMode (unreachable : Option String) : NodeAction ValidatorConfig := do
  let config ← loadOrCreateNodeConfig host policy moment
  let status ← getValidatorModeStatus host policy calendar moment money unreachable
  if status.canEnable = false then throw (.valueError status.reason)
  match ← getActiveWallet host with
  | none => throw (.valueError "Active wallet is required before enabling validator mode.")
  | some wallet =>
    if config.state = .bonded ∧ config.walletId = some wallet.walletId ∧
        config.bondAtomic = status.requiredBondAtomic then
      return config
    else if config.state = .unbonding then throw (.valueError status.reason)
    else if config.state = .bonded then
      throw (.valueError ("Validator is already bonded on this node. Disable it and wait for " ++
        "unbonding before switching validator wallets."))
    else lockBond host policy moment money config wallet status.requiredBondAtomic

/-! ### Leaving the mode -/

/-- The journal entry of `_release_validator_bond` and the wallet's reserve. -/
def releaseReserve (releasedAtomic : Int) (note : String) : NodeAction Unit := do
  updateWallet host wallet
  appendJournalEntry
    { eventType := .validatorBondReleased
      createdAt := moment.now.text
      walletId := wallet.walletId
      amountAtomic := releasedAtomic
      note }

/-- `_release_validator_bond`. -/
def releaseValidatorBond (config : ValidatorConfig) (note : String) :
    NodeAction ValidatorConfig := do
  let money := moneyPolicyForWalletPolicy host policy
  if let some walletId := nonempty? config.walletId then
    if 0 < config.bondAtomic then
      if let some wallet ← findWalletById host walletId then
        let reserved := max 0 (wallet.validatorReservedAtomic - config.bondAtomic)
        if ← validatorBondIsChainBacked host policy moment money wallet config then
          recordValidatorBondRelease host policy moment money wallet config config.bondAtomic note
          let blocks ← readBlocks host policy moment
          releaseReserve host moment
            { wallet with
              spendableBalanceAtomic := chainBalanceAtomic host blocks wallet.address
              validatorReservedAtomic := reserved } config.bondAtomic note
        else
          releaseReserve host moment { wallet with validatorReservedAtomic := reserved } 0
            ("Invalid local validator bond metadata cleared; no on-chain coins were released.")
  return { config.reset with
    jailedAt := none
    unjailAvailableAt := none
    jailReason := none
    lastSlashAtomic := 0 }

/-- `_start_validator_unbonding`, of a bonded configuration. -/
def startValidatorUnbonding (config : ValidatorConfig) : NodeAction ValidatorConfig := do
  let availableAt := calendar.plusSeconds moment.now (max 0 money.validatorUnbondingSeconds)
  if let some walletId := nonempty? config.walletId then
    if 0 < config.bondAtomic then
      if let some wallet ← findWalletById host walletId then
        appendJournalEntry
          { eventType := .validatorUnbondingStarted
            createdAt := moment.now.text
            walletId := wallet.walletId
            amountAtomic := config.bondAtomic
            note := "Validator mode disabled. Self-bond remains locked until " ++
              s!"{availableAt}." }
  return { config with
    enabled := false
    state := .unbonding
    unbondingStartedAt := some moment.now.text
    unbondingAvailableAt := some availableAt
    workerEnabled := false }

/-- `set_validator_mode(False)`. -/
def disableValidatorMode :
    NodeAction ValidatorConfig := do
  let config ← loadOrCreateNodeConfig host policy moment
  let synced := config.address
  let config ←
    if config.state = .bonded then startValidatorUnbonding host calendar moment money config
    else pure { config with enabled := false }
  saveAndAnnounce host policy moment config synced

/-- `complete_validator_unbond`. -/
def completeValidatorUnbond :
    NodeAction ValidatorConfig := do
  let config ← loadOrCreateNodeConfig host policy moment
  if config.state ≠ .unbonding then
    throw (.valueError "Validator is not currently unbonding.")
  match calendar.deadline moment.now config.unbondingAvailableAt with
  | .ahead _ seconds =>
    throw (.valueError ("Validator unbonding period is still active. " ++
      s!"Retry in {max 1 seconds} second(s)."))
  | _ =>
    let synced := config.address
    let config ← releaseValidatorBond host policy moment config
      "Validator unbonding completed and self-bond released."
    saveAndAnnounce host policy moment config synced

/-! ### Jail -/

/-- The part of a bond that a jail slashes: at least one unit, at most the bond. -/
def slashedAtomic (lockedAtomic slashBps : Int) : Int :=
  if 0 < lockedAtomic then min lockedAtomic (max 1 (lockedAtomic * slashBps / 10000)) else 0

/-- The configuration of a jailed validator. -/
def ValidatorConfig.jailedAfter (config : ValidatorConfig) (calendar : Calendar) (moment : Moment)
    (money : MoneyPolicy) (reason : String) (slashAtomic : Int) : ValidatorConfig :=
  let stated := strip reason
  { config with
    enabled := false
    state := .jailed
    bondAtomic := 0
    jailedAt := some moment.now.text
    unjailAvailableAt :=
      some (calendar.plusSeconds moment.now (max 0 money.validatorUnjailCooldownSeconds))
    jailReason := some (if stated = "" then "Validator was jailed." else stated)
    lastSlashAtomic := slashAtomic
    totalSlashedAtomic := config.totalSlashedAtomic + slashAtomic }

/-- The slash of `jail_validator`, on the chain and in the wallet files. -/
def slashBond (reason : String)
    (config : ValidatorConfig) (wallet : WalletRecord) (lockedAtomic slashAtomic : Int) :
    NodeAction ValidatorConfig := do
  recordValidatorBondSlash host policy moment money wallet config slashAtomic
    (max 0 (lockedAtomic - slashAtomic)) reason
  reserveBond host policy moment wallet (max 0 (wallet.validatorReservedAtomic - lockedAtomic))
  let ledger ← loadOrCreateLedger money
  saveLedger { ledger with validatorSlashedAtomic := ledger.validatorSlashedAtomic + slashAtomic }
  appendJournalEntry
    { eventType := .validatorJailed
      createdAt := moment.now.text
      walletId := wallet.walletId
      amountAtomic := slashAtomic
      note := reason }
  saveAndAnnounce host policy moment
    (config.jailedAfter calendar moment money reason slashAtomic) none

/-- `jail_validator`. -/
def jailValidator (reason : String) (slashBps : Option Int) : NodeAction ValidatorConfig := do
  let config ← loadOrCreateNodeConfig host policy moment
  if config.state = .jailed then return config
  match config.state, nonempty? config.walletId with
  | .bonded, some walletId =>
    match ← findWalletById host walletId with
    | none => throw (.valueError "Validator wallet could not be found locally.")
    | some wallet =>
      if ← validatorBondIsChainBacked host policy moment money wallet config then
        let blocks ← readBlocks host policy moment
        let locked := max 0 (Tally.get (config.validatorId host wallet)
          (validatorLockedBonds host blocks))
        let effective := min locked (max 0 config.bondAtomic)
        slashBond host policy calendar moment money reason config wallet effective
          (slashedAtomic effective (slashBps.getD money.validatorJailSlashBps))
      else throw (.valueError ("Cannot jail validator because self-bond is not backed by an " ++
        "on-chain bond lock."))
  | _, _ => throw (.valueError "Only bonded validators can be jailed.")

/-- `clear_validator_jail`. -/
def clearValidatorJail : NodeAction ValidatorConfig := do
  let config ← loadOrCreateNodeConfig host policy moment
  if config.state ≠ .jailed then throw (.valueError "Validator is not jailed.")
  match calendar.deadline moment.now config.unjailAvailableAt with
  | .ahead _ seconds =>
    throw (.valueError ("Validator cooldown is still active before unjail. " ++
      s!"Retry in {max 1 seconds} second(s)."))
  | _ =>
    saveAndAnnounce host policy moment
      { config with
        enabled := false
        state := .unbonded
        walletId := none
        address := none
        bondAtomic := 0
        jailedAt := none
        unjailAvailableAt := none
        jailReason := none
        lastSlashAtomic := 0 } config.address

end CaiNetwork
