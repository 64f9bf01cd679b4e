/-
CaiNetwork/Transfer.lean

Wallet transfers (`apply_wallet_transfer` of `wallet.py`).

On a node with a chain a transfer is one block: the debit of the sender, signed with the
unlocked keys, the credit of the recipient, and the fee, which goes to a committee drawn with
the transfer's id as seed, or to the fee pool.  A transfer that raises leaves the chain alone
(`applyWalletTransfer_cases`).  On a node without a chain only the local balances move.
-/

import CaiNetwork.Append
import CaiNetwork.Base64
import CaiNetwork.Committee

namespace CaiNetwork

/-! ### Keys -/

/-- The signing functions of the third-party packages: key or seed, message. -/
structure SigningBackend where
  ed25519Sign : Bytes → Bytes → Except PyError Bytes
  mldsa65Sign : Bytes → Bytes → Except PyError Bytes

/-- `decode_bytes`, raising. -/
def decodedBytes (payload : String) : Except PyError Bytes :=
  match decodeBytes payload with
  | some bytes => .ok bytes
  | none => .error (.valueError "payload is not base64")

/-- `sign_payload_b64`. -/
def signPayloadB64 (backend : SigningBackend) (seed : Bytes) (payload : Json) :
    Except PyError String := do
  return encodeBytes (← backend.ed25519Sign seed (toBytes payload.canonical))

/-- `sign_payload_mldsa65_b64`. -/
def signPayloadMldsa65B64 (backend : SigningBackend) (privateKeyB64 : String) (payload : Json) :
    Except PyError String := do
  return encodeBytes (← backend.mldsa65Sign (← decodedBytes privateKeyB64)
    (toBytes payload.canonical))

/-! ### Wallets -/

/-- The fields of `WalletRecord` that transfers and settlements read. -/
structure WalletRecord where
  walletId : String
  address : String
  spendableBalanceAtomic : Int := 0
  validatorReservedAtomic : Int := 0
  signingScheme : Option String := none
  addressScheme : Option String := none
  publicKeyB64 : Option String := none
  pqPublicKeyB64 : Option String := none
deriving DecidableEq, Inhabited

variable (host : Host) (policy : WalletPolicy)

/-- `list_wallets`; the normalised list is also what the file holds afterwards. -/
def listWallets (file : List WalletRecord) : List WalletRecord :=
  file.map fun wallet => { wallet with address := host.normalizeAddress wallet.address }

/-- `_load_unlocked_signing_key`, from the dictionary of the key file if there is one. -/
def loadUnlockedSigningKey (wallet : WalletRecord) (unlocked : Option Fields) :
    Option Fields :=
  unlocked.filter fun payload =>
    host.strOrEmpty (Json.getD payload "wallet_id") = wallet.walletId ∧
      host.normalizeAddress (host.strOrEmpty (Json.getD payload "address")) =
        host.normalizeAddress wallet.address

/-- `tx_fee_pool_chain_address`. -/
def txFeePoolChainAddress (money : MoneyPolicy) : String :=
  systemAddress host "system:tx-fee-pool" money

/-! ### The transactions of a transfer -/

/-- The arguments of `apply_wallet_transfer`. -/
structure TransferArgs where
  senderWalletId : String
  recipientAddress : String
  amountAtomic : Int
  txFeeAtomic : Int

/-- What a transfer reads besides the chain and the clock. -/
structure TransferContext where
  backend : SigningBackend
  wallets : List WalletRecord
  records : List ValidatorRecord
  unlocked : Option Fields
  /-- `secrets.token_hex(12)`. -/
  transferId : String

variable (context : TransferContext) (args : TransferArgs)

/-- `common_metadata`. -/
def transferMetadata : Fields :=
  [("transfer_id", .str context.transferId), ("amount_atomic", .int args.amountAtomic),
    ("tx_fee_atomic", .int args.txFeeAtomic),
    ("reward_token_code", .str (moneyPolicyForWalletPolicy host policy).rewardTokenCode)]

/-- The schemes under which a post-quantum key signs as well. -/
def signsPostQuantum (scheme : String) : Bool :=
  scheme ∈ hybridAddressSchemes || scheme = addressSchemeFixedWalletIdSha256

/-- The call that builds the debit, with the metadata and the key of the signer. -/
def transferDebitArgs (sender : WalletRecord) (signing : Fields)
    (publicKeyB64 : Option String) : TransactionArgs :=
  { txType := "wallet_transfer_debit"
    address := sender.address
    deltaAtomic := -(args.amountAtomic + args.txFeeAtomic)
    walletId := some sender.walletId
    counterpartyAddress := some (host.normalizeAddress args.recipientAddress)
    nonce := some s!"{context.transferId}:debit"
    metadata := transferMetadata host policy context args ++ signing
    chainId := some policy.chainNetwork.value
    publicKeyB64 }

/-- The metadata that a signed debit carries before its signatures. -/
def signingMetadata (scheme : String) (signer : Fields) : Fields :=
  [("signature_required", .bool true), ("address_scheme", .str scheme)] ++
    (if scheme = addressSchemeFixedWalletIdSha256 then
      [("signing_scheme", .str signingSchemeHybridEd25519MlDsa65)] else []) ++
    (if signsPostQuantum scheme then
      [("pq_signature_scheme", .str signingSchemeMlDsa65),
        ("pq_public_key_b64", .str (host.strOrEmpty (Json.getD signer "pq_public_key_b64")))]
      else [])

/-- `debit_tx`, signed when the sender's scheme has keys. -/
def transferDebit (now : Timestamp) (sender : WalletRecord) : Except PyError ChainTransaction :=
  let scheme := sender.addressScheme.getD ""
  if scheme ∉ addressSchemeEd25519 :: addressSchemeFixedWalletIdSha256 :: hybridAddressSchemes then
    .ok (makeChainTransaction host now (transferDebitArgs host policy context args sender [] none))
  else
    match loadUnlockedSigningKey host sender context.unlocked with
    | none => .error (.valueError
        "Active wallet must be unlocked again before signing an on-chain transfer.")
    | some signer => do
      let publicKey := host.strOrEmpty (Json.getD signer "public_key_b64")
      let debit := makeChainTransaction host now (transferDebitArgs host policy context args sender
        (signingMetadata host scheme signer) (some publicKey))
      if publicKey = "" then return debit
      let seed ← decodedBytes (host.strOrEmpty (Json.getD signer "signing_seed_b64"))
      let signature ← signPayloadB64 context.backend seed (transactionSigningPayload host debit)
      let debit := { debit with signatureB64 := some signature }
      if signsPostQuantum scheme then
        let pqSignature ← signPayloadMldsa65B64 context.backend
          (host.strOrEmpty (Json.getD signer "pq_private_key_b64"))
          (transactionSigningPayload host debit)
        return { debit with
          metadata := debit.metadata ++ [("pq_signature_b64", .str pqSignature)] }
      return debit

/-- `fee_committee`. -/
def transferCommittee (blocks : Chain) : ValidatorCommitteeSnapshot :=
  selectValidatorCommitteeSnapshot (listBondedValidators host policy blocks context.records)
    context.transferId (moneyPolicyForWalletPolicy host policy) none

/-- `validator_fee_shares`. -/
def transferFeeShares (committee : ValidatorCommitteeSnapshot) : List ValidatorFeeShare :=
  splitAmountByValidatorBond host args.txFeeAtomic committee.bondedAtomicByValidatorId
    committee.validatorIds

/-- `get_validator_record`. -/
def getValidatorRecord (records : List ValidatorRecord) (validatorId : String) :
    Option ValidatorRecord :=
  (listValidatorRecords records).find? (·.validatorId = validatorId)

/-- `fee_transactions`. -/
def transferFees (now : Timestamp) (sender : WalletRecord)
    (committee : ValidatorCommitteeSnapshot) : List ChainTransaction :=
  let shares := transferFeeShares host args committee
  let bonded := (shares.map ValidatorFeeShare.bondedAtomic).sum
  if shares = [] then
    [makeChainTransaction host now
      { txType := "wallet_transfer_fee_credit"
        address := txFeePoolChainAddress host (moneyPolicyForWalletPolicy host policy)
        deltaAtomic := args.txFeeAtomic
        walletId := some s!"system-tx-fee-pool-{policy.chainNetwork.value}"
        counterpartyAddress := some sender.address
        nonce := some s!"{context.transferId}:fee"
        metadata := transferMetadata host policy context args ++
          [("distribution", .str "legacy_pool")]
        chainId := some policy.chainNetwork.value }]
  else
    shares.map fun share => makeChainTransaction host now
      { txType := "wallet_transfer_validator_fee_payout"
        address := share.validatorId
        deltaAtomic := share.amountAtomic
        walletId := (getValidatorRecord context.records share.validatorId).bind
          ValidatorRecord.walletId
        counterpartyAddress := some sender.address
        nonce := some s!"{context.transferId}:validator-fee:{share.validatorId}"
        metadata := transferMetadata host policy context args ++
          [("validator_id", .str share.validatorId),
            ("validator_bonded_atomic", .int share.bondedAtomic),
            ("committee_total_bonded_atomic", .int bonded),
            ("committee_validator_ids", .arr (committee.validatorIds.map .str)),
            ("committee_quorum_bond_atomic", .int committee.quorumBondAtomic),
            ("distribution", .str "committee_bond_weighted")]
        chainId := some policy.chainNetwork.value }

/-- The credit of the recipient. -/
def transferCredit (now : Timestamp) (sender : WalletRecord) (recipient : Option WalletRecord) :
    ChainTransaction :=
  makeChainTransaction host now
    { txType := "wallet_transfer_credit"
      address := host.normalizeAddress args.recipientAddress
      deltaAtomic := args.amountAtomic
      walletId := recipient.map WalletRecord.walletId
      counterpartyAddress := some sender.address
      nonce := some s!"{context.transferId}:credit"
      metadata := transferMetadata host policy context args
      chainId := some policy.chainNetwork.value }

/-! ### Transfers -/

/-- What a transfer returns or raises, and the two files after it. -/
structure TransferResult where
  outcome : Except PyError (WalletRecord × Option WalletRecord)
  wallets : List WalletRecord
  file : ChainFile

/-- The transactions of a transfer on the given chain, in the order they are appended. -/
def transferTransactions (now : Timestamp) (blocks : Chain) (sender : WalletRecord)
    (recipient : Option WalletRecord) : Except PyError (List ChainTransaction) := do
  let totalDebit := args.amountAtomic + args.txFeeAtomic
  if chainBalanceAtomic host blocks sender.address < totalDebit then
    throw (.valueError "Wallet chain balance is insufficient for transfer amount and tx fee.")
  let debit ← transferDebit host policy context args now sender
  return debit :: transferCredit host policy context args now sender recipient ::
    transferFees host policy context args now sender (transferCommittee host policy context blocks)

/-- The local balances after the block of a transfer: those of the addresses it touches are
taken from the chain. -/
def refreshBalances (blocks : Chain) (affected : List String)
    (wallets : List WalletRecord) : List WalletRecord :=
  wallets.map fun wallet =>
    if host.normalizeAddress wallet.address ∈ affected then
      { wallet with spendableBalanceAtomic := chainBalanceAtomic host blocks wallet.address }
    else wallet

/-- `apply_wallet_transfer`. -/
def applyWalletTransfer (moment : Moment) (file : ChainFile) : TransferResult :=
  let wallets := listWallets host context.wallets
  let recipientLower := host.normalizeAddress args.recipientAddress
  match wallets.findIdx? (·.walletId = args.senderWalletId) with
  | none => ⟨.error (.valueError s!"Wallet '{args.senderWalletId}' not found."), wallets, file⟩
  | some i =>
    let sender := wallets.getD i default
    let recipient := wallets.findIdx? (fun w => host.normalizeAddress w.address = recipientLower)
    let totalDebit := args.amountAtomic + args.txFeeAtomic
    if args.amountAtomic ≤ 0 then
      ⟨.error (.valueError "Transfer amount must be positive."), wallets, file⟩
    else
      match listChainBlocks host policy moment.clock file with
      | .error e => ⟨.error e, wallets, file⟩
      | .ok [] =>
        if sender.spendableBalanceAtomic < totalDebit then
          ⟨.error (.valueError "Wallet balance is insufficient for transfer amount and tx fee."),
            wallets, file⟩
        else
          let debited := wallets.modify i fun w =>
            { w with spendableBalanceAtomic := w.spendableBalanceAtomic - totalDebit }
          let credited := match recipient with
            | none => debited
            | some j => debited.modify j fun w =>
              { w with spendableBalanceAtomic := w.spendableBalanceAtomic + args.amountAtomic }
          ⟨.ok (credited.getD i default, recipient.map (credited.getD · default)), credited, file⟩
      | .ok blocks =>
        match transferTransactions host policy context args moment.now blocks sender
            (recipient.map (wallets.getD · default)) with
        | .error e => ⟨.error e, wallets, file⟩
        | .ok transactions =>
          match appendChainBlock host policy moment none transactions file with
          | (.error e, after) => ⟨.error e, wallets, after⟩
          | (.ok block, after) =>
            let affected := host.normalizeAddress sender.address :: recipientLower ::
              ((transactions.drop 2).filter (fun tx => strip tx.address ≠ "")).map
                (fun tx => host.normalizeAddress tx.address)
            let updated := refreshBalances host (blocks ++ block.toList) affected wallets
            ⟨.ok (updated.getD i default, recipient.map (updated.getD · default)), updated, after⟩

section Cases

variable {host policy context args}

/-- **What a transfer can do to the chain**: leave it alone, or append the transactions of a
known wallet's transfer; it raises only in the first case. -/
theorem applyWalletTransfer_cases (moment : Moment) (file : ChainFile) :
    (applyWalletTransfer host policy context args moment file).file = file ∨
    ∃ sender ∈ listWallets host context.wallets, ∃ recipient transactions blocks block,
      transferTransactions host policy context args moment.now blocks sender recipient =
        .ok transactions ∧
      Appended host policy moment none transactions file blocks block ∧
      (applyWalletTransfer host policy context args moment file).file =
        saveChainBlocks (blocks ++ [block]) ∧
      ∃ r, (applyWalletTransfer host policy context args moment file).outcome = .ok r := by
  rw [applyWalletTransfer]
  dsimp only
  split
  next => exact .inl rfl
  next i hi =>
  split
  next => exact .inl rfl
  next =>
  split
  next => exact .inl rfl
  next =>
    split
    next => exact .inl rfl
    next => exact .inl rfl
  next blocks hne hlisted =>
    split
    next => exact .inl rfl
    next transactions htransactions =>
    rcases appendChainBlock_cases moment none transactions file with
      ⟨e, h⟩ | h | ⟨blocks', block, happended, h⟩
    · rw [h]
      exact .inl rfl
    · rw [h]
      exact .inl rfl
    · rw [h]
      cases happended.listed.symm.trans hlisted
      refine .inr ⟨_, ?_, _, transactions, blocks, block, htransactions, happended, rfl, _, rfl⟩
      obtain ⟨hlt, -⟩ := List.findIdx?_eq_some_iff_getElem.mp hi
      rw [List.getD_eq_getElem?_getD, List.getElem?_eq_getElem hlt]
      exact List.getElem_mem hlt

end Cases

end CaiNetwork
