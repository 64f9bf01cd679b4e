/-
CaiNetwork/Transaction.lean

Chain transactions (`chain.py`): the record, the payload that is hashed, the payload that is
signed, the constructor, and the check of a transaction's signature.

A transaction is stored with the address it was built with, but every hash normalises the
address once more (`transactionPayload`).  Two transactions related by `SamePayload` have one
hashed payload, and the signature check cannot tell them apart (`SamePayload.verify_eq`).
-/

import Mathlib.Data.List.TakeWhile
import CaiNetwork.Signing

namespace CaiNetwork

/-! ### Policies -/

/-- The fields of `WalletPolicy` that the chain reads; the two flags are the ones
`__post_init__` has resolved. -/
structure WalletPolicy where
  chainNetwork : ChainNetwork
  requirePostQuantumWalletSignatures : Bool
  requireHybridPeerPayloadSignatures : Bool
  trustedValidatorAddresses : List String

/-- The fields of `MoneyPolicy` that the modelled programs read, with their defaults. -/
structure MoneyPolicy where
  chainNetwork : ChainNetwork
  currencyCode : String := "CAICN"
  rewardTokenCode : String := "CAICN"
  decimals : Nat := 8
  totalSupplyCoins : Nat := 1000000000
  computeReserveCoins : Nat := 850000000
  developerTreasuryCoins : Nat := 50000000
  developerContributionFundCoins : Nat := 100000000
  developerTreasuryWalletId : String
  developerTreasuryAddress : String
  aiDevelopmentWalletId : String
  aiDevelopmentAddress : String
  aiDevelopmentFeeBps : Int := 0
  dailyUserReserveLimitEnabled : Bool := true
  dailyUserReserveLimitCoins : String := "1.00000000"
  dailyIpReserveLimitEnabled : Bool := true
  dailyIpReserveLimitCoins : String := "1.00000000"
  reserveFundsComputeFirst : Bool := true
  userCanFundJobsFromWallet : Bool := true
  txFeePaidByInitiator : Bool := true
  defaultTxFeeCoins : String := "0.00010000"
  validatorSettlementFeeBps : Int := 200
  validatorMinBondCoins : String := "10000.00000000"
  validatorCommitteeTargetSize : Int := 3
  validatorCommitteeSelectionMode : String := "stake_weighted_lottery"
  validatorJailSlashBps : Int := 500
  validatorUnbondingSeconds : Int := 86400
  validatorUnjailCooldownSeconds : Int := 21600

/-- `default_ai_development_wallet_id`, of the active preset. -/
def ChainNetwork.aiDevelopmentWalletId : ChainNetwork → String
  | .mainnet => "d614b61241fa972c34cf7c256848dc3d"
  | .testnet => "4b41845b6ba0422fdee9a2dc435101d1"

/-- `default_ai_development_address`, of the active preset. -/
def ChainNetwork.aiDevelopmentAddress : ChainNetwork → String
  | .mainnet => "d7fbe14450f1a91363fb9585393ccd38"
  | .testnet => "d96d56a8fd63fb352009bf17d05c7d96"

/-- `MoneyPolicy(chain_network=network)`. -/
def MoneyPolicy.ofNetwork (host : Host) (network : ChainNetwork) : MoneyPolicy where
  chainNetwork := network
  developerTreasuryWalletId := host.developerTreasuryWalletId
  developerTreasuryAddress := host.developerTreasuryAddress
  aiDevelopmentWalletId := host.activeNetwork.aiDevelopmentWalletId
  aiDevelopmentAddress := host.activeNetwork.aiDevelopmentAddress

/-- `_money_policy_for_wallet_policy(policy)`. -/
def moneyPolicyForWalletPolicy (host : Host) (policy : WalletPolicy) : MoneyPolicy :=
  .ofNetwork host policy.chainNetwork

/-- A testnet policy that trusts one validator. -/
def samplePolicy : WalletPolicy where
  chainNetwork := .testnet
  requirePostQuantumWalletSignatures := false
  requireHybridPeerPayloadSignatures := false
  trustedValidatorAddresses := ["ca978112ca1bbdcafac231b39a23dc4d"]

/-- `coins_to_atomic`. -/
def coinsToAtomic (host : Host) (value : String) (decimals : Nat) : Except PyError Int := do
  let whole := value.toList.takeWhile (· ≠ '.')
  let whole := if whole = [] then ['0'] else whole
  let fraction := (value.toList.dropWhile (· ≠ '.')).drop 1
  let fraction := (fraction ++ List.replicate decimals '0').take decimals
  let negative := whole.head? = some '-'
  let wholeDigits := if negative then whole.drop 1 else whole
  let w ← host.int (.str (String.ofList wholeDigits))
  let f ← host.int (.str (String.ofList (if fraction = [] then ['0'] else fraction)))
  return (if negative then -1 else 1) * (w * 10 ^ decimals + f)

/-- `coins_to_atomic(str(coins))` for a whole number of coins. -/
def atomicOfCoins (coins decimals : Nat) : Int := coins * 10 ^ decimals

/-! ### Transactions -/

/-- `CHAIN_SCHEMA_VERSION`. -/
def chainSchemaVersion : Int := 1

/-- A time `_now_iso()` returns. -/
structure Timestamp where
  text : String
  nonempty : text ≠ ""
deriving DecidableEq

/-- `None` or a string, as JSON. -/
def optStr : Option String → Json
  | none => .null
  | some s => .str s

/-- `ChainTransaction`.  The fields that the loader does not convert hold whatever value the
file has. -/
structure ChainTransaction where
  txId : String
  createdAt : String
  txType : String
  address : String
  deltaAtomic : Int
  settlementId : Json := .null
  payoutId : Json := .null
  walletId : Json := .null
  counterpartyAddress : Option String := none
  note : Json := .null
  nonce : Option String := none
  chainId : String
  schemaVersion : Int := chainSchemaVersion
  publicKeyB64 : Option String := none
  signatureB64 : Option String := none
  metadata : Fields := []
deriving Inhabited

variable (host : Host)

/-- The counterparty as it is hashed: a text that is present is normalised once more. -/
def hashedCounterparty : Option String → Json
  | none => .null
  | some c => if c = "" then .str "" else .str (host.normalizeAddress c)

/-- `_transaction_payload`. -/
def transactionPayload (tx : ChainTransaction) : Json :=
  .obj [("tx_id", .str tx.txId),
    ("created_at", .str tx.createdAt),
    ("tx_type", .str tx.txType),
    ("address", .str (host.normalizeAddress tx.address)),
    ("delta_atomic", .int tx.deltaAtomic),
    ("settlement_id", tx.settlementId),
    ("payout_id", tx.payoutId),
    ("wallet_id", tx.walletId),
    ("counterparty_address", hashedCounterparty host tx.counterpartyAddress),
    ("note", tx.note),
    ("nonce", optStr tx.nonce),
    ("chain_id", .str (if tx.chainId = "" then host.defaultChainId else tx.chainId)),
    ("schema_version", .int (if tx.schemaVersion = 0 then chainSchemaVersion
      else tx.schemaVersion)),
    ("public_key_b64", optStr tx.publicKeyB64),
    ("signature_b64", optStr tx.signatureB64),
    ("metadata", .obj tx.metadata)]

/-- `transaction_signing_payload`: the payload without the two signatures. -/
def transactionSigningPayload (tx : ChainTransaction) : Json :=
  transactionPayload host { tx with
    signatureB64 := none
    metadata := tx.metadata.filter (fun e => e.1 ≠ "pq_signature_b64") }

/-! ### The constructor -/

/-- The keyword arguments of `make_chain_transaction`. -/
structure TransactionArgs where
  txType : String
  address : String
  deltaAtomic : Int
  settlementId : Option String := none
  payoutId : Option String := none
  walletId : Option String := none
  counterpartyAddress : Option String := none
  note : Option String := none
  nonce : Option String := none
  publicKeyB64 : Option String := none
  signatureB64 : Option String := none
  metadata : Fields := []
  txId : Option String := none
  createdAt : Option String := none
  chainId : Option String := none
  schemaVersion : Int := chainSchemaVersion

/-- A string that is present and not empty. -/
def nonempty? : Option String → Option String
  | some s => if s = "" then none else some s
  | none => none

theorem eq_some_of_nonempty? {o : Option String} {s : String} (h : nonempty? o = some s) :
    o = some s := by
  rcases o with - | t
  · cases h
  · rw [nonempty?] at h
    split at h
    · cases h
    · exact h

theorem ne_empty_of_nonempty? {o : Option String} {s : String} (h : nonempty? o = some s) :
    s ≠ "" := by
  rintro rfl
  rw [eq_some_of_nonempty? h, nonempty?, if_pos rfl] at h
  cases h

/-- The chain id that a constructor call resolves to. -/
def resolvedChainId (args : TransactionArgs) : String :=
  match nonempty? args.chainId with
  | some c => c
  | none =>
    let network := Json.getD args.metadata "network"
    if network.truthy then host.str network else host.defaultChainId

/-- `deterministic_tx_id`. -/
def deterministicTxId (address : String) (chainId : String) (args : TransactionArgs) : String :=
  takeString 32 (canonicalHash (.obj [
    ("chain_id", .str (if chainId = "" then host.defaultChainId else chainId)),
    ("schema_version", .int args.schemaVersion),
    ("tx_type", .str args.txType),
    ("address", .str (host.normalizeAddress address)),
    ("delta_atomic", .int args.deltaAtomic),
    ("settlement_id", optStr args.settlementId),
    ("payout_id", optStr args.payoutId),
    ("wallet_id", optStr args.walletId),
    ("counterparty_address",
      optStr ((nonempty? args.counterpartyAddress).map host.normalizeAddress)),
    ("nonce", optStr args.nonce),
    ("public_key_b64", optStr (nonempty? args.publicKeyB64))]))

/-- `make_chain_transaction`. -/
def makeChainTransaction (now : Timestamp) (args : TransactionArgs) : ChainTransaction where
  txId := (nonempty? args.txId).getD
    (deterministicTxId host (host.normalizeAddress args.address) (resolvedChainId host args) args)
  createdAt := (nonempty? args.createdAt).getD now.text
  txType := args.txType
  address := host.normalizeAddress args.address
  deltaAtomic := args.deltaAtomic
  settlementId := optStr args.settlementId
  payoutId := optStr args.payoutId
  walletId := optStr args.walletId
  counterpartyAddress := (nonempty? args.counterpartyAddress).map host.normalizeAddress
  note := optStr args.note
  nonce := args.nonce
  chainId := resolvedChainId host args
  schemaVersion := args.schemaVersion
  publicKeyB64 := nonempty? args.publicKeyB64
  signatureB64 := nonempty? args.signatureB64
  metadata := args.metadata

/-! ### The signature check -/

/-- `signable_wallet_transaction_types()`. -/
def signableWalletTransactionTypes : List String := ["wallet_transfer_debit"]

/-- `str(metadata.get(key) or "").strip()`. -/
def metadataText (tx : ChainTransaction) (key : String) : String :=
  strip (host.strOrEmpty (Json.getD tx.metadata key))

/-- A transaction whose signature is checked. -/
def signatureRequired (tx : ChainTransaction) : Bool :=
  (Json.getD tx.metadata "signature_required").truthy ||
    decide (tx.txType ∈ signableWalletTransactionTypes)

/-- `verify_chain_transaction_signature`: nothing for an accepted transaction, else the error
text.  A public key that is not base64 raises. -/
def verifyChainTransactionSignature (policy : WalletPolicy) (tx : ChainTransaction) :
    Except PyError (Option String) :=
  if signatureRequired tx = false then .ok none
  else
    match nonempty? tx.publicKeyB64, nonempty? tx.signatureB64 with
    | none, _ => .ok (some s!"transaction {tx.txId} is missing public_key_b64")
    | some _, none => .ok (some s!"transaction {tx.txId} is missing signature_b64")
    | some publicKey, some signature =>
      let addressScheme := metadataText host tx "address_scheme"
      let pqPublicKey := metadataText host tx "pq_public_key_b64"
      let pqSignature := metadataText host tx "pq_signature_b64"
      let pqSignatureScheme := metadataText host tx "pq_signature_scheme"
      if addressScheme = "" then
        .ok (some s!"transaction {tx.txId} is missing address scheme")
      else if addressScheme = addressSchemeEd25519 then
        if policy.requirePostQuantumWalletSignatures then
          .ok (some s!"transaction {tx.txId} requires a post-quantum signature")
        else
          match addressFromPublicKeyB64 publicKey with
          | none => .error (.valueError "public key is not base64")
          | some expectedAddress =>
            if host.normalizeAddress tx.address ≠ expectedAddress then
              .ok (some s!"transaction {tx.txId} public key does not match address")
            else if verifyPayloadSignature host publicKey signature
                (transactionSigningPayload host tx) then .ok none
            else .ok (some s!"transaction {tx.txId} has invalid signature")
      else if addressScheme ∈ hybridAddressSchemes then
        if pqSignatureScheme ≠ "" ∧ pqSignatureScheme ≠ signingSchemeMlDsa65 then
          .ok (some s!"transaction {tx.txId} has unsupported post-quantum signature scheme")
        else if pqPublicKey = "" ∨ pqSignature = "" then
          .ok (some s!"transaction {tx.txId} is missing post-quantum signature")
        else
          match hybridAddressFromPublicKeysB64 publicKey pqPublicKey addressScheme with
          | .error e => .error e
          | .ok expectedAddress =>
            if host.normalizeAddress tx.address ≠ expectedAddress then
              .ok (some s!"transaction {tx.txId} public keys do not match address")
            else if verifyHybridPayloadSignature host publicKey signature pqPublicKey pqSignature
                (transactionSigningPayload host tx) then .ok none
            else .ok (some s!"transaction {tx.txId} has invalid hybrid signature")
      else if addressScheme = addressSchemeFixedWalletIdSha256 then
        -- the one branch that compares no address with the keys
        if metadataText host tx "signing_scheme" ≠ signingSchemeHybridEd25519MlDsa65 then
          .ok (some s!"transaction {tx.txId} fixed address requires hybrid signing scheme")
        else if pqSignatureScheme ≠ signingSchemeMlDsa65 then
          .ok (some s!"transaction {tx.txId} has unsupported post-quantum signature scheme")
        else if pqPublicKey = "" ∨ pqSignature = "" then
          .ok (some s!"transaction {tx.txId} is missing post-quantum signature")
        else if verifyHybridPayloadSignature host publicKey signature pqPublicKey pqSignature
            (transactionSigningPayload host tx) then .ok none
        else .ok (some s!"transaction {tx.txId} has invalid hybrid signature")
      else .ok (some s!"transaction {tx.txId} has unsupported address scheme")

/-! ### What the hash and the signature check depend on -/

/-- Two transactions that differ at most in the spelling of their addresses, and not in the
normal forms that are hashed. -/
structure SamePayload (t u : ChainTransaction) : Prop where
  txId : t.txId = u.txId
  createdAt : t.createdAt = u.createdAt
  txType : t.txType = u.txType
  address : host.normalizeAddress t.address = host.normalizeAddress u.address
  deltaAtomic : t.deltaAtomic = u.deltaAtomic
  settlementId : t.settlementId = u.settlementId
  payoutId : t.payoutId = u.payoutId
  walletId : t.walletId = u.walletId
  counterparty : hashedCounterparty host t.counterpartyAddress =
    hashedCounterparty host u.counterpartyAddress
  note : t.note = u.note
  nonce : t.nonce = u.nonce
  chainId : t.chainId = u.chainId
  schemaVersion : t.schemaVersion = u.schemaVersion
  publicKeyB64 : t.publicKeyB64 = u.publicKeyB64
  signatureB64 : t.signatureB64 = u.signatureB64
  metadata : t.metadata = u.metadata

variable {host} {t u : ChainTransaction}

theorem SamePayload.payload_eq (h : SamePayload host t u) :
    transactionPayload host t = transactionPayload host u := by
  rw [transactionPayload, transactionPayload, h.txId, h.createdAt, h.txType, h.address,
    h.deltaAtomic, h.settlementId, h.payoutId, h.walletId, h.counterparty, h.note, h.nonce,
    h.chainId, h.schemaVersion, h.publicKeyB64, h.signatureB64, h.metadata]

theorem SamePayload.signingPayload_eq (h : SamePayload host t u) :
    transactionSigningPayload host t = transactionSigningPayload host u := by
  rw [transactionSigningPayload, transactionSigningPayload]
  apply SamePayload.payload_eq
  exact { h with signatureB64 := rfl, metadata := by rw [h.metadata] }

/-- **The signature check sees a transaction only through the hashed payload.** -/
theorem SamePayload.verify_eq (h : SamePayload host t u) {policy : WalletPolicy} :
    verifyChainTransactionSignature host policy t =
      verifyChainTransactionSignature host policy u := by
  have hrequired : signatureRequired t = signatureRequired u := by
    rw [signatureRequired, signatureRequired, h.metadata, h.txType]
  have htext : ∀ key, metadataText host t key = metadataText host u key := by
    intro key
    rw [metadataText, metadataText, h.metadata]
  unfold verifyChainTransactionSignature
  rw [hrequired, h.publicKeyB64, h.signatureB64, h.txId, h.address, h.signingPayload_eq]
  simp only [htext]

end CaiNetwork
