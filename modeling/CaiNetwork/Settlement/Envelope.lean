/-
CaiNetwork/Settlement/Envelope.lean

The signed envelope of a settlement (`settlement_envelope_payload`, `sign_settlement_envelope`,
`verify_settlement_envelope`).

The node that funds a settlement signs a body that lists its amounts, its committee and the
sections of its audit.  The envelope is stored in the audit itself and says of itself whether a
signature is required.
-/

import CaiNetwork.Settlement.Accounting

namespace CaiNetwork

open Json (getD)

/-! ### The body -/

/-- A dictionary of integers, as JSON. -/
def tallyJson (t : Tally String) : Json := .obj (t.map fun e => (e.1, .int e.2))

/-- `_json_safe_audit_section`: a section, with the keys of every dictionary in order. -/
def jsonSafeAuditSection (audit : Fields) (name : String) : Json :=
  (getD audit name).sortKeys

variable (host : Host) (policy : WalletPolicy)

/-- The `settlement` section of the body. -/
def envelopeSettlement (settlement : SettlementRecord) : Json :=
  .obj [("settlement_id", .str settlement.settlementId),
    ("created_at", .str settlement.createdAt),
    ("source_wallet_id", .str settlement.sourceWalletId),
    ("source_wallet_address", .str (host.normalizeAddress settlement.sourceWalletAddress)),
    ("funding_source", .str settlement.fundingSource),
    ("compute_cost_atomic", .int settlement.computeCostAtomic),
    ("tx_fee_atomic", .int settlement.txFeeAtomic),
    ("settlement_fee_atomic", .int settlement.settlementFeeAtomic),
    ("ai_development_fee_atomic", .int settlement.aiDevelopmentFeeAtomic),
    ("worker_reward_atomic", .int settlement.workerRewardAtomic),
    ("source_wallet_debit_atomic", .int settlement.sourceWalletDebitAtomic),
    ("reserve_debit_atomic", .int settlement.reserveDebitAtomic),
    ("reserve_limit_identity_keys",
      .arr (settlement.reserveLimitIdentityKeys.map Json.str)),
    ("reserve_client_ip_hash", optStr settlement.reserveClientIpHash),
    ("ai_development_wallet_id", optStr settlement.aiDevelopmentWalletId),
    ("ai_development_address",
      optStr ((nonempty? settlement.aiDevelopmentAddress).map host.normalizeAddress))]

/-- The `committee` section of the body. -/
def envelopeCommittee (settlement : SettlementRecord) : Json :=
  .obj [("selection_seed", optStr settlement.committeeSelectionSeed),
    ("target_size", .int settlement.committeeTargetSize),
    ("selection_mode", .str settlement.committeeSelectionMode),
    ("validator_ids", .arr (settlement.committeeValidatorIds.map Json.str)),
    ("bonded_atomic_by_validator_id", tallyJson settlement.committeeBondedAtomicByValidatorId),
    ("total_bonded_atomic", .int settlement.committeeTotalBondedAtomic),
    ("quorum_bond_atomic", .int settlement.committeeQuorumBondAtomic)]

/-- `settlement_envelope_payload`. -/
def settlementEnvelopePayload (money : MoneyPolicy) (settlement : SettlementRecord) : Json :=
  .obj [("schema_version", .int 1),
    ("chain_network", .str money.chainNetwork.value),
    ("reward_token_code",
      .str ((nonempty? settlement.rewardTokenCode).getD money.rewardTokenCode)),
    ("settlement", envelopeSettlement host settlement),
    ("committee", envelopeCommittee settlement),
    ("quote", jsonSafeAuditSection settlement.balanceAudit "quote"),
    ("fees", jsonSafeAuditSection settlement.balanceAudit "fees"),
    ("debits", jsonSafeAuditSection settlement.balanceAudit "debits"),
    ("execution", jsonSafeAuditSection settlement.balanceAudit "execution"),
    ("payouts", jsonSafeAuditSection settlement.balanceAudit "payouts")]

/-- `settlement_envelope_hash`. -/
def settlementEnvelopeHash (payload : Json) : String := canonicalHash payload

/-! ### Verifying -/

/-- `v == s` for a string. -/
def Json.isStr (v : Json) (s : String) : Bool :=
  match v with
  | .str t => t = s
  | _ => false

/-- `verify_settlement_envelope`: nothing for a valid envelope, else the error text. -/
def verifySettlementEnvelope (money : MoneyPolicy) (settlement : SettlementRecord) :
    Option String :=
  match getD settlement.balanceAudit "signed_envelope" with
  | .obj envelope =>
    if (getD envelope "required").truthy = false then none
    else
      let payload := settlementEnvelopePayload host money settlement
      let publicKeyB64 := host.strOrEmpty (getD envelope "public_key_b64")
      let signatureB64 := host.strOrEmpty (getD envelope "signature_b64")
      if (getD envelope "payload_hash").isStr (settlementEnvelopeHash payload) = false then
        some "settlement signed envelope payload hash does not match"
      else if publicKeyB64 = "" ∨ signatureB64 = "" then
        some "settlement signed envelope signature is missing"
      else if (getD envelope "scheme").isStr signingSchemeHybridEd25519MlDsa65 then
        let pqPublicKeyB64 := host.strOrEmpty (getD envelope "pq_public_key_b64")
        let pqSignatureB64 := host.strOrEmpty (getD envelope "pq_signature_b64")
        if host.strOrEmpty (getD envelope "pq_scheme") ≠ signingSchemeMlDsa65 then
          some "settlement signed envelope PQ signature scheme is unsupported"
        else if pqPublicKeyB64 = "" ∨ pqSignatureB64 = "" then
          some "settlement signed envelope PQ signature is missing"
        else if verifyHybridPayloadSignature host publicKeyB64 signatureB64 pqPublicKeyB64
            pqSignatureB64 payload then none
        else some "settlement signed envelope hybrid signature is invalid"
      else if verifyPayloadSignature host publicKeyB64 signatureB64 payload then none
      else some "settlement signed envelope signature is invalid"
  | _ => some "settlement signed envelope is missing"

/-! ### Signing -/

/-- The dictionary that `sign_settlement_envelope` fills in. -/
structure SignedEnvelope where
  payloadHash : String
  sourceWalletId : String
  sourceWalletAddress : String
  required : Bool := false
  scheme : Option String := none
  addressScheme : Option String := none
  publicKeyB64 : Option String := none
  signatureB64 : Option String := none
  signatureValid : Bool := false
  status : String := "unsigned"
  signedAt : Option String := none
  /-- The post-quantum key and signature of a hybrid wallet. -/
  pq : Option (String × String) := none

/-- The dictionary as it is stored. -/
def SignedEnvelope.toJson (envelope : SignedEnvelope) : Json :=
  .obj ([("schema_version", .int 1), ("payload_hash", .str envelope.payloadHash),
    ("source_wallet_id", .str envelope.sourceWalletId),
    ("source_wallet_address", .str envelope.sourceWalletAddress),
    ("required", .bool envelope.required), ("scheme", optStr envelope.scheme),
    ("address_scheme", optStr envelope.addressScheme),
    ("public_key_b64", optStr envelope.publicKeyB64),
    ("signature_b64", optStr envelope.signatureB64),
    ("signature_valid", .bool envelope.signatureValid), ("status", .str envelope.status),
    ("signed_at", optStr envelope.signedAt)] ++
    match envelope.pq with
    | none => []
    | some (key, signature) => [("pq_scheme", .str signingSchemeMlDsa65),
        ("pq_public_key_b64", .str key), ("pq_signature_b64", .str signature)])

/-- `_save_settlement_balance_audit`. -/
def saveSettlementBalanceAudit (settlement : SettlementRecord) (audit : Fields) :
    NodeAction SettlementRecord := do
  match (← get).resolveSettlement settlement.settlementId with
  | none => return settlement
  | some item =>
    let item := { item with balanceAudit := audit }
    modify fun node => node.saveSettlement item
    return item

/-- A wallet that signs with Ed25519 alone. -/
def WalletRecord.usesEd25519 (wallet : WalletRecord) : Bool :=
  wallet.signingScheme = some signingSchemeEd25519 &&
    wallet.addressScheme = some addressSchemeEd25519

/-- A wallet that signs with both schemes. -/
def WalletRecord.usesHybrid (wallet : WalletRecord) : Bool :=
  wallet.signingScheme = some signingSchemeHybridEd25519MlDsa65 &&
    (wallet.addressScheme.map fun scheme => signsPostQuantum scheme) = some true

/-- The signatures of an unlocked wallet that matches the settlement. -/
def signEnvelope (backend : SigningBackend) (moment : Moment) (payload : Json)
    (signer : Fields) (hybrid : Bool) (envelope : SignedEnvelope) :
    Except PyError SignedEnvelope := do
  let publicKeyB64 := host.strOrEmpty (getD signer "public_key_b64")
  let seed ← decodedBytes (host.strOrEmpty (getD signer "signing_seed_b64"))
  let signatureB64 ← signPayloadB64 backend seed payload
  let signed := { envelope with
    publicKeyB64 := some publicKeyB64
    signatureB64 := some signatureB64
    signedAt := some moment.now.text }
  if hybrid then
    let pqPublicKeyB64 := host.strOrEmpty (getD signer "pq_public_key_b64")
    let pqSignatureB64 ← signPayloadMldsa65B64 backend
      (host.strOrEmpty (getD signer "pq_private_key_b64")) payload
    let valid := verifyHybridPayloadSignature host publicKeyB64 signatureB64 pqPublicKeyB64
      pqSignatureB64 payload
    return { signed with
      pq := some (pqPublicKeyB64, pqSignatureB64)
      signatureValid := valid
      status := if valid then "signed" else "invalid" }
  else
    let valid := verifyPayloadSignature host publicKeyB64 signatureB64 payload
    return { signed with
      signatureValid := valid
      status := if valid then "signed" else "invalid" }

/-- The envelope for a settlement whose source wallet was looked up. -/
def envelopeFor (backend : SigningBackend) (money : MoneyPolicy) (moment : Moment)
    (unlocked : Option Fields) (settlement : SettlementRecord)
    (sourceWallet : Option WalletRecord) : Except PyError SignedEnvelope :=
  let payload := settlementEnvelopePayload host money settlement
  let envelope : SignedEnvelope :=
    { payloadHash := settlementEnvelopeHash payload
      sourceWalletId := settlement.sourceWalletId
      sourceWalletAddress := host.normalizeAddress settlement.sourceWalletAddress }
  match sourceWallet with
  | none => .ok { envelope with status := "source_wallet_not_found" }
  | some wallet =>
    let envelope := { envelope with
      addressScheme := wallet.addressScheme
      scheme := wallet.signingScheme }
    if wallet.usesEd25519 = false ∧ wallet.usesHybrid = false then
      .ok { envelope with status := "legacy_wallet_unsigned" }
    else
      let envelope := { envelope with required := true }
      match loadUnlockedSigningKey host wallet unlocked with
      | none => .ok { envelope with status := "missing_unlocked_signer" }
      | some signer =>
        if some (host.strOrEmpty (getD signer "public_key_b64")) ≠ wallet.publicKeyB64 then
          .ok { envelope with status := "public_key_mismatch" }
        else if wallet.usesHybrid ∧ host.strOrEmpty (getD signer "pq_public_key_b64") ≠
            wallet.pqPublicKeyB64.getD "" then
          .ok { envelope with status := "pq_public_key_mismatch" }
        else if host.normalizeAddress wallet.address ≠
            host.normalizeAddress settlement.sourceWalletAddress then
          .ok { envelope with status := "source_wallet_address_mismatch" }
        else signEnvelope host backend moment payload signer wallet.usesHybrid envelope

/-- `sign_settlement_envelope`. -/
def signSettlementEnvelope (backend : SigningBackend) (money : MoneyPolicy) (moment : Moment)
    (settlementId : String) : NodeAction (Option SettlementRecord) := do
  match (← get).resolveSettlement settlementId with
  | none => return none
  | some settlement =>
    let sourceWallet ← findWalletById host settlement.sourceWalletId
    let envelope ← .lift (envelopeFor host backend money moment (← get).unlocked settlement
      sourceWallet)
    let audit := Json.set settlement.balanceAudit "signed_envelope" envelope.toJson
    return some (← saveSettlementBalanceAudit settlement audit)

end CaiNetwork
