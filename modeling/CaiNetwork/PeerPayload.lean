/-
CaiNetwork/PeerPayload.lean

Payloads that nodes exchange (`peer_payload.py`): the check of their network metadata and the
check of their signature.

The signature record of a payload declares two addresses.  `public_key_address` is compared
with the addresses derived from the record's keys; `signer_address` is not looked at.
`SignerAddress` says what a signature can prove.
-/

import CaiNetwork.Registry

namespace CaiNetwork

open Json (getD)

/-- `PEER_PAYLOAD_SCHEMA_VERSION`. -/
def peerPayloadSchemaVersion : Int := 1

/-- `PEER_PAYLOAD_SIGNATURE_SCHEME_ED25519`. -/
def peerPayloadSignatureSchemeEd25519 : String := "cai-peer-payload-ed25519-v1"

/-- `PEER_PAYLOAD_SIGNATURE_SCHEME_HYBRID`. -/
def peerPayloadSignatureSchemeHybrid : String := "cai-peer-payload-hybrid-ed25519-ml-dsa-65-v1"

variable (host : Host) (policy : WalletPolicy)

/-- `str(d.get(key) or "").strip()`. -/
def fieldText (kvs : Fields) (key : String) : String :=
  strip (host.strOrEmpty (getD kvs key))

theorem Host.strOrEmpty_str (s : String) : host.strOrEmpty (.str s) = s := by
  rw [Host.strOrEmpty, Json.pyOr]
  split
  next => rfl
  next h =>
    have hs : s = "" := by simpa [Json.truthy] using h
    rw [hs]
    rfl

theorem fieldText_of_str {kvs : Fields} {key s : String}
    (h : getD kvs key = .str s) : fieldText host kvs key = strip s := by
  rw [fieldText, h, Host.strOrEmpty_str]

theorem getD_append_of_absent {kvs more : Fields} {key : String}
    (h : kvs.lookup key = none) : getD (kvs ++ more) key = getD more key := by
  rw [getD, getD, List.lookup_append, h, Option.none_or]

/-! ### Network metadata -/

/-- `_metadata_value`: the first of the keys that holds a text. -/
def metadataValue (kvs : Fields) : List String → String
  | [] => ""
  | key :: keys => if fieldText host kvs key ≠ "" then fieldText host kvs key
    else metadataValue kvs keys

/-- `int(v)` under `except (TypeError, ValueError)`; the `OverflowError` of an infinity is not
caught. -/
def tryInt (v : Json) : Except PyError (Option Int) :=
  match host.int v with
  | .ok n => .ok (some n)
  | .error (.valueError _) => .ok none
  | .error .typeError => .ok none
  | .error e => .error e

/-- The loop of `_payload_genesis_block`. -/
def firstAtHeightZero : List Json → Except PyError (Option Fields)
  | [] => .ok none
  | .obj kvs :: raws => do
    let height ← tryInt host ((getD kvs "height").pyOr (.int 0))
    if height = some 0 then return some kvs else firstAtHeightZero raws
  | _ :: raws => firstAtHeightZero raws

/-- `_payload_genesis_block`. -/
def payloadGenesisBlock (raws : List Json) : Except PyError (Option Fields) := do
  match ← firstAtHeightZero host raws with
  | some kvs => return some kvs
  | none =>
    match raws.head? with
    | some (.obj kvs) => return some kvs
    | _ => return none

/-- A text as a set of at most one. -/
def textSet (s : String) : List String := if s = "" then [] else [s]

/-- The hash that the blocks of a payload give for the genesis block. -/
def blockGenesisHashes (blocks : Json) : Except PyError (List String) :=
  match blocks with
  | .arr (raw :: raws) => do
    match ← payloadGenesisBlock host (raw :: raws) with
    | some kvs => return textSet (host.lower (fieldText host kvs "block_hash"))
    | none => return []
  | _ => .ok []

mutual

/-- `_payload_genesis_hashes`, as a list. -/
def payloadGenesisHashes : Json → Except PyError (List String)
  | .obj kvs => do
    let direct := host.lower (metadataValue host kvs
      ["genesis_hash", "genesisHash", "chain_genesis_hash", "chainGenesisHash"])
    let nested ← nestedGenesisHashes kvs
    let blocks ← blockGenesisHashes host (getD kvs "blocks")
    return textSet direct ++ nested ++ blocks
  | _ => .ok []

/-- The hashes of the value at `"chain"`. -/
def nestedGenesisHashes : Fields → Except PyError (List String)
  | [] => .ok []
  | (key, value) :: kvs =>
    if key = "chain" then payloadGenesisHashes value else nestedGenesisHashes kvs

end

/-- The check of the schema version in `validate_peer_payload_network`. -/
def checkPeerSchemaVersion (payloadName : String) (kvs : Fields) :
    Except PyError Unit := do
  let raw := (kvs.lookup "schema_version").getD (getD kvs "schemaVersion")
  let absent : Bool := match raw with
    | .null => true
    | .str s => s = ""
    | _ => false
  if absent then return
  match ← tryInt host raw with
  | none => throw (.valueError (s!"Refusing {payloadName} payload with invalid schema_version " ++
      s!"'{host.str raw}'."))
  | some version =>
    if version ≠ peerPayloadSchemaVersion then
      throw (.valueError (s!"Refusing {payloadName} payload with unsupported schema_version " ++
        s!"'{version}'. Expected {peerPayloadSchemaVersion}."))

/-- `validate_peer_payload_network`. -/
def validatePeerPayloadNetwork (payloadName : String) (kvs : Fields) :
    Except PyError String := do
  checkPeerSchemaVersion host payloadName kvs
  let chainId := metadataValue host kvs ["chain_id", "chainId"]
  let network := metadataValue host kvs ["network", "chain_network", "chainNetwork"]
  if host.lower chainId ≠ "" ∧ host.lower network ≠ "" ∧
      host.lower chainId ≠ host.lower network then
    throw (.valueError (s!"Refusing {payloadName} payload with mismatched chain_id " ++
      s!"'{chainId}' and network '{network}'."))
  let localNetwork := policy.chainNetwork.value
  let incoming := if host.lower chainId ≠ "" then host.lower chainId else host.lower network
  if incoming = "" then
    throw (.valueError s!"Refusing {payloadName} payload without network metadata.")
  if incoming ≠ localNetwork then
    throw (.valueError (s!"Refusing {payloadName} payload for network '{incoming}' " ++
      s!"on '{localNetwork}'."))
  let hashes ← payloadGenesisHashes host (.obj kvs)
  let localHash := expectedGenesisHash host (moneyPolicyForWalletPolicy host policy)
  match hashes.dedup with
  | [] => throw (.valueError (s!"Refusing {payloadName} payload without genesis_hash for " ++
      s!"network '{localNetwork}'."))
  | [hash] =>
    if hash ≠ localHash then
      throw (.valueError (s!"Refusing {payloadName} payload for genesis_hash '{hash}' " ++
        s!"on '{localHash}'."))
    return incoming
  | several => throw (.valueError (s!"Refusing {payloadName} payload with conflicting " ++
      "genesis_hash values: " ++ ", ".intercalate
        (several.insertionSort (fun a b => Json.stringLe a b = true)) ++ "."))

/-! ### Signatures -/

/-- `peer_payload_signing_body`. -/
def peerPayloadSigningBody (kvs : Fields) : Json :=
  .obj (kvs.filter (fun e => e.1 ≠ "signature"))

/-- The addresses that `public_key_address` may declare. -/
def expectedPublicKeyAddresses (hybrid : Bool) (publicKeyB64 pqPublicKeyB64 : String) :
    Option (List String) :=
  if hybrid then
    match hybridAddressFromPublicKeysB64 publicKeyB64 pqPublicKeyB64
        addressSchemeHybridEd25519MlDsa65,
      hybridAddressFromPublicKeysB64 publicKeyB64 pqPublicKeyB64
        defaultWalletHybridAddressScheme with
    | .ok a, .ok b => some [a, b]
    | _, _ => none
  else (addressFromPublicKeyB64 publicKeyB64).map fun a => [a]

/-- `verify_peer_payload_signature` of a payload with a signature record; nothing when the
signature is accepted. -/
def verifySignatureRecord (payloadName : String) (requireHybridSignature : Bool)
    (kvs signature : Fields) : Option String :=
  let scheme := fieldText host signature "scheme"
  let hybrid : Bool := scheme = peerPayloadSignatureSchemeHybrid
  let publicKey := fieldText host signature "public_key_b64"
  let signatureB64 := fieldText host signature "signature_b64"
  let pqPublicKey := fieldText host signature "pq_public_key_b64"
  let pqSignature := fieldText host signature "pq_signature_b64"
  let declared := host.lower (fieldText host signature "public_key_address")
  let body := peerPayloadSigningBody kvs
  if scheme ∉ [peerPayloadSignatureSchemeEd25519, peerPayloadSignatureSchemeHybrid] then
    some s!"{payloadName} payload has unsupported signature scheme '{scheme}'."
  else if requireHybridSignature ∧ hybrid = false then
    some s!"{payloadName} payload requires a hybrid post-quantum signature"
  else if publicKey = "" ∨ signatureB64 = "" then
    some s!"{payloadName} payload signature is incomplete"
  else if hybrid ∧ fieldText host signature "pq_scheme" ≠ signingSchemeMlDsa65 then
    some s!"{payloadName} payload has unsupported PQ signature scheme"
  else if hybrid ∧ (pqPublicKey = "" ∨ pqSignature = "") then
    some s!"{payloadName} payload hybrid signature is incomplete"
  else
    match expectedPublicKeyAddresses hybrid publicKey pqPublicKey with
    | none => some s!"{payloadName} payload signature public key is invalid"
    | some expected =>
      if declared ≠ "" ∧ declared ∉ expected then
        some s!"{payloadName} payload signature public key address mismatch"
      else if hybrid then
        if verifyHybridPayloadSignature host publicKey signatureB64 pqPublicKey pqSignature body
        then none
        else some s!"{payloadName} payload hybrid signature is invalid"
      else if verifyPayloadSignature host publicKey signatureB64 body then none
      else some s!"{payloadName} payload signature is invalid"

/-- `verify_peer_payload_signature` of a dictionary; nothing when it is accepted. -/
def verifyPeerPayloadSignature (payloadName : String)
    (requireSignature requireHybridSignature : Bool) (kvs : Fields) :
    Option String :=
  match getD kvs "signature" with
  | .obj signature => verifySignatureRecord host payloadName requireHybridSignature kvs signature
  | _ => if requireSignature then some s!"{payloadName} payload signature is missing" else none

/-- `peer_payload_signatures_required(policy=policy)`. -/
def peerPayloadSignaturesRequired : Bool :=
  policy.requireHybridPeerPayloadSignatures ||
    host.lower (strip host.requireSignedPeerPayloads) ∈
      ["1", "true", "yes", "on", "strict", "required"]

/-! ### What an accepted signature proves -/

/-- An address derived from keys under which the signature of the payload verifies. -/
inductive SignerAddress (kvs signature : Fields) : String → Prop
  | ed25519 {a : String} :
      addressFromPublicKeyB64 (fieldText host signature "public_key_b64") = some a →
      verifyPayloadSignature host (fieldText host signature "public_key_b64")
        (fieldText host signature "signature_b64") (peerPayloadSigningBody kvs) = true →
      SignerAddress kvs signature a
  | hybrid {a scheme : String} :
      hybridAddressFromPublicKeysB64 (fieldText host signature "public_key_b64")
        (fieldText host signature "pq_public_key_b64") scheme = .ok a →
      verifyHybridPayloadSignature host (fieldText host signature "public_key_b64")
        (fieldText host signature "signature_b64") (fieldText host signature "pq_public_key_b64")
        (fieldText host signature "pq_signature_b64") (peerPayloadSigningBody kvs) = true →
      SignerAddress kvs signature a

variable {host}

/-- **The declared `public_key_address` of an accepted signature is bound to its keys.** -/
theorem signerAddress_of_verifySignatureRecord {payloadName : String} {requireHybrid : Bool}
    {kvs signature : Fields}
    (h : verifySignatureRecord host payloadName requireHybrid kvs signature = none)
    (hdeclared : host.lower (fieldText host signature "public_key_address") ≠ "") :
    SignerAddress host kvs signature
      (host.lower (fieldText host signature "public_key_address")) := by
  rw [verifySignatureRecord] at h
  simp only [ite_eq_iff, reduceCtorEq, and_false, false_or] at h
  obtain ⟨-, -, -, -, -, h⟩ := h
  split at h
  next => cases h
  next expected hexpected =>
    simp only [ite_eq_iff, reduceCtorEq, and_false, false_or, and_true, or_false] at h
    obtain ⟨hmember, h⟩ := h
    have hmem : host.lower (fieldText host signature "public_key_address") ∈ expected := by
      by_contra hnot
      exact hmember ⟨hdeclared, hnot⟩
    rw [expectedPublicKeyAddresses] at hexpected
    rcases h with ⟨hhybrid, hverify⟩ | ⟨hplain, hverify⟩
    · rw [if_pos hhybrid] at hexpected
      split at hexpected
      next a b ha hb =>
        cases hexpected
        simp only [List.mem_cons, List.not_mem_nil, or_false] at hmem
        rcases hmem with hmem | hmem
        · exact .hybrid (hmem ▸ ha) hverify
        · exact .hybrid (hmem ▸ hb) hverify
      next => cases hexpected
    · rw [if_neg hplain, Option.map_eq_some_iff] at hexpected
      obtain ⟨a, ha, rfl⟩ := hexpected
      exact .ed25519 (List.mem_singleton.mp hmem ▸ ha) hverify

end CaiNetwork
