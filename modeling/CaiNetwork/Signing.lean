/-
CaiNetwork/Signing.lean

Addresses of public keys and verification of payload signatures (`wallet_signing.py`).

An Ed25519 address is the first half of the SHA-256 digest of the key's bytes; a hybrid address is
the digest of a canonical record that names the address scheme and both keys' texts, cut to half
under the older scheme.  Every failure inside a verification counts as an invalid signature.
-/

import CaiNetwork.Host

namespace CaiNetwork

/-! ### Schemes -/

def signingSchemeEd25519 : String := "ed25519-v1"

def signingSchemeMlDsa65 : String := "ml-dsa-65-v1"

def signingSchemeHybridEd25519MlDsa65 : String := "hybrid-ed25519-ml-dsa-65-v1"

def addressSchemeEd25519 : String := "ed25519-pubkey-sha256-v1"

def addressSchemeHybridEd25519MlDsa65 : String := "hybrid-ed25519-ml-dsa-65-sha256-v1"

def addressSchemeHybridEd25519MlDsa65Wide : String := "hybrid-ed25519-ml-dsa-65-sha256-256-v1"

def defaultWalletHybridAddressScheme : String := addressSchemeHybridEd25519MlDsa65Wide

def hybridAddressSchemes : List String :=
  [addressSchemeHybridEd25519MlDsa65, addressSchemeHybridEd25519MlDsa65Wide]

def addressSchemeFixedWalletIdSha256 : String := "fixed-wallet-id-sha256-v1"

/-! ### Addresses -/

/-- `address_from_public_key_b64`; nothing stands for the `ValueError` of bad base64. -/
def addressFromPublicKeyB64 (publicKeyB64 : String) : Option String :=
  (decodeBytes publicKeyB64).map fun bytes =>
    takeString 32 (String.ofList (Sha256.hexdigest bytes))

/-- The record a hybrid address is the digest of. -/
def hybridAddressRecord (scheme ed25519PublicKeyB64 pqPublicKeyB64 : String) : Json :=
  .obj [("address_scheme", .str scheme),
    ("ed25519_public_key_b64", .str (strip ed25519PublicKeyB64)),
    ("pq_public_key_b64", .str (strip pqPublicKeyB64))]

/-- `hybrid_address_from_public_keys_b64`. -/
def hybridAddressFromPublicKeysB64 (ed25519PublicKeyB64 pqPublicKeyB64 addressScheme : String) :
    Except PyError String :=
  let normalizedScheme := strip addressScheme
  if normalizedScheme ∈ hybridAddressSchemes then
    let digest := canonicalHash
      (hybridAddressRecord normalizedScheme ed25519PublicKeyB64 pqPublicKeyB64)
    if normalizedScheme = addressSchemeHybridEd25519MlDsa65 then .ok (takeString 32 digest)
    else .ok digest
  else .error (.valueError s!"Unsupported hybrid address scheme: {addressScheme}")

/-! ### Signatures -/

variable (host : Host)

/-- `verify_payload_signature`. -/
def verifyPayloadSignature (publicKeyB64 signatureB64 : String) (payload : Json) : Bool :=
  match decodeBytes publicKeyB64, decodeBytes signatureB64 with
  | some key, some signature => host.ed25519Verify key (toBytes payload.canonical) signature
  | _, _ => false

/-- `verify_payload_mldsa65_signature`. -/
def verifyPayloadMldsa65Signature (publicKeyB64 signatureB64 : String) (payload : Json) : Bool :=
  match decodeBytes publicKeyB64, decodeBytes signatureB64 with
  | some key, some signature => host.mldsa65Verify key (toBytes payload.canonical) signature
  | _, _ => false

/-- `verify_hybrid_payload_signature`. -/
def verifyHybridPayloadSignature (ed25519PublicKeyB64 ed25519SignatureB64 pqPublicKeyB64
    pqSignatureB64 : String) (payload : Json) : Bool :=
  verifyPayloadSignature host ed25519PublicKeyB64 ed25519SignatureB64 payload &&
    verifyPayloadMldsa65Signature host pqPublicKeyB64 pqSignatureB64 payload

end CaiNetwork
