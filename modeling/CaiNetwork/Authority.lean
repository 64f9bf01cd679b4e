/-
CaiNetwork/Authority.lean

Who may speak for a remote chain (`_chain_payload_signed_by_bonded_validator` in `chain.py`).

A payload is authorised when one of the two addresses that its signature record declares is an
authorised address.  Only one of the two is bound to the keys of the record
(`signerAddress_of_verifySignatureRecord`), so the check proves possession of a validator's key
exactly as long as it does not rest on the other one (`authorizesRemoteChain_bound_iff`).
-/

import Mathlib.Data.List.Dedup
import CaiNetwork.PeerPayload

namespace CaiNetwork

open List

variable (host : Host) (policy : WalletPolicy)

variable {blocks : Chain} {records : List ValidatorRecord}
  {kvs signature : Fields}

/-! ### The check -/

/-- `str(v or "").strip().lower()` of a text. -/
def loweredText (s : String) : String := host.lower (strip s)

/-- The addresses that a signature record declares. -/
def signerAddresses (signature : Fields) : List String :=
  [host.lower (fieldText host signature "signer_address"),
    host.lower (fieldText host signature "public_key_address")].filter (· ≠ "")

/-- `local_bonded_addresses`, each once. -/
def localBondedAddresses (blocks : Chain) (records : List ValidatorRecord) :
    List String :=
  (((listBondedValidators host policy blocks records).flatMap fun record =>
    if record.state ≠ .bonded then []
    else [loweredText host record.validatorId, loweredText host record.address]).filter
      (· ≠ "")).dedup

/-- `trusted_addresses`. -/
def trustedAddresses : List String :=
  (policy.trustedValidatorAddresses.map (loweredText host)).filter (· ≠ "")

/-- `_chain_payload_signed_by_bonded_validator` of a dictionary. -/
def chainPayloadSignedByBondedValidator (blocks : Chain)
    (records : List ValidatorRecord) (kvs : Fields) : Bool :=
  match Json.getD kvs "signature" with
  | .obj signature =>
    let signers := signerAddresses host signature
    let bonded := localBondedAddresses host policy blocks records
    if signers = [] then false
    else if bonded.length > 1 then false
    else signers.any (· ∈ if bonded ≠ [] then bonded else trustedAddresses host policy)
  | _ => false

/-- The addresses a payload can be authorised by; none while the local committee has several
validators. -/
def authorizedAddresses (blocks : Chain) (records : List ValidatorRecord) :
    List String :=
  let bonded := localBondedAddresses host policy blocks records
  if bonded.length > 1 then []
  else if bonded ≠ [] then bonded
  else trustedAddresses host policy

/-- The signature check that precedes every merge. -/
def chainSignatureError (kvs : Fields) : Option String :=
  verifyPeerPayloadSignature host "chain" (peerPayloadSignaturesRequired host policy)
    policy.requireHybridPeerPayloadSignatures kvs

/-- A payload passes the signature check and the check of its signer. -/
def AuthorizesRemoteChain (blocks : Chain) (records : List ValidatorRecord) (kvs : Fields) : Prop :=
  chainSignatureError host policy kvs = none ∧
    chainPayloadSignedByBondedValidator host policy blocks records kvs = true

variable {host policy}

/-! ### What the check establishes -/

theorem chainPayloadSignedByBondedValidator_iff :
    chainPayloadSignedByBondedValidator host policy blocks records kvs = true ↔
      ∃ signature, Json.getD kvs "signature" = .obj signature ∧
        ∃ a ∈ signerAddresses host signature,
          a ∈ authorizedAddresses host policy blocks records := by
  rw [chainPayloadSignedByBondedValidator, authorizedAddresses]
  rcases Json.getD kvs "signature" with - | - | - | - | - | - | signature
  case obj =>
    simp only [Json.obj.injEq, exists_eq_left']
    split
    next hnone => exact iff_of_false (by simp) (by simp [hnone])
    next =>
    split
    next => exact iff_of_false (by simp) (by simp)
    next => simp only [any_eq_true, decide_eq_true_eq]
  all_goals exact iff_of_false (by simp) (by simp)

theorem mem_signerAddresses {a : String} : a ∈ signerAddresses host signature ↔
      a ≠ "" ∧ (a = host.lower (fieldText host signature "signer_address") ∨
        a = host.lower (fieldText host signature "public_key_address")) := by
  simp only [signerAddresses, mem_filter, mem_cons, not_mem_nil, or_false, decide_eq_true_eq]
  exact and_comm

theorem ne_empty_of_mem_authorizedAddresses {a : String}
    (h : a ∈ authorizedAddresses host policy blocks records) : a ≠ "" := by
  rw [authorizedAddresses] at h
  split at h
  · cases h
  split at h
  · rw [localBondedAddresses, mem_dedup, mem_filter] at h
    exact of_decide_eq_true h.2
  · rw [trustedAddresses, mem_filter] at h
    exact of_decide_eq_true h.2

theorem verifySignatureRecord_of_chainSignatureError
    (h : chainSignatureError host policy kvs = none)
    (hsignature : Json.getD kvs "signature" = .obj signature) :
    verifySignatureRecord host "chain" policy.requireHybridPeerPayloadSignatures kvs signature =
      none := by
  rw [chainSignatureError, verifyPeerPayloadSignature, hsignature] at h
  exact h

/-- An authorised payload whose self-declared signer is not an authorised address verifies
under keys of an authorised address. -/
theorem AuthorizesRemoteChain.signerAddress
    (h : AuthorizesRemoteChain host policy blocks records kvs)
    (hsignature : Json.getD kvs "signature" = .obj signature)
    (hself : host.lower (fieldText host signature "signer_address") ∉
      authorizedAddresses host policy blocks records) :
    ∃ a ∈ authorizedAddresses host policy blocks records, SignerAddress host kvs signature a := by
  obtain ⟨record, hrecord, a, hsigner, ha⟩ := chainPayloadSignedByBondedValidator_iff.mp h.2
  rw [hsignature, Json.obj.injEq] at hrecord
  subst hrecord
  obtain ⟨hne, hdeclared⟩ := mem_signerAddresses.mp hsigner
  rcases hdeclared with rfl | rfl
  · exact absurd ha hself
  · exact ⟨_, ha, signerAddress_of_verifySignatureRecord
      (verifySignatureRecord_of_chainSignatureError h.1 hsignature) hne⟩

/-- **When an authorised payload proves possession of a validator's key**: exactly when the
address its record declares as `signer_address` is not authorised, or the keys of the record
have an authorised address anyway.  In the first case, a party who can only sign for addresses
it holds the keys of holds the key of an authorised address. -/
theorem authorizesRemoteChain_bound_iff (blocks : List ChainBlock)
    (records : List ValidatorRecord) (kvs signature : List (String × Json))
    (hsignature : Json.getD kvs "signature" = .obj signature)
    (hverified : chainSignatureError host policy kvs = none) :
    ((chainPayloadSignedByBondedValidator host policy blocks records kvs = true →
        ∃ a ∈ authorizedAddresses host policy blocks records, SignerAddress host kvs signature a) ↔
      (host.lower (fieldText host signature "signer_address") ∉
          authorizedAddresses host policy blocks records ∨
        ∃ a ∈ authorizedAddresses host policy blocks records, SignerAddress host kvs signature a)) ∧
    ∀ holdsKeyOf : String → Prop, (∀ a, SignerAddress host kvs signature a → holdsKeyOf a) →
      host.lower (fieldText host signature "signer_address") ∉
        authorizedAddresses host policy blocks records →
      chainPayloadSignedByBondedValidator host policy blocks records kvs = true →
      ∃ a ∈ authorizedAddresses host policy blocks records, holdsKeyOf a := by
  refine ⟨⟨?_, ?_⟩, ?_⟩
  · intro hbound
    by_cases hself : host.lower (fieldText host signature "signer_address") ∈
      authorizedAddresses host policy blocks records
    · refine .inr (hbound ?_)
      have hsigner := mem_signerAddresses.mpr
        ⟨ne_empty_of_mem_authorizedAddresses hself, .inl rfl⟩
      exact chainPayloadSignedByBondedValidator_iff.mpr ⟨signature, hsignature, _, hsigner, hself⟩
    · exact .inl hself
  · rintro (hself | hkey) hchecked
    · exact AuthorizesRemoteChain.signerAddress ⟨hverified, hchecked⟩ hsignature hself
    · exact hkey
  · intro holdsKeyOf hunforgeable hself hchecked
    obtain ⟨a, ha, hsigner⟩ :=
      AuthorizesRemoteChain.signerAddress ⟨hverified, hchecked⟩ hsignature hself
    exact ⟨a, ha, hunforgeable a hsigner⟩

/-- A signature record under the Ed25519 key of the given text. -/
def sampleRecord (publicKeyB64 : String) (declared : Fields) : Fields :=
  [("scheme", .str peerPayloadSignatureSchemeEd25519), ("public_key_b64", .str publicKeyB64),
    ("signature_b64", .str publicKeyB64)] ++ declared

/-- A payload that carries only a signature. -/
def samplePayload (publicKeyB64 : String) (declared : Fields) :
    Fields :=
  [("signature", .obj (sampleRecord publicKeyB64 declared))]

/-- The trusted validator's own payload. -/
theorem authorizesRemoteChain_bound_trusted :
    ∃ a ∈ authorizedAddresses sampleHost samplePolicy [] [], SignerAddress sampleHost
        (samplePayload "YQ==" [("public_key_address", .str "ca978112ca1bbdcafac231b39a23dc4d")])
        (sampleRecord "YQ==" [("public_key_address", .str "ca978112ca1bbdcafac231b39a23dc4d")]) a :=
  (authorizesRemoteChain_bound_iff [] [] _ _ rfl (by decide)).1.mpr (.inl (by decide)) (by decide)

/-- A payload signed with another key that names the trusted validator as its signer passes
both checks, and no key it verifies under has an authorised address. -/
theorem authorizesRemoteChain_self_declared : AuthorizesRemoteChain sampleHost samplePolicy [] []
        (samplePayload "Yg==" [("signer_address", .str "ca978112ca1bbdcafac231b39a23dc4d")]) ∧
      ∀ a ∈ authorizedAddresses sampleHost samplePolicy [] [], ¬SignerAddress sampleHost
          (samplePayload "Yg==" [("signer_address", .str "ca978112ca1bbdcafac231b39a23dc4d")])
          (sampleRecord "Yg==" [("signer_address", .str "ca978112ca1bbdcafac231b39a23dc4d")])
          a := by
  refine ⟨⟨by decide, by decide⟩, ?_⟩
  have hauthorized : authorizedAddresses sampleHost samplePolicy [] [] =
      ["ca978112ca1bbdcafac231b39a23dc4d"] := by decide
  intro a ha hsigner
  rw [hauthorized, mem_singleton] at ha
  subst ha
  cases hsigner with
  | ed25519 haddress _ => exact absurd haddress (by decide)
  | @hybrid scheme haddress _ =>
    rw [hybridAddressFromPublicKeysB64] at haddress
    dsimp only at haddress
    split at haddress
    next hscheme =>
      rw [hybridAddressSchemes, mem_pair] at hscheme
      rcases hscheme with h | h <;> rw [h] at haddress <;> exact absurd haddress (by decide +kernel)
    next => cases haddress

end CaiNetwork
