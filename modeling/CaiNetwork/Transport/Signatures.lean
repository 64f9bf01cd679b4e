/-
CaiNetwork/Transport/Signatures.lean

Who may sign a transport payload (`cai_owned_transport_auth.py`).

The configuration gives identities by node: a public key, the address of one, or a record or object
that holds either under one of several names.  A check that asks for a trusted signer looks the
payload's node up and compares keys and addresses with those of the signature record.

`TrustedIdentity.Registers` says, apart from the comparison, which keys an identity stands for.  A
payload accepted under such a check is signed under keys that are registered for the node it names
(`trustedSigner_registered`).
-/

import CaiNetwork.Transport.ReplayCache

namespace CaiNetwork

/-! ### Trusted identities -/

/-- An entry of `trusted_signer_identities_by_node`.  An object without any of the attributes is an
object with no attributes. -/
inductive TrustedIdentity
  | text (value : String)
  | mapping (fields : Fields)
  | object (attrs : Fields)

/-- What the look-up of a node finds; an empty text stands for `None`. -/
inductive TrustedSigner
  | unknown
  | invalid (error : String)
  | found (publicKeyB64 publicKeyAddress : String)

section Identities

variable (host : Host)

/-- `_trusted_identity_text` and `_trusted_identity_attr_text`: the first of the names that holds a
text. -/
def trustedIdentityText (fields : Fields) : List String → String
  | [] => ""
  | key :: keys =>
    match Json.getD fields key with
    | .null => trustedIdentityText fields keys
    | raw => if strip (host.str raw) ≠ "" then strip (host.str raw)
      else trustedIdentityText fields keys

/-- `_looks_like_cai_public_key_address`. -/
def looksLikePublicKeyAddress (value : String) : Bool :=
  let normalized := (host.lower (strip value)).toList
  normalized.length = 32 && normalized.all fun c => c ∈ "0123456789abcdef".toList

/-- The key and the address an identity gives. -/
def TrustedIdentity.configured : TrustedIdentity → String × String
  | .text value =>
    if looksLikePublicKeyAddress host (strip value) then ("", host.lower (strip value))
    else (strip value, "")
  | .mapping fields =>
    (trustedIdentityText host fields
        ["node_public_key_b64", "nodePublicKeyB64", "public_key_b64", "publicKeyB64",
          "signing_public_key_b64", "signingPublicKeyB64"],
      trustedIdentityText host fields
        ["node_public_key_address", "nodePublicKeyAddress", "public_key_address",
          "publicKeyAddress", "signing_public_key_address", "signingPublicKeyAddress"])
  | .object attrs =>
    (trustedIdentityText host attrs
        ["node_public_key_b64", "public_key_b64", "signing_public_key_b64"],
      trustedIdentityText host attrs
        ["node_public_key_address", "public_key_address", "signing_public_key_address"])

/-- The address an identity gives, as it is compared. -/
def TrustedIdentity.address (identity : TrustedIdentity) : String :=
  host.lower (strip (identity.configured host).2)

/-- `_cai_owned_transport_trusted_signer_identity`, for an identity that was found. -/
def TrustedIdentity.resolve (identity : TrustedIdentity) : TrustedSigner :=
  let key := (identity.configured host).1
  let address := identity.address host
  if key ≠ "" then
    match addressFromPublicKeyB64 key with
    | none => .invalid "trusted signer public key is invalid"
    | some derived =>
      if address ≠ "" ∧ address ≠ derived then
        .invalid "trusted signer public key address mismatch"
      else .found key derived
  else if address = "" then .invalid "trusted signer identity is missing public key"
  else .found "" address

/-- `_cai_owned_transport_trusted_signer_identity`. -/
def trustedSignerIdentity (trusted : Option (List (String × TrustedIdentity)))
    (signerNodeId : String) : TrustedSigner :=
  match (trusted.getD []).lookup signerNodeId with
  | none => .unknown
  | some identity => identity.resolve host

end Identities

/-! ### The check -/

/-- The arguments of a check apart from those of the replay cache. -/
structure SignatureCheck where
  payloadName : String
  expectedSignerNodeId : Option String := none
  allowedSignerNodeIds : List String := []
  requireSignature : Option Bool := none
  trusted : Option (List (String × TrustedIdentity)) := none
  requireTrustedSigner : Bool := false

section Check

variable (host : Host) (policy : WalletPolicy) (check : SignatureCheck)

/-- The address of a signature's key: the declared one, or else that of the Ed25519 key. -/
def signatureKeyAddress (signature : Fields) : Option String :=
  if host.lower (fieldText host signature "public_key_address") = "" ∧
      fieldText host signature "public_key_b64" ≠ "" then
    addressFromPublicKeyB64 (fieldText host signature "public_key_b64")
  else some (host.lower (fieldText host signature "public_key_address"))

/-- The comparison with the trusted signer. -/
def trustedSignerError (signerNodeId : String) (signature : Fields) :
    Option String :=
  match trustedSignerIdentity host check.trusted signerNodeId with
  | .invalid error => some s!"{check.payloadName} payload {error}"
  | .unknown =>
    if check.requireTrustedSigner then
      some s!"{check.payloadName} payload signer is not trusted for node"
    else none
  | .found key address =>
    match signatureKeyAddress host signature with
    | none => some s!"{check.payloadName} payload signature public key is invalid"
    | some signatureAddress =>
      if key ≠ "" ∧ fieldText host signature "public_key_b64" ≠ "" ∧
          key ≠ fieldText host signature "public_key_b64" then
        some s!"{check.payloadName} payload signer public key is not trusted for node"
      else if address ≠ "" ∧ signatureAddress ≠ "" ∧ address ≠ signatureAddress then
        some (s!"{check.payloadName} payload signer public key address " ++
          "is not trusted for node")
      else none

/-- The checks of the signer of a signed payload. -/
def signerError (kvs signature : Fields) : Option String :=
  let signer := fieldText host kvs "signerNodeId"
  let expected := strip (check.expectedSignerNodeId.getD "")
  let allowed := (check.allowedSignerNodeIds.map strip).filter (· ≠ "")
  if signer = "" then some s!"{check.payloadName} payload signer node id is missing"
  else if expected ≠ "" ∧ signer ≠ expected then
    some s!"{check.payloadName} payload signer node id does not match"
  else if allowed ≠ [] ∧ signer ∉ allowed then
    some s!"{check.payloadName} payload signer node id is not allowed"
  else trustedSignerError host check signer signature

/-- Whether the payload has to be signed. -/
def SignatureCheck.signatureRequired : Bool :=
  check.requireSignature.getD (peerPayloadSignaturesRequired host policy) ||
    check.requireTrustedSigner

/-- The checks before the replay cache. -/
def payloadSignatureError (kvs : Fields) : Option String :=
  match verifyPeerPayloadSignature host check.payloadName (check.signatureRequired host policy)
      false kvs with
  | some error => some error
  | none =>
    match Json.getD kvs "signature" with
    | .obj signature => signerError host check kvs signature
    | _ => none

/-- `validate_cai_owned_transport_payload_signature`.  An unsigned payload that passed is refused by
the replay cache, with the text the source has for it. -/
def validatePayloadSignature (recordReplayCache : Bool) (retention : Option Int) (now : Int)
    (payload : Json) : Action (List ReplayRecord) String PUnit :=
  match payload with
  | .obj kvs =>
    match payloadSignatureError host policy check kvs with
    | some error => throw error
    | none =>
      if recordReplayCache then recordPayloadReplay host check.payloadName kvs retention now
      else pure ⟨⟩
  | _ => throw s!"{check.payloadName} payload is missing"

end Check

/-! ### What an identity stands for -/

/-- The keys of a signer. -/
inductive SigningKeys
  | ed25519 (publicKey : Bytes)
  | hybrid (ed25519PublicKeyB64 pqPublicKeyB64 : String)

/-- The addresses of keys. -/
inductive SigningKeys.Address : SigningKeys → String → Prop
  | ed25519 (publicKey : Bytes) :
      Address (.ed25519 publicKey) (takeString 32 (String.ofList (Sha256.hexdigest publicKey)))
  | hybrid {ed25519Key pqKey scheme address : String} :
      hybridAddressFromPublicKeysB64 ed25519Key pqKey scheme = .ok address →
      Address (.hybrid ed25519Key pqKey) address

/-- The keys an identity stands for: the key it gives, or the keys with the address it gives. -/
inductive TrustedIdentity.Registers (host : Host) (identity : TrustedIdentity) :
    SigningKeys → Prop
  | key {publicKey : Bytes} : (identity.configured host).1 ≠ "" →
      decodeBytes (identity.configured host).1 = some publicKey →
      Registers host identity (.ed25519 publicKey)
  | address {keys : SigningKeys} : (identity.configured host).1 = "" →
      keys.Address (identity.address host) → Registers host identity keys

/-- The signature of the payload verifies under the keys. -/
def SigningKeys.Verifies (host : Host) (kvs signature : Fields) : SigningKeys → Prop
  | .ed25519 publicKey =>
    ∃ bytes, decodeBytes (fieldText host signature "signature_b64") = some bytes ∧
      host.ed25519Verify publicKey (toBytes (peerPayloadSigningBody kvs).canonical) bytes = true
  | .hybrid ed25519Key pqKey =>
    verifyHybridPayloadSignature host ed25519Key (fieldText host signature "signature_b64") pqKey
      (fieldText host signature "pq_signature_b64") (peerPayloadSigningBody kvs) = true

section Accepted

variable {host : Host} {policy : WalletPolicy} {check : SignatureCheck}
  {kvs signature : Fields}

theorem verifies_of_verifyPayloadSignature {publicKey : String}
    (h : verifyPayloadSignature host publicKey (fieldText host signature "signature_b64")
      (peerPayloadSigningBody kvs) = true) :
    ∃ bytes, decodeBytes publicKey = some bytes ∧
      (SigningKeys.ed25519 bytes).Verifies host kvs signature := by
  unfold verifyPayloadSignature at h
  split at h
  · rename_i key bytes hkey hbytes
    exact ⟨key, hkey, bytes, hbytes, h⟩
  · cases h

/-- Under either scheme the signature verifies under the record's Ed25519 key. -/
theorem ed25519_of_verifySignatureRecord {payloadName : String} {requireHybrid : Bool}
    (h : verifySignatureRecord host payloadName requireHybrid kvs signature = none) :
    fieldText host signature "public_key_b64" ≠ "" ∧
      ∃ bytes, decodeBytes (fieldText host signature "public_key_b64") = some bytes ∧
        (SigningKeys.ed25519 bytes).Verifies host kvs signature := by
  rw [verifySignatureRecord] at h
  simp only [ite_eq_iff, reduceCtorEq, and_false, false_or] at h
  obtain ⟨-, -, hcomplete, -, -, h⟩ := h
  rw [not_or] at hcomplete
  refine ⟨hcomplete.1, verifies_of_verifyPayloadSignature ?_⟩
  split at h
  · cases h
  simp only [ite_eq_iff, reduceCtorEq, and_false, false_or, and_true, or_false] at h
  obtain ⟨-, ⟨-, hverify⟩ | ⟨-, hverify⟩⟩ := h
  · rw [verifyHybridPayloadSignature, Bool.and_eq_true] at hverify
    exact hverify.1
  · exact hverify

/-- The address of a verified signature is the address of keys under which it verifies. -/
theorem address_of_verifySignatureRecord {payloadName address : String} {requireHybrid : Bool}
    (h : verifySignatureRecord host payloadName requireHybrid kvs signature = none)
    (haddress : signatureKeyAddress host signature = some address) :
    address ≠ "" → ∃ keys : SigningKeys, keys.Address address ∧
      keys.Verifies host kvs signature := by
  intro hne
  obtain ⟨hkey, bytes, hbytes, hverifies⟩ := ed25519_of_verifySignatureRecord h
  have hderived : addressFromPublicKeyB64 (fieldText host signature "public_key_b64") =
      some (takeString 32 (String.ofList (Sha256.hexdigest bytes))) := by
    rw [addressFromPublicKeyB64, hbytes]
    rfl
  unfold signatureKeyAddress at haddress
  split at haddress
  · rw [hderived] at haddress
    obtain rfl := Option.some.inj haddress
    exact ⟨.ed25519 bytes, .ed25519 bytes, hverifies⟩
  · obtain rfl := Option.some.inj haddress
    -- a declared address was compared with those of the record's keys
    cases signerAddress_of_verifySignatureRecord h hne with
    | ed25519 ha _ =>
      rw [← Option.some.inj (hderived.symm.trans ha)]
      exact ⟨.ed25519 bytes, .ed25519 bytes, hverifies⟩
    | hybrid ha hverify => exact ⟨.hybrid _ _, .hybrid ha, hverify⟩

theorem ed25519Address_ne_empty {publicKey : Bytes} :
    takeString 32 (String.ofList (Sha256.hexdigest publicKey)) ≠ "" := by
  intro h
  have hlength : (takeString 32 (String.ofList (Sha256.hexdigest publicKey))).toList.length =
      32 := by
    rw [takeString, String.toList_ofList, String.toList_ofList, List.length_take,
      Sha256.length_hexdigest]
    rfl
  rw [h] at hlength
  cases hlength

/-- A signature with a key has an address. -/
theorem signatureKeyAddress_ne_empty {address : String}
    (hkey : fieldText host signature "public_key_b64" ≠ "")
    (h : signatureKeyAddress host signature = some address) : address ≠ "" := by
  unfold signatureKeyAddress at h
  split at h
  · obtain ⟨bytes, -, rfl⟩ := Option.map_eq_some_iff.mp h
    exact ed25519Address_ne_empty
  · rename_i hdeclared
    obtain rfl := Option.some.inj h
    exact fun hempty => hdeclared ⟨hempty, hkey⟩

variable (host) in
/-- An identity is resolved to its key and the key's address, or to its address alone. -/
theorem TrustedIdentity.resolve_cases (identity : TrustedIdentity) :
    (∃ error, identity.resolve host = .invalid error) ∨
      (∃ derived, (identity.configured host).1 ≠ "" ∧
        identity.resolve host = .found (identity.configured host).1 derived) ∨
      (identity.configured host).1 = "" ∧ identity.address host ≠ "" ∧
        identity.resolve host = .found "" (identity.address host) := by
  unfold TrustedIdentity.resolve
  by_cases hkey : (identity.configured host).1 = ""
  · rw [if_neg (not_not.mpr hkey)]
    by_cases haddress : identity.address host = ""
    · rw [if_pos haddress]
      exact .inl ⟨_, rfl⟩
    · rw [if_neg haddress]
      exact .inr (.inr ⟨hkey, haddress, rfl⟩)
  · rw [if_pos hkey]
    cases addressFromPublicKeyB64 (identity.configured host).1 with
    | none => exact .inl ⟨_, rfl⟩
    | some derived =>
      dsimp only
      split
      · exact .inl ⟨_, rfl⟩
      · exact .inr (.inl ⟨derived, hkey, rfl⟩)

/-- What the comparison asks of a signature with a key. -/
theorem trustedSignerError_found {signerNodeId key address : String}
    (hkey : fieldText host signature "public_key_b64" ≠ "")
    (hfound : trustedSignerIdentity host check.trusted signerNodeId = .found key address)
    (h : trustedSignerError host check signerNodeId signature = none) :
    (key ≠ "" → fieldText host signature "public_key_b64" = key) ∧
      (address ≠ "" → signatureKeyAddress host signature = some address) := by
  unfold trustedSignerError at h
  rw [hfound] at h
  dsimp only at h
  split at h
  · cases h
  · rename_i signatureAddress hsignature
    simp only [ite_eq_iff, reduceCtorEq, and_false, false_or, and_true] at h
    obtain ⟨hkeys, haddresses⟩ := h
    refine ⟨fun hne => ?_, fun hne => ?_⟩
    · by_contra hother
      exact hkeys ⟨hne, hkey, fun hsame => hother hsame.symm⟩
    · rw [hsignature]
      by_contra hother
      refine haddresses ⟨hne, signatureKeyAddress_ne_empty hkey hsignature, fun hsame => hother ?_⟩
      rw [hsame]

/-- A signature that passes the comparison with an identity is made under keys the identity stands
for. -/
theorem registers_of_trustedSignerError {payloadName signerNodeId : String} {requireHybrid : Bool}
    {identity : TrustedIdentity}
    (hverify : verifySignatureRecord host payloadName requireHybrid kvs signature = none)
    (hlookup : (check.trusted.getD []).lookup signerNodeId = some identity)
    (h : trustedSignerError host check signerNodeId signature = none) :
    ∃ keys : SigningKeys, identity.Registers host keys ∧ keys.Verifies host kvs signature := by
  obtain ⟨hkey, bytes, hbytes, hverifies⟩ := ed25519_of_verifySignatureRecord hverify
  have hresolve : trustedSignerIdentity host check.trusted signerNodeId =
      identity.resolve host := by
    rw [trustedSignerIdentity, hlookup]
  rcases identity.resolve_cases host with
    ⟨error, hinvalid⟩ | ⟨derived, hgiven, hfound⟩ | ⟨hnone, haddress, hfound⟩
  · rw [hinvalid] at hresolve
    unfold trustedSignerError at h
    rw [hresolve] at h
    cases h
  · rw [hfound] at hresolve
    have hsame := (trustedSignerError_found hkey hresolve h).1 hgiven
    rw [hsame] at hbytes
    exact ⟨.ed25519 bytes, .key hgiven hbytes, hverifies⟩
  · rw [hfound] at hresolve
    have hsame := (trustedSignerError_found hkey hresolve h).2 haddress
    obtain ⟨keys, hkeys, hverified⟩ := address_of_verifySignatureRecord hverify hsame haddress
    exact ⟨keys, .address hnone hkeys, hverified⟩

/-- Where a signature is required, a payload that passed has one. -/
theorem signed_of_verifyPeerPayloadSignature {payloadName : String}
    (h : verifyPeerPayloadSignature host payloadName true false kvs = none) :
    ∃ signature, Json.getD kvs "signature" = .obj signature ∧
      verifySignatureRecord host payloadName false kvs signature = none := by
  unfold verifyPeerPayloadSignature at h
  split at h
  · rename_i signature hsignature
    exact ⟨signature, hsignature, h⟩
  · cases h

/-- An accepted payload passed the checks before the replay cache. -/
theorem payloadSignatureError_of_accepted {recordReplayCache : Bool} {retention : Option Int}
    {now : Int} {payload : Json} {cache : List ReplayRecord} {u : PUnit}
    (h : (validatePayloadSignature host policy check recordReplayCache retention now payload
      cache).1 = .ok u) :
    ∃ kvs, payload = .obj kvs ∧ payloadSignatureError host policy check kvs = none := by
  unfold validatePayloadSignature at h
  split at h
  · rename_i kvs
    refine ⟨kvs, rfl, ?_⟩
    cases herror : payloadSignatureError host policy check kvs with
    | none => rfl
    | some error =>
      rw [herror] at h
      cases h
  · cases h

/-- Where a trusted signer is asked for, a payload that passed is signed by one. -/
theorem trusted_of_payloadSignatureError (hrequire : check.requireTrustedSigner = true)
    (h : payloadSignatureError host policy check kvs = none) :
    ∃ signature identity, Json.getD kvs "signature" = .obj signature ∧
      verifySignatureRecord host check.payloadName false kvs signature = none ∧
      (check.trusted.getD []).lookup (fieldText host kvs "signerNodeId") = some identity ∧
      trustedSignerError host check (fieldText host kvs "signerNodeId") signature = none := by
  have hrequired : check.signatureRequired host policy = true := by
    rw [SignatureCheck.signatureRequired, hrequire, Bool.or_true]
  unfold payloadSignatureError at h
  rw [hrequired] at h
  split at h
  · cases h
  rename_i hverify
  obtain ⟨signature, hsignature, hrecord⟩ := signed_of_verifyPeerPayloadSignature hverify
  rw [hsignature] at h
  unfold signerError at h
  simp only [ite_eq_iff, reduceCtorEq, and_false, false_or] at h
  obtain ⟨-, -, -, htrusted⟩ := h
  cases hlookup : (check.trusted.getD []).lookup (fieldText host kvs "signerNodeId") with
  | some identity => exact ⟨signature, identity, hsignature, hrecord, rfl, htrusted⟩
  | none =>
    unfold trustedSignerError trustedSignerIdentity at htrusted
    rw [hlookup] at htrusted
    dsimp only at htrusted
    rw [if_pos hrequire] at htrusted
    cases htrusted

/-- **A trusted signer holds a key that is registered for the node.**  Whatever the form of the
trusted identities and the scheme and fields of the signature: a payload that is accepted while a
trusted signer is required names a node with a trusted identity, its signature verifies under keys
that identity stands for, and under any of them if no others have an address of those keys. -/
theorem trustedSigner_registered {recordReplayCache : Bool} {retention : Option Int} {now : Int}
    {payload : Json} {cache : List ReplayRecord} {u : PUnit}
    (hrequire : check.requireTrustedSigner = true)
    (h : (validatePayloadSignature host policy check recordReplayCache retention now payload
      cache).1 = .ok u) :
    ∃ kvs signature identity keys, payload = .obj kvs ∧ Json.getD kvs "signature" = .obj signature ∧
      (check.trusted.getD []).lookup (fieldText host kvs "signerNodeId") = some identity ∧
      identity.Registers host keys ∧ keys.Verifies host kvs signature ∧
      ∀ other, identity.Registers host other →
        (∀ address, keys.Address address → other.Address address → other = keys) →
          other.Verifies host kvs signature := by
  obtain ⟨kvs, rfl, hnone⟩ := payloadSignatureError_of_accepted h
  obtain ⟨signature, identity, hsignature, hverify, hlookup, htrusted⟩ :=
    trusted_of_payloadSignatureError hrequire hnone
  obtain ⟨keys, hregisters, hverifies⟩ := registers_of_trustedSignerError hverify hlookup htrusted
  refine ⟨kvs, signature, identity, keys, rfl, hsignature, hlookup, hregisters, hverifies,
    fun other hother hfree => ?_⟩
  suffices hsame : other = keys by rwa [hsame]
  cases hregisters with
  | key hgiven hbytes =>
    cases hother with
    | key _ hbytes' => rw [Option.some.inj (hbytes'.symm.trans hbytes)]
    | address hnot _ => exact absurd hnot hgiven
  | address hnot haddress =>
    cases hother with
    | key hgiven _ => exact absurd hnot hgiven
    | address _ haddress' => exact hfree _ haddress haddress'

end Accepted

/-! ### A payload -/

section Sample

/-- A payload of node `n` under the key of three zero bytes, with the texts of its signature. -/
def sampleTransportPayload (signatureB64 : String) : Fields :=
  [("signerNodeId", .str "n"),
    ("signature", .obj [("scheme", .str peerPayloadSignatureSchemeEd25519),
      ("public_key_b64", .str "AAAA"), ("signature_b64", .str signatureB64)])]

/-- The key is trusted for node `n`. -/
def sampleSignatureCheck : SignatureCheck where
  payloadName := "batch"
  trusted := some [("n", .text "AAAA")]
  requireTrustedSigner := true

theorem trustedSigner_registered_text : ∃ signature identity keys,
      Json.getD (sampleTransportPayload "AAAA") "signature" = .obj signature ∧
      (sampleSignatureCheck.trusted.getD []).lookup "n" = some identity ∧
      identity.Registers sampleHost keys ∧
      keys.Verifies sampleHost (sampleTransportPayload "AAAA") signature := by
  have haccepted : (validatePayloadSignature sampleHost samplePolicy sampleSignatureCheck false
      none 0 (.obj (sampleTransportPayload "AAAA")) []).1 = .ok ⟨⟩ := by
    decide +kernel
  obtain ⟨kvs, signature, identity, keys, hkvs, hsignature, hlookup, hregisters, hverifies, -⟩ :=
    trustedSigner_registered rfl haccepted
  cases hkvs
  exact ⟨signature, identity, keys, hsignature, hlookup, hregisters, hverifies⟩

end Sample

end CaiNetwork
