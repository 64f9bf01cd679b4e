/-
CaiNetwork/Transport/Envelope.lean

Batch envelopes (`build_cai_owned_transport_batch_envelope`,
`validate_cai_owned_transport_batch_envelope`, `cai_owned_transport_payload_codec.py`).

An envelope carries a payload in base64, whole or in chunks, compressed or not, with its size and
digest, and an id derived from the digest and the place of the batch in its session.  The builder
and the validator are separate programs.
-/

import CaiNetwork.Base64
import CaiNetwork.Transport.Frames
import CaiNetwork.Transport.Session
import CaiNetwork.Transport.Signatures

namespace CaiNetwork.Transport

open Json (getD)

/-! ### Protocol -/

/-- `CAI_OWNED_TRANSPORT_PROTOCOL`. -/
def transportProtocol : String := "cai-owned-llm-shard-transport"

/-- `CAI_OWNED_TRANSPORT_BATCH_PHASES`. -/
def batchPhases : List String := ["prefill_activation_batches", "decode_activation_batches"]

/-- `CAI_OWNED_TRANSPORT_PAYLOAD_COMPRESSIONS`. -/
def payloadCompressions : List String := ["gzip"]

/-- `CAI_OWNED_TRANSPORT_CLOCK_SKEW_SECONDS`. -/
def clockSkew : Int := 5 * 60 * 1000000

/-- `CAI_OWNED_TRANSPORT_BATCH_ENVELOPE_MAX_AGE_SECONDS`. -/
def batchEnvelopeMaxAge : Int := 15 * 60 * 1000000

def envelopeError (message : String) : String := "CAI-owned transport batch envelope " ++ message

/-- What envelopes take from the libraries: `gzip`, which gives back what it compressed, and
`datetime.fromisoformat` (in microseconds). -/
structure EnvelopeLibrary where
  compress : Bytes → Bytes
  decompress : Bytes → Option Bytes
  decompress_compress : ∀ bytes, decompress (compress bytes) = some bytes
  parseDatetime : String → Option Int

variable (host : Host) (library : EnvelopeLibrary)

/-! ### The payload codec -/

section Codec

/-- `normalize_cai_owned_transport_payload_compression`. -/
def normalizePayloadCompression (value : Option String) : Except PyError (Option String) :=
  let clean := host.lower (strip (value.getD ""))
  if clean = "" ∨ clean = "none" then .ok none
  else if clean ∉ payloadCompressions then
    .error (.valueError (envelopeError "payload compression is unsupported."))
  else .ok (some clean)

/-- `encode_cai_owned_transport_payload_bytes`. -/
def encodePayloadBytes (payload : Bytes) : Option String → Except PyError Bytes
  | none => .ok payload
  | some compression =>
    if compression = "gzip" then .ok (library.compress payload)
    else .error (.valueError (envelopeError "payload compression is unsupported."))

/-- `decode_cai_owned_transport_payload_bytes`; no compression is the empty text. -/
def decodePayloadBytes (payload : Bytes) (compression : String) :
    Except PyError Bytes :=
  if compression = "" then .ok payload
  else if compression = "gzip" then
    match library.decompress payload with
    | some bytes => .ok bytes
    | none => .error (.valueError (envelopeError "payload compression is invalid."))
  else .error (.valueError (envelopeError "payload compression is unsupported."))

/-- `payload_bytes[index : index + chunk_size]` for the indices of
`range(0, len(payload_bytes), chunk_size)`. -/
def payloadChunks (size : Nat) (bytes : Bytes) : List Bytes :=
  (List.range ((bytes.length + size - 1) / size)).map fun i => (bytes.drop (i * size)).take size

/-- `cai_owned_transport_encoded_payload_fields`. -/
def encodedPayloadFields (bytes : Bytes) (chunkSize : Option Int) : Fields :=
  let size := (chunkSize.getD 0).toNat
  if size = 0 ∨ bytes.length ≤ size then [("payloadBase64", .str (encodeBytes bytes))]
  else
    let chunks := payloadChunks size bytes
    [("payloadChunksBase64", .arr (chunks.map fun chunk => .str (encodeBytes chunk))),
      ("payloadChunkCount", .int chunks.length), ("payloadChunkSizeBytes", .int size)]

/-- `_decode_cai_owned_transport_base64_payload_chunk`. -/
def decodePayloadChunk : Json → Except PyError Bytes
  | .str text =>
    match b64decode text with
    | some bytes => .ok bytes
    | none => .error (.valueError (envelopeError "payload is not valid base64."))
  | _ => .error (.valueError (envelopeError "payload is not valid base64."))

/-- The chunks of an envelope, in order. -/
def decodePayloadChunks : List Json → Except PyError Bytes
  | [] => .ok []
  | chunk :: chunks => do
    let bytes ← decodePayloadChunk chunk
    return bytes ++ (← decodePayloadChunks chunks)

/-- `encoded_cai_owned_transport_payload_bytes_from_envelope`. -/
def encodedPayloadBytes (kvs : Fields) : Except PyError Bytes :=
  match getD kvs "payloadBase64", getD kvs "payloadChunksBase64" with
  | .null, .null => .error (.valueError (envelopeError "payload is missing."))
  | .str text, .null => decodePayloadChunk (.str text)
  | _, .null => .error (.valueError (envelopeError "payload is missing."))
  | .null, .arr [] => .error (.valueError (envelopeError "payload chunks are missing."))
  | .null, .arr chunks => do
    let count ← optionalInt host (getD kvs "payloadChunkCount")
    if count.any (fun n => n ≠ (chunks.length : Int)) then
      throw (.valueError (envelopeError "payload chunk count does not match."))
    else decodePayloadChunks chunks
  | .null, _ => .error (.valueError (envelopeError "payload chunks are invalid."))
  | _, _ => .error (.valueError (envelopeError "payload is ambiguous."))

/-- The compression an envelope declares. -/
def declaredCompression (kvs : Fields) : String :=
  host.lower (fieldText host kvs "payloadCompression")

/-- `decode_cai_owned_transport_batch_payload`. -/
def decodeBatchPayload (kvs : Fields) : Except PyError Bytes := do
  let encoded ← encodedPayloadBytes host kvs
  if declaredCompression host kvs ≠ "" ∧ declaredCompression host kvs ∉ payloadCompressions then
    throw (.valueError (envelopeError "payload compression is unsupported."))
  else decodePayloadBytes library encoded (declaredCompression host kvs)

end Codec

/-! ### Ids -/

section Ids

/-- `hashlib.sha256(payload).hexdigest()`. -/
def payloadSha256Hex (payload : Bytes) : String := String.ofList (Sha256.hexdigest payload)

/-- `hashlib.sha256(fingerprint).hexdigest()[:24]`. -/
def fingerprintDigest (fingerprint : Bytes) : String :=
  takeString 24 (payloadSha256Hex fingerprint)

/-- The text whose digest is a batch's id. -/
def batchFingerprint (sessionId phase source sink : String) (sequence : Int) (hash : String) :
    Bytes :=
  toBytes (Json.obj [("payloadSha256Hex", .str (host.lower (strip hash))),
    ("phase", .str (strip phase)), ("sequence", .int (max 0 sequence)),
    ("sessionId", .str (strip sessionId)), ("sinkNodeId", .str (strip sink)),
    ("sourceNodeId", .str (strip source))]).dumps

/-- `cai_owned_transport_batch_id`. -/
def transportBatchId (sessionId phase source sink : String) (sequence : Int) (hash : String) :
    String :=
  "caibatch_" ++ fingerprintDigest (batchFingerprint host sessionId phase source sink sequence hash)

end Ids

/-! ### Building -/

/-- The arguments of the builder. -/
structure EnvelopeRequest where
  sessionId : String
  phase : String
  sourceNodeId : String
  sinkNodeId : String
  sequence : Int
  payload : Bytes
  chainId : Option String := none
  metadata : Fields := []
  routeAudit : Option Fields := none
  payloadCompression : Option String := none
  payloadChunkSizeBytes : Option Int := none
  createdAt : String

section Build

theorem transportChainId_ne_empty (chainId : Option String) :
    transportChainId host chainId ≠ "" := by
  unfold transportChainId
  dsimp only
  split
  · assumption
  · show host.activeNetwork.value ≠ ""
    cases host.activeNetwork <;> decide

/-- The fields every envelope has. -/
def envelopeBase (request : EnvelopeRequest) : Fields :=
  let chain := transportChainId host request.chainId
  [("schemaVersion", .int 1), ("protocol", .str transportProtocol), ("protocolVersion", .int 1),
    ("network", .str chain), ("chainId", .str chain),
    ("batchId", .str (transportBatchId host (strip request.sessionId) (strip request.phase)
      (strip request.sourceNodeId) (strip request.sinkNodeId) (max 0 request.sequence)
      (payloadSha256Hex request.payload))),
    ("sessionId", .str (strip request.sessionId)), ("phase", .str (strip request.phase)),
    ("sourceNodeId", .str (strip request.sourceNodeId)),
    ("sinkNodeId", .str (strip request.sinkNodeId)), ("sequence", .int (max 0 request.sequence)),
    ("payloadEncoding", .str "base64"), ("payloadSizeBytes", .int request.payload.length),
    ("payloadSha256Hex", .str (payloadSha256Hex request.payload)),
    ("metadata", .obj request.metadata), ("createdAt", .str request.createdAt)]

/-- The fields that depend on the encoding and on the audit. -/
def envelopeExtras (request : EnvelopeRequest) (compression : Option String)
    (encoded : Bytes) : Fields :=
  let fields := encodedPayloadFields encoded request.payloadChunkSizeBytes
  let size : Fields :=
    if compression.isSome ∨ (fields.lookup "payloadChunksBase64").isSome then
      [("payloadEncodedSizeBytes", .int encoded.length)]
    else []
  let declared : Fields := match compression with
    | some name => [("payloadCompression", .str name)]
    | none => []
  let audit : Fields := match request.routeAudit with
    | some audit => [("routeAudit", Json.sortKeys (.obj audit))]
    | none => []
  fields ++ size ++ declared ++ audit

/-- `build_cai_owned_transport_batch_envelope`. -/
def buildBatchEnvelope (request : EnvelopeRequest) : Except PyError Fields := do
  if strip request.sessionId = "" then
    throw (.valueError (envelopeError "requires session id."))
  if strip request.phase ∉ batchPhases then
    throw (.valueError (envelopeError "phase is unsupported."))
  if strip request.sourceNodeId = "" ∨ strip request.sinkNodeId = "" then
    throw (.valueError (envelopeError "requires source and sink."))
  let compression ← normalizePayloadCompression host request.payloadCompression
  let encoded ← encodePayloadBytes library request.payload compression
  return envelopeBase host request ++ envelopeExtras request compression encoded

end Build

/-! ### Validating -/

/-- The arguments of the validator. -/
structure EnvelopeCheck where
  now : Int
  sessionId : Option String := none
  participantNodeIds : List String := []
  chainId : Option String := none
  maxAge : Option Int := some batchEnvelopeMaxAge
  requireSignature : Option Bool := none
  trusted : Option (List (String × TrustedIdentity)) := none
  requireTrustedSigner : Bool := false
  recordReplayCache : Bool := false
  retention : Option Int := none

section Validate

variable (check : EnvelopeCheck) (kvs : Fields)

/-- `int(envelope.get(key) or 0)`, outside of any `try`. -/
def envelopeInt (key : String) : Except Refusal Int :=
  (host.int ((getD kvs key).pyOr (.int 0))).mapError .raised

/-- `validate_cai_owned_transport_chain_id`. -/
def checkChainId (payloadName expectedChainId : String) : Except Refusal Unit := do
  let subject := "CAI-owned transport " ++ payloadName
  let chain := host.lower (strip (host.strOrEmpty
    ((getD kvs "chainId").pyOr (getD kvs "chain_id"))))
  let network := host.lower (fieldText host kvs "network")
  refuseIf (chain ≠ "" ∧ network ≠ "" ∧ chain ≠ network)
    s!"{subject} has mismatched chain id '{chain}' and network '{network}'."
  let incoming := if chain ≠ "" then chain else network
  refuseIf (incoming = "") s!"{subject} chain id is missing."
  let expected := host.lower (strip expectedChainId)
  refuseIf (expected ≠ "" ∧ incoming ≠ expected)
    s!"{subject} is for chain '{incoming}', expected '{expected}'."

variable {kvs} in
/-- The id of a chain is the one expected of the same chain. -/
theorem checkChainId_of_chain {payloadName : String} {chainId : Option String}
    (hid : getD kvs "chainId" = .str (transportChainId host chainId))
    (hnetwork : fieldText host kvs "network" = strip (transportChainId host chainId))
    (hlower : host.lower (strip (transportChainId host chainId)) = transportChainId host chainId) :
    checkChainId host kvs payloadName (transportChainId host chainId) = .ok () := by
  have hchain := transportChainId_ne_empty host chainId
  have htruthy : (Json.str (transportChainId host chainId)).truthy = true := decide_eq_true hchain
  unfold checkChainId
  rw [hid, hnetwork, Json.pyOr, if_pos htruthy, Host.strOrEmpty_str, hlower]
  simp [bind_eq_ok, refuseIf_ok, hchain]

def checkEnvelopeChain : Except Refusal Unit :=
  checkChainId host kvs "batch envelope" (transportChainId host check.chainId)

/-- `validate_cai_owned_transport_created_at`. -/
def checkEnvelopeAge : Except Refusal Unit :=
  let created := if isNull (getD kvs "createdAt") then none
    else library.parseDatetime (host.str (getD kvs "createdAt"))
  match created with
  | none => .error (.refused (envelopeError "createdAt is invalid."))
  | some created => do
    refuseIf (check.now + clockSkew < created) (envelopeError "createdAt is too far in the future.")
    refuseIf (check.maxAge.any (fun age => created + max 0 age < check.now) = true)
      (envelopeError "has expired.")

/-- The checks before the signature. -/
def checkEnvelopeHead : Except Refusal Unit := do
  let version ← envelopeInt host kvs "schemaVersion"
  refuseIf (version ≠ 1) (envelopeError "schema is unsupported.")
  refuseIf (fieldText host kvs "protocol" ≠ transportProtocol)
    (envelopeError "protocol is invalid.")
  let protocolVersion ← envelopeInt host kvs "protocolVersion"
  refuseIf (protocolVersion ≠ 1) (envelopeError "protocol version is unsupported.")
  checkEnvelopeChain host check kvs
  checkEnvelopeAge host library check kvs
  let expectedSession := strip (check.sessionId.getD "")
  refuseIf (fieldText host kvs "sessionId" = "") (envelopeError "session id is missing.")
  refuseIf (expectedSession ≠ "" ∧ fieldText host kvs "sessionId" ≠ expectedSession)
    (envelopeError "session id does not match.")
  refuseIf (isSafeTransportFileId "caibatch_" (fieldText host kvs "batchId") = false)
    (envelopeError "batch id is invalid.")
  refuseIf (fieldText host kvs "phase" ∉ batchPhases) (envelopeError "phase is unsupported.")
  refuseIf (fieldText host kvs "sourceNodeId" = "" ∨ fieldText host kvs "sinkNodeId" = "")
    (envelopeError "source or sink is missing.")
  let participants := (check.participantNodeIds.map strip).filter (· ≠ "")
  refuseIf (participants ≠ [] ∧ (fieldText host kvs "sourceNodeId" ∉ participants ∨
    fieldText host kvs "sinkNodeId" ∉ participants)) (envelopeError "participant is not allowed.")

/-- The check of the envelope's signature. -/
def EnvelopeCheck.signature : SignatureCheck where
  payloadName := "CAI-owned transport batch envelope"
  expectedSignerNodeId := some (fieldText host kvs "sourceNodeId")
  allowedSignerNodeIds := check.participantNodeIds
  requireSignature := check.requireSignature
  trusted := check.trusted
  requireTrustedSigner := check.requireTrustedSigner

/-- The metadata of an envelope; that of a frame has to be well formed and about the payload. -/
def checkEnvelopeMetadata (declaredHash : String) : Except Refusal Unit :=
  match getD kvs "metadata" with
  | .null => .ok ⟨⟩
  | .obj metadata =>
    if isNull (getD metadata "frameSchemaVersion") then .ok ⟨⟩
    else do
      validateFrameMetadata host none false metadata
      if isNull (getD metadata "payloadSha256Hex") then .ok ⟨⟩
      else do
        let hash ← (normalizeSha256Hex host (getD metadata "payloadSha256Hex")
          "payloadSha256Hex").mapError .raised
        refuseIf (hash ≠ declaredHash) "CAI-owned transport frame payload hash does not match."
  | _ => .error (.refused (envelopeError "metadata is invalid."))

/-- The optional size of the encoded payload. -/
def checkEncodedSize (encoded : Bytes) : Except Refusal Unit :=
  if isNull (getD kvs "payloadEncodedSizeBytes") then .ok ⟨⟩
  else do
    let size ← intOrZero host (getD kvs "payloadEncodedSizeBytes")
      (envelopeError "encoded payload size is invalid.")
    refuseIf (size ≠ encoded.length) (envelopeError "encoded payload size does not match.")

/-- The payload of an envelope, as the validator reads it. -/
def checkEnvelopePayload : Except Refusal Bytes := do
  let encoded ← refuseValueError (encodedPayloadBytes host kvs)
  refuseIf (declaredCompression host kvs ≠ "" ∧ declaredCompression host kvs ∉ payloadCompressions)
    (envelopeError "payload compression is unsupported.")
  let payload ← refuseValueError
    (decodePayloadBytes library encoded (declaredCompression host kvs))
  checkEncodedSize host kvs encoded
  return payload

/-- The optional audit of the route. -/
def checkRouteAudit : Except Refusal Unit :=
  match getD kvs "routeAudit" with
  | .null | .obj _ => .ok ⟨⟩
  | _ => .error (.refused (envelopeError "route audit is invalid."))

/-- The checks after the signature. -/
def checkEnvelopeBody : Except Refusal Unit := do
  let sequence ← intOrZero host (getD kvs "sequence") (envelopeError "sequence is invalid.")
  refuseIf (sequence < 0) (envelopeError "sequence is invalid.")
  refuseIf (fieldText host kvs "payloadEncoding" ≠ "base64")
    (envelopeError "payload encoding is unsupported.")
  let payload ← checkEnvelopePayload host library kvs
  let size ← intOrZero host (getD kvs "payloadSizeBytes")
    (envelopeError "payload size is invalid.")
  refuseIf (size ≠ payload.length) (envelopeError "payload size does not match.")
  let declaredHash := host.lower (fieldText host kvs "payloadSha256Hex")
  refuseIf (declaredHash ≠ payloadSha256Hex payload) (envelopeError "payload hash does not match.")
  checkEnvelopeMetadata host kvs declaredHash
  checkRouteAudit kvs
  refuseIf (fieldText host kvs "batchId" ≠ transportBatchId host (fieldText host kvs "sessionId")
    (fieldText host kvs "phase") (fieldText host kvs "sourceNodeId")
    (fieldText host kvs "sinkNodeId") sequence declaredHash)
      (envelopeError "batch id does not match.")

end Validate

/-- A check that returns its error as a text. -/
def refusing {σ α : Type} (x : Action σ String α) : Action σ Refusal α := fun s =>
  ((x s).1.mapError .refused, (x s).2)

/-- `validate_cai_owned_transport_batch_envelope`. -/
def validateBatchEnvelope (policy : WalletPolicy) (check : EnvelopeCheck) (envelope : Json) :
    Action (List ReplayRecord) Refusal Unit :=
  match envelope with
  | .obj kvs => do
    Action.lift (checkEnvelopeHead host library check kvs)
    refusing (validatePayloadSignature host policy (check.signature host kvs)
      check.recordReplayCache check.retention check.now envelope)
    Action.lift (checkEnvelopeBody host library kvs)
  | _ => throw (.refused (envelopeError "is missing."))

end CaiNetwork.Transport
