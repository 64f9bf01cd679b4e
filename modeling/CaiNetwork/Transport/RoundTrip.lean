/-
CaiNetwork/Transport/RoundTrip.lean

What the validator of envelopes says of what the builder builds, and what two accepted envelopes
with one id have in common.

A built envelope is accepted exactly when its metadata are well-formed frame metadata about this
payload or have no frame version (`FrameOf`), and it decodes to the payload in any case.  The id of
an accepted envelope is the digest of a text that starts with the digest of the payload
(`batchFingerprint_hash`).
-/

import CaiNetwork.Transport.Envelope

namespace CaiNetwork.Transport

open List

variable {bytes : Bytes} {key : String}

/-! ### Chunks -/

section Chunks

theorem flatten_chunks {size : Nat} {k : Nat} :
    ((List.range k).map fun i => (bytes.drop (i * size)).take size).flatten =
      bytes.take (k * size) := by
  induction k with
  | zero => rw [Nat.zero_mul, take_zero]; rfl
  | succ k ih =>
    rw [range_succ, map_append, flatten_append, ih, Nat.succ_mul, take_add]
    simp

/-- The chunks are the payload. -/
theorem flatten_payloadChunks {size : Nat} (hsize : 0 < size) (bytes : Bytes) :
    (payloadChunks size bytes).flatten = bytes := by
  rw [payloadChunks, flatten_chunks]
  apply take_of_length_le
  have hdiv := Nat.div_add_mod (bytes.length + size - 1) size
  have hmod := Nat.mod_lt (bytes.length + size - 1) hsize
  rw [Nat.mul_comm] at hdiv
  omega

theorem decodePayloadChunk_encodeBytes :
    decodePayloadChunk (.str (encodeBytes bytes)) = .ok bytes := by
  rw [decodePayloadChunk, b64decode_encodeBytes]

theorem decodePayloadChunks_encode (chunks : List Bytes) :
    decodePayloadChunks (chunks.map fun chunk => .str (encodeBytes chunk)) =
      .ok chunks.flatten := by
  induction chunks with
  | nil => rfl
  | cons chunk chunks ih =>
    rw [map_cons, decodePayloadChunks, decodePayloadChunk_encodeBytes, ih]
    rfl

theorem payloadChunks_ne_nil {size : Nat} (hsize : 0 < size)
    (hbytes : size < bytes.length) : payloadChunks size bytes ≠ [] := by
  intro hnil
  have hflat := flatten_payloadChunks hsize bytes
  rw [hnil] at hflat
  rw [← hflat] at hbytes
  cases hbytes

end Chunks

/-! ### The fields of a built envelope -/

section Fields

variable (host : Host) (request : EnvelopeRequest) (compression : Option String)
  (encoded : Bytes)

/-- The envelope the builder returns. -/
def builtEnvelope : Fields :=
  envelopeBase host request ++ envelopeExtras request compression encoded

variable {host request compression encoded}

theorem getD_of_base {v : Json} (h : (envelopeBase host request).lookup key = some v) :
    Json.getD (builtEnvelope host request compression encoded) key = v := by
  rw [Json.getD, builtEnvelope, lookup_append, h]
  rfl

theorem getD_of_extras (h : (envelopeBase host request).lookup key = none) :
    Json.getD (builtEnvelope host request compression encoded) key =
      Json.getD (envelopeExtras request compression encoded) key :=
  getD_append_of_absent h

theorem text_of_base {s : String} (h : (envelopeBase host request).lookup key = some (.str s)) :
    fieldText host (builtEnvelope host request compression encoded) key = strip s :=
  fieldText_of_str host (getD_of_base h)

/-- A text that the builder strips is read as it was written. -/
theorem strippedText_of_base {s : String}
    (h : (envelopeBase host request).lookup key = some (.str (strip s))) :
    fieldText host (builtEnvelope host request compression encoded) key = strip s :=
  (text_of_base h).trans strip_strip

variable (host request compression encoded)

/-- The fields of a payload in chunks. -/
def chunkFields (size : Nat) : Fields :=
  [("payloadChunksBase64",
      .arr ((payloadChunks size encoded).map fun chunk => .str (encodeBytes chunk))),
    ("payloadChunkCount", .int (payloadChunks size encoded).length),
    ("payloadChunkSizeBytes", .int size)]

/-- The payload is whole, or in chunks. -/
theorem encodedPayloadFields_cases (chunkSize : Option Int) :
    encodedPayloadFields encoded chunkSize = [("payloadBase64", .str (encodeBytes encoded))] ∨
      ∃ size, 0 < size ∧ size < encoded.length ∧
        encodedPayloadFields encoded chunkSize = chunkFields encoded size := by
  unfold encodedPayloadFields
  by_cases h : (chunkSize.getD 0).toNat = 0 ∨ encoded.length ≤ (chunkSize.getD 0).toNat
  · exact .inl (if_pos h)
  · refine .inr ⟨(chunkSize.getD 0).toNat, ?_, ?_, if_neg h⟩
    · omega
    · omega

/-- The fields after those of the payload. -/
def trailer (sized : Bool) : Fields :=
  (if sized then [("payloadEncodedSizeBytes", .int encoded.length)] else []) ++
    (match compression with
      | some name => [("payloadCompression", .str name)]
      | none => []) ++
    match request.routeAudit with
    | some audit => [("routeAudit", Json.sortKeys (.obj audit))]
    | none => []

theorem envelopeExtras_eq : ∃ sized, envelopeExtras request compression encoded =
      encodedPayloadFields encoded request.payloadChunkSizeBytes ++
        trailer request compression encoded sized := by
  unfold envelopeExtras trailer
  dsimp only
  split
  · refine ⟨true, ?_⟩
    rcases compression with - | name <;> rcases request.routeAudit with - | audit <;> simp
  · refine ⟨false, ?_⟩
    rcases compression with - | name <;> rcases request.routeAudit with - | audit <;> simp

/-- What stands in the trailer. -/
theorem getD_trailer (sized : Bool) :
    Json.getD (trailer request compression encoded sized) "payloadEncodedSizeBytes" =
        (if sized then .int encoded.length else .null) ∧
      Json.getD (trailer request compression encoded sized) "payloadCompression" =
        (compression.map Json.str).getD .null ∧
      Json.getD (trailer request compression encoded sized) "routeAudit" =
        (request.routeAudit.map fun audit => Json.sortKeys (.obj audit)).getD .null := by
  unfold trailer
  cases sized <;> rcases compression with - | name <;> rcases request.routeAudit with - | audit <;>
    simp [Json.getD, lookup_cons]

/-- No other key stands there. -/
theorem lookup_trailer (sized : Bool)
    (h : key ∉ ["payloadEncodedSizeBytes", "payloadCompression", "routeAudit"]) :
    (trailer request compression encoded sized).lookup key = none := by
  simp only [mem_cons, not_mem_nil, or_false, not_or] at h
  obtain ⟨hsize, hname, haudit⟩ := h
  unfold trailer
  cases sized <;> rcases compression with - | name <;> rcases request.routeAudit with - | audit <;>
    simp [lookup_cons, beq_eq_false_iff_ne.mpr hsize, beq_eq_false_iff_ne.mpr hname,
      beq_eq_false_iff_ne.mpr haudit]

/-- A key outside the base and the payload's fields is read from the trailer. -/
theorem getD_built_trailer (key : String) (hbase : (envelopeBase host request).lookup key = none)
    (hfields : key ∉ ["payloadBase64", "payloadChunksBase64", "payloadChunkCount",
      "payloadChunkSizeBytes"]) :
    ∃ sized, Json.getD (builtEnvelope host request compression encoded) key =
      Json.getD (trailer request compression encoded sized) key := by
  obtain ⟨sized, hextras⟩ := envelopeExtras_eq request compression encoded
  refine ⟨sized, ?_⟩
  rw [getD_of_extras hbase, hextras]
  apply getD_append_of_absent
  simp only [mem_cons, not_mem_nil, or_false, not_or] at hfields
  obtain ⟨hwhole, hchunks, hcount, hsize⟩ := hfields
  rcases encodedPayloadFields_cases encoded request.payloadChunkSizeBytes with h | ⟨size, -, -, h⟩
  · rw [h, lookup_cons, beq_eq_false_iff_ne.mpr hwhole]
    rfl
  · rw [h]
    simp [chunkFields, lookup_cons, beq_eq_false_iff_ne.mpr hchunks,
      beq_eq_false_iff_ne.mpr hcount, beq_eq_false_iff_ne.mpr hsize]

/-- **The encoded payload is read back.** -/
theorem encodedPayloadBytes_built :
    encodedPayloadBytes host (builtEnvelope host request compression encoded) = .ok encoded := by
  obtain ⟨sized, hextras⟩ := envelopeExtras_eq request compression encoded
  have hfield : ∀ key, (envelopeBase host request).lookup key = none →
      key ∉ ["payloadEncodedSizeBytes", "payloadCompression", "routeAudit"] →
      Json.getD (builtEnvelope host request compression encoded) key =
        Json.getD (encodedPayloadFields encoded request.payloadChunkSizeBytes) key := by
    intro key hbase hkey
    rw [getD_of_extras hbase, hextras, Json.getD, Json.getD, lookup_append,
      lookup_trailer request compression encoded sized hkey, Option.or_none]
  unfold encodedPayloadBytes
  rw [hfield "payloadBase64" rfl (by decide), hfield "payloadChunksBase64" rfl (by decide),
    hfield "payloadChunkCount" rfl (by decide)]
  rcases encodedPayloadFields_cases encoded request.payloadChunkSizeBytes with
    h | ⟨size, hsize, hlength, h⟩
  · rw [h]
    exact decodePayloadChunk_encodeBytes
  · rw [h]
    obtain ⟨chunk, chunks, hchunks⟩ := exists_cons_of_ne_nil (payloadChunks_ne_nil hsize hlength)
    have hdecode := decodePayloadChunks_encode (payloadChunks size encoded)
    rw [flatten_payloadChunks hsize, hchunks] at hdecode
    rw [chunkFields, hchunks]
    show (if Option.any (fun n : Int => decide (n ≠ _))
      (some ((chunk :: chunks).length : Int)) then _ else _) = _
    rw [if_neg (by simp)]
    exact hdecode

/-- The compressions the builder may choose. -/
def Compression (compression : Option String) : Prop :=
  compression = none ∨ compression = some "gzip"

theorem lower_empty : host.lower "" = "" := host.lower_of_noUpper "" (by decide)

theorem declaredCompression_built (h : Compression compression) :
    declaredCompression host (builtEnvelope host request compression encoded) =
      compression.getD "" := by
  obtain ⟨sized, hfield⟩ :=
    getD_built_trailer host request compression encoded "payloadCompression" rfl (by decide)
  rw [(getD_trailer request compression encoded sized).2.1] at hfield
  unfold declaredCompression fieldText
  rw [hfield]
  rcases h with rfl | rfl
  · exact lower_empty host
  · show host.lower (strip (host.strOrEmpty (.str "gzip"))) = "gzip"
    rw [Host.strOrEmpty_str]
    exact host.lower_of_noUpper "gzip" (by decide)

end Fields

/-! ### What acceptance asks for -/

section Accepted

variable {host : Host} {library : EnvelopeLibrary} {check : EnvelopeCheck}
  {kvs : Fields}

/-- What the checks after the signature establish about sequence number and payload. -/
structure BodyOf (host : Host) (library : EnvelopeLibrary) (kvs : Fields)
    (number : Int) (bytes : Bytes) : Prop where
  sequence : intOrZero host (Json.getD kvs "sequence") (envelopeError "sequence is invalid.") =
    .ok number
  nonneg : 0 ≤ number
  encoding : fieldText host kvs "payloadEncoding" = "base64"
  payload : checkEnvelopePayload host library kvs = .ok bytes
  size : intOrZero host (Json.getD kvs "payloadSizeBytes")
    (envelopeError "payload size is invalid.") = .ok (bytes.length : Int)
  hash : host.lower (fieldText host kvs "payloadSha256Hex") = payloadSha256Hex bytes
  audit : checkRouteAudit kvs = .ok ⟨⟩
  ident : fieldText host kvs "batchId" = transportBatchId host (fieldText host kvs "sessionId")
    (fieldText host kvs "phase") (fieldText host kvs "sourceNodeId")
    (fieldText host kvs "sinkNodeId") number (payloadSha256Hex bytes)

theorem checkEnvelopeBody_ok : checkEnvelopeBody host library kvs = .ok ⟨⟩ ↔
      ∃ number bytes, BodyOf host library kvs number bytes ∧
        checkEnvelopeMetadata host kvs (payloadSha256Hex bytes) = .ok ⟨⟩ := by
  unfold checkEnvelopeBody
  simp only [bind_eq_ok, refuseIf_ok, not_lt, not_not]
  constructor
  · rintro ⟨number, hsequence, -, hnonneg, -, hencoding, bytes, hpayload, size, hsize, -, rfl, -,
      hhash, _, hmetadata, _, haudit, hident⟩
    rw [hhash] at hmetadata hident
    exact ⟨number, bytes, ⟨hsequence, hnonneg, hencoding, hpayload, hsize, hhash, haudit, hident⟩,
      hmetadata⟩
  · rintro ⟨number, bytes, h, hmetadata⟩
    refine ⟨number, h.sequence, ⟨⟩, h.nonneg, ⟨⟩, h.encoding, bytes, h.payload, _, h.size, ⟨⟩, rfl,
      ⟨⟩, h.hash, ⟨⟩, ?_, ⟨⟩, h.audit, ?_⟩
    · rw [h.hash]
      exact hmetadata
    · rw [h.hash]
      exact h.ident

/-- What the checks before the signature ask for. -/
structure HeadOf (host : Host) (library : EnvelopeLibrary) (check : EnvelopeCheck)
    (kvs : Fields) : Prop where
  version : envelopeInt host kvs "schemaVersion" = .ok 1
  protocol : fieldText host kvs "protocol" = transportProtocol
  protocolVersion : envelopeInt host kvs "protocolVersion" = .ok 1
  chain : checkEnvelopeChain host check kvs = .ok ⟨⟩
  age : checkEnvelopeAge host library check kvs = .ok ⟨⟩
  session : fieldText host kvs "sessionId" ≠ ""
  sameSession : ¬(strip (check.sessionId.getD "") ≠ "" ∧
    fieldText host kvs "sessionId" ≠ strip (check.sessionId.getD ""))
  safe : isSafeTransportFileId "caibatch_" (fieldText host kvs "batchId") = true
  phase : fieldText host kvs "phase" ∈ batchPhases
  ends : ¬(fieldText host kvs "sourceNodeId" = "" ∨ fieldText host kvs "sinkNodeId" = "")
  allowed : ¬((check.participantNodeIds.map strip).filter (· ≠ "") ≠ [] ∧
    (fieldText host kvs "sourceNodeId" ∉ (check.participantNodeIds.map strip).filter (· ≠ "") ∨
      fieldText host kvs "sinkNodeId" ∉ (check.participantNodeIds.map strip).filter (· ≠ "")))

theorem HeadOf.ok (h : HeadOf host library check kvs) :
    checkEnvelopeHead host library check kvs = .ok ⟨⟩ := by
  unfold checkEnvelopeHead
  simp only [bind_eq_ok, refuseIf_ok, not_not, Bool.not_eq_false]
  exact ⟨1, h.version, ⟨⟩, rfl, ⟨⟩, h.protocol, 1, h.protocolVersion, ⟨⟩, rfl, ⟨⟩, h.chain, ⟨⟩,
    h.age, ⟨⟩, h.session, ⟨⟩, h.sameSession, ⟨⟩, h.safe, ⟨⟩, h.phase, ⟨⟩, h.ends, h.allowed⟩

/-- An envelope is accepted when it passes the three parts of the check. -/
theorem validateBatchEnvelope_ok {policy : WalletPolicy} {cache : List ReplayRecord} :
    (validateBatchEnvelope host library policy check (.obj kvs) cache).1 = .ok ⟨⟩ ↔
      checkEnvelopeHead host library check kvs = .ok ⟨⟩ ∧
        (validatePayloadSignature host policy (check.signature host kvs) check.recordReplayCache
          check.retention check.now (.obj kvs) cache).1 = .ok ⟨⟩ ∧
        checkEnvelopeBody host library kvs = .ok ⟨⟩ := by
  unfold validateBatchEnvelope
  dsimp only
  constructor
  · intro h
    obtain ⟨_, hhead, h⟩ := Action.lift_returns h
    obtain ⟨_, after, hsigned, hbody⟩ := Action.bind_returns h
    exact ⟨hhead, mapError_eq_ok.mp (congrArg Prod.fst hsigned), hbody⟩
  · rintro ⟨hhead, hsigned, hbody⟩
    have hrefusing : refusing (validatePayloadSignature host policy (check.signature host kvs)
        check.recordReplayCache check.retention check.now (.obj kvs)) cache = (.ok ⟨⟩, _) :=
      Prod.ext (mapError_eq_ok.mpr hsigned) rfl
    rw [hhead, hbody, Action.bind_of_ok (Action.lift_apply _), Action.bind_of_ok hrefusing]
    rfl

/-- The payload the validator reads is the one that is decoded. -/
theorem decodeBatchPayload_of_check (h : checkEnvelopePayload host library kvs = .ok bytes) :
    decodeBatchPayload host library kvs = .ok bytes := by
  unfold checkEnvelopePayload at h
  simp only [bind_eq_ok, refuseIf_ok, refuseValueError_ok] at h
  obtain ⟨encoded, hencoded, -, hcompression, payload, hpayload, -, -, hreturn⟩ := h
  cases hreturn
  unfold decodeBatchPayload
  rw [hencoded, ok_bind, if_neg hcompression]
  exact hpayload

end Accepted

/-! ### Built envelopes -/

section Built

variable {host : Host} {library : EnvelopeLibrary} {policy : WalletPolicy} {check : EnvelopeCheck}
  {request : EnvelopeRequest}

/-- The check is one that the request is meant for: its chain, session and participants, a time
within the window of the envelope, and no signature. -/
structure EnvelopeCheck.Admits (host : Host) (library : EnvelopeLibrary) (policy : WalletPolicy)
    (check : EnvelopeCheck) (request : EnvelopeRequest) : Prop where
  chain : check.chainId = request.chainId
  /-- Lower-casing a lower-cased text changes nothing, as far as the chain's id goes. -/
  lower : host.lower (strip (transportChainId host request.chainId)) =
    transportChainId host request.chainId
  session : strip (check.sessionId.getD "") = "" ∨
    strip (check.sessionId.getD "") = strip request.sessionId
  participants : (check.participantNodeIds.map strip).filter (· ≠ "") = [] ∨
    strip request.sourceNodeId ∈ (check.participantNodeIds.map strip).filter (· ≠ "") ∧
      strip request.sinkNodeId ∈ (check.participantNodeIds.map strip).filter (· ≠ "")
  window : ∃ created, library.parseDatetime request.createdAt = some created ∧
    created ≤ check.now + clockSkew ∧ ∀ age, check.maxAge = some age →
      check.now ≤ created + max 0 age
  signature : check.requireSignature.getD (peerPayloadSignaturesRequired host policy) = false
  trusted : check.requireTrustedSigner = false
  replay : check.recordReplayCache = false

/-- The metadata are no frame's, or well-formed frame metadata that give no other digest than the
payload's. -/
def FrameOf (host : Host) (metadata : Fields) (payload : Bytes) : Prop :=
  isNull (Json.getD metadata "frameSchemaVersion") = true ∨
    validateFrameMetadata host none false metadata = .ok () ∧
      (isNull (Json.getD metadata "payloadSha256Hex") = true ∨
        normalizeSha256Hex host (Json.getD metadata "payloadSha256Hex") "payloadSha256Hex" =
          .ok (payloadSha256Hex payload))

/-- What the builder returns, and what it asks for. -/
theorem buildBatchEnvelope_ok {envelope : Fields}
    (h : buildBatchEnvelope host library request = .ok envelope) :
    strip request.sessionId ≠ "" ∧ strip request.phase ∈ batchPhases ∧
      strip request.sourceNodeId ≠ "" ∧ strip request.sinkNodeId ≠ "" ∧
      ∃ compression encoded, Compression compression ∧
        encodePayloadBytes library request.payload compression = .ok encoded ∧
        envelope = builtEnvelope host request compression encoded := by
  unfold buildBatchEnvelope at h
  dsimp only at h
  split at h
  · cases h
  next hsession =>
  split at h
  · cases h
  next hphase =>
  split at h
  · cases h
  next hends =>
  obtain ⟨compression, hcompression, h⟩ := bind_eq_ok.mp h
  obtain ⟨encoded, hencoded, h⟩ := bind_eq_ok.mp h
  rw [not_or] at hends
  refine ⟨hsession, not_not.mp hphase, hends.1, hends.2, compression, encoded, ?_, hencoded,
    (pure_eq_ok.mp h).symm⟩
  unfold normalizePayloadCompression at hcompression
  dsimp only at hcompression
  split at hcompression
  · cases hcompression
    exact .inl rfl
  split at hcompression
  · cases hcompression
  · rename_i hmem
    cases hcompression
    rw [not_not] at hmem
    exact .inr (congrArg some (mem_singleton.mp hmem))

/-- Decoding undoes the encoding of a compression the builder chose. -/
theorem decodePayloadBytes_encode {compression : Option String} {payload encoded : Bytes}
    (hcompression : Compression compression)
    (h : encodePayloadBytes library payload compression = .ok encoded) :
    decodePayloadBytes library encoded (compression.getD "") = .ok payload := by
  rcases hcompression with rfl | rfl
  · cases h
    rfl
  · cases h
    show decodePayloadBytes library (library.compress payload) "gzip" = .ok payload
    unfold decodePayloadBytes
    rw [if_neg (by decide), if_pos rfl, library.decompress_compress]

section Parts

variable {compression : Option String} {encoded : Bytes}

variable (host request compression encoded) in
/-- The parts of a built envelope. -/
theorem envelope_text :
    fieldText host (builtEnvelope host request compression encoded) "sessionId" =
        strip request.sessionId ∧
      fieldText host (builtEnvelope host request compression encoded) "phase" =
        strip request.phase ∧
      fieldText host (builtEnvelope host request compression encoded) "sourceNodeId" =
        strip request.sourceNodeId ∧
      fieldText host (builtEnvelope host request compression encoded) "sinkNodeId" =
        strip request.sinkNodeId :=
  ⟨strippedText_of_base rfl, strippedText_of_base rfl, strippedText_of_base rfl,
    strippedText_of_base rfl⟩

theorem hexAlphabet_plain : ∀ c ∈ Sha256.hexAlphabet,
    c.toNat < 128 ∧ c.isUpper = false ∧ isSpace c = false ∧ c.isAlphanum = true := by
  decide

theorem mem_hexAlphabet_payloadSha256Hex {payload : Bytes} {c : Char}
    (h : c ∈ (payloadSha256Hex payload).toList) : c ∈ Sha256.hexAlphabet := by
  rw [payloadSha256Hex, String.toList_ofList] at h
  exact Sha256.mem_hexAlphabet_of_mem_hexdigest h

/-- A digest is its own lower-cased text. -/
theorem lower_payloadSha256Hex (payload : Bytes) :
    host.lower (strip (payloadSha256Hex payload)) = payloadSha256Hex payload := by
  have hplain : ∀ c ∈ (payloadSha256Hex payload).toList, _ := fun c hc =>
    hexAlphabet_plain c (mem_hexAlphabet_payloadSha256Hex hc)
  rw [strip_eq_self fun c hc => (hplain c hc).2.2.1]
  exact host.lower_of_noUpper _ fun c hc => ⟨(hplain c hc).1, (hplain c hc).2.1⟩

/-- An id is a mark and the digits of a digest. -/
theorem forall_mem_digestId {mark : String} {p : Char → Prop} (hmark : ∀ c ∈ mark.toList, p c)
    (hdigits : ∀ c ∈ Sha256.hexAlphabet, p c) {fingerprint : Bytes} :
    ∀ c ∈ (mark ++ fingerprintDigest fingerprint).toList, p c := by
  intro c hc
  rw [String.toList_append, fingerprintDigest, takeString, String.toList_ofList] at hc
  rcases mem_append.mp hc with hc | hc
  · exact hmark c hc
  · exact hdigits c (mem_hexAlphabet_payloadSha256Hex (mem_of_mem_take hc))

theorem strip_digestId {mark : String} (hmark : ∀ c ∈ mark.toList, isSpace c = false)
    {fingerprint : Bytes} :
    strip (mark ++ fingerprintDigest fingerprint) = mark ++ fingerprintDigest fingerprint :=
  strip_eq_self (forall_mem_digestId hmark (by decide))

/-- The id of a batch is made of letters, digits and the mark. -/
theorem isSafe_batchId {fingerprint : Bytes} :
    isSafeTransportFileId "caibatch_" ("caibatch_" ++ fingerprintDigest fingerprint) = true := by
  have hchars : ∀ c ∈ ("caibatch_" ++ fingerprintDigest fingerprint).toList,
      c.toNat < 128 ∧ (c.isAlphanum = true ∨ c = '_' ∨ c = '-') :=
    forall_mem_digestId (by decide) (by decide)
  unfold isSafeTransportFileId startsWith
  rw [Bool.and_eq_true, Bool.and_eq_true]
  refine ⟨⟨decide_eq_true fun hempty => ?_, ?_⟩, all_eq_true.mpr fun c hc => ?_⟩
  · have htext := congrArg String.toList hempty
    rw [String.toList_append] at htext
    cases htext
  · rw [String.toList_append, isPrefixOf_iff_prefix]
    exact prefix_append _ _
  · have h := hchars c hc
    rw [Bool.and_eq_true, Bool.or_eq_true, Bool.or_eq_true, decide_eq_true_eq, decide_eq_true_eq,
      decide_eq_true_eq]
    exact ⟨h.1, or_assoc.mpr h.2⟩

theorem batchId_built :
    fieldText host (builtEnvelope host request compression encoded) "batchId" =
      transportBatchId host (strip request.sessionId) (strip request.phase)
        (strip request.sourceNodeId) (strip request.sinkNodeId) (max 0 request.sequence)
        (payloadSha256Hex request.payload) :=
  (text_of_base rfl).trans (strip_digestId (by decide))

/-- The chain's id of a built envelope is the one expected. -/
theorem checkEnvelopeChain_built (hadmits : check.Admits host library policy request) :
    checkEnvelopeChain host check (builtEnvelope host request compression encoded) = .ok () := by
  have hid : Json.getD (builtEnvelope host request compression encoded) "chainId" =
      .str (transportChainId host request.chainId) := getD_of_base rfl
  have hnetwork : fieldText host (builtEnvelope host request compression encoded) "network" =
      strip (transportChainId host request.chainId) := text_of_base rfl
  unfold checkEnvelopeChain
  rw [hadmits.chain]
  exact checkChainId_of_chain _ hid hnetwork hadmits.lower

theorem checkEnvelopeAge_built (hadmits : check.Admits host library policy request) :
    checkEnvelopeAge host library check (builtEnvelope host request compression encoded) =
      .ok () := by
  obtain ⟨created, hparse, hskew, hage⟩ := hadmits.window
  have hcreated : Json.getD (builtEnvelope host request compression encoded) "createdAt" =
      .str request.createdAt := getD_of_base rfl
  unfold checkEnvelopeAge
  rw [hcreated]
  simp only [isNull, Bool.false_eq_true, if_false, Host.str, hparse]
  simp only [bind_eq_ok, refuseIf_ok]
  refine ⟨(), not_lt.mpr hskew, ?_⟩
  cases hmax : check.maxAge with
  | none => simp
  | some age =>
    have hlate := hage age hmax
    simpa using hlate

theorem pyOr_int {n : Int} : (Json.int n).pyOr (.int 0) = .int n := by
  by_cases hn : n = 0
  · rw [hn]
    rfl
  · exact if_pos (decide_eq_true hn)

theorem envelopeInt_of_int {kvs : Fields} {n : Int} (h : Json.getD kvs key = .int n) :
    envelopeInt host kvs key = .ok n := by
  rw [envelopeInt, h, pyOr_int]
  rfl

theorem intOrZero_int {n : Int} {message : String} : intOrZero host (.int n) message = .ok n := by
  rw [intOrZero, pyOr_int]
  rfl

theorem intOrZero_built {n : Int} {message : String}
    (h : (envelopeBase host request).lookup key = some (.int n)) :
    intOrZero host (Json.getD (builtEnvelope host request compression encoded) key) message =
      .ok n := by
  rw [getD_of_base h, intOrZero_int]

theorem headOf_built (hadmits : check.Admits host library policy request)
    (hsession : strip request.sessionId ≠ "")
    (hphase : strip request.phase ∈ batchPhases) (hsource : strip request.sourceNodeId ≠ "")
    (hsink : strip request.sinkNodeId ≠ "") :
    HeadOf host library check (builtEnvelope host request compression encoded) := by
  obtain ⟨hs, hp, hsrc, hsnk⟩ := envelope_text host request compression encoded
  refine ⟨envelopeInt_of_int (getD_of_base rfl), (text_of_base rfl).trans (by decide),
    envelopeInt_of_int (getD_of_base rfl), checkEnvelopeChain_built hadmits,
    checkEnvelopeAge_built hadmits, ?_, ?_, ?_, ?_, ?_, ?_⟩
  · rwa [hs]
  · rw [hs]
    rintro ⟨hne, hother⟩
    rcases hadmits.session with h | h
    · exact hne h
    · exact hother h.symm
  · rw [batchId_built]
    exact isSafe_batchId
  · rwa [hp]
  · rw [hsrc, hsnk, not_or]
    exact ⟨hsource, hsink⟩
  · rw [hsrc, hsnk]
    rintro ⟨hne, hnot⟩
    rcases hadmits.participants with h | ⟨h, h'⟩
    · exact hne h
    · rcases hnot with hnot | hnot
      · exact hnot h
      · exact hnot h'

/-- The payload of a built envelope is read back. -/
theorem checkEnvelopePayload_built (hcompression : Compression compression)
    (hencoded : encodePayloadBytes library request.payload compression = .ok encoded) :
    checkEnvelopePayload host library (builtEnvelope host request compression encoded) =
      .ok request.payload := by
  have hdecode := decodePayloadBytes_encode hcompression hencoded
  unfold checkEnvelopePayload
  rw [encodedPayloadBytes_built, declaredCompression_built _ _ _ _ hcompression]
  simp only [bind_eq_ok, refuseIf_ok, refuseValueError_ok]
  refine ⟨encoded, rfl, (), ?_, request.payload, hdecode, (), ?_, rfl⟩
  · rcases hcompression with rfl | rfl
    · exact fun h => h.1 rfl
    · exact fun h => h.2 (by decide)
  · obtain ⟨sized, hfield⟩ :=
      getD_built_trailer host request compression encoded "payloadEncodedSizeBytes" rfl (by decide)
    rw [(getD_trailer request compression encoded sized).1] at hfield
    unfold checkEncodedSize
    rw [hfield]
    cases sized with
    | false => rfl
    | true =>
      show (intOrZero host (.int encoded.length) _ >>= _) = _
      rw [intOrZero_int]
      exact refuseIf_ok.mpr (not_not.mpr rfl)

theorem bodyOf_built (hcompression : Compression compression)
    (hencoded : encodePayloadBytes library request.payload compression = .ok encoded) :
    BodyOf host library (builtEnvelope host request compression encoded) (max 0 request.sequence)
      request.payload := by
  obtain ⟨hs, hp, hsrc, hsnk⟩ := envelope_text host request compression encoded
  refine ⟨intOrZero_built rfl, le_max_left 0 _, (text_of_base rfl).trans (by decide),
    checkEnvelopePayload_built hcompression hencoded, intOrZero_built rfl, ?_, ?_, ?_⟩
  · rw [← lower_payloadSha256Hex request.payload]
    exact congrArg host.lower (text_of_base rfl)
  · obtain ⟨sized, hfield⟩ :=
      getD_built_trailer host request compression encoded "routeAudit" rfl (by decide)
    rw [(getD_trailer request compression encoded sized).2.2] at hfield
    unfold checkRouteAudit
    rw [hfield]
    cases request.routeAudit with
    | none => rfl
    | some audit => rfl
  · rw [hs, hp, hsrc, hsnk]
    exact batchId_built

/-- The metadata of a built envelope pass exactly when they are no frame's or a frame's about the
payload. -/
theorem checkEnvelopeMetadata_built :
    checkEnvelopeMetadata host (builtEnvelope host request compression encoded)
        (payloadSha256Hex request.payload) = .ok () ↔
          FrameOf host request.metadata request.payload := by
  have hmetadata : Json.getD (builtEnvelope host request compression encoded) "metadata" =
      .obj request.metadata := getD_of_base rfl
  unfold checkEnvelopeMetadata FrameOf
  rw [hmetadata]
  dsimp only
  cases hversion : isNull (Json.getD request.metadata "frameSchemaVersion") with
  | true => simp
  | false =>
    cases hhash : isNull (Json.getD request.metadata "payloadSha256Hex") with
    | true =>
      simp only [Bool.false_eq_true, if_false, if_true, false_or, true_or, and_true, bind_eq_ok]
      constructor
      · rintro ⟨_, h⟩
        exact h
      · exact fun h => ⟨(), h⟩
    | false =>
      simp only [Bool.false_eq_true, if_false, false_or, bind_eq_ok, refuseIf_ok, not_not,
        mapError_eq_ok]
      constructor
      · rintro ⟨_, hframe, hash, hnormal, rfl⟩
        exact ⟨hframe, hnormal⟩
      · exact fun h => ⟨(), h.1, _, h.2, rfl⟩

/-- An unsigned envelope passes a check that asks for no signature. -/
theorem validatePayloadSignature_built (hadmits : check.Admits host library policy request)
    {cache : List ReplayRecord} :
    (validatePayloadSignature host policy
      (check.signature host (builtEnvelope host request compression encoded))
      check.recordReplayCache check.retention check.now
      (.obj (builtEnvelope host request compression encoded)) cache).1 = .ok () := by
  obtain ⟨sized, hfield⟩ :=
    getD_built_trailer host request compression encoded "signature" rfl (by decide)
  have hunsigned : Json.getD (builtEnvelope host request compression encoded) "signature" =
      .null := by
    rw [hfield, Json.getD, lookup_trailer request compression encoded sized (by decide)]
    rfl
  have hrequired : (check.signature host
      (builtEnvelope host request compression encoded)).signatureRequired host policy = false := by
    show (check.requireSignature.getD _ || check.requireTrustedSigner) = false
    rw [hadmits.signature, hadmits.trusted]
    rfl
  have herror : payloadSignatureError host policy
      (check.signature host (builtEnvelope host request compression encoded))
      (builtEnvelope host request compression encoded) = none := by
    unfold payloadSignatureError verifyPeerPayloadSignature
    rw [hunsigned, hrequired]
    rfl
  unfold validatePayloadSignature
  simp only [herror, hadmits.replay, Bool.false_eq_true, if_false]
  rfl

end Parts

/-- A built envelope decodes to the payload, and it is accepted exactly when its metadata are. -/
theorem builtEnvelope_accepted {envelope : Fields} (cache : List ReplayRecord)
    (hbuild : buildBatchEnvelope host library request = .ok envelope)
    (hadmits : check.Admits host library policy request) :
    decodeBatchPayload host library envelope = .ok request.payload ∧
      ((validateBatchEnvelope host library policy check (.obj envelope) cache).1 = .ok () ↔
        FrameOf host request.metadata request.payload) := by
  obtain ⟨hsession, hphase, hsource, hsink, compression, encoded, hcompression, hencoded, rfl⟩ :=
    buildBatchEnvelope_ok hbuild
  have hbody : BodyOf host library (builtEnvelope host request compression encoded)
      (max 0 request.sequence) request.payload := bodyOf_built hcompression hencoded
  have hmetadata : checkEnvelopeMetadata host (builtEnvelope host request compression encoded)
      (payloadSha256Hex request.payload) = .ok () ↔ FrameOf host request.metadata request.payload :=
    checkEnvelopeMetadata_built
  refine ⟨decodeBatchPayload_of_check hbody.payload, ?_⟩
  rw [validateBatchEnvelope_ok, checkEnvelopeBody_ok]
  constructor
  · rintro ⟨-, -, number, bytes, hother, hframe⟩
    cases hother.payload.symm.trans hbody.payload
    exact hmetadata.mp hframe
  · intro hframe
    exact ⟨(headOf_built hadmits hsession hphase hsource hsink).ok,
      validatePayloadSignature_built hadmits, _, _, hbody, hmetadata.mpr hframe⟩

end Built

/-! ### Ids -/

section Ids

variable (host : Host)

/-- A digest stands between quotes as it is. -/
theorem quote_payloadSha256Hex (payload : Bytes) :
    Json.quote (payloadSha256Hex payload) = '"' :: (Sha256.hexdigest payload ++ ['"']) := by
  have hplain : ∀ c ∈ Sha256.hexAlphabet, c.toNat < 128 ∧ Json.escapeChar c = [c] := by decide
  have hchars : ∀ c ∈ Sha256.hexdigest payload, c.toNat < 128 ∧ Json.escapeChar c = [c] :=
    fun c hc => hplain c (Sha256.mem_hexAlphabet_of_mem_hexdigest hc)
  have hself : (Sha256.hexdigest payload).flatMap Json.escapeChar = Sha256.hexdigest payload := by
    rw [flatMap_congr fun c hc => (hchars c hc).2]
    exact flatMap_singleton' _
  rw [Json.quote, payloadSha256Hex, Json.byteChars_ofList fun c hc => (hchars c hc).1, hself]

/-- The text of a fingerprint starts with the digest of the payload. -/
theorem batchFingerprint_eq (sessionId phase source sink : String) (sequence : Int)
    (payload : Bytes) :
    ∃ rest, batchFingerprint host sessionId phase source sink sequence (payloadSha256Hex payload) =
      toBytes "\x7b\"payloadSha256Hex\":\"".toList ++
        (toBytes (Sha256.hexdigest payload) ++ rest) := by
  have htext : ∃ rest, Json.canonical (.obj [("payloadSha256Hex", .str (payloadSha256Hex payload)),
        ("phase", .str (strip phase)), ("sequence", .int (max 0 sequence)),
        ("sessionId", .str (strip sessionId)), ("sinkNodeId", .str (strip sink)),
        ("sourceNodeId", .str (strip source))]) =
      ("\x7b\"payloadSha256Hex\":\"".toList ++ Sha256.hexdigest payload) ++ rest := by
    -- the keys of the fingerprint are written in order
    have hsorted : ∀ a b c d e : String, ∀ n : Int,
        Json.sortKeys (.obj [("payloadSha256Hex", .str a), ("phase", .str b), ("sequence", .int n),
          ("sessionId", .str c), ("sinkNodeId", .str d), ("sourceNodeId", .str e)]) =
        .obj [("payloadSha256Hex", .str a), ("phase", .str b), ("sequence", .int n),
          ("sessionId", .str c), ("sinkNodeId", .str d), ("sourceNodeId", .str e)] :=
      fun _ _ _ _ _ _ => rfl
    have hkey : Json.quote "payloadSha256Hex" = "\"payloadSha256Hex\"".toList := by decide
    rw [Json.canonical, hsorted, Json.render, Json.renderFields, hkey, Json.render,
      quote_payloadSha256Hex]
    simp only [cons_append, append_assoc]
    exact ⟨_, rfl⟩
  obtain ⟨rest, htext⟩ := htext
  have hmark : ∀ c ∈ "\x7b\"payloadSha256Hex\":\"".toList, c.toNat < 0x7f := by decide
  have hdigit : ∀ c ∈ Sha256.hexAlphabet, c.toNat < 0x7f := by decide
  have hchars : ∀ c ∈ "\x7b\"payloadSha256Hex\":\"".toList ++ Sha256.hexdigest payload,
      c.toNat < 0x7f := by
    intro c hc
    rcases mem_append.mp hc with hc | hc
    · exact hmark c hc
    · exact hdigit c (Sha256.mem_hexAlphabet_of_mem_hexdigest hc)
  refine ⟨toBytes (Json.escapeNonAscii rest 0 0), ?_⟩
  rw [batchFingerprint, lower_payloadSha256Hex, Json.dumps, htext,
    Json.escapeNonAscii_append rest hchars]
  simp only [toBytes, map_append, append_assoc]

/-- The digest of the payload can be read off the fingerprint. -/
theorem batchFingerprint_hash {session₁ phase₁ source₁ sink₁ : String}
    {session₂ phase₂ source₂ sink₂ : String} {n₁ n₂ : Int} {payload₁ payload₂ : Bytes}
    (h : batchFingerprint host session₁ phase₁ source₁ sink₁ n₁ (payloadSha256Hex payload₁) =
      batchFingerprint host session₂ phase₂ source₂ sink₂ n₂ (payloadSha256Hex payload₂)) :
    payloadSha256Hex payload₁ = payloadSha256Hex payload₂ := by
  obtain ⟨rest₁, h₁⟩ := batchFingerprint_eq host session₁ phase₁ source₁ sink₁ n₁ payload₁
  obtain ⟨rest₂, h₂⟩ := batchFingerprint_eq host session₂ phase₂ source₂ sink₂ n₂ payload₂
  rw [h₁, h₂] at h
  have hlength : (toBytes (Sha256.hexdigest payload₁)).length =
      (toBytes (Sha256.hexdigest payload₂)).length := by
    rw [toBytes, toBytes, length_map, length_map, Sha256.length_hexdigest, Sha256.length_hexdigest]
  have hbytes := (append_inj (append_cancel_left h) hlength).1
  have hdigit : ∀ c ∈ Sha256.hexAlphabet, c.toNat < 256 := by decide
  have hread : ∀ payload, (toBytes (Sha256.hexdigest payload)).map (fun b => Char.ofNat b.toNat) =
      Sha256.hexdigest payload := fun payload =>
    map_toBytes fun c hc => hdigit c (Sha256.mem_hexAlphabet_of_mem_hexdigest hc)
  rw [payloadSha256Hex, payloadSha256Hex, ← hread payload₁, ← hread payload₂, hbytes]

end Ids

/-! ### Round trips and ids -/

section RoundTrips

variable (host : Host) (library : EnvelopeLibrary) (policy : WalletPolicy)

/-- The number of an envelope, as the validator reads it. -/
def envelopeSequence (kvs : Fields) : Int :=
  ((intOrZero host (Json.getD kvs "sequence") "").toOption).getD 0

/-- The text whose digest is the id of an envelope with this payload. -/
def envelopeFingerprint (kvs : Fields) (payload : Bytes) : Bytes :=
  batchFingerprint host (fieldText host kvs "sessionId") (fieldText host kvs "phase")
    (fieldText host kvs "sourceNodeId") (fieldText host kvs "sinkNodeId")
    (envelopeSequence host kvs) (payloadSha256Hex payload)

variable {host library policy}

theorem BodyOf.envelopeSequence_eq {kvs : Fields} {number : Int}
    (h : BodyOf host library kvs number bytes) : envelopeSequence host kvs = number := by
  have hsequence := h.sequence
  unfold envelopeSequence
  unfold intOrZero at hsequence ⊢
  cases htry : tryInt host ((Json.getD kvs "sequence").pyOr (.int 0)) with
  | error e => rw [htry] at hsequence; cases hsequence
  | ok n? =>
    rw [htry] at hsequence
    cases n? with
    | none => cases hsequence
    | some n => cases hsequence; rfl

/-- An accepted envelope decodes to some payload, and its id is the digest of the fingerprint with
that payload. -/
theorem acceptedEnvelope {check : EnvelopeCheck} {cache : List ReplayRecord} {kvs : Fields}
    (h : (validateBatchEnvelope host library policy check (.obj kvs) cache).1 = .ok ()) :
    ∃ payload, decodeBatchPayload host library kvs = .ok payload ∧ fieldText host kvs "batchId" =
        "caibatch_" ++ fingerprintDigest (envelopeFingerprint host kvs payload) := by
  obtain ⟨_, _, hbody⟩ := validateBatchEnvelope_ok.mp h
  obtain ⟨number, payload, hof, _⟩ := checkEnvelopeBody_ok.mp hbody
  refine ⟨payload, decodeBatchPayload_of_check hof.payload, ?_⟩
  rw [hof.ident, envelopeFingerprint, hof.envelopeSequence_eq]
  rfl

variable (host library policy)

/-- Whatever the builder builds decodes to its payload, and the validator of the same chain, session
and participants accepts it inside its time window exactly when its metadata are no frame's or
well-formed and about this payload.  Two accepted envelopes with one id decode to the same payload,
unless the digests collide on their fingerprints or on their payloads. -/
theorem batchEnvelope_roundtrip :
    (∀ (request : EnvelopeRequest) (envelope : List (String × Json)) (check : EnvelopeCheck)
        (cache : List ReplayRecord),
      buildBatchEnvelope host library request = .ok envelope →
      check.Admits host library policy request →
      ((validateBatchEnvelope host library policy check (.obj envelope) cache).1 = .ok () ∧
          decodeBatchPayload host library envelope = .ok request.payload ↔
        FrameOf host request.metadata request.payload)) ∧
    (∀ (check₁ check₂ : EnvelopeCheck) (cache₁ cache₂ : List ReplayRecord)
        (kvs₁ kvs₂ : List (String × Json)),
      (validateBatchEnvelope host library policy check₁ (.obj kvs₁) cache₁).1 = .ok () →
      (validateBatchEnvelope host library policy check₂ (.obj kvs₂) cache₂).1 = .ok () →
      fieldText host kvs₁ "batchId" = fieldText host kvs₂ "batchId" →
      ∃ payload₁ payload₂, decodeBatchPayload host library kvs₁ = .ok payload₁ ∧
        decodeBatchPayload host library kvs₂ = .ok payload₂ ∧ (Set.InjOn fingerprintDigest
            {envelopeFingerprint host kvs₁ payload₁, envelopeFingerprint host kvs₂ payload₂} →
          Set.InjOn payloadSha256Hex {payload₁, payload₂} → payload₁ = payload₂)) := by
  constructor
  · intro request envelope check cache hbuild hadmits
    obtain ⟨hdecode, haccepted⟩ := builtEnvelope_accepted cache hbuild hadmits
    exact ⟨fun h => haccepted.mp h.1, fun h => ⟨haccepted.mpr h, hdecode⟩⟩
  · intro check₁ check₂ cache₁ cache₂ kvs₁ kvs₂ h₁ h₂ hid
    obtain ⟨payload₁, hdecode₁, hid₁⟩ := acceptedEnvelope h₁
    obtain ⟨payload₂, hdecode₂, hid₂⟩ := acceptedEnvelope h₂
    refine ⟨payload₁, payload₂, hdecode₁, hdecode₂, fun hfingerprint hpayload => ?_⟩
    rw [hid₁, hid₂] at hid
    have hdigest : fingerprintDigest (envelopeFingerprint host kvs₁ payload₁) =
        fingerprintDigest (envelopeFingerprint host kvs₂ payload₂) := by
      have hchars := congrArg String.toList hid
      rw [String.toList_append, String.toList_append] at hchars
      exact String.toList_inj.mp (append_cancel_left hchars)
    have hsame := hfingerprint (Set.mem_insert _ _) (Set.mem_insert_of_mem _ rfl) hdigest
    exact hpayload (Set.mem_insert _ _) (Set.mem_insert_of_mem _ rfl)
      (batchFingerprint_hash host hsame)

end RoundTrips

/-! ### A batch -/

/-- A library that leaves bytes as they are and reads every date as the start of time. -/
def sampleLibrary : EnvelopeLibrary where
  compress := id
  decompress := some
  decompress_compress := fun _ => rfl
  parseDatetime := fun _ => some 0

/-- A batch of three bytes. -/
def sampleBatch : EnvelopeRequest where
  sessionId := "s"
  phase := "prefill_activation_batches"
  sourceNodeId := "a"
  sinkNodeId := "b"
  sequence := 0
  payload := [1, 2, 3]
  createdAt := "1970-01-01T00:00:00+00:00"

/-- A check by a member of the session, one minute later. -/
def sampleEnvelopeCheck : EnvelopeCheck where
  now := 60 * 1000000
  sessionId := some "s"
  participantNodeIds := ["a", "b"]

theorem sampleEnvelopeCheck_admits {request : EnvelopeRequest} (hchain : request.chainId = none)
    (hsession : request.sessionId = "s") (hsource : request.sourceNodeId = "a")
    (hsink : request.sinkNodeId = "b") :
    sampleEnvelopeCheck.Admits sampleHost sampleLibrary samplePolicy request where
  chain := hchain.symm
  lower := by rw [hchain]; decide
  session := by rw [hsession]; decide
  participants := by rw [hsource, hsink]; decide
  window := ⟨0, rfl, by decide, fun age hage => by cases hage; decide⟩
  signature := by decide
  trusted := rfl
  replay := rfl

/-- The batch whole and in chunks: two envelopes with one id and one payload. -/
theorem batchEnvelope_roundtrip_chunked : ∃ whole chunked,
      buildBatchEnvelope sampleHost sampleLibrary sampleBatch = .ok whole ∧
      buildBatchEnvelope sampleHost sampleLibrary
        { sampleBatch with payloadChunkSizeBytes := some 2 } = .ok chunked ∧
      (validateBatchEnvelope sampleHost sampleLibrary samplePolicy sampleEnvelopeCheck
        (.obj whole) []).1 = .ok () ∧
      (validateBatchEnvelope sampleHost sampleLibrary samplePolicy sampleEnvelopeCheck
        (.obj chunked) []).1 = .ok () ∧
      decodeBatchPayload sampleHost sampleLibrary whole = .ok sampleBatch.payload ∧
      ∃ payload₁ payload₂, decodeBatchPayload sampleHost sampleLibrary whole = .ok payload₁ ∧
        decodeBatchPayload sampleHost sampleLibrary chunked = .ok payload₂ ∧
        (Set.InjOn fingerprintDigest {envelopeFingerprint sampleHost whole payload₁,
            envelopeFingerprint sampleHost chunked payload₂} →
          Set.InjOn payloadSha256Hex {payload₁, payload₂} → payload₁ = payload₂) := by
  have hroundtrip := batchEnvelope_roundtrip sampleHost sampleLibrary samplePolicy
  have hframe : FrameOf sampleHost [] [1, 2, 3] := .inl rfl
  have hwhole := (hroundtrip.1 sampleBatch _ sampleEnvelopeCheck [] rfl
    (sampleEnvelopeCheck_admits rfl rfl rfl rfl)).mpr hframe
  have hchunked := (hroundtrip.1 { sampleBatch with payloadChunkSizeBytes := some 2 } _
    sampleEnvelopeCheck [] rfl (sampleEnvelopeCheck_admits rfl rfl rfl rfl)).mpr hframe
  refine ⟨_, _, rfl, rfl, hwhole.1, hchunked.1, hwhole.2, ?_⟩
  exact hroundtrip.2 _ _ _ _ _ _ hwhole.1 hchunked.1 rfl

/-- The builder takes the version of another format for its metadata; the validator does not. -/
theorem batchEnvelope_refused : ∃ envelope, buildBatchEnvelope sampleHost sampleLibrary
        { sampleBatch with metadata := [("frameSchemaVersion", .int 2)] } = .ok envelope ∧
      sampleEnvelopeCheck.Admits sampleHost sampleLibrary samplePolicy
        { sampleBatch with metadata := [("frameSchemaVersion", .int 2)] } ∧
      (validateBatchEnvelope sampleHost sampleLibrary samplePolicy sampleEnvelopeCheck
        (.obj envelope) []).1 ≠ .ok () := by
  have hadmits : sampleEnvelopeCheck.Admits sampleHost sampleLibrary samplePolicy
      { sampleBatch with metadata := [("frameSchemaVersion", .int 2)] } :=
    sampleEnvelopeCheck_admits rfl rfl rfl rfl
  refine ⟨_, rfl, hadmits, ?_⟩
  intro haccepted
  have hframe := (builtEnvelope_accepted [] rfl hadmits).2.mp haccepted
  rcases hframe with hnull | ⟨hvalid, _⟩
  · cases hnull
  · exact absurd hvalid (by decide)

end CaiNetwork.Transport
