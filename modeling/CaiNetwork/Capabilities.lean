/-
CaiNetwork/Capabilities.lean

Capability records of nodes and their exchange between peers (`node_capabilities.py`).

A payload of records is taken over record by record; a record that is not older than the stored
one, by the timestamps the two carry, replaces it.  Verification looks at the payload alone, so a
newer record from anyone takes the place of a verified one, and of the node's own
(`capabilityRuns_overwritten`).  Where records that are not signed by the stored reward wallet, or
name the node itself, come with older timestamps, ownership is kept (`capabilityRuns_guarded`).
-/

import CaiNetwork.Machine
import CaiNetwork.Export
import CaiNetwork.Table

namespace CaiNetwork

open Json (getD)

variable (host : Host) (policy : WalletPolicy)

/-! ### Records -/

/-- `NodeCapabilityRecord`.  `details` are the fields that decide nothing here (names, endpoints,
keys, models, resources). -/
structure NodeCapabilityRecord where
  nodeId : String
  source : String
  sourceUrl : String
  lastSeenAt : String
  updatedAt : String
  workerEnabled : Option Bool
  workerRewardAddress : Json
  details : Fields
  payloadSignatureValid : Option Bool := none
  payloadSignerAddress : Option String := none
  payloadPublicKeyAddress : Option String := none
  workerVerified : Bool := false
  workerVerificationReason : Option String := none

/-- What the records need from the rest of the program. -/
structure CapabilityRules where
  /-- `_parse_iso_datetime`. -/
  parseDatetime : String → Option Int
  /-- `!=` of two dictionaries. -/
  differ : Json → Json → Bool
  /-- The other fields of `_record_from_raw`. -/
  details : Fields → Fields

variable (rules : CapabilityRules)

namespace NodeCapabilityRecord

/-- `asdict(record)` as a value. -/
def asJson (record : NodeCapabilityRecord) : Json :=
  let text := fun t : Option String => t.elim Json.null Json.str
  let flag := fun b : Option Bool => b.elim Json.null Json.bool
  .obj (("node_id", .str record.nodeId) :: ("source", .str record.source) ::
    ("source_url", .str record.sourceUrl) :: ("last_seen_at", .str record.lastSeenAt) ::
    ("updated_at", .str record.updatedAt) :: ("worker_enabled", flag record.workerEnabled) ::
    ("worker_reward_address", record.workerRewardAddress) ::
    ("payload_signature_valid", flag record.payloadSignatureValid) ::
    ("payload_signer_address", text record.payloadSignerAddress) ::
    ("payload_public_key_address", text record.payloadPublicKeyAddress) ::
    ("worker_verified", .bool record.workerVerified) ::
    ("worker_verification_reason", text record.workerVerificationReason) :: record.details)

/-- `str(record.worker_reward_address or "").strip().lower()`. -/
def reward (record : NodeCapabilityRecord) : String :=
  host.lower (strip (host.strOrEmpty record.workerRewardAddress))

end NodeCapabilityRecord

/-- `_record_is_newer`: by the timestamps of the two records, or where one cannot be parsed
always, if the records differ at all. -/
def recordIsNewer (incoming previous : NodeCapabilityRecord) : Bool :=
  match rules.parseDatetime incoming.updatedAt, rules.parseDatetime previous.updatedAt with
  | some t, some t' => decide (t' ≤ t) && rules.differ incoming.asJson previous.asJson
  | _, _ => rules.differ incoming.asJson previous.asJson

/-- The node id of a raw record. -/
def rawNodeId (raw : Fields) : String :=
  strip (host.strOrEmpty ((getD raw "node_id").pyOr (getD raw "nodeId")))

/-- `str(raw.get(key) or raw.get(camel) or default)`. -/
def rawText (raw : Fields) (key camel default : String) : String :=
  host.str (((getD raw key).pyOr (getD raw camel)).pyOr (.str default))

/-- `_raw_optional_bool`. -/
def rawOptionalBool : Json → Option Bool
  | .null => none
  | v => some v.truthy

/-- `_record_from_raw`. -/
def recordFromRaw (source sourceUrl observedAt : String) (raw : Fields) :
    NodeCapabilityRecord where
  nodeId := rawNodeId host raw
  source := source
  sourceUrl := sourceUrl
  lastSeenAt := rawText host raw "last_seen_at" "lastSeenAt" observedAt
  updatedAt := rawText host raw "updated_at" "updatedAt" observedAt
  workerEnabled :=
    rawOptionalBool ((raw.lookup "worker_enabled").getD (getD raw "workerEnabled"))
  workerRewardAddress :=
    (getD raw "worker_reward_address").pyOr (getD raw "workerRewardAddress")
  details := rules.details raw

/-! ### Verification -/

/-- `_payload_signature_context`, of a payload whose signature passed. -/
structure SignatureContext where
  present : Bool
  signerAddress : Option String
  publicKeyAddress : Option String

/-- `text or None`. -/
def textOrNone (s : String) : Option String := if s = "" then none else some s

/-- `str(text or "").strip().lower()`, of a text that may be missing. -/
def normalText (s : Option String) : String := host.lower (strip (s.getD ""))

def payloadSignatureContext (kvs : Fields) : SignatureContext :=
  match getD kvs "signature" with
  | .obj signature =>
    let publicKey := host.lower (fieldText host signature "public_key_address")
    let signer := host.lower (fieldText host signature "signer_address")
    { present := true
      signerAddress := if signer ≠ "" then some signer else textOrNone publicKey
      publicKeyAddress := textOrNone publicKey }
  | _ => ⟨false, none, none⟩

/-- `_worker_verification_status`. -/
def workerVerificationStatus (record : NodeCapabilityRecord) (localSource : Bool) :
    Bool × String :=
  if record.workerEnabled ≠ some true then (false, "worker mode is not enabled")
  else if record.reward host = "" then (false, "worker reward address is missing")
  else if localSource then (true, "local worker state")
  else if record.payloadSignatureValid ≠ some true then
    (false, "node capability payload is unsigned")
  else if normalText host record.payloadSignerAddress = "" then
    (false, "node capability signer address is missing")
  else if normalText host record.payloadSignerAddress ≠ record.reward host then
    (false, "node capability signer does not match worker reward address")
  else if normalText host record.payloadPublicKeyAddress ≠ "" ∧
      normalText host record.payloadPublicKeyAddress ≠ record.reward host then
    (false, "node capability public key does not match worker reward address")
  else (true, "signed worker capability")

/-- `_apply_record_verification_metadata`. -/
def applyVerificationMetadata (context : SignatureContext) (localSource : Bool)
    (record : NodeCapabilityRecord) : NodeCapabilityRecord :=
  let signed := { record with
    payloadSignatureValid := if context.present then some true else none
    payloadSignerAddress := textOrNone (normalText host context.signerAddress)
    payloadPublicKeyAddress := textOrNone (normalText host context.publicKeyAddress) }
  { signed with
    workerVerified := (workerVerificationStatus host signed localSource).1
    workerVerificationReason := some (workerVerificationStatus host signed localSource).2 }

/-! ### Merging -/

/-- The capability file: one record per node id. -/
structure CapabilityStore where
  records : List NodeCapabilityRecord
  distinct : (records.map NodeCapabilityRecord.nodeId).Nodup

namespace CapabilityStore

/-- The record of a node. -/
def find (store : CapabilityStore) (nodeId : String) : Option NodeCapabilityRecord :=
  Table.find NodeCapabilityRecord.nodeId nodeId store.records

end CapabilityStore

/-- `existing[node_id] = record`. -/
def CapabilityStore.put (store : CapabilityStore) (record : NodeCapabilityRecord) :
    CapabilityStore where
  records := Table.upsert NodeCapabilityRecord.nodeId record store.records
  distinct := Table.nodup_upsert store.distinct

/-- `_iter_capability_records`. -/
def iterCapabilityRecords (kvs : Fields) : List Fields :=
  match getD kvs "records" with
  | .arr items => items.filterMap fun item =>
    match item with
    | .obj raw => some raw
    | _ => none
  | _ =>
    match getD kvs "record" with
    | .obj raw => [raw]
    | _ => []

/-- The arguments of a merge beside the payload. -/
structure MergeCall where
  source : String
  sourceUrl : String
  onlyNodeId : String := ""
  now : String

/-- `source == "local_state"`. -/
def MergeCall.isLocal (call : MergeCall) : Bool := call.source = "local_state"

/-- The record that a raw record of the payload stands for. -/
def incomingRecord (call : MergeCall) (kvs raw : Fields) : NodeCapabilityRecord :=
  applyVerificationMetadata host (payloadSignatureContext host kvs) call.isLocal
    (recordFromRaw host rules call.source call.sourceUrl call.now raw)

/-- The loop skips records without an id and, where one node is asked for, those of others. -/
def considers (call : MergeCall) (raw : Fields) : Bool :=
  rawNodeId host raw ≠ "" &&
    (strip call.onlyNodeId = "" || rawNodeId host raw = strip call.onlyNodeId)

/-- One record of the loop. -/
def mergeRecord (call : MergeCall) (kvs : Fields) (store : CapabilityStore)
    (raw : Fields) : CapabilityStore :=
  let record := incomingRecord host rules call kvs raw
  if considers host call raw then
    match store.find (rawNodeId host raw) with
    | some previous => if recordIsNewer rules record previous then store.put record else store
    | none => store.put record
  else store

/-- `merge_remote_node_capabilities_payload`. -/
def mergeNodeCapabilities (call : MergeCall) (kvs : Fields)
    (store : CapabilityStore) : Except PyError CapabilityStore := do
  discard <| validatePeerPayloadNetwork host policy "node capabilities" kvs
  match verifyPeerPayloadSignature host "node capabilities"
      (!call.isLocal && peerPayloadSignaturesRequired host policy) false kvs with
  | some error => .error (.valueError error)
  | none => .ok ((iterCapabilityRecords kvs).foldl (mergeRecord host rules call kvs) store)

/-! ### One merge -/

section Merge

variable {host policy rules} {call : MergeCall} {kvs : Fields}
  {store store' : CapabilityStore} {nodeId : String} {previous : NodeCapabilityRecord}

theorem CapabilityStore.find_put {record : NodeCapabilityRecord} (hne : nodeId ≠ record.nodeId) :
    (store.put record).find nodeId = store.find nodeId := by
  show Table.find _ nodeId (Table.upsert _ record store.records) = _
  rw [Table.find_upsert, if_neg hne]
  rfl

/-- The payload has no record of the node that is not older than the stored one. -/
def BringsOlder (host : Host) (rules : CapabilityRules) (call : MergeCall)
    (kvs : Fields) (previous : NodeCapabilityRecord) : Prop :=
  ∀ raw ∈ iterCapabilityRecords kvs, considers host call raw = true →
    rawNodeId host raw = previous.nodeId →
    ∃ t t', rules.parseDatetime (rawText host raw "updated_at" "updatedAt" call.now) = some t ∧
      rules.parseDatetime previous.updatedAt = some t' ∧ t < t'

theorem recordIsNewer_of_older {incoming : NodeCapabilityRecord} {t t' : Int}
    (ht : rules.parseDatetime incoming.updatedAt = some t)
    (ht' : rules.parseDatetime previous.updatedAt = some t') (hlt : t < t') :
    recordIsNewer rules incoming previous = false := by
  have hnot : ¬ t' ≤ t := not_le.mpr hlt
  rw [recordIsNewer, ht, ht']
  simp [hnot]

/-- An older record changes nothing, and a record of another node nothing about this one. -/
theorem mergeRecord_find {raw : Fields} (hfind : store.find nodeId = some previous)
    (holder : considers host call raw = true → rawNodeId host raw = previous.nodeId →
      ∃ t t', rules.parseDatetime (rawText host raw "updated_at" "updatedAt" call.now) = some t ∧
        rules.parseDatetime previous.updatedAt = some t' ∧ t < t') :
    (mergeRecord host rules call kvs store raw).find nodeId = some previous := by
  have hid : previous.nodeId = nodeId := Table.key_of_find hfind
  unfold mergeRecord
  by_cases hconsiders : considers host call raw = true
  · rw [if_pos hconsiders]
    by_cases hraw : rawNodeId host raw = nodeId
    · -- the stored record stays, since the incoming one is older
      obtain ⟨t, t', ht, ht', hlt⟩ := holder hconsiders (hraw.trans hid.symm)
      have hnewer : recordIsNewer rules (incomingRecord host rules call kvs raw) previous = false :=
        recordIsNewer_of_older ht ht' hlt
      rw [hraw, hfind]
      show (if recordIsNewer rules (incomingRecord host rules call kvs raw) previous = true then _
        else store).find nodeId = _
      rw [hnewer, if_neg Bool.false_ne_true, hfind]
    · have hne : nodeId ≠ (incomingRecord host rules call kvs raw).nodeId := by
        unfold incomingRecord
        exact Ne.symm hraw
      have hother : (store.put (incomingRecord host rules call kvs raw)).find nodeId =
          some previous := by
        rw [CapabilityStore.find_put hne, hfind]
      split
      · split
        · exact hother
        · exact hfind
      · exact hother
  · rw [if_neg hconsiders, hfind]

/-- **A payload with nothing but older records of a node leaves its record.** -/
theorem mergeNodeCapabilities_find (h : mergeNodeCapabilities host policy rules call kvs store =
    .ok store') (hfind : store.find nodeId = some previous)
    (holder : BringsOlder host rules call kvs previous) : store'.find nodeId = some previous := by
  unfold mergeNodeCapabilities at h
  obtain ⟨-, -, h⟩ := bind_eq_ok.mp h
  split at h
  · cases h
  · cases h
    -- the loop keeps the record, whatever it does to the others
    exact List.foldlRecOn (motive := fun s : CapabilityStore => s.find nodeId = some previous) _ _
      hfind fun s hs raw hraw => mergeRecord_find hs (holder raw hraw)

end Merge

/-! ### Runs -/

/-- What changes the capability file: payloads of peers, and refreshes from the node's own state. -/
inductive CapabilityOp
  | payload (sourceUrl onlyNodeId now : String) (kvs : Fields)
  | refresh (caiUrl now : String) (kvs : Fields)

namespace CapabilityOp

def call : CapabilityOp → MergeCall
  | payload sourceUrl onlyNodeId now _ => ⟨"peer", sourceUrl, onlyNodeId, now⟩
  | refresh caiUrl now _ => ⟨"local_state", caiUrl, "", now⟩

def kvs : CapabilityOp → Fields
  | payload _ _ _ kvs => kvs
  | refresh _ _ kvs => kvs

/-- One operation; an exception leaves the file as it was. -/
def step (op : CapabilityOp) (store : CapabilityStore) : CapabilityStore :=
  match mergeNodeCapabilities host policy rules op.call op.kvs store with
  | .ok store' => store'
  | .error _ => store

end CapabilityOp

/-- The payload carries a signature that verifies under keys of the address. -/
def PayloadSignedBy (kvs : Fields) (address : String) : Prop :=
  ∃ signature, getD kvs "signature" = .obj signature ∧
    SignerAddress host kvs signature address

/-- A verified worker whose reward wallet did not sign the payload. -/
def ForeignWorker (kvs : Fields) (record : NodeCapabilityRecord) : Prop :=
  record.workerVerified = true ∧ ¬ PayloadSignedBy host kvs (record.reward host)

/-- The record a node keeps about itself. -/
def OwnRecord (localNodeId : String) (record : NodeCapabilityRecord) : Prop :=
  record.nodeId = localNodeId ∧ record.source = "local_state"

/-- What a step may do to the records that are not the sender's: a payload leaves the reward
address and the verification of a foreign worker, and the whole record of the node itself. -/
def KeepsOwnership (localNodeId : String) :
    CapabilityOp → CapabilityStore → CapabilityStore → Prop
  | .payload _ _ _ kvs, before, after => ∀ nodeId record, before.find nodeId = some record →
      (ForeignWorker host kvs record → ∃ record', after.find nodeId = some record' ∧
        record'.workerRewardAddress = record.workerRewardAddress ∧
        record'.workerVerified = record.workerVerified) ∧
      (OwnRecord localNodeId record → after.find nodeId = some record)
  | .refresh _ _ _, _, _ => True

/-- The records of a payload that name a foreign worker or the node itself are older than what is
stored. -/
def OlderRecords (localNodeId : String) : CapabilityOp → CapabilityStore → Prop
  | .payload sourceUrl onlyNodeId now kvs, store => ∀ nodeId record,
      store.find nodeId = some record →
      ForeignWorker host kvs record ∨ OwnRecord localNodeId record →
      BringsOlder host rules (CapabilityOp.payload sourceUrl onlyNodeId now kvs).call kvs record
  | .refresh _ _ _, _ => True

variable {host policy rules}

theorem step_keepsOwnership {localNodeId : String} {op : CapabilityOp} {store : CapabilityStore}
    (h : OlderRecords host rules localNodeId op store) :
    KeepsOwnership host localNodeId op store (op.step host policy rules store) := by
  cases op with
  | refresh caiUrl now kvs => exact trivial
  | payload sourceUrl onlyNodeId now kvs =>
    intro nodeId record hfind
    have hkept : ForeignWorker host kvs record ∨ OwnRecord localNodeId record →
        ((CapabilityOp.payload sourceUrl onlyNodeId now kvs).step host policy rules store).find
          nodeId = some record := by
      intro hprotected
      unfold CapabilityOp.step
      split
      · rename_i store' hmerge
        exact mergeNodeCapabilities_find hmerge hfind (h nodeId record hfind hprotected)
      · exact hfind
    constructor
    · intro hforeign
      exact ⟨record, hkept (.inl hforeign), rfl, rfl⟩
    · intro hown
      exact hkept (.inr hown)

/-- **Ownership of capability records.**  In every run of payloads and refreshes in which records
about others come with older timestamps than the stored ones, no payload changes the reward address
or the verification of a worker whose wallet did not sign it, or the node's own record. -/
theorem capabilityRuns_guarded {localNodeId : String} {ops : List CapabilityOp}
    {store : CapabilityStore} (h : Machine.Meets (CapabilityOp.step host policy rules)
      (OlderRecords host rules localNodeId) ops store) :
    Machine.EachStep (CapabilityOp.step host policy rules)
      (KeepsOwnership host localNodeId) ops store := by
  have hinv : ∀ (o : CapabilityOp) (s : CapabilityStore), True →
      OlderRecords host rules localNodeId o s → True := fun _ _ _ _ => trivial
  apply Machine.eachStep_of_invariant hinv _ h trivial
  intro op s _ hcond
  exact step_keepsOwnership hcond

/-! A node `"n"` with its own record and that of a verified worker, `"w"`, paid to `"a1"`, and
payloads that nobody signed. -/

def sampleCapabilityRules : CapabilityRules where
  parseDatetime s := List.lookup s [("2026-01-01T00:00:00+00:00", 1767225600),
    ("2026-01-02T00:00:00+00:00", 1767312000), ("2026-01-03T00:00:00+00:00", 1767398400)]
  differ a b := Json.canonical a ≠ Json.canonical b
  details _ := []

def sampleWorker : NodeCapabilityRecord where
  nodeId := "w"
  source := "peer"
  sourceUrl := ""
  lastSeenAt := "2026-01-02T00:00:00+00:00"
  updatedAt := "2026-01-02T00:00:00+00:00"
  workerEnabled := some true
  workerRewardAddress := .str "a1"
  details := []
  payloadSignatureValid := some true
  payloadSignerAddress := some "a1"
  workerVerified := true

def sampleCapabilities : CapabilityStore where
  records := [sampleWorker, { sampleWorker with nodeId := "n", source := "local_state" }]
  distinct := by decide

/-- A record that is paid to `"b2"`. -/
def sampleRawWorker (nodeId updatedAt : String) : Fields :=
  [("node_id", .str nodeId), ("worker_enabled", .bool true), ("worker_reward_address", .str "b2"),
    ("updated_at", .str updatedAt)]

def sampleCapabilityPayload (nodeId updatedAt : String) : Fields :=
  addPeerPayloadMetadata sampleHost samplePolicy
    [("records", .arr [.obj (sampleRawWorker nodeId updatedAt)])]

/-- Nobody signed the payload, and the policy does not ask for it: its record is merged. -/
theorem sampleCapabilities_step {op : CapabilityOp} {store : CapabilityStore}
    {nodeId updatedAt : String} (hkvs : op.kvs = sampleCapabilityPayload nodeId updatedAt) :
    op.step sampleHost samplePolicy sampleCapabilityRules store =
      mergeRecord sampleHost sampleCapabilityRules op.call
        (sampleCapabilityPayload nodeId updatedAt) store (sampleRawWorker nodeId updatedAt) := by
  have hnetwork : validatePeerPayloadNetwork sampleHost samplePolicy "node capabilities"
      (sampleCapabilityPayload nodeId updatedAt) = .ok samplePolicy.chainNetwork.value := by
    apply validatePeerPayloadNetwork_added
    simp [List.lookup_cons]
  have hrequired : peerPayloadSignaturesRequired sampleHost samplePolicy = false := by decide
  have hsignature : getD (sampleCapabilityPayload nodeId updatedAt) "signature" = .null := rfl
  have hrecords : iterCapabilityRecords (sampleCapabilityPayload nodeId updatedAt) =
      [sampleRawWorker nodeId updatedAt] := rfl
  generalize sampleCapabilityPayload nodeId updatedAt = kvs at *
  simp only [CapabilityOp.step, hkvs, mergeNodeCapabilities, verifyPeerPayloadSignature, hnetwork,
    hsignature, hrequired, hrecords, Bool.and_false, List.foldl_cons, List.foldl_nil]
  generalize mergeRecord _ _ _ _ _ _ = merged
  rfl

def samplePayloadOp (nodeId updatedAt : String) : CapabilityOp :=
  .payload "" "" "" (sampleCapabilityPayload nodeId updatedAt)

theorem capabilityRuns_overwritten :
    ¬ Machine.EachStep (CapabilityOp.step sampleHost samplePolicy sampleCapabilityRules)
      (KeepsOwnership sampleHost "n") [samplePayloadOp "w" "2026-01-03T00:00:00+00:00"]
      sampleCapabilities := by
  rintro ⟨h, -⟩
  have hforeign : ForeignWorker sampleHost
      (sampleCapabilityPayload "w" "2026-01-03T00:00:00+00:00") sampleWorker := by
    refine ⟨rfl, ?_⟩
    rintro ⟨signature, hsignature, -⟩
    cases hsignature
  obtain ⟨record, hfind, hreward, -⟩ := (h "w" sampleWorker rfl).1 hforeign
  rw [sampleCapabilities_step rfl] at hfind
  cases hfind
  exact absurd (Json.str.inj hreward) (by decide)

/-- An old record of the worker, a refresh of the node's own record and a payload that is older
than it. -/
theorem capabilityRuns_guarded_older :
    Machine.EachStep (CapabilityOp.step sampleHost samplePolicy sampleCapabilityRules)
      (KeepsOwnership sampleHost "n") [samplePayloadOp "w" "2026-01-01T00:00:00+00:00",
        .refresh "" "" (sampleCapabilityPayload "n" "2026-01-03T00:00:00+00:00"),
        samplePayloadOp "n" "2026-01-02T00:00:00+00:00"] sampleCapabilities := by
  apply capabilityRuns_guarded
  refine ⟨?_, trivial, ?_, trivial⟩
  · intro nodeId record hfind _ raw hraw _ hid
    cases List.mem_singleton.mp hraw
    rcases List.mem_pair.mp (Table.mem_of_find hfind) with rfl | rfl
    · exact ⟨1767225600, 1767312000, rfl, rfl, by decide⟩
    · exact absurd hid (by decide)
  · intro nodeId record hfind _ raw hraw _ hid
    cases List.mem_singleton.mp hraw
    rw [sampleCapabilities_step rfl, sampleCapabilities_step rfl] at hfind
    have hmem : record ∈ [sampleWorker, incomingRecord sampleHost sampleCapabilityRules
        ⟨"local_state", "", "", ""⟩ (sampleCapabilityPayload "n" "2026-01-03T00:00:00+00:00")
        (sampleRawWorker "n" "2026-01-03T00:00:00+00:00")] := Table.mem_of_find hfind
    rcases List.mem_pair.mp hmem with rfl | rfl
    · exact absurd hid (by decide)
    · exact ⟨1767312000, 1767398400, rfl, rfl, by decide⟩

end CaiNetwork
