/-
CaiNetwork/Registry/Remote.lean

How the registry file changes (`sync_validator_record`, `merge_remote_validator_set_payload`,
`apply_remote_validator_penalty_to_registry` in `validators.py`).

What the three can do to the file is said once, as one kind of step (`RemoteStep`): a lease is
merged into a record, a record that is not local is replaced or added, or records of peers are
dropped.  A merge and a penalty are sequences of such steps (`mergeRemoteValidatorSet_steps`,
`applyRemotePenalty_steps`).
-/

import Mathlib.Logic.Relation
import CaiNetwork.Registry
import CaiNetwork.PeerPayload
import CaiNetwork.Table

namespace CaiNetwork

open Json (getD)

/-! ### Records -/

/-- `ValidatorRecord` with all its fields.  The bond is a natural number: every write stores
`max(0, ...)`. -/
structure RegistryRecord where
  validatorId : String
  walletId : Json
  address : String
  state : ValidatorLifecycleState
  bondedAtomic : Nat
  staticIpConfirmed : Bool
  currentNodeId : Json
  advertisedApiHost : Json
  advertisedDataHost : Json
  activatedAt : Json
  haEnabled : Json
  activeReplicaNodeId : Json
  activeReplicaLeaseUntil : Json
  replicaNodeIds : List String
  unbondingStartedAt : Json
  unbondingAvailableAt : Json
  jailedAt : Json
  unjailAvailableAt : Json
  lastSlashAtomic : Int
  totalSlashedAtomic : Int
  source : String
  sourceUrl : Json
  lastSeenAt : Json
  updatedAt : Json

/-- The records of the registry file. -/
abbrev RegistryFile := List RegistryRecord

/-- A lifecycle state by its text. -/
def ValidatorLifecycleState.ofText : String → ValidatorLifecycleState
  | "bonded" => .bonded
  | "unbonding" => .unbonding
  | "jailed" => .jailed
  | "unbonded" => .unbonded
  | name => .other name

/-- What the chain and the committees read of a record. -/
def RegistryRecord.summary (record : RegistryRecord) : ValidatorRecord where
  validatorId := record.validatorId
  walletId := match record.walletId with
    | .str id => some id
    | _ => none
  address := record.address
  state := record.state
  bondedAtomic := record.bondedAtomic

/-- `list_validator_records`, with all fields. -/
def listRegistry (file : RegistryFile) : RegistryFile :=
  file.insertionSort fun a b => recordLe a.summary b.summary

/-- `get_validator_record`. -/
def getRegistryRecord (validatorId : String) (file : RegistryFile) :
    Option RegistryRecord :=
  Table.find RegistryRecord.validatorId validatorId (listRegistry file)

/-! ### Times -/

/-- A `datetime`, with or without a time zone. -/
structure PyDatetime where
  aware : Bool
  micros : Int
deriving DecidableEq

/-- `a < b`: a time with a zone and one without cannot be compared. -/
def PyDatetime.before (a b : PyDatetime) : Except PyError Bool :=
  if a.aware = b.aware then .ok (a.micros < b.micros) else .error .typeError

/-- What the registry needs from the rest of the program. -/
structure RegistryRules where
  /-- `datetime.fromisoformat`. -/
  fromIso : String → Option PyDatetime
  /-- `resolve_validator_peer_url`. -/
  resolvePeerUrl : Json → Json → Except PyError (Option String)

variable (host : Host) (policy : WalletPolicy) (rules : RegistryRules)

/-- `_parse_iso_datetime`. -/
def parseIsoDatetime (v : Json) : Except PyError (Option PyDatetime) :=
  match v with
  | .str s => .ok (if s = "" then none else rules.fromIso s)
  | v => if v.truthy then .error .typeError else .ok none

/-! ### Writing a record -/

/-- One group of `_merged_replica_node_ids`. -/
def replicaGroup : Json → Except PyError (List Json)
  | .null => .ok []
  | .str s => .ok [.str s]
  | .arr values => .ok values
  | .obj kvs => .ok (kvs.map fun e => .str e.1)
  | _ => .error .typeError

/-- `_merged_replica_node_ids`. -/
def mergedReplicaNodeIds (groups : List Json) : Except PyError (List String) := do
  let values ← groups.mapM replicaGroup
  return ((values.flatten.map fun v => strip (host.strOrEmpty v)).filter (· ≠ "")).eraseDups

/-- The arguments of `sync_validator_record`, with its defaults. -/
structure SyncArgs where
  validatorId : String
  walletId : Json
  address : String
  state : ValidatorLifecycleState
  bondedAtomic : Int
  staticIpConfirmed : Bool
  currentNodeId : Json := .null
  advertisedApiHost : Json := .null
  advertisedDataHost : Json := .null
  haEnabled : Json := .null
  haRole : String := "standalone"
  activeReplicaNodeId : Json := .null
  activeReplicaLeaseUntil : Json := .null
  replicaNodeIds : List String := []
  unbondingStartedAt : Json := .null
  unbondingAvailableAt : Json := .null
  jailedAt : Json := .null
  unjailAvailableAt : Json := .null
  lastSlashAtomic : Int := 0
  totalSlashedAtomic : Int := 0
  source : String := "local"
  sourceUrl : Json := .null
  lastSeenAt : Json := .null
  updatedAt : Json := .null

/-- `value if value is not None else default`. -/
def orElseNone (value default : Json) : Json :=
  match value with
  | .null => default
  | v => v

/-- A field of the previous record, or `None`. -/
def previousField (previous : Option RegistryRecord) (field : RegistryRecord → Json) : Json :=
  (previous.map field).getD .null

/-- `record_ha_enabled`. -/
def syncedHaEnabled (previous : Option RegistryRecord) (args : SyncArgs) : Bool :=
  (orElseNone args.haEnabled (previousField previous RegistryRecord.haEnabled)).truthy

/-- The replica ids, for a record in high availability. -/
def syncedReplicaNodeIds (previous : Option RegistryRecord) (args : SyncArgs) :
    Except PyError (List String) :=
  if syncedHaEnabled previous args then
    mergedReplicaNodeIds host
      [.arr (((previous.map RegistryRecord.replicaNodeIds).getD []).map .str),
        .arr (args.replicaNodeIds.map .str), args.currentNodeId,
        previousField previous RegistryRecord.currentNodeId]
  else .ok []

/-- A field that a passive replica leaves as it was. -/
def syncedReplicaField (previous : Option RegistryRecord) (args : SyncArgs)
    (value : Json) (field : RegistryRecord → Json) : Json :=
  if host.lower (strip args.haRole) = "passive" ∧ previous.isSome then previousField previous field
  else orElseNone value (previousField previous field)

/-- The record that `sync_validator_record` writes. -/
def syncedRecord (now : String) (previous : Option RegistryRecord) (args : SyncArgs) :
    Except PyError RegistryRecord := do
  let replicaNodeIds ← syncedReplicaNodeIds host previous args
  let ha := syncedHaEnabled previous args
  let activatedAt := previousField previous RegistryRecord.activatedAt
  return {
    validatorId := args.validatorId
    walletId := args.walletId
    address := args.address
    state := args.state
    bondedAtomic := args.bondedAtomic.toNat
    staticIpConfirmed := args.staticIpConfirmed
    currentNodeId :=
      if ha then syncedReplicaField host previous args args.currentNodeId
        RegistryRecord.currentNodeId
      else orElseNone args.currentNodeId (previousField previous RegistryRecord.currentNodeId)
    advertisedApiHost := orElseNone args.advertisedApiHost
      (previousField previous RegistryRecord.advertisedApiHost)
    advertisedDataHost := orElseNone args.advertisedDataHost
      (previousField previous RegistryRecord.advertisedDataHost)
    activatedAt := if args.state = .bonded then orElseNone activatedAt (.str now) else activatedAt
    haEnabled := .bool ha
    activeReplicaNodeId :=
      if ha then syncedReplicaField host previous args args.activeReplicaNodeId
        RegistryRecord.activeReplicaNodeId
      else .null
    activeReplicaLeaseUntil :=
      if ha then syncedReplicaField host previous args args.activeReplicaLeaseUntil
        RegistryRecord.activeReplicaLeaseUntil
      else .null
    replicaNodeIds := replicaNodeIds
    unbondingStartedAt := args.unbondingStartedAt
    unbondingAvailableAt := args.unbondingAvailableAt
    jailedAt := args.jailedAt
    unjailAvailableAt := args.unjailAvailableAt
    lastSlashAtomic := max 0 args.lastSlashAtomic
    totalSlashedAtomic :=
      max args.totalSlashedAtomic ((previous.map RegistryRecord.totalSlashedAtomic).getD 0)
    source := args.source
    sourceUrl := args.sourceUrl
    lastSeenAt := args.lastSeenAt.pyOr (.str now)
    updatedAt := args.updatedAt.pyOr (.str now) }

/-- `sync_validator_record`. -/
def syncRegistryRecord (now : String) (args : SyncArgs) (file : RegistryFile) :
    Except PyError RegistryFile := do
  let record ← syncedRecord host now (getRegistryRecord args.validatorId file) args
  return Table.upsert RegistryRecord.validatorId record (listRegistry file)

/-! ### Merging a payload -/

/-- `str(raw.get("validator_id") or "").strip().lower()`. -/
def rawValidatorId (raw : Fields) : String :=
  host.lower (fieldText host raw "validator_id")

/-- One of `payload["validators"]`, under the names of a record. -/
def validatorAsRecord : Json → Except PyError (Option Json)
  | .obj raw =>
    let validatorId := host.lower (strip (host.strOrEmpty
      ((getD raw "validatorId").pyOr (getD raw "address"))))
    let address := host.lower (strip (host.str
      ((getD raw "address").pyOr (.str validatorId))))
    if validatorId = "" then .ok none
    else .ok (some (.obj [("validator_id", .str validatorId),
      ("wallet_id", getD raw "walletId"), ("address", .str address),
      ("state", getD raw "state"), ("source_url", getD raw "sourceUrl"),
      ("bonded_atomic", getD raw "bondedAtomic"),
      ("static_ip_confirmed", getD raw "staticIpConfirmed"),
      ("current_node_id", getD raw "nodeId"), ("advertised_api_host", getD raw "apiHost"),
      ("advertised_data_host", getD raw "dataHost"), ("ha_enabled", getD raw "haEnabled"),
      ("active_replica_node_id", getD raw "activeReplicaNodeId"),
      ("active_replica_lease_until", getD raw "activeReplicaLeaseUntil"),
      ("replica_node_ids", (getD raw "replicaNodeIds").pyOr (.arr [])),
      ("activated_at", getD raw "activatedAt"),
      ("unbonding_started_at", getD raw "unbondingStartedAt"),
      ("unbonding_available_at", getD raw "unbondingAvailableAt"),
      ("jailed_at", getD raw "jailedAt"),
      ("unjail_available_at", getD raw "unjailAvailableAt"),
      ("last_slash_atomic", getD raw "lastSlashAtomic"),
      ("total_slashed_atomic", getD raw "totalSlashedAtomic"),
      ("updated_at", getD raw "updatedAt")]))
  | _ => .error .attributeError

/-- `_iter_remote_validator_records`. -/
def iterRemoteValidatorRecords (kvs : Fields) : Except PyError (List Json) :=
  if (getD kvs "records").truthy then (getD kvs "records").listOrEmpty
  else do
    let items ← (getD kvs "validators").listOrEmpty
    let records ← items.mapM (validatorAsRecord host)
    return records.filterMap id

/-- `resolved_record_source_url`. -/
def recordSourceUrl (sourceUrl : String) (raw : Fields) : Except PyError String := do
  let declared := strip (host.str ((getD raw "source_url").pyOr (.str sourceUrl)))
  let resolved ← rules.resolvePeerUrl (if declared = "" then .null else .str declared)
    (getD raw "advertised_api_host")
  return if resolved.getD "" = "" then sourceUrl else resolved.getD ""

/-- `max(0, int(raw.get(key) or 0))`. -/
def rawAmount (raw : Fields) (key : String) : Except PyError Nat := do
  let amount ← host.int ((getD raw key).pyOr (.int 0))
  return amount.toNat

/-- The record that a raw record of the payload stands for. -/
def incomingValidator (now sourceUrl : String) (raw : Fields) :
    Except PyError RegistryRecord := do
  let url ← recordSourceUrl host rules sourceUrl raw
  let bonded ← rawAmount host raw "bonded_atomic"
  let replicaNodeIds ← mergedReplicaNodeIds host [getD raw "replica_node_ids"]
  let lastSlash ← rawAmount host raw "last_slash_atomic"
  let totalSlashed ← rawAmount host raw "total_slashed_atomic"
  return {
    validatorId := rawValidatorId host raw
    walletId := getD raw "wallet_id"
    address := host.lower (strip (host.str
      ((getD raw "address").pyOr (.str (rawValidatorId host raw)))))
    state := .ofText (host.str ((getD raw "state").pyOr (.str "unbonded")))
    bondedAtomic := bonded
    staticIpConfirmed := (getD raw "static_ip_confirmed").truthy
    currentNodeId := getD raw "current_node_id"
    advertisedApiHost := getD raw "advertised_api_host"
    advertisedDataHost := getD raw "advertised_data_host"
    activatedAt := getD raw "activated_at"
    haEnabled := getD raw "ha_enabled"
    activeReplicaNodeId := getD raw "active_replica_node_id"
    activeReplicaLeaseUntil := getD raw "active_replica_lease_until"
    replicaNodeIds := replicaNodeIds
    unbondingStartedAt := getD raw "unbonding_started_at"
    unbondingAvailableAt := getD raw "unbonding_available_at"
    jailedAt := getD raw "jailed_at"
    unjailAvailableAt := getD raw "unjail_available_at"
    lastSlashAtomic := lastSlash
    totalSlashedAtomic := totalSlashed
    source := "peer"
    sourceUrl := .str url
    lastSeenAt := .str now
    updatedAt := getD raw "updated_at" }

/-- `severity.get(state, -1)`. -/
def ValidatorLifecycleState.severity : ValidatorLifecycleState → Int
  | .jailed => 3
  | .unbonding => 2
  | .bonded => 1
  | .unbonded => 0
  | .other _ => -1

/-- `_should_replace_record`. -/
def shouldReplaceRecord (existing incoming : RegistryRecord) : Except PyError Bool := do
  if existing.source = "local" ∧ incoming.source ≠ "local" then return false
  if incoming.source = "local" ∧ existing.source ≠ "local" then return true
  let graver := decide (existing.totalSlashedAtomic < incoming.totalSlashedAtomic) ||
    decide (existing.state.severity ≤ incoming.state.severity)
  match ← parseIsoDatetime rules existing.updatedAt,
    ← parseIsoDatetime rules incoming.updatedAt with
  | some old, some new =>
    if ← old.before new then return true
    if ← new.before old then return false
    return graver
  | _, _ => return graver

/-- `_should_merge_remote_ha_lease`. -/
def shouldMergeRemoteHaLease (existing incoming : RegistryRecord) : Except PyError Bool := do
  if incoming.source = "local" ∨ incoming.haEnabled.truthy = false then return false
  if incoming.state ≠ .bonded then return false
  if incoming.activeReplicaNodeId.truthy = false ∨
      incoming.activeReplicaLeaseUntil.truthy = false then return false
  if existing.haEnabled.truthy = false ∧ existing.source = "local" then return false
  match ← parseIsoDatetime rules incoming.activeReplicaLeaseUntil with
  | none => return false
  | some lease =>
    match ← parseIsoDatetime rules existing.activeReplicaLeaseUntil with
    | none => return true
    | some held =>
      let earlier ← lease.before held
      return !earlier

/-- The call that merges a lease: the fields of the record, with the lease of the other. -/
def leaseArgs (now : String) (existing incoming : RegistryRecord) : Except PyError SyncArgs := do
  let replicaNodeIds ← mergedReplicaNodeIds host [.arr (existing.replicaNodeIds.map .str),
    .arr (incoming.replicaNodeIds.map .str), incoming.currentNodeId]
  return {
    validatorId := existing.validatorId
    walletId := existing.walletId
    address := existing.address
    state := existing.state
    bondedAtomic := existing.bondedAtomic
    staticIpConfirmed := existing.staticIpConfirmed
    currentNodeId := incoming.currentNodeId
    advertisedApiHost := incoming.advertisedApiHost
    advertisedDataHost := incoming.advertisedDataHost
    haEnabled := .bool true
    activeReplicaNodeId := incoming.activeReplicaNodeId
    activeReplicaLeaseUntil := incoming.activeReplicaLeaseUntil
    replicaNodeIds := replicaNodeIds
    unbondingStartedAt := existing.unbondingStartedAt
    unbondingAvailableAt := existing.unbondingAvailableAt
    jailedAt := existing.jailedAt
    unjailAvailableAt := existing.unjailAvailableAt
    lastSlashAtomic := existing.lastSlashAtomic
    totalSlashedAtomic := existing.totalSlashedAtomic
    source := existing.source
    sourceUrl := existing.sourceUrl
    lastSeenAt := existing.lastSeenAt
    updatedAt := incoming.updatedAt.pyOr (.str now) }

/-- The call that takes the incoming record over. -/
def adoptArgs (incoming : RegistryRecord) : SyncArgs where
  validatorId := incoming.validatorId
  walletId := incoming.walletId
  address := incoming.address
  state := incoming.state
  bondedAtomic := incoming.bondedAtomic
  staticIpConfirmed := incoming.staticIpConfirmed
  currentNodeId := incoming.currentNodeId
  advertisedApiHost := incoming.advertisedApiHost
  advertisedDataHost := incoming.advertisedDataHost
  haEnabled := incoming.haEnabled
  activeReplicaNodeId := incoming.activeReplicaNodeId
  activeReplicaLeaseUntil := incoming.activeReplicaLeaseUntil
  replicaNodeIds := incoming.replicaNodeIds
  unbondingStartedAt := incoming.unbondingStartedAt
  unbondingAvailableAt := incoming.unbondingAvailableAt
  jailedAt := incoming.jailedAt
  unjailAvailableAt := incoming.unjailAvailableAt
  lastSlashAtomic := incoming.lastSlashAtomic
  totalSlashedAtomic := incoming.totalSlashedAtomic
  source := incoming.source
  sourceUrl := incoming.sourceUrl
  lastSeenAt := incoming.lastSeenAt
  updatedAt := incoming.updatedAt

/-- What the loop does with an incoming record: the call of `sync_validator_record`, if any. -/
def mergeDecision (now : String) (existing : Option RegistryRecord) (incoming : RegistryRecord) :
    Except PyError (Option SyncArgs) :=
  match existing with
  | none => .ok (some (adoptArgs incoming))
  | some existing => do
    if ← shouldMergeRemoteHaLease rules existing incoming then
      let args ← leaseArgs host now existing incoming
      return some args
    else if ← shouldReplaceRecord rules existing incoming then return some (adoptArgs incoming)
    else return none

/-- One turn of the loop. -/
def mergeRawValidator (now sourceUrl : String) (raw : Json) (file : RegistryFile) :
    Except PyError RegistryFile :=
  match raw with
  | .obj raw =>
    if rawValidatorId host raw = "" then .ok file
    else do
      let incoming ← incomingValidator host rules now sourceUrl raw
      match ← mergeDecision host rules now (getRegistryRecord incoming.validatorId file)
          incoming with
      | some args => syncRegistryRecord host now args file
      | none => return file
  | _ => .error .attributeError

/-- The loop: an exception leaves what was written before it. -/
def mergeValidators (now sourceUrl : String) :
    List Json → RegistryFile → Except PyError Unit × RegistryFile
  | [], file => (.ok (), file)
  | raw :: raws, file =>
    match mergeRawValidator host rules now sourceUrl raw file with
    | .ok file' => mergeValidators now sourceUrl raws file'
    | .error e => (.error e, file)

/-- `_payload_signature_addresses`. -/
def payloadSignatureAddresses (kvs : Fields) : List String :=
  match getD kvs "signature" with
  | .obj signature =>
    [host.lower (fieldText host signature "signer_address"),
      host.lower (fieldText host signature "public_key_address")].filter (· ≠ "")
  | _ => []

/-- A bonded record of one of the signers. -/
def isAuthoritative (signers : List String) (raw : Fields) : Except PyError Bool := do
  let bonded ← tryInt host ((getD raw "bonded_atomic").pyOr (.int 0))
  let addresses := [rawValidatorId host raw, host.lower (fieldText host raw "address")]
  return host.lower (fieldText host raw "state") = "bonded" ∧ 0 < bonded.getD 0 ∧
    ∃ a ∈ addresses, a ≠ "" ∧ a ∈ signers

/-- The loop of `_authoritative_payload_validator_node_ids`. -/
def signersNodeIds (signers : List String) : List Json → Except PyError (List String)
  | [] => .ok []
  | .obj raw :: raws => do
    let authoritative ← isAuthoritative host signers raw
    let rest ← signersNodeIds signers raws
    let nodeId := fieldText host raw "current_node_id"
    return if authoritative ∧ nodeId ≠ "" then nodeId :: rest else rest
  | _ :: _ => .error .attributeError

/-- `_authoritative_payload_validator_node_ids`. -/
def authoritativeNodeIds (kvs : Fields) (raws : List Json) :
    Except PyError (List String) :=
  if payloadSignatureAddresses host kvs = [] then .ok []
  else signersNodeIds host (payloadSignatureAddresses host kvs) raws

/-- The loop of `_authoritative_payload_validator_sources`, as pairs of a url and a validator. -/
def signersSources (sourceUrl : String) (signers : List String) :
    List Json → Except PyError (List (String × String))
  | [] => .ok []
  | .obj raw :: raws => do
    let authoritative ← isAuthoritative host signers raw
    let rest ← signersSources sourceUrl signers raws
    if authoritative ∧ rawValidatorId host raw ≠ "" then
      let url ← recordSourceUrl host rules sourceUrl raw
      return (url, rawValidatorId host raw) :: rest
    else return rest
  | _ :: _ => .error .attributeError

/-- `_authoritative_payload_validator_sources`. -/
def authoritativeSources (sourceUrl : String) (kvs : Fields) (raws : List Json) :
    Except PyError (List (String × String)) :=
  if payloadSignatureAddresses host kvs = [] then .ok []
  else signersSources host rules sourceUrl (payloadSignatureAddresses host kvs) raws

/-- A save that only happens when records were dropped. -/
def dropRecords (dropped : RegistryRecord → Bool) (file : RegistryFile) :
    RegistryFile :=
  let pruned := (listRegistry file).filter fun record => !dropped record
  if pruned.length ≠ file.length then pruned else file

/-- `_prune_peer_validator_records_for_authoritative_nodes`. -/
def pruneForNodes (nodeIds validatorIds : List String) (file : RegistryFile) :
    RegistryFile :=
  if nodeIds = [] ∨ validatorIds = [] then file
  else dropRecords (fun record => record.source = "peer" ∧ record.validatorId ∉ validatorIds ∧
    strip (host.strOrEmpty record.currentNodeId) ∈ nodeIds) file

/-- The url of a record's own source, where it can be resolved. -/
def resolvedSource (record : RegistryRecord) : Except PyError (Option String) :=
  if record.source = "peer" then rules.resolvePeerUrl record.sourceUrl record.advertisedApiHost
  else .ok none

/-- A record of a peer from a source of the signers, that the source does not name. -/
def isDisowned (sources : List (String × String)) (record : RegistryRecord) : Bool :=
  match resolvedSource rules record with
  | .ok (some url) =>
    url ≠ "" ∧ url ∈ sources.map Prod.fst ∧ (url, record.validatorId) ∉ sources
  | _ => false

/-- `_prune_peer_validator_records_for_authoritative_sources`. -/
def pruneForSources (sources : List (String × String)) (file : RegistryFile) :
    Except PyError RegistryFile := do
  if sources = [] then return file
  discard <| (listRegistry file).mapM (resolvedSource rules)
  return dropRecords (fun record => record.source = "peer" && isDisowned rules sources record) file

/-- What a payload passes before the first record is read. -/
def checkValidatorSetPayload (kvs : Fields) : Except PyError Unit := do
  discard <| validatePeerPayloadNetwork host policy "validator set" kvs
  match verifyPeerPayloadSignature host "validator set" (peerPayloadSignaturesRequired host policy)
      policy.requireHybridPeerPayloadSignatures kvs with
  | some error => throw (.valueError error)
  | none => return

/-- The records of a payload and what its signers speak for. -/
def readValidatorSet (sourceUrl : String) (kvs : Fields) :
    Except PyError (List Json × List String × List (String × String)) := do
  checkValidatorSetPayload host policy kvs
  let raws ← iterRemoteValidatorRecords host kvs
  let nodeIds ← authoritativeNodeIds host kvs raws
  let sources ← authoritativeSources host rules sourceUrl kvs raws
  return (raws, nodeIds, sources)

/-- `imported_validator_ids`. -/
def importedValidatorIds (raws : List Json) : List String :=
  (raws.filterMap fun raw => match raw with
    | .obj raw => some (rawValidatorId host raw)
    | _ => none).filter (· ≠ "")

/-- `merge_remote_validator_set_payload`. -/
def mergeRemoteValidatorSet (now sourceUrl : String) (kvs : Fields)
    (file : RegistryFile) : Except PyError Unit × RegistryFile :=
  match readValidatorSet host policy rules sourceUrl kvs with
  | .error e => (.error e, file)
  | .ok (raws, nodeIds, sources) =>
    match mergeValidators host rules now sourceUrl raws file with
    | (.error e, merged) => (.error e, merged)
    | (.ok _, merged) =>
      let pruned := pruneForNodes host nodeIds (importedValidatorIds host raws) merged
      match pruneForSources rules sources pruned with
      | .error e => (.error e, pruned)
      | .ok pruned' => (.ok (), pruned')

/-! ### Penalties -/

/-- A penalty that another node reports. -/
structure RemotePenalty where
  validatorId : String
  slashAtomic : Int := 0
  jailed : Bool := false
  observedAt : Json := .null
  sourceUrl : Json := .null

/-- The call of a penalty. -/
def penaltyArgs (penalty : RemotePenalty) (existing : RegistryRecord) : SyncArgs :=
  let slash := max 0 penalty.slashAtomic
  { validatorId := existing.validatorId
    walletId := existing.walletId
    address := existing.address
    state := if penalty.jailed then .jailed else existing.state
    bondedAtomic :=
      if penalty.jailed then 0
      else if 0 < slash then max 0 (existing.bondedAtomic - slash)
      else existing.bondedAtomic
    staticIpConfirmed := existing.staticIpConfirmed
    currentNodeId := existing.currentNodeId
    advertisedApiHost := existing.advertisedApiHost
    advertisedDataHost := existing.advertisedDataHost
    unbondingStartedAt := if penalty.jailed then .null else existing.unbondingStartedAt
    unbondingAvailableAt := if penalty.jailed then .null else existing.unbondingAvailableAt
    jailedAt := if penalty.jailed then penalty.observedAt.pyOr existing.jailedAt
      else existing.jailedAt
    unjailAvailableAt := existing.unjailAvailableAt
    lastSlashAtomic := if 0 < slash then slash else existing.lastSlashAtomic
    totalSlashedAtomic := existing.totalSlashedAtomic + slash
    source := existing.source
    sourceUrl := existing.sourceUrl.pyOr penalty.sourceUrl
    lastSeenAt := existing.lastSeenAt }

/-- The call changes nothing that a penalty is about. -/
def penaltyIsIdle (args : SyncArgs) (existing : RegistryRecord) : Bool :=
  args.state = existing.state ∧ args.bondedAtomic = existing.bondedAtomic ∧
    args.unbondingStartedAt.canonical = existing.unbondingStartedAt.canonical ∧
    args.unbondingAvailableAt.canonical = existing.unbondingAvailableAt.canonical ∧
    args.jailedAt.canonical = existing.jailedAt.canonical ∧
    args.lastSlashAtomic = existing.lastSlashAtomic ∧
    args.totalSlashedAtomic = existing.totalSlashedAtomic

/-- `apply_remote_validator_penalty_to_registry`. -/
def applyRemotePenalty (now : String) (penalty : RemotePenalty) (file : RegistryFile) :
    Except PyError RegistryFile :=
  match getRegistryRecord (host.lower (strip penalty.validatorId)) file with
  | none => .ok file
  | some existing =>
    if host.lower (strip penalty.validatorId) = "" then .ok file
    -- "Local validator state remains authoritative on the node that owns it."
    else if existing.source = "local" then .ok file
    else if penaltyIsIdle (penaltyArgs penalty existing) existing then .ok file
    else syncRegistryRecord host now (penaltyArgs penalty existing) file

/-! ### What a remote node can do to the file -/

/-- One record of the file changes at the word of a remote node.  `P` is what is known of the
incoming record. -/
inductive RemoteChange (now : String) (P : RegistryRecord → Prop) :
    Option RegistryRecord → RegistryRecord → Prop
  | lease {existing incoming record : RegistryRecord} {args : SyncArgs} :
      P incoming → incoming.validatorId = existing.validatorId →
      shouldMergeRemoteHaLease rules existing incoming = .ok true →
      leaseArgs host now existing incoming = .ok args →
      syncedRecord host now (some existing) args = .ok record →
      RemoteChange now P (some existing) record
  | adopt {previous : Option RegistryRecord} {incoming record : RegistryRecord} :
      P incoming → incoming.source = "peer" → (∀ e ∈ previous, e.source ≠ "local") →
      syncedRecord host now previous (adoptArgs incoming) = .ok record →
      RemoteChange now P previous record
  | penalty {existing record : RegistryRecord} {penalty : RemotePenalty} :
      existing.source ≠ "local" →
      syncedRecord host now (some existing) (penaltyArgs penalty existing) = .ok record →
      RemoteChange now P (some existing) record

/-- One step of the file at the word of a remote node. -/
inductive RemoteStep (now : String) (P : RegistryRecord → Prop) :
    RegistryFile → RegistryFile → Prop
  | write {file : RegistryFile} {record : RegistryRecord} :
      RemoteChange host rules now P (getRegistryRecord record.validatorId file) record →
      RemoteStep now P file (Table.upsert RegistryRecord.validatorId record (listRegistry file))
  | drop {file : RegistryFile} {dropped : RegistryRecord → Bool} :
      (∀ record, dropped record = true → record.source = "peer") →
      RemoteStep now P file ((listRegistry file).filter fun record => !dropped record)

/-- The steps of one merge or penalty. -/
abbrev RemoteSteps (now : String) (P : RegistryRecord → Prop) :
    RegistryFile → RegistryFile → Prop :=
  Relation.ReflTransGen (RemoteStep host rules now P)

/-- The record stands for one of the raw records. -/
def ArrivesIn (now sourceUrl : String) (raws : List Json) (incoming : RegistryRecord) : Prop :=
  ∃ raw, .obj raw ∈ raws ∧ rawValidatorId host raw ≠ "" ∧
    incomingValidator host rules now sourceUrl raw = .ok incoming

section Steps

variable {host policy rules} {now sourceUrl : String} {file file' : RegistryFile}
  {previous : Option RegistryRecord} {existing incoming record : RegistryRecord}
  {args : SyncArgs} {P Q : RegistryRecord → Prop}

theorem syncedRecord_validatorId (h : syncedRecord host now previous args = .ok record) :
    record.validatorId = args.validatorId := by
  rw [syncedRecord] at h
  obtain ⟨ids, -, h⟩ := bind_eq_ok.mp h
  rw [← pure_eq_ok.mp h]

theorem syncedRecord_source (h : syncedRecord host now previous args = .ok record) :
    record.source = args.source := by
  rw [syncedRecord] at h
  obtain ⟨ids, -, h⟩ := bind_eq_ok.mp h
  rw [← pure_eq_ok.mp h]

theorem incomingValidator_id {raw : Fields}
    (h : incomingValidator host rules now sourceUrl raw = .ok incoming) :
    incoming.validatorId = rawValidatorId host raw ∧ incoming.source = "peer" := by
  rw [incomingValidator] at h
  simp only [bind_eq_ok, pure_eq_ok] at h
  obtain ⟨url, -, bonded, -, ids, -, last, -, total, -, rfl⟩ := h
  exact ⟨rfl, rfl⟩

theorem leaseArgs_validatorId (h : leaseArgs host now existing incoming = .ok args) :
    args.validatorId = existing.validatorId := by
  rw [leaseArgs] at h
  obtain ⟨ids, -, h⟩ := bind_eq_ok.mp h
  rw [← pure_eq_ok.mp h]

/-- A record that is found has the key it is looked up by. -/
theorem validatorId_of_get {validatorId : String}
    (h : getRegistryRecord validatorId file = some existing) :
    existing.validatorId = validatorId := Table.key_of_find h

/-- A record of the file is never replaced by one that is not local while it is local itself. -/
theorem shouldReplaceRecord_source (hpeer : incoming.source = "peer")
    (h : shouldReplaceRecord rules existing incoming = .ok true) : existing.source ≠ "local" := by
  intro hlocal
  have hne : incoming.source ≠ "local" := by
    rw [hpeer]
    decide
  rw [shouldReplaceRecord, if_pos ⟨hlocal, hne⟩] at h
  cases h

/-- **What the loop decides**: to merge a lease into the record, or to take the incoming record
over where none or none of the node's own is in its place. -/
theorem mergeDecision_some (hpeer : incoming.source = "peer")
    (h : mergeDecision host rules now previous incoming = .ok (some args)) :
    (∃ existing, previous = some existing ∧
        shouldMergeRemoteHaLease rules existing incoming = .ok true ∧
        leaseArgs host now existing incoming = .ok args) ∨
      ((∀ e ∈ previous, e.source ≠ "local") ∧ args = adoptArgs incoming) := by
  cases previous with
  | none =>
    right
    cases h
    exact ⟨fun e he => (Option.not_mem_none e he).elim, rfl⟩
  | some existing =>
    rw [mergeDecision] at h
    obtain ⟨merges, hmerges, h⟩ := bind_eq_ok.mp h
    cases merges with
    | true =>
      left
      obtain ⟨args', hargs, h⟩ := bind_eq_ok.mp h
      cases pure_eq_ok.mp h
      exact ⟨existing, rfl, hmerges, hargs⟩
    | false =>
      right
      obtain ⟨replaces, hreplaces, h⟩ := bind_eq_ok.mp h
      cases replaces with
      | false => cases pure_eq_ok.mp h
      | true =>
        cases pure_eq_ok.mp h
        refine ⟨?_, rfl⟩
        intro e he
        cases he
        exact shouldReplaceRecord_source hpeer hreplaces

theorem RemoteChange.imp (h : RemoteChange host rules now P previous record)
    (hPQ : ∀ incoming, P incoming → Q incoming) :
      RemoteChange host rules now Q previous record := by
  cases h with
  | lease hP hid hmerges hargs hrecord => exact .lease (hPQ _ hP) hid hmerges hargs hrecord
  | adopt hP hpeer hlocal hrecord => exact .adopt (hPQ _ hP) hpeer hlocal hrecord
  | penalty hlocal hrecord => exact .penalty hlocal hrecord

theorem RemoteSteps.imp (h : RemoteSteps host rules now P file file')
    (hPQ : ∀ incoming, P incoming → Q incoming) : RemoteSteps host rules now Q file file' := by
  refine Relation.ReflTransGen.mono ?_ _ _ h
  intro a b hstep
  cases hstep with
  | write hchange => exact .write (hchange.imp hPQ)
  | drop hdropped => exact .drop hdropped

/-- A written record is a change of the record it replaces. -/
theorem remoteStep_of_sync (h : syncRegistryRecord host now args file = .ok file')
    (hchange : ∀ record, syncedRecord host now (getRegistryRecord args.validatorId file) args =
      .ok record → RemoteChange host rules now P (getRegistryRecord args.validatorId file) record) :
    RemoteStep host rules now P file file' := by
  rw [syncRegistryRecord] at h
  obtain ⟨record, hrecord, h⟩ := bind_eq_ok.mp h
  rw [← pure_eq_ok.mp h]
  apply RemoteStep.write
  rw [syncedRecord_validatorId hrecord]
  exact hchange record hrecord

/-- **One turn of the loop.** -/
theorem mergeRawValidator_step {raws : List Json} {raw : Json} (hraw : raw ∈ raws)
    (h : mergeRawValidator host rules now sourceUrl raw file = .ok file') :
    RemoteSteps host rules now (ArrivesIn host rules now sourceUrl raws) file file' := by
  unfold mergeRawValidator at h
  split at h
  · rename_i raw
    split at h
    · cases h
      exact .refl
    · rename_i hid
      obtain ⟨incoming, hincoming, h⟩ := bind_eq_ok.mp h
      have harrives : ArrivesIn host rules now sourceUrl raws incoming :=
        ⟨raw, hraw, hid, hincoming⟩
      obtain ⟨decision, hdecision, h⟩ := bind_eq_ok.mp h
      cases decision with
      | none =>
        cases pure_eq_ok.mp h
        exact .refl
      | some args =>
        apply Relation.ReflTransGen.single
        apply remoteStep_of_sync h
        intro record hrecord
        have hpeer : incoming.source = "peer" := (incomingValidator_id hincoming).2
        rcases mergeDecision_some hpeer hdecision with
          ⟨existing, hfound, hmerges, hargs⟩ | ⟨hlocal, rfl⟩
        · have hexisting : existing.validatorId = incoming.validatorId := validatorId_of_get hfound
          rw [(leaseArgs_validatorId hargs).trans hexisting, hfound] at hrecord ⊢
          exact .lease harrives hexisting.symm hmerges hargs hrecord
        · exact .adopt harrives hpeer hlocal hrecord
  · cases h

theorem mergeValidators_steps {all raws : List Json} (hraws : ∀ raw ∈ raws, raw ∈ all) :
    RemoteSteps host rules now (ArrivesIn host rules now sourceUrl all) file
      (mergeValidators host rules now sourceUrl raws file).2 := by
  induction raws generalizing file with
  | nil => exact .refl
  | cons raw raws ih =>
    rw [mergeValidators]
    split
    · rename_i file' hfile'
      refine (mergeRawValidator_step (hraws raw List.mem_cons_self) hfile').trans ?_
      exact ih fun raw' hraw' => hraws raw' (List.mem_cons_of_mem _ hraw')
    · exact .refl

theorem dropRecords_steps {dropped : RegistryRecord → Bool}
    (h : ∀ record, dropped record = true → record.source = "peer") :
    RemoteSteps host rules now P file (dropRecords dropped file) := by
  unfold dropRecords
  simp only
  split
  · exact .single (.drop h)
  · exact .refl

theorem pruneForNodes_steps {nodeIds validatorIds : List String} :
    RemoteSteps host rules now P file (pruneForNodes host nodeIds validatorIds file) := by
  unfold pruneForNodes
  split
  · exact .refl
  · apply dropRecords_steps
    intro record hdropped
    exact (of_decide_eq_true hdropped).1

theorem pruneForSources_steps {sources : List (String × String)}
    (h : pruneForSources rules sources file = .ok file') :
    RemoteSteps host rules now P file file' := by
  unfold pruneForSources at h
  split at h
  · cases pure_eq_ok.mp h
    exact .refl
  · obtain ⟨-, -, h⟩ := bind_eq_ok.mp h
    rw [← pure_eq_ok.mp h]
    apply dropRecords_steps
    intro record hdropped
    exact of_decide_eq_true (Bool.and_eq_true_iff.mp hdropped).1

/-- **A merge is a sequence of remote steps**, with records of the payload; also one that raises
on its way. -/
theorem mergeRemoteValidatorSet_steps {kvs : Fields} : RemoteSteps host rules now
      (fun incoming => ∃ raws, iterRemoteValidatorRecords host kvs = .ok raws ∧
        ArrivesIn host rules now sourceUrl raws incoming)
      file (mergeRemoteValidatorSet host policy rules now sourceUrl kvs file).2 := by
  unfold mergeRemoteValidatorSet
  split
  · exact .refl
  · rename_i raws nodeIds sources hread
    have hraws : iterRemoteValidatorRecords host kvs = .ok raws := by
      rw [readValidatorSet] at hread
      simp only [bind_eq_ok, pure_eq_ok] at hread
      obtain ⟨-, -, raws', hraws', nodeIds', -, sources', -, heq⟩ := hread
      cases heq
      exact hraws'
    have hloop : RemoteSteps host rules now
        (fun incoming => ∃ raws, iterRemoteValidatorRecords host kvs = .ok raws ∧
          ArrivesIn host rules now sourceUrl raws incoming)
        file (mergeValidators host rules now sourceUrl raws file).2 :=
      (mergeValidators_steps fun _ h => h).imp fun incoming harrives => ⟨raws, hraws, harrives⟩
    split
    · rename_i hmerged
      rwa [hmerged] at hloop
    · rename_i done merged hmerged
      rw [hmerged] at hloop
      have hnodes : RemoteSteps host rules now _ file
          (pruneForNodes host nodeIds (importedValidatorIds host raws) merged) :=
        hloop.trans pruneForNodes_steps
      simp only
      split
      · exact hnodes
      · rename_i hpruned
        exact hnodes.trans (pruneForSources_steps hpruned)

/-- **A penalty is a remote step, or none.** -/
theorem applyRemotePenalty_steps {penalty : RemotePenalty}
    (h : applyRemotePenalty host now penalty file = .ok file') :
    RemoteSteps host rules now P file file' := by
  unfold applyRemotePenalty at h
  split at h
  · cases h
    exact .refl
  · rename_i existing hfound
    split at h
    · cases h
      exact .refl
    split at h
    · cases h
      exact .refl
    split at h
    · cases h
      exact .refl
    · rename_i hlocal _
      apply Relation.ReflTransGen.single
      apply remoteStep_of_sync h
      intro record hrecord
      have hid : (penaltyArgs penalty existing).validatorId =
          host.lower (strip penalty.validatorId) := validatorId_of_get hfound
      rw [hid, hfound] at hrecord ⊢
      exact .penalty hlocal hrecord

end Steps

end CaiNetwork
