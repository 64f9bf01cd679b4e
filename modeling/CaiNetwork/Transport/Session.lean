/-
CaiNetwork/Transport/Session.lean

Transport sessions and the operations that rewrite their records (`decentralized_compute.py`,
`cai_owned_transport_storage.py`, `cai_owned_transport_batch_lifecycle.py`).

A session lists the batches of work its participants exchange; a runtime claims a batch for a
limited time (its lease), completes it, gives it up or lets the lease run out.  Every operation
looks for the first session with the id, changes that record and writes the file, so the operations
are actions on the list of records in the order in which the file is read.

Times are microseconds; a timestamp that is missing or cannot be parsed is `none`.  What an
execution proof has to contain is a parameter (`TransportRules`).
-/

import Mathlib.Data.List.Infix
import CaiNetwork.Focus
import CaiNetwork.Host

namespace CaiNetwork

/-- `cai_owned_transport_chain_id`, without a policy. -/
def transportChainId (host : Host) (chainId : Option String) : String :=
  let clean := host.lower (strip (chainId.getD ""))
  if clean ≠ "" then clean else host.defaultChainId

/-! ### Records -/

/-- The batch statuses the source names. -/
def namedBatchStatuses : List String :=
  ["recorded", "received", "processing", "processed", "delivered", "failed", "timed_out"]

/-- The status of a batch, stripped; a missing one reads as `recorded`. -/
inductive BatchStatus
  | recorded
  | received
  | processing
  | processed
  | delivered
  | failed
  | timedOut
  /-- A text the source does not name, such as `hash_mismatch`. -/
  | other (name : String) (unnamed : name ∉ namedBatchStatuses)
deriving DecidableEq

namespace BatchStatus

def text : BatchStatus → String
  | recorded => "recorded"
  | received => "received"
  | processing => "processing"
  | processed => "processed"
  | delivered => "delivered"
  | failed => "failed"
  | timedOut => "timed_out"
  | other name _ => name

def ofText (name : String) : BatchStatus :=
  if h : name ∈ namedBatchStatuses then
    if name = "received" then received
    else if name = "processing" then processing
    else if name = "processed" then processed
    else if name = "delivered" then delivered
    else if name = "failed" then failed
    else if name = "timed_out" then timedOut
    else recorded
  else other name h

/-- The statuses a claim refuses for good. -/
def isClosed : BatchStatus → Bool
  | processed | failed | timedOut | delivered => true
  | _ => false

end BatchStatus

/-- `CaiOwnedTransportSessionRecord.status`. -/
inductive SessionStatus
  | created
  | running
  | completed
  | failed
deriving DecidableEq

/-- A record of `batch_records`.  `details` are the fields that are written and sent on without
being tested by the session's operations (sizes, metrics, hashes of outputs, audits). -/
structure Batch where
  batchId : String
  status : BatchStatus
  phase : String := ""
  sourceNodeId : String := ""
  sinkNodeId : String := ""
  payloadSha256Hex : Option String := none
  metadata : Fields := []
  runtimeId : Option String := none
  previousRuntimeId : Option String := none
  claimedByNodeId : Option String := none
  heartbeatAt : Option Int := none
  leaseMicros : Option Int := none
  leaseExpiresAt : Option Int := none
  attemptCount : Int := 0
  failureCount : Int := 0
  createdAt : Option Int := none
  updatedAt : Option Int := none
  lastError : Option String := none
  details : Fields := []

/-- A record of `shard_receipts`. -/
structure ShardReceipt where
  nodeId : String
  chainId : String
  body : Fields

/-- A record of `dispatch_records`. -/
structure DispatchRecord where
  dispatchId : String
  createdAt : Option Int
  updatedAt : Option Int
  body : Fields

/-- `CaiOwnedTransportSessionRecord`. -/
structure TransportSession where
  sessionId : String
  instanceId : String := ""
  participantNodeIds : List String
  executorNodeIds : List String := []
  status : SessionStatus
  createdAt : Option Int := none
  updatedAt : Option Int := none
  chainId : Option String := none
  modelId : Option String := none
  taskId : Option String := none
  routePolicy : Fields := []
  dispatchRecords : List DispatchRecord := []
  batchRecords : List Batch := []
  shardReceipts : List ShardReceipt := []
  proof : Option Fields := none
  completedAt : Option Int := none
  lastError : Option String := none

/-- The sessions file in the order it is read, and the payload files by session directory and
file name. -/
structure TransportStore where
  sessions : List TransportSession
  payloads : List ((String × String) × Bytes) := []

/-- The session an operation works on. -/
def TransportStore.session? (store : TransportStore) (sessionId : String) :
    Option TransportSession :=
  store.sessions.find? fun record => record.sessionId = sessionId

/-- `_find_cai_owned_transport_batch`. -/
def TransportSession.batch? (record : TransportSession) (batchId : String) : Option Batch :=
  record.batchRecords.find? fun batch => strip batch.batchId = batchId

/-- `_cai_owned_transport_batch_record`, for ids already stripped. -/
def TransportStore.batch? (store : TransportStore) (sessionId batchId : String) : Option Batch :=
  (store.session? sessionId).bind fun record => record.batch? batchId

/-! ### Leases and timeouts -/

section Lifecycle

/-- `CAI_OWNED_TRANSPORT_DEFAULT_BATCH_LEASE_SECONDS`. -/
def defaultBatchLease : Int := 60 * 1000000

/-- `CAI_OWNED_TRANSPORT_DEFAULT_BATCH_CLAIM_TIMEOUT_SECONDS`. -/
def defaultBatchClaimTimeout : Int := 120 * 1000000

/-- `CAI_OWNED_TRANSPORT_DEFAULT_MAX_BATCH_ATTEMPTS`. -/
def defaultMaxBatchAttempts : Int := 3

/-- `coerce_cai_owned_transport_batch_lease_seconds`. -/
def coerceBatchLease (lease : Option Int) : Int :=
  match lease with
  | none => defaultBatchLease
  | some micros => max 0 micros

/-- `coerce_cai_owned_transport_batch_claim_timeout_seconds`. -/
def coerceBatchClaimTimeout (timeout : Option Int) : Int :=
  match timeout with
  | none => defaultBatchClaimTimeout
  | some micros => max 0 micros

/-- `coerce_cai_owned_transport_max_attempts`. -/
def coerceMaxAttempts (attempts : Option Int) : Int :=
  match attempts with
  | none => defaultMaxBatchAttempts
  | some n => max 1 n

variable (batch : Batch)

/-- `apply_cai_owned_transport_batch_lease`. -/
def Batch.applyLease (now : Int) (lease : Option Int) : Batch :=
  { batch with
    heartbeatAt := some now
    leaseMicros := some (coerceBatchLease lease)
    leaseExpiresAt := some (now + coerceBatchLease lease) }

/-- `cai_owned_transport_batch_lease_expired`. -/
def Batch.leaseExpired (now : Int) : Bool :=
  match batch.leaseExpiresAt with
  | none => true
  | some expires => expires ≤ now

/-- `str(batch.get("runtimeId") or "").strip()`. -/
def Batch.runtime : String := strip (batch.runtimeId.getD "")

/-- `cai_owned_transport_batch_claim_expired`. -/
def Batch.claimExpired (now timeout : Int) : Bool :=
  match batch.updatedAt.or batch.createdAt with
  | none => true
  | some reference => reference + timeout ≤ now

/-- `mark_cai_owned_transport_batch_timed_out`. -/
def Batch.timeOut (now : Int) (error : String) : Batch :=
  { batch with
    status := .timedOut
    updatedAt := some now
    lastError := some error }

/-- `clear_cai_owned_transport_batch_runtime_claim`. -/
def Batch.clearRuntimeClaim : Batch :=
  { batch with
    previousRuntimeId := if batch.runtime ≠ "" then some batch.runtime else batch.previousRuntimeId
    runtimeId := none
    heartbeatAt := none
    leaseExpiresAt := none
    leaseMicros := none
    claimedByNodeId := none }

end Lifecycle

/-! ### Reading the request -/

def transportError (message : String) : PyError := .valueError ("CAI-owned transport " ++ message)

def sessionNotFound (sessionId : String) : PyError :=
  transportError ("session '" ++ sessionId ++ "' not found.")

def batchNotAssigned : PyError := transportError "batch is not assigned to local node."

/-- `is_safe_transport_file_id`, on a stripped text. -/
def isSafeTransportFileId (start clean : String) : Bool :=
  clean ≠ "" && startsWith start clean &&
    clean.toList.all fun c => c.toNat < 128 && (c.isAlphanum || c = '_' || c = '-')

/-- `require_safe_transport_file_id`. -/
def requireSafeTransportFileId (start value : String) : Except PyError String :=
  if isSafeTransportFileId start (strip value) then .ok (strip value)
  else .error (transportError "storage id is invalid.")

def requireBatchId (value : String) : Except PyError String :=
  requireSafeTransportFileId "caibatch_" value

/-- Runs on the first session with the id. -/
def inSessionOr {α : Type} (missing : PyError) (sessionId : String)
    (x : Action TransportSession PyError α) : Action TransportStore PyError α :=
  .part (·.sessions) (fun sessions store => { store with sessions := sessions })
    (.first (fun record => record.sessionId = strip sessionId) missing x)

def inSession {α : Type} (sessionId : String) (x : Action TransportSession PyError α) :
    Action TransportStore PyError α :=
  inSessionOr (sessionNotFound (strip sessionId)) sessionId x

/-- Runs on the first batch with the id. -/
def inBatch {α : Type} (batchId : String) (x : Action Batch PyError α) :
    Action TransportSession PyError α := fun record =>
  Action.part (·.batchRecords) (fun batches record => { record with batchRecords := batches })
    (.first (fun batch => strip batch.batchId = batchId)
      (transportError
        ("batch '" ++ batchId ++ "' not found in session '" ++ record.sessionId ++ "'.")) x)
    record

/-- The operations on batches start by refusing a completed session. -/
def refuseCompleted (message : String) : Action TransportSession PyError PUnit := fun record =>
  if record.status = .completed then (.error (.valueError message), record)
  else (.ok ⟨⟩, record)

/-- `_require_session_participant`. -/
def requireSessionParticipant (nodeId : String) : Action TransportSession PyError String :=
  fun record =>
    if strip nodeId = "" then
      (.error (transportError "participant node id is required."), record)
    else if strip nodeId ∉ record.participantNodeIds then
      (.error (.valueError
        ("Node '" ++ strip nodeId ++ "' is not part of CAI-owned transport session '"
        ++ record.sessionId ++ "'.")), record)
    else (.ok (strip nodeId), record)

/-- `if record.status == "created": record.status = "running"`. -/
def SessionStatus.started : SessionStatus → SessionStatus
  | .created => .running
  | status => status

/-! ### Claims -/

/-- What a runtime names in its calls. -/
structure RuntimeCall where
  sessionId : String
  batchId : String
  nodeId : String
  runtimeId : Option String

/-- `str(runtime_id or "").strip()`. -/
def RuntimeCall.runtime (call : RuntimeCall) : String := strip (call.runtimeId.getD "")

/-- The batch of a claim; tells whether the claim is new or renews the runtime's own lease. -/
def claimBatch (node runtime : String) (lease : Option Int) (now : Int) :
    Action Batch PyError Bool := fun batch =>
  if strip batch.sinkNodeId ≠ node then (.error batchNotAssigned, batch)
  else if batch.status = .processing ∧ batch.leaseExpired now = false then
    if runtime ≠ "" ∧ batch.runtime = runtime then
      (.ok false, Batch.applyLease { batch with updatedAt := some now } now lease)
    else (.error (transportError "batch is already processing."), batch)
  else if batch.status.isClosed then
    (.error (transportError ("batch is already " ++ batch.status.text ++ ".")), batch)
  else
    (.ok true, Batch.applyLease
      { batch with
        status := .processing
        updatedAt := some now
        claimedByNodeId := some node
        previousRuntimeId :=
          if batch.status = .processing ∧ batch.runtime ≠ "" then some batch.runtime
          else batch.previousRuntimeId
        runtimeId := if runtime ≠ "" then some runtime else batch.runtimeId
        attemptCount := batch.attemptCount + 1 } now lease)

/-- `claim_cai_owned_transport_batch`. -/
def claimCaiOwnedTransportBatch (call : RuntimeCall) (lease : Option Int) (now : Int) :
    Action TransportStore PyError TransportSession := do
  let batchId ← Action.lift (requireBatchId call.batchId)
  inSession call.sessionId do
    refuseCompleted "Cannot claim batches on a completed session."
    let node ← requireSessionParticipant call.nodeId
    let fresh ← inBatch batchId (claimBatch node call.runtime lease now)
    modify fun record =>
      { record with
        status := if fresh then record.status.started else record.status
        updatedAt := some now }
    get

/-- The batch of a heartbeat. -/
def heartbeatBatch (node runtime : String) (lease : Option Int) (now : Int) :
    Action Batch PyError PUnit := fun batch =>
  if strip batch.sinkNodeId ≠ node then (.error batchNotAssigned, batch)
  else if batch.status ≠ .processing then
    (.error (transportError "batch is not processing."), batch)
  else if runtime ≠ "" ∧ batch.runtime ≠ runtime then
    (.error (transportError "batch runtime id does not match."), batch)
  else if batch.leaseExpired now then
    (.error (transportError "batch lease has expired."), batch)
  else (.ok ⟨⟩, Batch.applyLease { batch with updatedAt := some now } now lease)

/-- `heartbeat_cai_owned_transport_batch`. -/
def heartbeatCaiOwnedTransportBatch (call : RuntimeCall) (lease : Option Int) (now : Int) :
    Action TransportStore PyError TransportSession := do
  let batchId ← Action.lift (requireBatchId call.batchId)
  inSession call.sessionId do
    refuseCompleted "Cannot heartbeat batches on a completed session."
    let node ← requireSessionParticipant call.nodeId
    inBatch batchId (heartbeatBatch node call.runtime lease now)
    modify fun record => { record with updatedAt := some now }
    get

/-- `list_cai_owned_transport_batch_inbox`: the waiting batches with their sessions' ids. -/
def batchInbox (node : String) (status : Option BatchStatus) (sessionId : String)
    (store : TransportStore) : List (String × Batch) :=
  (store.sessions.filter fun record => sessionId = "" || record.sessionId = sessionId).flatMap
    fun record =>
      (record.batchRecords.filter fun batch =>
        strip batch.sinkNodeId = node && status.all fun wanted => batch.status = wanted).map
          fun batch => (record.sessionId, batch)

/-- `"already processing" in str(exc)`, of a `ValueError`. -/
def saysAlreadyProcessing : PyError → Bool
  | .valueError message => "already processing".toList <:+: message.toList
  | _ => false

/-- `except ValueError as exc`: an item that another runtime has taken is passed over, every other
error is raised again. -/
def unlessTaken {α : Type} (x : Action TransportStore PyError α) :
    Action TransportStore PyError (Option α) := fun store =>
  match x store with
  | (.ok a, after) => (.ok (some a), after)
  | (.error e, after) => if saysAlreadyProcessing e then (.ok none, after) else (.error e, after)

/-- Claims a waiting batch, unless another runtime has it by now. -/
def claimItem (node : String) (runtimeId : Option String) (lease : Option Int) (now : Int)
    (item : String × Batch) : Action TransportStore PyError (Option (TransportSession × Batch)) :=
  if strip item.2.batchId = "" ∨ strip item.1 = "" then pure none
  else do
    let record ← unlessTaken (claimCaiOwnedTransportBatch
      ⟨strip item.1, strip item.2.batchId, node, runtimeId⟩ lease now)
    return record.bind fun record => (record.batch? (strip item.2.batchId)).map (record, ·)

/-- `claim_next_cai_owned_transport_batch`: the inbox with the status; for `received` batches the
batches whose lease has run out follow.  A status of `none` takes every batch. -/
def claimNextCaiOwnedTransportBatch (nodeId : String) (status : Option String)
    (sessionId runtimeId : Option String) (lease : Option Int) (now : Int) :
    Action TransportStore PyError (Option (TransportSession × Batch)) :=
  if strip nodeId = "" then throw (transportError "claim-next requires local node id.")
  else do
    let wanted := status.map fun text => BatchStatus.ofText (strip text)
    let session := strip (sessionId.getD "")
    let candidates := fun (status : Option BatchStatus) (store : TransportStore) =>
      (batchInbox (strip nodeId) status session store).filter fun item =>
        status ≠ some .processing || item.2.leaseExpired now
    let taken ← Action.firstSome (claimItem (strip nodeId) runtimeId lease now)
      (candidates wanted (← get))
    match taken, wanted with
    | some item, _ => return some item
    | none, some .received =>
      Action.firstSome (claimItem (strip nodeId) runtimeId lease now)
        (candidates (some .processing) (← get))
    | none, _ => return none

/-! ### Completing a batch and giving it up -/

/-- What the session's operations leave to the rest of the program. -/
structure TransportRules where
  /-- The hash chain over a batch's input and output
  (`build_cai_owned_transport_batch_hash_chain`). -/
  hashChain : (sessionId batchId : String) → Batch → Fields →
    Except PyError Fields
  /-- The fields a completed batch gets from the request and its hash chain; malformed hashes
  and audits raise. -/
  completedFields : Fields → Fields →
    Except PyError Fields
  /-- `cai_owned_transport_shard_receipts_from_processed_batches`. -/
  receiptsFromBatches : TransportSession → List ShardReceipt
  /-- The fields of a shard receipt after their clean-up. -/
  cleanReceipt : Fields → Except PyError Fields
  /-- The checks of `validate_cai_owned_transport_batch_envelope`, and the payload. -/
  openEnvelope : TransportSession → Fields → Except PyError Bytes
  /-- `_cai_owned_transport_embedded_shard_receipts`: node, chain and body of each. -/
  embeddedReceipts : Fields →
    Except PyError (List (String × Option String × Fields))
  /-- `build_cai_owned_transport_execution_proof` for a session and the request. -/
  buildProof : TransportSession → Fields → Except PyError Fields
  /-- `validate_cai_owned_transport_session_execution_audit`, over the payload files and the
  session: the audit, or its first error. -/
  executionAudit : List ((String × String) × Bytes) → TransportSession →
    Fields → Except PyError (Except String Fields)
  /-- The checks of `validate_cai_owned_transport_execution_proof` after the schema version. -/
  proofChecks : TransportSession → Fields → Except PyError (Option String)
  /-- `_validate_cai_owned_transport_completion_notice_coverage`. -/
  noticeCoverage : TransportSession → Fields → Except PyError (Option String)
  /-- `parse_cai_owned_transport_datetime`. -/
  parseDatetime : String → Option Int

/-- The owner check, on the batch. -/
def requireLeaseHolder (node runtime : String) (now : Int) : Action Batch PyError PUnit :=
  fun batch =>
    if strip batch.sinkNodeId ≠ node then (.error batchNotAssigned, batch)
    else if batch.status ≠ .processing then
      (.error (transportError "batch is not processing."), batch)
    else if batch.runtime ≠ runtime then
      (.error (transportError "batch runtime id does not match."), batch)
    else if batch.leaseExpired now then
      (.error (transportError "batch lease has expired."), batch)
    else (.ok ⟨⟩, batch)

/-- The owner check, in the session. -/
def requireOwnerInSession (call : RuntimeCall) (now : Int) :
    Action TransportSession PyError PUnit := do
  let node ← requireSessionParticipant call.nodeId
  let batchId ← Action.lift (requireBatchId call.batchId)
  inBatch batchId (requireLeaseHolder node call.runtime now)

/-- `_require_cai_owned_transport_batch_completion_owner`: a call without a runtime id passes. -/
def requireBatchCompletionOwner (call : RuntimeCall) (now : Int) :
    Action TransportStore PyError PUnit :=
  if call.runtime = "" then pure ⟨⟩
  else inSessionOr (sessionNotFound call.sessionId) call.sessionId (requireOwnerInSession call now)

/-- The batch of a status change. -/
def markBatch (node : String) (status : BatchStatus) (details : Except PyError Fields) (now : Int) :
    Action Batch PyError PUnit := fun batch =>
  if node ≠ "" ∧ strip batch.sinkNodeId ≠ node then (.error batchNotAssigned, batch)
  else
    match details with
    | .error e => (.error e, batch)
    | .ok fields =>
      (.ok ⟨⟩, { batch with
        status := status
        updatedAt := some now
        details := batch.details ++ fields })

/-- The participant check of a status change, which only a call with a node id makes. -/
def requireMarkingNode (nodeId : String) : Action TransportSession PyError String :=
  if strip nodeId = "" then pure "" else requireSessionParticipant nodeId

/-- A status change, in the session. -/
def markInSession (batchId nodeId : String) (status : BatchStatus)
    (details : Except PyError Fields) (now : Int) :
    Action TransportSession PyError TransportSession := do
  refuseCompleted "Cannot update batches on a completed session."
  let node ← requireMarkingNode nodeId
  inBatch batchId (markBatch node status details now)
  modify fun record => { record with updatedAt := some now }
  get

/-- `mark_cai_owned_transport_batch_status`. -/
def markCaiOwnedTransportBatchStatus (sessionId batchId status nodeId : String)
    (details : Except PyError Fields) (now : Int) :
    Action TransportStore PyError TransportSession := do
  let batchId ← Action.lift (requireBatchId batchId)
  if strip status = "" then throw (transportError "batch status is required.")
  else inSession sessionId (markInSession batchId nodeId (.ofText (strip status)) details now)

/-- The batch a completion starts from. -/
def sourceBatch (call : RuntimeCall) : Action TransportStore PyError Batch := fun store =>
  match store.batch? (strip call.sessionId) (strip call.batchId) with
  | some batch => (.ok batch, store)
  | none => (.error (transportError ("batch '" ++ call.batchId ++ "' not found.")), store)

/-- Writes a payload file; the path asks for safe ids. -/
def storePayload (sessionId batchId suffix : String) (payload : Bytes) :
    Action TransportStore PyError PUnit := do
  let batchId ← Action.lift (requireBatchId batchId)
  let sessionId ← Action.lift (requireSafeTransportFileId "caiot_" sessionId)
  modify fun store =>
    { store with
      payloads := ((sessionId, batchId ++ suffix), payload) ::
        store.payloads.filter fun file => file.1 ≠ (sessionId, batchId ++ suffix) }

/-- `store_cai_owned_transport_batch_output_payload`, where there is an output. -/
def storeOutputPayload (call : RuntimeCall) :
    Option Bytes → Action TransportStore PyError PUnit
  | none => pure ⟨⟩
  | some payload => storePayload call.sessionId call.batchId ".out.bin" payload

/-- `complete_cai_owned_transport_batch_processing` up to the new status of the batch. -/
def markProcessed (rules : TransportRules) (call : RuntimeCall) (output : Option Bytes)
    (request : Fields) (now : Int) :
    Action TransportStore PyError TransportSession := do
  requireBatchCompletionOwner call now
  let batch ← sourceBatch call
  storeOutputPayload call output
  let chain ← Action.lift (rules.hashChain call.sessionId call.batchId batch request)
  markCaiOwnedTransportBatchStatus call.sessionId call.batchId "processed" call.nodeId
    (rules.completedFields request chain) now

/-- `complete_cai_owned_transport_batch_processing`, without the message to the coordinator, whose
failure is caught and reported. -/
def completeCaiOwnedTransportBatchProcessing (rules : TransportRules) (call : RuntimeCall)
    (output : Option Bytes) (request : Fields) (now : Int) :
    Action TransportStore PyError ShardReceipt := do
  let record ← markProcessed rules call output request now
  match (rules.receiptsFromBatches record).find? fun receipt =>
      strip receipt.nodeId = strip call.nodeId with
  | some receipt => pure receipt
  | none => throw (transportError "processed batch receipt was not found.")

/-- The batch of a failed work item: failed for good, or received once more without its claim. -/
def failBatch (node error : String) (retryable : Bool) (maxAttempts now : Int) :
    Action Batch PyError BatchStatus := fun batch =>
  if strip batch.sinkNodeId ≠ node then (.error batchNotAssigned, batch)
  else
    let failed : Batch := { batch with
      updatedAt := some now
      lastError := some error
      failureCount := batch.failureCount + 1 }
    if retryable = false ∨ maxAttempts ≤ batch.attemptCount then
      (.ok .failed, { failed with status := .failed })
    else (.ok .received, Batch.clearRuntimeClaim { failed with status := .received })

/-- `str(error or "").strip() or "CAI-owned transport work item failed."`. -/
def workItemError (error : Option String) : String :=
  if strip (error.getD "") = "" then "CAI-owned transport work item failed."
  else strip (error.getD "")

/-- A failed work item, in the session; the status of the session is not asked for. -/
def failInSession (call : RuntimeCall) (batchId error : String) (retryable : Bool)
    (maxAttempts now : Int) : Action TransportSession PyError BatchStatus := do
  let node ← requireSessionParticipant (strip call.nodeId)
  let status ← inBatch batchId (failBatch node error retryable maxAttempts now)
  modify fun record => { record with updatedAt := some now }
  return status

/-- `fail_cai_owned_transport_work_item`. -/
def failCaiOwnedTransportWorkItem (call : RuntimeCall) (error : Option String) (retryable : Bool)
    (maxAttempts : Option Int) (now : Int) : Action TransportStore PyError BatchStatus := do
  requireBatchCompletionOwner call now
  let batchId ← Action.lift (requireBatchId call.batchId)
  inSession call.sessionId (failInSession call batchId (workItemError error) retryable
    (coerceMaxAttempts maxAttempts) now)

/-! ### Timeouts -/

def claimTimeoutError : String :=
  "CAI-owned transport batch was not claimed before coordinator timeout."

def leaseRetryError : String := "CAI-owned transport batch lease expired; retry scheduled."

def leaseTimeoutError : String :=
  "CAI-owned transport batch lease expired and max attempts were exhausted."

/-- What a reconciliation finds for one batch. -/
inductive TimeoutVerdict
  | untouched
  | timedOut (error : String)
  | retryScheduled

/-- The batch in a reconciliation. -/
def reconcileBatch (timeout maxAttempts now : Int) (batch : Batch) : TimeoutVerdict × Batch :=
  if batch.status = .received ∧ batch.claimExpired now timeout = true then
    (.timedOut claimTimeoutError, batch.timeOut now claimTimeoutError)
  else if batch.status = .processing ∧ batch.leaseExpired now = true then
    if max 0 batch.attemptCount < maxAttempts then
      (.retryScheduled, Batch.clearRuntimeClaim
        { batch with
          status := .received
          updatedAt := some now
          lastError := some leaseRetryError })
    else (.timedOut leaseTimeoutError, batch.timeOut now leaseTimeoutError)
  else (.untouched, batch)

/-- The errors of the batches that timed out; a batch without an id is not reported. -/
def timeoutErrors (results : List (TimeoutVerdict × Batch)) : List String :=
  results.filterMap fun result =>
    match result.1 with
    | .timedOut error => some error
    | _ => none

def anyTimedOut (results : List (TimeoutVerdict × Batch)) : Bool :=
  results.any fun result =>
    match result.1 with
    | .timedOut _ => strip result.2.batchId ≠ ""
    | _ => false

def anyRetryScheduled (results : List (TimeoutVerdict × Batch)) : Bool :=
  results.any fun result =>
    match result.1 with
    | .retryScheduled => strip result.2.batchId ≠ ""
    | _ => false

/-- `reconcile_cai_owned_transport_session_timeouts`.  The record is saved only where a batch with
an id timed out or is retried. -/
def reconcileSession (timeout maxAttempts now : Int) :
    Action TransportSession PyError SessionStatus := fun record =>
  if record.status = .completed then (.ok .completed, record)
  else
    let results := record.batchRecords.map (reconcileBatch timeout maxAttempts now)
    if anyTimedOut results then
      (.ok .failed, { record with
        batchRecords := results.map Prod.snd
        status := .failed
        lastError := (timeoutErrors results).head?
        updatedAt := some now })
    else if anyRetryScheduled results then
      (.ok record.status.started, { record with
        batchRecords := results.map Prod.snd
        status := record.status.started
        updatedAt := some now })
    else (.ok record.status, record)

def reconcileCaiOwnedTransportSessionTimeouts (sessionId : String) (receivedTimeout : Option Int)
    (maxAttempts : Option Int) (now : Int) : Action TransportStore PyError SessionStatus :=
  inSession sessionId
    (reconcileSession (coerceBatchClaimTimeout receivedTimeout) (coerceMaxAttempts maxAttempts) now)

end CaiNetwork
