/-
CaiNetwork/Transport/Completion.lean

The end of a transport session: every operation that rewrites a session record, and what is left
of a session that was completed (`decentralized_compute.py`, `cai_owned_transport_storage.py`).

The one operation that does not ask for the status is the completion itself: called again it may
fail the session or put another proof in place of the first (`sessionRuns_reopened`).  In every run
that does not complete a completed session once more, the status and the proof stay
(`sessionRuns_final`).
-/

import CaiNetwork.Transport.Leases

namespace CaiNetwork

open Json (getD)

variable (host : Host) (rules : TransportRules)

/-! ### Recording batches -/

/-- The arguments of `record_cai_owned_transport_batch`; `details` are the fields that are only
stored, with the error of a route audit that is no JSON object. -/
structure BatchRequest where
  phase : String
  sourceNodeId : String
  sinkNodeId : String
  batchId : Option String := none
  payloadSha256Hex : Option String := none
  metadata : Fields := []
  status : String := "recorded"
  details : Except PyError Fields := .ok []

/-- `validate_cai_owned_transport_batch_replay`: the first difference. -/
def batchReplayError (existing : Batch) (phase source sink : String) (hash : Option String) :
    Option String :=
  if strip existing.phase ≠ strip phase then
    some "CAI-owned transport batch replay phase does not match."
  else if strip existing.sourceNodeId ≠ strip source then
    some "CAI-owned transport batch replay source node does not match."
  else if strip existing.sinkNodeId ≠ strip sink then
    some "CAI-owned transport batch replay sink node does not match."
  else if host.lower (strip (existing.payloadSha256Hex.getD "")) ≠
      host.lower (strip (hash.getD "")) then
    some "CAI-owned transport batch replay payload hash does not match."
  else none

/-- The id the caller gives, or a new one. -/
def BatchRequest.cleanBatchId (request : BatchRequest) (token : String) : Except PyError String :=
  if strip (request.batchId.getD "") = "" then .ok ("caibatch_" ++ token)
  else requireBatchId (strip (request.batchId.getD ""))

/-- `str(s or "").strip() or None`. -/
def blankToNone (s : String) : Option String := if strip s = "" then none else some (strip s)

/-- Appends the batch, unless it is there already. -/
def appendBatch (request : BatchRequest) (batchId source sink : String) (now : Int) :
    Action TransportSession PyError TransportSession := fun record =>
  match record.batch? batchId with
  | some existing =>
    match batchReplayError host existing (strip request.phase) source sink
        request.payloadSha256Hex with
    | some error => (.error (.valueError error), record)
    | none => (.ok record, record)
  | none =>
    match request.details with
    | .error e => (.error e, record)
    | .ok details =>
      let batch : Batch :=
        { batchId := batchId
          status :=
            if strip request.status = "" then .recorded else .ofText (strip request.status)
          phase := strip request.phase
          sourceNodeId := source
          sinkNodeId := sink
          payloadSha256Hex := blankToNone (request.payloadSha256Hex.getD "")
          metadata := request.metadata
          createdAt := some now
          details := details }
      let record' := { record with
        batchRecords := record.batchRecords ++ [batch]
        status := record.status.started
        updatedAt := some now }
      (.ok record', record')

/-- A new batch, in the session. -/
def recordInSession (request : BatchRequest) (token : String) (now : Int) :
    Action TransportSession PyError TransportSession := do
  refuseCompleted "Cannot append batch records to a completed session."
  let source ← requireSessionParticipant request.sourceNodeId
  let sink ← requireSessionParticipant request.sinkNodeId
  if strip request.phase = "" then throw (transportError "batch phase is required.")
  else do
    let batchId ← Action.lift (request.cleanBatchId token)
    appendBatch host request batchId source sink now

/-- `record_cai_owned_transport_batch`. -/
def recordCaiOwnedTransportBatch (sessionId : String) (request : BatchRequest) (token : String)
    (now : Int) : Action TransportStore PyError TransportSession :=
  inSession sessionId (recordInSession host request token now)

/-! ### Shard receipts -/

/-- `record.chain_id or _cai_owned_transport_chain_id(policy)`. -/
def TransportSession.chain (record : TransportSession) : String :=
  if record.chainId.getD "" ≠ "" then record.chainId.getD "" else host.activeNetwork.value

/-- The chain a receipt names has to be the session's. -/
def checkReceiptChain (chainId : Option String) (record : TransportSession) :
    Except PyError String :=
  match chainId with
  | none => .error (transportError "shard receipt chain id is missing.")
  | some chain =>
    if transportChainId host (some chain) ≠ record.chain host then
      .error (transportError "shard receipt chain id does not match.")
    else .ok (record.chain host)

/-- A receipt takes the place of the node's earlier one. -/
def putReceipt (node chain : String) (body : Fields) (now : Int)
    (record : TransportSession) : TransportSession :=
  { record with
    shardReceipts := (record.shardReceipts.filter fun receipt => strip receipt.nodeId ≠ node) ++
      [⟨node, chain, body⟩]
    status := record.status.started
    updatedAt := some now }

/-- A receipt, in the session. -/
def receiptInSession (nodeId : String) (chainId : Option String) (body : Fields)
    (now : Int) : Action TransportSession PyError TransportSession := do
  refuseCompleted "Cannot append shard receipts to a completed session."
  let record ← get
  let chain ← Action.lift (checkReceiptChain host chainId record)
  let node ← requireSessionParticipant nodeId
  let clean ← Action.lift (rules.cleanReceipt body)
  modify (putReceipt node chain clean now)
  get

/-- `record_cai_owned_transport_shard_receipt`. -/
def recordCaiOwnedTransportShardReceipt (sessionId nodeId : String) (chainId : Option String)
    (body : Fields) (now : Int) : Action TransportStore PyError TransportSession :=
  inSession sessionId (receiptInSession host rules nodeId chainId body now)

/-! ### Envelopes -/

/-- `_is_cai_owned_transport_final_output_batch`. -/
def isFinalOutputBatch (record : TransportSession) (metadata : Fields)
    (source sink : String) : Bool :=
  let executors := ((if record.executorNodeIds.isEmpty then record.participantNodeIds
    else record.executorNodeIds).map strip).filter (· ≠ "")
  strip (host.strOrEmpty (getD metadata "payloadRole")) = "shard_output" &&
    strip source ≠ "" && strip sink ≠ "" && executors.contains (strip source) &&
      (!executors.contains (strip sink) || (getD metadata "finalOutput").truthy)

/-- `str(envelope.get(name) or "")`. -/
def envelopeText (envelope : Fields) (name : String) : String :=
  host.strOrEmpty (getD envelope name)

/-- `d[k] = v`. -/
def setField (kvs : Fields) (k : String) (v : Json) : Fields :=
  if (kvs.lookup k).isSome then kvs.map fun e => if e.1 = k then (k, v) else e
  else kvs ++ [(k, v)]

/-- `d.update(fields)`. -/
def updateFields (kvs fields : Fields) : Fields :=
  fields.foldl (fun kvs e => setField kvs e.1 e.2) kvs

/-- The metadata under which the batch of an envelope is recorded. -/
def envelopeMetadata (record : TransportSession) (envelope : Fields) (batchId : String) : Fields :=
  let copied := ["chainId", "sequence", "payloadEncoding", "payloadCompression",
    "payloadEncodedSizeBytes", "payloadChunkCount", "payloadChunkSizeBytes"]
  updateFields (getD envelope "metadata").fields
    ([("transportBatchId", .str batchId)] ++ copied.map (fun name => (name, getD envelope name)) ++
      [("envelopeSchemaVersion", getD envelope "schemaVersion"),
        ("payloadStorage", .str "local_file"),
        ("payloadStorageKey", .str (record.sessionId ++ "/" ++ batchId ++ ".bin"))])

/-- The batch an envelope carries. -/
def envelopeRequest (record : TransportSession) (envelope : Fields)
    (batchId : String) : BatchRequest :=
  let metadata := envelopeMetadata record envelope batchId
  let source := envelopeText host envelope "sourceNodeId"
  let sink := strip (envelopeText host envelope "sinkNodeId")
  let final := isFinalOutputBatch host record metadata source sink
  { phase := envelopeText host envelope "phase"
    sourceNodeId := source
    sinkNodeId := sink
    batchId := some batchId
    payloadSha256Hex := some (envelopeText host envelope "payloadSha256Hex")
    metadata :=
      if final then
        updateFields metadata [("finalOutput", .bool true), ("deliveredToNodeId", .str sink)]
      else metadata
    status := if final then "delivered" else "received" }

/-- The receipts an envelope of a final output brings along. -/
def recordEmbeddedReceipts (sessionId : String) (now : Int)
    (receipts : List (String × Option String × Fields)) :
    Action TransportStore PyError (List TransportSession) :=
  .each (fun receipt =>
    recordCaiOwnedTransportShardReceipt host rules sessionId receipt.1 receipt.2.1 receipt.2.2 now)
    receipts

/-- The session an envelope is for. -/
def envelopeSession (sessionId : String) : Action TransportStore PyError TransportSession :=
  fun store =>
    match store.session? (strip sessionId) with
    | none => (.error (sessionNotFound (strip sessionId)), store)
    | some record => (.ok record, store)

/-- An envelope is for the local node, where the caller names it. -/
def checkEnvelopeSink (localNodeId sink : String) : Except PyError PUnit :=
  if strip localNodeId ≠ "" ∧ strip sink ≠ strip localNodeId then
    .error (transportError "batch envelope is not addressed to local node.")
  else .ok ⟨⟩

/-- `record_cai_owned_transport_batch_envelope`. -/
def recordCaiOwnedTransportBatchEnvelope (sessionId localNodeId : String)
    (envelope : Fields) (now : Int) : Action TransportStore PyError PUnit := do
  let record ← envelopeSession sessionId
  let payload ← Action.lift (rules.openEnvelope record envelope)
  Action.lift (checkEnvelopeSink localNodeId (envelopeText host envelope "sinkNodeId"))
  let batchId ← Action.lift (requireBatchId (envelopeText host envelope "batchId"))
  storePayload sessionId batchId ".bin" payload
  let request := envelopeRequest host record envelope batchId
  let _ ← recordCaiOwnedTransportBatch host sessionId request "" now
  if request.status = "delivered" then do
    let receipts ← Action.lift (rules.embeddedReceipts request.metadata)
    let _ ← recordEmbeddedReceipts host rules sessionId now receipts
    return ⟨⟩
  else return ⟨⟩

/-! ### The dispatch journal -/

/-- Merges a dispatch record into the journal. -/
def putDispatch (dispatchId : String) (body : Fields) (now : Int)
    (record : TransportSession) : TransportSession :=
  let known := record.dispatchRecords.any fun dispatch => strip dispatch.dispatchId = dispatchId
  { record with
    dispatchRecords :=
      if known then
        record.dispatchRecords.map fun dispatch =>
          if strip dispatch.dispatchId = dispatchId then
            { dispatch with
              dispatchId := dispatchId
              createdAt := dispatch.createdAt.or (some now)
              updatedAt := some now
              body := body ++ dispatch.body.filter fun e => (body.lookup e.1).isNone }
          else dispatch
      else record.dispatchRecords ++ [⟨dispatchId, some now, some now, body⟩]
    status := record.status.started
    updatedAt := some now }

/-- `_upsert_cai_owned_transport_dispatch_record`. -/
def upsertDispatchRecord (sessionId dispatchId : String) (body : Fields)
    (now : Int) : Action TransportStore PyError TransportSession :=
  if strip sessionId = "" then throw (transportError "dispatch journal requires session id.")
  else if strip dispatchId = "" then
    throw (transportError "dispatch journal requires dispatch id.")
  else inSession sessionId fun record =>
    (.ok (putDispatch (strip dispatchId) body now record),
      putDispatch (strip dispatchId) body now record)

/-! ### Ends of a session -/

/-- `fail_cai_owned_transport_session`. -/
def failCaiOwnedTransportSession (sessionId : String) (error : Option String) (now : Int) :
    Action TransportStore PyError TransportSession :=
  inSession sessionId do
    refuseCompleted "Cannot fail a completed CAI-owned transport session."
    modify fun record =>
      { record with
        status := .failed
        lastError := blankToNone (error.getD "")
        updatedAt := some now }
    get

/-- `CAI_OWNED_TRANSPORT_PROOF_SCHEMA_VERSION`. -/
def transportProofSchemaVersion : Int := 1

/-- `validate_cai_owned_transport_execution_proof`: the error of a proof that is not valid. -/
def validateExecutionProof (record : TransportSession) (proof : Fields) :
    Except PyError (Option String) := do
  let version ← host.int ((getD proof "schemaVersion").pyOr (.int 0))
  if version ≠ transportProofSchemaVersion then
    return some "CAI-owned transport proof schema is unsupported."
  else rules.proofChecks record proof

/-- A session that failed. -/
def TransportSession.failed (record : TransportSession) (error : String) (now : Int) :
    TransportSession :=
  { record with
    status := .failed
    lastError := some error
    updatedAt := some now }

/-- A session with its proof. -/
def TransportSession.finished (record : TransportSession) (proof : Fields)
    (now : Int) : TransportSession :=
  { record with
    status := .completed
    proof := some proof
    completedAt :=
      if (getD proof "completedAt").truthy then
        rules.parseDatetime (host.str (getD proof "completedAt"))
      else some now
    updatedAt := some now
    lastError := none }

/-- `proof or build_cai_owned_transport_execution_proof(...)`. -/
def resolveProof (proof : Option Fields) (request : Fields)
    (record : TransportSession) : Except PyError Fields :=
  match proof with
  | some (e :: es) => .ok (e :: es)
  | _ => rules.buildProof record request

/-- The completion, in the session.  The status of the session is not asked for, and a proof that
does not pass fails the session. -/
def completeInSession (payloads : List ((String × String) × Bytes))
    (proof : Option Fields) (request : Fields) (now : Int) :
    Action TransportSession PyError TransportSession := fun record =>
  match resolveProof rules proof request record with
  | .error e => (.error e, record)
  | .ok resolved =>
    match rules.executionAudit payloads record resolved with
    | .error e => (.error e, record)
    | .ok (.error error) => (.error (.valueError error), record.failed error now)
    | .ok (.ok audit) =>
      match validateExecutionProof host rules record
          (setField resolved "executionAudit" (.obj audit)) with
      | .error e => (.error e, record)
      | .ok (some error) => (.error (.valueError error), record.failed error now)
      | .ok none =>
        (.ok (record.finished host rules (setField resolved "executionAudit" (.obj audit)) now),
          record.finished host rules (setField resolved "executionAudit" (.obj audit)) now)

/-- `complete_cai_owned_transport_session`. -/
def completeCaiOwnedTransportSession (sessionId : String) (proof : Option Fields)
    (request : Fields) (now : Int) :
    Action TransportStore PyError TransportSession := fun store =>
  inSession sessionId (completeInSession host rules store.payloads proof request now) store

/-- `execution_audit.get("verified") is False`. -/
def auditRejected (proof : Fields) : Bool :=
  match getD proof "executionAudit" with
  | .obj audit =>
    match getD audit "verified" with
    | .bool false => true
    | _ => false
  | _ => false

/-- The checks of a completion notice. -/
def checkNotice (record : TransportSession) (proof : Fields) :
    Except PyError PUnit := do
  match ← validateExecutionProof host rules record proof with
  | some error => .error (.valueError error)
  | none =>
    if auditRejected proof then
      .error (transportError "completion proof audit is not verified.")
    else
      match ← rules.noticeCoverage record proof with
      | some error => .error (.valueError error)
      | none => .ok ⟨⟩

/-- A completion notice, in the session. -/
def noticeInSession (proof : Fields) (now : Int) :
    Action TransportSession PyError TransportSession := fun record =>
  match record.status with
  | .completed => (.ok record, record)
  | .failed => (.error (.valueError "Cannot complete a failed CAI-owned transport session."),
    record)
  | _ =>
    match checkNotice host rules record proof with
    | .error e => (.error e, record)
    | .ok _ => (.ok (record.finished host rules proof now), record.finished host rules proof now)

/-- `accept_cai_owned_transport_completion_notice`. -/
def acceptCompletionNotice (sessionId : String) (proof : Fields) (now : Int) :
    Action TransportStore PyError TransportSession :=
  if strip (host.strOrEmpty (getD proof "sessionId")) ≠ strip sessionId then
    throw (transportError "completion proof session id mismatch.")
  else inSession sessionId (noticeInSession host rules proof now)

/-! ### Payload retention -/

/-- `CAI_OWNED_TRANSPORT_PAYLOAD_RETENTION_SECONDS`. -/
def defaultPayloadRetention : Int := 7 * 24 * 60 * 60 * 1000000

/-- A session directory that the clean-up deletes: its session has ended long enough ago.  Of
several records with one id the last one counts. -/
def payloadsExpired (store : TransportStore) (retention now : Int) (sessionId : String) : Bool :=
  isSafeTransportFileId "caiot_" sessionId &&
    match store.sessions.reverse.find? fun record => record.sessionId = sessionId with
    | none => false
    | some record =>
      (record.status = .completed || record.status = .failed) &&
        match (record.completedAt.or record.updatedAt).or record.createdAt with
        | none => false
        | some reference => reference + retention ≤ now

/-- `cleanup_cai_owned_transport_payload_storage`. -/
def cleanupPayloadStorage (retention : Option Int) (now : Int) (store : TransportStore) :
    TransportStore :=
  let retention := retention.elim defaultPayloadRetention (max 0)
  { store with
    payloads := store.payloads.filter fun file => !payloadsExpired store retention now file.1.1 }

/-! ### What is left of a completed session -/

/-- A completed session keeps its status and its proof. -/
structure TransportSession.Final (r t : TransportSession) : Prop where
  ident : t.sessionId = r.sessionId
  status : r.status = .completed → t.status = .completed
  proof : r.status = .completed → t.proof = r.proof

def TransportStore.Final (s t : TransportStore) : Prop :=
  List.Forall₂ TransportSession.Final s.sessions t.sessions

section Final

variable {α β : Type} {r t u : TransportSession} {s s' s'' : TransportStore}

theorem TransportSession.Final.refl (r : TransportSession) : r.Final r :=
  ⟨rfl, fun h => h, fun _ => rfl⟩

theorem TransportSession.Final.trans (h : r.Final t) (h' : t.Final u) : r.Final u where
  ident := h'.ident.trans h.ident
  status hr := h'.status (h.status hr)
  proof hr := (h'.proof (h.status hr)).trans (h.proof hr)

/-- A session that is not completed may become anything. -/
theorem TransportSession.Final.of_open (hid : t.sessionId = r.sessionId)
    (h : r.status ≠ .completed) : r.Final t :=
  ⟨hid, fun hr => absurd hr h, fun hr => absurd hr h⟩

theorem TransportSession.Final.of_kept (hid : t.sessionId = r.sessionId)
    (hstatus : t.status = r.status) (hproof : t.proof = r.proof) : r.Final t :=
  ⟨hid, fun hr => hstatus.trans hr, fun _ => hproof⟩

theorem TransportStore.Final.of_sessions (h : s'.sessions = s.sessions) : s.Final s' := by
  show List.Forall₂ _ s.sessions s'.sessions
  rw [h]
  exact List.forall₂_same.mpr fun r _ => .refl r

theorem TransportStore.Final.refl (s : TransportStore) : s.Final s := .of_sessions rfl

theorem TransportStore.Final.trans (h : s.Final s') (h' : s'.Final s'') : s.Final s'' :=
  Action.moves_trans (R := TransportSession.Final) (fun hab hbc => hab.trans hbc) h h'

theorem TransportStore.Final.session (h : s.Final s') {sessionId : String}
    (hr : s.session? sessionId = some r) : ∃ t, s'.session? sessionId = some t ∧ r.Final t := by
  refine Action.find_moves (fun {a b} hab => ?_) h hr
  rw [hab.ident]

theorem final_inSessionOr {missing : PyError} {sessionId : String}
    {x : Action TransportSession PyError α}
    (hx : ∀ r, s.session? (strip sessionId) = some r → r.Final (x r).2) :
    s.Final (inSessionOr missing sessionId x s).2 :=
  Action.first_moves .refl hx

theorem final_then {x : Action TransportStore PyError α} {f : α → Action TransportStore PyError β}
    (hx : Action.Within TransportStore.Final x)
    (hf : ∀ a, Action.Within TransportStore.Final (f a)) :
    Action.Within TransportStore.Final (x >>= f) :=
  .bind (fun h h' => h.trans h') hx hf

/-- Sequences that keep the session's id. -/
theorem named_bind {x : Action TransportSession PyError α}
    {f : α → Action TransportSession PyError β} (hx : Action.Keeps (·.sessionId) x)
    (hf : ∀ a, Action.Keeps (·.sessionId) (f a)) : Action.Keeps (·.sessionId) (x >>= f) :=
  .bind (fun h h' => h'.trans h) hx hf

/-- **An operation that first refuses completed sessions leaves them.** -/
theorem final_refuseCompleted {message : String} {f : PUnit → Action TransportSession PyError α}
    (hf : Action.Keeps (·.sessionId) (f ⟨⟩)) (r : TransportSession) :
    r.Final ((refuseCompleted message >>= f) r).2 := by
  by_cases hr : r.status = .completed
  · have hrefuse : refuseCompleted message r = (.error (.valueError message), r) := if_pos hr
    rw [Action.bind_of_error hrefuse]
    exact .refl r
  · have hpass : refuseCompleted message r = (.ok ⟨⟩, r) := if_neg hr
    rw [Action.bind_of_ok hpass]
    exact .of_open (hf r) hr

theorem named_participant (nodeId : String) :
    Action.Keeps (·.sessionId) (requireSessionParticipant nodeId) :=
  fun r => by rw [requireSessionParticipant_same]

theorem named_inBatch (batchId : String) (x : Action Batch PyError α) :
    Action.Keeps (·.sessionId) (inBatch batchId x) := fun _ => rfl

end Final

/-! ### The operations leave completed sessions -/

section Operations

open Action (Within)

variable {host rules} {s : TransportStore} {r : TransportSession} {call : RuntimeCall} {now : Int}
  {sessionId batchId nodeId status dispatchId token : String} {lease maxAttempts : Option Int}
  {chainId error : Option String} {body request proof envelope : Fields}
  {details : Except PyError Fields}

theorem claim_final : Within TransportStore.Final (claimCaiOwnedTransportBatch call lease now) := by
  refine final_then (.lift .refl _) fun batchId s => final_inSessionOr fun r _ => ?_
  refine final_refuseCompleted ?_ r
  refine named_bind (named_participant _) fun node => ?_
  refine named_bind (named_inBatch _ _) fun fresh => ?_
  exact named_bind (fun _ => rfl) fun _ _ => rfl

theorem heartbeat_final :
    Within TransportStore.Final (heartbeatCaiOwnedTransportBatch call lease now) := by
  refine final_then (.lift .refl _) fun batchId s => final_inSessionOr fun r _ => ?_
  refine final_refuseCompleted ?_ r
  refine named_bind (named_participant _) fun node => ?_
  refine named_bind (named_inBatch _ _) fun _ => ?_
  exact named_bind (fun _ => rfl) fun _ _ => rfl

theorem markInSession_final {status : BatchStatus} :
    r.Final (markInSession batchId nodeId status details now r).2 := by
  refine final_refuseCompleted ?_ r
  refine named_bind (fun r => by rw [requireMarkingNode_same]) fun node => ?_
  refine named_bind (named_inBatch _ _) fun _ => ?_
  exact named_bind (fun _ => rfl) fun _ _ => rfl

theorem markStatus_final : Within TransportStore.Final
      (markCaiOwnedTransportBatchStatus sessionId batchId status nodeId details now) := by
  refine final_then (.lift .refl _) fun id => ?_
  refine .ite (fun _ => .throw .refl _) fun _ s => final_inSessionOr fun r _ => ?_
  exact markInSession_final

theorem markProcessed_final {output : Option Bytes} :
    Within TransportStore.Final (markProcessed rules call output request now) := by
  refine final_then (.of_same .refl fun s => owner_same) fun _ => ?_
  refine final_then (.of_same .refl fun s => ?_) fun batch => ?_
  · unfold sourceBatch
    split <;> rfl
  refine final_then (fun s => .of_sessions (storeOutputPayload_sessions call output)) fun _ => ?_
  exact final_then (.lift .refl _) fun chain => markStatus_final

/-- Giving a work item up does not ask for the status of the session, and leaves it alone. -/
theorem fail_final {retryable : Bool} : Within TransportStore.Final
      (failCaiOwnedTransportWorkItem call error retryable maxAttempts now) := by
  refine final_then (.of_same .refl fun s => owner_same) fun _ => ?_
  refine final_then (.lift .refl _) fun batchId s => final_inSessionOr fun r _ => ?_
  have hkept : Within TransportSession.Final
      (failInSession call batchId (workItemError error) retryable
        (coerceMaxAttempts maxAttempts) now) := by
    refine .bind (fun h h' => h.trans h')
      (.of_same .refl fun r => requireSessionParticipant_same) fun node => ?_
    refine .bind (fun h h' => h.trans h') (fun r => .of_kept rfl rfl rfl) fun status => ?_
    exact .bind (fun h h' => h.trans h') (fun r => .of_kept rfl rfl rfl) fun _ => .pure .refl _
  exact hkept r

theorem reconcile_final {receivedTimeout : Option Int} : Within TransportStore.Final
      (reconcileCaiOwnedTransportSessionTimeouts sessionId receivedTimeout maxAttempts now) := by
  refine fun s => final_inSessionOr fun r _ => ?_
  unfold reconcileSession
  split
  · exact .refl r
  rename_i hr
  dsimp only
  split
  · exact .of_open rfl hr
  split
  · exact .of_open rfl hr
  · exact .refl r

theorem leaseOp_final (op : LeaseOp) (s : TransportStore) : s.Final (op.apply rules s) := by
  cases op with
  | claim call lease now => exact claim_final s
  | claimNext nodeId status sessionId runtimeId lease now =>
    exact claimNext_within .refl .trans (fun _ => claim_final) s
  | heartbeat call lease now => exact heartbeat_final s
  | complete call output request now =>
    show s.Final (completeCaiOwnedTransportBatchProcessing rules call output request now s).2
    rw [complete_state]
    exact markProcessed_final s
  | fail call error retryable maxAttempts now => exact fail_final s
  | reconcile sessionId receivedTimeout maxAttempts now => exact reconcile_final s

theorem record_final {request : BatchRequest} : Within TransportStore.Final
      (recordCaiOwnedTransportBatch host sessionId request token now) := by
  refine fun s => final_inSessionOr fun r _ => final_refuseCompleted ?_ r
  refine named_bind (named_participant _) fun source => ?_
  refine named_bind (named_participant _) fun sink => ?_
  refine .ite (fun _ _ => rfl) fun _ => ?_
  refine named_bind (fun _ => rfl) fun batchId r => ?_
  unfold appendBatch
  split
  · split <;> rfl
  · split <;> rfl

theorem receipt_final : Within TransportStore.Final
      (recordCaiOwnedTransportShardReceipt host rules sessionId nodeId chainId body now) := by
  refine fun s => final_inSessionOr fun r _ => final_refuseCompleted ?_ r
  refine named_bind (fun _ => rfl) fun record => ?_
  refine named_bind (fun _ => rfl) fun chain => ?_
  refine named_bind (named_participant _) fun node => ?_
  refine named_bind (fun _ => rfl) fun clean => ?_
  exact named_bind (fun _ => rfl) fun _ _ => rfl

theorem envelope_final {localNodeId : String} : Within TransportStore.Final
      (recordCaiOwnedTransportBatchEnvelope host rules sessionId localNodeId envelope now) := by
  refine final_then (.of_same .refl fun s => ?_) fun record => ?_
  · unfold envelopeSession
    split <;> rfl
  refine final_then (.lift .refl _) fun payload => ?_
  refine final_then (.lift .refl _) fun _ => ?_
  refine final_then (.lift .refl _) fun batchId => ?_
  refine final_then (fun s => .of_sessions storePayload_sessions) fun _ => ?_
  refine final_then record_final fun _ => ?_
  refine .ite (fun _ => ?_) fun _ => .pure .refl _
  refine final_then (.lift .refl _) fun receipts => ?_
  refine final_then ?_ fun _ => .pure .refl _
  exact .each .refl (fun h h' => h.trans h') (fun receipt => receipt_final) receipts

theorem dispatch_final :
    Within TransportStore.Final (upsertDispatchRecord sessionId dispatchId body now) := by
  refine .ite (fun _ => .throw .refl _) fun _ => ?_
  refine .ite (fun _ => .throw .refl _) fun _ s => final_inSessionOr fun r _ => ?_
  -- only a session that was just created gets another status
  refine ⟨rfl, fun hr => ?_, fun _ => rfl⟩
  show r.status.started = .completed
  rw [hr]
  rfl

theorem failSession_final :
    Within TransportStore.Final (failCaiOwnedTransportSession sessionId error now) := by
  refine fun s => final_inSessionOr fun r _ => final_refuseCompleted ?_ r
  exact named_bind (fun _ => rfl) fun _ _ => rfl

theorem notice_final : Within TransportStore.Final
      (acceptCompletionNotice host rules sessionId proof now) := by
  refine .ite (fun _ => .throw .refl _) fun _ s => final_inSessionOr fun r _ => ?_
  unfold noticeInSession
  split
  · exact .refl r
  · exact .refl r
  · rename_i hr _
    split
    · exact .refl r
    · exact .of_open rfl hr

/-- The completion leaves a session alone that is not the one it is called for, and may do
anything to one that is open. -/
theorem completeSession_final {proof : Option Fields}
    (hopen : ∀ r, s.session? (strip sessionId) = some r → r.status ≠ .completed) :
    s.Final (completeCaiOwnedTransportSession host rules sessionId proof request now s).2 := by
  refine final_inSessionOr fun r hr => ?_
  have hr := hopen r hr
  unfold completeInSession
  split
  · exact .refl r
  split
  · exact .refl r
  · exact .of_open rfl hr
  · split
    · exact .refl r
    · exact .of_open rfl hr
    · exact .of_open rfl hr

end Operations

/-! ### Runs -/

/-- The operations that rewrite session records or payload files. -/
inductive SessionOp
  | lease (op : LeaseOp)
  | recordBatch (sessionId : String) (request : BatchRequest) (token : String) (now : Int)
  | recordEnvelope (sessionId localNodeId : String) (envelope : Fields) (now : Int)
  | markStatus (sessionId batchId status nodeId : String)
      (details : Except PyError Fields) (now : Int)
  | recordReceipt (sessionId nodeId : String) (chainId : Option String)
      (body : Fields) (now : Int)
  | upsertDispatch (sessionId dispatchId : String) (body : Fields) (now : Int)
  | failSession (sessionId : String) (error : Option String) (now : Int)
  | completeSession (sessionId : String) (proof : Option Fields)
      (request : Fields) (now : Int)
  | completionNotice (sessionId : String) (proof : Fields) (now : Int)
  | cleanup (retention : Option Int) (now : Int)

/-- The store after the operation, whether it returns or raises. -/
def SessionOp.step (op : SessionOp) (s : TransportStore) : TransportStore :=
  match op with
  | lease op => op.apply rules s
  | recordBatch sessionId request token now =>
    (recordCaiOwnedTransportBatch host sessionId request token now s).2
  | recordEnvelope sessionId localNodeId envelope now =>
    (recordCaiOwnedTransportBatchEnvelope host rules sessionId localNodeId envelope now s).2
  | markStatus sessionId batchId status nodeId details now =>
    (markCaiOwnedTransportBatchStatus sessionId batchId status nodeId details now s).2
  | recordReceipt sessionId nodeId chainId body now =>
    (recordCaiOwnedTransportShardReceipt host rules sessionId nodeId chainId body now s).2
  | upsertDispatch sessionId dispatchId body now =>
    (upsertDispatchRecord sessionId dispatchId body now s).2
  | failSession sessionId error now => (failCaiOwnedTransportSession sessionId error now s).2
  | completeSession sessionId proof request now =>
    (completeCaiOwnedTransportSession host rules sessionId proof request now s).2
  | completionNotice sessionId proof now =>
    (acceptCompletionNotice host rules sessionId proof now s).2
  | cleanup retention now => cleanupPayloadStorage retention now s

/-- The operation does not complete a session that is completed. -/
def SessionOp.CompletesOnce (op : SessionOp) (s : TransportStore) : Prop :=
  match op with
  | completeSession sessionId _ _ _ =>
    ∀ r, s.session? (strip sessionId) = some r → r.status ≠ .completed
  | _ => True

theorem SessionOp.step_final (op : SessionOp) (s : TransportStore) (h : op.CompletesOnce s) :
    s.Final (op.step host rules s) := by
  cases op with
  | lease op => exact leaseOp_final op s
  | recordBatch sessionId request token now => exact record_final s
  | recordEnvelope sessionId localNodeId envelope now => exact envelope_final s
  | markStatus sessionId batchId status nodeId details now => exact markStatus_final s
  | recordReceipt sessionId nodeId chainId body now => exact receipt_final s
  | upsertDispatch sessionId dispatchId body now => exact dispatch_final s
  | failSession sessionId error now => exact failSession_final s
  | completeSession sessionId proof request now => exact completeSession_final h
  | completionNotice sessionId proof now => exact notice_final s
  | cleanup retention now => exact .of_sessions rfl

/-- **A completed session stays completed, with its proof**, in every run in which no completed
session is completed once more. -/
theorem sessionRuns_final (ops : List SessionOp) (store : TransportStore)
    (honce : Machine.Meets (SessionOp.step host rules) SessionOp.CompletesOnce ops store)
    {sessionId : String} {r : TransportSession} (hr : store.session? sessionId = some r)
    (hcompleted : r.status = .completed) : Machine.Always (SessionOp.step host rules)
      (fun s => ∃ t, s.session? sessionId = some t ∧ t.status = .completed ∧ t.proof = r.proof)
      ops store := by
  refine Machine.always_of_invariant ?_ honce ⟨r, hr, hcompleted, rfl⟩
  rintro op s ⟨t, ht, hstatus, hproof⟩ hop
  obtain ⟨u, hu, htu⟩ := (op.step_final host rules s hop).session ht
  exact ⟨u, hu, htu.status hstatus, (htu.proof hstatus).trans hproof⟩

section Sample

/-- A completed session with its proof. -/
def sampleCompleted : TransportStore where
  sessions :=
    [{ sessionId := "caiot_1"
       participantNodeIds := ["n"]
       status := .completed
       batchRecords := [{ batchId := "caibatch_1", status := .processed, sinkNodeId := "n" }]
       proof := some [("schemaVersion", .int 1)] }]

theorem sessionRuns_final_claim : Machine.Always (SessionOp.step sampleHost sampleRules)
      (fun s => ∃ t, s.session? "caiot_1" = some t ∧ t.status = .completed ∧
        t.proof = some [("schemaVersion", .int 1)])
      [.lease (.claim (sampleCall "r") none 0), .failSession "caiot_1" none 1,
        .cleanup (some 0) 2] sampleCompleted := by
  have hr : sampleCompleted.session? "caiot_1" = some _ := rfl
  have honce : Machine.Meets (SessionOp.step sampleHost sampleRules) SessionOp.CompletesOnce
      [.lease (.claim (sampleCall "r") none 0), .failSession "caiot_1" none 1,
        .cleanup (some 0) 2] sampleCompleted := ⟨trivial, trivial, trivial, trivial⟩
  exact sessionRuns_final sampleHost sampleRules _ _ honce hr rfl

/-- Rules whose audit gives this verdict. -/
def sampleVerdict (verdict : Except String Fields) : TransportRules :=
  { sampleRules with
    executionAudit := fun _ _ _ => .ok verdict }

/-- Completing a completed session once more, with a proof that is none: whether the audit refuses
it or the schema version does, the session has failed afterwards. -/
theorem sessionRuns_reopened :
    (sampleCompleted.session? "caiot_1").map (fun r => (r.status, r.proof.isSome)) =
        some (.completed, true) ∧
      ¬Machine.Always (SessionOp.step sampleHost (sampleVerdict (.ok [])))
        (fun s => (s.session? "caiot_1").map (fun r => r.status) = some .completed)
        [.completeSession "caiot_1" (some [("a", .int 1)]) [] 0] sampleCompleted ∧
      ¬Machine.Always (SessionOp.step sampleHost (sampleVerdict (.error "not covered")))
        (fun s => (s.session? "caiot_1").map (fun r => r.status) = some .completed)
        [.completeSession "caiot_1" (some [("a", .int 1)]) [] 0] sampleCompleted := by
  have hfailed : ∀ verdict, verdict = .ok [] ∨ verdict = .error "not covered" →
      ((SessionOp.step sampleHost (sampleVerdict verdict) (.completeSession "caiot_1"
        (some [("a", .int 1)]) [] 0) sampleCompleted).session? "caiot_1").map (fun r => r.status) =
          some .failed := by
    rintro verdict (rfl | rfl) <;> decide
  refine ⟨rfl, ?_, ?_⟩
  · rintro ⟨-, hlast⟩
    cases (hfailed _ (.inl rfl)).symm.trans hlast
  · rintro ⟨-, hlast⟩
    cases (hfailed _ (.inr rfl)).symm.trans hlast

end Sample

end CaiNetwork
