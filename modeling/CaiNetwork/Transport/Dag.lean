/-
CaiNetwork/Transport/Dag.lean

Execution DAGs (`build_cai_owned_transport_execution_dag`,
`validate_cai_owned_transport_execution_dag`, `cai_owned_transport_output_route_plan_from_dag`).

A DAG lists the stages of a session: which executor runs which layers in which phase, where its
input comes from and where its output goes.  The validator gets a dictionary from a peer and works
out for each number what the stage must be (`DagPlan`).
-/

import CaiNetwork.Transport.Envelope
import CaiNetwork.Transport.Shards

namespace CaiNetwork.Transport

open Json (getD)

variable (host : Host)

/-! ### Phases and modes -/

def prefillPhase : String := "prefill_activation_batches"

def decodePhase : String := "decode_activation_batches"

/-- The pipelines there are. -/
inductive PipelineMode
  | fullPrefillDecode
  | singlePassFinalDecode
deriving DecidableEq

def PipelineMode.text : PipelineMode → String
  | .fullPrefillDecode => "full_prefill_decode"
  | .singlePassFinalDecode => "single_pass_final_decode"

/-- The mode of a stripped text; the empty one stands for the full pipeline. -/
def pipelineMode? (text : String) : Option PipelineMode :=
  if text = "" ∨ text = PipelineMode.fullPrefillDecode.text then some .fullPrefillDecode
  else if text = PipelineMode.singlePassFinalDecode.text then some .singlePassFinalDecode
  else none

/-! ### Ids -/

section Ids

/-- The text whose digest is a stage's id. -/
def stageFingerprint (sessionId phase : String) (sequence : Int) (executorNodeId : String)
    (layerStart layerEnd : Int) : Bytes :=
  toBytes (Json.obj [("executorNodeId", .str (strip executorNodeId)), ("layerEnd", .int layerEnd),
    ("layerStart", .int layerStart), ("phase", .str (strip phase)),
    ("protocol", .str transportProtocol), ("protocolVersion", .int 1),
    ("sequence", .int (max 0 sequence)), ("sessionId", .str (strip sessionId))]).dumps

/-- `cai_owned_transport_stage_id`. -/
def transportStageId (sessionId phase : String) (sequence : Int) (executorNodeId : String)
    (layerStart layerEnd : Int) : String :=
  "caistage_" ++
    fingerprintDigest (stageFingerprint sessionId phase sequence executorNodeId layerStart layerEnd)

/-- `cai_owned_transport_dag_hash`. -/
def dagHash (dag : Fields) : String :=
  payloadSha256Hex (toBytes (Json.obj (dag.filter (·.1 ≠ "dagHashSha256Hex"))).dumps)

end Ids

/-! ### Building -/

/-- A stage, as the builder writes it. -/
structure Stage where
  stageId : String
  sequence : Nat
  phase : String
  sourceNodeId : String
  executorNodeId : String
  outputToNodeId : String
  dependsOnStageIds : List String
  layerStart : Int
  layerEnd : Int
  expectedInputPayloadSha256Hex : Option String
  expectedOutputPayloadSha256Hex : Option String
  payloadRole : String
  singleExecutorDirectFinalOutput : Bool := false
deriving DecidableEq

def optionalStr : Option String → Json
  | some s => .str s
  | none => .null

/-- The dictionary of a stage; its sink is its executor. -/
def Stage.fields (stage : Stage) : Fields :=
  [("stageId", .str stage.stageId), ("sequence", .int stage.sequence), ("phase", .str stage.phase),
    ("sourceNodeId", .str stage.sourceNodeId), ("sinkNodeId", .str stage.executorNodeId),
    ("executorNodeId", .str stage.executorNodeId), ("outputToNodeId", .str stage.outputToNodeId),
    ("dependsOnStageIds", .arr (stage.dependsOnStageIds.map .str)),
    ("layerStart", .int stage.layerStart), ("layerEnd", .int stage.layerEnd),
    ("expectedInputPayloadSha256Hex", optionalStr stage.expectedInputPayloadSha256Hex),
    ("expectedOutputPayloadSha256Hex", optionalStr stage.expectedOutputPayloadSha256Hex),
    ("payloadRole", .str stage.payloadRole)] ++
  if stage.singleExecutorDirectFinalOutput then
    [("singleExecutorDirectFinalOutput", .bool true)]
  else []

/-- The range at the index; the loops stay inside the list. -/
def rangeAt (ranges : List ShardRange) (index : Nat) : ShardRange := ranges.getD index ⟨"", 0, 0⟩

/-- Where the input of a shard comes from. -/
def shardSource (requester : String) (ranges : List ShardRange) (index : Nat) : String :=
  if index = 0 then requester else (rangeAt ranges (index - 1)).nodeId

/-- Where the output of a shard goes. -/
def shardOutput (requester : String) (ranges : List ShardRange) (index : Nat) : String :=
  if index + 1 = ranges.length then requester else (rangeAt ranges (index + 1)).nodeId

/-- What the loops of the builder read. -/
structure DagContext where
  sessionId : String
  requester : String
  ranges : List ShardRange
  inputHash : Option String
  expectedOutputHash : Option String

namespace DagContext

variable (ctx : DagContext)

/-- The stage of a shard in a phase. -/
def stage (phase : String) (sequence index : Nat) (range : ShardRange) (dependsOn : List String)
    (input output : Option String) (payloadRole : String) : Stage where
  stageId := transportStageId ctx.sessionId phase sequence range.nodeId range.layerStart
    range.layerEnd
  sequence := sequence
  phase := phase
  sourceNodeId := shardSource ctx.requester ctx.ranges index
  executorNodeId := range.nodeId
  outputToNodeId := shardOutput ctx.requester ctx.ranges index
  dependsOnStageIds := dependsOn
  layerStart := range.layerStart
  layerEnd := range.layerEnd
  expectedInputPayloadSha256Hex := input
  expectedOutputPayloadSha256Hex := output
  payloadRole := payloadRole

/-- A stage of the single pass: the last shard decodes. -/
def singlePassStage (sequence index : Nat) (range : ShardRange) (dependsOn : List String) : Stage :=
  let isFinal : Bool := index + 1 = ctx.ranges.length
  ctx.stage (if isFinal then decodePhase else prefillPhase) sequence index range dependsOn
    (if index = 0 then ctx.inputHash else none) (if isFinal then ctx.expectedOutputHash else none)
    (if isFinal then "final_output" else "prefill_activation")

/-- A stage of a phase of the full pipeline. -/
def phaseStage (phase : String) (sequence index : Nat) (range : ShardRange)
    (dependsOn : List String) : Stage :=
  ctx.stage phase sequence index range dependsOn
    (if phase = prefillPhase ∧ index = 0 then ctx.inputHash else none)
    (if phase = decodePhase ∧ index + 1 = ctx.ranges.length then ctx.expectedOutputHash else none)
    (if phase = prefillPhase then "prefill_activation" else "decode_activation")

/-- The loop over the shards: every stage waits for the one before it, the first one for
`entry`. -/
def pipelineStages (stageAt : (sequence index : Nat) → ShardRange → List String → Stage)
    (entry : List String) :
    (sequence index : Nat) → (previousStageId : Option String) → List ShardRange → List Stage
  | _, _, _, [] => []
  | sequence, index, previousStageId, range :: rest =>
    let dependsOn := match previousStageId with
      | some id => [id]
      | none => entry
    let stage := stageAt sequence index range dependsOn
    stage :: pipelineStages stageAt entry (sequence + 1) (index + 1) (some stage.stageId) rest

/-- The stages of a DAG. -/
def stages (direct : Bool) (mode : PipelineMode) : List Stage :=
  if direct then
    let range := rangeAt ctx.ranges 0
    [{ ctx.stage decodePhase 0 0 range [] ctx.inputHash ctx.expectedOutputHash "final_output" with
      singleExecutorDirectFinalOutput := true }]
  else match mode with
    | .singlePassFinalDecode => pipelineStages ctx.singlePassStage [] 0 0 none ctx.ranges
    | .fullPrefillDecode =>
      let prefill := pipelineStages (ctx.phaseStage prefillPhase) [] 0 0 none ctx.ranges
      let lastPrefillStageId := prefill.getLast?.map (·.stageId)
      prefill ++ pipelineStages (ctx.phaseStage decodePhase) lastPrefillStageId.toList
        prefill.length 0 none ctx.ranges

end DagContext

/-- `optional_sha256_hex`. -/
def optionalSha256Hex (value : Option String) (fieldName : String) :
    Except PyError (Option String) :=
  if strip (value.getD "") = "" then .ok none
  else (normalizeSha256Hex host (.str (value.getD "")) fieldName).map some

/-- The arguments of the builder. -/
structure DagRequest where
  sessionId : String
  requesterNodeId : String
  executorNodeIds : List String
  totalLayerCount : Int
  shardRanges : Json := .null
  chainId : Option String := none
  modelId : Option String := none
  taskId : Option String := none
  coordinatorNodeId : Option String := none
  inputPayloadSha256Hex : Option String := none
  expectedOutputPayloadSha256Hex : Option String := none
  createdAt : String
  singleExecutorDirectFinalOutput : Bool := false
  executionPipelineMode : Option String := none

/-- `str(value or "").strip() or None`. -/
def strippedOrNone (value : Option String) : Json :=
  if strip (value.getD "") = "" then .null else .str (strip (value.getD ""))

/-- The fields of a DAG before its hash. -/
def dagFields (request : DagRequest) (executors : List String) (ranges : List ShardRange)
    (direct : Bool) (mode : PipelineMode) (stages : List Stage) : Fields :=
  let chain := transportChainId host request.chainId
  let requester := strip request.requesterNodeId
  let coordinator := if strip (request.coordinatorNodeId.getD "") = "" then requester
    else strip (request.coordinatorNodeId.getD "")
  [("schemaVersion", .int 1), ("protocol", .str transportProtocol), ("protocolVersion", .int 1),
    ("network", .str chain), ("chainId", .str chain), ("sessionId", .str (strip request.sessionId)),
    ("taskId", strippedOrNone request.taskId), ("modelId", strippedOrNone request.modelId),
    ("requesterNodeId", .str requester), ("coordinatorNodeId", .str coordinator),
    ("executorNodeIds", .arr (executors.map .str)),
    ("participantNodeIds", .arr ((cleanNodeIds (requester :: coordinator :: executors)).map .str)),
    ("totalLayerCount", .int request.totalLayerCount),
    ("shardRanges", .arr (ranges.map ShardRange.json)),
    ("stages", .arr (stages.map fun stage => .obj stage.fields)),
    ("stageCount", .int stages.length), ("singleExecutorDirectFinalOutput", .bool direct),
    ("executionPipelineMode", .str mode.text), ("createdAt", .str request.createdAt)]

/-- `build_cai_owned_transport_execution_dag`. -/
def buildExecutionDag (request : DagRequest) : Except PyError Fields := do
  raiseIf (strip request.sessionId = "") (dagError "requires session id.")
  raiseIf (strip request.requesterNodeId = "") (dagError "requires requester node.")
  let executors := cleanNodeIds request.executorNodeIds
  raiseIf (executors = []) (dagError "requires executors.")
  raiseIf (request.totalLayerCount ≤ 0) (dagError "total layer count is invalid.")
  raiseIf (request.totalLayerCount < executors.length)
    (dagError "executor count exceeds total layer count.")
  let inputHash ← optionalSha256Hex host request.inputPayloadSha256Hex "inputPayloadSha256Hex"
  let outputHash ← optionalSha256Hex host request.expectedOutputPayloadSha256Hex
    "expectedOutputPayloadSha256Hex"
  let ranges ← normalizeShardRanges host executors request.totalLayerCount request.shardRanges
  let direct := request.singleExecutorDirectFinalOutput && ranges.length = 1
  match pipelineMode? (strip (request.executionPipelineMode.getD "")) with
  | none => .error (.valueError (dagError "pipeline mode is invalid."))
  | some requested =>
    let mode := if direct then .singlePassFinalDecode else requested
    let ctx : DagContext := ⟨strip request.sessionId, strip request.requesterNodeId, ranges,
      inputHash, outputHash⟩
    let fields := dagFields host request executors ranges direct mode (ctx.stages direct mode)
    return fields ++ [("dagHashSha256Hex", .str (dagHash fields))]

/-! ### Validating -/

/-- The arguments of the validator. -/
structure DagCheck where
  chainId : Option String := none
  sessionId : Option String := none
  participantNodeIds : List String := []

/-- What iterating over a value gives. -/
def pyItems : Json → Except PyError (List Json)
  | .arr xs => .ok xs
  | .str s => .ok (s.toList.map fun c => .str (String.ofList [c]))
  | .obj kvs => .ok (kvs.map fun kv => .str kv.1)
  | _ => .error .typeError

/-- `clean_node_ids(dag.get(key) or [])`. -/
def nodeIdsOf (kvs : Fields) (key : String) : Except Refusal (List String) :=
  match pyItems ((getD kvs key).pyOr (.arr [])) with
  | .ok items => .ok (cleanNodeIds (items.map host.strOrEmpty))
  | .error e => .error (.raised e)

/-- `==` of a value and an integer; that of a float is the interpreter's. -/
def equalsInt (floatEquals : FloatLit → Int → Bool) : Json → Int → Bool
  | .int m, n => m = n
  | .bool b, n => (if b then 1 else 0) = n
  | .float lit, n => floatEquals lit n
  | _, _ => false

/-- `==` of a value and a normalised range. -/
def equalsRange (floatEquals : FloatLit → Int → Bool) (item : Json) (range : ShardRange) : Bool :=
  match item with
  | .obj kvs => kvs.length = 4 && equalsText (getD kvs "nodeId") range.nodeId &&
      equalsInt floatEquals (getD kvs "layerStart") range.layerStart &&
      equalsInt floatEquals (getD kvs "layerEnd") range.layerEnd &&
      equalsInt floatEquals (getD kvs "layerCount") range.layerCount
  | _ => false
where
  equalsText : Json → String → Bool
    | .str s, t => s = t
    | _, _ => false

/-- `==` of a value and the list of normalised ranges. -/
def equalsRanges (floatEquals : FloatLit → Int → Bool) (v : Json) (ranges : List ShardRange) :
    Bool :=
  match v with
  | .arr items => items.length = ranges.length &&
      (items.zip ranges).all fun pair => equalsRange floatEquals pair.1 pair.2
  | _ => false

/-- `==` of a list and a list of strings. -/
def equalsTexts : List Json → List String → Bool
  | [], [] => true
  | .str s :: items, t :: texts => s = t && equalsTexts items texts
  | _, _ => false

/-- What the validator expects of the stages. -/
structure DagPlan where
  sessionId : String
  requester : String
  ranges : List ShardRange
  direct : Bool
  mode : PipelineMode

namespace DagPlan

variable (plan : DagPlan)

/-- `shard_index`. -/
def shardIndex (sequence : Nat) : Nat :=
  if plan.direct then 0
  else match plan.mode with
    | .singlePassFinalDecode => sequence
    | .fullPrefillDecode => sequence % plan.ranges.length

/-- `expected_phase`; the count of stages keeps the index of the phase inside the list. -/
def phase (sequence : Nat) : String :=
  if plan.direct then decodePhase
  else match plan.mode with
    | .singlePassFinalDecode =>
      if sequence + 1 = plan.ranges.length then decodePhase else prefillPhase
    | .fullPrefillDecode => batchPhases.getD (sequence / plan.ranges.length) ""

/-- `expected_range`. -/
def range (sequence : Nat) : ShardRange := rangeAt plan.ranges (plan.shardIndex sequence)

/-- `expected_stage_count`, by the executors there are. -/
def stageCount (executors : Nat) : Nat :=
  if plan.direct then 1
  else match plan.mode with
    | .singlePassFinalDecode => executors
    | .fullPrefillDecode => executors * batchPhases.length

end DagPlan

/-- What the loop over the stages carries along. -/
structure StageLoop where
  seenStageIds : List String
  lastPrefillStageId : Option String

section Validate

variable (plan : DagPlan)

/-- `str(stages[index].get("stageId") or "")`. -/
def stageIdText (stages : List Json) (index : Nat) : String :=
  host.strOrEmpty (getD (stages.getD index .null).fields "stageId")

/-- `expected_dependencies`. -/
def expectedDependencies (stages : List Json) (sequence : Nat) (loop : StageLoop) : List String :=
  if plan.direct then []
  else match plan.mode with
    | .singlePassFinalDecode =>
      if 0 < sequence then [stageIdText host stages (sequence - 1)] else []
    | .fullPrefillDecode =>
      if 0 < plan.shardIndex sequence then [stageIdText host stages (sequence - 1)]
      else if plan.phase sequence = decodePhase then loop.lastPrefillStageId.toList
      else []

/-- An optional digest of a stage. -/
def checkStageHash (kvs : Fields) (fieldName : String) : Except Refusal Unit :=
  if (getD kvs fieldName).truthy then
    (refuseValueError (normalizeSha256Hex host (getD kvs fieldName) fieldName)).map fun _ => ()
  else .ok ()

/-- `_optional_int(stage.get(key))`. -/
def stageInt (kvs : Fields) (key : String) : Except Refusal (Option Int) :=
  (optionalInt host (getD kvs key)).mapError .raised

/-- The body of the loop over the stages. -/
def checkStage (stages : List Json) (sequence : Nat) (loop : StageLoop) (stage : Json) :
    Except Refusal StageLoop :=
  match stage with
  | .obj kvs => do
    let number ← stageInt host kvs "sequence"
    refuseIf (number ≠ some (sequence : Int)) (dagError "stage sequence is invalid.")
    let index := plan.shardIndex sequence
    let range := plan.range sequence
    let phase := fieldText host kvs "phase"
    refuseIf (phase ≠ plan.phase sequence) (dagError "stage phase is unsupported.")
    let executor := fieldText host kvs "executorNodeId"
    refuseIf (executor ≠ range.nodeId) (dagError "stage executor is invalid.")
    refuseIf (fieldText host kvs "sinkNodeId" ≠ executor) (dagError "stage sink is invalid.")
    refuseIf (fieldText host kvs "sourceNodeId" ≠ shardSource plan.requester plan.ranges index)
      (dagError "stage route is invalid.")
    refuseIf (fieldText host kvs "outputToNodeId" ≠ shardOutput plan.requester plan.ranges index)
      (dagError "stage route is invalid.")
    let layerStart ← stageInt host kvs "layerStart"
    let layerEnd ← stageInt host kvs "layerEnd"
    match layerStart, layerEnd with
    | some layerStart, some layerEnd => do
      refuseIf (layerEnd ≤ layerStart) (dagError "stage layer range is invalid.")
      refuseIf (layerStart ≠ range.layerStart ∨ layerEnd ≠ range.layerEnd)
        (dagError "stage layer range is invalid.")
      let expectedStageId :=
        transportStageId plan.sessionId phase sequence executor layerStart layerEnd
      refuseIf (fieldText host kvs "stageId" ≠ expectedStageId)
        (dagError "stage id does not match.")
      match (getD kvs "dependsOnStageIds").pyOr (.arr []) with
      | .arr dependsOn => do
        let expected := expectedDependencies host plan stages sequence loop
        refuseIf (equalsTexts dependsOn expected = false)
          (dagError "stage dependencies are invalid.")
        refuseIf (∃ id ∈ dependsOn, strip (host.strOrEmpty id) ∉ loop.seenStageIds)
          (dagError "stage dependency is invalid.")
        checkStageHash host kvs "expectedInputPayloadSha256Hex"
        checkStageHash host kvs "expectedOutputPayloadSha256Hex"
        return ⟨loop.seenStageIds ++ [expectedStageId],
          if phase = prefillPhase ∧ index + 1 = plan.ranges.length then some expectedStageId
          else loop.lastPrefillStageId⟩
      | _ => .error (.refused (dagError "stage dependencies are invalid."))
    | _, _ => .error (.refused (dagError "stage layer range is invalid."))
  | _ => .error (.refused (dagError "stage is invalid."))

/-- The loop over the stages. -/
def checkStages (stages : List Json) : (sequence : Nat) → StageLoop → List Json →
    Except Refusal Unit
  | _, _, [] => .ok ()
  | sequence, loop, stage :: rest => do
    let loop ← checkStage host plan stages sequence loop stage
    checkStages stages (sequence + 1) loop rest

variable (check : DagCheck) (kvs : Fields)

/-- The checks of version, chain, session and participants; the executors are returned. -/
def checkDagHead : Except Refusal (List String) := do
  let version ← envelopeInt host kvs "schemaVersion"
  refuseIf (version ≠ 1) (dagError "schema is unsupported.")
  refuseIf (fieldText host kvs "protocol" ≠ transportProtocol) (dagError "protocol is invalid.")
  let protocolVersion ← envelopeInt host kvs "protocolVersion"
  refuseIf (protocolVersion ≠ 1) (dagError "protocol version is unsupported.")
  checkChainId host kvs "execution DAG" (transportChainId host check.chainId)
  let expectedSession := strip (check.sessionId.getD "")
  refuseIf (fieldText host kvs "sessionId" = "") (dagError "session id is missing.")
  refuseIf (expectedSession ≠ "" ∧ fieldText host kvs "sessionId" ≠ expectedSession)
    (dagError "session id does not match.")
  let requester := fieldText host kvs "requesterNodeId"
  let coordinator := fieldText host kvs "coordinatorNodeId"
  let executors ← nodeIdsOf host kvs "executorNodeIds"
  let participants ← nodeIdsOf host kvs "participantNodeIds"
  let expected := cleanNodeIds check.participantNodeIds
  refuseIf (requester = "" ∨ coordinator = "" ∨ executors = [])
    (dagError "participants are missing.")
  refuseIf (expected ≠ [] ∧ ¬(participants ⊆ expected ∧ expected ⊆ participants))
    (dagError "participant set does not match.")
  refuseIf (¬(requester :: coordinator :: executors ⊆ participants))
    (dagError "participant list is incomplete.")
  return executors

/-- The checks of layers, ranges, number of stages and mode; what follows for the stages is
returned, with the stages. -/
def checkDagShape (floatEquals : FloatLit → Int → Bool) (executors : List String) :
    Except Refusal (DagPlan × List Json) := do
  let totalLayers ← intOrZero host (getD kvs "totalLayerCount")
    (dagError "total layer count is invalid.")
  refuseIf (totalLayers ≤ 0) (dagError "total layer count is invalid.")
  refuseIf (totalLayers < executors.length) (dagError "executor count exceeds total layer count.")
  let ranges ← refuseValueError
    (normalizeShardRanges host executors totalLayers (getD kvs "shardRanges"))
  refuseIf (equalsRanges floatEquals (getD kvs "shardRanges") ranges = false)
    (dagError "shard ranges are not normalized.")
  match getD kvs "stages" with
  | .arr stages => do
    refuseIf (stages = []) (dagError "stages are missing.")
    let count ← envelopeInt host kvs "stageCount"
    refuseIf (count ≠ stages.length) (dagError "stage count does not match.")
    let direct := (getD kvs "singleExecutorDirectFinalOutput").truthy
    refuseIf (direct = true ∧ executors.length ≠ 1)
      (dagError "direct final output requires one executor.")
    let modeText := fieldText host kvs "executionPipelineMode"
    -- the count is checked before the mode is: an unknown mode counts as the full pipeline
    let mode := if direct then .singlePassFinalDecode
      else (pipelineMode? modeText).getD .fullPrefillDecode
    let plan : DagPlan := ⟨fieldText host kvs "sessionId", fieldText host kvs "requesterNodeId",
      ranges, direct, mode⟩
    refuseIf (stages.length ≠ plan.stageCount executors.length) (dagError "stage count is invalid.")
    refuseIf (direct = false ∧ pipelineMode? modeText = none) (dagError "pipeline mode is invalid.")
    return (plan, stages)
  | _ => .error (.refused (dagError "stages are missing."))

/-- `validate_cai_owned_transport_execution_dag`. -/
def validateExecutionDag (floatEquals : FloatLit → Int → Bool) (check : DagCheck) (dag : Json) :
    Except Refusal Unit :=
  match dag with
  | .obj kvs => do
    let executors ← checkDagHead host check kvs
    let (plan, stages) ← checkDagShape host kvs floatEquals executors
    checkStages host plan stages 0 ⟨[], none⟩ stages
    refuseIf (host.lower (fieldText host kvs "dagHashSha256Hex") ≠ dagHash kvs)
      (dagError "hash does not match.")
  | _ => .error (.refused (dagError "is missing."))

end Validate

/-! ### Routes -/

/-- A step of an output route. -/
structure RouteStep where
  sinkNodeId : String
  phase : String
  sequence : Int
  stageId : Json
  executorNodeId : Json := .null
  layerStart : Json := .null
  layerEnd : Json := .null
  finalOutput : Bool := false

/-- The step to a stage. -/
def routeStep (stage : Fields) : Except PyError RouteStep := do
  let sequence ← host.int ((getD stage "sequence").pyOr (.int 0))
  return {
    sinkNodeId := fieldText host stage "sinkNodeId"
    phase := fieldText host stage "phase"
    sequence := sequence
    stageId := getD stage "stageId"
    executorNodeId := getD stage "executorNodeId"
    layerStart := getD stage "layerStart"
    layerEnd := getD stage "layerEnd" }

/-- The step back to the requester. -/
def finalStep (requester : String) (stage : Fields) : Except PyError RouteStep := do
  let sequence ← host.int ((getD stage "sequence").pyOr (.int 0))
  return {
    sinkNodeId := requester
    phase := fieldText host stage "phase"
    sequence := sequence + 1
    stageId := .str "final_result"
    finalOutput := true }

/-- The dictionaries among the items. -/
def dictionaries (items : List Json) : List Fields :=
  items.filterMap fun
    | .obj kvs => some kvs
    | _ => none

/-- The route through the stages after the first, and back to the requester. -/
def routeThrough (requester : String) : List Fields →
    Except PyError (List RouteStep)
  | [] => .ok []
  | first :: later =>
    if requester = "" then .ok []
    else do
      let steps ← later.mapM (routeStep host)
      let last ← finalStep host requester (later.getLast?.getD first)
      return (steps ++ [last]).filter fun step => step.sinkNodeId ≠ "" && step.phase ≠ ""

/-- `cai_owned_transport_output_route_plan_from_dag`. -/
def outputRoutePlan (dag : Fields) (requesterNodeId : String) :
    Except PyError (List RouteStep) := do
  let items ← pyItems ((getD dag "stages").pyOr (.arr []))
  routeThrough host (strip requesterNodeId) (dictionaries items)

end CaiNetwork.Transport
