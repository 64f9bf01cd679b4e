/-
CaiNetwork/Transport/DagChecks.lean

What the validator of execution DAGs establishes.

The loop over the stages takes an id over only after it was compared with the expected one.  So
the state of the loop is a function of the plan and the number (`DagPlan.loopAt`), and the loop
passes exactly when every stage is the one that is expected at its place (`checkStages_ok`).
-/

import CaiNetwork.Transport.StageIds

namespace CaiNetwork.Transport

/-! ### The plan -/

namespace DagPlan

variable (plan : DagPlan)

/-- The id that is expected at a number. -/
def stageId (sequence : Nat) : String :=
  transportStageId plan.sessionId (plan.phase sequence) sequence (plan.range sequence).nodeId
    (plan.range sequence).layerStart (plan.range sequence).layerEnd

/-- The state of the loop after a stage. -/
def nextLoop (sequence : Nat) (loop : StageLoop) : StageLoop where
  seenStageIds := loop.seenStageIds ++ [plan.stageId sequence]
  lastPrefillStageId :=
    if plan.phase sequence = prefillPhase ∧ plan.shardIndex sequence + 1 = plan.ranges.length then
      some (plan.stageId sequence)
    else loop.lastPrefillStageId

/-- The state of the loop before a stage. -/
def loopAt : Nat → StageLoop
  | 0 => ⟨[], none⟩
  | sequence + 1 => plan.nextLoop sequence (loopAt sequence)

theorem seen_loopAt {sequence : Nat} :
    (plan.loopAt sequence).seenStageIds = (List.range sequence).map plan.stageId := by
  induction sequence with
  | zero => rfl
  | succ sequence ih =>
    rw [loopAt, nextLoop, ih, List.range_succ, List.map_append]
    rfl

theorem mem_seen_loopAt {sequence : Nat} {id : String} :
    id ∈ (plan.loopAt sequence).seenStageIds ↔ ∃ i < sequence, plan.stageId i = id := by
  rw [seen_loopAt, List.mem_map]
  simp only [List.mem_range]

end DagPlan

/-! ### One stage -/

section Stage

variable {host : Host} {plan : DagPlan} {stages : List Json}

/-- The stage is the one that is expected at the number. -/
structure StageOf (host : Host) (plan : DagPlan) (stages : List Json) (sequence : Nat)
    (loop : StageLoop) (kvs : Fields) : Prop where
  number : stageInt host kvs "sequence" = .ok (some (sequence : Int))
  phase : fieldText host kvs "phase" = plan.phase sequence
  executor : fieldText host kvs "executorNodeId" = (plan.range sequence).nodeId
  sink : fieldText host kvs "sinkNodeId" = (plan.range sequence).nodeId
  source : fieldText host kvs "sourceNodeId" =
    shardSource plan.requester plan.ranges (plan.shardIndex sequence)
  output : fieldText host kvs "outputToNodeId" =
    shardOutput plan.requester plan.ranges (plan.shardIndex sequence)
  start : stageInt host kvs "layerStart" = .ok (some (plan.range sequence).layerStart)
  stop : stageInt host kvs "layerEnd" = .ok (some (plan.range sequence).layerEnd)
  nonempty : (plan.range sequence).layerStart < (plan.range sequence).layerEnd
  ident : fieldText host kvs "stageId" = plan.stageId sequence
  dependsOn : ∃ items, (Json.getD kvs "dependsOnStageIds").pyOr (.arr []) = .arr items ∧
    equalsTexts items (expectedDependencies host plan stages sequence loop) = true ∧
    ∀ id ∈ items, strip (host.strOrEmpty id) ∈ loop.seenStageIds
  inputHash : checkStageHash host kvs "expectedInputPayloadSha256Hex" = .ok ()
  outputHash : checkStageHash host kvs "expectedOutputPayloadSha256Hex" = .ok ()

theorem checkStage_ok {sequence : Nat} {loop after : StageLoop} {stage : Json} :
    checkStage host plan stages sequence loop stage = .ok after ↔
      ∃ kvs, stage = .obj kvs ∧ StageOf host plan stages sequence loop kvs ∧
        after = plan.nextLoop sequence loop := by
  constructor
  · intro h
    unfold checkStage at h
    split at h
    next kvs =>
      simp only [bind_eq_ok, refuseIf_ok, not_not] at h
      obtain ⟨_, hnumber, _, rfl, _, hphase, _, hexecutor, _, hsink, _, hsource, _, houtput,
        start?, hstart, stop?, hstop, h⟩ := h
      split at h
      next layerStart layerEnd =>
        simp only [bind_eq_ok, refuseIf_ok, not_not, not_or, not_le] at h
        obtain ⟨_, hlt, _, ⟨rfl, rfl⟩, _, hident, h⟩ := h
        rw [hphase, hexecutor] at hident
        split at h
        next items hitems =>
          simp only [bind_eq_ok, refuseIf_ok, Bool.not_eq_false] at h
          obtain ⟨_, htexts, _, hseen, _, hinput, _, hhash, hreturn⟩ := h
          refine ⟨kvs, rfl, ⟨hnumber, hphase, hexecutor, hsink.trans hexecutor, hsource, houtput,
            hstart, hstop, hlt, hident, ⟨items, hitems, htexts, fun id hid => ?_⟩, hinput, hhash⟩,
              ?_⟩
          · by_contra hnot
            exact hseen ⟨id, hid, hnot⟩
          · rw [hphase, hexecutor] at hreturn
            rw [DagPlan.nextLoop, DagPlan.stageId]
            exact (Except.ok.inj hreturn).symm
        next => cases h
      next => cases h
    next => cases h
  · rintro ⟨kvs, rfl, h, rfl⟩
    obtain ⟨items, hitems, htexts, hseen⟩ := h.dependsOn
    unfold checkStage
    simp only [bind_eq_ok, refuseIf_ok, not_not]
    refine ⟨_, h.number, (), rfl, (), h.phase, (), h.executor, (), h.sink.trans h.executor.symm, (),
      h.source, (), h.output, _, h.start, _, h.stop, ?_⟩
    simp only [bind_eq_ok, refuseIf_ok, not_not, not_or, not_le]
    refine ⟨(), h.nonempty, (), ⟨trivial, trivial⟩, (), ?_, ?_⟩
    · rw [h.phase, h.executor]
      exact h.ident
    · rw [hitems]
      simp only [bind_eq_ok, refuseIf_ok, Bool.not_eq_false]
      refine ⟨(), htexts, (), ?_, (), h.inputHash, (), h.outputHash, ?_⟩
      · rintro ⟨id, hid, hnot⟩
        exact hnot (hseen id hid)
      · rw [h.phase, h.executor]
        rfl

end Stage

/-! ### All stages -/

section Stages

variable {host : Host} {plan : DagPlan} {stages : List Json}

/-- The loop passes exactly when every stage is the expected one. -/
theorem checkStages_ok {rest : List Json} {sequence : Nat} :
    checkStages host plan stages sequence (plan.loopAt sequence) rest = .ok () ↔
      ∀ i stage, rest[i]? = some stage → ∃ kvs, stage = .obj kvs ∧
        StageOf host plan stages (sequence + i) (plan.loopAt (sequence + i)) kvs := by
  induction rest generalizing sequence with
  | nil => exact ⟨fun _ i stage h => (by cases h), fun _ => rfl⟩
  | cons head rest ih =>
    rw [checkStages, bind_eq_ok]
    constructor
    · rintro ⟨after, hhead, hrest⟩ i stage hstage
      obtain ⟨kvs, hkvs, hof, rfl⟩ := checkStage_ok.mp hhead
      cases i with
      | zero =>
        cases hstage
        exact ⟨kvs, hkvs, hof⟩
      | succ i =>
        rw [← Nat.succ_add_eq_add_succ]
        exact ih.mp hrest i stage hstage
    · intro h
      obtain ⟨kvs, hkvs, hof⟩ := h 0 head rfl
      refine ⟨_, checkStage_ok.mpr ⟨kvs, hkvs, hof, rfl⟩, ih.mpr fun i stage hstage => ?_⟩
      rw [Nat.succ_add_eq_add_succ]
      exact h (i + 1) stage hstage

end Stages

/-! ### Accepted DAGs -/

section Accepted

variable {host : Host} {floatEquals : FloatLit → Int → Bool} {check : DagCheck}
  {kvs : Fields}

/-- What the checks establish about a DAG: its executors, its layers, what its stages are expected
to be, and the stages. -/
structure DagOf (host : Host) (kvs : Fields) (executors : List String)
    (totalLayers : Int) (plan : DagPlan) (stages : List Fields) : Prop where
  nodes : nodeIdsOf host kvs "executorNodeIds" = .ok executors
  layers : intOrZero host (Json.getD kvs "totalLayerCount")
    (dagError "total layer count is invalid.") = .ok totalLayers
  normalized : normalizeShardRanges host executors totalLayers (Json.getD kvs "shardRanges") =
    .ok plan.ranges
  listed : Json.getD kvs "stages" = .arr (stages.map .obj)
  clean : CleanIds executors
  executors_ne : executors ≠ []
  shards : Shards executors totalLayers plan.ranges
  session : plan.sessionId = fieldText host kvs "sessionId"
  requester : plan.requester = fieldText host kvs "requesterNodeId"
  requester_ne : plan.requester ≠ ""
  count : stages.length = plan.stageCount executors.length
  flag : plan.direct = (Json.getD kvs "singleExecutorDirectFinalOutput").truthy
  single : plan.direct = true → executors.length = 1
  mode : plan.mode = if plan.direct then .singlePassFinalDecode
    else (pipelineMode? (fieldText host kvs "executionPipelineMode")).getD .fullPrefillDecode
  stageOf : ∀ i stage, stages[i]? = some stage →
    StageOf host plan (stages.map .obj) i (plan.loopAt i) stage

theorem nodeIdsOf_clean {key : String} {ids : List String} (h : nodeIdsOf host kvs key = .ok ids) :
    CleanIds ids := by
  unfold nodeIdsOf at h
  split at h
  · cases h
    exact cleanNodeIds_clean _
  · cases h

theorem checkDagHead_ok {executors : List String}
    (h : checkDagHead host check kvs = .ok executors) :
    nodeIdsOf host kvs "executorNodeIds" = .ok executors ∧ executors ≠ [] ∧
      fieldText host kvs "requesterNodeId" ≠ "" := by
  unfold checkDagHead at h
  simp only [bind_eq_ok, refuseIf_ok, not_or] at h
  obtain ⟨_, _, _, _, _, _, _, _, _, _, _, _, _, _, _, _, found, hfound, _, _, _, hnames, _, _, _,
    _, hreturn⟩ := h
  cases hreturn
  exact ⟨hfound, hnames.2.2, hnames.1⟩

/-- A list of values each of which is a dictionary. -/
theorem exists_dictionaries {items : List Json} {p : Nat → Fields → Prop}
    (h : ∀ i item, items[i]? = some item → ∃ kvs, item = .obj kvs ∧ p i kvs) :
    ∃ dicts : List Fields, items = dicts.map .obj ∧ ∀ i dict, dicts[i]? = some dict → p i dict := by
  induction items generalizing p with
  | nil => exact ⟨[], rfl, fun i dict hdict => (by cases hdict)⟩
  | cons item items ih =>
    obtain ⟨first, rfl, hfirst⟩ := h 0 item rfl
    obtain ⟨rest, rfl, hrest⟩ := ih (p := fun i => p (i + 1)) fun i item hitem =>
        h (i + 1) item hitem
    refine ⟨first :: rest, rfl, fun i dict hdict => ?_⟩
    cases i with
    | zero =>
      cases hdict
      exact hfirst
    | succ i => exact hrest i dict hdict

/-- What an accepted DAG is. -/
theorem validateExecutionDag_dagOf
    (h : validateExecutionDag host floatEquals check (.obj kvs) = .ok ()) :
    ∃ executors totalLayers plan stages, DagOf host kvs executors totalLayers plan stages := by
  unfold validateExecutionDag at h
  simp only [bind_eq_ok] at h
  obtain ⟨executors, hhead, ⟨plan, items⟩, hshape, _, hstages, _⟩ := h
  obtain ⟨hnodes, hne, hrequester⟩ := checkDagHead_ok hhead
  have hclean := nodeIdsOf_clean hnodes
  unfold checkDagShape at hshape
  simp only [bind_eq_ok, refuseIf_ok, refuseValueError_ok, not_le, not_lt] at hshape
  obtain ⟨totalLayers, hlayers, _, _, _, hlength, ranges, hranges, _, _, hshape⟩ := hshape
  split at hshape
  next listed hlisted =>
    simp only [bind_eq_ok, refuseIf_ok, not_not, not_and] at hshape
    obtain ⟨_, _, _, _, _, _, _, hsingle, _, hcount, _, _, hreturn⟩ := hshape
    obtain ⟨hplan, rfl⟩ := Prod.mk.inj (Except.ok.inj hreturn)
    rw [hplan] at hcount
    obtain ⟨stages, rfl, hof⟩ := exists_dictionaries fun i stage hstage => by
      have hone := checkStages_ok.mp hstages i stage hstage
      rwa [Nat.zero_add] at hone
    rw [List.length_map] at hcount
    have hsame : plan.ranges = ranges := by rw [← hplan]
    exact ⟨executors, totalLayers, plan, stages, {
      nodes := hnodes
      layers := hlayers
      normalized := hsame ▸ hranges
      listed := hlisted
      clean := hclean
      executors_ne := hne
      shards := hsame ▸ normalizeShardRanges_ok hclean hne hlength hranges
      session := by rw [← hplan]
      requester := by rw [← hplan]
      requester_ne := by rw [← hplan]; exact hrequester
      count := hcount
      flag := by rw [← hplan]
      single := by rw [← hplan]; exact hsingle
      mode := by rw [← hplan]
      stageOf := hof }⟩
  next => cases hshape

end Accepted

end CaiNetwork.Transport
