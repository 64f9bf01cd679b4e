/-
CaiNetwork/Transport/DagLaws.lean

What an accepted execution DAG is good for: its shard ranges partition the layers, its stages have
distinct ids, depend on earlier stages only and cover every layer, and the output route leads
through the later stages back to the requester.

In the full pipeline each of the two phases covers every layer.  In a single pass the stages cover
every layer together: the last shard decodes, the shards before it prefill.
-/

import CaiNetwork.Transport.DagChecks

namespace CaiNetwork.Transport

open List

/-! ### Reading stages -/

section Reading

variable (host : Host)

/-- The integer of a field, zero if there is none. -/
def intField (kvs : Fields) (key : String) : Int :=
  match stageInt host kvs key with
  | .ok (some n) => n
  | _ => 0

/-- The layers of a stage. -/
def stageBounds (stage : Fields) : Int × Int :=
  (intField host stage "layerStart", intField host stage "layerEnd")

/-- The ids a stage depends on. -/
def stageDependencies (stage : Fields) : List String :=
  match (Json.getD stage "dependsOnStageIds").pyOr (.arr []) with
  | .arr items => items.map fun id => strip (host.strOrEmpty id)
  | _ => []

/-- The text whose digest is the id of a stage. -/
def fingerprintOf (sessionId : String) (stage : Fields) : Bytes :=
  stageFingerprint sessionId (fieldText host stage "phase") (intField host stage "sequence")
    (fieldText host stage "executorNodeId") (intField host stage "layerStart")
    (intField host stage "layerEnd")

variable {host}

theorem intField_of_ok {kvs : Fields} {key : String} {n : Int}
    (h : stageInt host kvs key = .ok (some n)) : intField host kvs key = n := by
  rw [intField, h]

variable {plan : DagPlan} {stages : List Json} {i : Nat} {loop : StageLoop}
  {stage : Fields}

theorem StageOf.bounds (h : StageOf host plan stages i loop stage) :
    stageBounds host stage = (plan.range i).bounds := by
  rw [stageBounds, intField_of_ok h.start, intField_of_ok h.stop]
  rfl

theorem StageOf.fingerprint (h : StageOf host plan stages i loop stage) :
    fingerprintOf host plan.sessionId stage =
      stageFingerprint plan.sessionId (plan.phase i) i (plan.range i).nodeId
        (plan.range i).layerStart (plan.range i).layerEnd := by
  rw [fingerprintOf, h.phase, h.executor, intField_of_ok h.number, intField_of_ok h.start,
    intField_of_ok h.stop]

theorem StageOf.ident_eq (h : StageOf host plan stages i loop stage) :
    fieldText host stage "stageId" =
      "caistage_" ++ fingerprintDigest (fingerprintOf host plan.sessionId stage) := by
  rw [h.fingerprint, h.ident]
  rfl

end Reading

/-! ### The plan, shard by shard -/

section Plan

variable {plan : DagPlan}

theorem rangeAt_of_getElem? {ranges : List ShardRange} {i : Nat} {range : ShardRange}
    (h : ranges[i]? = some range) : rangeAt ranges i = range := by
  rw [rangeAt, getD_eq_getElem?_getD, h]
  rfl

theorem DagPlan.stageCount_pos (hne : plan.ranges ≠ []) :
    0 < plan.stageCount plan.ranges.length := by
  have hlength := length_pos_iff.mpr hne
  unfold stageCount
  split
  · decide
  · split
    · exact hlength
    · exact Nat.mul_pos hlength (by decide)

theorem DagPlan.shardIndex_lt (hne : plan.ranges ≠ []) {i : Nat}
    (hi : i < plan.stageCount plan.ranges.length) : plan.shardIndex i < plan.ranges.length := by
  have hpos := length_pos_iff.mpr hne
  unfold stageCount at hi
  unfold shardIndex
  split
  · exact hpos
  · rename_i hdirect
    rw [if_neg hdirect] at hi
    split
    next hmode =>
      rw [hmode] at hi
      exact hi
    next => exact Nat.mod_lt i hpos

theorem DagPlan.phase_mem (hne : plan.ranges ≠ []) {i : Nat}
    (hi : i < plan.stageCount plan.ranges.length) : plan.phase i ∈ batchPhases := by
  have hpos := length_pos_iff.mpr hne
  have hprefill : prefillPhase ∈ batchPhases := by decide
  have hdecode : decodePhase ∈ batchPhases := by decide
  unfold stageCount at hi
  unfold phase
  split
  · exact hdecode
  · rename_i hdirect
    rw [if_neg hdirect] at hi
    split
    next =>
      split
      · exact hdecode
      · exact hprefill
    next hmode =>
      rw [hmode] at hi
      have hlt : i / plan.ranges.length < batchPhases.length := Nat.div_lt_of_lt_mul hi
      rw [getD_eq_getElem?_getD, getElem?_eq_getElem hlt]
      exact getElem_mem hlt

theorem map_rangeAt (ranges : List ShardRange) :
    (List.range ranges.length).map (rangeAt ranges) = ranges := by
  apply ext_getElem (by simp)
  intro i _ hi
  rw [getElem_map, getElem_range]
  exact rangeAt_of_getElem? (getElem?_eq_getElem hi)

/-- The stages of a single pass run the shards in order. -/
theorem DagPlan.singlePass_ranges (hmode : plan.mode = .singlePassFinalDecode)
    (hdirect : plan.direct = true → plan.ranges.length = 1) :
    (List.range (plan.stageCount plan.ranges.length)).map plan.range = plan.ranges := by
  cases hflag : plan.direct with
  | true =>
    have hone := hdirect hflag
    have hcount : plan.stageCount plan.ranges.length = 1 := by
      rw [stageCount, hflag]
      rfl
    have hrange : plan.range 0 = rangeAt plan.ranges 0 := by
      rw [range, shardIndex, hflag]
      rfl
    have hself := map_rangeAt plan.ranges
    rw [hone] at hself
    rw [hcount]
    show [plan.range 0] = plan.ranges
    rw [hrange]
    exact hself
  | false =>
    have hcount : plan.stageCount plan.ranges.length = plan.ranges.length := by
      rw [stageCount, hflag, hmode]
      rfl
    have hrange : plan.range = rangeAt plan.ranges := by
      funext i
      rw [range, shardIndex, hflag, hmode]
      rfl
    rw [hcount, hrange, map_rangeAt]

/-- The stages of the full pipeline run the shards in order in each phase. -/
theorem DagPlan.full_stages (hmode : plan.mode = .fullPrefillDecode) (hdirect : plan.direct = false)
    (hne : plan.ranges ≠ []) :
    (List.range (plan.stageCount plan.ranges.length)).map (fun i => (plan.phase i, plan.range i)) =
      plan.ranges.map (fun range => (prefillPhase, range)) ++
        plan.ranges.map (fun range => (decodePhase, range)) := by
  have hpos := length_pos_iff.mpr hne
  have hcount : plan.stageCount plan.ranges.length = plan.ranges.length + plan.ranges.length := by
    rw [stageCount, hdirect, hmode]
    exact Nat.mul_two _
  have hphase : ∀ i, plan.phase i = batchPhases.getD (i / plan.ranges.length) "" := by
    intro i
    rw [phase, hdirect, hmode]
    rfl
  have hrange : ∀ i, plan.range i = rangeAt plan.ranges (i % plan.ranges.length) := by
    intro i
    rw [range, shardIndex, hdirect, hmode]
    rfl
  have hself := map_rangeAt plan.ranges
  rw [hcount, range_add, map_append, map_map]
  conv_rhs => rw [← hself]
  rw [map_map, map_map]
  congr 1
  · apply map_congr_left
    intro i hi
    have hlt := mem_range.mp hi
    rw [hphase, hrange, Nat.div_eq_of_lt hlt, Nat.mod_eq_of_lt hlt]
    rfl
  · apply map_congr_left
    intro i hi
    have hlt := mem_range.mp hi
    show (plan.phase (plan.ranges.length + i), plan.range (plan.ranges.length + i)) = _
    rw [hphase, hrange, Nat.add_div_left i hpos, Nat.div_eq_of_lt hlt, Nat.add_mod_left,
      Nat.mod_eq_of_lt hlt]
    rfl

end Plan

/-! ### Coverage -/

section Coverage

variable {host : Host} {kvs : Fields} {executors : List String} {totalLayers : Int}
  {plan : DagPlan} {stages : List Fields}

variable (h : DagOf host kvs executors totalLayers plan stages)
include h

/-- What the stages say, number by number. -/
theorem DagOf.map_eq {α : Type} {read : Fields → α} {expected : Nat → α}
    (hread : ∀ i stage, StageOf host plan (stages.map .obj) i (plan.loopAt i) stage →
      read stage = expected i) :
    stages.map read = (List.range (plan.stageCount plan.ranges.length)).map expected := by
  have hlength : stages.length = plan.stageCount plan.ranges.length := by
    rw [h.count, h.shards.length_eq]
  apply ext_getElem
  · rw [length_map, length_map, length_range, hlength]
  · intro i hi _
    rw [length_map] at hi
    rw [getElem_map, getElem_map, getElem_range]
    exact hread i _ (h.stageOf i _ (getElem?_eq_getElem hi))

theorem DagOf.ranges_ne : plan.ranges ≠ [] := by
  intro hnil
  have hlength := h.shards.length_eq
  rw [hnil] at hlength
  exact h.executors_ne (length_eq_zero_iff.mp hlength.symm)

theorem DagOf.direct_single (hdirect : plan.direct = true) : plan.ranges.length = 1 := by
  rw [h.shards.length_eq, h.single hdirect]

/-- A single pass covers every layer once. -/
theorem DagOf.covers_pass
    (hmode : plan.mode = .singlePassFinalDecode) {layer : Int} (hlayer : 0 ≤ layer)
    (hlt : layer < totalLayers) :
    (stages.map (stageBounds host)).countP (holdsPoint layer) = 1 := by
  have hread : stages.map (stageBounds host) =
      (List.range (plan.stageCount plan.ranges.length)).map (ShardRange.bounds ∘ plan.range) :=
    h.map_eq fun i stage hof => hof.bounds
  rw [hread, ← map_map, DagPlan.singlePass_ranges hmode h.direct_single]
  exact h.shards.tiles.countP_inside hlayer hlt

/-- The phases and layers of the full pipeline. -/
theorem DagOf.map_full (hmode : plan.mode = .fullPrefillDecode) :
    stages.map (fun stage => (fieldText host stage "phase", stageBounds host stage)) =
      plan.ranges.map (fun range => (prefillPhase, range.bounds)) ++
        plan.ranges.map (fun range => (decodePhase, range.bounds)) := by
  have hdirect : plan.direct = false := Bool.eq_false_iff.mpr fun hflag => by
    have hsingle := h.mode
    rw [hflag, hmode] at hsingle
    cases hsingle
  have hread : stages.map (fun stage => (fieldText host stage "phase", stageBounds host stage)) =
      (List.range (plan.stageCount plan.ranges.length)).map
        ((fun pair => (pair.1, pair.2.bounds)) ∘ fun i => (plan.phase i, plan.range i)) :=
    h.map_eq fun i stage hof => by rw [hof.phase, hof.bounds]; rfl
  rw [hread, ← map_map, DagPlan.full_stages hmode hdirect h.ranges_ne, map_append, map_map, map_map]
  rfl

/-- Each phase of the full pipeline covers every layer once. -/
theorem DagOf.covers_phase
    (hmode : plan.mode = .fullPrefillDecode) {phase : String} (hphase : phase ∈ batchPhases)
    {layer : Int} (hlayer : 0 ≤ layer) (hlt : layer < totalLayers) :
    ((stages.filter fun stage => fieldText host stage "phase" = phase).map
      (stageBounds host)).countP (holdsPoint layer) = 1 := by
  -- the stages of a phase are those of the pairs with that phase
  have hfilter : (stages.filter fun stage => fieldText host stage "phase" = phase).map
      (stageBounds host) =
      ((stages.map fun stage => (fieldText host stage "phase", stageBounds host stage)).filter
        fun pair => pair.1 = phase).map (·.2) := by
    rw [filter_map, map_map]
    rfl
  have hbounds : ((stages.map fun stage =>
        (fieldText host stage "phase", stageBounds host stage)).filter
        fun pair => pair.1 = phase).map (·.2) = plan.ranges.map ShardRange.bounds := by
    rw [h.map_full hmode, filter_append, filter_map, filter_map]
    rcases mem_pair.mp hphase with rfl | rfl
    · simp [Function.comp_def, prefillPhase, decodePhase]
    · simp [Function.comp_def, prefillPhase, decodePhase]
  rw [hfilter, hbounds]
  exact h.shards.tiles.countP_inside hlayer hlt

/-! ### Ids and dependencies -/

/-- The ids of the stages are distinct, unless the digest collides on their fingerprints. -/
theorem DagOf.nodup_ids (hdigest : Set.InjOn fingerprintDigest
      {fingerprint | ∃ stage ∈ stages, fingerprint = fingerprintOf host plan.sessionId stage}) :
    (stages.map fun stage => fieldText host stage "stageId").Nodup := by
  apply pairwise_iff_getElem.mpr
  intro i j hi hj hlt heq
  rw [length_map] at hi hj
  rw [getElem_map, getElem_map] at heq
  have hofi := h.stageOf i _ (getElem?_eq_getElem hi)
  have hofj := h.stageOf j _ (getElem?_eq_getElem hj)
  rw [hofi.ident_eq, hofj.ident_eq] at heq
  have hsame := hdigest ⟨_, getElem_mem hi, rfl⟩ ⟨_, getElem_mem hj, rfl⟩
    ((String.append_right_inj _).mp heq)
  rw [hofi.fingerprint, hofj.fingerprint] at hsame
  have hnumber := stageFingerprint_sequence (Int.natCast_nonneg i) (Int.natCast_nonneg j) hsame
  omega

/-- Every dependency of a stage is the id of an earlier one. -/
theorem DagOf.dependsOn_earlier {i : Nat} {stage : Fields}
    (hstage : stages[i]? = some stage) {id : String} (hid : id ∈ stageDependencies host stage) :
    ∃ j < i, ∃ earlier, stages[j]? = some earlier ∧ fieldText host earlier "stageId" = id := by
  have hof := h.stageOf i stage hstage
  obtain ⟨items, hitems, _, hseen⟩ := hof.dependsOn
  rw [stageDependencies, hitems] at hid
  obtain ⟨item, hitem, rfl⟩ := mem_map.mp hid
  obtain ⟨j, hj, hsame⟩ := plan.mem_seen_loopAt.mp (hseen item hitem)
  have hlt : j < stages.length := Nat.lt_trans hj (List.getElem?_eq_some_iff.mp hstage).1
  refine ⟨j, hj, stages[j], getElem?_eq_getElem hlt, ?_⟩
  rw [(h.stageOf j _ (getElem?_eq_getElem hlt)).ident, hsame]

end Coverage

/-! ### Routes -/

section Route

variable {host : Host} {kvs : Fields} {executors : List String} {totalLayers : Int}
  {plan : DagPlan} {stages : List Fields}

theorem dictionaries_map {dicts : List Fields} : dictionaries (dicts.map .obj) = dicts := by
  rw [dictionaries, filterMap_map]
  exact filterMap_some

theorem stageInt_ok {stage : Fields} {key : String} {n : Int}
    (h : stageInt host stage key = .ok (some n)) : host.int (Json.getD stage key) = .ok n := by
  unfold stageInt optionalInt at h
  split at h
  · cases h
  · unfold tryInt at h
    split at h
    next m hm =>
      cases h
      exact hm
    all_goals cases h

/-- The number of an expected stage can be read. -/
theorem StageOf.int_ok {items : List Json} {i : Nat} {loop : StageLoop}
    {stage : Fields} (h : StageOf host plan items i loop stage) :
    ∃ n, host.int ((Json.getD stage "sequence").pyOr (.int 0)) = .ok n := by
  unfold Json.pyOr
  split
  · exact ⟨i, stageInt_ok h.number⟩
  · exact ⟨0, rfl⟩

variable (host) in
/-- The step to a stage whose number can be read. -/
def stepTo (stage : Fields) : RouteStep where
  sinkNodeId := fieldText host stage "sinkNodeId"
  phase := fieldText host stage "phase"
  sequence := ((host.int ((Json.getD stage "sequence").pyOr (.int 0))).toOption).getD 0
  stageId := Json.getD stage "stageId"
  executorNodeId := Json.getD stage "executorNodeId"
  layerStart := Json.getD stage "layerStart"
  layerEnd := Json.getD stage "layerEnd"

theorem routeStep_ok {stage : Fields}
    (h : ∃ n, host.int ((Json.getD stage "sequence").pyOr (.int 0)) = .ok n) :
    routeStep host stage = .ok (stepTo host stage) := by
  obtain ⟨n, hn⟩ := h
  rw [routeStep, stepTo, hn]
  rfl

theorem finalStep_ok {stage : Fields} (requester : String)
    (h : ∃ n, host.int ((Json.getD stage "sequence").pyOr (.int 0)) = .ok n) :
    ∃ last : RouteStep, finalStep host requester stage = .ok last ∧
      last.stageId = .str "final_result" ∧ last.sinkNodeId = requester ∧
      last.finalOutput = true ∧ last.phase = fieldText host stage "phase" := by
  obtain ⟨n, hn⟩ := h
  rw [finalStep, hn]
  exact ⟨_, rfl, rfl, rfl, rfl, rfl⟩

variable (h : DagOf host kvs executors totalLayers plan stages)
include h

theorem DagOf.stageOf_mem {stage : Fields} (hmem : stage ∈ stages) :
    ∃ i < plan.stageCount plan.ranges.length,
      StageOf host plan (stages.map .obj) i (plan.loopAt i) stage := by
  obtain ⟨i, hi, rfl⟩ := mem_iff_getElem.mp hmem
  refine ⟨i, ?_, h.stageOf i _ (getElem?_eq_getElem hi)⟩
  rw [h.shards.length_eq, ← h.count]
  exact hi

/-- A stage has a phase and a sink. -/
theorem DagOf.stage_named {stage : Fields} (hmem : stage ∈ stages) :
    fieldText host stage "phase" ≠ "" ∧ fieldText host stage "sinkNodeId" ≠ "" := by
  obtain ⟨i, hi, hof⟩ := h.stageOf_mem hmem
  constructor
  · have hnames : ∀ name ∈ batchPhases, name ≠ "" := by decide
    rw [hof.phase]
    exact hnames _ (DagPlan.phase_mem h.ranges_ne hi)
  · have hindex := DagPlan.shardIndex_lt h.ranges_ne hi
    have hrange : plan.range i = plan.ranges[plan.shardIndex i] :=
      rangeAt_of_getElem? (getElem?_eq_getElem hindex)
    have hnode : (plan.range i).nodeId ∈ executors := by
      rw [hrange, ← h.shards.nodes]
      exact mem_map_of_mem (getElem_mem hindex)
    rw [hof.sink]
    exact (h.clean.stripped _ hnode).1

/-- The route leads through the later stages to the requester. -/
theorem DagOf.outputRoutePlan_eq :
    ∃ last : RouteStep, last.stageId = .str "final_result" ∧ last.sinkNodeId = plan.requester ∧
      last.finalOutput = true ∧
      outputRoutePlan host kvs plan.requester = .ok (stages.tail.map (stepTo host) ++ [last]) := by
  have hstrip : strip plan.requester = plan.requester := by
    rw [h.requester, fieldText, strip_strip]
  cases hcase : stages with
  | nil =>
    have hcount := h.count
    rw [hcase, ← h.shards.length_eq] at hcount
    exact absurd hcount (Nat.ne_of_lt (DagPlan.stageCount_pos h.ranges_ne))
  | cons first later =>
    rw [hcase] at h
    have hnumber : ∀ stage ∈ first :: later,
        ∃ n, host.int ((Json.getD stage "sequence").pyOr (.int 0)) = .ok n := by
      intro stage hmem
      obtain ⟨i, _, hof⟩ := h.stageOf_mem hmem
      exact hof.int_ok
    have hfinal : later.getLast?.getD first ∈ first :: later := by
      cases hlast : later.getLast? with
      | none => exact mem_cons_self
      | some last => exact mem_cons_of_mem _ (mem_of_getLast? hlast)
    obtain ⟨last, hlast, hid, hsink, hflag, hphase⟩ :=
      finalStep_ok plan.requester (hnumber _ hfinal)
    have hitems : pyItems ((Json.getD kvs "stages").pyOr (.arr [])) =
        .ok ((first :: later).map .obj) := by
      rw [h.listed]
      rfl
    refine ⟨last, hid, hsink, hflag, ?_⟩
    unfold outputRoutePlan
    rw [hitems, ok_bind, dictionaries_map, hstrip, routeThrough, if_neg h.requester_ne,
      mapM_ok fun stage hmem => routeStep_ok (hnumber stage (mem_cons_of_mem _ hmem)), ok_bind,
      hlast, ok_bind]
    -- no step is dropped: every sink and every phase has a name
    refine congrArg Except.ok (filter_eq_self.mpr ?_)
    intro step hstep
    rw [Bool.and_eq_true, decide_eq_true_eq, decide_eq_true_eq]
    rcases mem_append.mp hstep with hstep | hstep
    · obtain ⟨stage, hmem, rfl⟩ := mem_map.mp hstep
      exact (h.stage_named (mem_cons_of_mem _ hmem)).symm
    · cases mem_singleton.mp hstep
      rw [hsink, hphase]
      exact ⟨h.requester_ne, (h.stage_named hfinal).1⟩

end Route

/-! ### Sound DAGs -/

section Sound

variable {host : Host} {dag : Fields}

/-- The DAG is one of a single pass. -/
def dagSinglePass (host : Host) (dag : Fields) : Bool :=
  (Json.getD dag "singleExecutorDirectFinalOutput").truthy ||
    fieldText host dag "executionPipelineMode" = PipelineMode.singlePassFinalDecode.text

/-- What a DAG promises: the ranges follow the executors through all layers, ids are distinct
unless digests collide, dependencies point back, every layer is run once (in each phase of the full
pipeline, in a single pass altogether), and what is left of the route after a stage visits the later
stages and ends at the requester. -/
structure SoundDag (host : Host) (dag : Fields) (executors : List String)
    (totalLayers : Int) (ranges : List ShardRange) (stages : List Fields) :
    Prop where
  order : ranges.map (·.nodeId) = executors
  tiles : Tiles 0 (ranges.map ShardRange.bounds) totalLayers
  layers : ∀ layer, 0 ≤ layer → layer < totalLayers →
    (ranges.map ShardRange.bounds).countP (holdsPoint layer) = 1
  ids : Set.InjOn fingerprintDigest {fingerprint | ∃ stage ∈ stages,
      fingerprint = fingerprintOf host (fieldText host dag "sessionId") stage} →
    (stages.map fun stage => fieldText host stage "stageId").Nodup
  dependencies : ∀ (i : Nat) stage, stages[i]? = some stage → ∀ id ∈ stageDependencies host stage,
    ∃ j < i, ∃ earlier, stages[j]? = some earlier ∧ fieldText host earlier "stageId" = id
  full : dagSinglePass host dag = false → ∀ phase ∈ batchPhases, ∀ layer, 0 ≤ layer →
    layer < totalLayers → ((stages.filter fun stage => fieldText host stage "phase" = phase).map
      (stageBounds host)).countP (holdsPoint layer) = 1
  single : dagSinglePass host dag = true → ∀ layer, 0 ≤ layer → layer < totalLayers →
    (stages.map (stageBounds host)).countP (holdsPoint layer) = 1
  route : ∃ steps, outputRoutePlan host dag (fieldText host dag "requesterNodeId") = .ok steps ∧
    ∀ i < stages.length, (steps.drop i).map (fun step => (step.stageId, step.sinkNodeId)) =
      (stages.drop (i + 1)).map
          (fun stage => (Json.getD stage "stageId", fieldText host stage "sinkNodeId")) ++
        [(.str "final_result", fieldText host dag "requesterNodeId")]

variable {executors : List String} {totalLayers : Int} {plan : DagPlan}
  {stages : List Fields}

theorem DagOf.mode_eq (h : DagOf host dag executors totalLayers plan stages) :
    plan.mode = if dagSinglePass host dag then .singlePassFinalDecode else .fullPrefillDecode := by
  have hmode := h.mode
  unfold dagSinglePass
  rw [h.flag] at hmode
  cases hflag : (Json.getD dag "singleExecutorDirectFinalOutput").truthy with
  | true =>
    rw [hflag] at hmode
    rw [hmode]
    rfl
  | false =>
    rw [hflag] at hmode
    rw [hmode, Bool.false_or]
    by_cases htext : fieldText host dag "executionPipelineMode" =
        PipelineMode.singlePassFinalDecode.text
    · rw [htext]
      decide
    · rw [if_neg (Bool.false_ne_true), if_neg (by rw [decide_eq_true_eq]; exact htext),
        pipelineMode?]
      split
      · rfl
      · rfl

/-- A DAG as it is expected is sound. -/
theorem DagOf.sound (h : DagOf host dag executors totalLayers plan stages) :
    SoundDag host dag executors totalLayers plan.ranges stages where
  order := h.shards.nodes
  tiles := h.shards.tiles
  layers := fun layer hlayer hlt => h.shards.tiles.countP_inside hlayer hlt
  ids := by
    rw [← h.session]
    exact h.nodup_ids
  dependencies := fun i stage hstage id hid => h.dependsOn_earlier hstage hid
  full := by
    intro hmode phase hphase layer hlayer hlt
    refine h.covers_phase ?_ hphase hlayer hlt
    rw [h.mode_eq, hmode]
    rfl
  single := by
    intro hmode layer hlayer hlt
    refine h.covers_pass ?_ hlayer hlt
    rw [h.mode_eq, hmode]
    rfl
  route := by
    obtain ⟨last, hid, hsink, _, hroute⟩ := h.outputRoutePlan_eq
    rw [← h.requester]
    refine ⟨_, hroute, fun i hi => ?_⟩
    have hle : i ≤ (stages.tail.map (stepTo host)).length := by
      rw [length_map, length_tail]
      omega
    rw [drop_append_of_le_length hle, map_append, ← map_drop, map_map,
      drop_tail, map_singleton, hid, hsink]
    rfl

end Sound

end CaiNetwork.Transport
