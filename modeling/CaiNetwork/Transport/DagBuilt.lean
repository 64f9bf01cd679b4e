/-
CaiNetwork/Transport/DagBuilt.lean

The validator of execution DAGs accepts what the builder builds.

The stage the builder writes at a number is the one the validator's plan has there
(`PlannedStage`, `stages_planned`), and such a stage passes the check.
-/

import CaiNetwork.Transport.DagLaws
import CaiNetwork.Transport.RoundTrip

namespace CaiNetwork.Transport

open List

variable {i : Nat} {range : ShardRange} {phase fieldName : String} {dependsOn : List String}
  {stage : Stage}

/-! ### The loop of the builder -/

section Loop

open DagContext (pipelineStages)

variable {stageAt : (sequence index : Nat) → ShardRange → List String → Stage} {entry : List String}

theorem length_pipelineStages (sequence index : Nat) (previous : Option String)
    (ranges : List ShardRange) :
    (pipelineStages stageAt entry sequence index previous ranges).length = ranges.length := by
  induction ranges generalizing sequence index previous with
  | nil => rfl
  | cons range rest ih => exact congrArg (· + 1) (ih _ _ _)

/-- The stage of a shard: the first waits for what the loop was entered with, each later one for
the stage before it. -/
theorem getElem?_pipelineStages (sequence index : Nat) (previous : Option String)
    {ranges : List ShardRange} (h : ranges[i]? = some range) :
    ∃ dependsOn, (pipelineStages stageAt entry sequence index previous ranges)[i]? =
        some (stageAt (sequence + i) (index + i) range dependsOn) ∧
      (i = 0 → dependsOn = (previous.map ([·])).getD entry) ∧ ∀ j, i = j + 1 → ∃ before,
        (pipelineStages stageAt entry sequence index previous ranges)[j]? = some before ∧
        dependsOn = [before.stageId] := by
  induction ranges generalizing sequence index previous i with
  | nil => cases h
  | cons first rest ih =>
    cases i with
    | zero =>
      cases h
      exact ⟨_, rfl, fun _ => (by cases previous <;> rfl), fun j hj => (by cases hj)⟩
    | succ i =>
      obtain ⟨stage, hcons⟩ : ∃ stage, pipelineStages stageAt entry sequence index previous
          (first :: rest) = stage :: pipelineStages stageAt entry (sequence + 1) (index + 1)
            (some stage.stageId) rest := ⟨_, rfl⟩
      rw [hcons]
      obtain ⟨dependsOn, hstage, hfirst, hlater⟩ :=
        ih (sequence + 1) (index + 1) (some stage.stageId) h
      refine ⟨dependsOn, ?_, fun hzero => (by cases hzero), fun j hj => ?_⟩
      · rw [Nat.add_right_comm sequence, Nat.add_right_comm index] at hstage
        exact hstage
      · cases hj
        cases i with
        | zero => exact ⟨_, rfl, hfirst rfl⟩
        | succ i => exact hlater i rfl

end Loop

/-! ### Planned stages -/

section Planned

open DagContext (pipelineStages)

/-- A digest in the form `normalize_sha256_hex` gives it. -/
def IsDigest (host : Host) (hash : String) : Prop :=
  ∀ fieldName, normalizeSha256Hex host (.str hash) fieldName = .ok hash

/-- What the stage at a number waits for: the one before it. -/
def DagPlan.waitsFor (plan : DagPlan) : Nat → List String
  | 0 => []
  | j + 1 => [plan.stageId j]

/-- The stage the plan has at a number. -/
structure PlannedStage (host : Host) (plan : DagPlan) (i : Nat) (stage : Stage) : Prop where
  ident : stage.stageId = plan.stageId i
  number : stage.sequence = i
  phase : stage.phase = plan.phase i
  source : stage.sourceNodeId = shardSource plan.requester plan.ranges (plan.shardIndex i)
  executor : stage.executorNodeId = (plan.range i).nodeId
  output : stage.outputToNodeId = shardOutput plan.requester plan.ranges (plan.shardIndex i)
  waits : stage.dependsOnStageIds = plan.waitsFor i
  start : stage.layerStart = (plan.range i).layerStart
  stop : stage.layerEnd = (plan.range i).layerEnd
  input : ∀ hash, stage.expectedInputPayloadSha256Hex = some hash → IsDigest host hash
  outputHash : ∀ hash, stage.expectedOutputPayloadSha256Hex = some hash → IsDigest host hash

/-- What the builder works with, and the plan the validator derives from it. -/
structure DagContext.For (host : Host) (ctx : DagContext) (plan : DagPlan) : Prop where
  session : ctx.sessionId = plan.sessionId
  requester : ctx.requester = plan.requester
  ranges : ctx.ranges = plan.ranges
  nonempty : ctx.ranges ≠ []
  input : ∀ hash, ctx.inputHash = some hash → IsDigest host hash
  output : ∀ hash, ctx.expectedOutputHash = some hash → IsDigest host hash
  single : plan.direct = true → ctx.ranges.length = 1 ∧ plan.mode = .singlePassFinalDecode

variable {host : Host} {ctx : DagContext} {plan : DagPlan}

theorem of_ite_some {p : Prop} [Decidable p] {α : Type} {a : Option α} {x : α}
    (h : (if p then a else none) = some x) : a = some x := by
  split at h
  · exact h
  · cases h

/-- A stage of the context, at the place the plan has for its number. -/
theorem DagContext.For.planned (h : ctx.For host plan) {sequence index : Nat}
    {input output : Option String} {role : String}
    (hphase : plan.phase sequence = phase) (hindex : plan.shardIndex sequence = index)
    (hrange : rangeAt ctx.ranges index = range) (hwaits : dependsOn = plan.waitsFor sequence)
    (hinput : ∀ hash, input = some hash → IsDigest host hash)
    (houtput : ∀ hash, output = some hash → IsDigest host hash) : PlannedStage host plan sequence
      (ctx.stage phase sequence index range dependsOn input output role) := by
  have hplace : plan.range sequence = range := by rw [DagPlan.range, hindex, ← h.ranges, hrange]
  subst hphase hindex hplace hwaits
  exact {
    ident := by rw [DagContext.stage, DagPlan.stageId, h.session]
    number := rfl
    phase := rfl
    source := by rw [DagContext.stage, h.requester, h.ranges]
    executor := rfl
    output := by rw [DagContext.stage, h.requester, h.ranges]
    waits := rfl
    start := rfl
    stop := rfl
    input := hinput
    outputHash := houtput }

/-- A loop over the shards that starts at a number of the plan. -/
theorem pipeline_planned
    {stageAt : (sequence index : Nat) → ShardRange → List String → Stage} {offset : Nat}
    (hstage : ∀ i range dependsOn, ctx.ranges[i]? = some range →
      dependsOn = plan.waitsFor (offset + i) →
      PlannedStage host plan (offset + i) (stageAt (offset + i) i range dependsOn))
    (hget : (pipelineStages stageAt (plan.waitsFor offset) offset 0 none ctx.ranges)[i]? =
      some stage) : PlannedStage host plan (offset + i) stage := by
  induction i using Nat.strongRecOn generalizing stage with
  | _ i ih =>
    have hlt := (List.getElem?_eq_some_iff.mp hget).1
    rw [length_pipelineStages] at hlt
    have hrange := getElem?_eq_getElem hlt
    obtain ⟨dependsOn, hfound, hzero, hsucc⟩ := getElem?_pipelineStages offset 0 none hrange
    rw [hget, Nat.zero_add] at hfound
    cases hfound
    cases i with
    | zero => exact hstage 0 _ _ hrange (hzero rfl)
    | succ i =>
      obtain ⟨before, hbefore, rfl⟩ := hsucc i rfl
      exact hstage (i + 1) _ _ hrange (congrArg ([·]) (ih i i.lt_succ_self hbefore).ident)

theorem length_stages (h : ctx.For host plan) :
    (ctx.stages plan.direct plan.mode).length = plan.stageCount plan.ranges.length := by
  unfold DagContext.stages DagPlan.stageCount
  split
  · rfl
  · split
    · rw [length_pipelineStages, h.ranges]
    · rw [length_append, length_pipelineStages, length_pipelineStages, h.ranges]
      exact (Nat.mul_two _).symm

/-- The stages of a phase of the full pipeline, from the first number of the phase on. -/
theorem DagContext.For.phase_planned (h : ctx.For host plan) (hdirect : plan.direct = false)
    (hmode : plan.mode = .fullPrefillDecode) {turn offset : Nat}
    (hphase : batchPhases.getD turn "" = phase) (hoffset : offset = ctx.ranges.length * turn)
    (hget : (pipelineStages (ctx.phaseStage phase) (plan.waitsFor offset) offset 0 none
      ctx.ranges)[i]? = some stage) : PlannedStage host plan (offset + i) stage := by
  have hpos := length_pos_iff.mpr h.nonempty
  refine pipeline_planned (fun j range dependsOn hj hwaits => ?_) hget
  have hlt := (List.getElem?_eq_some_iff.mp hj).1
  refine h.planned ?_ ?_ (rangeAt_of_getElem? hj) hwaits
    (fun hash hhash => h.input hash (of_ite_some hhash))
    (fun hash hhash => h.output hash (of_ite_some hhash))
  · rw [DagPlan.phase, hdirect, hmode, ← h.ranges]
    show batchPhases.getD ((offset + j) / ctx.ranges.length) "" = phase
    rw [hoffset, Nat.mul_add_div hpos, Nat.div_eq_of_lt hlt, Nat.add_zero, hphase]
  · rw [DagPlan.shardIndex, hdirect, hmode, ← h.ranges]
    show (offset + j) % ctx.ranges.length = j
    rw [hoffset, Nat.mul_add_mod, Nat.mod_eq_of_lt hlt]

/-- The stages of the full pipeline: the first of the second phase waits for the last of the
first. -/
theorem DagContext.For.full_planned (h : ctx.For host plan) (hdirect : plan.direct = false)
    (hmode : plan.mode = .fullPrefillDecode) {prefill : List Stage}
    (hprefill : prefill = pipelineStages (ctx.phaseStage prefillPhase) [] 0 0 none ctx.ranges)
    (hget : (prefill ++ pipelineStages (ctx.phaseStage decodePhase)
      (prefill.getLast?.map (·.stageId)).toList prefill.length 0 none ctx.ranges)[i]? =
        some stage) :
    PlannedStage host plan i stage := by
  have hpos := length_pos_iff.mpr h.nonempty
  have hlength : prefill.length = ctx.ranges.length := by
    rw [hprefill, length_pipelineStages]
  have hfirst : ∀ {j : Nat} {stage : Stage}, prefill[j]? = some stage →
      PlannedStage host plan j stage := by
    intro j stage hj
    rw [hprefill] at hj
    have hplanned := h.phase_planned hdirect hmode rfl (Nat.mul_zero _).symm hj
    rwa [Nat.zero_add] at hplanned
  have hlast : (prefill.getLast?.map (·.stageId)).toList = plan.waitsFor prefill.length := by
    obtain ⟨j, hj⟩ : ∃ j, prefill.length = j + 1 := ⟨prefill.length - 1, by omega⟩
    have hlt : j < prefill.length := by omega
    rw [getLast?_eq_getElem?, hj, Nat.add_sub_cancel, getElem?_eq_getElem hlt]
    exact congrArg ([·]) (hfirst (getElem?_eq_getElem hlt)).ident
  by_cases hi : i < prefill.length
  · rw [getElem?_append_left hi] at hget
    exact hfirst hget
  · rw [getElem?_append_right (Nat.not_lt.mp hi), hlast] at hget
    have hplanned := h.phase_planned hdirect hmode rfl (hlength.trans (Nat.mul_one _).symm) hget
    rwa [Nat.add_sub_of_le (Nat.not_lt.mp hi)] at hplanned

/-- The stages of the builder are those of the plan. -/
theorem DagContext.For.stages_planned (h : ctx.For host plan)
    (hget : (ctx.stages plan.direct plan.mode)[i]? = some stage) :
    PlannedStage host plan i stage := by
  have hpos := length_pos_iff.mpr h.nonempty
  unfold DagContext.stages at hget
  split at hget
  next hdirect =>
    obtain ⟨hone, hmode⟩ := h.single hdirect
    cases i with
    | succ i => cases hget
    | zero =>
      cases hget
      have hplanned : PlannedStage host plan 0 (ctx.stage decodePhase 0 0 (rangeAt ctx.ranges 0) []
          ctx.inputHash ctx.expectedOutputHash "final_output") := by
        refine h.planned ?_ ?_ rfl rfl h.input h.output
        · rw [DagPlan.phase, if_pos hdirect]
        · rw [DagPlan.shardIndex, if_pos hdirect]
      exact { hplanned with }
  next hdirect =>
    split at hget
    next hmode =>
      have hphase : ∀ j, plan.phase j =
          if decide (j + 1 = ctx.ranges.length) then decodePhase else prefillPhase := by
        intro j
        rw [DagPlan.phase, if_neg hdirect, hmode, h.ranges]
        simp
      have hindex : ∀ j, plan.shardIndex j = j := by
        intro j
        rw [DagPlan.shardIndex, if_neg hdirect, hmode]
      have hloop : PlannedStage host plan (0 + i) stage := by
        refine pipeline_planned (fun j range dependsOn hj hwaits => ?_) hget
        rw [Nat.zero_add] at hwaits ⊢
        exact h.planned (hphase j) (hindex j) (rangeAt_of_getElem? hj) hwaits
          (fun hash hhash => h.input hash (of_ite_some hhash))
          (fun hash hhash => h.output hash (of_ite_some hhash))
      rwa [Nat.zero_add] at hloop
    next hmode =>
      exact h.full_planned (Bool.eq_false_iff.mpr hdirect) hmode rfl hget

end Planned

/-! ### Planned stages pass -/

section Passes

variable {host : Host} {plan : DagPlan}

theorem strip_stageId : strip (plan.stageId i) = plan.stageId i := strip_digestId (by decide)

theorem equalsTexts_map {texts : List String} : equalsTexts (texts.map .str) texts = true := by
  induction texts with
  | nil => rfl
  | cons text texts ih =>
    rw [map_cons, equalsTexts, ih, Bool.and_true]
    exact decide_eq_true rfl

theorem checkStageHash_ok {kvs : Fields} {hash? : Option String}
    (hfield : Json.getD kvs fieldName = optionalStr hash?)
    (hhash : ∀ hash, hash? = some hash → IsDigest host hash) :
    checkStageHash host kvs fieldName = .ok () := by
  unfold checkStageHash
  rw [hfield]
  split
  · cases hash? with
    | none => contradiction
    | some hash =>
      rw [optionalStr, hhash hash rfl fieldName]
      rfl
  · rfl

/-- The node ids of a plan are stripped. -/
structure DagPlan.Stripped (plan : DagPlan) : Prop where
  requester : strip plan.requester = plan.requester
  nodes : ∀ range ∈ plan.ranges, strip range.nodeId = range.nodeId

theorem DagPlan.Stripped.rangeAt (h : plan.Stripped) (i : Nat) :
    strip (rangeAt plan.ranges i).nodeId = (rangeAt plan.ranges i).nodeId := by
  by_cases hi : i < plan.ranges.length
  · rw [rangeAt_of_getElem? (getElem?_eq_getElem hi)]
    exact h.nodes _ (getElem_mem hi)
  · rw [Transport.rangeAt, getD_eq_getElem?_getD, getElem?_eq_none (Nat.not_lt.mp hi)]
    rfl

/-- After the last shard of the first phase the loop knows its id. -/
theorem lastPrefill_loopAt (hdirect : plan.direct = false) (hmode : plan.mode = .fullPrefillDecode)
    {j : Nat} (hj : plan.ranges.length = j + 1) :
    (plan.loopAt (j + 1)).lastPrefillStageId = some (plan.stageId j) := by
  have hlt : j < plan.ranges.length := by omega
  have hphase : plan.phase j = prefillPhase := by
    rw [DagPlan.phase, hdirect, hmode]
    show batchPhases.getD (j / plan.ranges.length) "" = prefillPhase
    rw [Nat.div_eq_of_lt hlt]
    rfl
  have hindex : plan.shardIndex j = j := by
    rw [DagPlan.shardIndex, hdirect, hmode]
    exact Nat.mod_eq_of_lt hlt
  rw [DagPlan.loopAt, DagPlan.nextLoop, if_pos ⟨hphase, by rw [hindex, hj]⟩]

/-- What the validator expects a stage to wait for is the stage before it. -/
theorem expectedDependencies_eq (hne : plan.ranges ≠ []) {items : List Json}
    (hids : ∀ j < i, stageIdText host items j = plan.stageId j)
    (hcount : i < plan.stageCount plan.ranges.length) :
    expectedDependencies host plan items i (plan.loopAt i) = plan.waitsFor i := by
  have hpos := length_pos_iff.mpr hne
  have hbefore : 0 < i → [stageIdText host items (i - 1)] = plan.waitsFor i := by
    intro hi
    cases i with
    | zero => cases hi
    | succ j => exact congrArg ([·]) (hids j j.lt_succ_self)
  unfold expectedDependencies
  unfold DagPlan.stageCount at hcount
  cases hdirect : plan.direct with
  | true =>
    rw [if_pos hdirect] at hcount
    rw [if_pos rfl, Nat.lt_one_iff.mp hcount]
    rfl
  | false =>
    rw [if_neg (by rw [hdirect]; decide)] at hcount
    rw [if_neg (by decide)]
    cases hmode : plan.mode with
    | singlePassFinalDecode =>
      dsimp only
      split
      next hi => exact hbefore hi
      next hi => rw [Nat.eq_zero_of_not_pos hi]; rfl
    | fullPrefillDecode =>
      rw [hmode] at hcount
      have htwice : i < plan.ranges.length * 2 := hcount
      have hindex : plan.shardIndex i = i % plan.ranges.length := by
        rw [DagPlan.shardIndex, hdirect, hmode]
        rfl
      have hphase : plan.phase i = batchPhases.getD (i / plan.ranges.length) "" := by
        rw [DagPlan.phase, hdirect, hmode]
        rfl
      dsimp only
      rw [hindex, hphase]
      split
      next hi =>
        apply hbefore
        by_contra hzero
        rw [Nat.eq_zero_of_not_pos hzero, Nat.zero_mod] at hi
        exact Nat.lt_irrefl 0 hi
      next hi =>
        -- the first shard of a phase: number zero, or the first one that decodes
        obtain ⟨turn, rfl⟩ := Nat.dvd_of_mod_eq_zero (Nat.eq_zero_of_not_pos hi)
        have hturn : turn < 2 := Nat.lt_of_mul_lt_mul_left htwice
        obtain ⟨j, hj⟩ : ∃ j, plan.ranges.length = j + 1 := ⟨plan.ranges.length - 1, by omega⟩
        rw [Nat.mul_div_cancel_left _ hpos]
        obtain rfl | rfl : turn = 0 ∨ turn = 1 := by omega
        · rfl
        · rw [Nat.mul_one, hj, lastPrefill_loopAt hdirect hmode hj]
          rfl

/-- A planned stage passes the check. -/
theorem PlannedStage.stageOf {stages : List Stage} (hstripped : plan.Stripped)
    (hne : plan.ranges ≠ []) (htiles : ∀ range ∈ plan.ranges, range.layerStart < range.layerEnd)
    (hlength : stages.length = plan.stageCount plan.ranges.length)
    (hplanned : ∀ i stage, stages[i]? = some stage → PlannedStage host plan i stage)
    (hstage : stages[i]? = some stage) :
    StageOf host plan (stages.map fun stage => .obj stage.fields) i (plan.loopAt i)
      stage.fields := by
  have h := hplanned i stage hstage
  have hi := (List.getElem?_eq_some_iff.mp hstage).1
  have hcount : i < plan.stageCount plan.ranges.length := hlength ▸ hi
  have hids : ∀ j < i, stageIdText host (stages.map fun stage => .obj stage.fields) j =
      plan.stageId j := by
    intro j hj
    have hget := getElem?_eq_getElem (Nat.lt_trans hj hi)
    rw [stageIdText, getD_eq_getElem?_getD, getElem?_map, hget]
    show host.strOrEmpty (.str stages[j].stageId) = plan.stageId j
    rw [Host.strOrEmpty_str, (hplanned j _ hget).ident]
  have hdepends : ∀ id ∈ stage.dependsOnStageIds, id ∈ (plan.loopAt i).seenStageIds ∧
      strip id = id := by
    intro id hid
    rw [h.waits] at hid
    cases i with
    | zero => cases hid
    | succ j =>
      obtain rfl := mem_singleton.mp hid
      exact ⟨plan.mem_seen_loopAt.mpr ⟨j, Nat.lt_succ_self j, rfl⟩, strip_stageId⟩
  have hitems : (Json.arr (stage.dependsOnStageIds.map .str)).pyOr (.arr []) =
      .arr (stage.dependsOnStageIds.map .str) := by
    cases hdep : stage.dependsOnStageIds with
    | nil => rfl
    | cons id ids => rfl
  have hnode : strip (plan.range i).nodeId = (plan.range i).nodeId := hstripped.rangeAt _
  have hphases : ∀ name ∈ batchPhases, strip name = name := by decide
  have hrange : plan.range i ∈ plan.ranges := by
    have hindex := DagPlan.shardIndex_lt hne hcount
    rw [DagPlan.range, rangeAt_of_getElem? (getElem?_eq_getElem hindex)]
    exact getElem_mem hindex
  exact {
    number := by
      show (optionalInt host (.int stage.sequence)).mapError .raised = _
      rw [h.number]
      rfl
    phase := by
      rw [fieldText_of_str host (s := stage.phase) rfl, h.phase]
      exact hphases _ (DagPlan.phase_mem hne hcount)
    executor := by
      rw [fieldText_of_str host (s := stage.executorNodeId) rfl, h.executor, hnode]
    sink := by
      rw [fieldText_of_str host (s := stage.executorNodeId) rfl, h.executor, hnode]
    source := by
      rw [fieldText_of_str host (s := stage.sourceNodeId) rfl, h.source, shardSource]
      split
      · exact hstripped.requester
      · exact hstripped.rangeAt _
    output := by
      rw [fieldText_of_str host (s := stage.outputToNodeId) rfl, h.output, shardOutput]
      split
      · exact hstripped.requester
      · exact hstripped.rangeAt _
    start := by
      show (optionalInt host (.int stage.layerStart)).mapError .raised = _
      rw [h.start]
      rfl
    stop := by
      show (optionalInt host (.int stage.layerEnd)).mapError .raised = _
      rw [h.stop]
      rfl
    nonempty := htiles _ hrange
    ident := by
      rw [fieldText_of_str host (s := stage.stageId) rfl, h.ident]
      exact strip_stageId
    dependsOn := by
      refine ⟨stage.dependsOnStageIds.map .str, hitems, ?_, fun id hid => ?_⟩
      · rw [expectedDependencies_eq hne hids hcount, ← h.waits]
        exact equalsTexts_map
      · obtain ⟨text, htext, rfl⟩ := mem_map.mp hid
        obtain ⟨hseen, hstrip⟩ := hdepends text htext
        rw [Host.strOrEmpty_str, hstrip]
        exact hseen
    inputHash := checkStageHash_ok rfl h.input
    outputHash := checkStageHash_ok rfl h.outputHash }

end Passes

/-! ### Built DAGs -/

section Built

variable {host : Host} {check : DagCheck} {request : DagRequest}

theorem isDigest_of_normalize {v : Json} {hash : String}
    (h : normalizeSha256Hex host v fieldName = .ok hash) : IsDigest host hash := by
  intro other
  unfold normalizeSha256Hex at h
  dsimp only at h
  split at h
  next hhex =>
    cases h
    have hplain : ∀ c ∈ (host.lower (strip (host.strOrEmpty v))).toList, _ := fun c hc =>
      hexAlphabet_plain c (of_decide_eq_true (all_eq_true.mp hhex.2 c hc))
    have hself : host.lower (strip (host.lower (strip (host.strOrEmpty v)))) =
        host.lower (strip (host.strOrEmpty v)) := by
      rw [strip_eq_self fun c hc => (hplain c hc).2.2.1]
      exact host.lower_of_noUpper _ fun c hc => ⟨(hplain c hc).1, (hplain c hc).2.1⟩
    rw [normalizeSha256Hex, Host.strOrEmpty_str, hself]
    exact if_pos hhex
  next => cases h

theorem isDigest_of_optional {value : Option String} {hash? : Option String}
    (h : optionalSha256Hex host value fieldName = .ok hash?) (hash : String)
    (hsome : hash? = some hash) : IsDigest host hash := by
  unfold optionalSha256Hex at h
  split at h
  · cases h
    cases hsome
  · cases hnormal : normalizeSha256Hex host (.str (value.getD "")) fieldName with
    | error e => rw [hnormal] at h; cases h
    | ok found =>
      rw [hnormal] at h
      cases h
      cases hsome
      exact isDigest_of_normalize hnormal

/-- The coordinator of a DAG: the requester, if none is given. -/
def DagRequest.coordinator (request : DagRequest) : String :=
  if strip (request.coordinatorNodeId.getD "") = "" then strip request.requesterNodeId
  else strip (request.coordinatorNodeId.getD "")

/-- The check is one that the request is meant for: its chain, its session and its participants. -/
structure DagCheck.Admits (host : Host) (check : DagCheck) (request : DagRequest) : Prop where
  chain : check.chainId = request.chainId
  /-- Lower-casing a lower-cased text changes nothing, as far as the chain's id goes. -/
  lower : host.lower (strip (transportChainId host request.chainId)) =
    transportChainId host request.chainId
  session : strip (check.sessionId.getD "") = "" ∨
    strip (check.sessionId.getD "") = strip request.sessionId
  participants : cleanNodeIds check.participantNodeIds = [] ∨
    ∀ id, id ∈ cleanNodeIds check.participantNodeIds ↔
      id ∈ cleanNodeIds (strip request.requesterNodeId :: request.coordinator ::
        cleanNodeIds request.executorNodeIds)

/-- What the builder asks for, and what it returns. -/
theorem buildExecutionDag_ok {dag : Fields} (h : buildExecutionDag host request = .ok dag) :
    strip request.sessionId ≠ "" ∧ strip request.requesterNodeId ≠ "" ∧
      cleanNodeIds request.executorNodeIds ≠ [] ∧
      ((cleanNodeIds request.executorNodeIds).length : Int) ≤ request.totalLayerCount ∧
      ∃ ranges inputHash outputHash requested direct,
        normalizeShardRanges host (cleanNodeIds request.executorNodeIds) request.totalLayerCount
          request.shardRanges = .ok ranges ∧
        (∀ hash, inputHash = some hash → IsDigest host hash) ∧
        (∀ hash, outputHash = some hash → IsDigest host hash) ∧
        direct = (request.singleExecutorDirectFinalOutput && decide (ranges.length = 1)) ∧
        ∃ mode, mode = (if direct then .singlePassFinalDecode else requested) ∧
        ∃ fields, fields = dagFields host request (cleanNodeIds request.executorNodeIds) ranges
            direct
            mode (DagContext.stages ⟨strip request.sessionId, strip request.requesterNodeId, ranges,
              inputHash, outputHash⟩ direct mode) ∧
          dag = fields ++ [("dagHashSha256Hex", .str (dagHash fields))] := by
  unfold buildExecutionDag at h
  simp only [bind_eq_ok, raiseIf_ok, not_lt] at h
  obtain ⟨_, hsession, _, hrequester, _, hexecutors, _, _, _, hlength, inputHash, hinput,
    outputHash, houtput, ranges, hranges, h⟩ := h
  split at h
  next => cases h
  next requested hmode =>
    exact ⟨hsession, hrequester, hexecutors, hlength, ranges, inputHash, outputHash, requested, _,
      hranges, isDigest_of_optional hinput, isDigest_of_optional houtput, rfl, _, rfl, _, rfl,
      (Except.ok.inj h).symm⟩

section Parts

variable {executors : List String} {ranges : List ShardRange} {direct : Bool} {mode : PipelineMode}
  {stages : List Stage} {dag : Fields}

theorem nodeIdsOf_texts {key : String} {ids : List String} (hclean : CleanIds ids)
    (h : Json.getD dag key = .arr (ids.map .str)) : nodeIdsOf host dag key = .ok ids := by
  have hitems : pyItems ((Json.getD dag key).pyOr (.arr [])) = .ok (ids.map .str) := by
    rw [h]
    cases ids <;> rfl
  have htexts : (ids.map Json.str).map host.strOrEmpty = ids := by
    rw [map_map]
    refine (map_congr_left fun id _ => ?_).trans (map_id ids)
    exact Host.strOrEmpty_str host id
  rw [nodeIdsOf, hitems]
  show Except.ok (cleanNodeIds ((ids.map Json.str).map host.strOrEmpty)) = .ok ids
  rw [htexts, hclean.cleanNodeIds_eq]

theorem equalsRange_json {floatEquals : FloatLit → Int → Bool} :
    equalsRange floatEquals range.json range = true := by
  have htext : equalsRange.equalsText (.str range.nodeId) range.nodeId = true := decide_eq_true rfl
  have hint : ∀ n : Int, equalsInt floatEquals (.int n) n = true := fun n => decide_eq_true rfl
  show (decide (4 = 4) && equalsRange.equalsText (.str range.nodeId) range.nodeId &&
    equalsInt floatEquals (.int range.layerStart) range.layerStart &&
    equalsInt floatEquals (.int range.layerEnd) range.layerEnd &&
    equalsInt floatEquals (.int range.layerCount) range.layerCount) = true
  rw [htext, hint, hint, hint]
  rfl

theorem equalsRanges_json {floatEquals : FloatLit → Int → Bool} :
    equalsRanges floatEquals (.arr (ranges.map ShardRange.json)) ranges = true := by
  have hall : ((ranges.map ShardRange.json).zip ranges).all
      (fun pair => equalsRange floatEquals pair.1 pair.2) = true := by
    induction ranges with
    | nil => rfl
    | cons range rest ih =>
      rw [map_cons, zip_cons_cons, all_cons, equalsRange_json, ih]
      rfl
  rw [equalsRanges, hall, length_map, Bool.and_true]
  exact decide_eq_true rfl

theorem pipelineMode?_text : pipelineMode? mode.text = some mode := by
  cases mode <;> decide

variable (request) in
theorem coordinator_ne (h : strip request.requesterNodeId ≠ "") : request.coordinator ≠ "" := by
  unfold DagRequest.coordinator
  split
  · exact h
  · assumption

variable (request) in
theorem strip_coordinator : strip request.coordinator = request.coordinator := by
  unfold DagRequest.coordinator
  split <;> exact strip_strip

/-- The head of a built DAG. -/
theorem checkDagHead_built (hadmits : check.Admits host request)
    (hsession : strip request.sessionId ≠ "") (hrequester : strip request.requesterNodeId ≠ "")
    (hexecutors : cleanNodeIds request.executorNodeIds ≠ []) {rest : Fields}
    (hdag : dag = dagFields host request (cleanNodeIds request.executorNodeIds) ranges direct mode
      stages ++ rest) :
    checkDagHead host check dag = .ok (cleanNodeIds request.executorNodeIds) := by
  have htext : ∀ {key s : String}, Json.getD dag key = .str s → strip s = s →
      fieldText host dag key = s := by
    intro key s hkey hstrip
    rw [fieldText_of_str host hkey, hstrip]
  have hdagSession : fieldText host dag "sessionId" = strip request.sessionId :=
    htext (hdag ▸ rfl) strip_strip
  have hdagRequester : fieldText host dag "requesterNodeId" = strip request.requesterNodeId :=
    htext (hdag ▸ rfl) strip_strip
  have hdagCoordinator : fieldText host dag "coordinatorNodeId" = request.coordinator :=
    htext (hdag ▸ rfl) (strip_coordinator request)
  have hnodes : nodeIdsOf host dag "executorNodeIds" = .ok (cleanNodeIds request.executorNodeIds) :=
    nodeIdsOf_texts (cleanNodeIds_clean _) (hdag ▸ rfl)
  have hparticipants : nodeIdsOf host dag "participantNodeIds" =
      .ok (cleanNodeIds (strip request.requesterNodeId :: request.coordinator ::
        cleanNodeIds request.executorNodeIds)) :=
    nodeIdsOf_texts (cleanNodeIds_clean _) (hdag ▸ rfl)
  have hlisted : ∀ id ∈ strip request.requesterNodeId :: request.coordinator ::
      cleanNodeIds request.executorNodeIds, id ≠ "" ∧ strip id = id :=
    forall_mem_cons.mpr ⟨⟨hrequester, strip_strip⟩, forall_mem_cons.mpr
      ⟨⟨coordinator_ne request hrequester, strip_coordinator request⟩,
        (cleanNodeIds_clean _).stripped⟩⟩
  unfold checkDagHead
  simp only [bind_eq_ok, refuseIf_ok, not_not, not_or]
  refine ⟨1, envelopeInt_of_int (hdag ▸ rfl), (), rfl, (), ?_, 1,
    envelopeInt_of_int (hdag ▸ rfl), (), rfl, (), ?_, (), ?_, (), ?_, _, hnodes, _,
    hparticipants, (), ⟨?_, ?_, hexecutors⟩, (), ?_, (), ?_, rfl⟩
  · exact htext (hdag ▸ rfl) (by decide)
  · rw [hadmits.chain]
    refine checkChainId_of_chain _ (hdag ▸ rfl) ?_ hadmits.lower
    rw [fieldText_of_str host (s := transportChainId host request.chainId) (hdag ▸ rfl)]
  · rw [hdagSession]
    exact hsession
  · rw [hdagSession]
    rintro ⟨hne, hother⟩
    rcases hadmits.session with h | h
    · exact hne h
    · exact hother h.symm
  · rw [hdagRequester]
    exact hrequester
  · rw [hdagCoordinator]
    exact coordinator_ne request hrequester
  · rintro ⟨hne, hother⟩
    rcases hadmits.participants with h | h
    · exact hne h
    · exact hother ⟨fun id hid => (h id).mpr hid, fun id hid => (h id).mp hid⟩
  · rw [hdagRequester, hdagCoordinator]
    intro id hid
    obtain ⟨hne, hstrip⟩ := hlisted id hid
    exact mem_cleanNodeIds.mpr ⟨mem_map.mpr ⟨id, hid, hstrip⟩, hne⟩

/-- The shape of a built DAG. -/
theorem checkDagShape_built {floatEquals : FloatLit → Int → Bool}
    (hclean : CleanIds executors) (hne : executors ≠ [])
    (hlength : (executors.length : Int) ≤ request.totalLayerCount)
    (hshards : Shards executors request.totalLayerCount ranges) (hstages : stages ≠ [])
    (hdirect : direct = true → ranges.length = 1 ∧ mode = .singlePassFinalDecode)
    (hcount : stages.length = DagPlan.stageCount
      ⟨strip request.sessionId, strip request.requesterNodeId, ranges, direct, mode⟩ ranges.length)
    {rest : Fields}
    (hdag : dag = dagFields host request executors ranges direct mode stages ++ rest) :
    checkDagShape host dag floatEquals executors =
      .ok (⟨strip request.sessionId, strip request.requesterNodeId, ranges, direct, mode⟩,
        stages.map fun stage => .obj stage.fields) := by
  have hmode : pipelineMode? (fieldText host dag "executionPipelineMode") = some mode := by
    have hstrip : strip mode.text = mode.text := by cases mode <;> decide
    rw [fieldText_of_str host (s := mode.text) (hdag ▸ rfl), hstrip, pipelineMode?_text]
  have hflag : (Json.getD dag "singleExecutorDirectFinalOutput").truthy = direct := hdag ▸ rfl
  have hdagSession : fieldText host dag "sessionId" = strip request.sessionId := by
    rw [fieldText_of_str host (s := strip request.sessionId) (hdag ▸ rfl), strip_strip]
  have hdagRequester : fieldText host dag "requesterNodeId" = strip request.requesterNodeId := by
    rw [fieldText_of_str host (s := strip request.requesterNodeId) (hdag ▸ rfl), strip_strip]
  have hranges : Json.getD dag "shardRanges" = .arr (ranges.map ShardRange.json) := hdag ▸ rfl
  have hlayers : Json.getD dag "totalLayerCount" = .int request.totalLayerCount := hdag ▸ rfl
  have hlisted : Json.getD dag "stages" = .arr (stages.map fun stage => .obj stage.fields) :=
    hdag ▸ rfl
  have hnumber : Json.getD dag "stageCount" = .int stages.length := hdag ▸ rfl
  have hchosen : (if direct then PipelineMode.singlePassFinalDecode else mode) = mode := by
    split
    next h => exact (hdirect h).2.symm
    next => rfl
  unfold checkDagShape
  simp only [bind_eq_ok, refuseIf_ok, refuseValueError_ok, not_le, not_lt, hlayers, hranges]
  have hpos := length_pos_iff.mpr hne
  refine ⟨_, intOrZero_int, (), by omega, (), hlength, ranges,
    normalizeShardRanges_json hclean hne hlength hshards, (), by rw [equalsRanges_json]; decide, ?_⟩
  rw [hlisted]
  simp only [bind_eq_ok, refuseIf_ok, not_not, hflag, hmode, hdagSession, hdagRequester,
    Option.getD_some, hchosen]
  refine ⟨(), ?_, _, envelopeInt_of_int hnumber, (), ?_, (), ?_, (), ?_, (), ?_, rfl⟩
  · exact fun hnil => hstages (map_eq_nil_iff.mp hnil)
  · rw [length_map]
  · rintro ⟨h, hmany⟩
    exact hmany (by rw [← hshards.length_eq, (hdirect h).1])
  · rw [length_map, hcount, hshards.length_eq]
  · rintro ⟨_, hnone⟩
    cases hnone

theorem dagHash_append {fields : Fields} (hash : Json) :
    dagHash (fields ++ [("dagHashSha256Hex", hash)]) = dagHash fields := by
  unfold dagHash
  rw [filter_append]
  simp

end Parts

/-- What is built is accepted. -/
theorem builtDag_accepted {dag : Fields} (floatEquals : FloatLit → Int → Bool)
    (hbuild : buildExecutionDag host request = .ok dag) (hadmits : check.Admits host request) :
    validateExecutionDag host floatEquals check (.obj dag) = .ok () := by
  obtain ⟨hsession, hrequester, hexecutors, hlength, ranges, inputHash, outputHash, requested,
    direct, hranges, hinput, houtput, hdirect, mode, hmode, fields, hfields, hdag⟩ :=
    buildExecutionDag_ok hbuild
  have hclean := cleanNodeIds_clean request.executorNodeIds
  have hshards := normalizeShardRanges_ok hclean hexecutors hlength hranges
  have hne : ranges ≠ [] := by
    rintro rfl
    exact hexecutors hshards.nodes.symm
  have hsingle : direct = true → ranges.length = 1 ∧ mode = .singlePassFinalDecode := by
    rintro rfl
    refine ⟨?_, hmode⟩
    have hboth := hdirect.symm
    rw [Bool.and_eq_true, decide_eq_true_eq] at hboth
    exact hboth.2
  have hfor : DagContext.For host
      ⟨strip request.sessionId, strip request.requesterNodeId, ranges, inputHash, outputHash⟩
      ⟨strip request.sessionId, strip request.requesterNodeId, ranges, direct, mode⟩ :=
    ⟨rfl, rfl, rfl, hne, hinput, houtput, hsingle⟩
  have hcount := length_stages hfor
  have hplanned : ∀ i stage, _ → PlannedStage host _ i stage := fun _ _ => hfor.stages_planned
  have hstages : DagContext.stages
      ⟨strip request.sessionId, strip request.requesterNodeId, ranges, inputHash, outputHash⟩ direct
      mode ≠ [] := by
    intro hnil
    rw [hnil] at hcount
    exact absurd hcount (Nat.ne_of_lt (DagPlan.stageCount_pos hne))
  have hstripped : DagPlan.Stripped
      ⟨strip request.sessionId, strip request.requesterNodeId, ranges, direct, mode⟩ := by
    refine ⟨strip_strip, fun range hrange => ?_⟩
    exact (hclean.stripped range.nodeId (hshards.nodes ▸ mem_map_of_mem hrange)).2
  have htiles : ∀ range ∈ ranges, range.layerStart < range.layerEnd := fun range hrange =>
    hshards.tiles.nonempty (mem_map_of_mem hrange)
  rw [hfields] at hdag
  have hhash : fieldText host dag "dagHashSha256Hex" = strip (dagHash fields) := by
    apply fieldText_of_str
    rw [hdag, ← hfields, getD_append_of_absent (by rw [hfields]; rfl)]
    rfl
  unfold validateExecutionDag
  simp only [bind_eq_ok, refuseIf_ok, not_not]
  refine ⟨_, checkDagHead_built hadmits hsession hrequester hexecutors hdag, _,
    checkDagShape_built hclean hexecutors hlength hshards hstages hsingle hcount hdag, (), ?_, ?_⟩
  · apply checkStages_ok.mpr
    intro i item hitem
    rw [getElem?_map, Option.map_eq_some_iff] at hitem
    obtain ⟨stage, hstage, rfl⟩ := hitem
    refine ⟨stage.fields, rfl, ?_⟩
    rw [Nat.zero_add]
    exact PlannedStage.stageOf hstripped hne htiles hcount hplanned hstage
  · rw [hhash, hdag, dagHash_append, ← hfields, dagHash]
    exact lower_payloadSha256Hex _

variable (host) (floatEquals : FloatLit → Int → Bool)

/-- The DAG that is built for a session, a requester, executors, layers, ranges and a mode is
accepted, and every accepted DAG is sound. -/
theorem executionDag_sound :
    (∀ (request : DagRequest) (check : DagCheck) (ranges : List ShardRange) (mode : PipelineMode)
        (inputHash outputHash : Option String),
      strip request.sessionId ≠ "" → strip request.requesterNodeId ≠ "" →
      cleanNodeIds request.executorNodeIds ≠ [] →
      ((cleanNodeIds request.executorNodeIds).length : Int) ≤ request.totalLayerCount →
      optionalSha256Hex host request.inputPayloadSha256Hex "inputPayloadSha256Hex" = .ok inputHash →
      optionalSha256Hex host request.expectedOutputPayloadSha256Hex
        "expectedOutputPayloadSha256Hex" = .ok outputHash →
      normalizeShardRanges host (cleanNodeIds request.executorNodeIds) request.totalLayerCount
        request.shardRanges = .ok ranges →
      pipelineMode? (strip (request.executionPipelineMode.getD "")) = some mode →
      check.Admits host request → ∃ dag, buildExecutionDag host request = .ok dag ∧
        validateExecutionDag host floatEquals check (.obj dag) = .ok ()) ∧
    (∀ (check : DagCheck) (dag : List (String × Json)),
      validateExecutionDag host floatEquals check (.obj dag) = .ok () →
      ∃ executors totalLayers ranges stages, nodeIdsOf host dag "executorNodeIds" = .ok executors ∧
        intOrZero host (Json.getD dag "totalLayerCount")
          (dagError "total layer count is invalid.") = .ok totalLayers ∧
        normalizeShardRanges host executors totalLayers (Json.getD dag "shardRanges") = .ok ranges ∧
        Json.getD dag "stages" = .arr (stages.map .obj) ∧
        SoundDag host dag executors totalLayers ranges stages) := by
  constructor
  · intro request check ranges mode inputHash outputHash hsession hrequester hexecutors hlength
      hinput houtput hranges hmode hadmits
    obtain ⟨dag, hbuild⟩ : ∃ dag, buildExecutionDag host request = .ok dag := by
      have hpos := length_pos_iff.mpr hexecutors
      unfold buildExecutionDag
      simp only [bind_eq_ok, raiseIf_ok, not_lt, hmode]
      exact ⟨_, (), hsession, (), hrequester, (), hexecutors, (), by omega, (), hlength, inputHash,
        hinput, outputHash, houtput, ranges, hranges, rfl⟩
    exact ⟨dag, hbuild, builtDag_accepted floatEquals hbuild hadmits⟩
  · intro check dag haccepted
    obtain ⟨executors, totalLayers, plan, stages, h⟩ := validateExecutionDag_dagOf haccepted
    exact ⟨executors, totalLayers, plan.ranges, stages, h.nodes, h.layers, h.normalized, h.listed,
      h.sound⟩

end Built

/-! ### Two executors -/

/-- Two layers on two executors, in one pass. -/
def sampleDagRequest : DagRequest where
  sessionId := "s"
  requesterNodeId := "r"
  executorNodeIds := ["a", "b"]
  totalLayerCount := 2
  createdAt := "1970-01-01T00:00:00+00:00"
  executionPipelineMode := some "single_pass_final_decode"

theorem sampleDagRequest_admits : DagCheck.Admits sampleHost {} sampleDagRequest where
  chain := rfl
  lower := by decide
  session := .inl (by decide)
  participants := .inl (by decide)

/-- The single pass of two executors is built, accepted and sound. -/
theorem executionDag_sound_pass : ∃ dag, buildExecutionDag sampleHost sampleDagRequest = .ok dag ∧
      validateExecutionDag sampleHost (fun _ _ => false) {} (.obj dag) = .ok () ∧
      ∃ executors totalLayers ranges stages, SoundDag sampleHost dag executors totalLayers ranges
        stages := by
  obtain ⟨hbuilt, hsound⟩ := executionDag_sound sampleHost fun _ _ => false
  obtain ⟨dag, hdag, haccepted⟩ := hbuilt sampleDagRequest {} [⟨"a", 0, 1⟩, ⟨"b", 1, 2⟩]
    .singlePassFinalDecode none none (by decide) (by decide) (by decide) (by decide) rfl rfl
    (by decide) (by decide) sampleDagRequest_admits
  obtain ⟨executors, totalLayers, ranges, stages, _, _, _, _, h⟩ := hsound {} dag haccepted
  exact ⟨dag, hdag, haccepted, executors, totalLayers, ranges, stages, h⟩

/-- The decoding phase of that DAG leaves out the first layer. -/
theorem executionDag_phase_partial :
    ∃ (dag : List (String × Json)) (stages : List (List (String × Json))),
      validateExecutionDag sampleHost (fun _ _ => false) {} (.obj dag) = .ok () ∧
      Json.getD dag "stages" = .arr (stages.map .obj) ∧ Json.getD dag "totalLayerCount" = .int 2 ∧
      ((stages.filter fun stage => fieldText sampleHost stage "phase" = decodePhase).map
        (stageBounds sampleHost)).countP (holdsPoint 0) = 0 := by
  obtain ⟨dag, hdag⟩ : ∃ dag, buildExecutionDag sampleHost sampleDagRequest = .ok dag := ⟨_, rfl⟩
  have haccepted := builtDag_accepted (fun _ _ => false) hdag sampleDagRequest_admits
  cases hdag
  exact ⟨_, [_, _], haccepted, rfl, rfl, rfl⟩

end CaiNetwork.Transport
