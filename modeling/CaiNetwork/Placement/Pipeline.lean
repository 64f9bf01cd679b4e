/-
CaiNetwork/Placement/Pipeline.lean

Pipeline shards of a model over a cycle of nodes (`placement_utils.py` of the master).

The layers are divided by available memory with the largest remainders, every node is brought to a
minimum, and a share that does not fit its node's memory stops the placement.  A model with
classifier-free guidance mirrors the division of the first half of the cycle on the second one,
whose memory nobody looks at (`pipelineAssignments_sound_iff`).
-/

import Mathlib.Data.Rat.Floor
import Mathlib.Algebra.BigOperators.Ring.List
import Mathlib.Algebra.Order.BigOperators.Group.List
import Mathlib.Data.List.GetD
import Mathlib.Data.List.Sort
import CaiNetwork.Host
import CaiNetwork.Tiling

namespace CaiNetwork.Placement

open List

/-! ### Models -/

/-- An exception of the placement. -/
inductive PlacementError
  | valueError (message : String)
  | keyError (key : String)
  | indexError
deriving DecidableEq

/-- The fields of `ModelCard` that the division of the layers reads. -/
structure ModelCard where
  storageSize : Nat
  nLayers : Nat
  nLayers_pos : 0 < nLayers
  usesCfg : Bool
  /-- `private_network_model_min_pipeline_layers_per_node`, for this model. -/
  minimumLayersPerNode : Int

/-! ### Dividing the layers -/

/-- `result[j] += d`. -/
def bump (result : List Int) (j : Nat) (d : Int) : List Int := result.modify j (· + d)

/-- `by_remainder`: the indices by what truncation leaves, the largest first. -/
def byRemainder (raw : List Rat) : List Nat :=
  (List.range raw.length).insertionSort fun i j =>
    raw.getD j 0 - truncate (raw.getD j 0) ≤ raw.getD i 0 - truncate (raw.getD i 0)

/-- The loop that hands the remaining layers out along `by_remainder`. -/
def addRemaining (totalLayers : Int) (order : List Nat) (result : List Int) :
    Except PlacementError (List Int) :=
  let units := (totalLayers - result.sum).toNat
  if order.length < units then .error .indexError
  else .ok ((order.take units).foldl (fun result j => bump result j 1) result)

/-- `(result[j] - minimum_layers_per_node, result[j], memory_fractions[j])`, compared. -/
def donorLess (minimum : Int) (fractions : List Rat) (result : List Int) (a b : Nat) : Bool :=
  let x := result.getD a 0
  let y := result.getD b 0
  x - minimum < y - minimum ∨ (x - minimum = y - minimum ∧
    (x < y ∨ (x = y ∧ fractions.getD a 0 < fractions.getD b 0)))

/-- `donors`. -/
def donors (minimum : Int) (i : Nat) (result : List Int) : List Nat :=
  (List.range result.length).filter fun j => j ≠ i ∧ minimum < result.getD j 0

/-- `max(donors, key=...)`: the first of the largest. -/
def largestDonor (minimum : Int) (fractions : List Rat) (i : Nat) (result : List Int) :
    Option Nat :=
  (donors minimum i result).foldl (fun best j =>
    match best with
    | none => some j
    | some b => if donorLess minimum fractions result b j then some j else some b) none

/-- The loop `while result[i] < minimum_layers_per_node`, with the number of its turns. -/
def takeLayers (minimum : Int) (fractions : List Rat) (i : Nat) :
    Nat → List Int → Except PlacementError (List Int)
  | 0, result => .ok result
  | k + 1, result =>
    match largestDonor minimum fractions i result with
    | none => .error (.valueError "Cannot satisfy minimum layer allocation for every node")
    | some j => takeLayers minimum fractions i k (bump (bump result j (-1)) i 1)

/-- The loop that brings one node after the other to the minimum; each turn adds a layer, so there
are as many as layers are missing. -/
def raiseToMinimum (minimum : Int) (fractions : List Rat) :
    List Nat → List Int → Except PlacementError (List Int)
  | [], result => .ok result
  | i :: rest, result => do
    let result ← takeLayers minimum fractions i (minimum - result.getD i 0).toNat result
    raiseToMinimum minimum fractions rest result

/-- `allocate_layers_proportionally`. -/
def allocateLayersProportionally (totalLayers : Int) (fractions : List Rat) (minimum : Int) :
    Except PlacementError (List Int) := do
  let n := fractions.length
  if n = 0 then throw (.valueError "Cannot allocate layers to an empty node list")
  let minimum := max 1 minimum
  if totalLayers < n * minimum then
    let requirement := if minimum = 1 then "1 layer per node" else s!"{minimum} layers per node"
    throw (.valueError (s!"Cannot distribute {totalLayers} layers across {n} nodes " ++
      s!"(need at least {requirement})"))
  let raw := fractions.map fun fraction : Rat => fraction * totalLayers
  let result ← addRemaining totalLayers (byRemainder raw) (raw.map truncate)
  raiseToMinimum minimum fractions (List.range n) result

/-! ### Memory -/

section Memory

variable (gigabytes : Int → String) (memory : String → Option Int)

/-- `node_memory[node_id].ram_available`. -/
def ramAvailable (nodeId : String) : Except PlacementError Int :=
  match memory nodeId with
  | some bytes => .ok bytes
  | none => .error (.keyError nodeId)

/-- `_compute_total_memory`, with the memory of the nodes. -/
def computeTotalMemory (nodeIds : List String) : Except PlacementError (List Int) := do
  let available ← nodeIds.mapM (ramAvailable memory)
  if available.sum = 0 then
    throw (.valueError "Cannot create shard assignments: total available memory is 0")
  return available

/-- `(total_storage * node_layers) // total_layers`. -/
def requiredMemory (card : ModelCard) (layers : Int) : Int :=
  card.storageSize * layers / card.nLayers

/-- The loop of `_allocate_and_validate_layers` over the nodes, from the `i`-th on. -/
def validateMemory (card : ModelCard) : Nat → List (String × Int × Int) → Except PlacementError Unit
  | _, [] => .ok ()
  | i, (nodeId, layers, available) :: rest =>
    if available < requiredMemory card layers then
      .error (.valueError (s!"Node {i} ({nodeId}) has insufficient memory: requires " ++
        gigabytes (requiredMemory card layers) ++ s!" GB for {layers} layers, but only has " ++
        gigabytes available ++ " GB available"))
    else validateMemory card (i + 1) rest

/-- `_allocate_and_validate_layers`, after `_compute_total_memory`. -/
def allocateAndValidateLayers (card : ModelCard) (nodeIds : List String) :
    Except PlacementError (List Int) := do
  let available ← computeTotalMemory memory nodeIds
  let layers ← allocateLayersProportionally card.nLayers
    (available.map fun bytes : Int => (bytes : Rat) / (available.sum : Int))
    card.minimumLayersPerNode
  validateMemory gigabytes card 0 (nodeIds.zip (layers.zip available))
  return layers

/-! ### Shards -/

/-- The place of a shard in one of the two pipelines. -/
structure CfgPlace where
  cfgRank : Nat
  pipelineRank : Nat
  pipelineWorldSize : Nat
deriving DecidableEq

/-- `PipelineShardMetadata`, or `CfgShardMetadata` with its place. -/
structure ShardMetadata where
  deviceRank : Nat
  worldSize : Nat
  startLayer : Int
  endLayer : Int
  nLayers : Nat
  cfg : Option CfgPlace
deriving DecidableEq

/-- The shard of a rank. -/
def shardOf (card : ModelCard) (layers : List Int) (deviceRank worldSize rank : Nat)
    (cfg : Option CfgPlace) : ShardMetadata where
  deviceRank := deviceRank
  worldSize := worldSize
  startLayer := (layers.take rank).sum
  endLayer := (layers.take rank).sum + layers.getD rank 0
  nLayers := card.nLayers
  cfg := cfg

/-- The assignments: `node_to_runner` and `runner_to_shard`, in the order of the cycle. -/
abbrev Assignments := List (String × ShardMetadata)

/-- `_validate_cycle`. -/
def validateCycle (cycle : List String) : Except PlacementError Unit :=
  if cycle = [] then
    .error (.valueError "Cannot create shard assignments for empty node cycle")
  else .ok ()

/-- The shards of a pure pipeline. -/
def pureShards (card : ModelCard) (cycle : List String) (layers : List Int) : Assignments :=
  cycle.mapIdx fun rank nodeId => (nodeId, shardOf card layers rank cycle.length rank none)

/-- `_get_shard_assignments_for_pure_pipeline`. -/
def getShardAssignmentsForPurePipeline (card : ModelCard) (cycle : List String) :
    Except PlacementError Assignments := do
  validateCycle cycle
  let layers ← allocateAndValidateLayers gigabytes memory card cycle
  return pureShards card cycle layers

/-- `position_to_cfg_pipeline`. -/
def positionToCfgPipeline (pipelineWorldSize : Nat) : List (Nat × Nat) :=
  (List.range pipelineWorldSize).map (fun r => (0, r)) ++
    (List.range pipelineWorldSize).reverse.map (fun r => (1, r))

/-- The shards of two pipelines. -/
def cfgShards (card : ModelCard) (cycle : List String) (layers : List Int) : Assignments :=
  cycle.mapIdx fun deviceRank nodeId =>
    let place := (positionToCfgPipeline (cycle.length / 2)).getD deviceRank (0, 0)
    (nodeId, shardOf card layers deviceRank cycle.length place.2
      (some ⟨place.1, place.2, cycle.length / 2⟩))

/-- `_get_shard_assignments_for_cfg_parallel`. -/
def getShardAssignmentsForCfgParallel (card : ModelCard) (cycle : List String) :
    Except PlacementError Assignments := do
  validateCycle cycle
  let layers ← allocateAndValidateLayers gigabytes memory card (cycle.take (cycle.length / 2))
  return cfgShards card cycle layers

/-- `use_cfg_parallel`. -/
def useCfgParallel (card : ModelCard) (cycle : List String) : Bool :=
  card.usesCfg ∧ 2 ≤ cycle.length ∧ cycle.length % 2 = 0

/-- `get_shard_assignments_for_pipeline_parallel`. -/
def getShardAssignmentsForPipelineParallel (card : ModelCard) (cycle : List String) :
    Except PlacementError Assignments :=
  if useCfgParallel card cycle then getShardAssignmentsForCfgParallel gigabytes memory card cycle
  else getShardAssignmentsForPurePipeline gigabytes memory card cycle

end Memory

/-! ### The division -/

section Division

variable {minimum totalLayers : Int} {fractions : List Rat} {result result' : List Int}
  {i j k : Nat}

theorem length_bump {d : Int} : (bump result j d).length = result.length := length_modify ..

theorem sum_bump {d : Int} (hj : j < result.length) : (bump result j d).sum = result.sum + d := by
  induction result generalizing j with
  | nil => exact absurd hj (Nat.not_lt_zero j)
  | cons x result ih =>
    cases j with
    | zero => simp [bump]; ring
    | succ j =>
      have h := ih (Nat.lt_of_succ_lt_succ hj)
      simp only [bump] at h
      simp [bump, h]; ring

theorem getD_bump {d : Int} (hj : j < result.length) {m : Nat} :
    (bump result j d).getD m 0 = result.getD m 0 + if m = j then d else 0 := by
  rw [bump, getD_eq_getElem?_getD, getD_eq_getElem?_getD, getElem?_modify]
  by_cases hm : m = j
  · subst hm
    rw [getElem?_eq_getElem hj]
    simp
  · simp [hm, Ne.symm hm]

theorem foldl_bump {js : List Nat} (hjs : ∀ j ∈ js, j < result.length) :
    (js.foldl (fun result j => bump result j 1) result).length = result.length ∧
      (js.foldl (fun result j => bump result j 1) result).sum = result.sum + js.length := by
  induction js generalizing result with
  | nil => simp
  | cons j js ih =>
    have hlength : (bump result j 1).length = result.length := length_bump
    obtain ⟨hlen, hsum⟩ := ih fun m hm => hlength.symm ▸ hjs m (mem_cons_of_mem j hm)
    rw [foldl_cons, hlen, hsum, hlength, sum_bump (hjs j mem_cons_self)]
    refine ⟨rfl, ?_⟩
    rw [length_cons]
    push_cast
    ring

/-- The remaining layers make up the total. -/
theorem addRemaining_ok {order : List Nat} (h : addRemaining totalLayers order result = .ok result')
    (horder : ∀ j ∈ order, j < result.length) :
    result'.length = result.length ∧ (result.sum ≤ totalLayers → result'.sum = totalLayers) := by
  rw [addRemaining] at h
  split at h
  · cases h
  · rename_i hunits
    have htake : ∀ j ∈ order.take (totalLayers - result.sum).toNat, j < result.length :=
      fun j hj => horder j (mem_of_mem_take hj)
    obtain ⟨hlength, hsum⟩ := foldl_bump htake
    rw [← Except.ok.inj h, hlength, hsum, length_take_of_le (not_lt.mp hunits)]
    refine ⟨rfl, fun hle => ?_⟩
    omega

theorem largestDonor_mem (h : largestDonor minimum fractions i result = some j) :
    j < result.length ∧ j ≠ i ∧ minimum < result.getD j 0 := by
  have hfold : ∀ (l : List Nat) (best : Option Nat), l.foldl (fun best j =>
      match best with
      | none => some j
      | some b => if donorLess minimum fractions result b j then some j else some b) best = some j →
      j ∈ l ∨ best = some j := by
    intro l
    induction l with
    | nil => exact fun best h => .inr h
    | cons m l ih =>
      intro best h
      obtain hmem | hbest := ih _ h
      · exact .inl (mem_cons_of_mem m hmem)
      · cases best with
        | none => exact .inl (Option.some.inj hbest ▸ mem_cons_self)
        | some b =>
          simp only at hbest
          split at hbest
          · exact .inl (Option.some.inj hbest ▸ mem_cons_self)
          · exact .inr hbest
  obtain hmem | hnone := hfold _ _ h
  · obtain ⟨hrange, hdonor⟩ := mem_filter.mp hmem
    exact ⟨mem_range.mp hrange, of_decide_eq_true hdonor⟩
  · cases hnone

/-- **One node is brought to the minimum**: no layer is lost, and the others that had the minimum
keep it. -/
theorem takeLayers_ok (h : takeLayers minimum fractions i k result = .ok result')
    (hi : i < result.length) : result'.length = result.length ∧ result'.sum = result.sum ∧
      result'.getD i 0 = result.getD i 0 + k ∧
      ∀ m, m ≠ i → minimum ≤ result.getD m 0 → minimum ≤ result'.getD m 0 := by
  induction k generalizing result with
  | zero =>
    rw [← Except.ok.inj h]
    exact ⟨rfl, rfl, (add_zero _).symm, fun _ _ hm => hm⟩
  | succ k ih =>
    rw [takeLayers] at h
    cases hdonor : largestDonor minimum fractions i result with
    | none =>
      rw [hdonor] at h
      cases h
    | some j =>
      rw [hdonor] at h
      obtain ⟨hj, hji, hmore⟩ := largestDonor_mem hdonor
      have hi' : i < (bump result j (-1)).length := by rwa [length_bump]
      obtain ⟨hlength, hsum, hvalue, hkeep⟩ := ih h (by rwa [length_bump, length_bump])
      refine ⟨?_, ?_, ?_, fun m hm hmin => ?_⟩
      · rw [hlength, length_bump, length_bump]
      · rw [hsum, sum_bump hi', sum_bump hj]
        ring
      · rw [hvalue, getD_bump hi', getD_bump hj, if_pos rfl, if_neg (Ne.symm hji)]
        push_cast
        ring
      · refine hkeep m hm ?_
        rw [getD_bump hi', getD_bump hj, if_neg hm]
        by_cases hmj : m = j
        · rw [if_pos hmj, hmj]
          omega
        · rw [if_neg hmj]
          omega

/-- **All nodes are brought to the minimum.** -/
theorem raiseToMinimum_ok {indices : List Nat}
    (h : raiseToMinimum minimum fractions indices result = .ok result')
    (hindices : ∀ i ∈ indices, i < result.length) :
    result'.length = result.length ∧ result'.sum = result.sum ∧
      (∀ i ∈ indices, minimum ≤ result'.getD i 0) ∧
      ∀ m, minimum ≤ result.getD m 0 → minimum ≤ result'.getD m 0 := by
  induction indices generalizing result with
  | nil =>
    rw [← Except.ok.inj h]
    exact ⟨rfl, rfl, fun _ hi => absurd hi not_mem_nil, fun _ hm => hm⟩
  | cons i indices ih =>
    rw [raiseToMinimum] at h
    obtain ⟨middle, htake, hrest⟩ := bind_eq_ok.mp h
    obtain ⟨hlength, hsum, hvalue, hkeep⟩ := takeLayers_ok htake (hindices i mem_cons_self)
    have hmiddle : ∀ m, minimum ≤ result.getD m 0 → minimum ≤ middle.getD m 0 := by
      intro m hm
      by_cases hmi : m = i
      · rw [hmi] at hm ⊢
        omega
      · exact hkeep m hmi hm
    obtain ⟨hlength', hsum', hreached, hkeep'⟩ :=
      ih hrest fun m hm => hlength.symm ▸ hindices m (mem_cons_of_mem i hm)
    refine ⟨hlength'.trans hlength, hsum'.trans hsum, fun m hm => ?_,
      fun m hm => hkeep' m (hmiddle m hm)⟩
    obtain rfl | hm := mem_cons.mp hm
    · exact hkeep' m (by omega)
    · exact hreached m hm

theorem mem_byRemainder {raw : List Rat} : j ∈ byRemainder raw ↔ j < raw.length :=
  (mem_insertionSort _).trans mem_range

theorem truncate_le {r : Rat} (h : 0 ≤ r) : (truncate r : Rat) ≤ r := by
  rw [truncate_of_nonneg h]
  exact Int.floor_le r

theorem sum_truncate_le {raw : List Rat} (h : ∀ r ∈ raw, 0 ≤ r) :
    (((raw.map truncate).sum : Int) : Rat) ≤ raw.sum := by
  induction raw with
  | nil => simp
  | cons r raw ih =>
    have hr := truncate_le (h r mem_cons_self)
    have hraw := ih fun x hx => h x (mem_cons_of_mem r hx)
    rw [map_cons, sum_cons, sum_cons, Int.cast_add]
    exact add_le_add hr hraw

/-- **What a division of layers is**: everyone has the minimum, and fractions that are not negative
and make up one divide all layers. -/
theorem allocateLayersProportionally_ok {layers : List Int}
    (h : allocateLayersProportionally totalLayers fractions minimum = .ok layers) :
    layers.length = fractions.length ∧ (∀ x ∈ layers, 1 ≤ x) ∧
      ((∀ f ∈ fractions, 0 ≤ f) → fractions.sum = 1 → layers.sum = totalLayers) := by
  rw [allocateLayersProportionally] at h
  simp only at h
  split at h
  · cases h
  split at h
  · cases h
  rename_i htotal
  obtain ⟨result, hadd, hraise⟩ := bind_eq_ok.mp h
  obtain ⟨hlength, hsum⟩ := addRemaining_ok hadd fun j hj => by
    rw [length_map]
    exact mem_byRemainder.mp hj
  rw [length_map, length_map] at hlength
  obtain ⟨hlength', hsum', hreached, -⟩ := raiseToMinimum_ok hraise fun i hi => by
    rw [hlength]
    exact mem_range.mp hi
  refine ⟨hlength'.trans hlength, fun x hx => ?_, fun hnonneg hone => hsum'.trans (hsum ?_)⟩
  · obtain ⟨i, hi, rfl⟩ := mem_iff_getElem.mp hx
    have hmin := hreached i (mem_range.mpr (by omega))
    rw [getD_eq_getElem _ _ hi] at hmin
    exact (le_max_left 1 minimum).trans hmin
  · have hlayers : (0 : Rat) ≤ totalLayers := by
      have hpos : 0 ≤ (fractions.length : Int) * max 1 minimum :=
        mul_nonneg (Int.natCast_nonneg _) (le_trans zero_le_one (le_max_left 1 minimum))
      exact Int.cast_nonneg (hpos.trans (not_lt.mp htotal))
    have hraw : ∀ r ∈ fractions.map (fun fraction : Rat => fraction * totalLayers), 0 ≤ r := by
      intro r hr
      obtain ⟨f, hf, rfl⟩ := mem_map.mp hr
      exact mul_nonneg (hnonneg f hf) hlayers
    have hle := sum_truncate_le hraw
    rw [sum_map_mul_right, map_id', hone, one_mul] at hle
    exact Int.cast_le.mp hle

end Division

/-! ### Divisions of the layers of a model -/

section Allocation

variable {gigabytes : Int → String} {memory : String → Option Int} {card : ModelCard}
  {nodeIds : List String} {layers available : List Int}

/-- **A division of the layers of a model over nodes** that fits their memory. -/
structure Division (memory : String → Option Int) (card : ModelCard) (nodeIds : List String)
    (layers : List Int) : Prop where
  length : layers.length = nodeIds.length
  pos : ∀ x ∈ layers, 1 ≤ x
  sum : layers.sum = card.nLayers
  fits : ∀ (i : Nat) (nodeId : String), nodeIds[i]? = some nodeId →
    ∃ bytes, memory nodeId = some bytes ∧ requiredMemory card (layers.getD i 0) ≤ bytes

theorem validateMemory_ok {i : Nat} {entries : List (String × Int × Int)}
    (h : validateMemory gigabytes card i entries = .ok ()) :
    ∀ entry ∈ entries, requiredMemory card entry.2.1 ≤ entry.2.2 := by
  induction entries generalizing i with
  | nil => exact fun _ hentry => absurd hentry not_mem_nil
  | cons entry entries ih =>
    obtain ⟨nodeId, layers, available⟩ := entry
    rw [validateMemory] at h
    split at h
    · cases h
    · rename_i hfits
      intro entry hentry
      obtain rfl | hentry := mem_cons.mp hentry
      · exact not_lt.mp hfits
      · exact ih h entry hentry

theorem mapM_ramAvailable (h : nodeIds.mapM (ramAvailable memory) = .ok available) :
    available.length = nodeIds.length ∧
      ∀ (i : Nat) (nodeId : String), nodeIds[i]? = some nodeId → memory nodeId = available[i]? := by
  induction nodeIds generalizing available with
  | nil =>
    rw [← Except.ok.inj h]
    exact ⟨rfl, fun _ _ => nofun⟩
  | cons nodeId nodeIds ih =>
    rw [mapM_cons] at h
    obtain ⟨bytes, hbytes, h⟩ := bind_eq_ok.mp h
    obtain ⟨rest, hrest, h⟩ := bind_eq_ok.mp h
    obtain ⟨hlength, hmemory⟩ := ih hrest
    rw [← Except.ok.inj h]
    refine ⟨congrArg (· + 1) hlength, fun i other hother => ?_⟩
    cases i with
    | succ i => exact hmemory i other hother
    | zero =>
      rw [← Option.some.inj hother]
      rw [ramAvailable] at hbytes
      cases hknown : memory nodeId with
      | none =>
        rw [hknown] at hbytes
        cases hbytes
      | some known =>
        rw [hknown] at hbytes
        rw [Except.ok.inj hbytes]
        rfl

theorem requiredMemory_nonneg {x : Int} (hx : 1 ≤ x) : 0 ≤ requiredMemory card x :=
  Int.ediv_nonneg (mul_nonneg (Int.natCast_nonneg _) (by omega)) (Int.natCast_nonneg _)

/-- **Layers that are allocated and validated are a division.** -/
theorem allocateAndValidateLayers_ok
    (h : allocateAndValidateLayers gigabytes memory card nodeIds = .ok layers) :
    Division memory card nodeIds layers := by
  rw [allocateAndValidateLayers] at h
  obtain ⟨available, htotal, h⟩ := bind_eq_ok.mp h
  obtain ⟨layers', hlayers, h⟩ := bind_eq_ok.mp h
  obtain ⟨_, hvalid, h⟩ := bind_eq_ok.mp h
  obtain rfl : layers' = layers := Except.ok.inj h
  rw [computeTotalMemory] at htotal
  obtain ⟨available', havailable, htotal⟩ := bind_eq_ok.mp htotal
  obtain ⟨hne, rfl⟩ : available'.sum ≠ 0 ∧ available' = available := by
    simp only at htotal
    split at htotal
    · cases htotal
    · exact ⟨‹_›, Except.ok.inj htotal⟩
  obtain ⟨hcount, hmemory⟩ := mapM_ramAvailable havailable
  obtain ⟨hlength, hpos, hsum⟩ := allocateLayersProportionally_ok hlayers
  rw [length_map, hcount] at hlength
  have hplace : ∀ (i : Nat) (nodeId : String), nodeIds[i]? = some nodeId →
      ∃ bytes, available'[i]? = some bytes ∧ requiredMemory card (layers'.getD i 0) ≤ bytes ∧
        1 ≤ layers'.getD i 0 := by
    intro i nodeId hnode
    obtain ⟨hi, -⟩ := List.getElem?_eq_some_iff.mp hnode
    have hi' : i < available'.length := by omega
    have hi'' : i < layers'.length := by omega
    have hentry : (nodeId, layers'[i], available'[i]) ∈ nodeIds.zip (layers'.zip available') := by
      refine mem_of_getElem? (i := i) (getElem?_zip_eq_some.mpr ⟨hnode, ?_⟩)
      exact getElem?_zip_eq_some.mpr ⟨getElem?_eq_getElem hi'', getElem?_eq_getElem hi'⟩
    rw [getD_eq_getElem _ _ hi'']
    exact ⟨available'[i], getElem?_eq_getElem hi', validateMemory_ok hvalid _ hentry,
      hpos _ (getElem_mem hi'')⟩
  refine ⟨hlength, hpos, hsum ?_ ?_, fun i nodeId hnode => ?_⟩
  · -- memory that holds a share is not negative
    have hnonneg : ∀ bytes ∈ available', 0 ≤ bytes := by
      intro bytes hbytes
      obtain ⟨i, hi⟩ := mem_iff_getElem?.mp hbytes
      obtain ⟨hlt, -⟩ := List.getElem?_eq_some_iff.mp hi
      obtain ⟨bytes', hbytes', hrequired, hone⟩ := hplace i _ (getElem?_eq_getElem (hcount ▸ hlt))
      rw [Option.some.inj (hi.symm.trans hbytes')]
      exact (requiredMemory_nonneg hone).trans hrequired
    intro f hf
    obtain ⟨bytes, hbytes, rfl⟩ := mem_map.mp hf
    exact div_nonneg (Int.cast_nonneg (hnonneg bytes hbytes)) (Int.cast_nonneg (sum_nonneg hnonneg))
  · have hcast : (available'.map fun bytes : Int => (bytes : Rat)).sum = (available'.sum : Int) :=
      (map_list_sum (Int.castRingHom Rat) available').symm
    simp only [div_eq_mul_inv]
    rw [sum_map_mul_right, hcast]
    exact mul_inv_cancel₀ (Int.cast_ne_zero.mpr hne)
  · obtain ⟨bytes, hbytes, hrequired, -⟩ := hplace i nodeId hnode
    exact ⟨bytes, (hmemory i nodeId hnode).trans hbytes, hrequired⟩

end Allocation

/-! ### Sound assignments -/

/-- The group of a shard, and its rank there. -/
def ShardMetadata.place (shard : ShardMetadata) : Nat × Nat :=
  match shard.cfg with
  | none => (0, shard.deviceRank)
  | some cfg => (cfg.cfgRank, cfg.pipelineRank)

/-- The shards of a group, one for each rank, have ranges that lead from the first layer to the last
in the order of the ranks, and none is empty. -/
def GroupPartitions (card : ModelCard) (assignments : Assignments) (group : Nat) : Prop :=
  ∃ members : Assignments,
    members.Perm (assignments.filter fun entry => entry.2.place.1 = group) ∧
      members.map (fun entry => entry.2.place.2) = List.range members.length ∧
      Tiles 0 (members.map fun entry => (entry.2.startLayer, entry.2.endLayer)) (card.nLayers : Int)

/-- The share of every node fits its memory. -/
def SharesFit (memory : String → Option Int) (card : ModelCard) (assignments : Assignments) :
    Prop :=
  ∀ entry ∈ assignments, ∃ bytes, memory entry.1 = some bytes ∧
    requiredMemory card (entry.2.endLayer - entry.2.startLayer) ≤ bytes

/-- In the second half of a cycle that runs two pipelines, the node opposite to a node of the first
half has the memory for the layers that the division over the first half gives that node. -/
def SecondHalfFits (gigabytes : Int → String) (memory : String → Option Int) (card : ModelCard)
    (cycle : List String) : Prop :=
  useCfgParallel card cycle = true → ∀ layers,
    allocateAndValidateLayers gigabytes memory card (cycle.take (cycle.length / 2)) = .ok layers →
      ∀ (j : Nat) (nodeId : String), (cycle.drop (cycle.length / 2))[j]? = some nodeId →
        ∃ bytes, memory nodeId = some bytes ∧
          requiredMemory card (layers.getD (cycle.length / 2 - 1 - j) 0) ≤ bytes

section Assignments

variable {gigabytes : Int → String} {memory : String → Option Int} {card : ModelCard}
  {cycle : List String} {layers : List Int} {assignments : Assignments}

/-- The ranks of a division, with their ranges. -/
def rankedRanges (layers : List Int) (rank : Nat) : Nat × Int × Int :=
  (rank, (layers.take rank).sum, (layers.take rank).sum + layers.getD rank 0)

theorem tiles_rankedRanges (hpos : ∀ x ∈ layers, 1 ≤ x) :
    Tiles 0 ((List.range layers.length).map fun rank => (rankedRanges layers rank).2)
      layers.sum := by
  have hshift : ∀ (l : List Int) (a : Int), (∀ x ∈ l, 1 ≤ x) →
      Tiles a ((List.range l.length).map fun rank =>
        (a + (l.take rank).sum, a + ((l.take rank).sum + l.getD rank 0))) (a + l.sum) := by
    intro l
    induction l with
    | nil =>
      intro a _
      simpa using Tiles.nil a
    | cons x l ih =>
      intro a hl
      have hx : a < a + x := by
        have h := hl x mem_cons_self
        omega
      have htail := ih (a + x) fun y hy => hl y (mem_cons_of_mem x hy)
      have hranges : (fun rank => (a + ((x :: l).take rank).sum,
            a + (((x :: l).take rank).sum + (x :: l).getD rank 0))) ∘ Nat.succ =
          fun rank => (a + x + (l.take rank).sum, a + x + ((l.take rank).sum + l.getD rank 0)) := by
        funext rank
        simp [add_assoc]
      rw [length_cons, range_succ_eq_map, map_cons, map_map, hranges,
        sum_cons, ← add_assoc a x l.sum]
      simpa using Tiles.cons hx htail
  have h := hshift layers 0 hpos
  simp only [zero_add] at h
  exact h

/-- What depends on the place alone is read off the places. -/
theorem map_mapIdx {α β γ : Type} (l : List α) (f : Nat → α → β) (g : β → γ) (h : Nat → γ)
    (hfg : ∀ k < l.length, ∀ a, g (f k a) = h k) :
    (l.mapIdx f).map g = (List.range l.length).map h := by
  refine ext_getElem (by simp) fun k hk _ => ?_
  rw [length_map, length_mapIdx] at hk
  simp [hfg k hk]

theorem endLayer_sub_startLayer {deviceRank worldSize rank : Nat} {cfg : Option CfgPlace} :
    (shardOf card layers deviceRank worldSize rank cfg).endLayer -
      (shardOf card layers deviceRank worldSize rank cfg).startLayer = layers.getD rank 0 :=
  add_sub_cancel_left _ _

section Groups

variable {group : Nat} (nodeIds : List String) (f : Nat → String → String × ShardMetadata)

theorem filter_group_eq_self (hf : ∀ k nodeId, (f k nodeId).2.place.1 = group) :
    (nodeIds.mapIdx f).filter (fun entry => entry.2.place.1 = group) = nodeIds.mapIdx f := by
  rw [filter_eq_self]
  intro entry hentry
  obtain ⟨k, hk, rfl⟩ := mem_mapIdx.mp hentry
  exact decide_eq_true (hf k _)

theorem filter_group_eq_nil (hf : ∀ k nodeId, (f k nodeId).2.place.1 ≠ group) :
    (nodeIds.mapIdx f).filter (fun entry => entry.2.place.1 = group) = [] := by
  rw [filter_eq_nil_iff]
  intro entry hentry
  obtain ⟨k, hk, rfl⟩ := mem_mapIdx.mp hentry
  rw [decide_eq_true_eq]
  exact hf k _

end Groups

/-- The rank of a shard in its group, and its range. -/
def ShardMetadata.rankAndRange (shard : ShardMetadata) : Nat × Int × Int :=
  (shard.place.2, shard.startLayer, shard.endLayer)

/-- Shards that follow the ranks of a division partition the layers. -/
theorem Division.groupPartitions {nodeIds : List String} (h : Division memory card nodeIds layers)
    {group : Nat} {members : Assignments}
    (hperm : members.Perm (assignments.filter fun entry => entry.2.place.1 = group))
    (hranks : members.map (fun entry => entry.2.rankAndRange) =
      (List.range nodeIds.length).map (rankedRanges layers)) :
    GroupPartitions card assignments group := by
  have hlength : members.length = nodeIds.length := by
    simpa using congrArg List.length hranks
  refine ⟨members, hperm, ?_, ?_⟩
  · have hfirst := congrArg (List.map Prod.fst) hranks
    rw [map_map, map_map] at hfirst
    rw [hlength]
    exact hfirst.trans (map_id _)
  · have hrest := congrArg (List.map Prod.snd) hranks
    rw [map_map, map_map, ← h.length] at hrest
    have htiles := tiles_rankedRanges h.pos
    rw [h.sum] at htiles
    exact hrest.symm ▸ htiles

/-! ### One pipeline -/

theorem pureShards_partitions (h : Division memory card cycle layers) :
    GroupPartitions card (pureShards card cycle layers) 0 := by
  have hall : (pureShards card cycle layers).filter (fun entry => entry.2.place.1 = 0) =
      pureShards card cycle layers := filter_group_eq_self _ _ fun _ _ => rfl
  exact h.groupPartitions (.of_eq hall.symm) (map_mapIdx cycle _ _ _ fun _ _ _ => rfl)

theorem pureShards_fit (h : Division memory card cycle layers) :
    SharesFit memory card (pureShards card cycle layers) := by
  intro entry hentry
  obtain ⟨rank, hrank, rfl⟩ := mem_mapIdx.mp hentry
  rw [endLayer_sub_startLayer]
  exact h.fits rank _ (getElem?_eq_getElem hrank)

/-! ### Two pipelines -/

theorem positionToCfgPipeline_first {p k : Nat} (hk : k < p) :
    (positionToCfgPipeline p).getD k (0, 0) = (0, k) := by
  rw [positionToCfgPipeline, getD_append _ _ _ _ (by simpa using hk), getD_eq_getElem?_getD,
    getElem?_map, getElem?_range hk]
  rfl

theorem positionToCfgPipeline_second {p j : Nat} (hj : j < p) :
    (positionToCfgPipeline p).getD (j + p) (0, 0) = (1, p - 1 - j) := by
  have hget : (List.range p).reverse[j]? = some (p - 1 - j) := by
    rw [getElem?_reverse (by simpa using hj), length_range, getElem?_range (by omega)]
  rw [positionToCfgPipeline, getD_append_right _ _ _ _ (by simp), length_map,
    length_range, Nat.add_sub_cancel, getD_eq_getElem?_getD, getElem?_map, hget]
  rfl

/-- The shard of the node at a place of the first half. -/
def firstShard (card : ModelCard) (layers : List Int) (p rank : Nat) (nodeId : String) :
    String × ShardMetadata :=
  (nodeId, shardOf card layers rank (2 * p) rank (some ⟨0, rank, p⟩))

/-- The shard of the node at a place of the second half. -/
def secondShard (card : ModelCard) (layers : List Int) (p j : Nat) (nodeId : String) :
    String × ShardMetadata :=
  (nodeId, shardOf card layers (j + p) (2 * p) (p - 1 - j) (some ⟨1, p - 1 - j, p⟩))

/-- **The halves of the cycle**: the first in the order of the ranks, the second against it. -/
theorem cfgShards_eq {first second : List String} (hlength : second.length = first.length) :
    cfgShards card (first ++ second) layers = first.mapIdx (firstShard card layers first.length) ++
      second.mapIdx (secondShard card layers first.length) := by
  have hworld : (first ++ second).length = 2 * first.length := by
    rw [length_append, hlength]
    omega
  have hhalf : (first ++ second).length / 2 = first.length := by omega
  rw [cfgShards, hhalf, hworld, mapIdx_append]
  congr 1
  · refine ext_getElem (by simp) fun k hk _ => ?_
    rw [length_mapIdx] at hk
    rw [getElem_mapIdx, getElem_mapIdx, positionToCfgPipeline_first hk]
    rfl
  · refine ext_getElem (by simp) fun j hj _ => ?_
    rw [length_mapIdx, hlength] at hj
    rw [getElem_mapIdx, getElem_mapIdx, positionToCfgPipeline_second hj]
    rfl

section Halves

variable {first second : List String} (hlength : second.length = first.length)
  (h : Division memory card first layers)

include hlength h

theorem cfgShards_partitions_first :
    GroupPartitions card (cfgShards card (first ++ second) layers) 0 := by
  rw [cfgShards_eq hlength]
  refine h.groupPartitions (.of_eq ?_) (map_mapIdx first (firstShard card layers first.length) _ _
    fun _ _ _ => rfl)
  rw [filter_append, filter_group_eq_self first (firstShard card layers first.length)
    fun _ _ => rfl, filter_group_eq_nil second (secondShard card layers first.length)
    fun _ _ => Nat.one_ne_zero, append_nil]

theorem cfgShards_partitions_second :
    GroupPartitions card (cfgShards card (first ++ second) layers) 1 := by
  rw [cfgShards_eq hlength]
  -- the ranks of the second half go down, so its shards are listed from the end
  have hdown : ((List.range first.length).map fun j =>
      rankedRanges layers (first.length - 1 - j)).reverse =
        (List.range first.length).map (rankedRanges layers) := by
    refine ext_getElem (by simp) fun j hj _ => ?_
    rw [length_reverse, length_map, length_range] at hj
    simp only [getElem_reverse, getElem_map, getElem_range, length_map, length_range]
    congr 1
    omega
  have hmembers : (first.mapIdx (firstShard card layers first.length) ++
      second.mapIdx (secondShard card layers first.length)).filter
        (fun entry => entry.2.place.1 = 1) =
          second.mapIdx (secondShard card layers first.length) := by
    rw [filter_append, filter_group_eq_nil first (firstShard card layers first.length)
      fun _ _ => Nat.zero_ne_one, filter_group_eq_self second
      (secondShard card layers first.length) fun _ _ => rfl, nil_append]
  refine h.groupPartitions (.trans (reverse_perm _) (.of_eq hmembers.symm)) ?_
  rw [map_reverse, map_mapIdx second (secondShard card layers first.length) _
    (fun j => rankedRanges layers (first.length - 1 - j)) fun _ _ _ => rfl, hlength, hdown]

/-- The shares of two pipelines fit exactly when those of the second half do. -/
theorem cfgShards_fit_iff : SharesFit memory card (cfgShards card (first ++ second) layers) ↔
    ∀ (j : Nat) (nodeId : String), second[j]? = some nodeId → ∃ bytes, memory nodeId = some bytes ∧
        requiredMemory card (layers.getD (first.length - 1 - j) 0) ≤ bytes := by
  rw [cfgShards_eq hlength]
  constructor
  · intro hfit j nodeId hnode
    obtain ⟨hj, rfl⟩ := List.getElem?_eq_some_iff.mp hnode
    have hshare := hfit (secondShard card layers first.length j second[j])
      (mem_append_right _ (mem_mapIdx.mpr ⟨j, hj, rfl⟩))
    rw [secondShard, endLayer_sub_startLayer] at hshare
    exact hshare
  · intro hsecond entry hentry
    obtain hentry | hentry := mem_append.mp hentry
    · obtain ⟨rank, hrank, rfl⟩ := mem_mapIdx.mp hentry
      rw [firstShard, endLayer_sub_startLayer]
      exact h.fits rank _ (getElem?_eq_getElem hrank)
    · obtain ⟨j, hj, rfl⟩ := mem_mapIdx.mp hentry
      rw [secondShard, endLayer_sub_startLayer]
      exact hsecond j _ (getElem?_eq_getElem hj)

end Halves

/-! ### All pipelines -/

/-- **When returned assignments are sound.**  Whenever pipeline shards are returned, the ranges of
every group partition the layers in the order of the ranks, with at least one layer for each node,
and the share of every node fits its memory, exactly when the second half of a cycle with two
pipelines has the memory for what is mirrored on it. -/
theorem pipelineAssignments_sound_iff
    (h : getShardAssignmentsForPipelineParallel gigabytes memory card cycle = .ok assignments) :
    ((∀ entry ∈ assignments, GroupPartitions card assignments entry.2.place.1) ∧
        SharesFit memory card assignments) ↔
      SecondHalfFits gigabytes memory card cycle := by
  rw [getShardAssignmentsForPipelineParallel] at h
  by_cases hcfg : useCfgParallel card cycle = true
  · rw [if_pos hcfg, getShardAssignmentsForCfgParallel] at h
    obtain ⟨_, -, h⟩ := bind_eq_ok.mp h
    obtain ⟨layers, hlayers, h⟩ := bind_eq_ok.mp h
    rw [← Except.ok.inj h]
    obtain ⟨-, hworld, heven⟩ := of_decide_eq_true hcfg
    have hfirst : (cycle.take (cycle.length / 2)).length = cycle.length / 2 :=
      length_take_of_le (by omega)
    have hlength : (cycle.drop (cycle.length / 2)).length =
        (cycle.take (cycle.length / 2)).length := by
      rw [hfirst, length_drop]
      omega
    have hdivision := allocateAndValidateLayers_ok hlayers
    have hpartitions : ∀ entry ∈ cfgShards card cycle layers,
        GroupPartitions card (cfgShards card cycle layers) entry.2.place.1 := by
      rw [← take_append_drop (cycle.length / 2) cycle]
      intro entry hentry
      have hplace : entry.2.place.1 = 0 ∨ entry.2.place.1 = 1 := by
        rw [cfgShards_eq hlength] at hentry
        obtain hentry | hentry := mem_append.mp hentry
        · obtain ⟨rank, hrank, rfl⟩ := mem_mapIdx.mp hentry
          exact .inl rfl
        · obtain ⟨j, hj, rfl⟩ := mem_mapIdx.mp hentry
          exact .inr rfl
      obtain hplace | hplace := hplace
      · rw [hplace]
        exact cfgShards_partitions_first hlength hdivision
      · rw [hplace]
        exact cfgShards_partitions_second hlength hdivision
    have hfit := cfgShards_fit_iff hlength hdivision
    rw [take_append_drop, hfirst] at hfit
    rw [and_iff_right hpartitions, hfit]
    constructor
    · intro hsecond _ layers' hlayers'
      obtain rfl : layers = layers' := Except.ok.inj (hlayers.symm.trans hlayers')
      exact hsecond
    · intro hsecond
      exact hsecond hcfg layers hlayers
  · rw [if_neg hcfg, getShardAssignmentsForPurePipeline] at h
    obtain ⟨_, -, h⟩ := bind_eq_ok.mp h
    obtain ⟨layers, hlayers, h⟩ := bind_eq_ok.mp h
    rw [← Except.ok.inj h]
    have hdivision := allocateAndValidateLayers_ok hlayers
    refine iff_of_true ⟨fun entry hentry => ?_, pureShards_fit hdivision⟩
      fun hused => absurd hused hcfg
    obtain ⟨rank, hrank, rfl⟩ := mem_mapIdx.mp hentry
    exact pureShards_partitions hdivision

end Assignments

section Sample

/-- A model of three layers of two bytes each, with classifier-free guidance. -/
def sampleCard : ModelCard := ⟨6, 3, by decide, true, 1⟩

def sampleCycle : List String := ["large", "medium", "spare", "last"]

/-- The last node has room for two layers or one byte only. -/
def sampleMemory (roomy : Bool) : String → Option Int
  | "large" => some 8
  | "medium" => some 4
  | "spare" => some 2
  | "last" => some (if roomy then 4 else 1)
  | _ => none

/-- Both halves of the cycle run all layers, the second one in reverse order. -/
def sampleAssignments : Assignments :=
  [("large", ⟨0, 4, 0, 2, 3, some ⟨0, 0, 2⟩⟩), ("medium", ⟨1, 4, 2, 3, 3, some ⟨0, 1, 2⟩⟩),
    ("spare", ⟨2, 4, 2, 3, 3, some ⟨1, 1, 2⟩⟩), ("last", ⟨3, 4, 0, 2, 3, some ⟨1, 0, 2⟩⟩)]

/-- The layers of the first half. -/
theorem sampleLayers (roomy : Bool) : allocateAndValidateLayers (fun _ => "") (sampleMemory roomy)
    sampleCard ["large", "medium"] = .ok [2, 1] := by
  cases roomy <;> decide +kernel

theorem sampleAssignments_returned {roomy : Bool} :
    getShardAssignmentsForPipelineParallel (fun _ => "") (sampleMemory roomy) sampleCard
      sampleCycle = .ok sampleAssignments := by
  have hcfg : useCfgParallel sampleCard sampleCycle = true := by decide
  rw [getShardAssignmentsForPipelineParallel, if_pos hcfg, getShardAssignmentsForCfgParallel]
  show (allocateAndValidateLayers _ _ _ ["large", "medium"] >>= _) = _
  rw [sampleLayers]
  rfl

theorem pipelineAssignments_sound_iff_mirrored :
    (∀ entry ∈ sampleAssignments, GroupPartitions sampleCard sampleAssignments entry.2.place.1) ∧
      SharesFit (sampleMemory true) sampleCard sampleAssignments := by
  refine (pipelineAssignments_sound_iff sampleAssignments_returned).mpr
    fun _ layers hlayers j nodeId hnode => ?_
  obtain rfl : [2, 1] = layers := Except.ok.inj ((sampleLayers true).symm.trans hlayers)
  obtain ⟨hj, rfl⟩ := List.getElem?_eq_some_iff.mp hnode
  have hj : j < 2 := hj
  obtain rfl | rfl : j = 0 ∨ j = 1 := by omega
  · exact ⟨2, rfl, by decide⟩
  · exact ⟨4, rfl, by decide⟩

/-- Two layers are placed on a node with one byte. -/
theorem secondHalf_overloaded :
    getShardAssignmentsForPipelineParallel (fun _ => "") (sampleMemory false) sampleCard
        sampleCycle = .ok sampleAssignments ∧
      ¬ SharesFit (sampleMemory false) sampleCard sampleAssignments := by
  refine ⟨sampleAssignments_returned, fun hfit => ?_⟩
  have hlast : ("last", ⟨3, 4, 0, 2, 3, some ⟨1, 0, 2⟩⟩) ∈ sampleAssignments := by decide
  obtain ⟨bytes, hbytes, hrequired⟩ := hfit _ hlast
  rw [← Option.some.inj hbytes] at hrequired
  exact absurd hrequired (by decide)

end Sample

end CaiNetwork.Placement
