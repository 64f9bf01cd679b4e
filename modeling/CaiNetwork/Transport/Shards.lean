/-
CaiNetwork/Transport/Shards.lean

Shard ranges (`cai_owned_transport_execution_plan.py`): which executor runs which layers.

The ranges are computed from the number of layers, or given and normalised.  Either way they lead
from layer zero to the last one in the order of the executors (`normalizeShardRanges_ok`), and
normalising them again changes nothing (`normalizeShardRanges_json`).
-/

import CaiNetwork.Tiling
import CaiNetwork.Transport.Frames

namespace CaiNetwork.Transport

open List

variable {ids executors : List String} {totalLayers : Int}

/-! ### Node ids -/

section NodeIds

/-- The loop of `clean_node_ids`, over stripped ids. -/
def cleanNodeIdsFrom (seen : List String) : List String → List String
  | [] => []
  | clean :: rest =>
    if clean = "" ∨ clean ∈ seen then cleanNodeIdsFrom seen rest
    else clean :: cleanNodeIdsFrom (clean :: seen) rest

/-- `clean_node_ids`. -/
def cleanNodeIds (nodeIds : List String) : List String := cleanNodeIdsFrom [] (nodeIds.map strip)

/-- Ids that are stripped, not empty and distinct. -/
structure CleanIds (ids : List String) : Prop where
  nodup : ids.Nodup
  stripped : ∀ id ∈ ids, id ≠ "" ∧ strip id = id

theorem mem_cleanNodeIdsFrom {seen : List String} {id : String} :
    id ∈ cleanNodeIdsFrom seen ids ↔ id ∈ ids ∧ id ≠ "" ∧ id ∉ seen := by
  induction ids generalizing seen with
  | nil => simp [cleanNodeIdsFrom]
  | cons clean rest ih =>
    rw [cleanNodeIdsFrom]
    split
    next hskip =>
      rw [ih, mem_cons]
      constructor
      · exact fun h => ⟨.inr h.1, h.2⟩
      · rintro ⟨rfl | hmem, hne, hseen⟩
        · exact absurd hskip (by rintro (h | h); exacts [hne h, hseen h])
        · exact ⟨hmem, hne, hseen⟩
    next hkeep =>
      rw [not_or] at hkeep
      rw [mem_cons, mem_cons, ih, mem_cons]
      constructor
      · rintro (rfl | ⟨hmem, hne, hseen⟩)
        · exact ⟨.inl rfl, hkeep⟩
        · exact ⟨.inr hmem, hne, fun h => hseen (.inr h)⟩
      · rintro ⟨rfl | hmem, hne, hseen⟩
        · exact .inl rfl
        · by_cases heq : id = clean
          · exact .inl heq
          · exact .inr ⟨hmem, hne, by rintro (h | h); exacts [heq h, hseen h]⟩

theorem nodup_cleanNodeIdsFrom (seen ids : List String) : (cleanNodeIdsFrom seen ids).Nodup := by
  induction ids generalizing seen with
  | nil => exact nodup_nil
  | cons clean rest ih =>
    rw [cleanNodeIdsFrom]
    split
    · exact ih seen
    · refine nodup_cons.mpr ⟨fun hmem => ?_, ih _⟩
      exact (mem_cleanNodeIdsFrom.mp hmem).2.2 mem_cons_self

theorem mem_cleanNodeIds {id : String} : id ∈ cleanNodeIds ids ↔ id ∈ ids.map strip ∧ id ≠ "" := by
  rw [cleanNodeIds, mem_cleanNodeIdsFrom]
  exact ⟨fun h => ⟨h.1, h.2.1⟩, fun h => ⟨h.1, h.2, not_mem_nil⟩⟩

theorem cleanNodeIds_clean (ids : List String) : CleanIds (cleanNodeIds ids) where
  nodup := nodup_cleanNodeIdsFrom [] _
  stripped := by
    intro id hmem
    obtain ⟨hmem, hne⟩ := mem_cleanNodeIds.mp hmem
    obtain ⟨raw, _, rfl⟩ := mem_map.mp hmem
    exact ⟨hne, strip_strip⟩

theorem cleanNodeIdsFrom_eq_self {seen : List String} (hnodup : ids.Nodup)
    (hne : ∀ id ∈ ids, id ≠ "") (hseen : ∀ id ∈ ids, id ∉ seen) :
    cleanNodeIdsFrom seen ids = ids := by
  induction ids generalizing seen with
  | nil => rfl
  | cons clean rest ih =>
    obtain ⟨hnotmem, hnodup⟩ := nodup_cons.mp hnodup
    rw [cleanNodeIdsFrom, if_neg (not_or.mpr ⟨hne clean mem_cons_self, hseen clean mem_cons_self⟩)]
    refine congrArg (clean :: ·) (ih hnodup (fun id h => hne id (mem_cons_of_mem _ h)) ?_)
    intro id hmem hin
    rcases mem_cons.mp hin with rfl | hin
    · exact hnotmem hmem
    · exact hseen id (mem_cons_of_mem _ hmem) hin

/-- Cleaning clean ids changes nothing. -/
theorem CleanIds.cleanNodeIds_eq (h : CleanIds ids) : cleanNodeIds ids = ids := by
  have hstrip : ids.map strip = ids :=
    (map_congr_left fun id hid => (h.stripped id hid).2).trans (map_id ids)
  rw [cleanNodeIds, hstrip]
  exact cleanNodeIdsFrom_eq_self h.nodup (fun id hid => (h.stripped id hid).1)
    (fun id _ => not_mem_nil)

end NodeIds

/-! ### Ranges -/

/-- The layers of an executor. -/
structure ShardRange where
  nodeId : String
  layerStart : Int
  layerEnd : Int
deriving DecidableEq

namespace ShardRange

def layerCount (range : ShardRange) : Int := range.layerEnd - range.layerStart

def bounds (range : ShardRange) : Int × Int := (range.layerStart, range.layerEnd)

def json (range : ShardRange) : Json :=
  .obj [("nodeId", .str range.nodeId), ("layerStart", .int range.layerStart),
    ("layerEnd", .int range.layerEnd), ("layerCount", .int range.layerCount)]

end ShardRange

variable {ranges : List ShardRange}

/-- The loop of `cai_owned_transport_layer_ranges`: the first `extra` executors run one more. -/
def layerRangesFrom (base extra : Int) : (index : Nat) → (layerStart : Int) → List String →
    List ShardRange
  | _, _, [] => []
  | index, layerStart, nodeId :: rest =>
    let layerEnd := layerStart + (base + if (index : Int) < extra then 1 else 0)
    ⟨nodeId, layerStart, layerEnd⟩ :: layerRangesFrom base extra (index + 1) layerEnd rest

/-- `cai_owned_transport_layer_ranges`. -/
def transportLayerRanges (executorNodeIds : List String) (totalLayers : Int) : List ShardRange :=
  let executors := cleanNodeIds executorNodeIds
  if totalLayers ≤ 0 ∨ executors = [] then []
  else layerRangesFrom (totalLayers / executors.length) (totalLayers % executors.length) 0 0
    executors

section Normalize

variable (host : Host)

def dagError (message : String) : String := "CAI-owned transport execution DAG " ++ message

/-- `raise ValueError(message)` under the condition. -/
def raiseIf (p : Prop) [Decidable p] (message : String) : Except PyError Unit :=
  if p then .error (.valueError message) else .ok ()

theorem raiseIf_ok {p : Prop} [Decidable p] {message : String} {u : Unit} :
    raiseIf p message = .ok u ↔ ¬p := raiseUnless_eq_ok

/-- `item.get(k) if k in item else …`: the first key that is there, and the last one in any case. -/
def firstField (kvs : Fields) : List String → String → Json
  | [], last => Json.getD kvs last
  | key :: keys, last => (kvs.lookup key).getD (firstField kvs keys last)

/-- The body of the loop of `normalize_cai_owned_transport_shard_ranges`. -/
def normalizeShardRange (expectedNodeId : String) (expectedStart : Int) (item : Json) :
    Except PyError ShardRange :=
  match item with
  | .obj kvs => do
    let nodeId := strip (host.strOrEmpty ((Json.getD kvs "nodeId").pyOr (Json.getD kvs "node_id")))
    raiseIf (nodeId ≠ expectedNodeId) (dagError "shard ranges do not match executor order.")
    let start? ← optionalInt host (firstField kvs ["layerStart", "layer_start"] "start")
    let end? ← optionalInt host (firstField kvs ["layerEnd", "layer_end"] "end")
    match start?, end? with
    | some layerStart, some layerEnd => do
      raiseIf (layerEnd ≤ layerStart) (dagError "shard ranges are invalid.")
      raiseIf (layerStart ≠ expectedStart) (dagError "shard ranges must be contiguous.")
      let count? ← optionalInt host (firstField kvs ["layerCount"] "layer_count")
      raiseIf (count?.any (· ≠ layerEnd - layerStart) = true)
        (dagError "shard range layer count is invalid.")
      return ⟨nodeId, layerStart, layerEnd⟩
    | _, _ => .error (.valueError (dagError "shard ranges are invalid."))
  | _ => .error (.valueError (dagError "shard ranges are invalid."))

/-- The loop of `normalize_cai_owned_transport_shard_ranges`, and where it ends. -/
def normalizeShardRangesFrom : (expectedStart : Int) → Fields →
    Except PyError (List ShardRange × Int)
  | expectedStart, [] => .ok ([], expectedStart)
  | expectedStart, (expectedNodeId, item) :: rest => do
    let range ← normalizeShardRange host expectedNodeId expectedStart item
    let (ranges, stop) ← normalizeShardRangesFrom range.layerEnd rest
    return (range :: ranges, stop)

/-- `normalize_cai_owned_transport_shard_ranges`. -/
def normalizeShardRanges (executorNodeIds : List String) (totalLayers : Int) (shardRanges : Json) :
    Except PyError (List ShardRange) :=
  let executors := cleanNodeIds executorNodeIds
  if totalLayers ≤ 0 ∨ executors = [] then .ok []
  else match shardRanges with
    | .null => .ok (transportLayerRanges executors totalLayers)
    | .arr items => do
      raiseIf (items.length ≠ executors.length) (dagError "shard ranges are invalid.")
      let (ranges, stop) ← normalizeShardRangesFrom host 0 (executors.zip items)
      raiseIf (stop ≠ totalLayers) (dagError "shard ranges do not cover total layer count.")
      return ranges
    | _ => .error (.valueError (dagError "shard ranges are invalid."))

end Normalize

/-! ### What ranges are -/

/-- The ranges lead through all layers, in the order of the executors. -/
structure Shards (executors : List String) (totalLayers : Int) (ranges : List ShardRange) :
    Prop where
  nodes : ranges.map (·.nodeId) = executors
  tiles : Tiles 0 (ranges.map ShardRange.bounds) totalLayers

theorem Shards.length_eq
    (h : Shards executors totalLayers ranges) : ranges.length = executors.length := by
  rw [← h.nodes, length_map]

theorem layerRangesFrom_nodes (base extra : Int) (index : Nat) (start : Int) (ids : List String) :
    (layerRangesFrom base extra index start ids).map (·.nodeId) = ids := by
  induction ids generalizing index start with
  | nil => rfl
  | cons id rest ih => exact congrArg (id :: ·) (ih _ _)

theorem layerRangesFrom_tiles {base : Int} (hbase : 0 < base) (extra : Int) (index : Nat)
    (start : Int) (ids : List String) :
    Tiles start ((layerRangesFrom base extra index start ids).map ShardRange.bounds)
      (start + base * ids.length + max 0 (min (extra - index) ids.length)) := by
  induction ids generalizing index start with
  | nil =>
    have hend : start + base * (([] : List String).length : Int) +
        max 0 (min (extra - index) (([] : List String).length : Int)) = start := by
      rw [length_nil, Int.natCast_zero, Int.mul_zero]
      omega
    rw [hend]
    exact Tiles.nil start
  | cons id rest ih =>
    have hlt : start < start + (base + if (index : Int) < extra then 1 else 0) := by
      split <;> omega
    -- the first executor takes its extra layer out of those that are left
    have hend : start + (base + if (index : Int) < extra then 1 else 0) + base *
          (rest.length : Int) + max 0 (min (extra - ((index + 1 : Nat) : Int)) rest.length) =
        start + base * ((id :: rest).length : Int) +
          max 0 (min (extra - index) ((id :: rest).length : Int)) := by
      have hmul : base * ((id :: rest).length : Int) = base * (rest.length : Int) + base := by
        rw [length_cons, Int.natCast_succ, Int.mul_add, Int.mul_one]
      rw [hmul, length_cons]
      split <;> omega
    have htail := ih (index + 1) (start + (base + if (index : Int) < extra then 1 else 0))
    rw [hend] at htail
    exact Tiles.cons hlt htail

theorem not_layerless (hne : executors ≠ [])
    (hlength : (executors.length : Int) ≤ totalLayers) : ¬(totalLayers ≤ 0 ∨ executors = []) := by
  have hpos := length_pos_iff.mpr hne
  rintro (h | h)
  · omega
  · exact hne h

/-- Computed ranges. -/
theorem transportLayerRanges_shards (hclean : CleanIds executors)
    (hne : executors ≠ []) (hlength : (executors.length : Int) ≤ totalLayers) :
    Shards executors totalLayers (transportLayerRanges executors totalLayers) := by
  have hpos : (0 : Int) < executors.length := by
    have := length_pos_iff.mpr hne
    omega
  have hbase : 0 < totalLayers / executors.length := by
    have h : 1 * (executors.length : Int) ≤ totalLayers := by omega
    exact Int.le_ediv_of_mul_le hpos h
  have htiles := layerRangesFrom_tiles hbase (totalLayers % executors.length) 0 0 executors
  have hnonneg := Int.emod_nonneg totalLayers (Int.ne_of_gt hpos)
  have hmod := Int.emod_lt_of_pos totalLayers hpos
  have hend : 0 + totalLayers / (executors.length : Int) * executors.length +
      max 0 (min (totalLayers % executors.length - (0 : Nat)) (executors.length : Int)) =
        totalLayers := by
    have hdiv := Int.mul_ediv_add_emod totalLayers executors.length
    rw [Int.mul_comm] at hdiv
    omega
  rw [hend] at htiles
  unfold transportLayerRanges
  rw [hclean.cleanNodeIds_eq]
  dsimp only
  rw [if_neg (not_layerless hne hlength)]
  exact ⟨layerRangesFrom_nodes _ _ _ _ _, htiles⟩

section Normalized

variable {host : Host}

theorem normalizeShardRange_ok {expectedNodeId : String} {expectedStart : Int} {item : Json}
    {range : ShardRange}
    (h : normalizeShardRange host expectedNodeId expectedStart item = .ok range) :
    range.nodeId = expectedNodeId ∧ range.layerStart = expectedStart ∧
      expectedStart < range.layerEnd := by
  unfold normalizeShardRange at h
  split at h
  next kvs =>
    simp only [bind_eq_ok, raiseIf_ok, not_not] at h
    obtain ⟨_, hnode, start?, _, end?, _, h⟩ := h
    split at h
    next layerStart layerEnd =>
      simp only [bind_eq_ok, raiseIf_ok, not_not, not_le] at h
      obtain ⟨_, hlt, _, hstart, _, _, _, _, hreturn⟩ := h
      cases hreturn
      exact ⟨hnode, hstart, hstart ▸ hlt⟩
    next => cases h
  next => cases h

theorem normalizeShardRangesFrom_ok {start : Int} {pairs : Fields} {stop : Int}
    (h : normalizeShardRangesFrom host start pairs = .ok (ranges, stop)) :
    ranges.map (·.nodeId) = pairs.map (·.1) ∧ Tiles start (ranges.map ShardRange.bounds) stop := by
  induction pairs generalizing start ranges with
  | nil =>
    cases h
    exact ⟨rfl, Tiles.nil _⟩
  | cons pair rest ih =>
    rw [normalizeShardRangesFrom] at h
    simp only [bind_eq_ok] at h
    obtain ⟨range, hrange, ⟨tail, tailStop⟩, htail, hreturn⟩ := h
    cases hreturn
    obtain ⟨hnode, rfl, hlt⟩ := normalizeShardRange_ok hrange
    obtain ⟨hnodes, htiles⟩ := ih htail
    exact ⟨congrArg₂ List.cons hnode hnodes, Tiles.cons hlt htiles⟩

/-- Ranges that normalise lead through all layers. -/
theorem normalizeShardRanges_ok (hclean : CleanIds executors)
    (hne : executors ≠ []) (hlength : (executors.length : Int) ≤ totalLayers) {shardRanges : Json}
    (h : normalizeShardRanges host executors totalLayers shardRanges = .ok ranges) :
    Shards executors totalLayers ranges := by
  unfold normalizeShardRanges at h
  rw [hclean.cleanNodeIds_eq] at h
  dsimp only at h
  rw [if_neg (not_layerless hne hlength)] at h
  split at h
  · cases h
    exact transportLayerRanges_shards hclean hne hlength
  · simp only [bind_eq_ok, raiseIf_ok, not_not] at h
    obtain ⟨_, hitems, ⟨found, stop⟩, hfrom, _, rfl, hreturn⟩ := h
    cases hreturn
    obtain ⟨hnodes, htiles⟩ := normalizeShardRangesFrom_ok hfrom
    rw [map_fst_zip (Nat.le_of_eq hitems.symm)] at hnodes
    exact ⟨hnodes, htiles⟩
  · cases h

theorem normalizeShardRange_json {range : ShardRange} (hlt : range.layerStart < range.layerEnd)
    (hne : range.nodeId ≠ "") (hstrip : strip range.nodeId = range.nodeId) :
    normalizeShardRange host range.nodeId range.layerStart range.json = .ok range := by
  have hnode : strip (host.strOrEmpty ((Json.str range.nodeId).pyOr .null)) = range.nodeId := by
    have htruthy : (Json.str range.nodeId).truthy = true := decide_eq_true hne
    rw [Json.pyOr, if_pos htruthy, Host.strOrEmpty_str, hstrip]
  show (raiseIf (strip (host.strOrEmpty ((Json.str range.nodeId).pyOr .null)) ≠ range.nodeId) _ >>=
    fun _ => _) = _
  simp only [bind_eq_ok, raiseIf_ok, not_not]
  refine ⟨(), hnode, some range.layerStart, rfl, some range.layerEnd, rfl, ?_⟩
  simp only [bind_eq_ok, raiseIf_ok, not_not, not_le]
  refine ⟨(), hlt, (), trivial, some range.layerCount, rfl, (), ?_, ?_⟩
  · simp [ShardRange.layerCount]
  · have hrange : (⟨strip (host.strOrEmpty ((Json.str range.nodeId).pyOr .null)), range.layerStart,
        range.layerEnd⟩ : ShardRange) = range := by
      rw [hnode]
    exact congrArg Except.ok hrange

theorem normalizeShardRangesFrom_json {start stop : Int}
    (hclean : ∀ range ∈ ranges, range.nodeId ≠ "" ∧ strip range.nodeId = range.nodeId)
    (htiles : Tiles start (ranges.map ShardRange.bounds) stop) : normalizeShardRangesFrom host start
      ((ranges.map (·.nodeId)).zip (ranges.map ShardRange.json)) = .ok (ranges, stop) := by
  induction ranges generalizing start with
  | nil =>
    cases htiles
    rfl
  | cons range rest ih =>
    obtain ⟨hne, hstrip⟩ := hclean range mem_cons_self
    rw [map_cons, ShardRange.bounds] at htiles
    cases htiles with
    | cons hlt htail =>
      have hrest := ih (fun r hr => hclean r (mem_cons_of_mem _ hr)) htail
      rw [map_cons, map_cons, zip_cons_cons, normalizeShardRangesFrom,
        normalizeShardRange_json hlt hne hstrip, ok_bind, hrest]
      rfl

/-- Normalising ranges again changes nothing. -/
theorem normalizeShardRanges_json (hclean : CleanIds executors)
    (hne : executors ≠ []) (hlength : (executors.length : Int) ≤ totalLayers)
    (h : Shards executors totalLayers ranges) :
    normalizeShardRanges host executors totalLayers (.arr (ranges.map ShardRange.json)) =
      .ok ranges := by
  have hfrom : normalizeShardRangesFrom host 0 (executors.zip (ranges.map ShardRange.json)) =
      .ok (ranges, totalLayers) := by
    rw [← h.nodes]
    refine normalizeShardRangesFrom_json (fun range hrange => ?_) h.tiles
    exact hclean.stripped range.nodeId (h.nodes ▸ mem_map_of_mem hrange)
  unfold normalizeShardRanges
  rw [hclean.cleanNodeIds_eq]
  dsimp only
  rw [if_neg (not_layerless hne hlength)]
  simp only [bind_eq_ok, raiseIf_ok, not_not]
  exact ⟨(), by rw [length_map, h.length_eq], _, hfrom, (), rfl, rfl⟩

end Normalized

end CaiNetwork.Transport
