/-
CaiNetwork/StorageAccounting.lean

Storage accounting of cached chunks (`model_distribution.py`).

A snapshot credits every stored chunk with the time since it was stored, since it was last
accounted or since the longest interval of the policy, whichever is the latest.  The intervals of a
chunk in an accounting file follow each other (`Sound`, `sum_le_of_follows`), but each node id has a
file of its own: two nodes over one store account the same time (`accounting_twice`).

Times are whole microseconds.  The eviction that follows an insertion is a run of deletions.  Left
out: the fields that a snapshot only copies.
-/

import Mathlib.Tactic.Linarith
import CaiNetwork.Host
import CaiNetwork.Machine
import CaiNetwork.Table

namespace CaiNetwork

open List

/-! ### File names -/

/-- `re.sub(r"[^A-Za-z0-9._-]+", "-", text)`, with whether the character before was replaced. -/
def replaceUnsafe : Bool → List Char → List Char
  | _, [] => []
  | replaced, c :: cs =>
    if c.isAlphanum || c ∈ ['.', '_', '-'] then c :: replaceUnsafe false cs
    else if replaced then replaceUnsafe true cs
    else '-' :: replaceUnsafe true cs

/-- `_safe_segment`. -/
def safeSegment (text : String) : String :=
  let trim := List.dropWhile (· ∈ ['-', '.', '_'])
  let normalized := (trim (trim (replaceUnsafe false (strip text).toList)).reverse).reverse
  if normalized = [] then "default" else String.ofList normalized

namespace StorageAccounting

/-! ### Snapshots -/

/-- `CachedChunkRecord`. -/
structure CachedChunk where
  chunkId : String
  sizeBytes : Nat
  storedAt : Int

/-- `ChunkStorageAccountingRecord`. -/
structure AccountingRecord where
  chunkId : String
  accountedFrom : Int
  accountedUntil : Int
  accountedSeconds : Int
  byteSeconds : Int

/-- `ChunkStorageAccountingPolicy`. -/
structure AccountingPolicy where
  maxAccountingIntervalSeconds : Int := 3600
  minAccountingSeconds : Int := 1

/-- `latest_until_by_chunk.get`. -/
def latestUntil (existing : List AccountingRecord) (chunkId : String) : Option Int :=
  ((existing.filter (·.chunkId = chunkId)).map (·.accountedUntil)).max?

/-- The start of the interval that a snapshot accounts for. -/
def accountedFrom (policy : AccountingPolicy) (existing : List AccountingRecord) (now : Int)
    (chunk : CachedChunk) : Int :=
  max (max chunk.storedAt ((latestUntil existing chunk.chunkId).getD chunk.storedAt))
    (now - max 1 policy.maxAccountingIntervalSeconds * 1000000)

/-- One turn of the loop over the stored chunks. -/
def accountChunk (policy : AccountingPolicy) (existing : List AccountingRecord) (now : Int)
    (chunk : CachedChunk) : Option AccountingRecord :=
  let start := accountedFrom policy existing now chunk
  -- `int(total_seconds())` goes through a float, which is exact below about 270 years
  let accountedSeconds := (now - start).tdiv 1000000
  if accountedSeconds < max 0 policy.minAccountingSeconds then none
  else some ⟨chunk.chunkId, start, now, accountedSeconds, chunk.sizeBytes * accountedSeconds⟩

/-! ### The store -/

/-- The stored chunks and the accounting files by name.  `stored` lists every insertion. -/
structure State where
  now : Int
  chunks : List CachedChunk := []
  accounts : String → List AccountingRecord := fun _ => []
  stored : List CachedChunk := []

inductive Op
  | put (chunkId : String) (sizeBytes : Nat)
  | delete (chunkId : String)
  | snapshot (nodeId : String) (policy : AccountingPolicy)

/-- `put_cached_chunk`, `delete_cached_chunk` and `record_chunk_storage_accounting_snapshot`, at
the given time. -/
def step (call : Int × Op) (s : State) : State :=
  match call with
  | (now, .put chunkId sizeBytes) =>
    let chunk := ⟨chunkId, sizeBytes, now⟩
    { s with
      now
      chunks := Table.upsert CachedChunk.chunkId chunk s.chunks
      stored := s.stored ++ [chunk] }
  | (now, .delete chunkId) => { s with now, chunks := s.chunks.filter (·.chunkId ≠ chunkId) }
  | (now, .snapshot nodeId policy) =>
    let existing := s.accounts (safeSegment nodeId)
    { s with
      now
      accounts := Function.update s.accounts (safeSegment nodeId)
        (existing ++ s.chunks.filterMap (accountChunk policy existing now)) }

/-- The byte-seconds that the file credits for a chunk. -/
def State.credited (s : State) (file chunkId : String) : Int :=
  (((s.accounts file).filter (·.chunkId = chunkId)).map (·.byteSeconds)).sum

/-- The largest size that the chunk was stored with. -/
def State.largestSize (s : State) (chunkId : String) : Nat :=
  ((s.stored.filter (·.chunkId = chunkId)).map (·.sizeBytes)).max?.getD 0

/-- The time since the chunk was first stored. -/
def State.elapsed (s : State) (chunkId : String) : Int :=
  (Table.find CachedChunk.chunkId chunkId s.stored).elim 0 fun chunk => s.now - chunk.storedAt

/-! ### The invariant -/

/-- The intervals of one chunk follow each other. -/
def Follows (r r' : AccountingRecord) : Prop :=
  r.chunkId = r'.chunkId → r.accountedUntil ≤ r'.accountedFrom

/-- A record of an interval since an insertion of the chunk. -/
structure RecordSound (now : Int) (chunk : CachedChunk) (r : AccountingRecord) : Prop where
  chunkId : r.chunkId = chunk.chunkId
  start : chunk.storedAt ≤ r.accountedFrom
  interval : r.accountedFrom ≤ r.accountedUntil
  past : r.accountedUntil ≤ now
  byteSeconds : r.byteSeconds * 1000000 ≤ chunk.sizeBytes * (r.accountedUntil - r.accountedFrom)

structure Sound (s : State) : Prop where
  ids : (s.chunks.map CachedChunk.chunkId).Nodup
  known : s.chunks ⊆ s.stored
  past : ∀ chunk ∈ s.stored, chunk.storedAt ≤ s.now
  ordered : s.stored.Pairwise fun chunk chunk' => chunk.storedAt ≤ chunk'.storedAt
  records : ∀ file, ∀ r ∈ s.accounts file, ∃ chunk ∈ s.stored, RecordSound s.now chunk r
  follows : ∀ file, (s.accounts file).Pairwise Follows

variable {policy : AccountingPolicy} {existing : List AccountingRecord} {now : Int}
  {chunk : CachedChunk} {r : AccountingRecord} {s : State}

theorem le_accountedFrom (hr : r ∈ existing) (hid : r.chunkId = chunk.chunkId) :
    r.accountedUntil ≤ accountedFrom policy existing now chunk := by
  have hmem : r.accountedUntil ∈
      (existing.filter (·.chunkId = chunk.chunkId)).map (·.accountedUntil) :=
    mem_map_of_mem (mem_filter.mpr ⟨hr, decide_eq_true hid⟩)
  obtain ⟨latest, hlatest⟩ := Option.isSome_iff_exists.mp (isSome_max?_of_mem hmem)
  have hle : r.accountedUntil ≤ latest := (max?_eq_some_iff.mp hlatest).2 _ hmem
  rw [accountedFrom, latestUntil, hlatest]
  exact le_max_of_le_left (le_max_of_le_right hle)

theorem accountChunk_eq_some (h : accountChunk policy existing now chunk = some r) :
    r.chunkId = chunk.chunkId ∧ r.accountedFrom = accountedFrom policy existing now chunk ∧
      r.accountedUntil = now ∧
      r.byteSeconds = chunk.sizeBytes * (now - r.accountedFrom).tdiv 1000000 := by
  unfold accountChunk at h
  dsimp only at h
  split at h
  next => cases h
  next =>
    cases h
    exact ⟨rfl, rfl, rfl, rfl⟩

theorem accountedFrom_le (hstored : chunk.storedAt ≤ now)
    (hpast : ∀ r ∈ existing, r.accountedUntil ≤ now) :
    accountedFrom policy existing now chunk ≤ now := by
  have hlatest : (latestUntil existing chunk.chunkId).getD chunk.storedAt ≤ now := by
    cases hmax : latestUntil existing chunk.chunkId with
    | none => exact hstored
    | some latest =>
      obtain ⟨r, hr, rfl⟩ := mem_map.mp (max?_mem hmax)
      exact hpast r (mem_of_mem_filter hr)
  rw [accountedFrom]
  omega

theorem accountChunk_sound (hstored : chunk.storedAt ≤ now)
    (hpast : ∀ r ∈ existing, r.accountedUntil ≤ now)
    (h : accountChunk policy existing now chunk = some r) : RecordSound now chunk r := by
  obtain ⟨hid, hfrom, rfl, hbytes⟩ := accountChunk_eq_some h
  have hle : accountedFrom policy existing _ chunk ≤ _ := accountedFrom_le hstored hpast
  refine ⟨hid, ?_, hfrom ▸ hle, le_rfl, ?_⟩
  · rw [hfrom]
    exact le_max_of_le_left (le_max_left _ _)
  · rw [hbytes, mul_assoc, Int.tdiv_eq_ediv_of_nonneg (by omega)]
    exact mul_le_mul_of_nonneg_left (Int.ediv_mul_le _ (by decide)) (Int.natCast_nonneg _)

theorem Sound.now_le (h : Sound s) (hnow : s.now ≤ now) : Sound { s with now } := by
  refine ⟨h.ids, h.known, fun chunk hchunk => (h.past chunk hchunk).trans hnow, h.ordered,
    fun file r hr => ?_, h.follows⟩
  obtain ⟨chunk, hchunk, hsound⟩ := h.records file r hr
  exact ⟨chunk, hchunk, { hsound with past := hsound.past.trans hnow }⟩

theorem Sound.put (h : Sound s) (chunkId : String) (sizeBytes : Nat) :
    Sound (step (s.now, .put chunkId sizeBytes) s) := by
  refine ⟨Table.nodup_upsert h.ids, fun chunk hchunk => ?_, ?_, ?_, fun file r hr => ?_, h.follows⟩
  · exact mem_append.mpr ((Table.mem_upsert hchunk).imp (h.known ·) mem_singleton.mpr)
  · exact forall_mem_append.mpr ⟨h.past, forall_mem_singleton.mpr le_rfl⟩
  · refine pairwise_append.mpr ⟨h.ordered, pairwise_singleton _ _, ?_⟩
    intro chunk hchunk new hnew
    rw [mem_singleton.mp hnew]
    exact h.past chunk hchunk
  · obtain ⟨chunk, hchunk, hsound⟩ := h.records file r hr
    exact ⟨chunk, mem_append_left _ hchunk, hsound⟩

theorem Sound.delete (h : Sound s) (chunkId : String) : Sound (step (s.now, .delete chunkId) s) :=
  { h with
    ids := h.ids.sublist (filter_sublist.map _)
    known := fun _ hchunk => h.known (mem_of_mem_filter hchunk) }

/-- New records of stored chunks that follow those of the file. -/
theorem Sound.account (h : Sound s) {file : String} {added : List AccountingRecord}
    (hrecords : ∀ r ∈ added, ∃ chunk ∈ s.stored, RecordSound s.now chunk r)
    (hfollows : (s.accounts file ++ added).Pairwise Follows) :
    Sound { s with accounts := Function.update s.accounts file (s.accounts file ++ added) } := by
  refine { h with records := ?_, follows := ?_ }
  · refine (Function.forall_update_iff s.accounts fun _ l => ∀ r ∈ l, ∃ chunk ∈ s.stored,
      RecordSound s.now chunk r).mpr ⟨?_, fun other _ => h.records other⟩
    exact forall_mem_append.mpr ⟨h.records file, hrecords⟩
  · exact (Function.forall_update_iff s.accounts fun _ l => l.Pairwise Follows).mpr
      ⟨hfollows, fun other _ => h.follows other⟩

theorem Sound.snapshot (h : Sound s) (nodeId : String) :
    Sound (step (s.now, .snapshot nodeId policy) s) := by
  refine h.account (fun r hr => ?_) (pairwise_append.mpr
    ⟨h.follows _, ?_, fun r hr r' hr' hid => ?_⟩)
  · obtain ⟨chunk, hchunk, hr⟩ := mem_filterMap.mp hr
    refine ⟨chunk, h.known hchunk, accountChunk_sound (h.past _ (h.known hchunk)) ?_ hr⟩
    intro r hr
    obtain ⟨_, _, hsound⟩ := h.records _ r hr
    exact hsound.past
  · -- a snapshot has one record of a chunk
    refine List.Pairwise.filterMap _ ?_ (pairwise_map.mp h.ids)
    intro chunk chunk' hne r hr r' hr' hid
    rw [(accountChunk_eq_some hr).1, (accountChunk_eq_some hr').1] at hid
    exact absurd hid hne
  · obtain ⟨chunk, -, hnew⟩ := mem_filterMap.mp hr'
    obtain ⟨hchunk, hfrom, -⟩ := accountChunk_eq_some hnew
    rw [hfrom]
    exact le_accountedFrom hr (hid.trans hchunk)

theorem Sound.step {call : Int × Op} (h : Sound s) (hnow : s.now ≤ call.1) :
    Sound (StorageAccounting.step call s) := by
  have hlater := h.now_le hnow
  obtain ⟨now, op⟩ := call
  cases op with
  | put chunkId sizeBytes => exact hlater.put chunkId sizeBytes
  | delete chunkId => exact hlater.delete chunkId
  | snapshot nodeId policy => exact hlater.snapshot nodeId

/-! ### Credits -/

/-- Intervals that follow each other after `start` take no longer than the time since then. -/
theorem sum_le_of_follows {records : List AccountingRecord} {start : Int} {size : Nat}
    (hstart : start ≤ now) (hfollows : records.Pairwise fun r r' =>
      r.accountedUntil ≤ r'.accountedFrom)
    (hrecords : ∀ r ∈ records, start ≤ r.accountedFrom ∧ r.accountedUntil ≤ now ∧
      r.byteSeconds * 1000000 ≤ size * (r.accountedUntil - r.accountedFrom)) :
    (records.map (·.byteSeconds)).sum * 1000000 ≤ size * (now - start) := by
  induction records generalizing start with
  | nil => simpa using mul_nonneg (Int.natCast_nonneg size) (sub_nonneg.mpr hstart)
  | cons r records ih =>
    obtain ⟨hfirst, hrest⟩ := pairwise_cons.mp hfollows
    obtain ⟨⟨hfrom, huntil, hbytes⟩, hrecords⟩ := forall_mem_cons.mp hrecords
    have hsum := ih huntil hrest fun r' hr' => ⟨hfirst r' hr', (hrecords r' hr').2⟩
    have hlate : (size : Int) * (r.accountedFrom - start) ≥ 0 :=
      mul_nonneg (Int.natCast_nonneg size) (sub_nonneg.mpr hfrom)
    rw [map_cons, sum_cons]
    linarith

/-- The first insertion of a chunk is the earliest. -/
theorem Sound.first_le (h : Sound s) {chunkId : String} {first : CachedChunk}
    (hfind : Table.find CachedChunk.chunkId chunkId s.stored = some first)
    (hchunk : chunk ∈ s.stored) (hid : chunk.chunkId = chunkId) :
    first.storedAt ≤ chunk.storedAt := by
  obtain ⟨-, before, after, hstored, hbefore⟩ := find?_eq_some_iff_append.mp hfind
  have hordered := h.ordered
  rw [hstored] at hordered hchunk
  rcases mem_append.mp hchunk with hmem | hmem
  · have hother := hbefore chunk hmem
    simp [hid] at hother
  · rcases mem_cons.mp hmem with rfl | hmem
    · exact le_rfl
    · exact (pairwise_cons.mp (pairwise_append.mp hordered).2.1).1 chunk hmem

theorem Sound.credited_le (h : Sound s) (file chunkId : String) :
    s.credited file chunkId * 1000000 ≤ s.largestSize chunkId * s.elapsed chunkId := by
  have hrecords : ∀ r ∈ (s.accounts file).filter (·.chunkId = chunkId), ∃ chunk ∈ s.stored,
      chunk.chunkId = chunkId ∧ RecordSound s.now chunk r := by
    intro r hr
    obtain ⟨hr, hid⟩ := mem_filter.mp hr
    obtain ⟨chunk, hchunk, hsound⟩ := h.records file r hr
    exact ⟨chunk, hchunk, hsound.chunkId.symm.trans (of_decide_eq_true hid), hsound⟩
  rw [State.elapsed]
  cases hfind : Table.find CachedChunk.chunkId chunkId s.stored with
  | none =>
    -- a chunk that was never stored has no records
    have hnil : (s.accounts file).filter (·.chunkId = chunkId) = [] := by
      refine eq_nil_iff_forall_not_mem.mpr fun r hr => ?_
      obtain ⟨chunk, hchunk, rfl, -⟩ := hrecords r hr
      exact Table.find_eq_none.mp hfind (mem_map_of_mem hchunk)
    rw [State.credited, hnil]
    exact (mul_zero _).ge
  | some first =>
    refine sum_le_of_follows (h.past first (Table.mem_of_find hfind)) ?_ fun r hr => ?_
    · refine ((h.follows file).filter _).imp_of_mem fun {r r'} hr hr' hrr => hrr ?_
      rw [of_decide_eq_true (mem_filter.mp hr).2, of_decide_eq_true (mem_filter.mp hr').2]
    · obtain ⟨chunk, hchunk, hid, hsound⟩ := hrecords r hr
      refine ⟨(h.first_le hfind hchunk hid).trans hsound.start, hsound.past,
        hsound.byteSeconds.trans ?_⟩
      have hsize : chunk.sizeBytes ≤ s.largestSize chunkId := le_max?_getD_of_mem (mem_map_of_mem
          (mem_filter.mpr ⟨hchunk, decide_eq_true hid⟩))
      exact mul_le_mul_of_nonneg_right (Int.ofNat_le.mpr hsize) (sub_nonneg.mpr hsound.interval)

/-- **No time is accounted twice.**  In every accounting file the intervals of a chunk follow each
other, and the credit is bounded by the largest size and the time since the first insertion. -/
theorem accounting_apart {calls : List (Int × Op)} {start : Int}
    (htimes : Machine.Meets step (fun call s => s.now ≤ call.1) calls { now := start }) :
    Machine.Always step (fun s => ∀ nodeId chunkId,
      ((s.accounts (safeSegment nodeId)).Pairwise fun r r' => r.chunkId = r'.chunkId →
        r.accountedFrom ≤ r.accountedUntil ∧ r.accountedUntil ≤ r'.accountedFrom ∧
          r'.accountedFrom ≤ r'.accountedUntil) ∧
      s.credited (safeSegment nodeId) chunkId * 1000000 ≤
        s.largestSize chunkId * s.elapsed chunkId) calls { now := start } := by
  have hempty : Sound { now := start } :=
    ⟨nodup_nil, List.Subset.refl _, by simp, .nil, by simp, fun _ => .nil⟩
  refine (Machine.always_of_invariant (fun _ _ h => h.step) htimes hempty).imp ?_
  intro s hsound nodeId chunkId
  refine ⟨(hsound.follows _).imp_of_mem fun {r r'} hr hr' hrr hid => ?_, hsound.credited_le _ _⟩
  obtain ⟨_, _, h⟩ := hsound.records _ r hr
  obtain ⟨_, _, h'⟩ := hsound.records _ r' hr'
  exact ⟨h.interval, hrr hid, h'.interval⟩

/-- Two nodes over one store: both files hold the same two minutes of a chunk of 10 bytes. -/
theorem accounting_twice :
    let calls := [(0, Op.put "c" 10), (120000000, .snapshot "a" {}), (120000000, .snapshot "b" {})]
    let s := Machine.run step calls { now := 0 }
    Machine.Meets step (fun call s => s.now ≤ call.1) calls { now := 0 } ∧
      (∀ file ∈ ["a", "b"], (s.accounts file).map (fun r => (r.accountedFrom, r.accountedUntil)) =
        [(0, 120000000)]) ∧
      s.largestSize "c" * s.elapsed "c" = 1200 * 1000000 ∧
      s.credited "a" "c" + s.credited "b" "c" = 2400 := by
  refine ⟨⟨?_, ?_, ?_, trivial⟩, ?_, ?_, ?_⟩ <;> decide

/-- A chunk is stored, accounted, deleted, stored again larger and accounted again. -/
def sampleCalls : List (Int × Op) :=
  [(0, .put "c" 10), (120000000, .snapshot "n" {}), (130000000, .delete "c"),
    (150000000, .put "c" 20), (180000000, .snapshot "n" {})]

theorem accounting_apart_again :
    Machine.Meets step (fun call s => s.now ≤ call.1) sampleCalls { now := 0 } ∧
      (Machine.run step sampleCalls { now := 0 }).credited (safeSegment "n") "c" * 1000000 ≤
        20 * 180000000 := by
  have htimes : Machine.Meets step (fun call s => s.now ≤ call.1) sampleCalls { now := 0 } := by
    refine ⟨?_, ?_, ?_, ?_, ?_, trivial⟩ <;> decide
  exact ⟨htimes, ((accounting_apart htimes).2.2.2.2.2 "n" "c").2⟩

end StorageAccounting

end CaiNetwork
