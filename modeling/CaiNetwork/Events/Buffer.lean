/-
CaiNetwork/Events/Buffer.lean

Resequencing (`event_buffer.py`): the buffers that put indexed events back into order.

An `OrderedBuffer` keeps what arrived too early and releases the longest run it can; a
`MultiSourceBuffer` has one of them for every source.  What they are for is said by

    Resequences Sends received released b

a source sends `t` as its `i`-th event when `Sends i t`, the indices `received` have arrived,
and the events `released` have left the buffer: they are the first events of the source, and
everything received later is still in the buffer.

Over every run of ingests and drains, what the drains have returned of a source is exactly the
first events it sent, up to the first index that had not arrived at the last drain
(`multiSourceBuffer_released`).
-/

import Mathlib.Data.Fintype.EquivFin
import Mathlib.Data.List.DropRight
import Mathlib.Data.Nat.Find
import CaiNetwork.Table

namespace CaiNetwork

open List

/-! ### The first gap -/

theorem exists_notMem (l : List ℕ) : ∃ n, n ∉ l := by
  obtain ⟨n, hn⟩ := Infinite.exists_notMem_finset l.toFinset
  exact ⟨n, fun h => hn (mem_toFinset.mpr h)⟩

/-- The length of the longest gap-free run of indices from zero. -/
def gapFree (received : List ℕ) : ℕ := Nat.find (exists_notMem received)

theorem gapFree_notMem (l : List ℕ) : gapFree l ∉ l := Nat.find_spec (exists_notMem l)

theorem gapFree_eq {l : List ℕ} {n : ℕ} (hmem : ∀ i < n, i ∈ l) (hgap : n ∉ l) : gapFree l = n := by
  apply le_antisymm
  · exact Nat.find_min' _ hgap
  · by_contra hlt
    exact gapFree_notMem l (hmem _ (not_le.mp hlt))

/-! ### Entries of a dictionary -/

variable {T : Type}

variable {j : ℕ}

theorem lookup_concat {l : List (ℕ × T)} {i : ℕ} {t : T} (h : l.lookup i = none) :
    (l ++ [(i, t)]).lookup j = if j = i then some t else l.lookup j := by
  rw [lookup_append]
  by_cases hj : j = i
  · subst hj
    simp [h]
  · rw [if_neg hj, lookup_cons, beq_false_of_ne hj]
    exact Option.or_none

theorem length_filter_lt {l : List (ℕ × T)} {i : ℕ} {t : T} (h : l.lookup i = some t) :
    (l.filter (fun entry => entry.1 ≠ i)).length < l.length := by
  rw [length_filter_lt_length_iff_exists]
  by_contra hnone
  have hmissing : l.lookup i = none := by
    rw [lookup_eq_none_iff]
    intro entry hentry
    apply bne_iff_ne.mpr
    intro heq
    exact hnone ⟨entry, hentry, by simp [heq]⟩
  rw [hmissing] at h
  cases h

/-! ### One source -/

/-- `OrderedBuffer`; the dictionary `store` lists its entries. -/
structure OrderedBuffer (T : Type) where
  store : List (ℕ × T) := []
  nextIdxToRelease : ℕ := 0
deriving DecidableEq

namespace OrderedBuffer

/-- `OrderedBuffer.ingest`; nothing is returned where the assertion fails. -/
def ingest [DecidableEq T] (b : OrderedBuffer T) (idx : ℕ) (t : T) : Option (OrderedBuffer T) :=
  if idx < b.nextIdxToRelease then some b
  else
    match b.store.lookup idx with
    | some stored => if stored = t then some b else none
    | none => some { b with
        store := b.store ++ [(idx, t)] }

/-- `store.pop(next_idx_to_release)`, with the index moved on. -/
def pop (b : OrderedBuffer T) : OrderedBuffer T where
  store := b.store.filter (fun entry => entry.1 ≠ b.nextIdxToRelease)
  nextIdxToRelease := b.nextIdxToRelease + 1

/-- The loop of `drain_indexed`, for at most the given number of rounds. -/
def release : ℕ → OrderedBuffer T → List (ℕ × T) × OrderedBuffer T
  | 0, b => ([], b)
  | rounds + 1, b =>
    match b.store.lookup b.nextIdxToRelease with
    | none => ([], b)
    | some event =>
      let rest := release rounds b.pop
      ((b.nextIdxToRelease, event) :: rest.1, rest.2)

/-- `OrderedBuffer.drain_indexed`.  Every round takes an entry out of the store, so there are
no more rounds than entries. -/
def drainIndexed (b : OrderedBuffer T) : List (ℕ × T) × OrderedBuffer T :=
  b.release b.store.length

/-- `OrderedBuffer.drain`. -/
def drain (b : OrderedBuffer T) : List T × OrderedBuffer T :=
  (b.drainIndexed.1.map Prod.snd, b.drainIndexed.2)

end OrderedBuffer

/-- What a buffer holds of a source that sends `t` as its `i`-th event when `Sends i t`. -/
structure Resequences (Sends : ℕ → T → Prop) (received : ℕ → Prop) (released : List T)
    (b : OrderedBuffer T) : Prop where
  length_eq : released.length = b.nextIdxToRelease
  released_sent : ∀ {i t}, released[i]? = some t → Sends i t
  stored_sent : ∀ {i t}, b.store.lookup i = some t → Sends i t
  stored_le : ∀ {i t}, b.store.lookup i = some t → b.nextIdxToRelease ≤ i
  received_iff : ∀ i, received i ↔ i < b.nextIdxToRelease ∨ ∃ t, b.store.lookup i = some t

namespace Resequences

variable {Sends : ℕ → T → Prop} {received : ℕ → Prop} {released : List T} {b : OrderedBuffer T}

theorem empty : Resequences Sends (fun _ => False) [] ({} : OrderedBuffer T) where
  length_eq := rfl
  released_sent h := by cases h
  stored_sent h := by cases h
  stored_le h := by cases h
  received_iff i := by simp

section Steps

variable (h : Resequences Sends received released b)
include h

/-- What a source sends may grow. -/
theorem mono {Sends' : ℕ → T → Prop}
    (hsends : ∀ {i t}, Sends i t → Sends' i t) : Resequences Sends' received released b where
  length_eq := h.length_eq
  released_sent hi := hsends (h.released_sent hi)
  stored_sent hi := hsends (h.stored_sent hi)
  stored_le := h.stored_le
  received_iff := h.received_iff

theorem congr_received {received' : ℕ → Prop}
    (hiff : ∀ i, received' i ↔ received i) : Resequences Sends received' released b where
  length_eq := h.length_eq
  released_sent := h.released_sent
  stored_sent := h.stored_sent
  stored_le := h.stored_le
  received_iff i := (hiff i).trans (h.received_iff i)

/-- An event that is not taken in was released. -/
theorem released_of_lt
    (hone : ∀ {i t t'}, Sends i t → Sends i t' → t = t') {idx : ℕ} {t : T} (hsent : Sends idx t)
    (hlt : idx < b.nextIdxToRelease) : released[idx]? = some t := by
  rw [← h.length_eq] at hlt
  have hget : released[idx]? = some released[idx] := getElem?_eq_getElem hlt
  rw [hget, hone (h.released_sent hget) hsent]

/-- **Ingesting** an event the source sent does not fail, and releases nothing. -/
theorem ingest [DecidableEq T]
    (hone : ∀ {i t t'}, Sends i t → Sends i t' → t = t') {idx : ℕ} {t : T} (hsent : Sends idx t) :
    ∃ b', b.ingest idx t = some b' ∧
      Resequences Sends (fun i => received i ∨ i = idx) released b' := by
  unfold OrderedBuffer.ingest
  by_cases hlt : idx < b.nextIdxToRelease
  · rw [if_pos hlt]
    refine ⟨b, rfl, h.congr_received fun i => or_iff_left_of_imp ?_⟩
    rintro rfl
    exact (h.received_iff _).mpr (.inl hlt)
  rw [if_neg hlt]
  rcases hstored : b.store.lookup idx with - | stored
  · refine ⟨_, rfl, ⟨h.length_eq, h.released_sent, ?_, ?_, ?_⟩⟩
    · intro i t' hi
      rw [lookup_concat hstored] at hi
      split at hi
      next heq =>
        cases hi
        exact heq ▸ hsent
      next => exact h.stored_sent hi
    · intro i t' hi
      rw [lookup_concat hstored] at hi
      split at hi
      next heq =>
        rw [heq]
        exact not_lt.mp hlt
      next => exact h.stored_le hi
    · intro i
      rw [h.received_iff, lookup_concat hstored]
      by_cases hi : i = idx
      · simp [hi]
      · simp [hi]
  · have hsame : stored = t := hone (h.stored_sent hstored) hsent
    refine ⟨b, if_pos hsame, h.congr_received fun i => or_iff_left_of_imp ?_⟩
    rintro rfl
    exact (h.received_iff _).mpr (.inr ⟨stored, hstored⟩)

/-- One round of draining. -/
theorem pop {event : T} (hstored : b.store.lookup b.nextIdxToRelease = some event) :
    Resequences Sends received (released ++ [event]) b.pop where
  length_eq := by rw [length_append, h.length_eq]; rfl
  released_sent {i t} hi := by
    rw [getElem?_append] at hi
    split at hi
    next => exact h.released_sent hi
    next hge =>
      rcases hpos : i - released.length with - | k
      · rw [hpos, getElem?_cons_zero] at hi
        cases hi
        have hidx : i = b.nextIdxToRelease := by
          have := h.length_eq
          omega
        exact hidx ▸ h.stored_sent hstored
      · rw [hpos] at hi
        cases hi
  stored_sent {i t} hi := by
    rw [OrderedBuffer.pop, Table.lookup_filter_ne] at hi
    split at hi
    next => cases hi
    next => exact h.stored_sent hi
  stored_le {i t} hi := by
    rw [OrderedBuffer.pop, Table.lookup_filter_ne] at hi
    split at hi
    next => cases hi
    next hne => exact Nat.lt_of_le_of_ne (h.stored_le hi) (Ne.symm hne)
  received_iff i := by
    rw [h.received_iff, OrderedBuffer.pop, Table.lookup_filter_ne]
    by_cases hi : i = b.nextIdxToRelease
    · simp [hi, hstored]
    · rw [if_neg hi]
      have hlt : i < b.nextIdxToRelease + 1 ↔ i < b.nextIdxToRelease := by omega
      rw [hlt]

/-- The loop of `drain_indexed`, by induction on the rounds; with a round for every entry it
ends because nothing more can be released. -/
theorem release (rounds : ℕ) :
    Resequences Sends received (released ++ (b.release rounds).1.map Prod.snd)
        (b.release rounds).2 ∧
      (b.store.length ≤ rounds →
        (b.release rounds).2.store.lookup (b.release rounds).2.nextIdxToRelease = none) := by
  induction rounds generalizing b released with
  | zero =>
    refine ⟨by simpa [OrderedBuffer.release] using h, fun hlen => ?_⟩
    rw [OrderedBuffer.release, length_eq_zero_iff.mp (Nat.le_zero.mp hlen)]
    rfl
  | succ rounds ih =>
    rw [OrderedBuffer.release]
    rcases hstored : b.store.lookup b.nextIdxToRelease with - | event
    · exact ⟨by simpa using h, fun _ => hstored⟩
    · obtain ⟨hinv, hdone⟩ := ih (h.pop hstored)
      refine ⟨?_, fun hlen => hdone ?_⟩
      · simpa using hinv
      · have hlt := length_filter_lt hstored
        exact Nat.le_of_lt_succ (lt_of_lt_of_le hlt hlen)

/-- **Draining** releases everything up to the first gap. -/
theorem drain : Resequences Sends received (released ++ b.drain.1) b.drain.2 :=
  (h.release b.store.length).1

theorem drained : ¬received b.drain.2.nextIdxToRelease := by
  rw [h.drain.received_iff]
  rintro (hlt | ⟨t, ht⟩)
  · exact lt_irrefl _ hlt
  · have hnone := (h.release b.store.length).2 le_rfl
    rw [OrderedBuffer.drain, OrderedBuffer.drainIndexed, hnone] at ht
    cases ht

end Steps

/-- How much has been released right after a drain. -/
theorem length_drain {indices : List ℕ} (h : Resequences Sends (fun i => i ∈ indices) released b) :
    (released ++ b.drain.1).length = gapFree indices := by
  rw [h.drain.length_eq]
  symm
  apply gapFree_eq
  · intro i hi
    exact (h.drain.received_iff i).mpr (.inl hi)
  · exact h.drained

end Resequences

/-- The indices that go with drained events. -/
theorem OrderedBuffer.map_fst_release {rounds : ℕ} (b : OrderedBuffer T) :
    (b.release rounds).1.map Prod.fst =
      List.range' b.nextIdxToRelease (b.release rounds).1.length := by
  induction rounds generalizing b with
  | zero => rfl
  | succ rounds ih =>
    rw [OrderedBuffer.release]
    split
    next => rfl
    next => rw [map_cons, ih, length_cons, range'_succ]; rfl

/-! ### What is said of every event in a buffer -/

/-- Every event in the buffer has the property. -/
def OrderedBuffer.All (P : T → Prop) (b : OrderedBuffer T) : Prop := ∀ entry ∈ b.store, P entry.2

namespace OrderedBuffer.All

variable {P : T → Prop} {b b' : OrderedBuffer T}

theorem ingest [DecidableEq T] (h : b.All P) {idx : ℕ} {t : T} (ht : P t)
    (hb : b.ingest idx t = some b') : b'.All P := by
  unfold OrderedBuffer.ingest at hb
  split at hb
  next => exact Option.some.inj hb ▸ h
  next =>
    split at hb
    next =>
      split at hb
      next => exact Option.some.inj hb ▸ h
      next => cases hb
    next =>
      cases hb
      exact forall_mem_append.mpr ⟨h, forall_mem_singleton.mpr ht⟩

theorem release (rounds : ℕ) (h : b.All P) :
    (∀ event ∈ (b.release rounds).1, P event.2) ∧ (b.release rounds).2.All P := by
  induction rounds generalizing b with
  | zero => exact ⟨forall_mem_nil _, h⟩
  | succ rounds ih =>
    rw [OrderedBuffer.release]
    split
    next => exact ⟨forall_mem_nil _, h⟩
    next event hstored =>
      have hpop : b.pop.All P := fun entry hentry => h entry (mem_of_mem_filter hentry)
      obtain ⟨l₁, l₂, hsplit, -⟩ := lookup_eq_some_iff.mp hstored
      have hevent : P event := h (b.nextIdxToRelease, event) (by rw [hsplit]; simp)
      exact ⟨forall_mem_cons.mpr ⟨hevent, (ih hpop).1⟩, (ih hpop).2⟩

theorem drain (h : b.All P) : (∀ event ∈ b.drain.1, P event) ∧ b.drain.2.All P := by
  refine ⟨fun event hevent => ?_, (h.release b.store.length).2⟩
  obtain ⟨entry, hentry, rfl⟩ := mem_map.mp hevent
  exact (h.release b.store.length).1 entry hentry

end OrderedBuffer.All

/-! ### Many sources -/

variable {S : Type} [DecidableEq S]

/-- `MultiSourceBuffer`; the dictionary `stores` lists its entries in the order in which the
sources were first heard of. -/
structure MultiSourceBuffer (S T : Type) where
  stores : List (S × OrderedBuffer T) := []
deriving DecidableEq

namespace MultiSourceBuffer

/-- The buffer of a source, a new one when there is none. -/
def bufferOf (b : MultiSourceBuffer S T) (source : S) : OrderedBuffer T :=
  ((Table.find Prod.fst source b.stores).map Prod.snd).getD {}

/-- `MultiSourceBuffer.ingest`. -/
def ingest [DecidableEq T] (b : MultiSourceBuffer S T) (idx : ℕ) (t : T) (source : S) :
    Option (MultiSourceBuffer S T) := do
  let buffer ← (b.bufferOf source).ingest idx t
  pure { stores := Table.upsert Prod.fst (source, buffer) b.stores }

/-- `MultiSourceBuffer.drain`. -/
def drain (b : MultiSourceBuffer S T) : List T × MultiSourceBuffer S T :=
  (b.stores.flatMap (fun entry => entry.2.drain.1),
    { stores := b.stores.map (fun entry => (entry.1, entry.2.drain.2)) })

/-- What `drain` returns, with the sources it comes from. -/
def releases (b : MultiSourceBuffer S T) : List (S × T) :=
  b.stores.flatMap (fun entry => entry.2.drain.1.map (fun t => (entry.1, t)))

omit [DecidableEq S] in
theorem map_snd_releases (b : MultiSourceBuffer S T) : b.releases.map Prod.snd = b.drain.1 := by
  simp [releases, drain, map_flatMap]

end MultiSourceBuffer

/-- The events of one source. -/
def eventsOf (source : S) (released : List (S × T)) : List T :=
  released.filterMap (fun event => if event.1 = source then some event.2 else none)

theorem eventsOf_append (source : S) (before after : List (S × T)) :
    eventsOf source (before ++ after) = eventsOf source before ++ eventsOf source after :=
  filterMap_append

theorem eventsOf_tagged (source other : S) (events : List T) :
    eventsOf source (events.map (fun t => (other, t))) = if other = source then events else [] := by
  rw [eventsOf, filterMap_map]
  by_cases h : other = source
  · rw [if_pos h]
    have hsome : ((fun event : S × T => if event.1 = source then some event.2 else none) ∘
        fun t => (other, t)) = some := by
      funext t
      exact if_pos h
    rw [hsome, filterMap_some]
  · rw [if_neg h, filterMap_eq_nil_iff]
    intro t _
    exact if_neg h

/-- A source has one buffer, so what is released for it comes from there. -/
theorem MultiSourceBuffer.eventsOf_releases {b : MultiSourceBuffer S T}
    (hnd : (b.stores.map Prod.fst).Nodup) (source : S) :
    eventsOf source b.releases = (b.bufferOf source).drain.1 := by
  obtain ⟨stores⟩ := b
  unfold releases bufferOf
  simp only at hnd ⊢
  induction stores with
  | nil => rfl
  | cons entry stores ih =>
    rw [map_cons, nodup_cons] at hnd
    rw [flatMap_cons, eventsOf_append, eventsOf_tagged, ih hnd.2]
    by_cases h : entry.1 = source
    · have hnone : Table.find Prod.fst source stores = none := by
        rw [Table.find_eq_none]
        exact h ▸ hnd.1
      have hfind : Table.find Prod.fst source (entry :: stores) = some entry := by
        simp [Table.find, h]
      rw [if_pos h, hnone, hfind]
      exact append_nil _
    · have hfind : Table.find Prod.fst source (entry :: stores) =
          Table.find Prod.fst source stores := by
        simp [Table.find, h]
      rw [if_neg h, hfind, nil_append]

theorem MultiSourceBuffer.bufferOf_drain (b : MultiSourceBuffer S T) (source : S) :
    b.drain.2.bufferOf source = (b.bufferOf source).drain.2 := by
  unfold drain bufferOf
  simp only
  rw [Table.find, find?_map]
  show ((Option.map _ (Table.find Prod.fst source b.stores)).map Prod.snd).getD _ = _
  cases Table.find Prod.fst source b.stores <;> rfl

/-- Every event in the buffers has the property. -/
def MultiSourceBuffer.All (P : T → Prop) (b : MultiSourceBuffer S T) : Prop :=
  ∀ entry ∈ b.stores, entry.2.All P

namespace MultiSourceBuffer.All

variable {P : T → Prop} {b b' : MultiSourceBuffer S T}

theorem ingest [DecidableEq T] (h : b.All P) {idx : ℕ} {t : T} {source : S} (ht : P t)
    (hb : b.ingest idx t source = some b') : b'.All P := by
  have hbuffer : (b.bufferOf source).All P := by
    unfold bufferOf
    rcases hfind : Table.find Prod.fst source b.stores with - | entry
    · exact forall_mem_nil _
    · exact h entry (Table.mem_of_find hfind)
  obtain ⟨buffer, hingest, hb'⟩ := Option.bind_eq_some_iff.mp hb
  cases hb'
  intro entry hentry
  rcases Table.mem_upsert hentry with hold | rfl
  · exact h entry hold
  · exact hbuffer.ingest ht hingest

omit [DecidableEq S] in
theorem drain (h : b.All P) : (∀ event ∈ b.drain.1, P event) ∧ b.drain.2.All P := by
  constructor
  · intro event hevent
    obtain ⟨entry, hentry, hmem⟩ := mem_flatMap.mp hevent
    exact (h entry hentry).drain.1 event hmem
  · intro entry hentry
    obtain ⟨old, hold, rfl⟩ := mem_map.mp hentry
    exact (h old hold).drain.2

end MultiSourceBuffer.All

/-! ### Runs -/

/-- What happens to a buffer: the event of a source with the given index arrives, or the
buffer is drained. -/
inductive BufferOp (S : Type) where
  | ingest (source : S) (idx : ℕ)
  | drain
deriving DecidableEq

/-- A buffer and what its drains have returned. -/
structure BufferRun (S T : Type) where
  buffer : MultiSourceBuffer S T := {}
  returned : List T := []
deriving DecidableEq

variable [DecidableEq T]

/-- One operation; every source sends one event per index. -/
def BufferRun.step (sent : S → ℕ → T) (r : BufferRun S T) : BufferOp S → Option (BufferRun S T)
  | .ingest source idx => do
    let buffer ← r.buffer.ingest idx (sent source idx) source
    pure { r with
      buffer }
  | .drain => some
      { buffer := r.buffer.drain.2
        returned := r.returned ++ r.buffer.drain.1 }

/-- The operations from the empty buffer on. -/
def BufferRun.run (sent : S → ℕ → T) (ops : List (BufferOp S)) : Option (BufferRun S T) :=
  ops.foldlM (BufferRun.step sent) {}

/-- The indices that have arrived from a source. -/
def receivedFrom (source : S) (ops : List (BufferOp S)) : List ℕ :=
  ops.filterMap fun
    | .ingest other idx => if other = source then some idx else none
    | .drain => none

/-- The operations up to the last drain. -/
def throughLastDrain (ops : List (BufferOp S)) : List (BufferOp S) :=
  ops.rdropWhile (fun op => op ≠ .drain)

/-- What holds after the operations, with the sources of the events that were returned: every
source is resequenced, and what was returned of it is what had arrived without a gap when the
buffer was last drained. -/
structure BufferRun.Good (sent : S → ℕ → T) (ops : List (BufferOp S)) (released : List (S × T))
    (r : BufferRun S T) : Prop where
  nodup : (r.buffer.stores.map Prod.fst).Nodup
  returned : released.map Prod.snd = r.returned
  resequences : ∀ source, Resequences (fun i t => t = sent source i)
    (fun i => i ∈ receivedFrom source ops) (eventsOf source released) (r.buffer.bufferOf source)
  length_eq : ∀ source, (eventsOf source released).length =
    gapFree (receivedFrom source (throughLastDrain ops))

variable {sent : S → ℕ → T} {ops : List (BufferOp S)} {released : List (S × T)}
  {r : BufferRun S T}

omit [DecidableEq T] in
theorem receivedFrom_ingest (source other : S) (idx : ℕ) (i : ℕ) :
    i ∈ receivedFrom source (ops ++ [.ingest other idx]) ↔
      i ∈ receivedFrom source ops ∨ (other = source ∧ i = idx) := by
  rw [receivedFrom, filterMap_append, mem_append]
  by_cases h : other = source
  · simp [receivedFrom, h]
  · simp [receivedFrom, h]

theorem receivedFrom_drain (source : S) :
    receivedFrom source (ops ++ [.drain]) = receivedFrom source ops := by
  rw [receivedFrom, filterMap_append]
  exact append_nil _

theorem BufferRun.Good.ingest (h : r.Good sent ops released) (source : S) (idx : ℕ) :
    ∃ r', r.step sent (.ingest source idx) = some r' ∧
      r'.Good sent (ops ++ [.ingest source idx]) released := by
  have hone : ∀ {i : ℕ} {t t' : T}, t = sent source i → t' = sent source i → t = t' :=
    fun ht ht' => ht.trans ht'.symm
  obtain ⟨b, hb, hres⟩ := (h.resequences source).ingest hone (rfl : sent source idx = _)
  refine ⟨{ r with
    buffer := { stores := Table.upsert Prod.fst (source, b) r.buffer.stores } }, ?_, ?_,
    h.returned, ?_, ?_⟩
  · simp [step, MultiSourceBuffer.ingest, hb]
  · exact Table.nodup_upsert h.nodup
  · intro other
    by_cases hother : other = source
    · -- the source of the event
      subst hother
      have hbuffer : ({ stores := Table.upsert Prod.fst (other, b) r.buffer.stores } :
          MultiSourceBuffer S T).bufferOf other = b := by
        rw [MultiSourceBuffer.bufferOf, Table.find_upsert, if_pos rfl]
        rfl
      rw [hbuffer]
      apply hres.congr_received
      intro i
      rw [receivedFrom_ingest]
      simp
    · have hbuffer : ({ stores := Table.upsert Prod.fst (source, b) r.buffer.stores } :
          MultiSourceBuffer S T).bufferOf other = r.buffer.bufferOf other := by
        rw [MultiSourceBuffer.bufferOf, Table.find_upsert, if_neg hother]
        rfl
      rw [hbuffer]
      apply (h.resequences other).congr_received
      intro i
      rw [receivedFrom_ingest]
      simp [Ne.symm hother]
  · intro other
    have hsame : throughLastDrain (ops ++ [.ingest source idx]) = throughLastDrain ops := by
      rw [throughLastDrain, rdropWhile_concat, if_pos (by simp)]
      rfl
    rw [hsame]
    exact h.length_eq other

theorem BufferRun.Good.drain (h : r.Good sent ops released) :
    ∃ r', r.step sent .drain = some r' ∧
      r'.Good sent (ops ++ [.drain]) (released ++ r.buffer.releases) := by
  refine ⟨_, rfl, ?_, ?_, ?_, ?_⟩
  · show ((r.buffer.stores.map fun entry => (entry.1, entry.2.drain.2)).map Prod.fst).Nodup
    rw [map_map]
    exact h.nodup
  · rw [map_append, h.returned, MultiSourceBuffer.map_snd_releases]
  · intro source
    rw [receivedFrom_drain, eventsOf_append, MultiSourceBuffer.eventsOf_releases h.nodup,
      MultiSourceBuffer.bufferOf_drain]
    exact (h.resequences source).drain
  · intro source
    have hall : throughLastDrain (ops ++ [.drain]) = ops ++ [.drain] := by
      rw [throughLastDrain, rdropWhile_concat, if_neg (by simp)]
    rw [hall, receivedFrom_drain, eventsOf_append, MultiSourceBuffer.eventsOf_releases h.nodup]
    exact (h.resequences source).length_drain

theorem BufferRun.good_run (sent : S → ℕ → T) (ops : List (BufferOp S)) :
    ∃ r released, BufferRun.run sent ops = some r ∧ r.Good sent ops released := by
  induction ops using List.reverseRecOn with
  | nil =>
    refine ⟨{}, [], rfl, nodup_nil, rfl, fun source => ?_, fun source => ?_⟩
    · exact Resequences.empty.congr_received fun i => by simp [receivedFrom]
    · exact (gapFree_eq (fun i hi => by cases hi) not_mem_nil).symm
  | append_singleton ops op ih =>
    obtain ⟨r, released, hrun, hgood⟩ := ih
    have hstep : ∃ r' released', r.step sent op = some r' ∧
        r'.Good sent (ops ++ [op]) released' := by
      cases op with
      | ingest source idx =>
        obtain ⟨r', hr', hgood'⟩ := hgood.ingest source idx
        exact ⟨r', released, hr', hgood'⟩
      | drain =>
        obtain ⟨r', hr', hgood'⟩ := hgood.drain
        exact ⟨r', _, hr', hgood'⟩
    obtain ⟨r', released', hr', hgood'⟩ := hstep
    refine ⟨r', released', ?_, hgood'⟩
    rw [run] at hrun ⊢
    rw [foldlM_append, hrun]
    simp [hr']

omit [DecidableEq T] in
/-- What is resequenced of a source is the beginning of what it sent. -/
theorem Resequences.released_eq {send : ℕ → T} {received : ℕ → Prop} {released : List T}
    {b : OrderedBuffer T} (h : Resequences (fun i t => t = send i) received released b) :
    released = (List.range released.length).map send := by
  apply ext_getElem?
  intro i
  rw [getElem?_map]
  by_cases hi : i < released.length
  · rw [getElem?_range hi, getElem?_eq_getElem hi, h.released_sent (getElem?_eq_getElem hi)]
    rfl
  · rw [getElem?_eq_none (not_lt.mp hi),
      getElem?_eq_none (by rw [length_range]; exact not_lt.mp hi)]
    rfl

/-- **Exact resequencing**: whatever arrives, in whatever order and however often, no assertion
fails, and what the drains have returned of a source are exactly its first `m` events, where `m`
is the length of the longest run of indices from zero that had arrived when the buffer was last
drained; together with what `drain` would return now, they are its first events up to the first
index that has not arrived. -/
theorem multiSourceBuffer_released (sent : S → ℕ → T) (ops : List (BufferOp S)) :
    ∃ r, BufferRun.run sent ops = some r ∧ ∃ released next : List (S × T),
      released.map Prod.snd = r.returned ∧ next.map Prod.snd = r.buffer.drain.1 ∧
      ∀ source, eventsOf source released =
          (List.range (gapFree (receivedFrom source (throughLastDrain ops)))).map (sent source) ∧
        eventsOf source (released ++ next) =
          (List.range (gapFree (receivedFrom source ops))).map (sent source) := by
  obtain ⟨r, released, hrun, hgood⟩ := BufferRun.good_run sent ops
  refine ⟨r, hrun, released, r.buffer.releases, hgood.returned, r.buffer.map_snd_releases,
    fun source => ⟨?_, ?_⟩⟩
  · rw [← hgood.length_eq source]
    exact (hgood.resequences source).released_eq
  · rw [eventsOf_append, MultiSourceBuffer.eventsOf_releases hgood.nodup,
      ← (hgood.resequences source).length_drain]
    exact (hgood.resequences source).drain.released_eq

/-- An event that has arrived is not out before the next drain. -/
theorem multiSourceBuffer_undrained :
    (BufferRun.run (fun (_ : Unit) i => i) [.ingest () 0]).map BufferRun.returned = some [] ∧
      gapFree (receivedFrom () [.ingest () 0]) = 1 :=
  ⟨rfl, gapFree_eq (by decide) (by decide)⟩

end CaiNetwork
