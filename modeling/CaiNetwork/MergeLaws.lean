/-
CaiNetwork/MergeLaws.lean

What merging a remote chain does to the local one.

A raw block is read in the same way by both loops (`ReadsAs`), and the raw blocks of an accepted
chain are already in the order of their heights (`wellFormed_of_readsAs`).  One turn of the import
loop skips a block whose hash is known and appends one that continues a well-formed chain; a run
over the blocks of an extension appends them all (`importBlocks_extension`).  The laws of whole
merges follow with `mergeRemoteChainPayload_cases`.
-/

import Mathlib.Data.List.Forall2
import CaiNetwork.Merge

namespace CaiNetwork

open List

variable {host : Host} {policy : WalletPolicy}

variable {raws sorted : List Json} {clock : Json → Timestamp} {block : ChainBlock}
  {blocks : Chain} {counts : Nat × Nat} {st : MergeState}

/-! ### Reading raw blocks -/

/-- Sorting by a relation that refines the order of a key sorts by the key. -/
theorem pairwise_insertionSort_key {α : Type} {r : α → α → Prop} [DecidableRel r] {f : α → Int}
    (hle : ∀ a b, r a b → f a ≤ f b) (hnle : ∀ a b, ¬r a b → f b ≤ f a) (xs : List α) :
    (xs.insertionSort r).Pairwise (fun a b => f a ≤ f b) := by
  have hinsert : ∀ (a : α) (ys : List α), ys.Pairwise (fun a b => f a ≤ f b) →
      (ys.orderedInsert r a).Pairwise (fun a b => f a ≤ f b) := by
    intro a ys hys
    induction ys with
    | nil => exact pairwise_singleton _ _
    | cons y ys ih =>
      obtain ⟨hy, hys⟩ := pairwise_cons.mp hys
      rw [List.orderedInsert]
      split
      next hay =>
        refine pairwise_cons.mpr ⟨?_, pairwise_cons.mpr ⟨hy, hys⟩⟩
        intro b hb
        rcases mem_cons.mp hb with rfl | hb
        · exact hle a b hay
        · exact (hle a y hay).trans (hy b hb)
      next hay =>
        refine pairwise_cons.mpr ⟨?_, ih hys⟩
        intro b hb
        rcases (mem_orderedInsert r).mp hb with rfl | hb
        · exact hnle b y hay
        · exact hy b hb
  induction xs with
  | nil => exact List.Pairwise.nil
  | cons x xs ih => exact hinsert x _ ih

theorem map_eq_of_forall₂ {α β γ : Type} {R : α → β → Prop} {f : α → γ} {g : β → γ} {xs : List α}
    {ys : List β} (h : List.Forall₂ R xs ys) (hfg : ∀ x ∈ xs, ∀ y, R x y → f x = g y) :
    xs.map f = ys.map g := by
  induction h with
  | nil => rfl
  | cons hxy _ ih =>
    rw [map_cons, map_cons, hfg _ mem_cons_self _ hxy,
      ih (fun x hx => hfg x (mem_cons_of_mem _ hx))]

theorem sortRawBlocks_eq_ok (h : sortRawBlocks host raws = .ok sorted) :
    sorted.Perm raws ∧ ∃ keyed : List ((Int × String × String) × Json),
      sorted = keyed.map Prod.snd ∧ keyed.Pairwise (fun a b => a.1.1 ≤ b.1.1) ∧
      ∀ e ∈ keyed, rawBlockSortKey host e.2 = .ok e.1 := by
  obtain ⟨keyed, hkeyed, h⟩ := bind_eq_ok.mp h
  have hpairs := forall₂_of_mapM_eq_ok hkeyed
  have hkeys : ∀ e ∈ keyed, rawBlockSortKey host e.2 = .ok e.1 := by
    intro e he
    obtain ⟨raw, -, hraw⟩ := exists_of_mem_forall₂ hpairs he
    obtain ⟨key, hkey, hpair⟩ := bind_eq_ok.mp hraw
    cases pure_eq_ok.mp hpair
    exact hkey
  have hraws : keyed.map Prod.snd = raws := by
    rw [← map_eq_of_forall₂ (f := id) hpairs ?_, map_id]
    intro raw _ e he
    obtain ⟨key, -, hpair⟩ := bind_eq_ok.mp he
    rw [← pure_eq_ok.mp hpair]
    rfl
  cases pure_eq_ok.mp h
  refine ⟨?_, _, rfl, ?_, ?_⟩
  · rw [← hraws]
    exact (perm_insertionSort sortKeyLe keyed).map _
  · apply pairwise_insertionSort_key
    all_goals
      intro a b hab
      rw [sortKeyLe] at hab
      split at hab <;> omega
  · exact fun e he => hkeys e ((mem_insertionSort sortKeyLe).mp he)

/-- The record of a block that could be read. -/
theorem remoteBlock?_eq_some {raw : Json} (h : remoteBlock? host policy clock raw = some block) :
    Dated block ∧ strip block.blockHash ≠ "" ∧ ∃ kvs v, raw = .obj kvs ∧
      kvs.lookup "height" = some v ∧ host.int v = .ok block.height ∧
      block.blockHash = host.strOrEmpty (Json.getD kvs "block_hash") := by
  cases raw with
  | obj kvs =>
    rw [remoteBlock?] at h
    split at h
    next => cases h
    next hhash =>
      rcases hcoerce : coerceBlock host clock policy.chainNetwork.value (.obj kvs) with e | b
      · rw [hcoerce] at h
        cases h
      rw [hcoerce] at h
      cases h
      obtain ⟨hdated, _, v, hkvs, hlookup, hint, hblock⟩ := coerceBlock_eq_ok hcoerce
      cases hkvs
      have hne : host.strOrEmpty (Json.getD kvs "block_hash") ≠ "" := by
        intro hempty
        rw [fieldText, hempty, strip_empty] at hhash
        exact hhash rfl
      have hread := hblock hne
      refine ⟨hdated, ?_, kvs, v, rfl, hlookup, hint, hread⟩
      rw [hread]
      exact hhash
  | _ => cases h

/-- A raw block that is read as a block and passes the checks of a single block. -/
structure ReadsAs (host : Host) (policy : WalletPolicy) (clock : Json → Timestamp) (raw : Json)
    (block : ChainBlock) : Prop where
  read : remoteBlock? host policy clock raw = some block
  header : remoteHeaderOk host policy block = true
  transactions : blockTransactionsAreValid host policy block = .ok true

theorem readsAs_of_coerceRemoteBlocks : ∀ {blocks : Chain},
      coerceRemoteBlocks host policy clock raws = .ok (some blocks) →
      List.Forall₂ (ReadsAs host policy clock) raws blocks := by
  induction raws with
  | nil =>
    intro blocks h
    cases h
    exact .nil
  | cons raw raws ih =>
    intro blocks h
    rw [coerceRemoteBlocks] at h
    split at h
    next => cases h
    next block hread =>
      split at h
      next hheader =>
        obtain ⟨valid, hvalid, h⟩ := bind_eq_ok.mp h
        cases valid with
        | false => cases h
        | true =>
          obtain ⟨rest, hrest, h⟩ := bind_eq_ok.mp h
          rcases rest with - | rest
          · cases h
          cases pure_eq_ok.mp h
          exact .cons ⟨hread, hheader, hvalid⟩ (ih hrest)
      next => cases h

theorem coerceValidRemoteChain_eq_ok
    {remote : Chain} (h : coerceValidRemoteChain host policy clock raws = .ok remote)
    (hne : remote ≠ []) : ∃ sorted, sortRawBlocks host raws = .ok sorted ∧
      coerceRemoteBlocks host policy clock sorted = .ok (some remote) ∧
      validateChainBlocks host policy remote = .ok [] := by
  obtain ⟨sorted, hsorted, h⟩ := bind_eq_ok.mp h
  obtain ⟨read, hread, h⟩ := bind_eq_ok.mp h
  refine ⟨sorted, hsorted, ?_⟩
  rcases read with - | blocks
  · exact absurd (pure_eq_ok.mp h).symm hne
  obtain ⟨errors, herrors, h⟩ := bind_eq_ok.mp h
  cases errors with
  | nil =>
    cases pure_eq_ok.mp h
    exact ⟨hread, herrors⟩
  | cons error errors => exact absurd (pure_eq_ok.mp h).symm hne

/-- What `_coerce_valid_remote_chain` returns for raw blocks that can all be read. -/
theorem coerceValidRemoteChain_of_read {errors : List String}
    (hsorted : sortRawBlocks host raws = .ok sorted)
    (hread : coerceRemoteBlocks host policy clock sorted = .ok (some blocks))
    (hvalid : validateChainBlocks host policy blocks = .ok errors) :
    coerceValidRemoteChain host policy clock raws = .ok (if errors = [] then blocks else []) := by
  rw [coerceValidRemoteChain, hsorted]
  show (coerceRemoteBlocks host policy clock sorted >>= _) = _
  rw [hread]
  show (validateChainBlocks host policy blocks >>= _) = _
  rw [hvalid]
  cases errors <;> rfl

theorem sortKey_height {raw : Json}
    {key : Int × String × String} (hkey : rawBlockSortKey host raw = .ok key)
    (hread : remoteBlock? host policy clock raw = some block) : key.1 = block.height := by
  obtain ⟨-, -, kvs, v, rfl, hlookup, hint, -⟩ := remoteBlock?_eq_some hread
  obtain ⟨height, hheight, hkey⟩ := bind_eq_ok.mp hkey
  rw [Json.getD, hlookup, Option.getD_some, tryInt, hint] at hheight
  cases pure_eq_ok.mp hkey
  cases hheight
  rfl

/-- A list whose sorted order is well formed and whose heights do not fall is in order. -/
theorem sortBlocks_eq_of_heights (hwell : WellFormed host policy (sortBlocks blocks))
    (hle : (blocks.map ChainBlock.height).Pairwise (· ≤ ·)) : sortBlocks blocks = blocks := by
  have hsort : ((sortBlocks blocks).map ChainBlock.height).Nodup := by
    rw [List.Nodup, pairwise_map]
    exact hwell.pairwise_height.imp (fun h => ne_of_lt h)
  have hnodup : (blocks.map ChainBlock.height).Nodup :=
    (((perm_insertionSort blockLe blocks).map _).nodup_iff).mp hsort
  apply sortBlocks_eq_self
  rw [List.Nodup, pairwise_map] at hnodup
  rw [pairwise_map] at hle
  exact (hle.and hnodup).imp (fun h => lt_of_le_of_ne h.1 h.2)

/-- **The blocks of an accepted remote chain are in order.** -/
theorem wellFormed_of_readsAs
    {remote : Chain} (hsorted : sortRawBlocks host raws = .ok sorted)
    (hread : List.Forall₂ (ReadsAs host policy clock) sorted remote)
    (hvalid : validateChainBlocks host policy remote = .ok []) (hne : remote ≠ []) :
    WellFormed host policy remote ∧ ClosingSound host policy remote := by
  obtain ⟨-, keyed, rfl, hkeyed, hkeys⟩ := sortRawBlocks_eq_ok hsorted
  obtain ⟨hwell, hclosing⟩ := (validateChainBlocks_eq_nil_iff hne).mp hvalid
  have hheights : keyed.map (fun e => e.1.1) = remote.map ChainBlock.height := by
    apply map_eq_of_forall₂ (forall₂_map_left_iff.mp hread)
    exact fun e he b hb => sortKey_height (hkeys e he) hb.read
  have hle : (remote.map ChainBlock.height).Pairwise (· ≤ ·) := by
    rw [← hheights, pairwise_map]
    exact hkeyed
  have hsort := sortBlocks_eq_of_heights hwell hle
  rw [hsort] at hwell hclosing
  exact ⟨hwell, hclosing⟩

/-! ### One turn of the import loop -/

theorem mem_heightsByHash {hash : String} :
    hash ∈ (MergeState.ofBlocks host blocks counts).heightsByHash.map Prod.fst ↔
      ∃ b ∈ blocks, strip b.blockHash ≠ "" ∧ b.blockHash = hash := by
  have hfold : ∀ (bs : Chain) (t : Tally String),
      hash ∈ (bs.foldl (fun t b => Tally.set b.blockHash b.height t) t).map Prod.fst ↔
        (∃ b ∈ bs, b.blockHash = hash) ∨ hash ∈ t.map Prod.fst := by
    intro bs
    induction bs with
    | nil => simp
    | cons b bs ih =>
      intro t
      rw [foldl_cons, ih, Tally.mem_keys_set, exists_mem_cons_iff, or_assoc, or_left_comm,
        @eq_comm _ hash]
  rw [MergeState.ofBlocks, hfold]
  simp [and_assoc]

theorem ofBlocks_concat (hhash : strip block.blockHash ≠ "") :
    (MergeState.ofBlocks host blocks counts).push host block block.transactions =
      .ofBlocks host (blocks ++ [block]) (counts.1 + 1, counts.2 + block.transactions.length) := by
  simp [MergeState.push, MergeState.ofBlocks, chainTransactionNonces, hhash]

theorem lookup_heightsByHash {b : ChainBlock}
    (hnodup : (blocks.map ChainBlock.blockHash).Nodup) (hb : b ∈ blocks)
    (hhash : strip b.blockHash ≠ "") :
    (MergeState.ofBlocks host blocks counts).heightsByHash.lookup b.blockHash = some b.height := by
  rw [MergeState.ofBlocks]
  induction blocks using List.reverseRecOn with
  | nil => cases hb
  | append_singleton blocks last ih =>
    rw [map_append, map_singleton, nodup_append] at hnodup
    obtain ⟨hnodup, -, hlast⟩ := hnodup
    rw [filter_append, foldl_append]
    rcases mem_append.mp hb with hb | hb
    · -- an earlier block: the last assignment is to another key
      have hne : b.blockHash ≠ last.blockHash :=
        hlast _ (mem_map_of_mem hb) _ (mem_singleton_self _)
      by_cases hl : strip last.blockHash ≠ ""
      · rw [filter_cons_of_pos (by simpa using hl), filter_nil, foldl_cons,
          foldl_nil, Tally.lookup_set, if_neg hne]
        exact ih hnodup hb
      · rw [filter_cons_of_neg (by simpa using hl), filter_nil, foldl_nil]
        exact ih hnodup hb
    · rw [mem_singleton] at hb
      subst hb
      rw [filter_cons_of_pos (by simpa using hhash), filter_nil, foldl_cons,
        foldl_nil, Tally.lookup_set, if_pos rfl]

/-- A block whose hash is known is skipped. -/
theorem importBlock_known (h : block.blockHash ∈ st.heightsByHash.map Prod.fst) :
    importBlock host policy st block = .ok st := by
  rw [importBlock, if_pos h]
  split <;> rfl

theorem strip_blockHash_of_accepted {before : Chain}
    (h : BlockAccepted host policy before block) : strip block.blockHash ≠ "" := by
  rw [← h.hash_eq, computeBlockHash, strip_canonicalHash]
  exact canonicalHash_ne_empty

theorem links_of_accepted (hwell : WellFormed host policy (blocks ++ [block])) :
    blockLinksToKnownChain block (MergeState.ofBlocks host blocks counts).heightsByHash
      (MergeState.ofBlocks host blocks counts).heights = true := by
  obtain ⟨hblocks, haccepted⟩ := wellFormed_concat.mp hwell
  have hheight : block.height = blocks.length := hwell.height_eq blocks [] block rfl
  have hfresh : block.height ∉ blocks.map ChainBlock.height := by
    intro hmem
    obtain ⟨b, hb, heq⟩ := mem_map.mp hmem
    have := (hblocks.height_lt hb).2
    omega
  have hlinked := haccepted.linked
  rw [blockLinksToKnownChain]
  rcases eq_nil_or_concat blocks with rfl | ⟨front, parent, rfl⟩
  · rw [if_pos hlinked.1, hlinked.2.1]
    rfl
  · rw [concat_eq_append] at hlinked hheight hfresh hblocks ⊢
    rw [LinkedAfter, getLast?_concat] at hlinked
    have hparent : parent ∈ front ++ [parent] := mem_append_right _ (mem_singleton_self _)
    have hzero : block.height ≠ 0 := by
      rw [hheight, length_append, length_singleton]
      omega
    rw [if_neg hzero, hlinked.2, lookup_heightsByHash hblocks.blockHash_nodup hparent
      (strip_blockHash_of_accepted (wellFormed_concat.mp hblocks).2)]
    show (decide (block.height = parent.height + 1) &&
      decide (block.height ∉ (front ++ [parent]).map ChainBlock.height)) = true
    rw [decide_eq_true hlinked.1, decide_eq_true hfresh]
    rfl

theorem roots_of_accepted (h : BlockAccepted host policy blocks block) :
    blockRootsMatchKnownChain host block blocks = some block := by
  rw [blockRootsMatchKnownChain]
  simp only [← h.txRoot, ne_eq, not_true_eq_false, and_false, if_false]
  rw [← h.stateRoot]
  simp

/-- **A block that continues a well-formed chain is appended.** -/
theorem importBlock_next (hwell : WellFormed host policy (blocks ++ [block]))
    (hheader : remoteHeaderOk host policy block = true)
    (hvalid : blockTransactionsAreValid host policy block = .ok true) :
    importBlock host policy (.ofBlocks host blocks counts) block =
      .ok (.ofBlocks host (blocks ++ [block])
        (counts.1 + 1, counts.2 + block.transactions.length)) := by
  have haccepted := (wellFormed_concat.mp hwell).2
  have hunknown : block.blockHash ∉
      (MergeState.ofBlocks host blocks counts).heightsByHash.map Prod.fst := by
    rw [mem_heightsByHash]
    rintro ⟨b, hb, -, heq⟩
    exact haccepted.hash_new (heq ▸ mem_map_of_mem hb)
  have hnonces : blockNoncesAreNew host block
      (MergeState.ofBlocks host blocks counts).nonces = true := by
    rw [blockNoncesAreNew, all_eq_true]
    exact fun key hkey => decide_eq_true (haccepted.nonces_new key hkey)
  have hnew : block.transactions.filter
      (fun tx => tx.txId ∉ (MergeState.ofBlocks host blocks counts).txIds) =
        block.transactions := by
    rw [filter_eq_self]
    intro tx htx
    rw [decide_eq_true_eq]
    intro hmem
    obtain ⟨other, hother, heq⟩ := mem_map.mp hmem
    apply haccepted.txIds_new (strippedTxId tx) (mem_map_of_mem htx)
    exact mem_map.mpr ⟨other, hother, congrArg strip heq⟩
  rw [importBlock, if_neg (by simp [hheader]), if_neg hunknown, hvalid]
  simp only [bind, Except.bind, pure, Except.pure, Bool.not_true, Bool.false_eq_true, if_false,
    links_of_accepted hwell]
  rw [show (MergeState.ofBlocks host blocks counts).blocks = blocks from rfl,
    roots_of_accepted haccepted]
  simp only [hnonces, Bool.not_true, Bool.false_eq_true, if_false, hnew,
    if_neg haccepted.transactions_ne]
  rw [ofBlocks_concat (strip_blockHash_of_accepted haccepted)]

/-! ### Runs of the import loop -/

/-- A run over blocks whose hashes are all known changes nothing. -/
theorem importBlocks_known (h : ∀ raw ∈ raws, ∀ b, remoteBlock? host policy clock raw = some b →
      b.blockHash ∈ st.heightsByHash.map Prod.fst) :
    importBlocks host policy clock st raws = .ok st := by
  induction raws with
  | nil => rfl
  | cons raw raws ih =>
    have hrest := ih (fun r hr => h r (mem_cons_of_mem _ hr))
    rw [importBlocks]
    split
    next => exact hrest
    next b hb =>
      rw [importBlock_known (h raw mem_cons_self b hb)]
      exact hrest

/-- **A run over the blocks of an extension appends them all.** -/
theorem importBlocks_extension {clock : Json → Timestamp} {raws : List Json}
    {ext : Chain} (hread : List.Forall₂ (ReadsAs host policy clock) raws ext) :
    ∀ {blocks : Chain} {counts : Nat × Nat}, WellFormed host policy (blocks ++ ext) →
      ∃ imported, importBlocks host policy clock (.ofBlocks host blocks counts) raws =
        .ok (.ofBlocks host (blocks ++ ext) (counts.1 + ext.length, imported)) := by
  induction hread with
  | nil =>
    intro blocks counts _
    exact ⟨counts.2, by rw [append_nil]; rfl⟩
  | @cons raw block raws ext hblock _ ih =>
    intro blocks counts hwell
    rw [append_cons] at hwell
    obtain ⟨imported, hrun⟩ :=
      @ih (blocks ++ [block]) (counts.1 + 1, counts.2 + block.transactions.length) hwell
    refine ⟨imported, ?_⟩
    rw [importBlocks, hblock.read]
    show (do
      let st ← importBlock host policy _ block
      importBlocks host policy clock st raws) = _
    rw [importBlock_next hwell.of_append hblock.header hblock.transactions]
    show importBlocks host policy clock _ raws = _
    rw [hrun, ← append_cons, length_cons, Nat.add_assoc, Nat.add_comm 1]

theorem importBlocks_append {more : List Json} :
    ∀ {raws : List Json} {st : MergeState}, importBlocks host policy clock st (raws ++ more) =
      (importBlocks host policy clock st raws >>= fun st =>
        importBlocks host policy clock st more) := by
  intro raws
  induction raws with
  | nil => intro st; rfl
  | cons raw raws ih =>
    intro st
    rw [cons_append, importBlocks, importBlocks]
    split
    next => exact ih
    next b _ =>
      rcases importBlock host policy st b with e | st'
      · rfl
      · exact ih

/-! ### What a run can append -/

/-- An imported block is one that was read, up to the roots the loop filled in. -/
structure SameContent (read block : ChainBlock) : Prop where
  height : block.height = read.height
  createdAt : block.createdAt = read.createdAt
  transactions : block.transactions = read.transactions

theorem height_fresh_of_links {heightsByHash : Tally String}
    {heights : List Int} (h : blockLinksToKnownChain block heightsByHash heights = true) :
    block.height ∉ heights := by
  rw [blockLinksToKnownChain] at h
  split at h
  next hzero =>
    rw [hzero]
    exact of_decide_eq_true (Bool.and_eq_true_iff.mp h).2
  next =>
    split at h
    next => cases h
    next => exact of_decide_eq_true (Bool.and_eq_true_iff.mp h).2

theorem sameContent_of_roots {rooted : ChainBlock}
    (h : blockRootsMatchKnownChain host block blocks = some rooted) : SameContent block rooted := by
  rw [blockRootsMatchKnownChain] at h
  split at h
  next => cases h
  next =>
    dsimp only at h
    split at h
    next => cases h
    next =>
      cases h
      exact ⟨rfl, rfl, rfl⟩

/-- **One turn of the loop** leaves the chain or appends the block that was read, at a height
that the chain did not have. -/
theorem importBlock_cases {st' : MergeState} (h : importBlock host policy st block = .ok st') :
    st' = st ∨ ∃ rooted new, SameContent block rooted ∧ rooted.height ∉ st.heights ∧
      st' = st.push host rooted new := by
  rw [importBlock] at h
  split at h
  next => exact .inl (Except.ok.inj h).symm
  next =>
  split at h
  next => exact .inl (Except.ok.inj h).symm
  next =>
  obtain ⟨valid, -, h⟩ := bind_eq_ok.mp h
  split at h
  next => exact .inl (pure_eq_ok.mp h).symm
  next =>
  split at h
  next => exact .inl (pure_eq_ok.mp h).symm
  next hlinks =>
  split at h
  next => exact .inl (pure_eq_ok.mp h).symm
  next rooted hroots =>
  split at h
  next => exact .inl (pure_eq_ok.mp h).symm
  next =>
  dsimp only at h
  split at h
  next => exact .inl (pure_eq_ok.mp h).symm
  next =>
  have hsame := sameContent_of_roots hroots
  have hfresh := height_fresh_of_links (by simpa using hlinks)
  exact .inr ⟨rooted, _, hsame, hsame.height ▸ hfresh, (pure_eq_ok.mp h).symm⟩

/-- **What a run appends**: blocks that were read from the raw ones, at heights that are new and
distinct. -/
theorem importBlocks_spec : ∀ {st st' : MergeState}, st.heights = st.blocks.map ChainBlock.height →
      importBlocks host policy clock st raws = .ok st' → ∃ new, st'.blocks = st.blocks ++ new ∧
        st'.importedBlocks = st.importedBlocks + new.length ∧
        (∀ b ∈ new, ∃ raw ∈ raws, ∃ read, remoteBlock? host policy clock raw = some read ∧
          SameContent read b) ∧
        (new.map ChainBlock.height).Nodup ∧
        ∀ b ∈ new, b.height ∉ st.blocks.map ChainBlock.height := by
  induction raws with
  | nil =>
    intro st st' _ h
    cases h
    exact ⟨[], by simp, by simp, by simp, nodup_nil, by simp⟩
  | cons raw raws ih =>
    intro st st' hheights h
    rw [importBlocks] at h
    split at h
    next =>
      obtain ⟨new, hblocks, hcount, hread, hheights⟩ := ih hheights h
      refine ⟨new, hblocks, hcount, fun b hb => ?_, hheights⟩
      exact (exists_mem_cons_iff _ _ _).mpr (.inr (hread b hb))
    next block hblock =>
      obtain ⟨mid, hmid, hrun⟩ := bind_eq_ok.mp h
      -- the turn itself, then the rest of the run from the state it leaves
      rcases importBlock_cases hmid with rfl | ⟨rooted, txs, hsame, hnew, rfl⟩
      · obtain ⟨new, hblocks, hcount, hread, hheights⟩ := ih hheights hrun
        refine ⟨new, hblocks, hcount, fun b hb => ?_, hheights⟩
        exact (exists_mem_cons_iff _ _ _).mpr (.inr (hread b hb))
      · have hpushed : (st.push host rooted txs).heights =
            (st.push host rooted txs).blocks.map ChainBlock.height := by
          show st.heights ++ [rooted.height] = (st.blocks ++ [rooted]).map ChainBlock.height
          rw [hheights, map_append, map_singleton]
        obtain ⟨new, hblocks, hcount, hread, hnodup, hfresh⟩ := ih hpushed hrun
        have hpush : (st.push host rooted txs).blocks = st.blocks ++ [rooted] := rfl
        simp only [hpush, map_append, map_singleton, mem_append, mem_singleton, not_or] at hfresh
        refine ⟨rooted :: new, ?_, ?_, ?_, ?_, ?_⟩
        · rw [hblocks, hpush, append_assoc, singleton_append]
        · rw [hcount, length_cons]
          show st.importedBlocks + 1 + new.length = _
          omega
        · refine forall_mem_cons.mpr ⟨⟨raw, mem_cons_self, block, hblock, hsame⟩, fun b hb => ?_⟩
          exact (exists_mem_cons_iff _ _ _).mpr (.inr (hread b hb))
        · rw [map_cons, nodup_cons, mem_map]
          refine ⟨?_, hnodup⟩
          rintro ⟨b, hb, heq⟩
          exact (hfresh b hb).2 heq
        · exact forall_mem_cons.mpr ⟨hheights ▸ hnew, fun b hb => (hfresh b hb).1⟩

/-! ### Listed chains -/

theorem fillMissingBlockRoots_height :
    ∀ {before : Chain}, (fillMissingBlockRoots host before blocks).map ChainBlock.height =
      blocks.map ChainBlock.height := by
  induction blocks with
  | nil => intro before; rfl
  | cons block blocks ih =>
    intro before
    rw [fillMissingBlockRoots, map_cons, map_cons, ih]
    split <;> split <;> rfl

theorem pairwise_height_sortBlocks (blocks : Chain) :
    ((sortBlocks blocks).map ChainBlock.height).Pairwise (· ≤ ·) := by
  rw [pairwise_map]
  apply pairwise_insertionSort_key
  all_goals
    intro a b hab
    rw [blockLe] at hab
    split at hab <;> omega

/-- An accepted chain that was read from the file is in order. -/
theorem wellFormed_of_listed {file : ChainFile}
    (h : listChainBlocks host policy clock file = .ok blocks)
    (hvalid : validateChainBlocks host policy blocks = .ok []) : WellFormed host policy blocks := by
  rcases eq_or_ne blocks [] with rfl | hne
  · exact wellFormed_nil
  have hwell := ((validateChainBlocks_eq_nil_iff hne).mp hvalid).1
  have hle : (blocks.map ChainBlock.height).Pairwise (· ≤ ·) := by
    obtain ⟨read, -, h⟩ := bind_eq_ok.mp h
    rw [← pure_eq_ok.mp h, fillMissingBlockRoots_height]
    exact pairwise_height_sortBlocks read
  rwa [sortBlocks_eq_of_heights hwell hle] at hwell

end CaiNetwork
