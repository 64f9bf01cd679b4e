/-
CaiNetwork/MergeSafety.lean

The laws of merging, over every local chain and every payload.

A payload without authority adds at most the genesis block that the local chain lacks, exactly when
the chain is not a lone stale genesis block or the payload holds no valid chain
(`merge_unauthorized`, `merge_unauthorized_stale`).  An authorised payload that holds a prefix of
the local chain leaves it alone exactly when the prefix is empty, is the whole chain or is refused
by the validator (`merge_prefix_iff`): a shorter valid prefix is taken for a fork.
-/

import CaiNetwork.Export

namespace CaiNetwork

open List

variable {host : Host} {policy : WalletPolicy}

/-! ### Payloads without authority -/

/-- What converts to an integer and counts as false is zero. -/
theorem int_of_not_truthy {v : Json} {n : Int} (hv : v.truthy = false) (h : host.int v = .ok n) :
    n = 0 := by
  cases v with
  | null => cases h
  | bool b =>
    cases b with
    | true => cases hv
    | false => exact (Except.ok.inj h).symm
  | int m =>
    have hm : m = 0 := by simpa [Json.truthy] using hv
    rw [← hm]
    exact (Except.ok.inj h).symm
  | float lit =>
    have hzero : lit.text = "0.0" ∨ lit.text = "-0.0" := by
      by_contra hnot
      rw [not_or] at hnot
      simp [Json.truthy, hnot] at hv
    rw [Host.int, host.intOfFloat_zero lit hzero] at h
    exact (Except.ok.inj h).symm
  | str s =>
    have hs : s = "" := by simpa [Json.truthy] using hv
    rw [hs] at h
    cases h
  | arr xs => cases h
  | obj kvs => cases h

theorem tryInt_pyOr_zero {v : Json} {n : Int} (h : host.int v = .ok n) :
    tryInt host (v.pyOr (.int 0)) = .ok (some n) := by
  rw [Json.pyOr]
  split
  next => rw [tryInt, h]
  next hv =>
    rw [int_of_not_truthy (by simpa using hv) h]
    rfl

/-- A payload without non-genesis blocks holds no block above height zero. -/
theorem height_le_zero_of_genesisOnly {clock : Json → Timestamp} {raws : List Json}
    (h : rawPayloadHasNonGenesisBlock host raws = .ok false) :
    ∀ raw ∈ raws, ∀ b, remoteBlock? host policy clock raw = some b → b.height ≤ 0 := by
  induction raws with
  | nil => intro raw hraw; cases hraw
  | cons first raws ih =>
    have hstep : rawPayloadHasNonGenesisBlock host raws = .ok false ∧
        ∀ b, remoteBlock? host policy clock first = some b → b.height ≤ 0 := by
      cases first with
      | obj kvs =>
        obtain ⟨height, hheight, h⟩ := bind_eq_ok.mp h
        have hread : ∀ b, remoteBlock? host policy clock (.obj kvs) = some b →
            height = some b.height := by
          intro b hb
          obtain ⟨-, -, _, v, hkvs, hlookup, hint, -⟩ := remoteBlock?_eq_some hb
          cases hkvs
          rw [Json.getD, hlookup, Option.getD_some, tryInt_pyOr_zero hint] at hheight
          exact (Except.ok.inj hheight).symm
        rcases height with - | height
        · refine ⟨h, fun b hb => ?_⟩
          cases hread b hb
        · dsimp only at h
          split at h
          next => cases h
          next hle =>
            refine ⟨h, fun b hb => ?_⟩
            have := Option.some.inj (hread b hb)
            omega
      | _ => exact ⟨h, fun b hb => by cases hb⟩
    intro raw hraw
    rcases mem_cons.mp hraw with rfl | hraw
    · exact hstep.2
    · exact ih hstep.1 raw hraw

theorem chainSignatureError_of_payloadBlocks {kvs : Fields} {raws : List Json}
    (h : payloadBlocks host policy kvs = .ok raws) :
      chainSignatureError host policy kvs = none := by
  obtain ⟨_, -, h⟩ := bind_eq_ok.mp h
  rcases hsig : chainSignatureError host policy kvs with - | message
  · rfl
  · rw [hsig] at h
    cases h

/-- Heights of a list that the validator accepts are not negative. -/
theorem height_nonneg_of_accepted {blocks : Chain}
    (h : validateChainBlocks host policy (sortBlocks blocks) = .ok []) :
    ∀ b ∈ blocks, 0 ≤ b.height := by
  intro b hb
  have hmem : b ∈ sortBlocks blocks := (mem_insertionSort blockLe).mpr hb
  have hwell := ((validateChainBlocks_eq_nil_iff (ne_nil_of_mem hmem)).mp h).1
  exact (hwell.height_lt ((mem_insertionSort blockLe).mpr hmem)).1

/-- A merge that adopts the remote chain saves it. -/
theorem merge_adopts {records : List ValidatorRecord} {clock : Json → Timestamp}
    {kvs : Fields} {raws : List Json} {file : ChainFile} {loc remote : Chain} {counts : Nat × Nat}
    (hraws : payloadBlocks host policy kvs = .ok raws) (hne : raws ≠ [])
    (hloc : listChainBlocks host policy clock file = .ok loc)
    (hremote : coerceValidRemoteChain host policy clock raws = .ok remote)
    (hadopt : adoptAuthoritativeRemoteFork host policy remote loc
      (chainPayloadSignedByBondedValidator host policy loc records kvs) = some counts) :
    mergeRemoteChainPayload host policy records clock (.obj kvs) file =
      (.ok counts, saveChainBlocks remote) := by
  have hblocks : mergeBlocks host policy records clock kvs raws file =
      .ok ⟨counts, some remote⟩ := by
    rw [mergeBlocks]
    refine bind_eq_ok.mpr ⟨loc, hloc, bind_eq_ok.mpr ⟨remote, hremote, ?_⟩⟩
    dsimp only
    rw [hadopt]
    rfl
  have hplan : mergePlan host policy records clock (.obj kvs) file = .ok ⟨counts, some remote⟩ := by
    rw [mergePlan]
    refine bind_eq_ok.mpr ⟨raws, hraws, ?_⟩
    rw [if_neg hne]
    exact hblocks
  rw [mergeRemoteChainPayload, hplan]

/-- After the merge the file is unchanged, or has the policy's genesis block in addition. -/
def GainsGenesisAtMost (host : Host) (policy : WalletPolicy) (file : ChainFile) (loc : Chain)
    (after : ChainFile) : Prop :=
  after = file ∨ ∃ genesis : ChainBlock, genesis.height = 0 ∧
    genesis.blockHash = expectedGenesisHash host (moneyPolicyForWalletPolicy host policy) ∧
    (∀ b ∈ loc, b.height ≠ 0) ∧ after = saveChainBlocks (sortBlocks (loc ++ [genesis]))

/-- The blocks of the payload are a valid chain of the policy. -/
def HoldsValidChain (host : Host) (policy : WalletPolicy) (clock : Json → Timestamp)
    (payload : Json) : Prop :=
  ∃ kvs raws remote, payload = .obj kvs ∧ payloadBlocks host policy kvs = .ok raws ∧
    coerceValidRemoteChain host policy clock raws = .ok remote ∧ remote ≠ []

theorem gainsGenesisAtMost_of_unauthorized {records : List ValidatorRecord}
    {clock : Json → Timestamp} {payload : Json} {file : ChainFile} {loc : Chain}
    (hloc : listChainBlocks host policy clock file = .ok loc)
    (hunauthorized : ∀ kvs, payload = .obj kvs → ¬AuthorizesRemoteChain host policy loc records kvs)
    (hstale : ¬(isStaleGenesisOnlyChain loc (policyGenesis host policy) = true ∧
      HoldsValidChain host policy clock payload)) :
    GainsGenesisAtMost host policy file loc
      (mergeRemoteChainPayload host policy records clock payload file).2 := by
  rcases mergeRemoteChainPayload_cases records clock payload file with
    ⟨r, h⟩ | ⟨kvs, raws, loc', saved, counts, rfl, hraws, hloc', hsaves, h⟩
  · exact .inl (by rw [h])
  rw [hloc] at hloc'
  cases hloc'
  have hunsigned : chainPayloadSignedByBondedValidator host policy loc records kvs = false := by
    rw [← Bool.not_eq_true]
    intro hsigned
    exact hunauthorized kvs rfl ⟨chainSignatureError_of_payloadBlocks hraws, hsigned⟩
  rw [h]
  cases hsaves with
  | adopt hremote hadopt =>
    -- without authority only the stale branch adopts
    rw [adoptAuthoritativeRemoteFork] at hadopt
    split at hadopt
    next hfirst _ _ =>
      have hne : saved ≠ [] := fun hnil => by rw [hnil] at hfirst; cases hfirst
      rw [if_neg fun hboth => hstale ⟨hboth.2, kvs, raws, saved, rfl, hraws, hremote, hne⟩,
        if_pos hunsigned] at hadopt
      cases hadopt
    next => cases hadopt
  | @extend sorted st hguard hsorted hst himported hvalid =>
    obtain ⟨new, hblocks, hcount, hread, hnodup, hfresh⟩ := importBlocks_spec rfl hst
    have hraw : ∀ raw ∈ sorted, raw ∈ raws := fun raw hraw =>
      (sortRawBlocks_eq_ok hsorted).1.mem_iff.mp hraw
    have hzero : ∀ b ∈ new, b.height = 0 := by
      intro b hb
      obtain ⟨raw, hmem, read, hremote, hsame⟩ := hread b hb
      have hle := height_le_zero_of_genesisOnly (hguard hunsigned) raw (hraw raw hmem) read hremote
      have hge := height_nonneg_of_accepted hvalid b (hblocks ▸ mem_append_right _ hb)
      have := hsame.height
      omega
    have hblocks' : st.blocks = loc ++ new := hblocks
    rcases new with - | ⟨genesis, - | ⟨other, new⟩⟩
    · exact absurd hcount himported
    · right
      have hheight := hzero genesis mem_cons_self
      refine ⟨genesis, hheight, ?_, ?_, by rw [hblocks']⟩
      · -- the block at height zero of an accepted list comes first
        rw [hblocks'] at hvalid
        have hmem : genesis ∈ sortBlocks (sortBlocks (loc ++ [genesis])) :=
          (mem_insertionSort blockLe).mpr ((mem_insertionSort blockLe).mpr
            (mem_append_right _ (mem_singleton_self _)))
        have hwell := ((validateChainBlocks_eq_nil_iff (by
          intro hnil; rw [hnil] at hmem; cases hmem)).mp hvalid).1
        obtain ⟨before, after, heq⟩ := append_of_mem hmem
        have hlength := hwell.height_eq before after genesis heq
        have hbefore : before = [] := by
          rw [← length_eq_zero_iff]
          omega
        subst hbefore
        exact (hwell [] genesis after heq).linked.2.2
      · intro b hb hb0
        apply hfresh genesis mem_cons_self
        rw [hheight, ← hb0]
        exact mem_map_of_mem hb
    · -- two new blocks would share the height zero
      have hsame : genesis.height = other.height := by
        rw [hzero genesis (by simp), hzero other (by simp)]
      simp [hsame] at hnodup

/-! ### Payloads whose blocks are known -/

/-- The hash of a raw block does not depend on the clock. -/
theorem blockHash_of_read {clock clock' : Json → Timestamp} {raw : Json} {b b' : ChainBlock}
    (h : remoteBlock? host policy clock raw = some b)
    (h' : remoteBlock? host policy clock' raw = some b') : b.blockHash = b'.blockHash := by
  obtain ⟨-, -, kvs, v, rfl, -, -, hhash⟩ := remoteBlock?_eq_some h
  obtain ⟨-, -, _, v', hkvs, -, -, hhash'⟩ := remoteBlock?_eq_some h'
  cases hkvs
  rw [hhash, hhash']

theorem not_stale_of_head {loc : Chain} (hfirst : ∀ b ∈ loc.head?, b.blockHash =
      expectedGenesisHash host (moneyPolicyForWalletPolicy host policy)) :
    isStaleGenesisOnlyChain loc (policyGenesis host policy) = false := by
  rcases loc with - | ⟨first, - | ⟨second, rest⟩⟩
  · rfl
  · rw [isStaleGenesisOnlyChain]
    exact if_pos (.inr (.inr (.inr (hfirst first rfl))))
  · rfl

/-- A local chain over the policy's genesis is not replaced as a whole without authority, nor by a
remote chain that contains its tip. -/
theorem adopt_eq_none {remote loc : Chain} {signed : Bool} (hfirst : ∀ b ∈ loc.head?, b.blockHash =
      expectedGenesisHash host (moneyPolicyForWalletPolicy host policy))
    (htip : signed = true → remote ≠ [] → ∀ tip ∈ loc.getLast?,
      strip tip.blockHash ∈ remote.map ChainBlock.blockHash) :
    adoptAuthoritativeRemoteFork host policy remote loc signed = none := by
  rw [adoptAuthoritativeRemoteFork]
  split
  next remoteFirst localFirst tip hremote hlocal hlast =>
    have hstale := not_stale_of_head hfirst
    rw [policyGenesis] at hstale
    rw [if_neg (fun h => by rw [hstale] at h; cases h.2)]
    split
    · rfl
    next hsigned =>
    have hmem := htip (by simpa using hsigned) (by rintro rfl; cases hremote) tip hlast
    rw [if_pos hmem]
    split <;> rfl
  next => rfl

/-- **A payload whose blocks are all known changes nothing.** -/
theorem merge_known {records : List ValidatorRecord} {clock : Json → Timestamp}
    {kvs : Fields} {raws : List Json} {file : ChainFile} {loc : Chain}
    (hraws : payloadBlocks host policy kvs = .ok raws)
    (hloc : listChainBlocks host policy clock file = .ok loc)
    (hfirst : ∀ b ∈ loc.head?, b.blockHash =
      expectedGenesisHash host (moneyPolicyForWalletPolicy host policy))
    (hknown : ∀ raw ∈ raws, ∀ b, remoteBlock? host policy clock raw = some b →
      b.blockHash ∈ loc.map ChainBlock.blockHash)
    (htip : ∀ remote, coerceValidRemoteChain host policy clock raws = .ok remote → remote ≠ [] →
      ∀ tip ∈ loc.getLast?, strip tip.blockHash ∈ remote.map ChainBlock.blockHash) :
    (mergeRemoteChainPayload host policy records clock (.obj kvs) file).2 = file := by
  rcases mergeRemoteChainPayload_cases records clock (.obj kvs) file with
    ⟨r, h⟩ | ⟨kvs', raws', loc', saved, counts, hkvs, hraws', hloc', hsaves, -⟩
  · rw [h]
  cases hkvs
  rw [hraws] at hraws'
  cases hraws'
  rw [hloc] at hloc'
  cases hloc'
  cases hsaves with
  | adopt hremote hadopt =>
    rw [adopt_eq_none hfirst fun _ => htip _ hremote] at hadopt
    cases hadopt
  | @extend sorted st hguard hsorted hst himported hvalid =>
    have hskip : importBlocks host policy clock (.ofBlocks host loc (0, 0)) sorted =
        .ok (.ofBlocks host loc (0, 0)) := by
      apply importBlocks_known
      intro raw hraw b hb
      rw [mem_heightsByHash]
      obtain ⟨c, hc, heq⟩ := mem_map.mp
        (hknown raw ((sortRawBlocks_eq_ok hsorted).1.mem_iff.mp hraw) b hb)
      exact ⟨c, hc, heq ▸ (remoteBlock?_eq_some hb).2.1, heq⟩
    rw [hskip] at hst
    cases hst
    exact absurd rfl himported

theorem WellFormed.head_hash {blocks : Chain} (h : WellFormed host policy blocks) :
    ∀ b ∈ blocks.head?, b.blockHash =
      expectedGenesisHash host (moneyPolicyForWalletPolicy host policy) := by
  intro b hb
  obtain ⟨rest, rfl⟩ := head?_eq_some_iff.mp hb
  exact (h [] b rest rfl).linked.2.2

theorem WellFormed.strip_hash {blocks : Chain} (h : WellFormed host policy blocks)
    {b : ChainBlock} (hb : b ∈ blocks) : strip b.blockHash = b.blockHash := by
  obtain ⟨before, after, heq⟩ := append_of_mem hb
  rw [← (h before b after heq).hash_eq, computeBlockHash, strip_canonicalHash]

/-- A valid remote chain that misses the local tip is adopted with authority. -/
theorem adopt_fork {remote loc : Chain} (hremote : WellFormed host policy remote)
    (hloc : WellFormed host policy loc) (hne : remote ≠ [])
    {tip : ChainBlock} (htip : loc.getLast? = some tip)
    (hmiss : tip.blockHash ∉ remote.map ChainBlock.blockHash) :
    ∃ counts, adoptAuthoritativeRemoteFork host policy remote loc true = some counts := by
  obtain ⟨remoteFirst, hremoteFirst⟩ : ∃ b, remote.head? = some b := by
    cases remote with
    | nil => exact absurd rfl hne
    | cons b bs => exact ⟨b, rfl⟩
  obtain ⟨localFirst, hlocalFirst⟩ : ∃ b, loc.head? = some b := by
    cases loc with
    | nil => cases htip
    | cons b bs => exact ⟨b, rfl⟩
  have hsame : remoteFirst.blockHash = localFirst.blockHash := by
    rw [hremote.head_hash remoteFirst hremoteFirst, hloc.head_hash localFirst hlocalFirst]
  have hstrip : strip tip.blockHash ∉ remote.map ChainBlock.blockHash := by
    rw [hloc.strip_hash (mem_of_getLast? htip)]
    exact hmiss
  rw [adoptAuthoritativeRemoteFork, hremoteFirst, hlocalFirst, htip]
  simp only [hsame, hstrip, Bool.true_eq_false, ne_eq, not_true_eq_false, if_false]
  split <;> exact ⟨_, rfl⟩

/-! ### Stale genesis blocks -/

theorem stale_of_isStaleGenesisOnlyChain {loc : Chain} {expected : ChainBlock}
    (h : isStaleGenesisOnlyChain loc expected = true) :
    ∃ block, loc = [block] ∧ block.height = 0 ∧ block.blockHash ≠ expected.blockHash := by
  unfold isStaleGenesisOnlyChain at h
  split at h
  next block =>
    split at h
    next => cases h
    next hcond =>
      simp only [not_or, not_not] at hcond
      exact ⟨block, rfl, hcond.1, hcond.2.2.2⟩
  next => cases h

/-- A valid chain replaces a stale genesis block, signed or not. -/
theorem adopt_stale {remote loc : Chain} {signed : Bool} (hremote : WellFormed host policy remote)
    (hne : remote ≠ []) (hstale : isStaleGenesisOnlyChain loc (policyGenesis host policy) = true) :
    ∃ counts, adoptAuthoritativeRemoteFork host policy remote loc signed = some counts := by
  obtain ⟨block, rfl, -, -⟩ := stale_of_isStaleGenesisOnlyChain hstale
  obtain ⟨first, rest, rfl⟩ := exists_cons_of_ne_nil hne
  exact ⟨_, if_pos ⟨hremote.head_hash first rfl, hstale⟩⟩

/-! ### Payloads that hold a prefix of the local chain -/

section Read

variable {records : List ValidatorRecord} {clock : Json → Timestamp} {kvs : Fields}
  {raws sorted : List Json} {file : ChainFile} {loc remote : Chain}

theorem exists_read (hsorted : sortRawBlocks host raws = .ok sorted)
    (hread : List.Forall₂ (ReadsAs host policy clock) sorted remote) {raw : Json}
    (hraw : raw ∈ raws) : ∃ b ∈ remote, ReadsAs host policy clock raw b :=
  exists_of_mem_forall₂ hread.flip ((sortRawBlocks_eq_ok hsorted).1.mem_iff.mpr hraw)

theorem raws_ne_nil (hsorted : sortRawBlocks host raws = .ok sorted)
    (hread : List.Forall₂ (ReadsAs host policy clock) sorted remote) (hne : remote ≠ []) :
    raws ≠ [] := by
  rintro rfl
  have hnil := (sortRawBlocks_eq_ok hsorted).1.eq_nil
  subst hnil
  cases hread
  exact hne rfl

theorem dated_of_readsAs (hread : List.Forall₂ (ReadsAs host policy clock) sorted remote) :
    ∀ b ∈ remote, Dated b := by
  intro b hb
  obtain ⟨raw, -, hraw⟩ := exists_of_mem_forall₂ hread hb
  exact (remoteBlock?_eq_some hraw.read).1

/-- **What a payload without authority can change**: at most that a chain without a block at height
zero gets the policy's genesis block, exactly when the local chain is not a lone stale genesis block
or the payload holds no valid chain. -/
theorem merge_unauthorized (records : List ValidatorRecord) (clock : Json → Timestamp)
    (payload : Json) (file : ChainFile) (loc : List ChainBlock)
    (hloc : listChainBlocks host policy clock file = .ok loc)
    (hunauthorized : ∀ kvs, payload = .obj kvs →
      ¬AuthorizesRemoteChain host policy loc records kvs) :
    GainsGenesisAtMost host policy file loc
        (mergeRemoteChainPayload host policy records clock payload file).2 ↔
      ¬(isStaleGenesisOnlyChain loc (policyGenesis host policy) = true ∧
        HoldsValidChain host policy clock payload) := by
  refine ⟨?_, gainsGenesisAtMost_of_unauthorized hloc hunauthorized⟩
  rintro hgains ⟨hstale, kvs, raws, remote, rfl, hraws, hremote, hne⟩
  obtain ⟨block, rfl, hheight, hhash⟩ := stale_of_isStaleGenesisOnlyChain hstale
  obtain ⟨sorted, hsorted, hread, haccepted⟩ := coerceValidRemoteChain_eq_ok hremote hne
  have hreads := readsAs_of_coerceRemoteBlocks hread
  have hwell := (wellFormed_of_readsAs hsorted hreads haccepted hne).1
  obtain ⟨counts, hadopt⟩ := @adopt_stale _ _ _ _
    (chainPayloadSignedByBondedValidator host policy [block] records kvs) hwell hne hstale
  rw [merge_adopts hraws (raws_ne_nil hsorted hreads hne) hloc hremote hadopt] at hgains
  rcases hgains with hsame | ⟨genesis, -, -, hloc0, -⟩
  · -- the file is read as another chain: its first block has the policy's hash
    dsimp only at hsame
    rw [← hsame, listChainBlocks_save_accepted haccepted (dated_of_readsAs hreads),
      hwell.sortBlocks_eq, Except.ok.injEq] at hloc
    obtain ⟨first, rest, rfl⟩ := exists_cons_of_ne_nil hne
    rw [map_cons, cons_eq_cons] at hloc
    apply hhash
    rw [← hloc.1]
    exact hwell.head_hash first rfl
  · exact hloc0 block (mem_singleton_self _) hheight

/-- **An authorised payload that holds a prefix of a valid local chain** leaves the chain alone
exactly when the prefix is empty, is the whole chain, or is refused by the validator. -/
theorem merge_prefix_iff (hloc : listChainBlocks host policy clock file = .ok loc)
    (hvalid : validateChainBlocks host policy loc = .ok [])
    (hraws : payloadBlocks host policy kvs = .ok raws)
    (hsorted : sortRawBlocks host raws = .ok sorted)
    (hread : coerceRemoteBlocks host policy clock sorted = .ok (some remote))
    (hpre : remote <+: loc)
    (hauthorized : chainPayloadSignedByBondedValidator host policy loc records kvs = true) :
    listChainBlocks host policy clock
        (mergeRemoteChainPayload host policy records clock (.obj kvs) file).2 = .ok loc ↔
      remote = [] ∨ remote = loc ∨ validateChainBlocks host policy remote ≠ .ok [] := by
  have hwell := wellFormed_of_listed hloc hvalid
  have hreads := readsAs_of_coerceRemoteBlocks hread
  constructor
  · intro hunchanged
    by_contra hcond
    simp only [not_or, not_not] at hcond
    obtain ⟨hne, hstrict, haccepted⟩ := hcond
    -- the local tip is beyond the prefix, so the prefix is adopted as a fork
    obtain ⟨rest, rfl⟩ := hpre
    have hrest : rest ≠ [] := by
      rintro rfl
      exact hstrict (append_nil _).symm
    obtain ⟨tip, htip⟩ : ∃ tip, (remote ++ rest).getLast? = some tip :=
      ⟨_, getLast?_eq_some_getLast (append_ne_nil_of_right_ne_nil _ hrest)⟩
    have hmiss : tip.blockHash ∉ remote.map ChainBlock.blockHash := by
      have htipRest : tip ∈ rest := by
        rw [getLast?_append_of_ne_nil _ hrest] at htip
        exact mem_of_getLast? htip
      have hnodup := hwell.blockHash_nodup
      rw [map_append, nodup_append] at hnodup
      exact fun hmem => hnodup.2.2 _ hmem _ (mem_map_of_mem htipRest) rfl
    obtain ⟨counts, hadopt⟩ := adopt_fork hwell.of_append hwell hne htip hmiss
    rw [merge_adopts hraws (raws_ne_nil hsorted hreads hne) hloc
        (coerceValidRemoteChain_of_read hsorted hread haccepted) (hauthorized ▸ hadopt)]
      at hunchanged
    dsimp only at hunchanged
    rw [if_pos rfl, listChainBlocks_save_accepted haccepted (dated_of_readsAs hreads),
      hwell.of_append.sortBlocks_eq, Except.ok.injEq] at hunchanged
    have hlength := congrArg List.length hunchanged
    rw [length_map, length_append] at hlength
    exact hrest (length_eq_zero_iff.mp (by omega))
  · intro hcond
    rw [merge_known hraws hloc hwell.head_hash]
    · exact hloc
    · intro raw hraw b hb
      obtain ⟨c, hc, hcread⟩ := exists_read hsorted hreads hraw
      rw [blockHash_of_read hb hcread.read]
      exact mem_map_of_mem (hpre.subset hc)
    · intro adopted hadopted hne tip htip
      obtain ⟨sorted', hsorted', hread', haccepted⟩ := coerceValidRemoteChain_eq_ok hadopted hne
      rw [hsorted, Except.ok.injEq] at hsorted'
      subst hsorted'
      rw [hread, Except.ok.injEq, Option.some.injEq] at hread'
      subst hread'
      rcases hcond with hnil | rfl | hrefused
      · exact absurd hnil hne
      · rw [hwell.strip_hash (mem_of_getLast? htip)]
        exact mem_map_of_mem (mem_of_getLast? htip)
      · exact absurd haccepted hrefused

end Read

/-- The signature of the trusted validator. -/
def sampleSignature : Fields :=
  sampleRecord "YQ==" [("public_key_address", .str "ca978112ca1bbdcafac231b39a23dc4d")]

/-- The payload of a chain, signed by the trusted validator. -/
def sampleSignedPayload (blocks : Chain) : Fields :=
  exportedPayload sampleHost samplePolicy genesisCreatedAt blocks ++
    [("signature", .obj sampleSignature)]

/-- The signature passes over every body, the host's verification being constant. -/
theorem sampleSignature_verified {kvs : Fields} :
    verifySignatureRecord sampleHost "chain" false kvs sampleSignature = none := by
  rfl

theorem sampleSignedPayload_verified (blocks : Chain) :
    chainSignatureError sampleHost samplePolicy (sampleSignedPayload blocks) = none := by
  have hsignature : Json.getD (sampleSignedPayload blocks) "signature" = .obj sampleSignature := rfl
  rw [chainSignatureError, verifyPeerPayloadSignature, hsignature]
  exact sampleSignature_verified

theorem sampleSignedPayload_signed (loc blocks : Chain) :
    chainPayloadSignedByBondedValidator sampleHost samplePolicy loc []
      (sampleSignedPayload blocks) = true :=
  rfl

/-- A signed payload of a chain over the sample genesis block passes the first checks. -/
theorem sampleSignedPayload_blocks (rest : Chain) :
    payloadBlocks sampleHost samplePolicy (sampleSignedPayload (sampleGenesis :: rest)) =
      .ok ((sampleGenesis :: rest).map asdictBlock) := by
  apply payloadBlocks_exported genesisCreatedAt rest rfl rfl
  · intro e he
    rw [mem_singleton.mp he]
  · exact sampleSignedPayload_verified (sampleGenesis :: rest)

theorem BlockStorable.withHash {block : ChainBlock} {hash : String} (h : BlockStorable block)
    (hhash : hash ≠ "") : BlockStorable { block with blockHash := hash } :=
  { h with blockHash := hhash }

/-- What is read from the records of the sample genesis block. -/
theorem sampleGenesis_read {clock : Json → Timestamp} :
    coerceValidRemoteChain sampleHost samplePolicy clock ([sampleGenesis].map asdictBlock) =
      .ok [sampleGenesis] := by
  obtain ⟨hsorted, hread⟩ := @coerceRemoteBlocks_export sampleHost samplePolicy clock _
    sampleGenesis_wellFormed
    (fun b hb => mem_singleton.mp hb ▸ policyGenesis_dated _ _) sampleGenesis_stable
  exact coerceValidRemoteChain_of_read hsorted hread
    (policyGenesis_accepted _ _ sampleGenesis_idsDistinct)

/-- The sample chain. -/
def sampleChain : Chain := [sampleGenesis, sampleFirst, sampleSecond]

theorem sampleChain_dated : ∀ b ∈ sampleChain, Dated b := by
  intro b hb
  rcases mem_cons.mp hb with rfl | hb
  · exact policyGenesis_dated _ _
  have hdate : ("2026-01-02T00:00:00+00:00" : String) ≠ "" := by decide
  simp only [mem_cons, not_mem_nil, or_false] at hb
  rcases hb with rfl | rfl
  all_goals
    refine ⟨hdate, ?_⟩
    simp only [sampleFirst, sampleSecond, ChainBlock.seal, sampleDraft, forall_mem_cons]
    exact ⟨hdate, by first | exact ⟨hdate, hdate, by simp⟩ | exact ⟨hdate, by simp⟩⟩

theorem sampleChain_stable : StableChain sampleHost sampleChain := by
  have haddress : ∀ tx ∈ sampleFirst.transactions ++ sampleSecond.transactions,
      tx.address ∈ ["c4", "dd", "ee"] ∧ tx.counterpartyAddress = none := by
    show ∀ tx ∈ [sampleForgedDebit, sampleTransaction "d2" "dd" 2, sampleTransaction "d3" "ee" (-1),
      sampleTransaction "d4" "ee" 1, sampleTransaction "d5" "dd" (-1)], _
    decide
  have hnormal : ∀ a ∈ ["c4", "dd", "ee"], sampleHost.normalizeAddress a = a := by decide
  intro b hb tx htx
  simp only [sampleChain, mem_cons, not_mem_nil, or_false] at hb
  rcases hb with rfl | rfl | rfl
  · exact sampleGenesis_stable _ (mem_singleton_self _) tx htx
  · obtain ⟨ha, hc⟩ := haddress tx (mem_append_left _ htx)
    exact transactionStable_of_address (hnormal _ ha) hc
  · obtain ⟨ha, hc⟩ := haddress tx (mem_append_right _ htx)
    exact transactionStable_of_address (hnormal _ ha) hc

theorem sampleChain_listed :
    listChainBlocks sampleHost samplePolicy clock (saveChainBlocks sampleChain) =
      .ok sampleChain := by
  have hwell : WellFormed sampleHost samplePolicy sampleChain := sampleChain_wellFormed
  have haccepted : validateChainBlocks sampleHost samplePolicy sampleChain = .ok [] :=
    sampleChain_accepted
  exact listChainBlocks_save_stable haccepted sampleChain_dated hwell sampleChain_stable

theorem sampleChain_read :
    coerceValidRemoteChain sampleHost samplePolicy clock (sampleChain.map asdictBlock) =
      .ok sampleChain := by
  obtain ⟨hsorted, hread⟩ := @coerceRemoteBlocks_export sampleHost samplePolicy clock _
    sampleChain_wellFormed sampleChain_dated sampleChain_stable
  exact coerceValidRemoteChain_of_read hsorted hread sampleChain_accepted

/-- The sample chain without a signature. -/
def sampleUnsignedPayload : Fields :=
  exportedPayload sampleHost samplePolicy genesisCreatedAt sampleChain

theorem sampleUnsignedPayload_unauthorized (loc : Chain) :
    ¬AuthorizesRemoteChain sampleHost samplePolicy loc [] sampleUnsignedPayload :=
  fun h => absurd h.2 (by rw [chainPayloadSignedByBondedValidator]; exact Bool.false_ne_true)

theorem sampleUnsignedPayload_blocks : payloadBlocks sampleHost samplePolicy sampleUnsignedPayload =
    .ok (sampleChain.map asdictBlock) := by
  have hblocks := @payloadBlocks_exported sampleHost samplePolicy genesisCreatedAt sampleGenesis
    [sampleFirst, sampleSecond] [] rfl rfl (fun e he => by cases he) rfl
  rwa [append_nil] at hblocks

/-- The unsigned chain offered to a node that has its genesis block. -/
theorem merge_unauthorized_genesis :
    listChainBlocks sampleHost samplePolicy sampleClock (saveChainBlocks [sampleGenesis]) =
        .ok [sampleGenesis] ∧
      HoldsValidChain sampleHost samplePolicy sampleClock (.obj sampleUnsignedPayload) ∧
      GainsGenesisAtMost sampleHost samplePolicy (saveChainBlocks [sampleGenesis]) [sampleGenesis]
        (mergeRemoteChainPayload sampleHost samplePolicy [] sampleClock
          (.obj sampleUnsignedPayload) (saveChainBlocks [sampleGenesis])).2 := by
  have hloc : listChainBlocks sampleHost samplePolicy sampleClock
      (saveChainBlocks [sampleGenesis]) = .ok [sampleGenesis] :=
    listChainBlocks_save_stable (policyGenesis_accepted _ _ sampleGenesis_idsDistinct)
      (fun b hb => mem_singleton.mp hb ▸ policyGenesis_dated _ _) sampleGenesis_wellFormed
      sampleGenesis_stable
  refine ⟨hloc, ⟨_, _, sampleChain, rfl, sampleUnsignedPayload_blocks, sampleChain_read,
    cons_ne_nil _ _⟩, ?_⟩
  refine (merge_unauthorized [] sampleClock _ _ _ hloc fun kvs hkvs => ?_).mpr fun h => ?_
  · cases hkvs
    exact sampleUnsignedPayload_unauthorized _
  · rw [not_stale_of_head sampleGenesis_wellFormed.head_hash] at h
    cases h.1

/-- A lone genesis block of another policy. -/
def sampleStale : ChainBlock := { sampleGenesis with blockHash := "stale" }

/-- An unsigned payload replaces a lone stale genesis block by a chain of three blocks. -/
theorem merge_unauthorized_stale :
    listChainBlocks sampleHost samplePolicy sampleClock (saveChainBlocks [sampleStale]) =
        .ok [sampleStale] ∧
      ¬AuthorizesRemoteChain sampleHost samplePolicy [sampleStale] [] sampleUnsignedPayload ∧
      (mergeRemoteChainPayload sampleHost samplePolicy [] sampleClock
        (.obj sampleUnsignedPayload) (saveChainBlocks [sampleStale])).2 =
          saveChainBlocks sampleChain := by
  have hlisted : listChainBlocks sampleHost samplePolicy sampleClock
      (saveChainBlocks [sampleStale]) = .ok [sampleStale] := by
    have hstorable := sampleGenesis_wellFormed.storable
      (fun b hb => mem_singleton.mp hb ▸ policyGenesis_dated _ _) sampleGenesis
      (mem_singleton_self _)
    rw [listChainBlocks_save]
    · show Except.ok [rereadBlock sampleHost sampleStale] = _
      rw [rereadBlock_eq_self]
      exact sampleGenesis_stable sampleGenesis (mem_singleton_self _)
    · intro b hb
      exact mem_singleton.mp hb ▸ hstorable.withHash (by decide)
  have hstale : isStaleGenesisOnlyChain [sampleStale] sampleGenesis = true := by
    rw [isStaleGenesisOnlyChain, if_neg]
    · show sampleGenesis.transactions.all _ = true
      rw [show sampleGenesis.transactions = sampleGenesisTransactions from
        sampleGenesis_transactions]
      decide
    · rintro (h | h | h | h)
      · exact h rfl
      · exact h rfl
      · cases h
      · rw [sampleGenesis_blockHash] at h
        revert h
        decide
  obtain ⟨counts, hadopt⟩ := @adopt_stale sampleHost samplePolicy sampleChain [sampleStale]
    (chainPayloadSignedByBondedValidator sampleHost samplePolicy [sampleStale] []
      sampleUnsignedPayload) sampleChain_wellFormed (cons_ne_nil _ _) hstale
  refine ⟨hlisted, sampleUnsignedPayload_unauthorized _, ?_⟩
  rw [merge_adopts sampleUnsignedPayload_blocks (cons_ne_nil _ _) hlisted sampleChain_read hadopt]

/-- The payload of the whole sample chain, merged into that chain. -/
theorem merge_prefix_sample : listChainBlocks sampleHost samplePolicy sampleClock
        (mergeRemoteChainPayload sampleHost samplePolicy [] sampleClock
          (.obj (sampleSignedPayload sampleChain)) (saveChainBlocks sampleChain)).2 =
      .ok sampleChain := by
  obtain ⟨hsorted, hread⟩ := @coerceRemoteBlocks_export sampleHost samplePolicy sampleClock _
    sampleChain_wellFormed sampleChain_dated sampleChain_stable
  exact (merge_prefix_iff sampleChain_listed sampleChain_accepted
    (sampleSignedPayload_blocks _) hsorted hread (prefix_refl _)
    (sampleSignedPayload_signed _ _)).mpr (.inr (.inl rfl))

/-- An old payload of the trusted validator, with the genesis block alone, removes the two
blocks that extend it. -/
theorem merge_prefix_rollback :
    listChainBlocks sampleHost samplePolicy sampleClock (saveChainBlocks sampleChain) =
        .ok sampleChain ∧
      validateChainBlocks sampleHost samplePolicy sampleChain = .ok [] ∧
      AuthorizesRemoteChain sampleHost samplePolicy sampleChain []
        (sampleSignedPayload [sampleGenesis]) ∧
      coerceValidRemoteChain sampleHost samplePolicy sampleClock
        ([sampleGenesis].map asdictBlock) = .ok [sampleGenesis] ∧
      (mergeRemoteChainPayload sampleHost samplePolicy [] sampleClock
        (.obj (sampleSignedPayload [sampleGenesis])) (saveChainBlocks sampleChain)).2 =
          saveChainBlocks [sampleGenesis] := by
  refine ⟨sampleChain_listed, sampleChain_accepted,
    ⟨sampleSignedPayload_verified _, sampleSignedPayload_signed _ _⟩, sampleGenesis_read, ?_⟩
  have hmiss : sampleSecond.blockHash ∉ [sampleGenesis].map ChainBlock.blockHash := by
    rw [map_singleton, sampleSecond_blockHash, sampleGenesis_blockHash]
    decide
  obtain ⟨counts, hadopt⟩ := @adopt_fork sampleHost samplePolicy _ sampleChain
    sampleGenesis_wellFormed sampleChain_wellFormed (cons_ne_nil _ _) sampleSecond rfl hmiss
  rw [merge_adopts (sampleSignedPayload_blocks _) (cons_ne_nil _ _) sampleChain_listed
    sampleGenesis_read ((sampleSignedPayload_signed _ _).symm ▸ hadopt)]

end CaiNetwork
