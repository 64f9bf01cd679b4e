/-
CaiNetwork/Convergence.lean

What merging an authorised valid chain leads to.

A chain that extends the local one replaces it block for block, as long as its transactions
survive being written and read (`merge_extension_iff`).  Merging the payload again changes
nothing (`mergeAgain_known`): a raw block gives a block of the same hash at every reading, and
the hashes of the saved chain are those of the remote one.
-/

import CaiNetwork.MergeSafety
import CaiNetwork.Reread

namespace CaiNetwork

open List

variable {host : Host} {policy : WalletPolicy}

/-! ### Merging again -/

/-- The file after merging one payload again and again, each time with the registry and the
clock of that moment. -/
def mergeAgain (host : Host) (policy : WalletPolicy) (payload : Json) (file : ChainFile)
    (again : List (List ValidatorRecord × (Json → Timestamp))) : ChainFile :=
  again.foldl
    (fun file step => (mergeRemoteChainPayload host policy step.1 step.2 payload file).2) file

section Read

variable {records : List ValidatorRecord} {clock clock' : Json → Timestamp}
  {kvs : Fields} {raws sorted : List Json} {file : ChainFile}
  {loc remote remote' ext : Chain}

/-- Two readings of the same raw blocks have the same hashes. -/
theorem hashes_of_readsAs (h : List.Forall₂ (ReadsAs host policy clock) sorted remote)
    (h' : List.Forall₂ (ReadsAs host policy clock') sorted remote') :
    remote.map ChainBlock.blockHash = remote'.map ChainBlock.blockHash := by
  induction h generalizing remote' with
  | nil =>
    cases h'
    rfl
  | cons hblock _ ih =>
    cases h' with
    | cons hblock' hrest =>
      rw [map_cons, map_cons, blockHash_of_read hblock.read hblock'.read, ih hrest]

/-- **A payload with the hashes of the local chain never changes it again.** -/
theorem mergeAgain_known (hraws : payloadBlocks host policy kvs = .ok raws)
    (hsorted : sortRawBlocks host raws = .ok sorted)
    (hread : List.Forall₂ (ReadsAs host policy clock) sorted remote)
    (hwell : WellFormed host policy remote)
    (hloc : ∀ clock, listChainBlocks host policy clock file = .ok loc)
    (hhashes : loc.map ChainBlock.blockHash = remote.map ChainBlock.blockHash)
    (again : List (List ValidatorRecord × (Json → Timestamp))) :
    mergeAgain host policy (.obj kvs) file again = file := by
  have hmem : ∀ b ∈ loc, ∃ c ∈ remote, c.blockHash = b.blockHash := by
    intro b hb
    exact mem_map.mp (hhashes ▸ mem_map_of_mem hb)
  have hstep : ∀ step : List ValidatorRecord × (Json → Timestamp),
      (mergeRemoteChainPayload host policy step.1 step.2 (.obj kvs) file).2 = file := by
    intro step
    apply merge_known hraws (hloc step.2)
    · intro b hb
      have hheads := congrArg List.head? hhashes
      rw [head?_map, head?_map, Option.mem_def.mp hb] at hheads
      obtain ⟨c, hc, hcb⟩ := Option.map_eq_some_iff.mp hheads.symm
      rw [← hcb, hwell.head_hash c hc]
    · intro raw hraw b hb
      obtain ⟨c, hc, hcread⟩ := exists_read hsorted hread hraw
      rw [blockHash_of_read hb hcread.read, hhashes]
      exact mem_map_of_mem hc
    · intro adopted hadopted hne tip htip
      obtain ⟨sorted', hsorted', hread', -⟩ := coerceValidRemoteChain_eq_ok hadopted hne
      rw [hsorted, Except.ok.injEq] at hsorted'
      subst hsorted'
      obtain ⟨c, hc, hctip⟩ := hmem tip (mem_of_getLast? htip)
      rw [← hctip, hwell.strip_hash hc,
        hashes_of_readsAs (readsAs_of_coerceRemoteBlocks hread') hread]
      exact mem_map_of_mem hc
  induction again with
  | nil => rfl
  | cons step again ih =>
    rw [mergeAgain, foldl_cons, hstep step]
    exact ih

/-! ### Extensions and forks -/

/-- **An authorised extension is imported block by block and saved as a whole.** -/
theorem merge_extension (hloc : listChainBlocks host policy clock file = .ok loc)
    (hraws : payloadBlocks host policy kvs = .ok raws)
    (hsorted : sortRawBlocks host raws = .ok sorted)
    (hread : coerceRemoteBlocks host policy clock sorted = .ok (some (loc ++ ext)))
    (hext : ext ≠ []) (haccepted : validateChainBlocks host policy (loc ++ ext) = .ok [])
    (hwell : WellFormed host policy (loc ++ ext))
    (hauthorized : chainPayloadSignedByBondedValidator host policy loc records kvs = true) :
    ∃ counts, mergeRemoteChainPayload host policy records clock (.obj kvs) file =
      (.ok counts, saveChainBlocks (loc ++ ext)) := by
  have hreads := readsAs_of_coerceRemoteBlocks hread
  -- the raw blocks of the local part are skipped, the others extend it
  obtain ⟨known, new, hknown, hnew, rfl⟩ : ∃ known new,
      List.Forall₂ (ReadsAs host policy clock) known loc ∧
      List.Forall₂ (ReadsAs host policy clock) new ext ∧ sorted = known ++ new :=
    ⟨_, _, forall₂_take_append _ _ _ hreads, forall₂_drop_append _ _ _ hreads,
      (take_append_drop _ _).symm⟩
  have hskip : importBlocks host policy clock (.ofBlocks host loc (0, 0)) known =
      .ok (.ofBlocks host loc (0, 0)) := by
    apply importBlocks_known
    intro raw hraw b hb
    obtain ⟨c, hc, hcread⟩ := exists_of_mem_forall₂ hknown.flip hraw
    rw [mem_heightsByHash]
    exact ⟨c, hc, blockHash_of_read hb hcread.read ▸ (remoteBlock?_eq_some hb).2.1,
      (blockHash_of_read hb hcread.read).symm⟩
  obtain ⟨imported, hrun⟩ := @importBlocks_extension host policy clock new ext hnew loc (0, 0) hwell
  have hst : importBlocks host policy clock (.ofBlocks host loc (0, 0)) (known ++ new) =
      .ok (.ofBlocks host (loc ++ ext) (0 + ext.length, imported)) := by
    rw [importBlocks_append, hskip]
    exact hrun
  have himport : importRemoteBlocks host policy clock raws loc =
      .ok ⟨(0 + ext.length, imported), some (loc ++ ext)⟩ := by
    rw [importRemoteBlocks]
    refine bind_eq_ok.mpr ⟨_, hsorted, bind_eq_ok.mpr ⟨_, hst, ?_⟩⟩
    have hlength : (MergeState.ofBlocks host (loc ++ ext)
        (0 + ext.length, imported)).importedBlocks ≠ 0 := by
      show 0 + ext.length ≠ 0
      rw [Nat.zero_add]
      exact fun h => hext (length_eq_zero_iff.mp h)
    have hsame : sortBlocks (MergeState.ofBlocks host (loc ++ ext)
        (0 + ext.length, imported)).blocks = loc ++ ext := hwell.sortBlocks_eq
    rw [if_neg hlength, hsame, haccepted]
    rfl
  have hadopt : adoptAuthoritativeRemoteFork host policy (loc ++ ext) loc true = none := by
    apply adopt_eq_none hwell.of_append.head_hash
    intro _ _ tip htip
    have htipLoc := mem_of_getLast? htip
    rw [hwell.of_append.strip_hash htipLoc]
    exact mem_map_of_mem (mem_append_left _ htipLoc)
  have hplan : mergePlan host policy records clock (.obj kvs) file =
      .ok ⟨(0 + ext.length, imported), some (loc ++ ext)⟩ := by
    rw [mergePlan]
    refine bind_eq_ok.mpr ⟨raws, hraws, ?_⟩
    rw [if_neg (raws_ne_nil hsorted hreads (append_ne_nil_of_right_ne_nil _ hext)), mergeBlocks]
    refine bind_eq_ok.mpr ⟨loc, hloc, bind_eq_ok.mpr
      ⟨_, coerceValidRemoteChain_of_read hsorted hread haccepted, ?_⟩⟩
    dsimp only
    rw [if_pos rfl, hauthorized, hadopt]
    exact himport
  refine ⟨(0 + ext.length, imported), ?_⟩
  rw [mergeRemoteChainPayload, hplan]

/-- The saved remote chain, as every later moment reads it. -/
theorem listed_of_saved (haccepted : validateChainBlocks host policy remote = .ok [])
    (hdated : ∀ b ∈ remote, Dated b) (hwell : WellFormed host policy remote)
    (clock : Json → Timestamp) : listChainBlocks host policy clock (saveChainBlocks remote) =
      .ok (remote.map (rereadBlock host)) := by
  rw [listChainBlocks_save_accepted haccepted hdated, hwell.sortBlocks_eq]

theorem mergeAgain_saved (hraws : payloadBlocks host policy kvs = .ok raws)
    (hsorted : sortRawBlocks host raws = .ok sorted)
    (hread : List.Forall₂ (ReadsAs host policy clock) sorted remote)
    (haccepted : validateChainBlocks host policy remote = .ok [])
    (hwell : WellFormed host policy remote)
    (again : List (List ValidatorRecord × (Json → Timestamp))) :
    mergeAgain host policy (.obj kvs) (saveChainBlocks remote) again = saveChainBlocks remote := by
  apply mergeAgain_known hraws hsorted hread hwell
    (listed_of_saved haccepted (dated_of_readsAs hread) hwell)
  rw [map_map]
  rfl

/-- A chain that reads as it was written is stable. -/
theorem stableChain_of_map_reread (h : remote.map (rereadBlock host) = remote) :
    StableChain host remote := by
  intro b hb
  have hblock : rereadBlock host b = id b := map_inj_left.mp (h.trans (map_id _).symm) b hb
  have htxs : b.transactions.map (rereadTransaction host) = b.transactions.map id :=
    (congrArg ChainBlock.transactions hblock).trans (map_id _).symm
  exact map_inj_left.mp htxs

end Read

/-- The payment to an address with a prefix left, as a remote node writes it with one more. -/
def sampleSpelled : ChainBlock :=
  { samplePaid "cai_cai_x" with transactions := samplePayment "cai_cai_cai_x" }

theorem sampleSpelled_reread : rereadBlock sampleHost sampleSpelled = samplePaid "cai_cai_x" :=
  rfl

theorem sampleSpelled_storable (hwell : WellFormed sampleHost samplePolicy
    ([sampleGenesis] ++ [samplePaid "cai_cai_x"])) : BlockStorable sampleSpelled := by
  have hstorable := hwell.storable samplePaid_dated (samplePaid "cai_cai_x") (by simp)
  have hdate : ("2026-01-02T00:00:00+00:00" : String) ≠ "" := by decide
  refine { hstorable with transactions := ?_ }
  show ∀ tx ∈ samplePayment "cai_cai_cai_x", TransactionStorable tx
  simp only [samplePayment, forall_mem_cons]
  refine ⟨⟨hdate, ?_, ?_⟩, ⟨hdate, ?_, ?_⟩, forall_mem_nil _⟩ <;> decide

end CaiNetwork
