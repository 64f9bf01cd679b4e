/-
CaiNetwork/Reread.lean

Reading a chain back after an append.

Reading removes one prefix more from every address, while the stored hashes and roots survive.  So
the validator accepts what is read exactly when the hashed payload survives: when every transaction
is `HashStable` (`reread_accepted_iff`, for an append `append_reread_iff`).  That a changed payload
changes the hash is a hypothesis of the direction that needs it (`NoCollision`).
-/

import CaiNetwork.Export

namespace CaiNetwork

open List

variable {host : Host} {policy : WalletPolicy}

/-! ### What the hash of a block fixes -/

/-- The canonical texts of the two values are no collision of SHA-256. -/
def NoCollision (v w : Json) : Prop :=
  canonicalHash v = canonicalHash w → v.canonical = w.canonical

variable {tx : ChainTransaction}

theorem sortKeys_hashedCounterparty {o : Option String} :
    (hashedCounterparty host o).sortKeys = hashedCounterparty host o := by
  rcases o with - | c
  · rfl
  · rw [hashedCounterparty]
    split <;> rfl

theorem hashStable_of_sortKeys {tx : ChainTransaction}
    (h : (transactionPayload host (rereadTransaction host tx)).sortKeys =
      (transactionPayload host tx).sortKeys) : HashStable host tx := by
  have hfield := Json.lookup_of_canonical_eq (by simp) (by simp) (congrArg Json.render h)
  have haddress : Json.str (host.normalizeAddress (host.normalizeAddress tx.address)) =
      .str (host.normalizeAddress tx.address) := by
    have := hfield "address"
    simpa [lookup_cons, Json.sortKeys, rereadTransaction] using this
  have hcounterparty : hashedCounterparty host (rereadTransaction host tx).counterpartyAddress =
      hashedCounterparty host tx.counterpartyAddress := by
    have := hfield "counterparty_address"
    simpa [lookup_cons, sortKeys_hashedCounterparty] using this
  exact ⟨Json.str.inj haddress, (hashedCounterparty_reread_iff _).mp hcounterparty⟩

theorem Json.sortItems_eq_map {vs : List Json} : sortItems vs = vs.map sortKeys := by
  induction vs with
  | nil => rfl
  | cons v vs ih => rw [sortItems, ih, map_cons]

/-- The canonical text of a block fixes the hashed spelling of its transactions. -/
theorem hashStable_of_canonical {block : ChainBlock}
    (h : (blockHashPayload host (rereadBlock host block)).canonical =
      (blockHashPayload host block).canonical) :
    ∀ tx ∈ block.transactions, HashStable host tx := by
  have hfield := Json.lookup_of_canonical_eq (by simp) (by simp) h "transactions"
  have htxs : (block.transactions.map (rereadTransaction host)).map
      (fun tx => (transactionPayload host tx).sortKeys) =
      block.transactions.map (fun tx => (transactionPayload host tx).sortKeys) := by
    simpa [lookup_cons, Json.sortKeys, Json.sortItems_eq_map, rereadBlock, ChainBlock.respell,
      Function.comp_def] using hfield
  rw [map_map] at htxs
  exact fun tx htx => hashStable_of_sortKeys (map_inj_left.mp htxs tx htx)

theorem TransactionStable.hashStable {tx : ChainTransaction} (h : TransactionStable host tx) :
    HashStable host tx :=
  hashStable_of_sortKeys (by rw [show rereadTransaction host tx = tx from h])

/-! ### Reading a chain back -/

section Reread

variable {blocks : Chain}

/-- **The chain that is read back is accepted exactly when every transaction keeps its hashed
payload.** -/
theorem reread_accepted_iff (hwell : WellFormed host policy blocks)
    (hclosing : ClosingSound host policy blocks) (hne : blocks ≠ []) (hcollision : ∀ b ∈ blocks,
      NoCollision (blockHashPayload host (rereadBlock host b)) (blockHashPayload host b)) :
    validateChainBlocks host policy (blocks.map (rereadBlock host)) = .ok [] ↔
      ∀ tx ∈ allTransactions blocks, HashStable host tx := by
  have hne' : blocks.map (rereadBlock host) ≠ [] := fun h => hne (map_eq_nil_iff.mp h)
  have hsorted : sortBlocks (blocks.map (rereadBlock host)) = blocks.map (rereadBlock host) := by
    rw [show sortBlocks (blocks.map (rereadBlock host)) = (sortBlocks blocks).map (rereadBlock host)
      from sortBlocks_respell, hwell.sortBlocks_eq]
  rw [validateChainBlocks_eq_nil_iff hne', hsorted]
  constructor
  · rintro ⟨hreread, -⟩ tx htx
    obtain ⟨b, hb, htxb⟩ := mem_flatMap.mp htx
    obtain ⟨before, after, rfl⟩ := append_of_mem hb
    -- both the stored block and the one that is read recompute to the stored hash
    have hstored := (hwell before b after rfl).hash_eq
    have hread := (hreread (before.map (rereadBlock host)) (rereadBlock host b)
      (after.map (rereadBlock host)) (by rw [map_append, map_cons])).hash_eq
    have hsame : computeBlockHash host (rereadBlock host b) = computeBlockHash host b :=
      hread.trans hstored.symm
    exact hashStable_of_canonical (hcollision b hb hsame) tx htxb
  · intro hstable
    have hsame := fun tx htx => (samePayload_reread_iff host tx).mpr (hstable tx htx)
    exact ⟨hwell.respell hsame, hclosing.respell hsame⟩

end Reread

/-! ### Reading a chain back after an append -/

section Appended

variable {moment : Moment} {validatorId : Option String} {transactions : List ChainTransaction}
  {file : ChainFile} {blocks : Chain} {block : ChainBlock}

theorem fillChainId_createdAt : (fillChainId policy tx).createdAt = tx.createdAt := by
  rw [fillChainId]
  split <;> rfl

theorem Appended.height_eq
    (h : Appended host policy moment validatorId transactions file blocks block)
    (hwell : WellFormed host policy blocks) : block.height = blocks.length := by
  have hdraft : block.height = (blocks.getLast?.map fun b => b.height + 1).getD 0 := by
    rw [h.block_eq]
    rfl
  rw [hdraft]
  rcases eq_nil_or_concat blocks with rfl | ⟨before, tip, rfl⟩
  · rfl
  · rw [concat_eq_append, getLast?_concat, Option.map_some, Option.getD_some,
      hwell.height_eq before [] tip (by rw [concat_eq_append]), length_append]
    rfl

/-- An append to a valid chain leaves the blocks in order. -/
theorem Appended.wellFormed
    (h : Appended host policy moment validatorId transactions file blocks block)
    (hvalid : validateChainBlocks host policy blocks = .ok []) :
    WellFormed host policy (blocks ++ [block]) ∧ ClosingSound host policy (blocks ++ [block]) := by
  have hwell := wellFormed_of_listed h.listed hvalid
  have hne : blocks ++ [block] ≠ [] := append_ne_nil_of_right_ne_nil _ (cons_ne_nil _ _)
  have haccepted := (validateChainBlocks_eq_nil_iff hne).mp h.accepted
  have hsorted : sortBlocks (blocks ++ [block]) = blocks ++ [block] := by
    apply sortBlocks_eq_of_heights haccepted.1
    rw [pairwise_map, pairwise_append]
    refine ⟨hwell.pairwise_height.imp le_of_lt, pairwise_singleton _ _, ?_⟩
    intro a ha b hb
    rw [mem_singleton.mp hb, h.height_eq hwell]
    exact (hwell.height_lt ha).2.le
  rwa [hsorted] at haccepted

/-- The block of an append has its time, and its transactions have theirs. -/
theorem Appended.dated (h : Appended host policy moment validatorId transactions file blocks block)
    (hcreated : ∀ tx ∈ transactions, tx.createdAt ≠ "") : ∀ b ∈ blocks ++ [block], Dated b := by
  intro b hb
  rcases mem_append.mp hb with hb | hb
  · exact dated_of_listChainBlocks h.listed b hb
  rw [mem_singleton.mp hb, h.block_eq]
  refine ⟨moment.now.nonempty, ?_⟩
  intro tx htx
  obtain ⟨new, hnew, rfl⟩ := mem_map.mp htx
  rw [fillChainId_createdAt]
  exact hcreated new (mem_filter.mp hnew).1

/-- What is stored of a block besides its transactions' contents: its hash, its roots and the
identities of its transactions. -/
def ChainBlock.identity (block : ChainBlock) : String × String × String × List String :=
  (block.blockHash, block.txRoot, block.stateRoot, block.transactions.map ChainTransaction.txId)

theorem identity_rereadBlock {b : ChainBlock} : (rereadBlock host b).identity = b.identity := by
  show (_, _, _, (b.transactions.map (rereadTransaction host)).map ChainTransaction.txId) = _
  rw [map_map]
  rfl

theorem hashStable_fillChainId : HashStable host (fillChainId policy tx) ↔ HashStable host tx := by
  rw [fillChainId]
  split
  · exact ⟨fun h => ⟨h.address, h.counterparty⟩, fun h => ⟨h.address, h.counterparty⟩⟩
  · rfl

/-- The transactions of the constructor. -/
def builtTransactions (host : Host) (built : List (Timestamp × TransactionArgs)) :
    List ChainTransaction :=
  built.map fun e => makeChainTransaction host e.1 e.2

/-- **Reading back after an accepted append** of constructed transactions to a valid chain: the
blocks have the hashes, roots and transaction ids that were stored and the validator accepts
them, exactly when every transaction of the chain and every new one keeps its hashed payload
under one more reading. -/
theorem append_reread_iff {built : List (Timestamp × TransactionArgs)} {after : ChainFile}
    (clock : Json → Timestamp)
    (hlisted : listChainBlocks host policy moment.clock file = .ok blocks)
    (hvalid : validateChainBlocks host policy blocks = .ok [])
    (happend : appendChainBlock host policy moment validatorId (builtTransactions host built) file =
      (.ok (some block), after)) (hcollision : ∀ b ∈ blocks ++ [block],
      NoCollision (blockHashPayload host (rereadBlock host b)) (blockHashPayload host b)) :
    (∃ reread, listChainBlocks host policy clock after = .ok reread ∧
      reread.map ChainBlock.identity = (blocks ++ [block]).map ChainBlock.identity ∧
      validateChainBlocks host policy reread = .ok []) ↔
    (∀ tx ∈ allTransactions blocks, HashStable host tx) ∧
      ∀ tx ∈ newTransactions blocks (builtTransactions host built), HashStable host tx := by
  obtain ⟨rfl, happended⟩ : after = saveChainBlocks (blocks ++ [block]) ∧
      Appended host policy moment validatorId (builtTransactions host built) file blocks block := by
    rcases appendChainBlock_cases moment validatorId (builtTransactions host built) file with
      ⟨e, h⟩ | h | ⟨blocks', block', happended, h⟩
    · cases happend.symm.trans h
    · cases happend.symm.trans h
    · cases happend.symm.trans h
      cases happended.listed.symm.trans hlisted
      exact ⟨rfl, happended⟩
  obtain ⟨hwell, hclosing⟩ := happended.wellFormed hvalid
  have hcreated : ∀ tx ∈ builtTransactions host built, tx.createdAt ≠ "" := by
    intro tx htx
    obtain ⟨e, -, rfl⟩ := mem_map.mp htx
    exact makeChainTransaction_createdAt
  have hread : listChainBlocks host policy clock (saveChainBlocks (blocks ++ [block])) =
      .ok ((blocks ++ [block]).map (rereadBlock host)) := by
    rw [listChainBlocks_save_accepted happended.accepted (happended.dated hcreated),
      hwell.sortBlocks_eq]
  have hidentity : ((blocks ++ [block]).map (rereadBlock host)).map ChainBlock.identity =
      (blocks ++ [block]).map ChainBlock.identity := by
    rw [map_map]
    exact map_congr_left fun b _ => identity_rereadBlock
  have htransactions : allTransactions (blocks ++ [block]) = allTransactions blocks ++
      (newTransactions blocks (builtTransactions host built)).map (fillChainId policy) := by
    rw [allTransactions_append, happended.block_eq, allTransactions_cons, allTransactions_nil,
      append_nil]
    rfl
  have hstable : (∀ tx ∈ allTransactions (blocks ++ [block]), HashStable host tx) ↔
      (∀ tx ∈ allTransactions blocks, HashStable host tx) ∧
        ∀ tx ∈ newTransactions blocks (builtTransactions host built), HashStable host tx := by
    rw [htransactions, forall_mem_append, forall_mem_map]
    simp only [hashStable_fillChainId]
  rw [← hstable, ← reread_accepted_iff hwell hclosing
    (append_ne_nil_of_right_ne_nil _ (cons_ne_nil _ _)) hcollision]
  constructor
  · rintro ⟨reread, hlist, -, haccepted⟩
    cases hlist.symm.trans hread
    exact haccepted
  · intro haccepted
    exact ⟨_, hread, hidentity, haccepted⟩

end Appended

/-- One unit of the treasury for the given address, as stored. -/
def samplePayment (address : String) : List ChainTransaction :=
  [sampleForgedDebit, sampleTransaction "d2" address 1]

/-- The same, as it is asked for. -/
def samplePaymentArgs (address : String) : List (Timestamp × TransactionArgs) :=
  [sampleForgedDebit, sampleTransaction "d2" address 1].map fun tx =>
    (genesisCreatedAt,
      { txType := tx.txType, address := tx.address, deltaAtomic := tx.deltaAtomic
        publicKeyB64 := tx.publicKeyB64, signatureB64 := tx.signatureB64, metadata := tx.metadata
        txId := some tx.txId, createdAt := some tx.createdAt, chainId := some tx.chainId })

theorem samplePaymentArgs_built {address : String} :
      builtTransactions sampleHost (samplePaymentArgs address) =
      samplePayment (sampleHost.normalizeAddress address) :=
  rfl

/-- The block that appending the payment builds. -/
def samplePaid (address : String) : ChainBlock :=
  ({ sampleDraft 1 "7743f51555b5f62f11eb196b78c9e8d519efa21d50d1f9c404bf9c2fb68abbb9"
      (samplePayment address) with blockId := "9c2ead6fad0c329721e887310217acbd" }).seal
        sampleHost [sampleGenesis]

theorem samplePaid_draft {address : String} :
      (appendDraft sampleHost samplePolicy sampleMoment none [sampleGenesis]
      (samplePayment address)).seal sampleHost [sampleGenesis] = samplePaid address := by
  have hheight : sampleGenesis.height + 1 = 1 := rfl
  have hblockId : takeString 32 (canonicalHash (.obj [("height", .int 1),
      ("chain_id", .str samplePolicy.chainNetwork.value),
      ("schema_version", .int chainSchemaVersion),
      ("previous_hash", .str "7743f51555b5f62f11eb196b78c9e8d519efa21d50d1f9c404bf9c2fb68abbb9"),
      ("tx_ids", .arr ((samplePayment address).map (fun tx => .str tx.txId))),
      ("nonce", .str sampleMoment.token)])) = "9c2ead6fad0c329721e887310217acbd" := by
    show takeString 32 (canonicalHash (.obj [_, _, _, _, ("tx_ids", .arr [.str "d1", .str "d2"]),
      _])) = _
    decide +kernel
  rw [samplePaid, appendDraft]
  simp only [getLast?_singleton, Option.map_some, Option.getD_some, sampleGenesis_blockHash,
    hheight, hblockId]
  rfl

theorem samplePaid_blockHash : (samplePaid "cai_cai_x").blockHash =
        "bd956cd3f32c788b50ca4b5cb9a1a99baab5958e02d5509cbf7c86ef0ec4ece7" ∧
      (samplePaid "dd").blockHash =
        "177e183a092fad5b7bb0adcf8eb0c692d2de80ae56c998452fc315ce58747d19" := by
  decide +kernel

section Paid

variable {address : String} (haddress : address = "cai_cai_x" ∨ address = "dd")

include haddress in
theorem samplePaid_wellFormed :
    WellFormed sampleHost samplePolicy ([sampleGenesis] ++ [samplePaid address]) := by
  refine wellFormed_concat.mpr ⟨sampleGenesis_wellFormed, ?_⟩
  have hids : (samplePayment address).map strippedTxId = ["d1", "d2"] := by
    show [strip "d1", strip "d2"] = _
    decide
  have hdraft : DraftAccepted sampleHost samplePolicy [sampleGenesis]
      (sampleDraft 1 "7743f51555b5f62f11eb196b78c9e8d519efa21d50d1f9c404bf9c2fb68abbb9"
        (samplePayment address)) := by
    have hne : samplePayment address ≠ [] := cons_ne_nil _ _
    apply sampleDraft_accepted hne
    · rw [hids]
      decide
    · rw [hids, allTransactions_sampleGenesis]
      decide
    · simp only [samplePayment, forall_mem_cons]
      exact ⟨sampleForgedDebit_accepted, sampleTransaction_accepted, forall_mem_nil _⟩
    · simp [samplePayment, sampleForgedDebit, sampleTransaction]
  apply DraftAccepted.seal
  · exact { hdraft with }
  · exact ⟨rfl, sampleGenesis_blockHash.symm⟩
  · rw [← samplePaid, map_singleton, sampleGenesis_blockHash]
    rcases haddress with rfl | rfl
    · rw [samplePaid_blockHash.1]
      decide
    · rw [samplePaid_blockHash.2]
      decide

theorem samplePaid_dated : ∀ b ∈ [sampleGenesis] ++ [samplePaid address], Dated b := by
  have hdate : ("2026-01-02T00:00:00+00:00" : String) ≠ "" := by decide
  refine forall_mem_append.mpr ⟨forall_mem_singleton.mpr (policyGenesis_dated _ _),
    forall_mem_singleton.mpr ⟨hdate, ?_⟩⟩
  show ∀ tx ∈ samplePayment address, tx.createdAt ≠ ""
  simp only [samplePayment, forall_mem_cons]
  exact ⟨hdate, hdate, forall_mem_nil _⟩

include haddress in
/-- The payment moves one unit, which the treasury has. -/
theorem samplePaid_closingSound :
    ClosingSound sampleHost samplePolicy ([sampleGenesis] ++ [samplePaid address]) := by
  refine sampleGenesis_closingSound rfl ?_
  rcases haddress with rfl | rfl <;> decide +kernel

include haddress in
/-- Appending the payment to the genesis block. -/
theorem samplePaid_appended :
    appendChainBlock sampleHost samplePolicy sampleMoment none (samplePayment address)
        (saveChainBlocks [sampleGenesis]) =
      (.ok (some (samplePaid address)),
        saveChainBlocks ([sampleGenesis] ++ [samplePaid address])) := by
  have hnew : newTransactions [sampleGenesis] (samplePayment address) = samplePayment address := by
    rw [newTransactions, allTransactions_sampleGenesis]
    rfl
  apply appendChainBlock_of_wellFormed (sampleGenesis_listed _)
  · rw [hnew]
    exact cons_ne_nil _ _
  · rw [hnew, ← samplePaid_draft]
    rfl
  · exact samplePaid_wellFormed haddress
  · exact samplePaid_closingSound haddress

end Paid

/-- A payment to a plain address. -/
theorem append_reread_plain : ∃ reread, listChainBlocks sampleHost samplePolicy sampleClock
        (saveChainBlocks ([sampleGenesis] ++ [samplePaid "dd"])) = .ok reread ∧
      reread.map ChainBlock.identity =
        ([sampleGenesis] ++ [samplePaid "dd"]).map ChainBlock.identity ∧
      validateChainBlocks sampleHost samplePolicy reread = .ok [] := by
  have hplain : sampleHost.normalizeAddress "dd" = "dd" := by decide
  have happend : appendChainBlock sampleHost samplePolicy sampleMoment none
      (builtTransactions sampleHost (samplePaymentArgs "dd")) (saveChainBlocks [sampleGenesis]) =
        (.ok (some (samplePaid "dd")), saveChainBlocks ([sampleGenesis] ++ [samplePaid "dd"])) := by
    rw [samplePaymentArgs_built, hplain]
    exact samplePaid_appended (.inr rfl)
  have hpayment : ∀ tx ∈ samplePayment "dd", TransactionStable sampleHost tx := by
    simp only [samplePayment, forall_mem_cons]
    exact ⟨transactionStable_of_address normalize_sampleTreasury rfl,
      transactionStable_of_address hplain rfl, forall_mem_nil _⟩
  have hstable : StableChain sampleHost ([sampleGenesis] ++ [samplePaid "dd"]) := by
    exact forall_mem_append.mpr ⟨sampleGenesis_stable, forall_mem_singleton.mpr hpayment⟩
  apply (append_reread_iff sampleClock (sampleGenesis_listed _)
    (policyGenesis_accepted _ _ sampleGenesis_idsDistinct) happend ?_).mpr
  · refine ⟨?_, ?_⟩
    · intro tx htx
      obtain ⟨b, hb, htxb⟩ := mem_flatMap.mp htx
      exact (sampleGenesis_stable b hb tx htxb).hashStable
    · intro tx htx
      have hmem := (mem_filter.mp htx).1
      rw [samplePaymentArgs_built, hplain] at hmem
      exact (hpayment tx hmem).hashStable
  · intro b hb _
    rw [rereadBlock_eq_self (hstable b hb)]

/-- A payment to an address with three prefixes is accepted, and the chain it leaves is not. -/
theorem append_reread_prefixed :
    listChainBlocks sampleHost samplePolicy sampleMoment.clock (saveChainBlocks [sampleGenesis]) =
        .ok [sampleGenesis] ∧
      validateChainBlocks sampleHost samplePolicy [sampleGenesis] = .ok [] ∧
      appendChainBlock sampleHost samplePolicy sampleMoment none
          (builtTransactions sampleHost (samplePaymentArgs "cai_cai_cai_x"))
          (saveChainBlocks [sampleGenesis]) =
        (.ok (some (samplePaid "cai_cai_x")),
          saveChainBlocks ([sampleGenesis] ++ [samplePaid "cai_cai_x"])) ∧
      ∀ reread, listChainBlocks sampleHost samplePolicy sampleClock
          (saveChainBlocks ([sampleGenesis] ++ [samplePaid "cai_cai_x"])) = .ok reread →
        validateChainBlocks sampleHost samplePolicy reread ≠ .ok [] := by
  have hprefixed : sampleHost.normalizeAddress "cai_cai_cai_x" = "cai_cai_x" := by decide
  have hwell := @samplePaid_wellFormed "cai_cai_x" (.inl rfl)
  have hclosing := @samplePaid_closingSound "cai_cai_x" (.inl rfl)
  have hne : [sampleGenesis] ++ [samplePaid "cai_cai_x"] ≠ [] := cons_ne_nil _ _
  refine ⟨sampleGenesis_listed _, policyGenesis_accepted _ _ sampleGenesis_idsDistinct, ?_, ?_⟩
  · rw [samplePaymentArgs_built, hprefixed]
    exact samplePaid_appended (.inl rfl)
  intro reread hlist haccepted
  rw [listChainBlocks_save_accepted ((hwell.validate_iff hne).mpr hclosing) samplePaid_dated,
    hwell.sortBlocks_eq, Except.ok.injEq] at hlist
  subst hlist
  -- the block that is read hashes the address without any prefix
  have hread := ((validateChainBlocks_eq_nil_iff (by simp)).mp haccepted).1
  rw [show sortBlocks (([sampleGenesis] ++ [samplePaid "cai_cai_x"]).map (rereadBlock sampleHost)) =
    (sortBlocks ([sampleGenesis] ++ [samplePaid "cai_cai_x"])).map (rereadBlock sampleHost)
      from sortBlocks_respell, hwell.sortBlocks_eq] at hread
  have hhash := (hread [rereadBlock sampleHost sampleGenesis] _ [] rfl).hash_eq
  have hcomputed : computeBlockHash sampleHost (rereadBlock sampleHost (samplePaid "cai_cai_x")) =
      "75d6f60b17724e593567e331f7abc27c34b18397d38b0f361023a61a7da45892" := by
    decide +kernel
  rw [hcomputed, show (rereadBlock sampleHost (samplePaid "cai_cai_x")).blockHash =
    (samplePaid "cai_cai_x").blockHash from rfl, samplePaid_blockHash.1] at hhash
  exact absurd hhash (by decide)

end CaiNetwork
