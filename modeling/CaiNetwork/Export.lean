/-
CaiNetwork/Export.lean

The payload under which a node offers its chain (`export_chain_payload` in `chain.py`), and what
another node of the same policy makes of it.

The payload of a chain whose first block is the policy's genesis passes every check of its
metadata (`payloadBlocks_exported`), whatever is signed over it.  If no transaction changes when
it is read back, a chain that the validator accepts is read back block for block
(`coerceRemoteBlocks_export`).
-/

import CaiNetwork.MergeLaws

namespace CaiNetwork

open List

variable (host : Host) (policy : WalletPolicy)

variable {kvs : Fields} {payload : Json} {block : ChainBlock}
  {blocks : Chain} {clock : Json → Timestamp}

/-! ### The payload -/

/-- The dictionary that `export_chain_payload` returns for the blocks it read. -/
def exportedPayload (now : Timestamp) (blocks : Chain) : Fields :=
  let network := policy.chainNetwork.value
  let genesisHash := (blocks.head?.map ChainBlock.blockHash).getD
    (expectedGenesisHash host (moneyPolicyForWalletPolicy host policy))
  let tip (field : ChainBlock → String) : Json := optStr (blocks.getLast?.map field)
  [("exported_at", .str now.text), ("network", .str network), ("chain_id", .str network),
    ("genesis_hash", .str genesisHash), ("schema_version", .int chainSchemaVersion),
    ("chain", .obj [("blocks", .arr (blocks.map asdictBlock)),
      ("block_count", .int blocks.length),
      ("transaction_count", .int (allTransactions blocks).length),
      ("tip_hash", tip ChainBlock.blockHash), ("tip_tx_root", tip ChainBlock.txRoot),
      ("tip_state_root", tip ChainBlock.stateRoot), ("network", .str network),
      ("chain_id", .str network), ("genesis_hash", .str genesisHash),
      ("schema_version", .int chainSchemaVersion)])]

/-! ### Its metadata -/

variable {network : ChainNetwork}

theorem lower_network : host.lower network.value = network.value := by
  apply host.lower_of_noUpper
  cases network <;> decide

theorem strip_network_eq : strip network.value = network.value := by
  cases network <;> decide

theorem lower_canonicalHash : host.lower (canonicalHash payload) = canonicalHash payload := by
  apply host.lower_of_noUpper
  intro c hc
  have hhex : ∀ d ∈ Sha256.hexAlphabet, d.toNat < 128 ∧ d.isUpper = false := by decide
  exact hhex c (mem_hexAlphabet_of_mem_canonicalHash hc)

variable {host policy}

/-- A hash whose text is not changed by lowering it. -/
theorem lower_fieldText_hash {key : String} (h : Json.getD kvs key = .str (canonicalHash payload)) :
    host.lower (fieldText host kvs key) = canonicalHash payload := by
  rw [fieldText_of_str host h, strip_canonicalHash, lower_canonicalHash]

/-- The hash that a payload gives for the genesis block itself. -/
theorem textSet_genesisHash (h : Json.getD kvs "genesis_hash" = .str (canonicalHash payload)) :
    textSet (host.lower (metadataValue host kvs
      ["genesis_hash", "genesisHash", "chain_genesis_hash", "chainGenesisHash"])) =
      [canonicalHash payload] := by
  have hne : fieldText host kvs "genesis_hash" ≠ "" := by
    rw [fieldText_of_str host h, strip_canonicalHash]
    exact canonicalHash_ne_empty
  rw [metadataValue, if_pos hne, lower_fieldText_hash h, textSet, if_neg canonicalHash_ne_empty]

theorem metadataValue_network {key : String} {keys : List String}
    (h : Json.getD kvs key = .str policy.chainNetwork.value) :
    metadataValue host kvs (key :: keys) = policy.chainNetwork.value := by
  rw [metadataValue, fieldText_of_str host h, strip_network_eq, if_pos network_value_ne]

/-- A payload that names the policy's network and no genesis block but the policy's is let
through. -/
theorem validatePeerPayloadNetwork_ok {payloadName : String}
    {hashes : List String} (hschema : checkPeerSchemaVersion host payloadName kvs = .ok ())
    (hid : Json.getD kvs "chain_id" = .str policy.chainNetwork.value)
    (hnetwork : Json.getD kvs "network" = .str policy.chainNetwork.value)
    (hhashes : payloadGenesisHashes host (.obj kvs) = .ok hashes)
    (hdedup : hashes.dedup = [expectedGenesisHash host (moneyPolicyForWalletPolicy host policy)]) :
    validatePeerPayloadNetwork host policy payloadName kvs = .ok policy.chainNetwork.value := by
  rw [validatePeerPayloadNetwork, hschema, metadataValue_network hid,
    metadataValue_network hnetwork, hhashes]
  simp [lower_network, network_value_ne, hdedup, bind, Except.bind, pure, Except.pure]

/-- `add_peer_payload_metadata`, for a payload with no metadata of its own. -/
def addPeerPayloadMetadata (host : Host) (policy : WalletPolicy) (kvs : Fields) :
    Fields :=
  kvs ++ [("network", .str policy.chainNetwork.value), ("chain_id", .str policy.chainNetwork.value),
    ("genesis_hash", .str (expectedGenesisHash host (moneyPolicyForWalletPolicy host policy))),
    ("schema_version", .int peerPayloadSchemaVersion)]

theorem nestedGenesisHashes_of_absent
    (h : kvs.lookup "chain" = none) : nestedGenesisHashes host kvs = .ok [] := by
  induction kvs with
  | nil => rw [nestedGenesisHashes]
  | cons entry kvs ih =>
    obtain ⟨key, value⟩ := entry
    have hkey : key ≠ "chain" := by
      rintro rfl
      simp at h
    have hrest : kvs.lookup "chain" = none := by
      simpa [lookup_cons, beq_eq_false_iff_ne.mpr hkey.symm] using h
    rw [nestedGenesisHashes, if_neg hkey, ih hrest]

/-- **A payload to which this policy's metadata was added is let through.** -/
theorem validatePeerPayloadNetwork_added {payloadName : String}
    (habsent : ∀ key ∈ ["schema_version", "chain_id", "network", "genesis_hash", "chain", "blocks"],
      kvs.lookup key = none) :
    validatePeerPayloadNetwork host policy payloadName (addPeerPayloadMetadata host policy kvs) =
      .ok policy.chainNetwork.value := by
  simp only [forall_mem_cons] at habsent
  obtain ⟨hversion, hid, hnetwork, hgenesis, hchain, hblocks, -⟩ := habsent
  have hschema : checkPeerSchemaVersion host payloadName
      (addPeerPayloadMetadata host policy kvs) = .ok () := by
    rw [checkPeerSchemaVersion, addPeerPayloadMetadata, lookup_append, hversion]
    rfl
  have hhashes : payloadGenesisHashes host (.obj (addPeerPayloadMetadata host policy kvs)) =
      .ok [expectedGenesisHash host (moneyPolicyForWalletPolicy host policy)] := by
    have hnested : (addPeerPayloadMetadata host policy kvs).lookup "chain" = none := by
      rw [addPeerPayloadMetadata, lookup_append, hchain]
      rfl
    have hnone : Json.getD (addPeerPayloadMetadata host policy kvs) "blocks" = .null :=
      getD_append_of_absent hblocks
    have hdirect : Json.getD (addPeerPayloadMetadata host policy kvs) "genesis_hash" =
        .str (expectedGenesisHash host (moneyPolicyForWalletPolicy host policy)) :=
      getD_append_of_absent hgenesis
    rw [payloadGenesisHashes, nestedGenesisHashes_of_absent hnested, hnone,
      textSet_genesisHash hdirect]
    rfl
  exact validatePeerPayloadNetwork_ok hschema (getD_append_of_absent hid)
    (getD_append_of_absent hnetwork) hhashes (nodup_singleton _).dedup

/-- The genesis hash that the exported blocks show. -/
theorem blockGenesisHashes_export {first : ChainBlock} {rest : Chain}
    (hheight : first.height = 0) (hhash : first.blockHash = canonicalHash payload) :
    blockGenesisHashes host (.arr ((first :: rest).map asdictBlock)) =
      .ok [canonicalHash payload] := by
  have hfirst : payloadGenesisBlock host ((first :: rest).map asdictBlock) =
      .ok (some (asdictBlock first).fields) := by
    rw [payloadGenesisBlock, map_cons, asdictBlock, firstAtHeightZero, hheight]
    rfl
  have hfield : host.lower (fieldText host (asdictBlock first).fields "block_hash") =
      canonicalHash payload := by
    apply lower_fieldText_hash
    rw [← hhash]
    rfl
  rw [map_cons] at hfirst ⊢
  rw [blockGenesisHashes, hfirst]
  show Except.ok (textSet (host.lower (fieldText host _ "block_hash"))) = _
  rw [hfield, textSet, if_neg canonicalHash_ne_empty]

section Metadata

variable (now : Timestamp) {first : ChainBlock} (rest : Chain) {signature : Fields}
  (hheight : first.height = 0)
  (hhash : first.blockHash = expectedGenesisHash host (moneyPolicyForWalletPolicy host policy))
  (hkey : ∀ e ∈ signature, e.1 = "signature")
include hheight hhash hkey

/-- The genesis hashes of the exported dictionary and of the chain inside it are one hash. -/
theorem payloadGenesisHashes_exported : ∃ hashes, payloadGenesisHashes host
        (.obj (exportedPayload host policy now (first :: rest) ++ signature)) = .ok hashes ∧
      hashes.dedup = [expectedGenesisHash host (moneyPolicyForWalletPolicy host policy)] := by
  obtain ⟨payload, hpayload⟩ : ∃ payload, expectedGenesisHash host
      (moneyPolicyForWalletPolicy host policy) = canonicalHash payload := ⟨_, rfl⟩
  rw [hpayload] at hhash ⊢
  have hchain : ∀ chain : Fields, Json.getD chain "genesis_hash" = .str (canonicalHash payload) →
      Json.getD chain "blocks" = .arr ((first :: rest).map asdictBlock) →
      nestedGenesisHashes host chain = .ok [] →
      payloadGenesisHashes host (.obj chain) =
        .ok [canonicalHash payload, canonicalHash payload] := by
    intro chain hgenesis hblocks hnested
    rw [payloadGenesisHashes, textSet_genesisHash hgenesis, hnested, hblocks,
      blockGenesisHashes_export hheight hhash]
    rfl
  have hblocks : Json.getD (exportedPayload host policy now (first :: rest) ++ signature) "blocks" =
      .null := by
    have hnone : signature.lookup "blocks" = none := by
      rw [lookup_eq_none_iff]
      intro e he
      rw [hkey e he]
      decide
    rw [Json.getD, lookup_append, hnone]
    rfl
  refine ⟨[canonicalHash payload, canonicalHash payload, canonicalHash payload], ?_, ?_⟩
  · have hdirect : Json.getD (exportedPayload host policy now (first :: rest) ++ signature)
        "genesis_hash" = .str (canonicalHash payload) := congrArg Json.str hhash
    rw [payloadGenesisHashes, textSet_genesisHash hdirect, hblocks]
    have hnested : nestedGenesisHashes host
        (exportedPayload host policy now (first :: rest) ++ signature) =
          .ok [canonicalHash payload, canonicalHash payload] :=
      hchain _ (congrArg Json.str hhash) rfl rfl
    rw [hnested]
    rfl
  · simp

theorem validatePeerPayloadNetwork_exported : validatePeerPayloadNetwork host policy "chain"
      (exportedPayload host policy now (first :: rest) ++ signature) =
        .ok policy.chainNetwork.value := by
  obtain ⟨hashes, hhashes, hdedup⟩ := payloadGenesisHashes_exported now rest hheight hhash hkey
  exact validatePeerPayloadNetwork_ok rfl rfl rfl hhashes hdedup

/-- **The payload of a chain over the policy's genesis passes the checks of its metadata**,
with whatever signature is put under it. -/
theorem payloadBlocks_exported (hverified : chainSignatureError host policy
      (exportedPayload host policy now (first :: rest) ++ signature) = none) :
    payloadBlocks host policy (exportedPayload host policy now (first :: rest) ++ signature) =
      .ok ((first :: rest).map asdictBlock) := by
  have htext : ∀ key, Json.getD (rawChain
      (exportedPayload host policy now (first :: rest) ++ signature)) key =
        .str policy.chainNetwork.value →
      fieldText host (rawChain (exportedPayload host policy now (first :: rest) ++ signature)) key =
        policy.chainNetwork.value := by
    intro key hchain
    rw [fieldText_of_str host hchain, strip_network_eq]
  rw [payloadBlocks, validatePeerPayloadNetwork_exported now rest hheight hhash hkey, hverified,
    htext "chain_id" rfl, htext "network" rfl]
  simp only [ne_eq, not_true_eq_false, and_false, if_false, network_value_ne, not_false_eq_true,
    if_true]
  rfl

end Metadata

/-! ### Its blocks -/

/-- No transaction of the chain changes when it is written and read. -/
def StableChain (host : Host) (blocks : Chain) : Prop :=
  ∀ b ∈ blocks, ∀ tx ∈ b.transactions, TransactionStable host tx

theorem transactionStable_of_normal {tx : ChainTransaction}
    (haddress : host.normalizeAddress tx.address = tx.address)
    (hcounterparty : ∀ c, tx.counterpartyAddress = some c → c ≠ "" ∧ host.normalizeAddress c = c) :
    TransactionStable host tx := by
  have hreread : (nonempty? tx.counterpartyAddress).map host.normalizeAddress =
      tx.counterpartyAddress := by
    rcases hc : tx.counterpartyAddress with - | c
    · rfl
    · obtain ⟨hne, hnormal⟩ := hcounterparty c hc
      rw [nonempty?, if_neg hne, Option.map_some, hnormal]
  rw [TransactionStable, rereadTransaction, hreread, haddress]

theorem transactionStable_of_address {tx : ChainTransaction}
    (haddress : host.normalizeAddress tx.address = tx.address)
    (hcounterparty : tx.counterpartyAddress = none) : TransactionStable host tx := by
  refine transactionStable_of_normal haddress fun c hc => ?_
  rw [hcounterparty] at hc
  cases hc

theorem rereadBlock_eq_self
    (h : ∀ tx ∈ block.transactions, TransactionStable host tx) :
      rereadBlock host block = block := by
  have htxs : block.transactions.map (rereadTransaction host) = block.transactions := by
    rw [map_congr_left h, map_id']
  rw [rereadBlock, ChainBlock.respell, htxs]

theorem StableChain.map_reread (h : StableChain host blocks) :
    blocks.map (rereadBlock host) = blocks := by
  rw [map_congr_left (fun b hb => rereadBlock_eq_self (h b hb)), map_id']

/-- **A valid chain of stable transactions is read as it was saved.** -/
theorem listChainBlocks_save_stable
    (haccepted : validateChainBlocks host policy blocks = .ok []) (hdated : ∀ b ∈ blocks, Dated b)
    (hwell : WellFormed host policy blocks) (hstable : StableChain host blocks) :
    listChainBlocks host policy clock (saveChainBlocks blocks) = .ok blocks := by
  rw [listChainBlocks_save_accepted haccepted hdated, hwell.sortBlocks_eq, hstable.map_reread]

theorem sortRawBlocks_asdict (h : blocks.Pairwise (fun a b => a.height < b.height)) :
    sortRawBlocks host (blocks.map asdictBlock) = .ok (blocks.map asdictBlock) := by
  let keyOf (b : ChainBlock) : (Int × String × String) × Json :=
    ((b.height, b.createdAt, b.blockHash), asdictBlock b)
  have hkeys : ∀ bs : Chain,
      (bs.map asdictBlock).mapM (fun raw => do return (← rawBlockSortKey host raw, raw)) =
        (.ok (bs.map keyOf) : Except PyError _) := by
    intro bs
    induction bs with
    | nil => rfl
    | cons b bs ih =>
      have hkey : rawBlockSortKey host (asdictBlock b) =
          .ok (b.height, b.createdAt, b.blockHash) := by
        show Except.ok (b.height, host.strOrEmpty (.str b.createdAt),
          host.strOrEmpty (.str b.blockHash)) = _
        rw [Host.strOrEmpty_str, Host.strOrEmpty_str]
      rw [map_cons, mapM_cons, ih, hkey]
      rfl
  have hsorted : (blocks.map keyOf).insertionSort sortKeyLe = blocks.map keyOf := by
    apply List.Pairwise.insertionSort_eq
    rw [pairwise_map]
    refine h.imp ?_
    intro a b hab
    rw [sortKeyLe, if_pos (ne_of_lt hab)]
    exact hab
  rw [sortRawBlocks, hkeys]
  show Except.ok (((blocks.map keyOf).insertionSort sortKeyLe).map Prod.snd) = _
  rw [hsorted, map_map]
  rfl

theorem transactionsAreValid_eq_true (hchain : block.chainId = policy.chainNetwork.value)
    (hschema : block.schemaVersion = chainSchemaVersion) {txs : List ChainTransaction} :
    ∀ {seen : List (String × String)}, (∀ tx ∈ txs, TransactionAccepted host policy tx) →
      ((txs.filterMap (nonceKey host)).Nodup ∧
        ∀ key ∈ txs.filterMap (nonceKey host), key ∉ seen) →
      transactionsAreValid host policy block seen txs = .ok true := by
  induction txs with
  | nil => intro seen _ _; rfl
  | cons tx txs ih =>
    intro seen haccepted hnew
    obtain ⟨htx, hrest⟩ := forall_mem_cons.mp haccepted
    obtain ⟨hfirst, hnew⟩ := unspent_cons.mp hnew
    rw [transactionsAreValid, if_neg (by rw [htx.chainId, hchain]; simp),
      if_neg (by rw [htx.schemaVersion, hschema]; simp), htx.signature]
    rcases hkey : nonceKey host tx with - | key
    · rw [hkey, Option.toList_none, append_nil] at hnew
      exact ih hrest hnew
    · rw [hkey] at hnew
      show (if key ∈ seen then _ else _) = _
      rw [if_neg (hfirst key hkey)]
      exact ih hrest hnew

/-- The checks of a single block hold for an acceptable one. -/
theorem BlockAccepted.singleBlockChecks {before : Chain}
    (h : BlockAccepted host policy before block) : remoteHeaderOk host policy block = true ∧
      blockTransactionsAreValid host policy block = .ok true := by
  constructor
  · rw [remoteHeaderOk, h.chainId, h.schemaVersion, h.hash_eq]
    simp
  · have hids : ¬(block.transactions.map strippedTxId = [] ∨
        "" ∈ block.transactions.map strippedTxId) := by
      rintro (hnil | hempty)
      · exact h.transactions_ne (map_eq_nil_iff.mp hnil)
      · exact h.txIds_ne hempty
    have hloop := transactionsAreValid_eq_true h.chainId h.schemaVersion h.transactions
      ⟨h.nonces_nodup, fun key _ => not_mem_nil⟩
    rw [blockTransactionsAreValid, if_neg (h.chainId ▸ strip_network),
      if_neg (not_not.mpr h.schemaVersion), if_neg hids, hloop]
    simp [bind, Except.bind, pure, Except.pure, ← h.txRoot, h.txIds_nodup]

/-- What another node reads from the record of a block. -/
theorem remoteBlock?_asdict (hstorable : BlockStorable block) (hhash : strip block.blockHash ≠ "") :
    remoteBlock? host policy clock (asdictBlock block) = some (rereadBlock host block) := by
  have hfield : fieldText host (asdictBlock block).fields "block_hash" = strip block.blockHash :=
    fieldText_of_str host rfl
  show (if fieldText host (asdictBlock block).fields "block_hash" = "" then none
    else (coerceBlock host clock policy.chainNetwork.value (asdictBlock block)).toOption) = _
  rw [hfield, if_neg hhash, coerceBlock_asdict host clock _ hstorable]
  rfl

/-- A record is read as an acceptable block when that is what reading makes of it. -/
theorem readsAs_asdict {before : Chain}
    {spelled : ChainBlock} (haccepted : BlockAccepted host policy before block)
    (hstorable : BlockStorable spelled) (hreread : rereadBlock host spelled = block) :
    ReadsAs host policy clock (asdictBlock spelled) block := by
  obtain ⟨hheader, hvalid⟩ := haccepted.singleBlockChecks
  have hhash : strip spelled.blockHash ≠ "" := by
    have hsame : spelled.blockHash = block.blockHash := by
      rw [← hreread]
      rfl
    rw [hsame]
    exact strip_blockHash_of_accepted haccepted
  refine ⟨?_, hheader, hvalid⟩
  rw [remoteBlock?_asdict hstorable hhash, hreread]

theorem coerceRemoteBlocks_of_readsAs {raws : List Json}
    (h : List.Forall₂ (ReadsAs host policy clock) raws blocks) :
    coerceRemoteBlocks host policy clock raws = .ok (some blocks) := by
  induction h with
  | nil => rfl
  | @cons raw b raws blocks hb _ ih =>
    rw [coerceRemoteBlocks, hb.read]
    show (if remoteHeaderOk host policy b then _ else _) = _
    rw [if_pos hb.header, hb.transactions, ih]
    rfl

/-- **An exported chain is read back block for block.** -/
theorem coerceRemoteBlocks_export {clock : Json → Timestamp} {blocks : Chain}
    (hwell : WellFormed host policy blocks) (hdated : ∀ b ∈ blocks, Dated b)
    (hstable : StableChain host blocks) :
    sortRawBlocks host (blocks.map asdictBlock) = .ok (blocks.map asdictBlock) ∧
      coerceRemoteBlocks host policy clock (blocks.map asdictBlock) = .ok (some blocks) := by
  refine ⟨sortRawBlocks_asdict hwell.pairwise_height, ?_⟩
  apply coerceRemoteBlocks_of_readsAs
  rw [forall₂_map_left_iff, forall₂_same]
  intro b hb
  obtain ⟨before, after, heq⟩ := append_of_mem hb
  exact readsAs_asdict (hwell before b after heq) (hwell.storable hdated b hb)
    (rereadBlock_eq_self (hstable b hb))

/-! ### Constructed transactions and the genesis block -/

theorem makeChainTransaction_createdAt {now : Timestamp} {args : TransactionArgs} :
    (makeChainTransaction host now args).createdAt ≠ "" := by
  rw [makeChainTransaction]
  rcases hcreated : args.createdAt with - | text
  · exact now.nonempty
  · by_cases htext : text = ""
    · rw [nonempty?, if_pos htext]
      exact now.nonempty
    · rw [nonempty?, if_neg htext]
      exact htext

variable (host policy)

/-- **The genesis block survives being written and read** when the treasury's address is in
normal form. -/
theorem policyGenesis_stable (htreasury : host.normalizeAddress host.developerTreasuryAddress =
    host.developerTreasuryAddress) : StableChain host [policyGenesis host policy] := by
  have hreserve : host.normalizeAddress (computeReserveChainAddress host
      (moneyPolicyForWalletPolicy host policy)) =
        computeReserveChainAddress host (moneyPolicyForWalletPolicy host policy) := by
    conv_lhs => rw [computeReserveChainAddress_eq]
    rfl
  have hfund : host.normalizeAddress (developerContributionFundChainAddress host
      (moneyPolicyForWalletPolicy host policy)) =
        developerContributionFundChainAddress host (moneyPolicyForWalletPolicy host policy) := by
    conv_lhs => rw [developerContributionFundChainAddress_eq]
    rfl
  intro b hb tx htx
  rw [mem_singleton] at hb
  subst hb
  have hmem : tx ∈ genesisChainTransactions host (moneyPolicyForWalletPolicy host policy) := htx
  rw [genesisChainTransactions] at hmem
  simp only [mem_cons, not_mem_nil, or_false] at hmem
  rcases hmem with rfl | rfl | rfl
  · exact transactionStable_of_address (congrArg _ hreserve) rfl
  · exact transactionStable_of_address (congrArg _ hfund) rfl
  · exact transactionStable_of_address (congrArg _ htreasury) rfl

theorem policyGenesis_dated : Dated (policyGenesis host policy) where
  createdAt := genesisCreatedAt.nonempty
  transactions := by
    intro tx htx
    have hmem : tx ∈ genesisChainTransactions host (moneyPolicyForWalletPolicy host policy) := htx
    rw [genesisChainTransactions] at hmem
    simp only [mem_cons, not_mem_nil, or_false] at hmem
    rcases hmem with rfl | rfl | rfl <;> exact makeChainTransaction_createdAt

theorem sampleGenesis_stable : StableChain sampleHost [sampleGenesis] :=
  policyGenesis_stable _ _ (by decide)

theorem sampleGenesis_listed (clock : Json → Timestamp) :
    listChainBlocks sampleHost samplePolicy clock (saveChainBlocks [sampleGenesis]) =
      .ok [sampleGenesis] :=
  listChainBlocks_save_stable (policyGenesis_accepted _ _ sampleGenesis_idsDistinct)
    (fun _ hb => mem_singleton.mp hb ▸ policyGenesis_dated _ _) sampleGenesis_wellFormed
    sampleGenesis_stable

end CaiNetwork
