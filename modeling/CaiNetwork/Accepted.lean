/-
CaiNetwork/Accepted.lean

Accepted chains: what follows from the validator's verdict for the list as a whole.

`WellFormed` passes to prefixes (`WellFormed.of_append`) and is built block by block
(`wellFormed_concat`).  By induction over the chain heights count from zero, and block hashes,
transaction ids and nonce keys are distinct.  The closing conditions do not pass to prefixes;
`validateChainBlocks_prefix_iff` says what is left of them.
-/

import Mathlib.Algebra.Order.BigOperators.Group.List
import CaiNetwork.Validate

namespace CaiNetwork

open List

variable {host : Host} {policy : WalletPolicy} {blocks : Chain}

variable {block : ChainBlock} {before : Chain}

/-! ### Prefixes -/

theorem wellFormed_nil : WellFormed host policy [] := by
  intro before block after h
  cases before <;> cases h

theorem WellFormed.of_append {more : Chain} (h : WellFormed host policy (blocks ++ more)) :
    WellFormed host policy blocks := by
  intro before block after heq
  apply h before block (after ++ more)
  rw [heq, append_assoc, cons_append]

/-- A chain is well formed exactly when it is without its last block and that block is
acceptable after it. -/
theorem wellFormed_concat : WellFormed host policy (blocks ++ [block]) ↔
      WellFormed host policy blocks ∧ BlockAccepted host policy blocks block := by
  constructor
  · intro h
    exact ⟨h.of_append, h blocks block [] rfl⟩
  · rintro ⟨hblocks, hblock⟩ before b after heq
    rcases eq_nil_or_concat after with rfl | ⟨front, last, rfl⟩
    · obtain ⟨rfl, hlast⟩ := append_inj' heq rfl
      obtain ⟨rfl, -⟩ := List.cons.inj hlast
      exact hblock
    · rw [concat_eq_append, ← cons_append, ← append_assoc] at heq
      obtain ⟨rfl, -⟩ := append_inj' heq rfl
      exact hblocks before b front rfl

/-! ### The shape of a well-formed chain -/

section Facts

variable (h : WellFormed host policy blocks)
include h

/-- **Heights count the blocks.** -/
theorem WellFormed.height_eq : ∀ (before after : Chain) (block : ChainBlock),
      blocks = before ++ block :: after → block.height = before.length := by
  intro before
  induction before using List.reverseRecOn with
  | nil =>
    intro after block heq
    exact (h [] block after heq).linked.1
  | append_singleton before parent ih =>
    intro after block heq
    have hparent : parent.height = before.length := ih (block :: after) parent (by simp [heq])
    have hlinked := (h (before ++ [parent]) block after heq).linked
    rw [LinkedAfter, getLast?_concat] at hlinked
    rw [hlinked.1, hparent]
    simp

theorem WellFormed.height_lt
    (hmem : block ∈ blocks) : 0 ≤ block.height ∧ block.height < blocks.length := by
  obtain ⟨before, after, heq⟩ := append_of_mem hmem
  rw [h.height_eq before after block heq, heq]
  simp

/-- A valid chain that holds the blocks of another extends it: the height of a block is its
position. -/
theorem WellFormed.prefix_of_subset {longer : Chain} (hlonger : WellFormed host policy longer)
    (hsub : ∀ b ∈ blocks, b ∈ longer) : blocks <+: longer := by
  have hheight : ∀ {chain : Chain}, WellFormed host policy chain →
      ∀ i (hi : i < chain.length), chain[i].height = i := by
    intro chain hchain i hi
    rw [hchain.height_eq (chain.take i) (chain.drop (i + 1)) _ (by simp), length_take,
      min_eq_left hi.le]
  rw [prefix_iff_getElem?]
  intro i hi
  obtain ⟨j, hj, heq⟩ := getElem_of_mem (hsub _ (getElem_mem hi))
  have hij := hheight hlonger j hj
  rw [heq, hheight h i hi, Nat.cast_inj] at hij
  subst hij
  rw [getElem?_eq_getElem hj, heq]

theorem WellFormed.pairwise_height : blocks.Pairwise (fun a b => a.height < b.height) := by
  induction blocks using List.reverseRecOn with
  | nil => exact List.Pairwise.nil
  | append_singleton blocks last ih =>
    rw [pairwise_append]
    refine ⟨ih h.of_append, pairwise_singleton _ _, ?_⟩
    intro a ha b hb
    rw [mem_singleton] at hb
    rw [hb, h.height_eq blocks [] last rfl]
    exact (h.of_append.height_lt ha).2

/-- **A well-formed chain is its own sorted order.** -/
theorem WellFormed.sortBlocks_eq : sortBlocks blocks = blocks :=
  sortBlocks_eq_self h.pairwise_height

/-- What is new in each block and distinct inside it is distinct in the chain. -/
theorem WellFormed.nodup_of_blocks {α : Type}
    (f : Chain → List α) (g : ChainBlock → List α) (hnil : f [] = [])
    (hconcat : ∀ before block, f (before ++ [block]) = f before ++ g block)
    (hblock : ∀ before block, BlockAccepted host policy before block →
      (g block).Nodup ∧ ∀ x ∈ g block, x ∉ f before) : (f blocks).Nodup := by
  induction blocks using List.reverseRecOn with
  | nil => rw [hnil]; exact nodup_nil
  | append_singleton blocks last ih =>
    obtain ⟨hblocks, hlast⟩ := wellFormed_concat.mp h
    obtain ⟨hnd, hnew⟩ := hblock blocks last hlast
    rw [hconcat]
    exact (ih hblocks).append hnd (fun x hx hx' => hnew x hx' hx)

theorem WellFormed.blockHash_nodup : (blocks.map ChainBlock.blockHash).Nodup := by
  refine h.nodup_of_blocks (List.map ChainBlock.blockHash) (fun b => [b.blockHash]) rfl ?_ ?_
  · intro before block
    rw [map_append, map_singleton]
  · intro before block hacc
    refine ⟨nodup_singleton _, ?_⟩
    intro x hx
    rw [mem_singleton] at hx
    exact hx ▸ hacc.hash_new

theorem WellFormed.strippedTxId_nodup : ((allTransactions blocks).map strippedTxId).Nodup := by
  refine h.nodup_of_blocks (fun bs => (allTransactions bs).map strippedTxId)
    (fun b => b.transactions.map strippedTxId) rfl ?_ ?_
  · intro before block
    simp
  · exact fun before block hacc => ⟨hacc.txIds_nodup, hacc.txIds_new⟩

theorem WellFormed.txId_nodup : ((allTransactions blocks).map ChainTransaction.txId).Nodup := by
  apply List.Nodup.of_map strip
  rw [map_map]
  exact h.strippedTxId_nodup

theorem WellFormed.nonce_nodup : (chainTransactionNonces host blocks).Nodup := by
  refine h.nodup_of_blocks (chainTransactionNonces host)
    (fun b => b.transactions.filterMap (nonceKey host)) rfl ?_ ?_
  · intro before block
    simp [chainTransactionNonces]
  · exact fun before block hacc => ⟨hacc.nonces_nodup, hacc.nonces_new⟩

/-! ### Balances are sums -/

/-- **The balance of an address is the sum of its transactions.** -/
theorem WellFormed.balance_eq (address : String) :
    Tally.get address (chainBalanceIndex host blocks) =
      (((allTransactions blocks).filter (fun tx => host.normalizeAddress tx.address = address)).map
        ChainTransaction.deltaAtomic).sum := by
  rw [chainBalanceIndex, Tally.tallyOnce_of_nodup _ _ h.txId_nodup, Tally.get_ofEntries]
  generalize allTransactions blocks = txs
  congr 1
  induction txs with
  | nil => rfl
  | cons tx txs ih =>
    rw [filterMap_cons_some (f := balanceEntry host) rfl]
    by_cases ha : host.normalizeAddress tx.address = address
    · simpa [ha] using ih
    · simpa [ha] using ih

/-- **The total is the sum of all transactions.** -/
theorem WellFormed.total_eq : chainTotalBalanceAtomic host blocks =
      ((allTransactions blocks).map ChainTransaction.deltaAtomic).sum := by
  rw [chainTotalBalanceAtomic, chainBalanceIndex, Tally.tallyOnce_of_nodup _ _ h.txId_nodup,
    Tally.total_ofEntries]
  generalize allTransactions blocks = txs
  congr 1
  induction txs with
  | nil => rfl
  | cons tx txs ih =>
    rw [filterMap_cons_some (f := balanceEntry host) rfl, map_cons, map_cons, ih]

/-! ### Acceptance of prefixes -/

/-- A well-formed chain is accepted exactly when its closing state is sound. -/
theorem WellFormed.validate_iff (hne : blocks ≠ []) :
    validateChainBlocks host policy blocks = .ok [] ↔ ClosingSound host policy blocks := by
  rw [validateChainBlocks_eq_nil_iff hne, h.sortBlocks_eq]
  exact and_iff_right h

end Facts

variable {address : String} {payload : Json}

/-! ### Acceptance does not see the spelling of addresses -/

section Respell

variable {g : ChainTransaction → ChainTransaction}

theorem map_strippedTxId_respell {txs : List ChainTransaction}
    (h : ∀ tx ∈ txs, SamePayload host (g tx) tx) :
    (txs.map g).map strippedTxId = txs.map strippedTxId := by
  rw [map_map]
  apply map_congr_left
  intro tx htx
  show strip (g tx).txId = strip tx.txId
  rw [(h tx htx).txId]

theorem LinkedAfter.respell (h : LinkedAfter host policy before block) :
    LinkedAfter host policy (before.map (ChainBlock.respell g)) (block.respell g) := by
  rw [LinkedAfter] at h ⊢
  rw [getLast?_map]
  rcases hlast : before.getLast? with - | parent
  · rw [hlast] at h
    exact h
  · rw [hlast] at h
    exact h

theorem BlockAccepted.respell (h : BlockAccepted host policy before block)
    (hbefore : ∀ tx ∈ allTransactions before, SamePayload host (g tx) tx)
    (hblock : ∀ tx ∈ block.transactions, SamePayload host (g tx) tx) :
    BlockAccepted host policy (before.map (ChainBlock.respell g)) (block.respell g) := by
  have hids : (block.respell g).transactions.map strippedTxId =
      block.transactions.map strippedTxId := map_strippedTxId_respell hblock
  have hnonces : (block.respell g).transactions.filterMap (nonceKey host) =
      block.transactions.filterMap (nonceKey host) := nonceKey_respell hblock
  refine
    { chainId := h.chainId, schemaVersion := h.schemaVersion, hash_new := ?_, hash_eq := ?_,
      linked := h.linked.respell, transactions_ne := ?_, txIds_ne := hids ▸ h.txIds_ne,
      txIds_nodup := hids ▸ h.txIds_nodup, txIds_new := ?_, txRoot := ?_, transactions := ?_,
      nonces_nodup := hnonces ▸ h.nonces_nodup, nonces_new := ?_, stateRoot := ?_ }
  · rw [map_map]
    exact h.hash_new
  · rw [computeBlockHash_respell hblock]
    exact h.hash_eq
  · exact fun hnil => h.transactions_ne (map_eq_nil_iff.mp hnil)
  · rw [hids, allTransactions_respell, map_strippedTxId_respell hbefore]
    exact h.txIds_new
  · show block.txRoot = computeTransactionRoot host (block.transactions.map g)
    rw [computeTransactionRoot_respell hblock]
    exact h.txRoot
  · intro tx htx
    obtain ⟨u, hu, rfl⟩ := mem_map.mp htx
    have hsame := hblock u hu
    have hacc := h.transactions u hu
    exact ⟨hsame.chainId.trans hacc.chainId, hsame.schemaVersion.trans hacc.schemaVersion,
      (hsame.verify_eq).trans hacc.signature⟩
  · rw [hnonces, chainTransactionNonces, allTransactions_respell, nonceKey_respell hbefore]
    exact h.nonces_new
  · have hall : ∀ tx ∈ allTransactions (before ++ [block]), SamePayload host (g tx) tx := by
      rw [allTransactions_append, forall_mem_append]
      exact ⟨hbefore, by simpa using hblock⟩
    have happend : before.map (ChainBlock.respell g) ++ [block.respell g] =
        (before ++ [block]).map (ChainBlock.respell g) := by
      rw [map_append, map_singleton]
    rw [happend, computeChainStateRoot_respell hall]
    exact h.stateRoot

theorem WellFormed.respell (h : WellFormed host policy blocks)
    (hall : ∀ tx ∈ allTransactions blocks, SamePayload host (g tx) tx) :
    WellFormed host policy (blocks.map (ChainBlock.respell g)) := by
  intro before block after heq
  obtain ⟨before', rest, rfl, rfl, hrest⟩ := map_eq_append_iff.mp heq
  obtain ⟨block', after', rfl, rfl, -⟩ := map_eq_cons_iff.mp hrest
  rw [allTransactions_append, allTransactions_cons] at hall
  refine (h before' block' after' rfl).respell ?_ ?_
  · exact fun tx htx => hall tx (mem_append_left _ htx)
  · exact fun tx htx => hall tx (mem_append_right _ (mem_append_left _ htx))

theorem ClosingSound.respell (h : ClosingSound host policy blocks)
    (hall : ∀ tx ∈ allTransactions blocks, SamePayload host (g tx) tx) :
    ClosingSound host policy (blocks.map (ChainBlock.respell g)) where
  balances := by
    rw [chainBalanceIndex_respell hall]
    exact h.balances
  supply := by
    rw [chainTotalBalanceAtomic, chainBalanceIndex_respell hall]
    exact h.supply
  bonds := by
    rw [validatorLockedBondIndex_respell hall]
    exact h.bonds

end Respell

/-! ### Building acceptable blocks -/

/-- What has to hold of a block before it is sealed, apart from the newness of its hash. -/
structure DraftAccepted (host : Host) (policy : WalletPolicy) (before : Chain)
    (draft : ChainBlock) : Prop where
  chainId : draft.chainId = policy.chainNetwork.value
  schemaVersion : draft.schemaVersion = chainSchemaVersion
  transactions_ne : draft.transactions ≠ []
  txIds_ne : "" ∉ draft.transactions.map strippedTxId
  txIds_nodup : (draft.transactions.map strippedTxId).Nodup
  txIds_new : ∀ txId ∈ draft.transactions.map strippedTxId,
    txId ∉ (allTransactions before).map strippedTxId
  txRoot : draft.txRoot = computeTransactionRoot host draft.transactions
  transactions : ∀ tx ∈ draft.transactions, TransactionAccepted host policy tx
  nonces_nodup : (draft.transactions.filterMap (nonceKey host)).Nodup
  nonces_new : ∀ key ∈ draft.transactions.filterMap (nonceKey host),
    key ∉ chainTransactionNonces host before

/-- Sealing makes the hash and the state root right by construction. -/
theorem DraftAccepted.seal {draft : ChainBlock} (h : DraftAccepted host policy before draft)
    (hlinked : LinkedAfter host policy before (draft.seal host before))
    (hnew : (draft.seal host before).blockHash ∉ before.map ChainBlock.blockHash) :
    BlockAccepted host policy before (draft.seal host before) :=
  { h with
    hash_new := hnew
    hash_eq := rfl
    linked := hlinked
    stateRoot := by
      show computeChainStateRoot host (before ++ [draft]) = _
      simp only [computeChainStateRoot, chainBalanceIndex, allTransactions_append,
        allTransactions_cons, allTransactions_nil, append_nil]
      rfl }

/-! ### The genesis block of a policy -/

section Genesis

variable (host policy)

/-- The identities of the genesis transactions are pairwise distinct: a statement about three
hashes, which no structure of the code can give. -/
def GenesisIdsDistinct : Prop :=
  ((genesisChainTransactions host (moneyPolicyForWalletPolicy host policy)).map
    ChainTransaction.txId).Nodup

/-- The genesis block of the policy. -/
def policyGenesis : ChainBlock := makeGenesisBlock host (moneyPolicyForWalletPolicy host policy)

/-- The hash of a block does not cover its state root. -/
theorem policyGenesis_blockHash : (policyGenesis host policy).blockHash =
    computeBlockHash host (genesisBlockDraft host (moneyPolicyForWalletPolicy host policy)) := rfl

end Genesis

/-! ### A chain of three blocks

The genesis block of the sample host and two blocks after it; the hashes are evaluated. -/

section Sample

/-- A transaction of the sample chain. -/
def sampleTransaction (txId address : String) (deltaAtomic : Int) : ChainTransaction where
  txId
  createdAt := "2026-01-02T00:00:00+00:00"
  txType := "adjustment"
  address
  deltaAtomic
  chainId := "testnet"

/-- A debit of the treasury under the scheme of fixed addresses, signed with keys that are not
the treasury's. -/
def sampleForgedDebit : ChainTransaction :=
  { sampleTransaction "d1" "c4" (-1) with
    txType := "wallet_transfer_debit"
    publicKeyB64 := some "YQ=="
    signatureB64 := some "YQ=="
    metadata := [("address_scheme", .str addressSchemeFixedWalletIdSha256),
      ("signing_scheme", .str signingSchemeHybridEd25519MlDsa65),
      ("pq_signature_scheme", .str signingSchemeMlDsa65),
      ("pq_public_key_b64", .str "YQ=="), ("pq_signature_b64", .str "YQ==")] }

/-- A block of the sample chain before it is sealed. -/
def sampleDraft (height : Int) (previousHash : String) (transactions : List ChainTransaction) :
    ChainBlock where
  blockId := "b"
  height
  createdAt := "2026-01-02T00:00:00+00:00"
  previousHash
  validatorId := .null
  transactions
  blockHash := ""
  chainId := "testnet"
  txRoot := computeTransactionRoot sampleHost transactions

def sampleGenesis : ChainBlock := policyGenesis sampleHost samplePolicy

/-- After this block the balance of `ee` is negative. -/
def sampleFirst : ChainBlock :=
  (sampleDraft 1 "7743f51555b5f62f11eb196b78c9e8d519efa21d50d1f9c404bf9c2fb68abbb9"
    [sampleForgedDebit, sampleTransaction "d2" "dd" 2, sampleTransaction "d3" "ee" (-1)]).seal
      sampleHost [sampleGenesis]

/-- This block makes up for it. -/
def sampleSecond : ChainBlock :=
  (sampleDraft 2 "139e33f62a9e37eb61dc15a8a1247dea939a29a3c345aa38ae21ac8e90610bee"
    [sampleTransaction "d4" "ee" 1, sampleTransaction "d5" "dd" (-1)]).seal
      sampleHost [sampleGenesis, sampleFirst]

/-- A genesis transaction with the given identity. -/
def sampleCredit (txId txType address : String) (deltaAtomic : Int) (walletId note : String) :
    ChainTransaction where
  txId
  createdAt := genesisCreatedAt.text
  txType
  address
  deltaAtomic
  walletId := .str walletId
  note := .str note
  chainId := "testnet"
  metadata := [("network", .str "testnet"), ("reward_token_code", .str "CAICN")]

def sampleGenesisTransactions : List ChainTransaction :=
  [sampleCredit "27c91e5bb59694ba6068074270da9bce" "genesis_compute_reserve_credit"
      "system:compute-reserve:testnet" 85000000000000000 "system-compute-reserve-testnet"
      ("Genesis allocation for the CAI compute reserve. This is the chain source of " ++
        "reserve-funded jobs."),
    sampleCredit "ff70d70e4d28966f20023c125677bc40" "genesis_developer_contribution_fund_credit"
      "system:developer-contribution-fund:testnet" 10000000000000000
      "system-developer-contribution-fund-testnet"
      ("Genesis allocation for the developer contribution fund. Distribution is governed by " ++
        "the public contribution rules."),
    sampleCredit "76da613fcfa4d6bd5b41590379790495" "genesis_developer_treasury_credit" "c4"
      5000000000000000 "t" "Genesis allocation for the fixed founder treasury wallet."]

theorem normalize_sampleReserve : sampleHost.normalizeAddress "system:compute-reserve:testnet" =
    "system:compute-reserve:testnet" :=
  computeReserveChainAddress_eq sampleHost (moneyPolicyForWalletPolicy sampleHost samplePolicy)

theorem normalize_sampleFund :
    sampleHost.normalizeAddress "system:developer-contribution-fund:testnet" =
      "system:developer-contribution-fund:testnet" :=
  developerContributionFundChainAddress_eq sampleHost
    (moneyPolicyForWalletPolicy sampleHost samplePolicy)

theorem normalize_sampleTreasury : sampleHost.normalizeAddress "c4" = "c4" := by decide

/-- The identities of the genesis transactions, evaluated. -/
theorem sampleGenesis_txIds :
    deterministicTxId sampleHost "system:compute-reserve:testnet" "testnet"
        { txType := "genesis_compute_reserve_credit", address := ""
          deltaAtomic := 85000000000000000, walletId := some "system-compute-reserve-testnet" } =
      "27c91e5bb59694ba6068074270da9bce" ∧
    deterministicTxId sampleHost "system:developer-contribution-fund:testnet" "testnet"
        { txType := "genesis_developer_contribution_fund_credit", address := ""
          deltaAtomic := 10000000000000000
          walletId := some "system-developer-contribution-fund-testnet" } =
      "ff70d70e4d28966f20023c125677bc40" ∧
    deterministicTxId sampleHost "c4" "testnet"
        { txType := "genesis_developer_treasury_credit", address := ""
          deltaAtomic := 5000000000000000, walletId := some "t" } =
      "76da613fcfa4d6bd5b41590379790495" := by
  rw [deterministicTxId, deterministicTxId, deterministicTxId, normalize_sampleReserve,
    normalize_sampleFund, normalize_sampleTreasury]
  decide +kernel

theorem sampleGenesis_transactions :
    genesisChainTransactions sampleHost (moneyPolicyForWalletPolicy sampleHost samplePolicy) =
      sampleGenesisTransactions := by
  have hreserve : computeReserveChainAddress sampleHost
      (moneyPolicyForWalletPolicy sampleHost samplePolicy) = "system:compute-reserve:testnet" :=
    normalize_sampleReserve
  have hfund : developerContributionFundChainAddress sampleHost
      (moneyPolicyForWalletPolicy sampleHost samplePolicy) =
        "system:developer-contribution-fund:testnet" := normalize_sampleFund
  have htreasury : (moneyPolicyForWalletPolicy sampleHost samplePolicy).developerTreasuryAddress =
      "c4" := rfl
  obtain ⟨h₀, h₁, h₂⟩ := sampleGenesis_txIds
  rw [sampleGenesisTransactions, ← h₀, ← h₁, ← h₂, genesisChainTransactions, hreserve, hfund,
    htreasury]
  simp only [makeChainTransaction]
  rw [normalize_sampleReserve, normalize_sampleFund, normalize_sampleTreasury]
  rfl

theorem sampleGenesis_idsDistinct : GenesisIdsDistinct sampleHost samplePolicy := by
  rw [GenesisIdsDistinct, sampleGenesis_transactions]
  decide

theorem sampleGenesis_blockHash : sampleGenesis.blockHash =
    "7743f51555b5f62f11eb196b78c9e8d519efa21d50d1f9c404bf9c2fb68abbb9" := by
  rw [sampleGenesis, policyGenesis_blockHash, computeBlockHash, blockHashPayload,
    genesisBlockDraft, sampleGenesis_transactions]
  simp only [sampleGenesisTransactions, map_cons, map_nil, transactionPayload,
    sampleCredit, normalize_sampleReserve, normalize_sampleFund, normalize_sampleTreasury]
  decide +kernel

theorem sampleFirst_blockHash : sampleFirst.blockHash =
    "139e33f62a9e37eb61dc15a8a1247dea939a29a3c345aa38ae21ac8e90610bee" := by
  decide +kernel

theorem sampleSecond_blockHash : sampleSecond.blockHash =
    "d0d5c3499c727e46dc92e7baa3a67bdd70f5cb594f843c1287d3fb533a163102" := by
  decide +kernel

end Sample

/-! ### The genesis block is accepted -/

section Genesis

theorem strip_takeString_canonicalHash :
    strip (takeString 32 (canonicalHash payload)) = takeString 32 (canonicalHash payload) := by
  have hspace : ∀ c ∈ Sha256.hexAlphabet, isSpace c = false := by decide
  apply strip_eq_self
  intro c hc
  rw [takeString, String.toList_ofList] at hc
  exact hspace c (mem_hexAlphabet_of_mem_canonicalHash (mem_of_mem_take hc))

theorem takeString_canonicalHash_ne_empty : takeString 32 (canonicalHash payload) ≠ "" := by
  intro h
  have hlen : (takeString 32 (canonicalHash payload)).toList.length = 32 := by
    rw [takeString, String.toList_ofList, length_take, canonicalHash, String.toList_ofList,
      Sha256.length_hexdigest]
    rfl
  rw [h] at hlen
  cases hlen

/-- What the three genesis transactions have in common. -/
structure GenesisCredit (host : Host) (money : MoneyPolicy) (tx : ChainTransaction) : Prop where
  strip_txId : strip tx.txId = tx.txId
  txId_ne : tx.txId ≠ ""
  nonce : tx.nonce = none
  chainId : tx.chainId = money.chainNetwork.value
  schemaVersion : tx.schemaVersion = chainSchemaVersion
  unsigned : signatureRequired tx = false
  deltaAtomic : 0 ≤ tx.deltaAtomic
  unlocked : lockedBondEntry host tx = none

theorem network_value_ne {network : ChainNetwork} : network.value ≠ "" := by
  cases network <;> decide

theorem genesisCredit_of_args {money : MoneyPolicy} {args : TransactionArgs}
    (htype : args.txType ∉ signableWalletTransactionTypes)
    (hbond : args.txType ∉ ["validator_bond_lock", "validator_bond_pool_debit"])
    (hid : args.txId = none) (hnonce : args.nonce = none)
    (hchain : args.chainId = some money.chainNetwork.value)
    (hschema : args.schemaVersion = chainSchemaVersion)
    (hmeta : args.metadata = genesisMetadata money) (hdelta : 0 ≤ args.deltaAtomic) :
    GenesisCredit host money (makeChainTransaction host genesisCreatedAt args) where
  strip_txId := by
    simp only [makeChainTransaction, hid, nonempty?, Option.getD_none]
    exact strip_takeString_canonicalHash
  txId_ne := by
    simp only [makeChainTransaction, hid, nonempty?, Option.getD_none]
    exact takeString_canonicalHash_ne_empty
  nonce := hnonce
  chainId := by
    simp only [makeChainTransaction, resolvedChainId, hchain, nonempty?, network_value_ne, if_false]
  schemaVersion := hschema
  unsigned := by
    simp only [signatureRequired, makeChainTransaction, hmeta, htype, decide_false, Bool.or_false]
    rfl
  deltaAtomic := hdelta
  unlocked := by
    rw [lockedBondEntry]
    exact if_neg hbond

theorem atomicOfCoins_nonneg {coins decimals : Nat} : 0 ≤ atomicOfCoins coins decimals := by
  rw [atomicOfCoins]
  exact_mod_cast Nat.zero_le (coins * 10 ^ decimals)

theorem genesisCredit_of_mem {money : MoneyPolicy} {tx : ChainTransaction}
    (h : tx ∈ genesisChainTransactions host money) : GenesisCredit host money tx := by
  rw [genesisChainTransactions] at h
  simp only [mem_cons, not_mem_nil, or_false] at h
  rcases h with rfl | rfl | rfl
  all_goals
    exact genesisCredit_of_args (by simp [signableWalletTransactionTypes]) (by simp) rfl rfl rfl
      rfl rfl atomicOfCoins_nonneg

theorem map_strippedTxId_genesis {money : MoneyPolicy} :
    (genesisChainTransactions host money).map strippedTxId =
      (genesisChainTransactions host money).map ChainTransaction.txId :=
  map_congr_left fun _ htx => (genesisCredit_of_mem htx).strip_txId

variable (host policy)

/-- The genesis block of the policy, before it is sealed, meets every condition that does not
concern its hash. -/
theorem genesisDraft_accepted (hids : GenesisIdsDistinct host policy) :
    DraftAccepted host policy []
      (genesisBlockDraft host (moneyPolicyForWalletPolicy host policy)) := by
  refine
    { chainId := rfl, schemaVersion := rfl, transactions_ne := cons_ne_nil _ _, txIds_ne := ?_,
      txIds_nodup := ?_, txIds_new := fun _ _ => not_mem_nil, txRoot := rfl,
      transactions := ?_, nonces_nodup := ?_, nonces_new := fun _ _ => not_mem_nil }
  · show "" ∉ (genesisChainTransactions host _).map strippedTxId
    rw [map_strippedTxId_genesis, mem_map]
    rintro ⟨tx, htx, hempty⟩
    exact (genesisCredit_of_mem htx).txId_ne hempty
  · show ((genesisChainTransactions host _).map strippedTxId).Nodup
    rw [map_strippedTxId_genesis]
    exact hids
  · intro tx htx
    have hc := genesisCredit_of_mem htx
    refine ⟨hc.chainId, hc.schemaVersion, ?_⟩
    rw [verifyChainTransactionSignature, if_pos hc.unsigned]
  · show ((genesisChainTransactions host _).filterMap (nonceKey host)).Nodup
    rw [filterMap_eq_nil_iff.mpr fun tx htx => ?_]
    · exact nodup_nil
    · rw [nonceKey, (genesisCredit_of_mem htx).nonce]
      rfl

theorem policyGenesis_wellFormed (hids : GenesisIdsDistinct host policy) :
    WellFormed host policy [policyGenesis host policy] := by
  rw [← nil_append [policyGenesis host policy], wellFormed_concat]
  refine ⟨wellFormed_nil, ?_⟩
  exact (genesisDraft_accepted host policy hids).seal ⟨rfl, rfl, rfl⟩ not_mem_nil

theorem policyGenesis_closingSound (hids : GenesisIdsDistinct host policy) :
    ClosingSound host policy [policyGenesis host policy] := by
  have hwell := policyGenesis_wellFormed host policy hids
  have hall : allTransactions [policyGenesis host policy] =
      genesisChainTransactions host (moneyPolicyForWalletPolicy host policy) := by
    simp only [allTransactions_cons, allTransactions_nil, append_nil]
    rfl
  refine ⟨?_, ?_, ?_⟩
  · intro address
    rw [hwell.balance_eq, hall]
    apply sum_nonneg
    intro delta hdelta
    obtain ⟨tx, htx, rfl⟩ := mem_map.mp hdelta
    exact (genesisCredit_of_mem (mem_of_mem_filter htx)).deltaAtomic
  · rw [hwell.total_eq, hall]
    exact genesis_allocations host policy
  · intro validatorId
    have hbonds : validatorLockedBondIndex host [policyGenesis host policy] = [] := by
      rw [validatorLockedBondIndex, Tally.tallyOnce_of_nodup _ _ hwell.txId_nodup, hall,
        filterMap_eq_nil_iff.mpr (fun tx htx => (genesisCredit_of_mem htx).unlocked)]
      rfl
    rw [hbonds]
    exact le_refl 0

/-- **The validator accepts the genesis block of the policy.** -/
theorem policyGenesis_accepted (hids : GenesisIdsDistinct host policy) :
    validateChainBlocks host policy [policyGenesis host policy] = .ok [] :=
  ((policyGenesis_wellFormed host policy hids).validate_iff (cons_ne_nil _ _)).mpr
    (policyGenesis_closingSound host policy hids)

end Genesis

/-! ### The chain of three blocks is accepted -/

section Sample

theorem allTransactions_sampleGenesis :
    allTransactions [sampleGenesis] = sampleGenesisTransactions := by
  rw [← sampleGenesis_transactions, allTransactions_cons, allTransactions_nil, append_nil]
  rfl

theorem sampleForgedDebit_accepted :
    TransactionAccepted sampleHost samplePolicy sampleForgedDebit :=
  ⟨rfl, rfl, rfl⟩

theorem sampleTransaction_accepted {txId : String} {deltaAtomic : Int} :
    TransactionAccepted sampleHost samplePolicy (sampleTransaction txId address deltaAtomic) :=
  ⟨rfl, rfl, rfl⟩

/-- Transactions without nonces, with identities that are new. -/
theorem sampleDraft_accepted {height : Int} {previousHash : String}
    {txs : List ChainTransaction} (hne : txs ≠ [])
    (hids : "" ∉ txs.map strippedTxId ∧ (txs.map strippedTxId).Nodup)
    (hnew : ∀ txId ∈ txs.map strippedTxId, txId ∉ (allTransactions before).map strippedTxId)
    (haccepted : ∀ tx ∈ txs, TransactionAccepted sampleHost samplePolicy tx)
    (hnonce : ∀ tx ∈ txs, tx.nonce = none) :
    DraftAccepted sampleHost samplePolicy before (sampleDraft height previousHash txs) := by
  have hnonces : txs.filterMap (nonceKey sampleHost) = [] := by
    rw [filterMap_eq_nil_iff]
    intro tx htx
    rw [nonceKey, hnonce tx htx]
    rfl
  refine
    { chainId := rfl, schemaVersion := rfl, transactions_ne := hne, txIds_ne := hids.1
      txIds_nodup := hids.2, txIds_new := hnew, txRoot := rfl, transactions := haccepted
      nonces_nodup := ?_, nonces_new := ?_ }
  · show (txs.filterMap (nonceKey sampleHost)).Nodup
    rw [hnonces]
    exact nodup_nil
  · show ∀ key ∈ txs.filterMap (nonceKey sampleHost), _
    rw [hnonces]
    exact fun key hkey => by cases hkey

theorem sampleGenesis_wellFormed : WellFormed sampleHost samplePolicy [sampleGenesis] :=
  policyGenesis_wellFormed _ _ sampleGenesis_idsDistinct

theorem sampleFirst_wellFormed :
    WellFormed sampleHost samplePolicy ([sampleGenesis] ++ [sampleFirst]) := by
  refine wellFormed_concat.mpr ⟨sampleGenesis_wellFormed, ?_⟩
  apply DraftAccepted.seal
  · apply sampleDraft_accepted (cons_ne_nil _ _) (by decide)
    · rw [allTransactions_sampleGenesis]
      decide
    · simp only [forall_mem_cons]
      exact ⟨sampleForgedDebit_accepted, sampleTransaction_accepted,
        sampleTransaction_accepted, forall_mem_nil _⟩
    · simp [sampleForgedDebit, sampleTransaction]
  · exact ⟨rfl, sampleGenesis_blockHash.symm⟩
  · rw [← sampleFirst, sampleFirst_blockHash, map_singleton, sampleGenesis_blockHash]
    decide

theorem sampleChain_wellFormed :
    WellFormed sampleHost samplePolicy ([sampleGenesis, sampleFirst] ++ [sampleSecond]) := by
  refine wellFormed_concat.mpr ⟨sampleFirst_wellFormed, ?_⟩
  apply DraftAccepted.seal
  · apply sampleDraft_accepted (cons_ne_nil _ _) (by decide)
    · rw [show [sampleGenesis, sampleFirst] = [sampleGenesis] ++ [sampleFirst] from rfl,
        allTransactions_append, allTransactions_sampleGenesis]
      decide
    · simp only [forall_mem_cons]
      exact ⟨sampleTransaction_accepted, sampleTransaction_accepted, forall_mem_nil _⟩
    · simp [sampleTransaction]
  · exact ⟨rfl, sampleFirst_blockHash.symm⟩
  · rw [← sampleSecond, sampleSecond_blockHash]
    simp only [map_cons, map_nil, sampleFirst_blockHash, sampleGenesis_blockHash]
    decide

/-- The closing conditions of blocks over the genesis block, on the transactions.  No hash is in
them, so that they are evaluated where the transactions are known. -/
theorem sampleGenesis_closingSound {blocks : Chain} {txs : List ChainTransaction}
    (htxs : allTransactions blocks = txs)
    (h : (∀ e ∈ Tally.tallyOnce ChainTransaction.txId (balanceEntry sampleHost)
        (sampleGenesisTransactions ++ txs), 0 ≤ e.2) ∧
      Tally.total (Tally.tallyOnce ChainTransaction.txId (balanceEntry sampleHost)
        (sampleGenesisTransactions ++ txs)) =
          expectedTotalSupplyAtomic (moneyPolicyForWalletPolicy sampleHost samplePolicy) ∧
      ∀ e ∈ Tally.tallyOnce ChainTransaction.txId (lockedBondEntry sampleHost)
        (sampleGenesisTransactions ++ txs), 0 ≤ e.2) :
    ClosingSound sampleHost samplePolicy (sampleGenesis :: blocks) := by
  have hall : allTransactions (sampleGenesis :: blocks) = sampleGenesisTransactions ++ txs := by
    rw [← singleton_append, allTransactions_append, allTransactions_sampleGenesis, htxs]
  rw [← hall] at h
  exact ⟨Tally.get_nonneg h.1, h.2.1, Tally.get_nonneg h.2.2⟩

theorem sampleChain_closingSound :
    ClosingSound sampleHost samplePolicy [sampleGenesis, sampleFirst, sampleSecond] :=
  sampleGenesis_closingSound rfl (by decide +kernel)

theorem sampleChain_accepted : validateChainBlocks sampleHost samplePolicy
    [sampleGenesis, sampleFirst, sampleSecond] = .ok [] :=
  (sampleChain_wellFormed.validate_iff (cons_ne_nil _ _)).mpr sampleChain_closingSound

end Sample

/-! ### Acceptance of prefixes -/

/-- **What is left of acceptance on a prefix**: the walk finds no error in any prefix of an
accepted chain, and the prefix is accepted exactly when the closing conditions, which the
validator evaluates for the whole list only, hold of the prefix itself. -/
theorem validateChainBlocks_prefix_iff (haccepted : validateChainBlocks host policy blocks = .ok [])
    (front rest : List ChainBlock) (hsplit : sortBlocks blocks = front ++ rest) (hne : front ≠ []) :
    walkErrors host policy 0 {} front = .ok [] ∧
      (validateChainBlocks host policy front = .ok [] ↔ ClosingSound host policy front) := by
  have hblocks : blocks ≠ [] := by
    rintro rfl
    rw [sortBlocks_nil] at hsplit
    exact hne (append_eq_nil_iff.mp hsplit.symm).1
  have hwell : WellFormed host policy front := by
    have := ((validateChainBlocks_eq_nil_iff hblocks).mp haccepted).1
    rw [hsplit] at this
    exact this.of_append
  exact ⟨(@walkErrors_eq_nil host policy front []).mpr hwell, hwell.validate_iff hne⟩

/-- The walk over the first two sample blocks. -/
theorem validateChainBlocks_prefix_sample :
    walkErrors sampleHost samplePolicy 0 {} [sampleGenesis, sampleFirst] = .ok [] :=
  (validateChainBlocks_prefix_iff sampleChain_accepted [sampleGenesis, sampleFirst] [sampleSecond]
    sampleChain_wellFormed.sortBlocks_eq (cons_ne_nil _ _)).1

/-- The sample chain is accepted, and its first two blocks are not: in between, `ee` owes one. -/
theorem validateChainBlocks_prefix_rejected :
    validateChainBlocks sampleHost samplePolicy [sampleGenesis, sampleFirst, sampleSecond] =
        .ok [] ∧
      validateChainBlocks sampleHost samplePolicy [sampleGenesis, sampleFirst] ≠ .ok [] ∧
      Tally.get "ee" (chainBalanceIndex sampleHost [sampleGenesis, sampleFirst]) = -1 := by
  have hbalance : Tally.get "ee" (chainBalanceIndex sampleHost [sampleGenesis, sampleFirst]) =
      -1 := by
    rw [chainBalanceIndex, ← singleton_append, allTransactions_append,
      allTransactions_sampleGenesis]
    decide +kernel
  refine ⟨sampleChain_accepted, ?_, hbalance⟩
  intro haccepted
  have hsound := (sampleFirst_wellFormed.validate_iff (cons_ne_nil _ _)).mp haccepted
  have hee := hsound.balances "ee"
  rw [show [sampleGenesis] ++ [sampleFirst] = [sampleGenesis, sampleFirst] from rfl,
    hbalance] at hee
  exact absurd hee (by decide)

end CaiNetwork
