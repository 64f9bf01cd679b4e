/-
CaiNetwork/Block.lean

Blocks of the chain (`chain.py`): the record, its hash, the transaction and state roots, and
the two indexes a list of blocks determines, balances by address and locked bonds by
validator.

Both indexes are guarded tallies (`Tally.tallyOnce`) over all transactions of the list.
`ChainBlock.respell` replaces the transactions of a block by ones of the same payloads; hashes,
roots, balances, bonds and nonces do not notice.
-/

import CaiNetwork.Tally
import CaiNetwork.Transaction

namespace CaiNetwork

open List

variable {txs : List ChainTransaction}

/-! ### Blocks and their hashes -/

/-- `GENESIS_PREVIOUS_HASH`. -/
def genesisPreviousHash : String := String.ofList (List.replicate 64 '0')

/-- `ChainBlock`, without the two signature fields that nothing sets. -/
structure ChainBlock where
  blockId : String
  height : Int
  createdAt : String
  previousHash : String
  validatorId : Json
  transactions : List ChainTransaction
  blockHash : String
  chainId : String
  schemaVersion : Int := chainSchemaVersion
  txRoot : String := ""
  stateRoot : String := ""
deriving Inhabited

/-- The blocks of a chain, in order. -/
abbrev Chain := List ChainBlock

variable {blocks : Chain}

/-- The transactions of a list of blocks, in order. -/
def allTransactions (blocks : Chain) : List ChainTransaction :=
  blocks.flatMap ChainBlock.transactions

@[simp] theorem allTransactions_nil : allTransactions [] = [] := rfl

@[simp] theorem allTransactions_append {more : Chain} :
    allTransactions (blocks ++ more) = allTransactions blocks ++ allTransactions more :=
  flatMap_append

@[simp] theorem allTransactions_cons (block : ChainBlock) (blocks : Chain) :
    allTransactions (block :: blocks) = block.transactions ++ allTransactions blocks := rfl

variable (host : Host)

/-- `_block_hash_payload`. -/
def blockHashPayload (block : ChainBlock) : Json :=
  .obj [("chain_id", .str (if block.chainId = "" then host.defaultChainId else block.chainId)),
    ("schema_version", .int (if block.schemaVersion = 0 then chainSchemaVersion
      else block.schemaVersion)),
    ("block_id", .str block.blockId),
    ("height", .int block.height),
    ("created_at", .str block.createdAt),
    ("previous_hash", .str block.previousHash),
    ("validator_id", block.validatorId),
    ("transactions", .arr (block.transactions.map (transactionPayload host)))]

/-- `compute_block_hash`. -/
def computeBlockHash (block : ChainBlock) : String := canonicalHash (blockHashPayload host block)

/-- `compute_transaction_root`. -/
def computeTransactionRoot (transactions : List ChainTransaction) : String :=
  canonicalHash (.arr (transactions.map (transactionPayload host)))

/-! ### Indexes -/

/-- The entry of a transaction in the balance index. -/
def balanceEntry (tx : ChainTransaction) : Option (String × Int) :=
  some (host.normalizeAddress tx.address, tx.deltaAtomic)

/-- `chain_balance_index(blocks=...)`. -/
def chainBalanceIndex (blocks : Chain) : Tally String :=
  Tally.tallyOnce ChainTransaction.txId (balanceEntry host) (allTransactions blocks)

/-- `_validator_id_from_bond_metadata`. -/
def validatorIdFromBondMetadata (tx : ChainTransaction) : Option String :=
  let raw := (Json.getD tx.metadata "validator_id").pyOr
    ((Json.getD tx.metadata "validator_address").pyOr (Json.getD tx.metadata "validatorAddress"))
  match raw with
  | .null => none
  | v => nonempty? (some (host.normalizeAddress (host.str v)))

/-- The entry of a transaction in the locked-bond index. -/
def lockedBondEntry (tx : ChainTransaction) : Option (String × Int) :=
  if tx.txType ∈ ["validator_bond_lock", "validator_bond_pool_debit"] then
    match validatorIdFromBondMetadata host tx with
    | none => none
    | some validatorId =>
      let delta := if tx.txType = "validator_bond_lock" then max 0 (-tx.deltaAtomic)
        else tx.deltaAtomic
      if delta = 0 then none else some (validatorId, delta)
  else none

/-- `validator_locked_bond_index(blocks=...)`. -/
def validatorLockedBondIndex (blocks : Chain) : Tally String :=
  Tally.tallyOnce ChainTransaction.txId (lockedBondEntry host) (allTransactions blocks)

theorem keys_nodup_chainBalanceIndex (blocks : Chain) :
    ((chainBalanceIndex host blocks).map Prod.fst).Nodup :=
  Tally.keys_nodup_tallyOnce _ _ _

theorem keys_nodup_validatorLockedBondIndex (blocks : Chain) :
    ((validatorLockedBondIndex host blocks).map Prod.fst).Nodup :=
  Tally.keys_nodup_tallyOnce _ _ _

/-- The order of `sorted(index.items())` on an index that holds each key once. -/
def entryLe (e f : String × Int) : Prop := Json.stringLe e.1 f.1 = true

instance : DecidableRel entryLe := fun e f =>
  inferInstanceAs (Decidable (Json.stringLe e.1 f.1 = true))

/-- `compute_state_root_from_balances`. -/
def computeStateRootFromBalances (balances : Tally String) : String :=
  canonicalHash (.arr (((balances.insertionSort entryLe).filter (fun e => e.2 ≠ 0)).map fun e =>
    .obj [("address", .str (host.normalizeAddress e.1)), ("balance_atomic", .int e.2)]))

/-- `compute_chain_state_root`. -/
def computeChainStateRoot (blocks : Chain) : String :=
  computeStateRootFromBalances host (chainBalanceIndex host blocks)

/-- `_chain_total_balance_atomic`. -/
def chainTotalBalanceAtomic (blocks : Chain) : Int :=
  Tally.total (chainBalanceIndex host blocks)

/-- The key under which a transaction's nonce is spent. -/
def nonceKey (tx : ChainTransaction) : Option (String × String) :=
  tx.nonce.map fun nonce => (host.normalizeAddress tx.address, nonce)

/-- `_chain_transaction_nonces`, as a list. -/
def chainTransactionNonces (blocks : Chain) : List (String × String) :=
  (allTransactions blocks).filterMap (nonceKey host)

/-! ### The order of blocks -/

/-- The order of `(height, created_at, block_hash)`. -/
def blockLe (a b : ChainBlock) : Prop :=
  if a.height ≠ b.height then a.height < b.height
  else if a.createdAt ≠ b.createdAt then Json.stringLe a.createdAt b.createdAt = true
  else Json.stringLe a.blockHash b.blockHash = true

instance : DecidableRel blockLe := fun a b =>
  inferInstanceAs (Decidable (if a.height ≠ b.height then a.height < b.height
    else if a.createdAt ≠ b.createdAt then Json.stringLe a.createdAt b.createdAt = true
    else Json.stringLe a.blockHash b.blockHash = true))

/-- `sorted(blocks, key=...)`. -/
def sortBlocks (blocks : Chain) : Chain := blocks.insertionSort blockLe

@[simp] theorem sortBlocks_nil : sortBlocks [] = [] := rfl

theorem sortBlocks_eq_nil_iff : sortBlocks blocks = [] ↔ blocks = [] := by
  rw [← length_eq_zero_iff, sortBlocks, length_insertionSort, length_eq_zero_iff]

/-- Blocks of increasing heights are in order. -/
theorem sortBlocks_eq_self
    (h : blocks.Pairwise (fun a b => a.height < b.height)) : sortBlocks blocks = blocks := by
  apply List.Pairwise.insertionSort_eq
  refine h.imp ?_
  intro a b hab
  rw [blockLe, if_pos (by omega)]
  exact hab

/-! ### Other spellings of the same transactions -/

/-- The block with every transaction replaced. -/
def ChainBlock.respell (g : ChainTransaction → ChainTransaction) (block : ChainBlock) :
    ChainBlock :=
  { block with transactions := block.transactions.map g }

section Respell

variable {host} {g : ChainTransaction → ChainTransaction}

theorem allTransactions_respell :
    allTransactions (blocks.map (ChainBlock.respell g)) = (allTransactions blocks).map g := by
  rw [allTransactions, allTransactions, flatMap_map, map_flatMap]
  rfl

theorem map_payload_respell (h : ∀ tx ∈ txs, SamePayload host (g tx) tx) :
    (txs.map g).map (transactionPayload host) = txs.map (transactionPayload host) := by
  rw [map_map]
  apply map_congr_left
  intro tx htx
  exact (h tx htx).payload_eq

theorem computeTransactionRoot_respell (h : ∀ tx ∈ txs, SamePayload host (g tx) tx) :
    computeTransactionRoot host (txs.map g) = computeTransactionRoot host txs := by
  rw [computeTransactionRoot, computeTransactionRoot, map_payload_respell h]

theorem computeBlockHash_respell {block : ChainBlock}
    (h : ∀ tx ∈ block.transactions, SamePayload host (g tx) tx) :
    computeBlockHash host (block.respell g) = computeBlockHash host block := by
  have htransactions : (block.respell g).transactions = block.transactions.map g := rfl
  rw [computeBlockHash, blockHashPayload, htransactions, map_payload_respell h]
  rfl

theorem chainBalanceIndex_respell (h : ∀ tx ∈ allTransactions blocks, SamePayload host (g tx) tx) :
    chainBalanceIndex host (blocks.map (ChainBlock.respell g)) = chainBalanceIndex host blocks := by
  rw [chainBalanceIndex, allTransactions_respell]
  apply Tally.tallyOnce_map
  · exact fun tx htx => (h tx htx).txId
  · intro tx htx
    rw [balanceEntry, balanceEntry, (h tx htx).address, (h tx htx).deltaAtomic]

theorem validatorLockedBondIndex_respell
    (h : ∀ tx ∈ allTransactions blocks, SamePayload host (g tx) tx) :
    validatorLockedBondIndex host (blocks.map (ChainBlock.respell g)) =
      validatorLockedBondIndex host blocks := by
  rw [validatorLockedBondIndex, allTransactions_respell]
  apply Tally.tallyOnce_map
  · exact fun tx htx => (h tx htx).txId
  · intro tx htx
    rw [lockedBondEntry, lockedBondEntry, validatorIdFromBondMetadata,
      validatorIdFromBondMetadata, (h tx htx).txType, (h tx htx).metadata, (h tx htx).deltaAtomic]

theorem computeChainStateRoot_respell
    (h : ∀ tx ∈ allTransactions blocks, SamePayload host (g tx) tx) :
    computeChainStateRoot host (blocks.map (ChainBlock.respell g)) =
      computeChainStateRoot host blocks := by
  rw [computeChainStateRoot, chainBalanceIndex_respell h, computeChainStateRoot]

theorem nonceKey_respell (h : ∀ tx ∈ txs, SamePayload host (g tx) tx) :
    (txs.map g).filterMap (nonceKey host) = txs.filterMap (nonceKey host) := by
  rw [filterMap_map]
  apply filterMap_congr
  intro tx htx
  show nonceKey host (g tx) = nonceKey host tx
  rw [nonceKey, nonceKey, (h tx htx).address, (h tx htx).nonce]

theorem sortBlocks_respell :
    sortBlocks (blocks.map (ChainBlock.respell g)) =
      (sortBlocks blocks).map (ChainBlock.respell g) := by
  rw [sortBlocks, sortBlocks, map_insertionSort blockLe blockLe]
  intro a _ b _
  exact Iff.rfl

end Respell

end CaiNetwork
