/-
CaiNetwork/History.lean

Histories of addresses and settlements on a chain (`chain_address_history`,
`chain_settlement_history` of `chain.py`).

A history can be read off the blocks (the *scan*) or off the index file.  The scan strips the id
of a transaction before it compares, the index files it under the id as it is
(`indexedSettlementHistory`).
-/

import CaiNetwork.Append

namespace CaiNetwork

/-- The first item of every identity that was not seen before. -/
def firstOf {α ι : Type} [DecidableEq ι] (ident : α → ι) : List ι → List α → List α
  | _, [] => []
  | seen, x :: xs =>
    if ident x ∈ seen then firstOf ident seen xs else x :: firstOf ident (ident x :: seen) xs

/-- A transaction in its block. -/
structure Placed where
  block : ChainBlock
  tx : ChainTransaction

/-- The transactions of a chain in order, each id once. -/
def placedTransactions (blocks : Chain) : List Placed :=
  firstOf (fun p => p.tx.txId) [] (blocks.flatMap fun b => b.transactions.map fun tx => ⟨b, tx⟩)

/-- `_chain_transaction_history_entry`. -/
structure HistoryEntry where
  tx : ChainTransaction
  blockHeight : Int
  blockHash : String
  blockCreatedAt : String
  balanceAfterAtomic : Option Int := none

/-- The entry of a transaction. -/
def Placed.entry (placed : Placed) (balanceAfter : Option Int := none) : HistoryEntry where
  tx := placed.tx
  blockHeight := placed.block.height
  blockHash := placed.block.blockHash
  blockCreatedAt := placed.block.createdAt
  balanceAfterAtomic := balanceAfter

/-- The order and the limit that a query asks for. -/
def arrange {α : Type} (newestFirst : Bool) (limit : Option Int) (history : List α) : List α :=
  let ordered := if newestFirst then history.reverse else history
  match limit with
  | none => ordered
  | some n => ordered.take (max 0 n).toNat

variable (host : Host)

/-! ### Settlements -/

/-- The transactions of a settlement, by the scan. -/
def scannedSettlementHistory (blocks : Chain) (settlementId : String) :
    List HistoryEntry :=
  ((placedTransactions blocks).filter fun p =>
    strip (host.strOrEmpty p.tx.settlementId) = settlementId).map fun p => p.entry

/-- The transactions that the index files under an id. -/
def indexedSettlementHistory (blocks : Chain) (settlementId : String) :
    List HistoryEntry :=
  ((placedTransactions blocks).filter fun p =>
    p.tx.settlementId.truthy ∧ host.str p.tx.settlementId = settlementId).map fun p => p.entry

/-- The entries that `chain_settlement_history` reads: those of the index, if it has the id. -/
def settlementEntries (blocks : Chain) (settlementId : String) : List HistoryEntry :=
  if indexedSettlementHistory host (sortBlocks blocks) (strip settlementId) = [] then
    scannedSettlementHistory host blocks (strip settlementId)
  else indexedSettlementHistory host (sortBlocks blocks) (strip settlementId)

/-- `chain_settlement_history`, on the blocks of the file. -/
def chainSettlementHistory (blocks : Chain) (settlementId : String)
    (limit : Option Int := none) (newestFirst : Bool := true) : List HistoryEntry :=
  arrange newestFirst limit (settlementEntries host blocks settlementId)

end CaiNetwork
