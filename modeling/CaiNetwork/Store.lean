/-
CaiNetwork/Store.lean

The chain file (`chain.py`): reading blocks from JSON, writing them, and what a block is after
it has been written and read again.

The file is modelled by the list under its `"blocks"` key; the index files next to it are caches of
the same scan.  Writing and reading is not the identity: reading normalises addresses once more.
`rereadTransaction` is what it makes of a transaction, and `listChainBlocks_save` says that
reading a saved well-formed chain gives exactly its reread blocks.  The transactions it leaves
alone are the `Stable` ones, as far as hashes go the `HashStable` ones.
-/

import CaiNetwork.Accepted

namespace CaiNetwork

open List

variable {block : ChainBlock} {blocks : Chain} {clock : Json → Timestamp}
  {policy : WalletPolicy}

/-! ### Dictionaries -/

namespace Json

/-- The dictionary of a list of pairs; of equal keys the last wins.  A pair is a list of two
values, the first a string. -/
def dictOfPairs : List Json → Except PyError Fields
  | [] => .ok []
  | .arr [.str k, v] :: rest => do
    let more ← dictOfPairs rest
    return if k ∈ more.map Prod.fst then more else (k, v) :: more
  | _ :: _ => .error .typeError

/-- `dict(v)`. -/
def asDict : Json → Except PyError Fields
  | .obj kvs => .ok kvs
  | .arr xs => dictOfPairs xs
  | .str s => if s = "" then .ok [] else .error (.valueError "dictionary update sequence")
  | _ => .error .typeError

/-- `d[k]`. -/
def require (kvs : Fields) (k : String) : Except PyError Json :=
  match kvs.lookup k with
  | some v => .ok v
  | none => .error (.keyError k)

/-- `list(v or [])` for a value that holds records; what is neither empty nor a list cannot. -/
def listOrEmpty (v : Json) : Except PyError (List Json) :=
  match v.pyOr (.arr []) with
  | .arr xs => .ok xs
  | _ => .error .typeError

end Json

/-! ### Reading -/

variable (host : Host)

/-- `str(v) if v is not None else None`. -/
def strOrNone : Json → Option String
  | .null => none
  | v => some (host.str v)

/-- `str(v or _now_iso())`; the clock says which time is read at which value. -/
def timeOrNow (clock : Json → Timestamp) (raw v : Json) : String :=
  if v.truthy then host.str v else (clock raw).text

/-- `_coerce_transaction`. -/
def coerceTransaction (clock : Json → Timestamp) (defaultChainId : String) (raw : Json) :
    Except PyError ChainTransaction := do
  let kvs ← raw.asDict
  let metadata ← ((Json.getD kvs "metadata").pyOr (.obj [])).asDict
  let txId ← Json.require kvs "tx_id"
  let txType ← Json.require kvs "tx_type"
  let address ← Json.require kvs "address"
  let deltaAtomic ← Json.require kvs "delta_atomic" >>= host.int
  let schemaVersion ← host.int ((Json.getD kvs "schema_version").pyOr (.int chainSchemaVersion))
  let counterparty := Json.getD kvs "counterparty_address"
  return {
    txId := host.str txId
    createdAt := timeOrNow host clock raw (Json.getD kvs "created_at")
    txType := host.str txType
    address := host.normalizeAddress (host.str address)
    deltaAtomic
    settlementId := Json.getD kvs "settlement_id"
    payoutId := Json.getD kvs "payout_id"
    walletId := Json.getD kvs "wallet_id"
    counterpartyAddress :=
      if counterparty.truthy then some (host.normalizeAddress (host.str counterparty)) else none
    note := Json.getD kvs "note"
    nonce := strOrNone host (Json.getD kvs "nonce")
    chainId := host.str ((Json.getD kvs "chain_id").pyOr ((Json.getD metadata "network").pyOr
      ((Json.str defaultChainId).pyOr (.str host.defaultChainId))))
    schemaVersion
    publicKeyB64 := strOrNone host (Json.getD kvs "public_key_b64")
    signatureB64 := strOrNone host (Json.getD kvs "signature_b64")
    metadata }

/-- `_coerce_block`. -/
def coerceBlock (clock : Json → Timestamp) (defaultChainId : String) (raw : Json) :
    Except PyError ChainBlock :=
  match raw with
  | .obj kvs => do
    let chainId := host.str ((Json.getD kvs "chain_id").pyOr
      ((Json.str defaultChainId).pyOr (.str host.defaultChainId)))
    let blockId ← Json.require kvs "block_id"
    let height ← Json.require kvs "height" >>= host.int
    let items ← (Json.getD kvs "transactions").listOrEmpty
    let transactions ← items.mapM (coerceTransaction host clock chainId)
    let schemaVersion ← host.int ((Json.getD kvs "schema_version").pyOr (.int chainSchemaVersion))
    let block : ChainBlock := {
      blockId := host.str blockId
      height
      createdAt := timeOrNow host clock raw (Json.getD kvs "created_at")
      previousHash := host.str ((Json.getD kvs "previous_hash").pyOr (.str genesisPreviousHash))
      validatorId := Json.getD kvs "validator_id"
      transactions
      blockHash := host.strOrEmpty (Json.getD kvs "block_hash")
      chainId
      schemaVersion
      txRoot := host.strOrEmpty ((Json.getD kvs "tx_root").pyOr (Json.getD kvs "txRoot"))
      stateRoot := host.strOrEmpty ((Json.getD kvs "state_root").pyOr (Json.getD kvs "stateRoot")) }
    return if block.blockHash = "" then { block with blockHash := computeBlockHash host block }
      else block
  | _ => .error .attributeError

/-- `_fill_missing_block_roots`. -/
def fillMissingBlockRoots : Chain → Chain → Chain
  | _, [] => []
  | before, block :: rest =>
    let block := if block.txRoot = "" then
        { block with txRoot := computeTransactionRoot host block.transactions } else block
    let block := if block.stateRoot = "" then
        { block with stateRoot := computeChainStateRoot host (before ++ [block]) } else block
    block :: fillMissingBlockRoots (before ++ [block]) rest

/-- The `"blocks"` of the chain file; no file reads as none. -/
abbrev ChainFile := List Json

/-- `list_chain_blocks`. -/
def listChainBlocks (policy : WalletPolicy) (clock : Json → Timestamp) (file : ChainFile) :
    Except PyError Chain := do
  let blocks ← file.mapM (coerceBlock host clock policy.chainNetwork.value)
  return fillMissingBlockRoots host [] (sortBlocks blocks)

/-- `_int_mapping` of an index whose keys are addresses: every key is normalised once more,
the empty key is dropped, and of equal keys the last wins. -/
def intMapping (index : Tally String) : Tally String :=
  index.foldl (fun t e =>
    if host.normalizeAddress e.1 = "" then t else Tally.set (host.normalizeAddress e.1) e.2 t) []

/-- `chain_balance_atomic(address, policy)` on the blocks of the file: the index file holds
the sorted balances of a scan, read back by `_int_mapping`. -/
def chainBalanceAtomic (blocks : Chain) (address : String) : Int :=
  Tally.get (host.normalizeAddress address)
    (intMapping host ((chainBalanceIndex host blocks).insertionSort entryLe))

/-! ### Writing -/

/-- `asdict` of a transaction. -/
def asdictTransaction (tx : ChainTransaction) : Json :=
  .obj [("tx_id", .str tx.txId), ("created_at", .str tx.createdAt), ("tx_type", .str tx.txType),
    ("address", .str tx.address), ("delta_atomic", .int tx.deltaAtomic),
    ("settlement_id", tx.settlementId), ("payout_id", tx.payoutId), ("wallet_id", tx.walletId),
    ("counterparty_address", optStr tx.counterpartyAddress), ("note", tx.note),
    ("nonce", optStr tx.nonce), ("chain_id", .str tx.chainId),
    ("schema_version", .int tx.schemaVersion), ("public_key_b64", optStr tx.publicKeyB64),
    ("signature_b64", optStr tx.signatureB64), ("metadata", .obj tx.metadata)]

/-- `asdict` of a block. -/
def asdictBlock (block : ChainBlock) : Json :=
  .obj [("block_id", .str block.blockId), ("height", .int block.height),
    ("created_at", .str block.createdAt), ("previous_hash", .str block.previousHash),
    ("validator_id", block.validatorId),
    ("transactions", .arr (block.transactions.map asdictTransaction)),
    ("block_hash", .str block.blockHash), ("chain_id", .str block.chainId),
    ("schema_version", .int block.schemaVersion), ("tx_root", .str block.txRoot),
    ("state_root", .str block.stateRoot), ("validator_public_key_b64", .null),
    ("validator_signature_b64", .null)]

/-- `save_chain_blocks`. -/
def saveChainBlocks (blocks : Chain) : ChainFile := blocks.map asdictBlock

/-! ### Writing and reading -/

/-- What reading makes of a written transaction. -/
def rereadTransaction (tx : ChainTransaction) : ChainTransaction :=
  { tx with
    address := host.normalizeAddress tx.address
    counterpartyAddress := (nonempty? tx.counterpartyAddress).map host.normalizeAddress }

/-- What reading makes of a written block. -/
def rereadBlock (block : ChainBlock) : ChainBlock := block.respell (rereadTransaction host)

/-- A transaction that no default of the reader applies to. -/
structure TransactionStorable (tx : ChainTransaction) : Prop where
  createdAt : tx.createdAt ≠ ""
  chainId : tx.chainId ≠ ""
  schemaVersion : tx.schemaVersion ≠ 0

/-- A block that no default of the reader applies to. -/
structure BlockStorable (block : ChainBlock) : Prop where
  createdAt : block.createdAt ≠ ""
  previousHash : block.previousHash ≠ ""
  blockHash : block.blockHash ≠ ""
  chainId : block.chainId ≠ ""
  schemaVersion : block.schemaVersion ≠ 0
  txRoot : block.txRoot ≠ ""
  stateRoot : block.stateRoot ≠ ""
  transactions : ∀ tx ∈ block.transactions, TransactionStorable tx

variable {o : Option String} {raw : Json}

theorem Json.pyOr_obj {kvs : Fields} : (Json.obj kvs).pyOr (.obj []) = .obj kvs := by
  cases kvs with
  | nil => rfl
  | cons e kvs => rfl

theorem Json.pyOr_str {s : String} (h : s ≠ "") (v : Json) : (Json.str s).pyOr v = .str s := by
  rw [Json.pyOr, if_pos (by simpa [Json.truthy] using h)]

theorem Json.pyOr_int {n : Int} (h : n ≠ 0) (v : Json) : (Json.int n).pyOr v = .int n := by
  rw [Json.pyOr, if_pos (by simpa [Json.truthy] using h)]

theorem Host.str_str {s : String} : host.str (.str s) = s := rfl

theorem strOrNone_optStr : strOrNone host (optStr o) = o := by
  cases o <;> rfl

theorem counterparty_optStr :
    (if (optStr o).truthy then some (host.normalizeAddress (host.str (optStr o))) else none) =
      (nonempty? o).map host.normalizeAddress := by
  cases o with
  | none => rfl
  | some s =>
    by_cases hs : s = ""
    · subst hs; rfl
    · simp [optStr, Json.truthy, nonempty?, hs, Host.str]

theorem timeOrNow_str {s : String} (h : s ≠ "") : timeOrNow host clock raw (.str s) = s := by
  rw [timeOrNow, if_pos (by simpa [Json.truthy] using h)]
  rfl

theorem coerceTransaction_asdict (clock : Json → Timestamp) (defaultChainId : String)
    {tx : ChainTransaction} (h : TransactionStorable tx) :
    coerceTransaction host clock defaultChainId (asdictTransaction tx) =
      .ok (rereadTransaction host tx) := by
  simp [coerceTransaction, asdictTransaction, Json.asDict, Json.getD, Json.require, lookup_cons,
    Json.pyOr_obj, Json.pyOr_int h.schemaVersion, Json.pyOr_str h.chainId, Host.int, bind,
    Except.bind, pure, Except.pure, strOrNone_optStr, counterparty_optStr,
    timeOrNow_str _ h.createdAt, Host.str_str, rereadTransaction]

theorem mapM_coerceTransaction_asdict {defaultChainId : String}
    {txs : List ChainTransaction} (h : ∀ tx ∈ txs, TransactionStorable tx) :
    (txs.map asdictTransaction).mapM (coerceTransaction host clock defaultChainId) =
      .ok (txs.map (rereadTransaction host)) := by
  rw [mapM_map]
  exact mapM_ok fun tx htx => coerceTransaction_asdict host clock defaultChainId (h tx htx)

theorem Json.listOrEmpty_arr {xs : List Json} : (Json.arr xs).listOrEmpty = .ok xs := by
  cases xs <;> rfl

theorem coerceBlock_asdict (clock : Json → Timestamp) (defaultChainId : String)
    (h : BlockStorable block) :
    coerceBlock host clock defaultChainId (asdictBlock block) = .ok (rereadBlock host block) := by
  simp [coerceBlock, asdictBlock, Json.getD, Json.require, lookup_cons,
    Json.pyOr_int h.schemaVersion, Json.pyOr_str h.chainId, Json.pyOr_str h.previousHash,
    Json.pyOr_str h.blockHash, Json.pyOr_str h.txRoot, Json.pyOr_str h.stateRoot, Host.int, bind,
    Except.bind, pure, Except.pure, Host.strOrEmpty, Json.listOrEmpty_arr,
    mapM_coerceTransaction_asdict _ h.transactions,
    timeOrNow_str _ h.createdAt, Host.str_str, h.blockHash, rereadBlock, ChainBlock.respell]

theorem fillMissingBlockRoots_eq_self :
    ∀ {before : Chain}, (∀ b ∈ blocks, b.txRoot ≠ "" ∧ b.stateRoot ≠ "") →
      fillMissingBlockRoots host before blocks = blocks := by
  induction blocks with
  | nil => exact fun _ => rfl
  | cons b blocks ih =>
    intro before h
    obtain ⟨htx, hstate⟩ := h b mem_cons_self
    rw [fillMissingBlockRoots]
    simp only [if_neg htx, if_neg hstate]
    rw [ih (fun c hc => h c (mem_cons_of_mem _ hc))]

theorem mapM_coerceBlock_asdict (clock : Json → Timestamp) (defaultChainId : String)
    (h : ∀ b ∈ blocks, BlockStorable b) :
    (saveChainBlocks blocks).mapM (coerceBlock host clock defaultChainId) =
      .ok (blocks.map (rereadBlock host)) := by
  rw [saveChainBlocks, mapM_map]
  exact mapM_ok fun b hb => coerceBlock_asdict host clock defaultChainId (h b hb)

/-- **Reading a saved list of blocks gives the blocks in order, their transactions reread.** -/
theorem listChainBlocks_save (h : ∀ b ∈ blocks, BlockStorable b) :
    listChainBlocks host policy clock (saveChainBlocks blocks) =
      .ok ((sortBlocks blocks).map (rereadBlock host)) := by
  rw [listChainBlocks, mapM_coerceBlock_asdict host clock _ h]
  have hsort : sortBlocks (blocks.map (rereadBlock host)) =
      (sortBlocks blocks).map (rereadBlock host) := sortBlocks_respell
  show Except.ok (fillMissingBlockRoots host [] (sortBlocks (blocks.map (rereadBlock host)))) = _
  rw [hsort, fillMissingBlockRoots_eq_self]
  intro b hb
  obtain ⟨c, hc, rfl⟩ := mem_map.mp hb
  have hstorable := h c ((mem_insertionSort blockLe).mp hc)
  exact ⟨hstorable.txRoot, hstorable.stateRoot⟩

/-! ### What reading guarantees -/

section Reading

variable {host}

/-- A block whose times are not empty. -/
structure Dated (block : ChainBlock) : Prop where
  createdAt : block.createdAt ≠ ""
  transactions : ∀ tx ∈ block.transactions, tx.createdAt ≠ ""

theorem timeOrNow_ne_empty {v : Json} : timeOrNow host clock raw v ≠ "" := by
  rw [timeOrNow]
  split
  next h => exact host.str_ne_empty_of_truthy h
  next => exact (clock raw).nonempty

theorem coerceTransaction_createdAt {chainId : String} {raw : Json}
    {tx : ChainTransaction} (h : coerceTransaction host clock chainId raw = .ok tx) :
    tx.createdAt ≠ "" := by
  simp only [coerceTransaction, bind_eq_ok, pure_eq_ok] at h
  obtain ⟨_, _, _, _, _, _, _, _, _, _, _, _, _, _, rfl⟩ := h
  exact timeOrNow_ne_empty

theorem forall₂_of_mapM_eq_ok {α β : Type} {f : α → Except PyError β} {xs : List α} :
    ∀ {ys : List β}, xs.mapM f = .ok ys → List.Forall₂ (fun x y => f x = .ok y) xs ys := by
  induction xs with
  | nil =>
    intro ys h
    rw [mapM_nil, pure_eq_ok] at h
    exact h ▸ .nil
  | cons x xs ih =>
    intro ys h
    simp only [mapM_cons, bind_eq_ok, pure_eq_ok] at h
    obtain ⟨y, hy, zs, hzs, rfl⟩ := h
    exact .cons hy (ih hzs)

theorem exists_of_mem_forall₂ {α β : Type} {R : α → β → Prop} {xs : List α} {ys : List β}
    (h : List.Forall₂ R xs ys) {y : β} (hy : y ∈ ys) : ∃ x ∈ xs, R x y := by
  induction h with
  | nil => cases hy
  | cons hxz _ ih =>
    rw [exists_mem_cons_iff]
    rcases mem_cons.mp hy with rfl | hy
    · exact .inl hxz
    · exact .inr (ih hy)

/-- What a block that could be read has of its record. -/
theorem coerceBlock_eq_ok {chainId : String} {raw : Json}
    (h : coerceBlock host clock chainId raw = .ok block) :
    Dated block ∧ ∃ kvs v, raw = .obj kvs ∧ kvs.lookup "height" = some v ∧
      host.int v = .ok block.height ∧ (host.strOrEmpty (Json.getD kvs "block_hash") ≠ "" →
        block.blockHash = host.strOrEmpty (Json.getD kvs "block_hash")) := by
  cases raw with
  | obj kvs =>
    simp only [coerceBlock, bind_eq_ok, pure_eq_ok] at h
    obtain ⟨blockId, -, height, ⟨v, hv, hint⟩, items, -, txs, htxs, version, -, hblock⟩ := h
    have hlookup : kvs.lookup "height" = some v := by
      rw [Json.require] at hv
      split at hv
      next w hw => rw [hw, Except.ok.inj hv]
      next => cases hv
    have hdates : ∀ tx ∈ txs, tx.createdAt ≠ "" := by
      intro tx htx
      obtain ⟨raw, -, hraw⟩ := exists_of_mem_forall₂ (forall₂_of_mapM_eq_ok htxs) htx
      exact coerceTransaction_createdAt hraw
    subst hblock
    split
    next hempty =>
      exact ⟨⟨timeOrNow_ne_empty, hdates⟩, kvs, v, rfl, hlookup, hint, absurd hempty⟩
    next =>
      exact ⟨⟨timeOrNow_ne_empty, hdates⟩, kvs, v, rfl, hlookup, hint, fun _ => rfl⟩
  | _ => cases h

theorem fillMissingBlockRoots_spec :
    ∀ {before : Chain}, ∀ b ∈ fillMissingBlockRoots host before blocks,
      ∃ c ∈ blocks, b.createdAt = c.createdAt ∧ b.transactions = c.transactions := by
  induction blocks with
  | nil => intro before b hb; cases hb
  | cons block blocks ih =>
    intro before b hb
    rw [fillMissingBlockRoots] at hb
    rw [exists_mem_cons_iff]
    rcases mem_cons.mp hb with rfl | hb
    · left
      split <;> split <;> exact ⟨rfl, rfl⟩
    · exact .inr (ih b hb)

theorem dated_of_listChainBlocks {file : ChainFile}
    (h : listChainBlocks host policy clock file = .ok blocks) : ∀ b ∈ blocks, Dated b := by
  simp only [listChainBlocks, bind_eq_ok, pure_eq_ok] at h
  obtain ⟨read, hread, rfl⟩ := h
  intro b hb
  obtain ⟨c, hc, hcreated, htxs⟩ := fillMissingBlockRoots_spec b hb
  obtain ⟨raw, -, hraw⟩ := exists_of_mem_forall₂ (forall₂_of_mapM_eq_ok hread)
    ((mem_insertionSort blockLe).mp hc)
  have hdated := (coerceBlock_eq_ok hraw).1
  exact ⟨hcreated ▸ hdated.createdAt, htxs ▸ hdated.transactions⟩

/-- An acceptable block whose times are not empty can be stored. -/
theorem BlockAccepted.storable {before : Chain}
    (h : BlockAccepted host policy before block) (hdated : Dated block)
    (hbefore : ∀ b ∈ before, b.blockHash ≠ "") : BlockStorable block where
  createdAt := hdated.createdAt
  previousHash := by
    have hlinked := h.linked
    rw [LinkedAfter] at hlinked
    split at hlinked
    next => rw [hlinked.2.1]; decide
    next parent hparent =>
      rw [hlinked.2]
      exact hbefore parent (mem_of_getLast? hparent)
  blockHash := h.hash_eq ▸ canonicalHash_ne_empty
  chainId := h.chainId ▸ network_value_ne
  schemaVersion := by rw [h.schemaVersion]; decide
  txRoot := h.txRoot ▸ canonicalHash_ne_empty
  stateRoot := h.stateRoot ▸ canonicalHash_ne_empty
  transactions := by
    intro tx htx
    have haccepted := h.transactions tx htx
    refine ⟨hdated.transactions tx htx, ?_, ?_⟩
    · rw [haccepted.chainId]
      exact network_value_ne
    · rw [haccepted.schemaVersion]
      decide

theorem WellFormed.storable (h : WellFormed host policy blocks) (hdated : ∀ b ∈ blocks, Dated b) :
    ∀ b ∈ blocks, BlockStorable b := by
  intro b hb
  obtain ⟨before, after, heq⟩ := append_of_mem hb
  refine (h before b after heq).storable (hdated b hb) ?_
  intro c hc
  obtain ⟨before', after', rfl⟩ := append_of_mem hc
  rw [append_assoc] at heq
  exact (h before' c _ heq).hash_eq ▸ canonicalHash_ne_empty

/-- **Reading back a saved list that the validator accepts.** -/
theorem listChainBlocks_save_accepted (h : validateChainBlocks host policy blocks = .ok [])
    (hdated : ∀ b ∈ blocks, Dated b) : listChainBlocks host policy clock (saveChainBlocks blocks) =
      .ok ((sortBlocks blocks).map (rereadBlock host)) := by
  apply listChainBlocks_save
  rcases eq_or_ne blocks [] with rfl | hne
  · intro b hb
    cases hb
  · intro b hb
    have hwell := ((validateChainBlocks_eq_nil_iff hne).mp h).1
    refine hwell.storable ?_ b ((mem_insertionSort blockLe).mpr hb)
    exact fun c hc => hdated c ((mem_insertionSort blockLe).mp hc)

end Reading

/-! ### What rereading leaves alone -/

/-- Reading the written transaction gives it back. -/
def TransactionStable (tx : ChainTransaction) : Prop := rereadTransaction host tx = tx

/-- Reading the written transaction gives one of the same hashed payload: one more
normalisation changes neither address, and an empty counterparty does not become absent. -/
structure HashStable (tx : ChainTransaction) : Prop where
  address : host.normalizeAddress (host.normalizeAddress tx.address) =
    host.normalizeAddress tx.address
  counterparty : ∀ c, tx.counterpartyAddress = some c →
    c ≠ "" ∧ host.normalizeAddress (host.normalizeAddress c) = host.normalizeAddress c

theorem normalizeAddress_empty : host.normalizeAddress "" = "" := by
  apply host.normalizeAddress_eq_self
  · intro c hc
    cases hc
  · rfl

theorem hashedCounterparty_reread_iff :
    hashedCounterparty host ((nonempty? o).map host.normalizeAddress) = hashedCounterparty host o ↔
      ∀ c, o = some c →
        c ≠ "" ∧ host.normalizeAddress (host.normalizeAddress c) = host.normalizeAddress c := by
  cases o with
  | none => exact iff_of_true rfl (fun c hc => by cases hc)
  | some s =>
    by_cases hs : s = ""
    · subst hs
      refine iff_of_false (by simp [nonempty?, hashedCounterparty]) ?_
      exact fun h => (h "" rfl).1 rfl
    · have hread : nonempty? (some s) = some s := if_neg hs
      rw [hread, Option.map_some]
      simp only [hashedCounterparty, if_neg hs, Option.some.injEq]
      by_cases hn : host.normalizeAddress s = ""
      · refine iff_of_true (by rw [if_pos hn, hn]) ?_
        rintro c rfl
        exact ⟨hs, by rw [hn, normalizeAddress_empty]⟩
      · rw [if_neg hn, Json.str.injEq]
        constructor
        · rintro h c rfl
          exact ⟨hs, h⟩
        · exact fun h => (h s rfl).2

/-- **Rereading keeps the hashed payload exactly for the hash-stable transactions.** -/
theorem samePayload_reread_iff (tx : ChainTransaction) :
    SamePayload host (rereadTransaction host tx) tx ↔ HashStable host tx := by
  constructor
  · intro h
    exact ⟨h.address, (hashedCounterparty_reread_iff _).mp h.counterparty⟩
  · intro h
    exact
      { txId := rfl, createdAt := rfl, txType := rfl, address := h.address, deltaAtomic := rfl,
        settlementId := rfl, payoutId := rfl, walletId := rfl,
        counterparty := (hashedCounterparty_reread_iff _).mpr h.counterparty, note := rfl,
        nonce := rfl, chainId := rfl, schemaVersion := rfl, publicKeyB64 := rfl,
        signatureB64 := rfl, metadata := rfl }

end CaiNetwork
