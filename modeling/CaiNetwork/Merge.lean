/-
CaiNetwork/Merge.lean

Merging a remote chain (`merge_remote_chain_payload` in `chain.py`).

A merge reads the payload, then either adopts the remote chain as a whole
(`adoptAuthoritativeRemoteFork`) or goes through its blocks one by one and appends those that
fit (`importBlock`).  Everything that can raise comes before the one write (`mergePlan`).  The
indices that the loop keeps are determined by the chain grown so far (`MergeState.ofBlocks`).
-/

import CaiNetwork.Append
import CaiNetwork.Authority

namespace CaiNetwork

variable (host : Host) (policy : WalletPolicy)
variable (records : List ValidatorRecord) (clock : Json → Timestamp)

/-! ### The blocks of a payload -/

/-- `list(v)`. -/
def Json.pyList : Json → Except PyError (List Json)
  | .arr xs => .ok xs
  | .obj kvs => .ok (kvs.map fun e => .str e.1)
  | .str s => .ok (s.toList.map fun c => .str (String.ofList [c]))
  | _ => .error .typeError

/-- `_raw_block_sort_key`. -/
def rawBlockSortKey : Json → Except PyError (Int × String × String)
  | .obj kvs => do
    let height ← tryInt host (Json.getD kvs "height")
    return (height.getD (10 ^ 12), host.strOrEmpty (Json.getD kvs "created_at"),
      host.strOrEmpty (Json.getD kvs "block_hash"))
  | _ => .ok (10 ^ 12, "", "")

/-- The order of the sort keys. -/
def sortKeyLe (a b : (Int × String × String) × Json) : Prop :=
  if a.1.1 ≠ b.1.1 then a.1.1 < b.1.1
  else if a.1.2.1 ≠ b.1.2.1 then Json.stringLe a.1.2.1 b.1.2.1 = true
  else Json.stringLe a.1.2.2 b.1.2.2 = true

instance : DecidableRel sortKeyLe := fun a b =>
  inferInstanceAs (Decidable (if a.1.1 ≠ b.1.1 then a.1.1 < b.1.1
    else if a.1.2.1 ≠ b.1.2.1 then Json.stringLe a.1.2.1 b.1.2.1 = true
    else Json.stringLe a.1.2.2 b.1.2.2 = true))

/-- `sorted(raw_blocks, key=_raw_block_sort_key)`. -/
def sortRawBlocks (raws : List Json) : Except PyError (List Json) := do
  let keyed ← raws.mapM fun raw => do return (← rawBlockSortKey host raw, raw)
  return (keyed.insertionSort sortKeyLe).map Prod.snd

/-- `_raw_payload_has_non_genesis_block`. -/
def rawPayloadHasNonGenesisBlock : List Json → Except PyError Bool
  | [] => .ok false
  | .obj kvs :: raws => do
    match ← tryInt host ((Json.getD kvs "height").pyOr (.int 0)) with
    | some height => if height > 0 then return true else rawPayloadHasNonGenesisBlock raws
    | none => rawPayloadHasNonGenesisBlock raws
  | _ :: raws => rawPayloadHasNonGenesisBlock raws

/-- The `try` block of both loops: a dictionary with a block hash that can be read as a block. -/
def remoteBlock? (raw : Json) : Option ChainBlock :=
  match raw with
  | .obj kvs =>
    if fieldText host kvs "block_hash" = "" then none
    else (coerceBlock host clock policy.chainNetwork.value (.obj kvs)).toOption
  | _ => none

/-- The checks of a block's header in both loops. -/
def remoteHeaderOk (block : ChainBlock) : Bool :=
  block.chainId = policy.chainNetwork.value && block.schemaVersion = chainSchemaVersion &&
    computeBlockHash host block = block.blockHash

/-- The loop of `_block_transactions_are_valid`. -/
def transactionsAreValid (block : ChainBlock) :
    List (String × String) → List ChainTransaction → Except PyError Bool
  | _, [] => .ok true
  | seen, tx :: txs =>
    if tx.chainId ≠ block.chainId then .ok false
    else if tx.schemaVersion ≠ block.schemaVersion then .ok false
    else do
      let signatureError ← verifyChainTransactionSignature host policy tx
      if signatureError.isSome then return false
      match nonceKey host tx with
      | some key =>
        if key ∈ seen then return false else transactionsAreValid block (seen ++ [key]) txs
      | none => transactionsAreValid block seen txs

/-- `_block_transactions_are_valid`. -/
def blockTransactionsAreValid (block : ChainBlock) : Except PyError Bool :=
  let txIds := block.transactions.map strippedTxId
  if strip block.chainId = "" then .ok false
  else if block.schemaVersion ≠ chainSchemaVersion then .ok false
  else if txIds = [] ∨ "" ∈ txIds then .ok false
  else do
    if !(← transactionsAreValid host policy block [] block.transactions) then return false
    if block.txRoot ≠ "" ∧ block.txRoot ≠ computeTransactionRoot host block.transactions then
      return false
    return txIds.Nodup

/-! ### Adopting a remote chain -/

/-- The loop of `_coerce_valid_remote_chain`; nothing stands for its early returns. -/
def coerceRemoteBlocks (clock : Json → Timestamp) :
    List Json → Except PyError (Option Chain)
  | [] => .ok (some [])
  | raw :: raws =>
    match remoteBlock? host policy clock raw with
    | none => .ok none
    | some block =>
      if remoteHeaderOk host policy block then do
        if ← blockTransactionsAreValid host policy block then
          return (← coerceRemoteBlocks clock raws).map (block :: ·)
        return none
      else .ok none

/-- `_coerce_valid_remote_chain`. -/
def coerceValidRemoteChain (raws : List Json) :
    Except PyError Chain := do
  match ← coerceRemoteBlocks host policy clock (← sortRawBlocks host raws) with
  | none => return []
  | some blocks =>
    if (← validateChainBlocks host policy blocks) ≠ [] then return [] else return blocks

/-- `_adopt_authoritative_remote_fork`: what the merge returns if the remote chain is saved. -/
def adoptAuthoritativeRemoteFork (remote loc : Chain) (signed : Bool) :
    Option (Nat × Nat) :=
  match remote.head?, loc.head?, loc.getLast? with
  | some remoteFirst, some localFirst, some tip =>
    let genesis := makeGenesisBlock host (moneyPolicyForWalletPolicy host policy)
    if remoteFirst.blockHash = genesis.blockHash ∧ isStaleGenesisOnlyChain loc genesis then
      some (remote.length, (allTransactions remote).length)
    else if signed = false then none
    else if remoteFirst.blockHash ≠ localFirst.blockHash then none
    else if strip tip.blockHash ∈ remote.map ChainBlock.blockHash then none
    else some ((remote.filter (fun b => b.blockHash ∉ loc.map ChainBlock.blockHash)).length,
      ((allTransactions remote).filter (fun tx =>
        tx.txId ∉ (allTransactions loc).map ChainTransaction.txId)).length)
  | _, _, _ => none

/-! ### Importing block by block -/

/-- The variables of the loop. -/
structure MergeState where
  blocks : Chain
  heightsByHash : Tally String
  heights : List Int
  txIds : List String
  nonces : List (String × String)
  importedBlocks : Nat
  importedTransactions : Nat

/-- The variables before the loop. -/
def MergeState.ofBlocks (blocks : Chain) (counts : Nat × Nat) : MergeState where
  blocks
  heightsByHash := (blocks.filter (fun b => strip b.blockHash ≠ "")).foldl
    (fun t b => Tally.set b.blockHash b.height t) []
  heights := blocks.map ChainBlock.height
  txIds := (allTransactions blocks).map ChainTransaction.txId
  nonces := chainTransactionNonces host blocks
  importedBlocks := counts.1
  importedTransactions := counts.2

/-- `_block_links_to_known_chain`. -/
def blockLinksToKnownChain (block : ChainBlock) (heightsByHash : Tally String)
    (heights : List Int) : Bool :=
  if block.height = 0 then block.previousHash = genesisPreviousHash && (0 : Int) ∉ heights
  else
    match heightsByHash.lookup block.previousHash with
    | none => false
    | some previous => block.height = previous + 1 && block.height ∉ heights

/-- `_block_roots_match_known_chain`, with the roots it fills in. -/
def blockRootsMatchKnownChain (block : ChainBlock) (blocks : Chain) :
    Option ChainBlock :=
  let txRoot := computeTransactionRoot host block.transactions
  if block.txRoot ≠ "" ∧ block.txRoot ≠ txRoot then none
  else
    let block := { block with txRoot }
    let stateRoot := computeChainStateRoot host (blocks ++ [block])
    if block.stateRoot ≠ "" ∧ block.stateRoot ≠ stateRoot then none
    else some { block with stateRoot }

/-- `_block_nonces_are_new`. -/
def blockNoncesAreNew (block : ChainBlock) (nonces : List (String × String)) : Bool :=
  (block.transactions.filterMap (nonceKey host)).all (· ∉ nonces)

/-- The variables after a block has been appended. -/
def MergeState.push (st : MergeState) (block : ChainBlock) (new : List ChainTransaction) :
    MergeState where
  blocks := st.blocks ++ [block]
  heightsByHash := Tally.set block.blockHash block.height st.heightsByHash
  heights := st.heights ++ [block.height]
  txIds := st.txIds ++ new.map ChainTransaction.txId
  nonces := st.nonces ++ new.filterMap (nonceKey host)
  importedBlocks := st.importedBlocks + 1
  importedTransactions := st.importedTransactions + new.length

/-- The body of the loop, for a block that could be read. -/
def importBlock (st : MergeState) (block : ChainBlock) : Except PyError MergeState :=
  if remoteHeaderOk host policy block = false then .ok st
  else if block.blockHash ∈ st.heightsByHash.map Prod.fst then .ok st
  else do
    if !(← blockTransactionsAreValid host policy block) then return st
    if !(blockLinksToKnownChain block st.heightsByHash st.heights) then return st
    match blockRootsMatchKnownChain host block st.blocks with
    | none => return st
    | some block =>
      if !(blockNoncesAreNew host block st.nonces) then return st
      let new := block.transactions.filter (fun tx => tx.txId ∉ st.txIds)
      if new = [] then return st
      return st.push host block new

/-- The loop over the raw blocks. -/
def importBlocks (clock : Json → Timestamp) : MergeState → List Json → Except PyError MergeState
  | st, [] => .ok st
  | st, raw :: raws =>
    match remoteBlock? host policy clock raw with
    | none => importBlocks clock st raws
    | some block => do
      let st ← importBlock host policy st block
      importBlocks clock st raws

/-! ### The merge -/

/-- What a merge returns, and the list it saves, if any. -/
structure MergeOutcome where
  counts : Nat × Nat
  saved : Option Chain

/-- Without authority, a payload may not extend the chain. -/
def refuseUnauthorizedExtension (signed : Bool) (raws : List Json) : Except PyError Unit :=
  if signed then .ok ()
  else do
    if ← rawPayloadHasNonGenesisBlock host raws then
      throw (.valueError "Refusing chain extension payload without authorized validator finality.")

/-- The loop of `merge_remote_chain_payload`, with the check of its result. -/
def importRemoteBlocks (raws : List Json) (loc : Chain) :
    Except PyError MergeOutcome := do
  let sorted ← sortRawBlocks host raws
  let st ← importBlocks host policy clock (.ofBlocks host loc (0, 0)) sorted
  if st.importedBlocks = 0 then return ⟨(0, st.importedTransactions), none⟩
  let errors ← validateChainBlocks host policy (sortBlocks st.blocks)
  if errors ≠ [] then
    throw (.valueError ("Refusing chain payload that would make local chain invalid: " ++
      "; ".intercalate (errors.take 3)))
  return ⟨(st.importedBlocks, st.importedTransactions), some (sortBlocks st.blocks)⟩

/-- `merge_remote_chain_payload` after the checks of the payload, for the raw blocks it holds. -/
def mergeBlocks (kvs : Fields) (raws : List Json) (file : ChainFile) :
    Except PyError MergeOutcome := do
  let loc ← listChainBlocks host policy clock file
  let remote ← coerceValidRemoteChain host policy clock raws
  let signed := chainPayloadSignedByBondedValidator host policy loc records kvs
  match adoptAuthoritativeRemoteFork host policy remote loc signed with
  | some counts => return ⟨counts, some remote⟩
  | none =>
    refuseUnauthorizedExtension host signed raws
    importRemoteBlocks host policy clock raws loc

/-- `payload.get("chain")` if it is a dictionary, and the payload otherwise. -/
def rawChain (kvs : Fields) : Fields :=
  match Json.getD kvs "chain" with
  | .obj chain => chain
  | _ => kvs

/-- The checks of the payload before its blocks are looked at; the raw blocks it holds. -/
def payloadBlocks (kvs : Fields) : Except PyError (List Json) := do
  discard <| validatePeerPayloadNetwork host policy "chain" kvs
  if let some message := chainSignatureError host policy kvs then
    throw (.valueError message)
  let chainId := fieldText host (rawChain kvs) "chain_id"
  let networkName := fieldText host (rawChain kvs) "network"
  if chainId ≠ "" ∧ networkName ≠ "" ∧ chainId ≠ networkName then
    throw (.valueError (s!"Refusing chain payload with mismatched chain_id '{chainId}' " ++
      s!"and network '{networkName}'."))
  let network := if chainId ≠ "" then chainId else networkName
  let localNetwork := policy.chainNetwork.value
  if network ≠ "" ∧ network ≠ localNetwork then
    throw (.valueError
      s!"Refusing chain payload for network '{network}' on '{localNetwork}'.")
  ((Json.getD (rawChain kvs) "blocks").pyOr (.arr [])).pyList

/-- `merge_remote_chain_payload` up to its write. -/
def mergePlan (payload : Json) (file : ChainFile) : Except PyError MergeOutcome :=
  match payload with
  | .obj kvs => do
    let raws ← payloadBlocks host policy kvs
    if raws = [] then return ⟨(0, 0), none⟩
    mergeBlocks host policy records clock kvs raws file
  | _ => .error .attributeError

/-- `merge_remote_chain_payload`. -/
def mergeRemoteChainPayload (payload : Json) (file : ChainFile) : Written (Nat × Nat) :=
  match mergePlan host policy records clock payload file with
  | .error e => (.error e, file)
  | .ok ⟨counts, none⟩ => (.ok counts, file)
  | .ok ⟨counts, some blocks⟩ => (.ok counts, saveChainBlocks blocks)

/-! ### What a merge can do -/

section Cases

variable {host policy}

/-- The lists that a merge into the given local chain can save. -/
inductive MergeSaves (host : Host) (policy : WalletPolicy) (records : List ValidatorRecord)
    (clock : Json → Timestamp) (kvs : Fields) (raws : List Json) (loc : Chain) : Chain → Prop
  /-- The remote chain as a whole. -/
  | adopt {remote : Chain} {counts : Nat × Nat} :
      coerceValidRemoteChain host policy clock raws = .ok remote →
      adoptAuthoritativeRemoteFork host policy remote loc
        (chainPayloadSignedByBondedValidator host policy loc records kvs) = some counts →
      MergeSaves host policy records clock kvs raws loc remote
  /-- The local chain with the blocks that fitted. -/
  | extend {sorted : List Json} {st : MergeState} :
      (chainPayloadSignedByBondedValidator host policy loc records kvs = false →
        rawPayloadHasNonGenesisBlock host raws = .ok false) →
      sortRawBlocks host raws = .ok sorted →
      importBlocks host policy clock (.ofBlocks host loc (0, 0)) sorted = .ok st →
      st.importedBlocks ≠ 0 →
      validateChainBlocks host policy (sortBlocks st.blocks) = .ok [] →
      MergeSaves host policy records clock kvs raws loc (sortBlocks st.blocks)

theorem refuseUnauthorizedExtension_eq_ok {signed : Bool} {raws : List Json} {u : Unit}
    (h : refuseUnauthorizedExtension host signed raws = .ok u) :
    signed = false → rawPayloadHasNonGenesisBlock host raws = .ok false := by
  rintro rfl
  obtain ⟨nonGenesis, hraws, h⟩ := bind_eq_ok.mp h
  cases nonGenesis with
  | true => cases h
  | false => exact hraws

theorem importRemoteBlocks_eq_ok {clock : Json → Timestamp} {raws : List Json}
    {loc : Chain} {out : MergeOutcome}
    (h : importRemoteBlocks host policy clock raws loc = .ok out) :
    ∃ sorted st, sortRawBlocks host raws = .ok sorted ∧
      importBlocks host policy clock (.ofBlocks host loc (0, 0)) sorted = .ok st ∧
      ((st.importedBlocks = 0 ∧ out.saved = none) ∨
        (st.importedBlocks ≠ 0 ∧ out.saved = some (sortBlocks st.blocks) ∧
          validateChainBlocks host policy (sortBlocks st.blocks) = .ok [])) := by
  obtain ⟨sorted, hsorted, h⟩ := bind_eq_ok.mp h
  obtain ⟨st, hst, h⟩ := bind_eq_ok.mp h
  refine ⟨sorted, st, hsorted, hst, ?_⟩
  split at h
  next hnone => exact .inl ⟨hnone, by rw [← pure_eq_ok.mp h]⟩
  next hsome =>
    obtain ⟨errors, herrors, h⟩ := bind_eq_ok.mp h
    cases errors with
    | nil => exact .inr ⟨hsome, by rw [← pure_eq_ok.mp h], herrors⟩
    | cons error errors => cases h

theorem mergeSaves_of_mergeBlocks {records : List ValidatorRecord} {clock : Json → Timestamp}
    {kvs : Fields} {raws : List Json} {file : ChainFile} {out : MergeOutcome} {saved : Chain}
    (h : mergeBlocks host policy records clock kvs raws file = .ok out)
    (hsaved : out.saved = some saved) : ∃ loc, listChainBlocks host policy clock file = .ok loc ∧
      MergeSaves host policy records clock kvs raws loc saved := by
  obtain ⟨loc, hloc, h⟩ := bind_eq_ok.mp h
  obtain ⟨remote, hremote, h⟩ := bind_eq_ok.mp h
  refine ⟨loc, hloc, ?_⟩
  dsimp only at h
  split at h
  next counts hadopt =>
    cases pure_eq_ok.mp h
    cases hsaved
    exact .adopt hremote hadopt
  next =>
    obtain ⟨u, hguard, h⟩ := bind_eq_ok.mp h
    obtain ⟨sorted, st, hsorted, hst, ⟨-, hnone⟩ | ⟨hsome, hout, hvalid⟩⟩ :=
      importRemoteBlocks_eq_ok h
    · rw [hnone] at hsaved
      cases hsaved
    · rw [hout] at hsaved
      cases hsaved
      exact .extend (refuseUnauthorizedExtension_eq_ok hguard) hsorted hst hsome hvalid

/-- **What a merge can do**: leave the file, or save one of the lists of `MergeSaves`. -/
theorem mergeRemoteChainPayload_cases (payload : Json) (file : ChainFile) :
    (∃ r, mergeRemoteChainPayload host policy records clock payload file = (r, file)) ∨
    ∃ kvs raws loc saved counts, payload = .obj kvs ∧ payloadBlocks host policy kvs = .ok raws ∧
      listChainBlocks host policy clock file = .ok loc ∧
      MergeSaves host policy records clock kvs raws loc saved ∧
      mergeRemoteChainPayload host policy records clock payload file =
        (.ok counts, saveChainBlocks saved) := by
  rcases hplan : mergePlan host policy records clock payload file with e | ⟨counts, - | saved⟩
  · exact .inl ⟨.error e, by rw [mergeRemoteChainPayload, hplan]⟩
  · exact .inl ⟨.ok counts, by rw [mergeRemoteChainPayload, hplan]⟩
  refine .inr ?_
  have hmerge : mergeRemoteChainPayload host policy records clock payload file =
      (.ok counts, saveChainBlocks saved) := by rw [mergeRemoteChainPayload, hplan]
  cases payload with
  | obj kvs =>
    rw [mergePlan] at hplan
    obtain ⟨raws, hraws, hplan⟩ := bind_eq_ok.mp hplan
    split at hplan
    next => cases hplan
    next =>
      obtain ⟨loc, hloc, hsaves⟩ := mergeSaves_of_mergeBlocks hplan rfl
      exact ⟨kvs, raws, loc, saved, counts, rfl, hraws, hloc, hsaves, hmerge⟩
  | _ => cases hplan

end Cases

end CaiNetwork
