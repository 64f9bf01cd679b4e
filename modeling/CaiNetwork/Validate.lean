/-
CaiNetwork/Validate.lean

The full validator of a chain (`validate_chain_blocks`), and what its acceptance means.

The source walks the sorted blocks once, collecting error texts, and then looks at the closing
balances, the supply and the closing bonds: `blockErrors` are the texts one block adds, given what
the walk has seen so far (`WalkState`), `walkErrors` is the walk.

A non-empty list is accepted exactly when every block is acceptable after the blocks before it
(`BlockAccepted`, with no walk in it) and the closing state is sound (`ClosingSound`):
`validateChainBlocks_eq_nil_iff`.
-/

import CaiNetwork.Genesis

namespace CaiNetwork

open List

variable {block : ChainBlock} {before : Chain}

/-! ### The walk -/

/-- What the walk over the blocks has seen. -/
structure WalkState where
  blockHashes : List String := []
  txIds : List String := []
  nonces : List (String × String) := []
  blocks : Chain := []
  previous : Option ChainBlock := none

/-- `str(tx.tx_id).strip()`. -/
def strippedTxId (tx : ChainTransaction) : String := strip tx.txId

/-- The members of a list that were seen when their turn came. -/
def repeats {α : Type} [DecidableEq α] (seen : List α) : List α → List α
  | [] => []
  | x :: xs => (if x ∈ seen then [x] else []) ++ repeats (seen ++ [x]) xs

variable (host : Host) (policy : WalletPolicy)

/-- The errors of the transaction loop of one block; `seen` are the spent nonces. -/
def transactionErrors (block : ChainBlock) :
    List (String × String) → List ChainTransaction → Except PyError (List String)
  | _, [] => .ok []
  | seen, tx :: txs => do
    let signature ← verifyChainTransactionSignature host policy tx
    let chainErrors :=
      if strip tx.chainId = "" then [s!"transaction {tx.txId} has empty chain_id"]
      else if tx.chainId ≠ block.chainId then
        [s!"transaction {tx.txId} chain_id does not match block"]
      else []
    let schemaErrors :=
      if tx.schemaVersion ≠ chainSchemaVersion then
        [s!"transaction {tx.txId} has unsupported schema_version"]
      else []
    let nonceErrors :=
      match nonceKey host tx with
      | some key =>
        if key ∈ seen then
          [s!"transaction {tx.txId} reuses nonce {key.2} for address {tx.address}"]
        else []
      | none => []
    let more ← transactionErrors block (seen ++ (nonceKey host tx).toList) txs
    return chainErrors ++ schemaErrors ++ signature.toList ++ nonceErrors ++ more

/-- The errors of a block's place in the chain. -/
def linkErrors (index : Nat) (previous : Option ChainBlock) (block : ChainBlock) : List String :=
  if index = 0 then
    (if block.height ≠ 0 then [s!"block[{index}] must start at height 0"] else []) ++
    (if block.previousHash ≠ genesisPreviousHash then
      [s!"block[{index}] has invalid genesis previous_hash"] else []) ++
    (if block.blockHash ≠ expectedGenesisHash host (moneyPolicyForWalletPolicy host policy) then
      [s!"block[{index}] genesis_hash {block.blockHash} does not match expected " ++
        expectedGenesisHash host (moneyPolicyForWalletPolicy host policy)] else [])
  else
    match previous with
    | none => []
    | some parent =>
      (if block.height ≠ parent.height + 1 then
        [s!"block[{index}] height {block.height} does not follow {parent.height}"] else []) ++
      (if block.previousHash ≠ parent.blockHash then
        [s!"block[{index}] previous_hash does not match parent"] else [])

/-- The errors of one of the two roots of a block. -/
def rootErrors (index : Nat) (name root expected : String) : List String :=
  if strip root = "" then [s!"block[{index}] has empty {name}"]
  else if root ≠ expected then [s!"block[{index}] has invalid {name}"]
  else []

/-- The errors of a block's own chain id and schema version. -/
def headerErrors (index : Nat) (block : ChainBlock) : List String :=
  (if strip block.chainId = "" then [s!"block[{index}] has empty chain_id"]
    else if block.chainId ≠ policy.chainNetwork.value then
      [s!"block[{index}] has mismatched chain_id"]
    else []) ++
  (if block.schemaVersion ≠ chainSchemaVersion then
    [s!"block[{index}] has unsupported schema_version"] else [])

/-- The errors one block adds.  A block without a hash is not looked at further. -/
def blockErrors (index : Nat) (st : WalkState) (block : ChainBlock) :
    Except PyError (List String) :=
  if strip block.blockHash = "" then
    .ok (headerErrors policy index block ++ [s!"block[{index}] has empty block_hash"])
  else do
    let hashErrors :=
      (if block.blockHash ∈ st.blockHashes then
        [s!"block[{index}] duplicates block_hash {block.blockHash}"] else []) ++
      (if computeBlockHash host block ≠ block.blockHash then
        [s!"block[{index}] has invalid block_hash"] else [])
    let txIds := block.transactions.map strippedTxId
    let idErrors :=
      (if txIds = [] then [s!"block[{index}] has no transactions"] else []) ++
      (if "" ∈ txIds then [s!"block[{index}] has empty transaction id"] else []) ++
      (if txIds.Nodup then [] else [s!"block[{index}] has duplicate transaction ids"])
    let txErrors ← transactionErrors host policy block st.nonces block.transactions
    return headerErrors policy index block ++ hashErrors ++
      linkErrors host policy index st.previous block ++ idErrors ++
      rootErrors index "tx_root" block.txRoot (computeTransactionRoot host block.transactions) ++
      txErrors ++
      (repeats st.txIds txIds).map
        (fun txId => s!"transaction {txId} appears in multiple blocks") ++
      rootErrors index "state_root" block.stateRoot
        (computeChainStateRoot host (st.blocks ++ [block]))

/-- What the walk has seen after a block. -/
def WalkState.next (st : WalkState) (block : ChainBlock) : WalkState :=
  if strip block.blockHash = "" then st
  else {
    blockHashes := st.blockHashes ++ [block.blockHash]
    txIds := st.txIds ++ block.transactions.map strippedTxId
    nonces := st.nonces ++ block.transactions.filterMap (nonceKey host)
    blocks := st.blocks ++ [block]
    previous := some block }

/-- The loop over the sorted blocks. -/
def walkErrors : Nat → WalkState → Chain → Except PyError (List String)
  | _, _, [] => .ok []
  | index, st, block :: rest => do
    let errors ← blockErrors host policy index st block
    let more ← walkErrors (index + 1) (st.next host block) rest
    return errors ++ more

/-! ### The validator -/

/-- `_validate_chain_supply_invariant`. -/
def validateChainSupplyInvariant (blocks : Chain) : Option String :=
  let expected := expectedTotalSupplyAtomic (moneyPolicyForWalletPolicy host policy)
  if blocks = [] then none
  else if chainTotalBalanceAtomic host blocks ≠ expected then
    some (s!"chain total supply invariant failed: total_balance_atomic=" ++
      s!"{chainTotalBalanceAtomic host blocks} expected_total_supply_atomic={expected}")
  else none

/-- The errors of the entries of an index that are below zero. -/
def negativeErrors (describe : String → String) (index : Tally String) : List String :=
  ((index.insertionSort entryLe).filter (fun e => e.2 < 0)).map (fun e => describe e.1)

/-- The checks after the walk. -/
def closingErrors (ordered : Chain) : List String :=
  negativeErrors (fun address => s!"address {address} has negative balance")
    (chainBalanceIndex host ordered) ++
  (validateChainSupplyInvariant host policy ordered).toList ++
  negativeErrors (fun validatorId => s!"validator {validatorId} has negative locked bond")
    (validatorLockedBondIndex host ordered)

/-- `validate_chain_blocks`. -/
def validateChainBlocks (blocks : Chain) : Except PyError (List String) :=
  if blocks = [] then .ok []
  else do
    let errors ← walkErrors host policy 0 {} (sortBlocks blocks)
    return errors ++ closingErrors host policy (sortBlocks blocks)

/-! ### When a list of errors is empty -/

section Errors

/-- Two collected lists of errors are empty together. -/
theorem bind_append_eq_nil {x y : Except PyError (List String)} :
    (x >>= fun a => y >>= fun b => pure (a ++ b)) = .ok [] ↔ x = .ok [] ∧ y = .ok [] := by
  cases x with
  | error e => simp [bind, Except.bind]
  | ok a => cases y with
    | error e => simp [bind, Except.bind]
    | ok b => simp [bind, Except.bind, pure, Except.pure]

theorem ite_errors_eq_nil {p : Prop} [Decidable p] {message : String} :
    (if p then [message] else []) = [] ↔ ¬p := by
  by_cases hp : p <;> simp [hp]

theorem repeats_eq_nil {α : Type} [DecidableEq α] {xs : List α} :
    ∀ {seen : List α}, repeats seen xs = [] ↔ xs.Nodup ∧ ∀ x ∈ xs, x ∉ seen := by
  induction xs with
  | nil => simp [repeats]
  | cons x xs ih =>
    intro seen
    rw [repeats, append_eq_nil_iff, ih, nodup_cons]
    constructor
    · rintro ⟨hx, hnd, hnew⟩
      have hseen : x ∉ seen := by
        intro hmem
        rw [if_pos hmem] at hx
        cases hx
      refine ⟨⟨fun hmem => hnew x hmem (by simp), hnd⟩, ?_⟩
      intro y hy
      rcases mem_cons.mp hy with rfl | hy
      · exact hseen
      · exact fun hmem => hnew y hy (mem_append_left _ hmem)
    · rintro ⟨⟨hx, hnd⟩, hnew⟩
      refine ⟨if_neg (hnew x mem_cons_self), hnd, ?_⟩
      intro y hy hmem
      rcases mem_append.mp hmem with hmem | hmem
      · exact hnew y (mem_cons_of_mem _ hy) hmem
      · rw [mem_singleton] at hmem
        exact hx (hmem ▸ hy)

theorem rootErrors_eq_nil {index : Nat} {name root : String} {payload : Json} :
    rootErrors index name root (canonicalHash payload) = [] ↔ root = canonicalHash payload := by
  rw [rootErrors]
  constructor
  · intro h
    split at h
    · cases h
    · split at h
      · cases h
      · rename_i heq
        exact not_not.mp heq
  · rintro rfl
    rw [strip_canonicalHash, if_neg canonicalHash_ne_empty, if_neg (not_not.mpr rfl)]

theorem strip_network {network : ChainNetwork} : strip network.value ≠ "" := by
  cases network <;> decide

theorem headerErrors_eq_nil {policy : WalletPolicy} {index : Nat} :
    headerErrors policy index block = [] ↔
      block.chainId = policy.chainNetwork.value ∧ block.schemaVersion = chainSchemaVersion := by
  rw [headerErrors, append_eq_nil_iff, ite_errors_eq_nil, not_not]
  refine and_congr_left (fun _ => ?_)
  constructor
  · intro h
    split at h
    · cases h
    · split at h
      · cases h
      · rename_i heq
        exact not_not.mp heq
  · intro h
    rw [h, if_neg strip_network, if_neg (not_not.mpr rfl)]

theorem nodup_errors_eq_nil {txIds : List String} {message : String} :
    (if txIds.Nodup then [] else [message]) = [] ↔ txIds.Nodup := by
  by_cases h : txIds.Nodup <;> simp [h]

end Errors

/-! ### What acceptance means -/

/-- What the validator asks of a transaction by itself. -/
structure TransactionAccepted (tx : ChainTransaction) : Prop where
  chainId : tx.chainId = policy.chainNetwork.value
  schemaVersion : tx.schemaVersion = chainSchemaVersion
  signature : verifyChainTransactionSignature host policy tx = .ok none

/-- The place of a block after the given ones: the first is the policy's genesis, every other
is linked to its predecessor. -/
def LinkedAfter (before : Chain) (block : ChainBlock) : Prop :=
  match before.getLast? with
  | none => block.height = 0 ∧ block.previousHash = genesisPreviousHash ∧
      block.blockHash = expectedGenesisHash host (moneyPolicyForWalletPolicy host policy)
  | some parent => block.height = parent.height + 1 ∧ block.previousHash = parent.blockHash

/-- What the validator asks of a block that comes after the given ones. -/
structure BlockAccepted (before : Chain) (block : ChainBlock) : Prop where
  chainId : block.chainId = policy.chainNetwork.value
  schemaVersion : block.schemaVersion = chainSchemaVersion
  hash_new : block.blockHash ∉ before.map ChainBlock.blockHash
  hash_eq : computeBlockHash host block = block.blockHash
  linked : LinkedAfter host policy before block
  transactions_ne : block.transactions ≠ []
  txIds_ne : "" ∉ block.transactions.map strippedTxId
  txIds_nodup : (block.transactions.map strippedTxId).Nodup
  txIds_new : ∀ txId ∈ block.transactions.map strippedTxId,
    txId ∉ (allTransactions before).map strippedTxId
  txRoot : block.txRoot = computeTransactionRoot host block.transactions
  transactions : ∀ tx ∈ block.transactions, TransactionAccepted host policy tx
  nonces_nodup : (block.transactions.filterMap (nonceKey host)).Nodup
  nonces_new : ∀ key ∈ block.transactions.filterMap (nonceKey host),
    key ∉ chainTransactionNonces host before
  stateRoot : block.stateRoot = computeChainStateRoot host (before ++ [block])

/-- Every block is acceptable after the blocks before it. -/
def WellFormed (blocks : Chain) : Prop :=
  ∀ before block after, blocks = before ++ block :: after → BlockAccepted host policy before block

/-- The closing state: no negative balance, the supply of the policy, no negative bond. -/
structure ClosingSound (blocks : Chain) : Prop where
  balances : ∀ address, 0 ≤ Tally.get address (chainBalanceIndex host blocks)
  supply : chainTotalBalanceAtomic host blocks =
    expectedTotalSupplyAtomic (moneyPolicyForWalletPolicy host policy)
  bonds : ∀ validatorId, 0 ≤ Tally.get validatorId (validatorLockedBondIndex host blocks)

/-- The walk's state after acceptable blocks. -/
def WalkState.after (before : Chain) : WalkState where
  blockHashes := before.map ChainBlock.blockHash
  txIds := (allTransactions before).map strippedTxId
  nonces := chainTransactionNonces host before
  blocks := before
  previous := before.getLast?

variable {host policy}

/-- One turn of the transaction loop adds no error exactly when the transaction is acceptable
and its nonce is unspent. -/
theorem transactionErrors_cons_eq_nil
    (hchain : block.chainId = policy.chainNetwork.value) {tx : ChainTransaction}
    {txs : List ChainTransaction} {seen : List (String × String)} :
    transactionErrors host policy block seen (tx :: txs) = .ok [] ↔
      TransactionAccepted host policy tx ∧ (∀ key ∈ nonceKey host tx, key ∉ seen) ∧
        transactionErrors host policy block (seen ++ (nonceKey host tx).toList) txs = .ok [] := by
  rw [transactionErrors]
  rcases hsig : verifyChainTransactionSignature host policy tx with e | signature
  · refine iff_of_false (by simp [bind, Except.bind]) ?_
    rintro ⟨hacc, -⟩
    cases hsig.symm.trans hacc.signature
  rcases hmore : transactionErrors host policy block (seen ++ (nonceKey host tx).toList) txs
    with e | more
  · simp [bind, Except.bind]
  simp only [bind, Except.bind, pure, Except.pure, Except.ok.injEq, append_eq_nil_iff]
  constructor
  · rintro ⟨⟨⟨⟨hc, hs⟩, hg⟩, hn⟩, rfl⟩
    have hid : tx.chainId = block.chainId := by
      by_contra hne
      rw [if_pos hne] at hc
      split at hc <;> cases hc
    refine ⟨⟨hid.trans hchain, ?_, ?_⟩, ?_, rfl⟩
    · rw [ite_errors_eq_nil, not_not] at hs
      exact hs
    · rw [hsig]
      cases signature with
      | none => rfl
      | some message => cases hg
    · intro key hkey hmem
      rw [Option.mem_def] at hkey
      rw [hkey] at hn
      simp only [if_pos hmem] at hn
      cases hn
  · rintro ⟨hacc, hn, rfl⟩
    have hsignature : signature = none := Except.ok.inj (hsig.symm.trans hacc.signature)
    refine ⟨⟨⟨⟨?_, ?_⟩, by rw [hsignature]; rfl⟩, ?_⟩, rfl⟩
    · rw [hacc.chainId, if_neg strip_network, hchain, if_neg (not_not.mpr rfl)]
    · rw [ite_errors_eq_nil, not_not]
      exact hacc.schemaVersion
    · rcases hkey : nonceKey host tx with - | key
      · rfl
      · exact if_neg (hn key hkey)

/-- The keys of a list are distinct and new exactly when the first one is new and the others are
distinct and new after it. -/
theorem unspent_cons {α κ : Type} {f : α → Option κ} {a : α} {as : List α} {seen : List κ} :
    (((a :: as).filterMap f).Nodup ∧ ∀ key ∈ (a :: as).filterMap f, key ∉ seen) ↔
      (∀ key ∈ f a, key ∉ seen) ∧ (as.filterMap f).Nodup ∧
        ∀ key ∈ as.filterMap f, key ∉ seen ++ (f a).toList := by
  cases hkey : f a with
  | none =>
    rw [filterMap_cons_none hkey]
    simp
  | some key =>
    rw [filterMap_cons_some hkey, nodup_cons, forall_mem_cons]
    simp only [Option.mem_def, Option.some.injEq, forall_eq', Option.toList_some,
      mem_append, mem_singleton, not_or]
    constructor
    · rintro ⟨⟨hnot, hnd⟩, hnew, hseen⟩
      exact ⟨hnew, hnd, fun k hk => ⟨hseen k hk, fun heq => hnot (heq ▸ hk)⟩⟩
    · rintro ⟨hnew, hnd, hseen⟩
      exact ⟨⟨fun hmem => (hseen key hmem).2 rfl, hnd⟩, hnew, fun k hk => (hseen k hk).1⟩

theorem transactionErrors_eq_nil
    (hchain : block.chainId = policy.chainNetwork.value) {txs : List ChainTransaction} :
    ∀ {seen : List (String × String)}, transactionErrors host policy block seen txs = .ok [] ↔
      (∀ tx ∈ txs, TransactionAccepted host policy tx) ∧
      (txs.filterMap (nonceKey host)).Nodup ∧
        ∀ key ∈ txs.filterMap (nonceKey host), key ∉ seen := by
  induction txs with
  | nil => simp [transactionErrors]
  | cons tx txs ih =>
    intro seen
    rw [transactionErrors_cons_eq_nil hchain, ih, forall_mem_cons, unspent_cons]
    tauto

theorem linkErrors_eq_nil :
    linkErrors host policy before.length (WalkState.after host before).previous block = [] ↔
      LinkedAfter host policy before block := by
  unfold linkErrors LinkedAfter WalkState.after
  rcases eq_nil_or_concat before with rfl | ⟨front, parent, rfl⟩
  · simp only [length_nil, if_true, append_eq_nil_iff, ite_errors_eq_nil, not_not,
      getLast?_nil, and_assoc]
  · rw [concat_eq_append, getLast?_concat, if_neg (by simp)]
    simp only [append_eq_nil_iff, ite_errors_eq_nil, not_not]

theorem strip_blockHash_of_hash_eq
    (h : computeBlockHash host block = block.blockHash) : strip block.blockHash ≠ "" := by
  rw [← h, computeBlockHash, strip_canonicalHash]
  exact canonicalHash_ne_empty

/-- **One block adds no error exactly when it is acceptable after the blocks before it.** -/
theorem blockErrors_eq_nil :
    blockErrors host policy before.length (WalkState.after host before) block = .ok [] ↔
      BlockAccepted host policy before block := by
  rw [blockErrors]
  by_cases hblank : strip block.blockHash = ""
  · rw [if_pos hblank]
    refine iff_of_false (by simp) ?_
    exact fun hacc => strip_blockHash_of_hash_eq hacc.hash_eq hblank
  rw [if_neg hblank]
  have hnil := fun hacc : BlockAccepted host policy before block =>
    (transactionErrors_eq_nil hacc.chainId).mpr
      ⟨hacc.transactions, hacc.nonces_nodup, hacc.nonces_new⟩
  rcases htx : transactionErrors host policy block (WalkState.after host before).nonces
    block.transactions with e | txErrors
  · refine iff_of_false (by simp [bind, Except.bind]) ?_
    exact fun hacc => by cases htx.symm.trans (hnil hacc)
  simp only [bind, Except.bind, pure, Except.pure, Except.ok.injEq, append_eq_nil_iff,
    map_eq_nil_iff, ite_errors_eq_nil, not_not, headerErrors_eq_nil, nodup_errors_eq_nil,
    repeats_eq_nil, linkErrors_eq_nil, computeTransactionRoot,
    computeChainStateRoot, computeStateRootFromBalances, rootErrors_eq_nil]
  constructor
  · rintro ⟨⟨⟨⟨⟨⟨⟨⟨hchain, hschema⟩, hnew, heq⟩, hlink⟩, ⟨hne, hids⟩, hnd⟩, hroot⟩, rfl⟩,
      -, hfresh⟩, hstate⟩
    obtain ⟨htxs, hnonces, hunspent⟩ := (transactionErrors_eq_nil hchain).mp htx
    exact ⟨hchain, hschema, hnew, heq, hlink, hne, hids, hnd, hfresh, hroot, htxs, hnonces,
      hunspent, hstate⟩
  · intro hacc
    have htxErrors : txErrors = [] := Except.ok.inj (htx.symm.trans (hnil hacc))
    exact ⟨⟨⟨⟨⟨⟨⟨⟨hacc.chainId, hacc.schemaVersion⟩, hacc.hash_new, hacc.hash_eq⟩, hacc.linked⟩,
      ⟨hacc.transactions_ne, hacc.txIds_ne⟩, hacc.txIds_nodup⟩, hacc.txRoot⟩, htxErrors⟩,
      hacc.txIds_nodup, hacc.txIds_new⟩, hacc.stateRoot⟩

theorem WalkState.after_next (h : strip block.blockHash ≠ "") :
    (WalkState.after host before).next host block = WalkState.after host (before ++ [block]) := by
  rw [WalkState.next, if_neg h]
  simp [WalkState.after, chainTransactionNonces]

/-- **The walk finds no error exactly when every block is acceptable in its place.** -/
theorem walkErrors_eq_nil {blocks : Chain} : ∀ {before : Chain},
      walkErrors host policy before.length (WalkState.after host before) blocks = .ok [] ↔
        ∀ mid block after, blocks = mid ++ block :: after →
          BlockAccepted host policy (before ++ mid) block := by
  induction blocks with
  | nil => simp [walkErrors]
  | cons b blocks ih =>
    intro before
    rw [walkErrors, bind_append_eq_nil, blockErrors_eq_nil]
    constructor
    · rintro ⟨hb, hrest⟩ mid block after hsplit
      rw [WalkState.after_next (strip_blockHash_of_hash_eq hb.hash_eq),
        show before.length + 1 = (before ++ [b]).length by simp, ih] at hrest
      rcases cons_eq_append_iff.mp hsplit with ⟨rfl, heq⟩ | ⟨mid', rfl, heq⟩
      · obtain ⟨rfl, -⟩ := List.cons.inj heq
        rwa [append_nil]
      · simpa using hrest mid' block after heq
    · intro h
      have hb : BlockAccepted host policy before b := by simpa using h [] b blocks rfl
      refine ⟨hb, ?_⟩
      rw [WalkState.after_next (strip_blockHash_of_hash_eq hb.hash_eq),
        show before.length + 1 = (before ++ [b]).length by simp, ih]
      intro mid block after heq
      have := h (b :: mid) block after (by rw [heq]; rfl)
      simpa using this

theorem negativeErrors_eq_nil {describe : String → String} {index : Tally String}
    (hnd : (index.map Prod.fst).Nodup) :
    negativeErrors describe index = [] ↔ ∀ key, 0 ≤ Tally.get key index := by
  rw [negativeErrors, map_eq_nil_iff, filter_eq_nil_iff, ← Tally.forall_value_iff (le_refl 0) hnd]
  simp only [mem_insertionSort, decide_eq_true_eq, not_lt]

theorem closingErrors_eq_nil {ordered : Chain} (hne : ordered ≠ []) :
    closingErrors host policy ordered = [] ↔ ClosingSound host policy ordered := by
  rw [closingErrors, append_eq_nil_iff, append_eq_nil_iff,
    negativeErrors_eq_nil (keys_nodup_chainBalanceIndex host ordered),
    negativeErrors_eq_nil (keys_nodup_validatorLockedBondIndex host ordered),
    validateChainSupplyInvariant, if_neg hne]
  constructor
  · rintro ⟨⟨hbal, hsupply⟩, hbonds⟩
    refine ⟨hbal, ?_, hbonds⟩
    by_contra hwrong
    rw [if_pos hwrong] at hsupply
    cases hsupply
  · intro h
    refine ⟨⟨h.balances, ?_⟩, h.bonds⟩
    rw [if_neg (not_not.mpr h.supply)]
    rfl

/-- **What the validator accepts**: every block acceptable in its place, and a sound closing
state. -/
theorem validateChainBlocks_eq_nil_iff {blocks : Chain} (hne : blocks ≠ []) :
    validateChainBlocks host policy blocks = .ok [] ↔
      WellFormed host policy (sortBlocks blocks) ∧
        ClosingSound host policy (sortBlocks blocks) := by
  have hsorted : sortBlocks blocks ≠ [] := fun h => hne (sortBlocks_eq_nil_iff.mp h)
  have hwalk : walkErrors host policy 0 {} (sortBlocks blocks) = .ok [] ↔
      WellFormed host policy (sortBlocks blocks) :=
    @walkErrors_eq_nil host policy (sortBlocks blocks) []
  rw [validateChainBlocks, if_neg hne, ← closingErrors_eq_nil hsorted, ← hwalk]
  rcases walkErrors host policy 0 {} (sortBlocks blocks) with e | errors
  · simp [bind, Except.bind]
  · simp [bind, Except.bind, pure, Except.pure]

end CaiNetwork
