/-
CaiNetwork/Append.lean

The writers of the chain file (`chain.py`): appending a block, creating the genesis block,
distributing the developer fund.

A writer returns its result, or the exception it raised, together with the file it leaves
behind.  Everything that can raise in `append_chain_block` comes before the one write
(`appendPlan`, `appendChainBlock_cases`).  Creating the genesis block writes before it is known
whether the rest of the caller will succeed.
-/

import CaiNetwork.Store

namespace CaiNetwork

open List

/-- What one operation takes from the clock and from the random source. -/
structure Moment where
  /-- The times read where a stored record has none. -/
  clock : Json → Timestamp
  /-- `_now_iso()`. -/
  now : Timestamp
  /-- `secrets.token_hex(...)`. -/
  token : String

/-- A clock that always shows the same time. -/
def sampleClock (_ : Json) : Timestamp := genesisCreatedAt

def sampleMoment : Moment := ⟨sampleClock, ⟨"2026-01-02T00:00:00+00:00", by decide⟩, "t"⟩

/-- A result or an exception, and the file after it. -/
abbrev Written (α : Type) := Except PyError α × ChainFile

variable (host : Host) (policy : WalletPolicy)
variable (money : MoneyPolicy) (moment : Moment) (validatorId : Option String)
  (file : ChainFile) (blocks : Chain)

/-! ### Appending -/

/-- A missing chain id is filled in. -/
def fillChainId (tx : ChainTransaction) : ChainTransaction :=
  if tx.chainId = "" then { tx with chainId := policy.chainNetwork.value } else tx

/-- The loop of `append_chain_block` over the new transactions: a missing chain id is filled
in, the rest is checked.  `fresh` are the nonces of the block so far. -/
def admitTransactions (spent : List (String × String)) :
    List (String × String) → List ChainTransaction → Except PyError (List ChainTransaction)
  | _, [] => .ok []
  | fresh, tx :: txs => do
    let active := policy.chainNetwork.value
    let tx := fillChainId policy tx
    if tx.chainId ≠ active then
      throw (.valueError s!"Refusing transaction for chain '{tx.chainId}' on '{active}'.")
    if tx.schemaVersion ≠ chainSchemaVersion then
      throw (.valueError s!"Unsupported transaction schema_version {tx.schemaVersion}.")
    if let some message ← verifyChainTransactionSignature host policy tx then
      throw (.valueError message)
    if let some key := nonceKey host tx then
      if key ∈ spent ∨ key ∈ fresh then
        throw (.valueError s!"Refusing duplicate nonce '{key.2}' for address '{tx.address}'.")
    let rest ← admitTransactions spent (fresh ++ (nonceKey host tx).toList) txs
    return tx :: rest

/-- The block that `append_chain_block` builds, before its state root and hash. -/
def appendDraft (transactions : List ChainTransaction) : ChainBlock :=
  let previousHash := (blocks.getLast?.map ChainBlock.blockHash).getD genesisPreviousHash
  let height := (blocks.getLast?.map fun b => b.height + 1).getD 0
  { blockId := takeString 32 (canonicalHash (.obj [("height", .int height),
      ("chain_id", .str policy.chainNetwork.value), ("schema_version", .int chainSchemaVersion),
      ("previous_hash", .str previousHash),
      ("tx_ids", .arr (transactions.map (fun tx => .str tx.txId))),
      ("nonce", .str moment.token)]))
    height
    createdAt := moment.now.text
    previousHash
    validatorId := optStr validatorId
    transactions
    blockHash := ""
    chainId := policy.chainNetwork.value
    txRoot := computeTransactionRoot host transactions }

/-- The transactions that the chain does not have yet. -/
def newTransactions (transactions : List ChainTransaction) :
    List ChainTransaction :=
  transactions.filter (fun tx => tx.txId ∉ (allTransactions blocks).map ChainTransaction.txId)

/-- `append_chain_block` up to its write: the new block and the list to save, or nothing to
append. -/
def appendPlan (transactions : List ChainTransaction) (file : ChainFile) :
    Except PyError (Option (ChainBlock × Chain)) :=
  if transactions = [] then .ok none
  else do
    let blocks ← listChainBlocks host policy moment.clock file
    let new := newTransactions blocks transactions
    if new = [] then return none
    let admitted ← admitTransactions host policy (chainTransactionNonces host blocks) [] new
    let block := (appendDraft host policy moment validatorId blocks admitted).seal host blocks
    if let some message := validateChainSupplyInvariant host policy (blocks ++ [block]) then
      throw (.valueError message)
    let errors ← validateChainBlocks host policy (blocks ++ [block])
    if errors ≠ [] then
      throw (.valueError ("Refusing chain block that would make local chain invalid: " ++
        "; ".intercalate (errors.take 3)))
    return some (block, blocks ++ [block])

/-- `append_chain_block`. -/
def appendChainBlock
    (transactions : List ChainTransaction) (file : ChainFile) : Written (Option ChainBlock) :=
  match appendPlan host policy moment validatorId transactions file with
  | .error e => (.error e, file)
  | .ok none => (.ok none, file)
  | .ok (some (block, blocks)) => (.ok (some block), saveChainBlocks blocks)

/-! ### What an append can do -/

section Cases

variable {host policy}

/-- One turn of the loop goes on exactly when the transaction is acceptable and its nonce is
spent neither on the chain nor in the block. -/
theorem admitTransactions_cons_eq_ok {spent fresh : List (String × String)} {tx : ChainTransaction}
    {txs out : List ChainTransaction} :
    admitTransactions host policy spent fresh (tx :: txs) = .ok out ↔
      TransactionAccepted host policy (fillChainId policy tx) ∧
      (∀ key ∈ nonceKey host (fillChainId policy tx), key ∉ spent ++ fresh) ∧
      ∃ rest, admitTransactions host policy spent
          (fresh ++ (nonceKey host (fillChainId policy tx)).toList) txs = .ok rest ∧
        out = fillChainId policy tx :: rest := by
  rw [admitTransactions]
  simp only [bind, Except.bind, throw, throwThe, MonadExceptOf.throw, pure, Except.pure]
  by_cases hchain : (fillChainId policy tx).chainId = policy.chainNetwork.value
  swap
  · rw [if_pos hchain]
    exact iff_of_false (by simp) (fun h => hchain h.1.chainId)
  rw [if_neg (not_not.mpr hchain)]
  by_cases hschema : (fillChainId policy tx).schemaVersion = chainSchemaVersion
  swap
  · rw [if_pos hschema]
    exact iff_of_false (by simp) (fun h => hschema h.1.schemaVersion)
  rw [if_neg (not_not.mpr hschema)]
  rcases hsig : verifyChainTransactionSignature host policy (fillChainId policy tx) with e | result
  · refine iff_of_false (by simp) ?_
    rintro ⟨hacc, -⟩
    cases hsig.symm.trans hacc.signature
  rcases result with - | message
  swap
  · refine iff_of_false (by simp) ?_
    rintro ⟨hacc, -⟩
    cases hsig.symm.trans hacc.signature
  have hacc : TransactionAccepted host policy (fillChainId policy tx) := ⟨hchain, hschema, hsig⟩
  rw [and_iff_right hacc]
  rcases hmore : admitTransactions host policy spent
    (fresh ++ (nonceKey host (fillChainId policy tx)).toList) txs with e | rest
  · refine iff_of_false ?_ (by rintro ⟨-, rest, hrest, -⟩; cases hrest)
    rcases hkey : nonceKey host (fillChainId policy tx) with - | key
    · simp
    · by_cases hspent : key ∈ spent ∨ key ∈ fresh <;> simp [hspent]
  · rcases hkey : nonceKey host (fillChainId policy tx) with - | key
    · simp [eq_comm]
    · by_cases hspent : key ∈ spent ∨ key ∈ fresh
      · simp only [if_pos hspent]
        refine iff_of_false (by simp) ?_
        rintro ⟨hnew, -⟩
        exact hnew key rfl (mem_append.mpr hspent)
      · simp only [if_neg hspent]
        rw [not_or] at hspent
        simp [hspent, eq_comm]

/-- **The loop of an append succeeds exactly on acceptable transactions with unspent nonces**,
and fills in nothing but chain ids. -/
theorem admitTransactions_eq_ok {spent : List (String × String)} {txs : List ChainTransaction} :
    ∀ {fresh : List (String × String)} {out : List ChainTransaction},
      admitTransactions host policy spent fresh txs = .ok out ↔
        out = txs.map (fillChainId policy) ∧ (∀ tx ∈ out, TransactionAccepted host policy tx) ∧
        (out.filterMap (nonceKey host)).Nodup ∧
        ∀ key ∈ out.filterMap (nonceKey host), key ∉ spent ++ fresh := by
  induction txs with
  | nil =>
    intro fresh out
    rw [admitTransactions, Except.ok.injEq, map_nil]
    constructor
    · rintro rfl
      simp
    · rintro ⟨rfl, -⟩
      rfl
  | cons tx txs ih =>
    intro fresh out
    rw [admitTransactions_cons_eq_ok]
    constructor
    · rintro ⟨hacc, hkey, rest, hrest, rfl⟩
      obtain ⟨rfl, haccs, hnew⟩ := ih.mp hrest
      rw [← append_assoc] at hnew
      exact ⟨rfl, forall_mem_cons.mpr ⟨hacc, haccs⟩, unspent_cons.mpr ⟨hkey, hnew⟩⟩
    · rintro ⟨rfl, haccs, hnew⟩
      rw [map_cons, forall_mem_cons] at haccs
      obtain ⟨hkey, hnew⟩ := unspent_cons.mp hnew
      rw [append_assoc] at hnew
      exact ⟨haccs.1, hkey, _, ih.mpr ⟨rfl, haccs.2, hnew⟩, rfl⟩

variable (host policy) in
/-- What is known of an append that wrote: the blocks it read, the block it built from the new
transactions, and the validator's verdict on the two together. -/
structure Appended (moment : Moment) (validatorId : Option String)
    (transactions : List ChainTransaction) (file : ChainFile) (blocks : Chain)
    (block : ChainBlock) : Prop where
  listed : listChainBlocks host policy moment.clock file = .ok blocks
  new_ne : newTransactions blocks transactions ≠ []
  block_eq : block = (appendDraft host policy moment validatorId blocks
    ((newTransactions blocks transactions).map (fillChainId policy))).seal host blocks
  accepted : validateChainBlocks host policy (blocks ++ [block]) = .ok []

theorem appended_of_appendPlan {moment : Moment} {validatorId : Option String}
    {transactions : List ChainTransaction} {file : ChainFile} {block : ChainBlock} {saved : Chain}
    (h : appendPlan host policy moment validatorId transactions file = .ok (some (block, saved))) :
    ∃ blocks, saved = blocks ++ [block] ∧
      Appended host policy moment validatorId transactions file blocks block := by
  rw [appendPlan] at h
  simp only [bind, Except.bind, throw, throwThe, MonadExceptOf.throw, pure, Except.pure] at h
  split at h
  · cases h
  rcases hlist : listChainBlocks host policy moment.clock file with e | blocks <;> rw [hlist] at h
  · cases h
  by_cases hnew : newTransactions blocks transactions = []
  · simp only [if_pos hnew] at h
    cases h
  simp only [if_neg hnew] at h
  rcases hadmitted : admitTransactions host policy (chainTransactionNonces host blocks) []
    (newTransactions blocks transactions) with e | admitted <;> rw [hadmitted] at h
  · cases h
  obtain ⟨rfl, -⟩ := admitTransactions_eq_ok.mp hadmitted
  dsimp only at h
  split at h
  · cases h
  split at h
  · cases h
  rename_i errors hvalid
  by_cases herrors : errors = []
  swap
  · rw [if_pos herrors] at h
    cases h
  subst herrors
  rw [if_neg (not_not.mpr rfl)] at h
  simp only [Except.ok.injEq, Option.some.injEq, Prod.mk.injEq] at h
  obtain ⟨rfl, rfl⟩ := h
  exact ⟨blocks, rfl, hlist, hnew, rfl, hvalid⟩

/-- **What an append can do**: raise or decline with the file untouched, or save the blocks it
read with one more block that makes a list the validator accepts. -/
theorem appendChainBlock_cases (transactions : List ChainTransaction) (file : ChainFile) :
    (∃ e, appendChainBlock host policy moment validatorId transactions file = (.error e, file)) ∨
    appendChainBlock host policy moment validatorId transactions file = (.ok none, file) ∨
    ∃ blocks block, Appended host policy moment validatorId transactions file blocks block ∧
      appendChainBlock host policy moment validatorId transactions file =
        (.ok (some block), saveChainBlocks (blocks ++ [block])) := by
  rcases hplan : appendPlan host policy moment validatorId transactions file with e | plan
  · exact .inl ⟨e, by rw [appendChainBlock, hplan]⟩
  rcases plan with - | ⟨block, saved⟩
  · exact .inr (.inl (by rw [appendChainBlock, hplan]))
  · obtain ⟨blocks, rfl, happended⟩ := appended_of_appendPlan hplan
    exact .inr (.inr ⟨blocks, block, happended, by rw [appendChainBlock, hplan]⟩)

/-- **An append succeeds when its block continues the chain well.** -/
theorem appendChainBlock_of_wellFormed {moment : Moment} {validatorId : Option String}
    {transactions : List ChainTransaction} {file : ChainFile} {blocks : Chain}
    {block : ChainBlock} (hlisted : listChainBlocks host policy moment.clock file = .ok blocks)
    (hnew : newTransactions blocks transactions ≠ [])
    (hblock : block = (appendDraft host policy moment validatorId blocks
      ((newTransactions blocks transactions).map (fillChainId policy))).seal host blocks)
    (hwell : WellFormed host policy (blocks ++ [block]))
    (hclosing : ClosingSound host policy (blocks ++ [block])) :
    appendChainBlock host policy moment validatorId transactions file =
      (.ok (some block), saveChainBlocks (blocks ++ [block])) := by
  have hne : blocks ++ [block] ≠ [] := append_ne_nil_of_right_ne_nil _ (cons_ne_nil _ _)
  have haccepted := hwell blocks block [] rfl
  have htransactions : block.transactions =
      (newTransactions blocks transactions).map (fillChainId policy) := by
    rw [hblock]
    rfl
  have hadmitted : admitTransactions host policy (chainTransactionNonces host blocks) []
      (newTransactions blocks transactions) =
        .ok ((newTransactions blocks transactions).map (fillChainId policy)) := by
    rw [admitTransactions_eq_ok, ← htransactions, append_nil]
    exact ⟨rfl, haccepted.transactions, haccepted.nonces_nodup, haccepted.nonces_new⟩
  have hsupply : validateChainSupplyInvariant host policy (blocks ++ [block]) = none := by
    rw [validateChainSupplyInvariant, if_neg hne, if_neg (not_not.mpr hclosing.supply)]
  have hplan : appendPlan host policy moment validatorId transactions file =
      .ok (some (block, blocks ++ [block])) := by
    rw [appendPlan, if_neg (fun h => hnew (by rw [h]; rfl))]
    refine bind_eq_ok.mpr ⟨blocks, hlisted, ?_⟩
    rw [if_neg hnew]
    refine bind_eq_ok.mpr ⟨_, hadmitted, ?_⟩
    dsimp only
    rw [← hblock, hsupply]
    dsimp only
    rw [(hwell.validate_iff hne).mpr hclosing]
    rfl
  rw [appendChainBlock, hplan]

end Cases

/-! ### Genesis -/

/-- `v == "genesis"`. -/
def isGenesisValidator : Json → Bool
  | .str s => s = "genesis"
  | _ => false

/-- `_is_stale_genesis_only_chain`. -/
def isStaleGenesisOnlyChain (expected : ChainBlock) : Bool :=
  match blocks with
  | [block] =>
    if block.height ≠ 0 ∨ block.previousHash ≠ genesisPreviousHash ∨
        isGenesisValidator block.validatorId = false ∨ block.blockHash = expected.blockHash then
      false
    else block.transactions.all (fun tx => startsWith "genesis_" tx.txType)
  | _ => false

/-- The sets of transaction ids of two blocks are equal. -/
def sameTxIds (a b : ChainBlock) : Bool :=
  a.transactions.all (fun tx => tx.txId ∈ b.transactions.map ChainTransaction.txId) &&
    b.transactions.all (fun tx => tx.txId ∈ a.transactions.map ChainTransaction.txId)

/-- `ensure_chain_genesis`. -/
def ensureChainGenesis : Written Nat :=
  let genesis := makeGenesisBlock host money
  match listChainBlocks host policy moment.clock file with
  | .error e => (.error e, file)
  | .ok [] => (.ok genesis.transactions.length, saveChainBlocks [genesis])
  | .ok (first :: rest) =>
    if isStaleGenesisOnlyChain (first :: rest) genesis then (.ok 0, saveChainBlocks [genesis])
    else if rest = [] ∧ first.height = 0 ∧ first.previousHash = genesisPreviousHash ∧
        isGenesisValidator first.validatorId ∧ sameTxIds first genesis then
      (.ok 0, if first.blockHash ≠ genesis.blockHash then saveChainBlocks [genesis] else file)
    else if first.blockHash ≠ genesis.blockHash then
      (.error (.valueError
        (s!"Local chain genesis_hash {first.blockHash} does not match expected " ++
        s!"{genesis.blockHash} for network {money.chainNetwork.value}. Reset or migrate the " ++
        "local chain state before recording new blocks.")), file)
    else
      let missing := newTransactions (first :: rest) genesis.transactions
      match appendChainBlock host policy moment (some "genesis") missing file with
      | (.ok (some block), after) => (.ok block.transactions.length, after)
      | (.ok none, after) => (.ok 0, after)
      | (.error e, after) => (.error e, after)

section GenesisCases

variable {host policy}

/-- **What creating the genesis block can do**: leave the file, write the genesis block over
nothing or over a single block of another hash, or append genesis transactions that the chain
lacks. -/
theorem ensureChainGenesis_cases :
    (∃ r, ensureChainGenesis host policy money moment file = (r, file)) ∨
    (∃ n blocks, listChainBlocks host policy moment.clock file = .ok blocks ∧
      (blocks = [] ∨ ∃ b, blocks = [b] ∧ b.blockHash ≠ expectedGenesisHash host money) ∧
      ensureChainGenesis host policy money moment file =
        (.ok n, saveChainBlocks [makeGenesisBlock host money])) ∨
    ∃ n blocks block, Appended host policy moment (some "genesis")
        (newTransactions blocks (genesisChainTransactions host money)) file blocks block ∧
      ensureChainGenesis host policy money moment file =
        (.ok n, saveChainBlocks (blocks ++ [block])) := by
  rcases hlist : listChainBlocks host policy moment.clock file with e | blocks
  · exact .inl ⟨.error e, by rw [ensureChainGenesis, hlist]⟩
  rcases blocks with - | ⟨first, rest⟩
  · exact .inr (.inl ⟨_, [], rfl, .inl rfl, by rw [ensureChainGenesis, hlist]⟩)
  rw [ensureChainGenesis, hlist]
  dsimp only
  split
  next hstale =>
    -- a lone block that is stale has another hash than the genesis block
    refine .inr (.inl ⟨0, first :: rest, rfl, .inr ?_, rfl⟩)
    cases rest with
    | nil =>
      refine ⟨first, rfl, ?_⟩
      intro hhash
      rw [expectedGenesisHash] at hhash
      rw [isStaleGenesisOnlyChain, if_pos (.inr (.inr (.inr hhash)))] at hstale
      cases hstale
    | cons second rest => cases hstale
  next =>
  split
  next hlone =>
    obtain ⟨rfl, -⟩ := hlone
    by_cases hhash : first.blockHash = (makeGenesisBlock host money).blockHash
    · exact .inl ⟨.ok 0, by rw [if_neg (not_not.mpr hhash)]⟩
    · exact .inr (.inl ⟨0, [first], rfl, .inr ⟨first, rfl, hhash⟩, by rw [if_pos hhash]⟩)
  next =>
  split
  next => exact .inl ⟨_, rfl⟩
  next =>
  rcases appendChainBlock_cases moment (some "genesis")
    (newTransactions (first :: rest) (makeGenesisBlock host money).transactions) file with
    ⟨e, h⟩ | h | ⟨blocks, block, happended, h⟩
  · exact .inl ⟨.error e, by rw [h]⟩
  · exact .inl ⟨.ok 0, by rw [h]⟩
  · cases hlist.symm.trans happended.listed
    exact .inr (.inr ⟨_, _, block, happended, by rw [h]⟩)

end GenesisCases

/-! ### Distributing the developer fund -/

/-- `s.lstrip("@")`. -/
def stripAt (s : String) : String := String.ofList (s.toList.dropWhile (· = '@'))

/-- A recipient of a distribution after its checks. -/
structure PreparedRecipient where
  github : String
  address : String
  amountAtomic : Int
  amountCoins : String
  category : String
  reason : String

/-- The loop of `record_developer_fund_distribution` over the recipients. -/
def prepareRecipients : Nat → List String → List Json → Except PyError (List PreparedRecipient)
  | _, _, [] => .ok []
  | index, seen, .obj kvs :: rest => do
    let github := host.lower (stripAt (strip (host.strOrEmpty (Json.getD kvs "github"))))
    let address := host.normalizeAddress (host.strOrEmpty (Json.getD kvs "address"))
    let amountAtomic ← host.int ((Json.getD kvs "amount_atomic").pyOr (.int 0))
    if github = "" then
      throw (.valueError s!"Developer fund recipient[{index}] is missing github.")
    if address = "" then
      throw (.valueError s!"Developer fund recipient '{github}' is missing address.")
    if amountAtomic ≤ 0 then
      throw (.valueError s!"Developer fund recipient '{github}' amount must be positive.")
    if address ∈ seen then
      throw (.valueError s!"Developer fund recipient address '{address}' is duplicated.")
    let category := strip (host.str ((Json.getD kvs "category").pyOr (.str "general")))
    let more ← prepareRecipients (index + 1) (seen ++ [address]) rest
    return { github, address, amountAtomic
             amountCoins := host.strOrEmpty (Json.getD kvs "amount_coins")
             category := if category = "" then "general" else category
             reason := strip (host.strOrEmpty (Json.getD kvs "reason")) } :: more
  | _, _, _ :: _ => .error .attributeError

/-- The keyword arguments of `record_developer_fund_distribution`. -/
structure DistributionArgs where
  roundId : String
  recipients : List Json
  roundHash : String
  participantsHash : String
  sourceCommit : Option String := none
  validatorId : Option String := none

variable (args : DistributionArgs)

/-- `developer_fund_distribution_round_ids`, as a list. -/
def developerFundDistributionRoundIds : List String :=
  (allTransactions blocks).filterMap fun tx =>
    if startsWith "developer_fund_distribution_" tx.txType then
      nonempty? (some (host.strOrEmpty ((Json.getD tx.metadata "round_id").pyOr tx.payoutId)))
    else none

/-- The metadata every transaction of a distribution carries. -/
def distributionMetadata : Fields :=
  [("round_id", .str (strip args.roundId)), ("round_hash", .str args.roundHash),
    ("participants_hash", .str args.participantsHash), ("network", .str money.chainNetwork.value),
    ("reward_token_code", .str money.rewardTokenCode)] ++
  match nonempty? args.sourceCommit with
  | some commit => [("source_commit", .str commit)]
  | none => []

/-- The transactions of a distribution: one debit of the fund, one credit for each recipient. -/
def distributionTransactions (recipients : List PreparedRecipient) : List ChainTransaction :=
  let total := (recipients.map PreparedRecipient.amountAtomic).sum
  let round := strip args.roundId
  let fund := developerContributionFundChainAddress host money
  makeChainTransaction host moment.now {
      txType := "developer_fund_distribution_debit"
      address := fund
      deltaAtomic := -total
      payoutId := some round
      walletId := some s!"system-developer-contribution-fund-{money.chainNetwork.value}"
      note := some "Developer contribution fund distribution debit."
      nonce := some s!"developer-fund:{round}:debit"
      metadata := distributionMetadata money args ++
        [("recipient_count", .int recipients.length), ("total_amount_atomic", .int total)]
      chainId := some money.chainNetwork.value } ::
  recipients.map fun recipient =>
    makeChainTransaction host moment.now {
      txType := "developer_fund_distribution_credit"
      address := recipient.address
      deltaAtomic := recipient.amountAtomic
      payoutId := some s!"{round}:{recipient.github}"
      counterpartyAddress := some fund
      note := some "Developer contribution fund distribution credit."
      nonce := some s!"developer-fund:{round}:credit:{recipient.github}"
      metadata := distributionMetadata money args ++
        [("github", .str recipient.github), ("amount_coins", .str recipient.amountCoins),
          ("category", .str recipient.category), ("reason", .str recipient.reason)]
      chainId := some money.chainNetwork.value }

/-- `record_developer_fund_distribution` between the creation of the genesis block and the
append: the transactions to append. -/
def distributionPlan (file : ChainFile) : Except PyError (List ChainTransaction) := do
  let blocks ← listChainBlocks host policy moment.clock file
  if strip args.roundId ∈ developerFundDistributionRoundIds host blocks then
    throw (.valueError s!"Developer fund round '{strip args.roundId}' was already distributed.")
  let recipients ← prepareRecipients host 0 [] args.recipients
  if recipients = [] then
    throw (.valueError "Developer fund distribution requires at least one recipient.")
  let fund := developerContributionFundChainAddress host money
  if (recipients.map PreparedRecipient.amountAtomic).sum > chainBalanceAtomic host blocks fund then
    throw (.valueError "Developer fund distribution exceeds available fund balance.")
  return distributionTransactions host money moment args recipients

/-- `record_developer_fund_distribution`. -/
def recordDeveloperFundDistribution (file : ChainFile) : Written ChainBlock :=
  if strip args.roundId = "" then
    (.error (.valueError "Developer fund round_id is required."), file)
  else if strip args.roundHash = "" then
    (.error (.valueError "Developer fund round_hash is required."), file)
  else if strip args.participantsHash = "" then
    (.error (.valueError "Developer fund participants_hash is required."), file)
  else
    match ensureChainGenesis host policy money moment file with
    | (.error e, started) => (.error e, started)
    | (.ok _, started) =>
      match distributionPlan host policy money moment args started with
      | .error e => (.error e, started)
      | .ok transactions =>
        match appendChainBlock host policy moment args.validatorId transactions started with
        | (.error e, after) => (.error e, after)
        | (.ok none, after) =>
          (.error (.valueError "Developer fund distribution was not recorded."), after)
        | (.ok (some block), after) => (.ok block, after)

section DistributionCases

variable {host policy}

/-- A distribution whose plan is refused leaves the chain with its genesis block. -/
theorem recordDeveloperFundDistribution_refused {money : MoneyPolicy} {moment : Moment}
    {args : DistributionArgs} {file started : ChainFile} {n : Nat} {e : PyError}
    (hid : strip args.roundId ≠ "") (hhash : strip args.roundHash ≠ "")
    (hparticipants : strip args.participantsHash ≠ "")
    (hgenesis : ensureChainGenesis host policy money moment file = (.ok n, started))
    (hplan : distributionPlan host policy money moment args started = .error e) :
    recordDeveloperFundDistribution host policy money moment args file = (.error e, started) := by
  rw [recordDeveloperFundDistribution, if_neg hid, if_neg hhash, if_neg hparticipants, hgenesis]
  dsimp only
  rw [hplan]

/-- **What a distribution can do**: raise before it touches the file, raise after it has made
sure that there is a genesis block, or append the debit and the credits. -/
theorem recordDeveloperFundDistribution_cases (file : ChainFile) :
    (∃ e, recordDeveloperFundDistribution host policy money moment args file = (.error e, file)) ∨
    (∃ e, recordDeveloperFundDistribution host policy money moment args file =
      (.error e, (ensureChainGenesis host policy money moment file).2)) ∨
    ∃ transactions blocks block, distributionPlan host policy money moment args
        (ensureChainGenesis host policy money moment file).2 = .ok transactions ∧
      Appended host policy moment args.validatorId transactions
        (ensureChainGenesis host policy money moment file).2 blocks block ∧
      recordDeveloperFundDistribution host policy money moment args file =
        (.ok block, saveChainBlocks (blocks ++ [block])) := by
  rw [recordDeveloperFundDistribution]
  split
  next => exact .inl ⟨_, rfl⟩
  next =>
  split
  next => exact .inl ⟨_, rfl⟩
  next =>
  split
  next => exact .inl ⟨_, rfl⟩
  next =>
  rcases ensureChainGenesis host policy money moment file with ⟨e | n, started⟩
  · exact .inr (.inl ⟨e, rfl⟩)
  rcases hplan : distributionPlan host policy money moment args started with e | transactions
  · exact .inr (.inl ⟨e, by simp only [hplan]⟩)
  simp only [hplan]
  rcases appendChainBlock_cases moment args.validatorId transactions started with
    ⟨e, h⟩ | h | ⟨blocks, block, happended, h⟩
  · exact .inr (.inl ⟨e, by rw [h]⟩)
  · exact .inr (.inl ⟨_, by rw [h]⟩)
  · exact .inr (.inr ⟨transactions, blocks, block, rfl, happended, by rw [h]⟩)

end DistributionCases

end CaiNetwork
