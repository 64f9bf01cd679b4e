/-
CaiNetwork/Validator/Moves.lean

What the transactions of a bond move.

`BondMoves` says of the block of a lock, a release or a slash what it adds to the wallet, to the
bond pool and to the slash pool, and that the locked bond of the wallet moves with the pool.
Recording one on a chain whose bonds add up gives such a chain again (`BondedChain.record`).
-/

import CaiNetwork.Validator.Mode

namespace CaiNetwork

open List

variable (host : Host) (policy : WalletPolicy)

variable {tx : ChainTransaction} {address : String} {delta : Int} {txs : List ChainTransaction}

/-- A wallet as the program creates it: it has an id, and its address is in normal form and is
not that of a pool. -/
structure WalletSound (wallet : WalletRecord) : Prop where
  walletId : wallet.walletId ≠ ""
  normal : NormalAddress host wallet.address
  ne_empty : wallet.address ≠ ""
  ne_bondPool : wallet.address ≠ bondPool host policy
  ne_slashPool : wallet.address ≠ slashPool host policy

/-! ### What the transactions of a bond move -/

variable {host policy} {blocks : Chain} {money : MoneyPolicy} {moment : Moment}
  {wallet : WalletRecord} {validatorId : String}

theorem validatorId_of_metadata
    (hmetadata : Json.getD tx.metadata "validator_id" = .str validatorId)
    (hnormal : NormalAddress host validatorId) (hne : validatorId ≠ "") :
    validatorIdFromBondMetadata host tx = some validatorId := by
  have hraw : (Json.getD tx.metadata "validator_id").pyOr
      ((Json.getD tx.metadata "validator_address").pyOr
        (Json.getD tx.metadata "validatorAddress")) = .str validatorId := by
    rw [hmetadata, Json.pyOr_str hne]
  rw [validatorIdFromBondMetadata, hraw]
  show nonempty? (some (host.normalizeAddress validatorId)) = _
  rw [hnormal, nonempty?, if_neg hne]

theorem lockedBondEntry_lock (htype : tx.txType = "validator_bond_lock")
    (hmetadata : Json.getD tx.metadata "validator_id" = .str validatorId)
    (hnormal : NormalAddress host validatorId) (hne : validatorId ≠ "") {bond : Int}
    (hdelta : tx.deltaAtomic = -bond) (hbond : 0 < bond) :
    lockedBondEntry host tx = some (validatorId, bond) := by
  rw [lockedBondEntry, htype, if_pos (by decide), validatorId_of_metadata hmetadata hnormal hne]
  dsimp only
  rw [if_pos rfl, hdelta, neg_neg, max_eq_right hbond.le, if_neg hbond.ne']

theorem lockedBondEntry_debit (htype : tx.txType = "validator_bond_pool_debit")
    (hmetadata : Json.getD tx.metadata "validator_id" = .str validatorId)
    (hnormal : NormalAddress host validatorId) (hne : validatorId ≠ "") {amount : Int}
    (hdelta : tx.deltaAtomic = -amount) (hamount : 0 < amount) :
    lockedBondEntry host tx = some (validatorId, -amount) := by
  have hne' : -amount ≠ 0 := by omega
  have htype' : ¬"validator_bond_pool_debit" = "validator_bond_lock" := by decide
  rw [lockedBondEntry, htype, if_pos (by decide), validatorId_of_metadata hmetadata hnormal hne]
  dsimp only
  rw [if_neg htype', hdelta, if_neg hne']

variable (host) in
/-- A transaction as the program makes it. -/
structure ProperTransaction (tx : ChainTransaction) : Prop where
  names : NamesValidator host tx
  stored : StoredAsIs host tx
  chainId : tx.chainId ≠ ""

variable (host) in
/-- A transaction of a bond: the address it credits, and its entry among the locked bonds. -/
structure TransactionMoves (address : String) (delta : Int) (entry : Option (String × Int))
    (tx : ChainTransaction) : Prop where
  address : host.normalizeAddress tx.address = address
  delta : tx.deltaAtomic = delta
  entry : lockedBondEntry host tx = entry
  proper : ProperTransaction host tx

theorem TransactionMoves.credited
    {entry : Option (String × Int)} (h : TransactionMoves host address delta entry tx)
    (a : String) (txs : List ChainTransaction) : CaiNetwork.credited host a (tx :: txs) =
      (if address = a then delta else 0) + CaiNetwork.credited host a txs := by
  rw [credited_cons, h.address, h.delta]

variable (host) in
/-- What some transactions add to those that follow them. -/
structure Adds (address : String) (delta : Int) (txs rest : List ChainTransaction) : Prop where
  credited : ∀ a, CaiNetwork.credited host a txs =
    (if address = a then delta else 0) + CaiNetwork.credited host a rest
  locked : ∀ v, lockedOf host v txs = lockedOf host v rest
  lockedTotal : CaiNetwork.lockedTotal host txs = CaiNetwork.lockedTotal host rest
  proper : (∀ tx ∈ rest, ProperTransaction host tx) → ∀ tx ∈ txs, ProperTransaction host tx

/-- A credit that is written unless it is zero. -/
theorem TransactionMoves.optional
    (h : TransactionMoves host address delta none tx) (hdelta : 0 ≤ delta)
    (rest : List ChainTransaction) :
    Adds host address delta ((if 0 < delta then [tx] else []) ++ rest) rest := by
  split
  next =>
    refine ⟨fun a => h.credited a rest, fun v => (locked_cons_none h.entry v rest).1,
      (locked_cons_none h.entry "" rest).2, ?_⟩
    intro hrest
    exact forall_mem_cons.mpr ⟨h.proper, hrest⟩
  next hpos =>
    have hzero : delta = 0 := by omega
    refine ⟨?_, fun _ => rfl, rfl, id⟩
    intro a
    rw [hzero, ite_self, zero_add]
    rfl

/-- A constructed transaction whose entry is known. -/
theorem transactionMoves_make {now : Timestamp} {args : TransactionArgs}
    (htx : tx = makeChainTransaction host now args)
    (haddress : args.address = address) (hdelta : args.deltaAtomic = delta)
    (hchain : args.chainId = some money.chainNetwork.value) (hnormal : NormalAddress host address)
    (hcounterparty : ∀ c, args.counterpartyAddress = some c → NormalAddress host c)
    {entry : Option (String × Int)} (hentry : lockedBondEntry host tx = entry)
    (hnames : NamesValidator host tx) : TransactionMoves host address delta entry tx := by
  subst htx haddress hdelta
  refine ⟨?_, rfl, hentry, hnames, makeChainTransaction_stored hnormal hcounterparty, ?_⟩
  · show host.normalizeAddress (host.normalizeAddress args.address) = _
    rw [hnormal, hnormal]
  · show resolvedChainId host args ≠ ""
    rw [resolvedChainId, hchain, nonempty?, if_neg network_value_ne]
    exact network_value_ne

/-- An entry in the name of an address in normal form. -/
theorem namesValidator_entry {v : String}
    (hentry : lockedBondEntry host tx = some (v, delta)) (hnormal : NormalAddress host v)
    (htext : (Json.getD tx.metadata "validator_id").pyOr (.str "") = .str v) :
    NamesValidator host tx := by
  refine ⟨fun _ => ⟨v, htext⟩, ?_⟩
  intro v' delta' h
  rw [hentry] at h
  cases h
  exact hnormal

variable (host policy) in
/-- A block of bond transactions: what it moves to the wallet and to the two pools.  The locked
bond of the wallet moves with the bond pool. -/
structure BondMoves (address : String) (toWallet toPool toSlash : Int)
    (txs : List ChainTransaction) : Prop where
  ne_nil : txs ≠ []
  balanced : toWallet + toPool + toSlash = 0
  credited : ∀ a, credited host a txs = (if address = a then toWallet else 0) +
    (if bondPool host policy = a then toPool else 0) +
    (if slashPool host policy = a then toSlash else 0)
  locked : ∀ v, lockedOf host v txs = if address = v then toPool else 0
  lockedTotal : lockedTotal host txs = toPool
  proper : ∀ tx ∈ txs, ProperTransaction host tx

theorem bondPool_of_network (hmoney : money.chainNetwork = policy.chainNetwork) :
    validatorBondPoolChainAddress host money = bondPool host policy := by
  rw [validatorBondPoolChainAddress, systemAddress, hmoney]
  rfl

theorem slashPool_of_network (hmoney : money.chainNetwork = policy.chainNetwork) :
    validatorSlashPoolChainAddress host money = slashPool host policy := by
  rw [validatorSlashPoolChainAddress, systemAddress, hmoney]
  rfl

section Transactions

variable (money moment)
variable (hmoney : money.chainNetwork = policy.chainNetwork)
  (hwallet : WalletSound host policy wallet)
variable (metadata : Fields) {amount : Int}

include hwallet

theorem normal_counterparty : ∀ c, some wallet.address = some c → NormalAddress host c := by
  intro c hc
  cases hc
  exact hwallet.normal

/-- Bond metadata that names the wallet's address as the validator. -/
theorem text_of_metadata (hid : Json.getD metadata "validator_id" = .str wallet.address) :
    (Json.getD metadata "validator_id").pyOr (.str "") = .str wallet.address := by
  rw [hid, Json.pyOr_str hwallet.ne_empty]

theorem bondLockDebit_moves (hid : Json.getD metadata "validator_id" = .str wallet.address)
    (hamount : 0 < amount) :
    TransactionMoves host wallet.address (-amount) (some (wallet.address, amount))
      (bondLockDebit host money moment wallet metadata amount) := by
  have hentry : lockedBondEntry host (bondLockDebit host money moment wallet metadata amount) =
      some (wallet.address, amount) :=
    lockedBondEntry_lock rfl hid hwallet.normal hwallet.ne_empty rfl hamount
  have hmade : bondLockDebit host money moment wallet metadata amount =
    makeChainTransaction host moment.now _ := rfl
  refine transactionMoves_make hmade rfl rfl rfl hwallet.normal ?_ hentry
    (namesValidator_entry hentry hwallet.normal (text_of_metadata hwallet metadata hid))
  intro c hc
  cases hc

theorem bondReleaseCredit_moves : TransactionMoves host wallet.address amount none
      (bondReleaseCredit host money moment wallet metadata amount) := by
  obtain ⟨hentry, hnames⟩ := @namesValidator_credit host
    (bondReleaseCredit host money moment wallet metadata amount)
    (show "validator_bond_release_credit" ∉ _ by decide)
  have hmade : bondReleaseCredit host money moment wallet metadata amount =
    makeChainTransaction host moment.now _ := rfl
  refine transactionMoves_make hmade rfl rfl rfl hwallet.normal ?_ hentry hnames
  intro c hc
  cases hc

include hmoney

theorem bondPoolCredit_moves : TransactionMoves host (bondPool host policy) amount none
      (bondPoolCredit host money moment wallet metadata amount) := by
  obtain ⟨hentry, hnames⟩ := @namesValidator_credit host
    (bondPoolCredit host money moment wallet metadata amount)
    (show "validator_bond_pool_credit" ∉ _ by decide)
  exact transactionMoves_make rfl (bondPool_of_network hmoney) rfl rfl normalAddress_bondPool
    (normal_counterparty hwallet) hentry hnames

theorem bondSlashCredit_moves : TransactionMoves host (slashPool host policy) amount none
      (bondSlashCredit host money moment wallet metadata amount) := by
  obtain ⟨hentry, hnames⟩ := @namesValidator_credit host
    (bondSlashCredit host money moment wallet metadata amount)
    (show "validator_slash_pool_credit" ∉ _ by decide)
  exact transactionMoves_make rfl (slashPool_of_network hmoney) rfl rfl normalAddress_slashPool
    (normal_counterparty hwallet) hentry hnames

theorem bondPoolDebit_moves (hid : Json.getD metadata "validator_id" = .str wallet.address)
    (hamount : 0 < amount) :
    TransactionMoves host (bondPool host policy) (-amount) (some (wallet.address, -amount))
      (bondPoolDebit host money moment wallet metadata amount) := by
  have hentry : lockedBondEntry host (bondPoolDebit host money moment wallet metadata amount) =
      some (wallet.address, -amount) :=
    lockedBondEntry_debit rfl hid hwallet.normal hwallet.ne_empty rfl hamount
  exact transactionMoves_make rfl (bondPool_of_network hmoney) rfl rfl normalAddress_bondPool
    (normal_counterparty hwallet) hentry
    (namesValidator_entry hentry hwallet.normal (text_of_metadata hwallet metadata hid))

/-- **A lock** moves the bond from the wallet to the pool. -/
theorem bondLock_moves (hamount : 0 < amount) :
    BondMoves host policy wallet.address (-amount) amount 0
      (bondLockTransactions host money moment wallet wallet.address amount) := by
  rw [bondLockTransactions]
  generalize hm : [("bond_id", Json.str moment.token), ("validator_id", Json.str wallet.address), _,
    _, _, _] = metadata
  have hid : Json.getD metadata "validator_id" = .str wallet.address := by
    rw [← hm]
    rfl
  have hlock := bondLockDebit_moves money moment hwallet metadata hid hamount
  have hcredit : TransactionMoves host _ amount _ _ :=
    bondPoolCredit_moves money moment hmoney hwallet metadata
  refine
    { ne_nil := cons_ne_nil _ _
      balanced := by omega
      credited := ?_
      locked := ?_
      lockedTotal := ?_
      proper := ?_ }
  · intro a
    rw [hlock.credited, hcredit.credited]
    simp
  · intro v
    rw [(locked_cons_some hlock.entry v _).1, (locked_cons_none hcredit.entry v _).1]
    simp
  · rw [(locked_cons_some hlock.entry "" _).2, (locked_cons_none hcredit.entry "" _).2]
    simp
  · simp only [forall_mem_cons]
    exact ⟨hlock.proper, hcredit.proper, forall_mem_nil _⟩

/-- What leaves the bond pool goes to the wallet and to the slash pool; credits of nothing are
not written. -/
theorem bondExit_moves (hid : Json.getD metadata "validator_id" = .str wallet.address)
    {slash released : Int} (hslash : 0 ≤ slash) (hreleased : 0 ≤ released)
    (hpos : 0 < slash + released) :
    BondMoves host policy wallet.address released (-(slash + released)) slash
      (bondPoolDebit host money moment wallet metadata (slash + released) :: ((if 0 < released then
          [bondReleaseCredit host money moment wallet metadata released] else []) ++
        if 0 < slash then [bondSlashCredit host money moment wallet metadata slash] else [])) := by
  have hdebit := bondPoolDebit_moves money moment hmoney hwallet metadata hid hpos
  have hrelease : TransactionMoves host _ released _ _ :=
    bondReleaseCredit_moves money moment hwallet metadata
  have hcredit : TransactionMoves host _ slash _ _ :=
    bondSlashCredit_moves money moment hmoney hwallet metadata
  have hlast := hcredit.optional hslash []
  rw [append_nil] at hlast
  have hboth := hrelease.optional hreleased
    (if 0 < slash then [bondSlashCredit host money moment wallet metadata slash] else [])
  refine
    { ne_nil := cons_ne_nil _ _
      balanced := by omega
      credited := ?_
      locked := ?_
      lockedTotal := ?_
      proper := ?_ }
  · intro a
    rw [hdebit.credited, hboth.credited, hlast.credited, credited_nil]
    omega
  · intro v
    rw [(locked_cons_some hdebit.entry v _).1, hboth.locked, hlast.locked, lockedOf_nil, add_zero]
  · rw [(locked_cons_some hdebit.entry "" _).2, hboth.lockedTotal, hlast.lockedTotal,
      lockedTotal_nil, add_zero]
  · exact forall_mem_cons.mpr ⟨hdebit.proper, hboth.proper (hlast.proper (forall_mem_nil _))⟩

/-- **A release** moves the bond from the pool to the wallet. -/
theorem bondRelease_moves (hamount : 0 < amount) (note : String) :
    BondMoves host policy wallet.address amount (-amount) 0
      (bondReleaseTransactions host money moment wallet wallet.address amount note) := by
  have hexit := bondExit_moves money moment hmoney hwallet
    [("release_id", .str moment.token), ("validator_id", .str wallet.address),
      ("validator_wallet_id", .str wallet.walletId), ("validator_address", .str wallet.address),
      ("released_atomic", .int amount), ("reward_token_code", .str money.rewardTokenCode),
      ("note", .str note)] rfl le_rfl hamount.le (by omega)
  rw [zero_add, if_pos hamount, if_neg (by decide), append_nil] at hexit
  exact hexit

/-- **A slash** moves the bond from the pool to the wallet and to the slash pool. -/
theorem bondSlash_moves {slash released : Int} (hslash : 0 ≤ slash) (hreleased : 0 ≤ released)
    (hpos : 0 < slash + released) (reason : String) :
    BondMoves host policy wallet.address released (-(slash + released)) slash
      (bondSlashTransactions host money moment wallet wallet.address slash released reason) := by
  rw [bondSlashTransactions, max_eq_right hpos.le]
  exact bondExit_moves money moment hmoney hwallet _ rfl hslash hreleased hpos

end Transactions

/-! ### Recording a bond -/

/-- The transactions are not on the chain yet; their ids are hashes with a random token. -/
def FreshIds (blocks : Chain) (txs : List ChainTransaction) : Prop :=
  ∀ tx ∈ txs, tx.txId ∉ (allTransactions blocks).map ChainTransaction.txId

variable {file : ChainFile}

theorem BondedChain.appended (h : BondedChain host policy file blocks) {validatorId : Option String}
    {read : Chain} {block : ChainBlock}
    (happended : Appended host policy moment validatorId txs file read block)
    (hstored : ∀ tx ∈ txs, StoredAsIs host tx)
    (hnames : ∀ tx ∈ block.transactions, NamesValidator host tx)
    (hmoved : credited host (bondPool host policy) block.transactions =
      lockedTotal host block.transactions) :
    read = blocks ∧
      BondedChain host policy (saveChainBlocks (blocks ++ [block])) (blocks ++ [block]) := by
  obtain ⟨hpersisted, -⟩ := h.toPersisted.appended happended hstored
  cases happended.listed.symm.trans (h.listed moment.clock)
  exact ⟨rfl, { hpersisted, h.toBacked.append hnames hmoved with started := by simp }⟩

/-- An append that declines found every transaction on the chain. -/
theorem newTransactions_of_declined {moment : Moment} {validatorId : Option String}
    {after : ChainFile} (hne : txs ≠ [])
    (h : appendChainBlock host policy moment validatorId txs file = (.ok none, after))
    (hlisted : listChainBlocks host policy moment.clock file = .ok blocks) :
    newTransactions blocks txs = [] := by
  by_contra hnew
  rcases hplan : appendPlan host policy moment validatorId txs file with e | plan
  · rw [appendChainBlock, hplan] at h
    cases h
  cases plan with
  | some plan =>
    rw [appendChainBlock, hplan] at h
    cases h
  | none =>
    rw [appendPlan, if_neg hne, hlisted, ok_bind, if_neg hnew] at hplan
    obtain ⟨admitted, -, hplan⟩ := bind_eq_ok.mp hplan
    dsimp only at hplan
    split at hplan
    · cases hplan
    · obtain ⟨errors, -, hplan⟩ := bind_eq_ok.mp hplan
      split at hplan
      · cases hplan
      · cases hplan

/-- **Recording bond transactions** raises and leaves the file alone, or it appends one block of
them; the bonds add up as before. -/
theorem BondedChain.record (h : BondedChain host policy file blocks) {toWallet toPool toSlash : Int}
    (hmoves : BondMoves host policy address toWallet toPool toSlash txs)
    (hne : address ≠ bondPool host policy) (hfresh : FreshIds blocks txs) (moment : Moment)
    (validatorId : Option String) :
    (∃ e, appendChainBlock host policy moment validatorId txs file = (.error e, file)) ∨
    ∃ block, block.transactions = txs ∧ appendChainBlock host policy moment validatorId txs file =
        (.ok (some block), saveChainBlocks (blocks ++ [block])) ∧
      BondedChain host policy (saveChainBlocks (blocks ++ [block])) (blocks ++ [block]) := by
  have hnew : newTransactions blocks txs = txs := by
    rw [newTransactions, filter_eq_self]
    exact fun tx htx => decide_eq_true (hfresh tx htx)
  have hfill : txs.map (fillChainId policy) = txs := by
    conv_rhs => rw [← map_id txs]
    apply map_congr_left
    intro tx htx
    rw [fillChainId, if_neg (hmoves.proper tx htx).chainId, id]
  rcases appendChainBlock_cases moment validatorId txs file with
    ⟨e, he⟩ | hnone | ⟨read, block, happended, hsaved⟩
  · exact .inl ⟨e, he⟩
  · -- declined: every transaction would be on the chain already
    have hdeclined := newTransactions_of_declined hmoves.ne_nil hnone (h.listed moment.clock)
    exact absurd (hnew.symm.trans hdeclined) hmoves.ne_nil
  · refine .inr ⟨block, ?_⟩
    have hread := happended.listed.symm.trans (h.listed moment.clock)
    cases hread
    have htxs : block.transactions = txs := by
      rw [happended.block_eq]
      show (newTransactions blocks txs).map (fillChainId policy) = txs
      rw [hnew, hfill]
    have hmoved : credited host (bondPool host policy) block.transactions =
        lockedTotal host block.transactions := by
      rw [htxs, hmoves.credited, hmoves.lockedTotal, if_neg hne, if_pos rfl,
        if_neg bondPool_ne_slashPool.symm]
      omega
    obtain ⟨-, hbonded⟩ := h.appended happended (fun tx htx => (hmoves.proper tx htx).stored)
      (fun tx htx => (hmoves.proper tx (htxs ▸ htx)).names) hmoved
    exact ⟨htxs, hsaved, hbonded⟩

end CaiNetwork
