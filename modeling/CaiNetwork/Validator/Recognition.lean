/-
CaiNetwork/Validator/Recognition.lean

Bonds among other transactions.

The validator mode of the node, the bond records of other validators and wallet transfers follow
each other on one chain.  As long as no transfer goes to the bond pool, a bond that was locked and
neither released nor slashed is recognized.  A transfer to the pool is accepted like any other, and
after it no bond at all is recognized.
-/

import CaiNetwork.Validator.Runs

namespace CaiNetwork

open List

variable (host : Host) (policy : WalletPolicy)

variable {moment : Moment} {b : Node} {wallet : WalletRecord}

/-! ### Operations -/

/-- A bond transaction of some validator. -/
inductive BondRecord
  | lock (bondAtomic : Int)
  | release (releasedAtomic : Nat) (note : String)
  | slash (slashAtomic releasedAtomic : Nat) (reason : String)

/-- The transactions of a record. -/
def BondRecord.transactions (moment : Moment) (wallet : WalletRecord) :
    BondRecord → List ChainTransaction
  | .lock bondAtomic =>
    bondLockTransactions host (moneyPolicyForWalletPolicy host policy) moment wallet wallet.address
      bondAtomic
  | .release releasedAtomic note =>
    bondReleaseTransactions host (moneyPolicyForWalletPolicy host policy) moment wallet
      wallet.address releasedAtomic note
  | .slash slashAtomic releasedAtomic reason =>
    bondSlashTransactions host (moneyPolicyForWalletPolicy host policy) moment wallet
      wallet.address slashAtomic releasedAtomic reason

/-- Writing a record to the chain. -/
def BondRecord.write (moment : Moment) (wallet : WalletRecord) : BondRecord → NodeAction Unit
  | .lock bondAtomic =>
    recordValidatorBondLock host policy moment (moneyPolicyForWalletPolicy host policy) wallet
      bondAtomic wallet.address
  | .release releasedAtomic note =>
    recordValidatorBondRelease host policy moment (moneyPolicyForWalletPolicy host policy) wallet {}
      releasedAtomic note
  | .slash slashAtomic releasedAtomic reason =>
    recordValidatorBondSlash host policy moment (moneyPolicyForWalletPolicy host policy) wallet {}
      slashAtomic releasedAtomic reason

/-- An operation on the chain that the node shares. -/
inductive BondOp
  /-- The validator mode of this node. -/
  | mode (op : ModeOp)
  /-- A bond record of any validator. -/
  | record (moment : Moment) (wallet : WalletRecord) (bond : BondRecord)
  /-- A transfer from a wallet of this node. -/
  | transfer (moment : Moment) (backend : SigningBackend) (transferId : String)
      (args : TransferArgs)
  /-- A transfer from a wallet of another node. -/
  | remoteTransfer (moment : Moment) (context : TransferContext) (args : TransferArgs)

/-- What a transfer of this node reads. -/
def Node.transferContext (node : Node) (backend : SigningBackend) (transferId : String) :
    TransferContext :=
  { backend, wallets := node.wallets, records := node.records, unlocked := node.unlocked,
    transferId }

/-- The node after an operation, whether it returns or raises. -/
def BondOp.after : BondOp → Node → Node
  | .mode op, node => op.after host policy node
  | .record moment wallet bond, node => (bond.write host policy moment wallet node).2
  | .transfer moment backend transferId args, node =>
    let result := applyWalletTransfer host policy (node.transferContext backend transferId) args
      moment node.chain
    { node with chain := result.file, wallets := result.wallets }
  | .remoteTransfer moment context args, node =>
    { node with
      chain := (applyWalletTransfer host policy context args moment node.chain).file }

/-- The operation may release or slash the bond of the given validator. -/
def BondOp.Exits (validatorId : String) : BondOp → Node → Prop
  | .mode op, node => op.endsBond = true ∧ node.config.address = some validatorId
  | .record _ _ (.lock _), _ => False
  | .record _ wallet _, _ => wallet.address = validatorId
  | _, _ => False

/-- The recipient of a transfer: its address is normalised once for all, and is not that of the
bond pool. -/
def PaysElsewhere (args : TransferArgs) : Prop :=
  NormalAddress host (host.normalizeAddress args.recipientAddress) ∧
    host.normalizeAddress args.recipientAddress ≠ bondPool host policy

/-- No transfer goes to the bond pool.  Wallets are as the program makes them, and the ids of bond
transactions, hashes with a random token, are new. -/
def BondOp.Admissible : BondOp → Node → Prop
  | .mode op, node => op.Fresh host policy node
  | .record moment wallet bond, node => WalletSound host policy wallet ∧
    ∀ blocks, BondedChain host policy node.chain blocks →
      FreshIds blocks (bond.transactions host policy moment wallet)
  | .transfer _ _ _ args, _ => PaysElsewhere host policy args
  | .remoteTransfer _ context args, _ => PaysElsewhere host policy args ∧
    ∀ wallet ∈ context.wallets, WalletSound host policy wallet

variable {host policy} {node : Node} {blocks : Chain}

/-! ### Transfers -/

variable (host policy) in
/-- A transaction that touches neither bonds nor the pool. -/
structure Unrelated (tx : ChainTransaction) : Prop where
  txType : tx.txType ∉ ["validator_bond_lock", "validator_bond_pool_debit"]
  address : host.normalizeAddress tx.address ≠ bondPool host policy

theorem Unrelated.fillChainId {tx : ChainTransaction} (h : Unrelated host policy tx) :
    Unrelated host policy (CaiNetwork.fillChainId policy tx) := by
  rw [CaiNetwork.fillChainId]
  split
  · exact ⟨h.txType, h.address⟩
  · exact h

/-- A listed validator has a locked bond, under an id in normal form. -/
theorem BondedChain.listed_validator {file : ChainFile} (h : BondedChain host policy file blocks)
    {records : List ValidatorRecord} {record : ValidatorRecord}
    (hrecord : record ∈ listBondedValidators host policy blocks records) :
    lockedOf host (normalizeValidatorId host record.validatorId) (allTransactions blocks) ≠ 0 ∧
      NormalAddress host (normalizeValidatorId host record.validatorId) := by
  obtain ⟨-, -, hpos, hle⟩ := mem_listBondedValidators.mp hrecord
  rw [h.get_chainLockedBondsByValidator] at hle
  have hne : lockedOf host (normalizeValidatorId host record.validatorId)
      (allTransactions blocks) ≠ 0 := by omega
  obtain ⟨tx, htx, delta, hentry⟩ := lockedOf_ne_zero hne
  exact ⟨hne, (h.names tx htx).normal _ _ hentry⟩

variable (host policy) in
/-- A node in order, on whose chain nobody locked a bond in the name of the pool. -/
structure BondSound (node : Node) (blocks : Chain) : Prop
    extends ModeSound host policy node blocks where
  unpooled : lockedOf host (bondPool host policy) (allTransactions blocks) = 0

section Transfer

variable {context : TransferContext} {args : TransferArgs} {now : Timestamp}
  {sender : WalletRecord} {recipient : Option WalletRecord} {transactions : List ChainTransaction}

/-- The fee of a transfer goes to bonded validators or to the fee pool. -/
theorem BondSound.unrelated_fees (h : BondSound host policy node blocks) :
    ∀ tx ∈ transferFees host policy context args now sender
      (transferCommittee host policy context blocks), Unrelated host policy tx := by
  intro tx htx
  rw [transferFees] at htx
  split at htx
  next =>
    rw [mem_singleton.mp htx]
    refine ⟨by show "wallet_transfer_fee_credit" ∉ _; decide, ?_⟩
    have hpool : NormalAddress host
        (txFeePoolChainAddress host (moneyPolicyForWalletPolicy host policy)) :=
      normalAddress_systemAddress (by decide) ⟨_, _, rfl, by decide⟩
    have heq : txFeePoolChainAddress host (moneyPolicyForWalletPolicy host policy) =
        "system:tx-fee-pool" ++ ":" ++ policy.chainNetwork.value :=
      systemAddress_eq (by decide) ⟨'s', _, rfl, by decide⟩
    show host.normalizeAddress (host.normalizeAddress (txFeePoolChainAddress host
      (moneyPolicyForWalletPolicy host policy))) ≠ _
    rw [hpool, hpool, heq, bondPool_eq]
    cases policy.chainNetwork <;> decide
  next =>
    obtain ⟨share, hshare, rfl⟩ := mem_map.mp htx
    obtain ⟨raw, hid, hraw⟩ := mem_splitAmountByValidatorBond host hshare
    obtain ⟨record, hrecord, rfl⟩ := mem_validatorIds_select hraw
    obtain ⟨hne, hnormal⟩ := h.chain.listed_validator hrecord
    refine ⟨by show "wallet_transfer_validator_fee_payout" ∉ _; decide, ?_⟩
    show host.normalizeAddress (host.normalizeAddress share.validatorId) ≠ _
    rw [hid, hnormal, hnormal]
    intro hpool
    rw [hpool] at hne
    exact hne h.unpooled

/-- **A transfer that pays elsewhere** touches neither bonds nor the pool. -/
theorem BondSound.unrelated_transfer (h : BondSound host policy node blocks)
    (htransactions : transferTransactions host policy context args now blocks sender recipient =
      .ok transactions) (hsender : WalletSound host policy sender)
    (hpays : PaysElsewhere host policy args) : ∀ tx ∈ transactions, Unrelated host policy tx := by
  rw [transferTransactions] at htransactions
  split at htransactions
  next => cases htransactions
  obtain ⟨debit, hdebit, htransactions⟩ := bind_eq_ok.mp htransactions
  cases pure_eq_ok.mp htransactions
  intro tx htx
  rcases mem_cons.mp htx with rfl | htx
  · obtain ⟨signing, key, signature, metadata, rfl⟩ := transferDebit_shape hdebit
    refine ⟨by show "wallet_transfer_debit" ∉ _; decide, ?_⟩
    show host.normalizeAddress (host.normalizeAddress sender.address) ≠ _
    rw [hsender.normal, hsender.normal]
    exact hsender.ne_bondPool
  rcases mem_cons.mp htx with rfl | htx
  · refine ⟨by show "wallet_transfer_credit" ∉ _; decide, ?_⟩
    show host.normalizeAddress (host.normalizeAddress
      (host.normalizeAddress args.recipientAddress)) ≠ _
    rw [hpays.1, hpays.1]
    exact hpays.2
  · exact h.unrelated_fees tx htx

end Transfer

theorem keys_modify {f : WalletRecord → WalletRecord} (hf : ∀ w, (f w).key = w.key)
    (ws : List WalletRecord) (i : Nat) :
    (ws.modify i f).map WalletRecord.key = ws.map WalletRecord.key := by
  apply ext_getElem?
  intro j
  rw [getElem?_map, getElem?_map, getElem?_modify]
  cases ws[j]? with
  | none => rfl
  | some w =>
    by_cases hij : i = j
    · simp [hij, hf]
    · simp [hij]

theorem keys_refreshBalances (blocks : Chain) (affected : List String) (ws : List WalletRecord) :
    (refreshBalances host blocks affected ws).map WalletRecord.key = ws.map WalletRecord.key := by
  rw [refreshBalances, map_map]
  apply map_congr_left
  intro w hw
  show WalletRecord.key (if _ then _ else w) = _
  split <;> rfl

/-- A transfer rewrites balances only. -/
theorem applyWalletTransfer_keys {context : TransferContext} {args : TransferArgs} (moment : Moment)
    (file : ChainFile) :
    (applyWalletTransfer host policy context args moment file).wallets.map WalletRecord.key =
      (listWallets host context.wallets).map WalletRecord.key := by
  rw [applyWalletTransfer]
  dsimp only
  split
  next => rfl
  split
  next => rfl
  split
  next => rfl
  next =>
    split
    next => rfl
    next =>
      cases (listWallets host context.wallets).findIdx? (fun w =>
        host.normalizeAddress w.address = host.normalizeAddress args.recipientAddress) with
      | none =>
        refine keys_modify ?_ _ _
        exact fun _ => rfl
      | some j =>
        refine (keys_modify ?_ _ _).trans (keys_modify ?_ _ _)
        · exact fun _ => rfl
        · exact fun _ => rfl
  next =>
    split
    next => rfl
    next =>
      split
      next => rfl
      next => exact keys_refreshBalances _ _ _

theorem applyWalletTransfer_file {context : TransferContext} {args : TransferArgs}
    {file after : ChainFile} {wallets : List WalletRecord} {i : Nat} {first : ChainBlock}
    {blocks : Chain} {transactions : List ChainTransaction} {block : Option ChainBlock}
    (hwallets : listWallets host context.wallets = wallets)
    (hi : wallets.findIdx? (·.walletId = args.senderWalletId) = some i)
    (hpos : ¬args.amountAtomic ≤ 0)
    (hlisted : listChainBlocks host policy moment.clock file = .ok (first :: blocks))
    (hplan : transferTransactions host policy context args moment.now (first :: blocks)
      (wallets.getD i default) ((wallets.findIdx? fun w =>
        host.normalizeAddress w.address = host.normalizeAddress args.recipientAddress).map
          (wallets.getD · default)) = .ok transactions)
    (happend : appendChainBlock host policy moment none transactions file = (.ok block, after)) :
    (applyWalletTransfer host policy context args moment file).file = after := by
  rw [applyWalletTransfer, hwallets]
  dsimp only
  rw [hi]
  dsimp only
  rw [if_neg hpos, hlisted]
  dsimp only
  rw [hplan]
  dsimp only
  rw [happend]

theorem chain_transfer {backend : SigningBackend} {transferId : String} {args : TransferArgs} :
    ((BondOp.transfer moment backend transferId args).after host policy node).chain =
      (applyWalletTransfer host policy (node.transferContext backend transferId) args moment
        node.chain).file := rfl

/-! ### Steps -/

variable (host policy) in
/-- What a step leaves: the transactions of before, and every locked bond that it does not end. -/
structure Carries (ends : String → Prop) (blocks : Chain) (b : Node) (blocks' : Chain) : Prop where
  sound : BondSound host policy b blocks'
  kept : ∀ tx ∈ allTransactions blocks, tx ∈ allTransactions blocks'
  locked : ∀ v, ¬ends v →
    lockedOf host v (allTransactions blocks) ≤ lockedOf host v (allTransactions blocks')

section Steps

variable (h : BondSound host policy node blocks)
include h

theorem BondSound.carries_same (hb : ModeSound host policy b blocks) (ends : String → Prop) :
    Carries host policy ends blocks b blocks where
  sound := { hb with unpooled := h.unpooled }
  kept := fun _ htx => htx
  locked := fun _ _ => le_rfl

/-- A block of bond transactions of a proper wallet. -/
theorem BondSound.carries_moves
    {block : ChainBlock} (hb : ModeSound host policy b (blocks ++ [block]))
    (hwallet : WalletSound host policy wallet) {toWallet toPool toSlash : Int}
    (hmoves : BondMoves host policy wallet.address toWallet toPool toSlash block.transactions)
    {ends : String → Prop} (hends : ¬ends wallet.address → 0 ≤ toPool) :
    Carries host policy ends blocks b (blocks ++ [block]) := by
  refine ⟨{ hb with unpooled := ?_ }, ?_, ?_⟩
  · rw [allTransactions_concat, lockedOf_append, h.unpooled, hmoves.locked,
      if_neg hwallet.ne_bondPool, zero_add]
  · intro tx htx
    rw [allTransactions_concat]
    exact mem_append_left _ htx
  · intro v hv
    rw [allTransactions_concat, lockedOf_append, hmoves.locked]
    split
    next heq =>
      have := hends (heq ▸ hv)
      omega
    next => omega

/-- A block of unrelated transactions. -/
theorem BondSound.carries_unrelated
    {validatorId : Option String} {txs : List ChainTransaction} {read : Chain} {block : ChainBlock}
    (happended : Appended host policy moment validatorId txs node.chain read block)
    (hstored : ∀ tx ∈ txs, StoredAsIs host tx) (hunrelated : ∀ tx ∈ txs, Unrelated host policy tx)
    (hchain : b.chain = saveChainBlocks (read ++ [block]))
    (hkeys : b.walletKeys = node.walletKeys) (hconfig : b.config = node.config)
    (ends : String → Prop) : ∃ blocks', Carries host policy ends blocks b blocks' ∧
      ∀ v, lockedOf host v (allTransactions blocks') =
        lockedOf host v (allTransactions blocks) := by
  have hblock : ∀ tx ∈ block.transactions, Unrelated host policy tx := by
    rw [happended.block_eq]
    intro tx htx
    obtain ⟨new, hnew, rfl⟩ := mem_map.mp htx
    exact (hunrelated new (mem_filter.mp hnew).1).fillChainId
  have hzero : ∀ v, lockedOf host v block.transactions = 0 ∧
      lockedTotal host block.transactions = 0 :=
    locked_eq_zero fun tx htx => (hblock tx htx).txType
  obtain ⟨rfl, hbonded⟩ := h.chain.appended happended hstored
    (fun tx htx => (namesValidator_credit host (hblock tx htx).txType).2)
    (by rw [(hzero "").2, credited_eq_zero fun tx htx => (hblock tx htx).address])
  have hsame : ∀ v, lockedOf host v (allTransactions (read ++ [block])) =
      lockedOf host v (allTransactions read) := by
    intro v
    rw [allTransactions_concat, lockedOf_append, (hzero v).1, add_zero]
  have hb : ModeSound host policy b (read ++ [block]) := by
    have hextended : Extended host policy read block block.transactions node b :=
      ⟨rfl, hchain ▸ hbonded, hkeys, hconfig⟩
    exact hextended.sound h.toModeSound
  refine ⟨_, ⟨{ hb with unpooled := (hsame _).trans h.unpooled }, ?_, fun v _ => (hsame v).ge⟩,
    hsame⟩
  intro tx htx
  rw [allTransactions_concat]
  exact mem_append_left _ htx

theorem BondSound.mode_step {op : ModeOp} (hfresh : op.Fresh host policy node) :
    ∃ blocks', Carries host policy (fun v => (BondOp.mode op).Exits v node) blocks
      (op.after host policy node) blocks' := by
  rcases h.toModeSound.after hfresh with
    ⟨-, hidle | ⟨mid, block, hidle, hstep⟩⟩ | ⟨hends, hidle | ⟨mid, block, hidle, hstep⟩⟩
  · exact ⟨blocks, h.carries_same (hidle.sound h.toModeSound) _⟩
  · have hmid := hidle.sound h.toModeSound
    have hend := hstep.sound hmid
    obtain ⟨wallet, -, hmoved, hafter, -⟩ := hstep
    refine ⟨_, h.carries_moves hend (hmid.mem_of_find hmoved.find) hmoved.moves ?_⟩
    exact fun _ => hafter.positive.le
  · exact ⟨blocks, h.carries_same (hidle.sound h.toModeSound) _⟩
  · have hmid := hidle.sound h.toModeSound
    have hend := hstep.sound hmid
    obtain ⟨wallet, slash, released, hbefore, -, -, -, hmoved, -⟩ := hstep
    refine ⟨_, h.carries_moves hend (hmid.mem_of_find hmoved.find) hmoved.moves ?_⟩
    -- the bond that leaves the pool is the configured one
    intro hnot
    refine absurd ⟨hends, ?_⟩ hnot
    rcases hidle.config with hsame | ⟨hnone, -⟩
    · exact (hsame.bondOf hbefore).address
    · exact absurd hbefore.holds hnone

theorem BondSound.carries_records {x : NodeAction Unit}
    {txs : List ChainTransaction} (hrecords : Records host policy x txs node blocks)
    (hwallet : WalletSound host policy wallet) {toWallet toPool toSlash : Int}
    (hmoves : BondMoves host policy wallet.address toWallet toPool toSlash txs)
    {ends : String → Prop} (hends : ¬ends wallet.address → 0 ≤ toPool) :
    ∃ blocks', Carries host policy ends blocks (x node).2 blocks' := by
  rcases hrecords with ⟨e, he⟩ | ⟨block, node', hok, hextended⟩
  · rw [he]
    exact ⟨blocks, h.carries_same h.toModeSound ends⟩
  · rw [hok]
    rw [← hextended.transactions] at hmoves
    exact ⟨_, h.carries_moves (hextended.sound h.toModeSound) hwallet hmoves hends⟩

theorem BondSound.record_step {bond : BondRecord} (hwallet : WalletSound host policy wallet)
    (hfresh : FreshIds blocks (bond.transactions host policy moment wallet)) :
    ∃ blocks', Carries host policy (fun v => (BondOp.record moment wallet bond).Exits v node)
      blocks (bond.write host policy moment wallet node).2 blocks' := by
  have hid : ValidatorConfig.validatorId host {} wallet = wallet.address := hwallet.normal
  have hsame := h.carries_same h.toModeSound
    fun v => (BondOp.record moment wallet bond).Exits v node
  cases bond with
  | lock bondAtomic =>
    rcases records_recordValidatorBondLock moment h.toModeSound rfl hwallet hfresh with
      ⟨e, he⟩ | ⟨hpos, hrecords⟩
    · rw [BondRecord.write, he]
      exact ⟨blocks, hsame⟩
    · exact h.carries_records hrecords hwallet (bondLock_moves _ moment rfl hwallet hpos)
        fun _ => hpos.le
  | release releasedAtomic note =>
    rw [BondRecord.write, recordValidatorBondRelease]
    split
    next => exact ⟨blocks, hsame⟩
    next hpos =>
      have hpos' : (0 : Int) < releasedAtomic := by omega
      have hmoves := bondRelease_moves (moneyPolicyForWalletPolicy host policy) moment rfl hwallet
        hpos' note
      rw [hid]
      exact h.carries_records (h.toModeSound.records hmoves hwallet.ne_bondPool hfresh moment _)
        hwallet hmoves fun hnot => absurd rfl hnot
  | slash slashAtomic releasedAtomic reason =>
    rw [BondRecord.write, recordValidatorBondSlash]
    split
    next => exact ⟨blocks, hsame⟩
    next hpos =>
      have hmoves := bondSlash_moves (moneyPolicyForWalletPolicy host policy) moment rfl hwallet
        (Int.natCast_nonneg slashAtomic) (Int.natCast_nonneg releasedAtomic) (by omega) reason
      rw [hid]
      exact h.carries_records (h.toModeSound.records hmoves hwallet.ne_bondPool hfresh moment _)
        hwallet hmoves fun hnot => absurd rfl hnot

/-- A transfer that pays elsewhere leaves every locked bond. -/
theorem BondSound.transfer_step {context : TransferContext} {args : TransferArgs}
    (hwallets : ∀ wallet ∈ context.wallets, WalletSound host policy wallet)
    (hpays : PaysElsewhere host policy args)
    (hchain : b.chain = (applyWalletTransfer host policy context args moment node.chain).file)
    (hkeys : b.walletKeys = node.walletKeys) (hconfig : b.config = node.config)
    (ends : String → Prop) : ∃ blocks', Carries host policy ends blocks b blocks' ∧
      ∀ v, lockedOf host v (allTransactions blocks') =
        lockedOf host v (allTransactions blocks) := by
  rcases applyWalletTransfer_cases moment node.chain with
    hr | ⟨sender, hsender, recipient, transactions, read, block, hplan, happended, hr, -⟩
  · have hsame : SameFiles node b := ⟨hchain.trans hr, hkeys, hconfig⟩
    exact ⟨blocks, h.carries_same (hsame.idle.sound h.toModeSound) ends, fun _ => rfl⟩
  · have hsound : WalletSound host policy sender := by
      obtain ⟨wallet, hwallet, rfl⟩ := mem_map.mp hsender
      have hw := hwallets wallet hwallet
      exact hw.of_key (Prod.ext rfl hw.normal)
    cases happended.listed.symm.trans (h.chain.listed moment.clock)
    have hstored := transferTransactions_stored hplan hsound.normal hpays.1
      fun record hrecord => (h.chain.listed_validator hrecord).2
    exact h.carries_unrelated happended hstored (h.unrelated_transfer hplan hsound hpays)
      (hchain.trans hr) hkeys hconfig ends

end Steps

def BondOp.isTransfer : BondOp → Bool
  | .transfer _ _ _ _ => true
  | .remoteTransfer _ _ _ => true
  | _ => false

/-- **One operation** carries the bonds that it does not end; a transfer changes none. -/
theorem BondSound.after (h : BondSound host policy node blocks) {op : BondOp}
    (hop : op.Admissible host policy node) :
    ∃ blocks', Carries host policy (fun v => op.Exits v node) blocks (op.after host policy node)
        blocks' ∧
      (op.isTransfer = true → ∀ v,
        lockedOf host v (allTransactions blocks') = lockedOf host v (allTransactions blocks)) := by
  cases op with
  | mode op =>
    obtain ⟨blocks', hcarries⟩ := h.mode_step hop
    exact ⟨blocks', hcarries, fun hno => by cases hno⟩
  | record moment wallet bond =>
    obtain ⟨blocks', hcarries⟩ := h.record_step hop.1 (hop.2 blocks h.chain)
    exact ⟨blocks', hcarries, fun hno => by cases hno⟩
  | transfer moment backend transferId args =>
    have hkeys : ((BondOp.transfer moment backend transferId args).after host policy
        node).walletKeys = node.walletKeys := by
      show (applyWalletTransfer host policy (node.transferContext backend transferId) args moment
        node.chain).wallets.map WalletRecord.key = _
      rw [applyWalletTransfer_keys]
      exact congrArg (List.map WalletRecord.key) h.toModeSound.listWallets
    obtain ⟨blocks', hcarries, hsame⟩ := h.transfer_step h.wallets hop rfl hkeys rfl
      fun v => (BondOp.transfer moment backend transferId args).Exits v node
    exact ⟨blocks', hcarries, fun _ => hsame⟩
  | remoteTransfer moment context args =>
    have hchain : ((BondOp.remoteTransfer moment context args).after host policy node).chain =
      (applyWalletTransfer host policy context args moment node.chain).file := rfl
    obtain ⟨blocks', hcarries, hsame⟩ := h.transfer_step hop.2 hop.1 hchain rfl rfl
      fun v => (BondOp.remoteTransfer moment context args).Exits v node
    exact ⟨blocks', hcarries, fun _ => hsame⟩

/-! ### Runs -/

variable (host policy) in
/-- The bond of a wallet is recognized: the registry counts it, a record that claims no more than
it is listed as bonded, and a configuration that holds it is read back with it. -/
def Recognized (wallet : WalletRecord) (bond : Int) (node : Node) : Prop :=
  ∃ blocks, node.Reads host policy blocks ∧
    bond ≤ Tally.get wallet.address (chainLockedBondsByValidator host policy blocks) ∧
    (∀ record ∈ node.records, normalizeValidatorId host record.validatorId = wallet.address →
      record.state = .bonded → 0 < record.bondedAtomic → record.bondedAtomic ≤ bond →
        record ∈ listBondedValidators host policy blocks node.records) ∧
    (∀ moment, node.config.BondOf wallet → node.config.bondAtomic = bond →
      SameBond node.config (loadOrCreateNodeConfig host policy moment node).2.config)

theorem BondSound.recognized (h : BondSound host policy node blocks)
    {bond : Int} (hheld : BondHeld host blocks wallet bond) :
    Recognized host policy wallet bond node := by
  refine ⟨blocks, h.toModeSound.reads, ?_, ?_, ?_⟩
  · rw [h.chain.get_chainLockedBondsByValidator]
    exact hheld.2
  · intro record hrecord hid hstate hpos hle
    refine mem_listBondedValidators.mpr ⟨hrecord, hstate, hpos, ?_⟩
    rw [h.chain.get_chainLockedBondsByValidator, hid]
    exact hle.trans hheld.2
  · intro moment hbond hamount
    rcases (rests_load node h.toModeSound).config with hsame | ⟨-, w, hw, hnot⟩
    · exact hsame
    · have haddress : w.address = wallet.address := congrArg Prod.snd (hbond.key_eq hw)
      obtain ⟨⟨tx, htx, hlock⟩, hle⟩ := hheld
      refine absurd ⟨⟨tx, htx, hlock.of_key (hbond.key_eq hw)⟩, ?_⟩ hnot
      rw [haddress, hamount]
      exact hle

variable (host policy) in
/-- A transfer changes no locked bond. -/
def TransferKeepsBonds (op : BondOp) (a b : Node) : Prop :=
  op.isTransfer = true → ∀ blocks blocks', a.Reads host policy blocks →
    b.Reads host policy blocks' → ∀ v,
      Tally.get v (chainLockedBondsByValidator host policy blocks') =
        Tally.get v (chainLockedBondsByValidator host policy blocks)

/-- **Bonds stay recognized.**  On a node in order whose chain holds a bond, after any operations
that do not release or slash it, and none of which is a transfer to the bond pool, the bond is
recognized; and no transfer changes any validator's bond. -/
theorem bondRuns_recognized {ops : List BondOp} {wallet : WalletRecord} {bond : Int}
    (start : BondSound host policy node blocks) (hheld : BondHeld host blocks wallet bond)
    (hops : Machine.Meets (BondOp.after host policy)
      (fun op node => op.Admissible host policy node ∧ ¬op.Exits wallet.address node) ops node) :
    Machine.Always (BondOp.after host policy) (Recognized host policy wallet bond) ops node ∧
      Machine.EachStep (BondOp.after host policy) (TransferKeepsBonds host policy) ops node := by
  have hstep : ∀ (op : BondOp) (b : Node),
      (∃ read, BondSound host policy b read ∧ BondHeld host read wallet bond) →
      (op.Admissible host policy b ∧ ¬op.Exits wallet.address b) →
      ∃ read, BondSound host policy (op.after host policy b) read ∧
        BondHeld host read wallet bond := by
    rintro op b ⟨read, hsound, ⟨tx, htx, hlock⟩, hle⟩ ⟨hop, hexits⟩
    obtain ⟨read', hcarries, -⟩ := hsound.after hop
    exact ⟨read', hcarries.sound, ⟨tx, hcarries.kept tx htx, hlock⟩,
      hle.trans (hcarries.locked _ hexits)⟩
  constructor
  · refine (Machine.always_of_invariant hstep hops ⟨blocks, start, hheld⟩).imp ?_
    rintro b ⟨read, hsound, hbond⟩
    exact hsound.recognized hbond
  · refine Machine.eachStep_of_invariant hstep ?_ hops ⟨blocks, start, hheld⟩
    rintro op b ⟨read, hsound, -⟩ ⟨hop, -⟩ htransfer before after hbefore hafter v
    obtain ⟨read', hcarries, hsame⟩ := hsound.after hop
    cases hsound.toModeSound.reads.unique hbefore
    cases hcarries.sound.toModeSound.reads.unique hafter
    rw [hcarries.sound.chain.get_chainLockedBondsByValidator,
      hsound.chain.get_chainLockedBondsByValidator]
    exact hsame htransfer v

/-! ### A validator and a wallet -/

/-- A wallet that has nothing to do with validators. -/
def sampleUnrelated : WalletRecord :=
  { walletId := "u"
    address := "ca978112ca1bbdcafac231b39a23dc4d"
    addressScheme := some addressSchemeEd25519 }

/-- The node of the validator, with this wallet unlocked. -/
def sampleSender : Node :=
  sampleBondedNode [sampleUnrelated] (some [("wallet_id", .str "u"),
    ("address", .str "ca978112ca1bbdcafac231b39a23dc4d"), ("public_key_b64", .str "YQ=="),
    ("signing_seed_b64", .str "YQ==")])

def sampleBackend : SigningBackend := ⟨fun _ _ => .ok [97], fun _ _ => .ok [97]⟩

theorem sampleUnrelated_sound : WalletSound sampleHost samplePolicy sampleUnrelated := by
  refine ⟨by decide, by show sampleHost.normalizeAddress _ = _; decide, by decide, ?_, ?_⟩
  · rw [bondPool_eq]
    decide
  · rw [slashPool_eq]
    decide

theorem sampleSender_sound :
    BondSound sampleHost samplePolicy sampleSender [sampleGenesis, sampleBond] := by
  refine
    { chain := sampleBond_bonded
      wallets := ?_
      bond := fun _ => ⟨sampleValidator, ⟨.inl rfl, rfl, rfl, by decide⟩, rfl⟩
      unpooled := ?_ }
  · exact forall_mem_cons.mpr
      ⟨sampleValidator_sound, forall_mem_singleton.mpr sampleUnrelated_sound⟩
  · rw [bondPool_eq, allTransactions_sampleBond]
    decide

/-- A transfer to another address, then the configuration is read again. -/
def sampleBondOps : List BondOp :=
  [.transfer sampleMoment sampleBackend "x"
      { senderWalletId := "u", recipientAddress := "dd", amountAtomic := 1, txFeeAtomic := 1 },
    .mode (.reload sampleMoment)]

theorem bondRuns_recognized_transfer : Machine.Always (BondOp.after sampleHost samplePolicy)
        (Recognized sampleHost samplePolicy sampleValidator 1000000000000) sampleBondOps
        sampleSender ∧
      Machine.EachStep (BondOp.after sampleHost samplePolicy)
        (TransferKeepsBonds sampleHost samplePolicy) sampleBondOps sampleSender := by
  apply bondRuns_recognized sampleSender_sound sampleBond_held
  refine ⟨⟨⟨?_, ?_⟩, id⟩, ⟨?_, ?_⟩, trivial⟩
  · show sampleHost.normalizeAddress (sampleHost.normalizeAddress "dd") = _
    decide
  · rw [bondPool_eq]
    decide
  · intro blocks hblocks wallet hwallet tx htx
    cases htx
  · rintro ⟨hends, -⟩
    cases hends

/-! ### A gift to the pool -/

/-- One unit for the bond pool. -/
def sampleGift : TransferArgs :=
  { senderWalletId := "u"
    recipientAddress := "system:validator-bond-pool:testnet"
    amountAtomic := 1
    txFeeAtomic := 1 }

def sampleGiftOp : BondOp := .transfer sampleMoment sampleBackend "x" sampleGift

def sampleGiftContext : TransferContext := sampleSender.transferContext sampleBackend "x"

/-- The transactions of the gift. -/
def sampleGiftTransactions : List ChainTransaction :=
  [{ makeChainTransaction sampleHost sampleMoment.now
      (transferDebitArgs sampleHost samplePolicy sampleGiftContext sampleGift sampleUnrelated
        (signingMetadata sampleHost addressSchemeEd25519 (sampleGiftContext.unlocked.getD []))
        (some "YQ==")) with
      signatureB64 := some "YQ==" },
    transferCredit sampleHost samplePolicy sampleGiftContext sampleGift sampleMoment.now
      sampleUnrelated none] ++
  transferFees sampleHost samplePolicy sampleGiftContext sampleGift sampleMoment.now sampleUnrelated
    (transferCommittee sampleHost samplePolicy sampleGiftContext [sampleGenesis, sampleBond])

theorem sampleGift_planned :
    transferTransactions sampleHost samplePolicy sampleGiftContext sampleGift sampleMoment.now
      [sampleGenesis, sampleBond] sampleUnrelated none = .ok sampleGiftTransactions := by
  have hbalance : chainBalanceAtomic sampleHost [sampleGenesis, sampleBond]
      sampleUnrelated.address = 10 := by
    rw [chainBalanceAtomic_eq sampleBond_persisted.wellFormed sampleBond_persisted.stable
      (show sampleHost.normalizeAddress _ = _ by decide) (by decide), allTransactions_sampleBond]
    decide
  rw [transferTransactions, hbalance]
  rfl

def sampleGiftBlock : ChainBlock :=
  (appendDraft sampleHost samplePolicy sampleMoment none [sampleGenesis, sampleBond]
    sampleGiftTransactions).seal sampleHost [sampleGenesis, sampleBond]

/-- The ids of the transactions and the hash of their block, evaluated. -/
theorem sampleGift_evaluated : sampleGiftTransactions.map ChainTransaction.txId =
      ["5597b9314cde34704b36c5ade085d2e7", "e77b4e97fe8d70ce8c26690631e4a807",
        "b3e552aeba578e29e591b53ff895a921"] ∧
    sampleGiftBlock.blockHash =
      "393360d149d7d1e3b0470b78d4f9d97ca94a1e23d72f3faa649ebc9b31fc5f42" := by
  have hlast : [sampleGenesis, sampleBond].getLast? = some sampleBond := rfl
  have hheight : sampleBond.height + 1 = 2 := rfl
  rw [sampleGiftBlock, ChainBlock.seal, computeChainStateRoot, chainBalanceIndex,
    allTransactions_append, allTransactions_sampleBond]
  simp only [appendDraft, hlast, Option.map_some, Option.getD_some, sampleBond_blockHash, hheight]
  decide +kernel

theorem sampleGift_appended :
    appendChainBlock sampleHost samplePolicy sampleMoment none sampleGiftTransactions
        sampleSender.chain =
      (.ok (some sampleGiftBlock),
        saveChainBlocks ([sampleGenesis, sampleBond] ++ [sampleGiftBlock])) ∧
    Persisted sampleHost samplePolicy
      (saveChainBlocks ([sampleGenesis, sampleBond] ++ [sampleGiftBlock]))
      ([sampleGenesis, sampleBond] ++ [sampleGiftBlock]) := by
  have hids : sampleGiftTransactions.map strippedTxId =
      ["5597b9314cde34704b36c5ade085d2e7", "e77b4e97fe8d70ce8c26690631e4a807",
        "b3e552aeba578e29e591b53ff895a921"] := by
    have hstrip : sampleGiftTransactions.map strippedTxId =
      (sampleGiftTransactions.map ChainTransaction.txId).map strip := rfl
    rw [hstrip, sampleGift_evaluated.1]
    decide
  apply sampleBond_persisted.append (cons_ne_nil _ _) rfl
  · refine
      { chainId := rfl, schemaVersion := rfl, transactions_ne := cons_ne_nil _ _
        txIds_ne := ?_, txIds_nodup := ?_, txIds_new := ?_, txRoot := rfl, transactions := ?_
        nonces_nodup := ?_, nonces_new := ?_ }
    · show "" ∉ sampleGiftTransactions.map strippedTxId
      rw [hids]
      decide
    · show (sampleGiftTransactions.map strippedTxId).Nodup
      rw [hids]
      decide
    · show ∀ txId ∈ sampleGiftTransactions.map strippedTxId, _
      rw [hids, allTransactions_sampleBond]
      decide
    · show ∀ tx ∈ sampleGiftTransactions, _
      have hdebit : ∀ tx ∈ sampleGiftTransactions,
          verifyChainTransactionSignature sampleHost samplePolicy tx = .ok none := by
        decide
      intro tx htx
      refine ⟨?_, ?_, hdebit tx htx⟩
      · revert tx
        decide
      · revert tx
        decide
    · show (sampleGiftTransactions.filterMap (nonceKey sampleHost)).Nodup
      decide +kernel
    · rw [chainTransactionNonces, allTransactions_sampleBond]
      show ∀ key ∈ sampleGiftTransactions.filterMap (nonceKey sampleHost), _
      decide
  · rw [newTransactions, allTransactions_sampleBond, filter_eq_self]
    intro tx htx
    have hid : tx.txId ∈ sampleGiftTransactions.map ChainTransaction.txId := mem_map_of_mem htx
    rw [sampleGift_evaluated.1] at hid
    generalize tx.txId = txId at hid
    revert txId
    decide
  · show sampleGiftBlock.blockHash ∉ [sampleGenesis.blockHash, sampleBond.blockHash]
    rw [sampleGift_evaluated.2, sampleGenesis_blockHash, sampleBond_blockHash]
    decide
  · apply transferTransactions_stored sampleGift_planned sampleUnrelated_sound.normal
    · exact normalize_sampleBondPool ▸ normalize_sampleBondPool
    · intro record hrecord
      cases hrecord
  · decide
  · apply credited_nonneg
    rw [allTransactions_sampleBond]
    decide +kernel
  · apply lockedOf_nonneg
    rw [allTransactions_sampleBond]
    decide

theorem sampleGift_after : (sampleGiftOp.after sampleHost samplePolicy sampleSender).chain =
      saveChainBlocks ([sampleGenesis, sampleBond] ++ [sampleGiftBlock]) := by
  have hwallets : listWallets sampleHost sampleGiftContext.wallets =
      [sampleValidator, sampleUnrelated] := sampleSender_sound.toModeSound.listWallets
  have hrecipient : [sampleValidator, sampleUnrelated].findIdx? (fun w =>
      sampleHost.normalizeAddress w.address =
        sampleHost.normalizeAddress sampleGift.recipientAddress) = none := by
    decide
  have hchain : (sampleGiftOp.after sampleHost samplePolicy sampleSender).chain =
      (applyWalletTransfer sampleHost samplePolicy sampleGiftContext sampleGift sampleMoment
        sampleSender.chain).file := chain_transfer
  rw [hchain]
  refine applyWalletTransfer_file hwallets (i := 1) rfl (by decide)
    (sampleBond_persisted.listed sampleMoment.clock) ?_ sampleGift_appended.1
  rw [hrecipient]
  exact sampleGift_planned

/-- **A gift to the bond pool hides every bond**: a wallet that has nothing to do with the
validator sends one unit to the pool, and the validator's bond is no longer recognized. -/
theorem bondRuns_gift :
    BondSound sampleHost samplePolicy sampleSender [sampleGenesis, sampleBond] ∧
      BondHeld sampleHost [sampleGenesis, sampleBond] sampleValidator 1000000000000 ∧
      Recognized sampleHost samplePolicy sampleValidator 1000000000000 sampleSender ∧
      ¬sampleGiftOp.Exits sampleValidator.address sampleSender ∧
      ¬Recognized sampleHost samplePolicy sampleValidator 1000000000000
        (sampleGiftOp.after sampleHost samplePolicy sampleSender) := by
  refine ⟨sampleSender_sound, sampleBond_held,
    sampleSender_sound.recognized sampleBond_held, id, ?_⟩
  rintro ⟨blocks, hreads, hbond, -⟩
  have hread := hreads sampleClock
  rw [sampleGift_after, sampleGift_appended.2.listed] at hread
  cases hread
  have hwell := sampleGift_appended.2.wellFormed
  have hlocked : validatorLockedBonds sampleHost
      ([sampleGenesis, sampleBond] ++ [sampleGiftBlock]) = [("c4", 1000000000000)] := by
    rw [validatorLockedBonds, hwell.lockedIndex_eq, allTransactions_concat,
      allTransactions_sampleBond]
    show intMapping _ (List.insertionSort _
      (Tally.ofEntries ((_ ++ sampleGiftTransactions).filterMap _))) = _
    decide
  have hpool : chainBalanceAtomic sampleHost ([sampleGenesis, sampleBond] ++ [sampleGiftBlock])
      (bondPool sampleHost samplePolicy) = 1000000000001 := by
    rw [chainBalanceAtomic_eq hwell sampleGift_appended.2.stable normalAddress_bondPool
      bondPool_ne_empty, bondPool_eq, allTransactions_concat, allTransactions_sampleBond]
    show credited _ _ (_ ++ sampleGiftTransactions) = _
    decide +kernel
  rw [chainLockedBondsByValidator_eq, hlocked, hpool] at hbond
  revert hbond
  decide

end CaiNetwork
