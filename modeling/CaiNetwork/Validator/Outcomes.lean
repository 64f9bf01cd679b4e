/-
CaiNetwork/Validator/Outcomes.lean

What an operation of the validator mode does on a node in order.

Whether it returns or raises, an operation moves no bond (`Idle`) or it writes one block: turning
the mode on may lock a bond (`LockStep`), the end of the unbonding and a jail may take the
configured bond out of the pool (`ExitStep`).  The invariants of runs are derived from this list
alone.
-/

import CaiNetwork.Validator.Steps

namespace CaiNetwork

open Action

variable (host : Host) (policy : WalletPolicy)

variable {a b : Node} {block : ChainBlock} {config : ValidatorConfig} {note : String}
  {w w' : WalletRecord}

/-- A block of bond transactions of one of the node's wallets. -/
structure Moved (blocks : Chain) (block : ChainBlock) (wallet : WalletRecord)
    (toWallet toPool toSlash : Int) (a b : Node) : Prop where
  moves : BondMoves host policy wallet.address toWallet toPool toSlash block.transactions
  chain : BondedChain host policy b.chain (blocks ++ [block])
  keys : b.walletKeys = a.walletKeys
  find : a.Owns wallet

/-- A bond is locked on the chain and configured. -/
inductive LockStep (blocks : Chain) (block : ChainBlock) (a b : Node) : Prop
  | intro (wallet : WalletRecord) (before : ¬a.config.holdsBond)
      (moved : Moved host policy blocks block wallet (-b.config.bondAtomic) b.config.bondAtomic 0
        a b)
      (after : b.config.BondOf wallet)
      (locked : ∃ tx ∈ block.transactions, IsBondLock host wallet wallet.address tx)

/-- The configured bond leaves the pool, in part to the slash pool. -/
inductive ExitStep (blocks : Chain) (block : ChainBlock) (a b : Node) : Prop
  | intro (wallet : WalletRecord) (slash released : Int) (before : a.config.BondOf wallet)
      (slash_nonneg : 0 ≤ slash) (released_nonneg : 0 ≤ released)
      (all : slash + released = a.config.bondAtomic)
      (moved : Moved host policy blocks block wallet released (-(slash + released)) slash a b)
      (after : ¬b.config.holdsBond)

/-- The outcome of an operation: no bond moves, or one moves after some reading. -/
def ModeOutcome (step : Chain → ChainBlock → Node → Node → Prop)
    (blocks : Chain) (a b : Node) : Prop :=
  Idle host blocks a b ∨ ∃ mid block, Idle host blocks a mid ∧ step blocks block mid b

variable {host policy} {node : Node} {blocks : Chain} {money : MoneyPolicy}
  {moment : Moment} {wallet : WalletRecord}

theorem ModeOutcome.after_idle {step : Chain → ChainBlock → Node → Node → Prop}
    {c : Node} (hab : Idle host blocks a b) (hbc : ModeOutcome host step blocks b c) :
    ModeOutcome host step blocks a c := by
  rcases hbc with hidle | ⟨mid, block, hidle, hstep⟩
  · exact .inl (hab.trans hidle)
  · exact .inr ⟨mid, block, hab.trans hidle, hstep⟩

theorem LockStep.sound
    (h : LockStep host policy blocks block a b) (ha : ModeSound host policy a blocks) :
    ModeSound host policy b (blocks ++ [block]) := by
  obtain ⟨wallet, -, hmoved, hafter, -⟩ := h
  obtain ⟨wallet', hfind', hkey⟩ := find_own_of_keys hmoved.keys hmoved.find
  exact ⟨hmoved.chain, walletSound_of_keys hmoved.keys ha.wallets,
    fun _ => ⟨wallet', hafter.of_key hkey, hfind'⟩⟩

theorem ExitStep.sound
    (h : ExitStep host policy blocks block a b) (ha : ModeSound host policy a blocks) :
    ModeSound host policy b (blocks ++ [block]) := by
  obtain ⟨wallet, slash, released, -, -, -, -, hmoved, hafter⟩ := h
  exact ⟨hmoved.chain, walletSound_of_keys hmoved.keys ha.wallets,
    fun hholds => absurd hholds hafter⟩

/-! ### Recording bond transactions -/

variable (host policy) in
/-- One more block of the given transactions; wallets and configuration are as before. -/
structure Extended (blocks : Chain) (block : ChainBlock) (txs : List ChainTransaction)
    (a b : Node) : Prop where
  transactions : block.transactions = txs
  chain : BondedChain host policy b.chain (blocks ++ [block])
  keys : b.walletKeys = a.walletKeys
  config : b.config = a.config

theorem Extended.sound {txs : List ChainTransaction}
    (h : Extended host policy blocks block txs a b) (ha : ModeSound host policy a blocks) :
    ModeSound host policy b (blocks ++ [block]) := by
  have hchain : ModeSound host policy { a with chain := b.chain } (blocks ++ [block]) :=
    ⟨h.chain, ha.wallets, ha.bond⟩
  have hsame : SameFiles { a with chain := b.chain } b := ⟨rfl, h.keys, h.config⟩
  exact hsame.idle.sound hchain

theorem Extended.trans {txs : List ChainTransaction} {c : Node}
    (h : Extended host policy blocks block txs a b) (hbc : SameFiles b c) :
    Extended host policy blocks block txs a c :=
  ⟨h.transactions, hbc.chain ▸ h.chain, hbc.keys.trans h.keys, hbc.config.trans h.config⟩

/-- The block of bond transactions, after the configuration is written. -/
theorem Extended.moved {txs : List ChainTransaction} {c : Node} {toWallet toPool toSlash : Int}
    (h : Extended host policy blocks block txs a b)
    (hmoves : BondMoves host policy wallet.address toWallet toPool toSlash txs)
    (hfind : a.Owns wallet) (hend : SameFiles { b with config } c) :
    Moved host policy blocks block wallet toWallet toPool toSlash a c :=
  ⟨h.transactions ▸ hmoves, hend.chain ▸ h.chain, hend.keys.trans h.keys, hfind⟩

variable (host policy) in
/-- An action that records transactions: it raises and changes nothing, or it appends one block
of exactly these. -/
def Records (x : NodeAction Unit) (txs : List ChainTransaction) (node : Node)
    (blocks : Chain) : Prop :=
  (∃ e, x node = (.error e, node)) ∨
    ∃ block node', x node = (.ok (), node') ∧ Extended host policy blocks block txs node node'

theorem ModeSound.records (h : ModeSound host policy node blocks) {txs : List ChainTransaction}
    {address : String} {toWallet toPool toSlash : Int}
    (hmoves : BondMoves host policy address toWallet toPool toSlash txs)
    (hne : address ≠ bondPool host policy) (hfresh : FreshIds blocks txs) (moment : Moment)
    (validatorId : Option String) : Records host policy
      (do let _ ← onChain (appendChainBlock host policy moment validatorId txs)) txs node
      blocks := by
  rcases h.chain.record hmoves hne hfresh moment validatorId with
    ⟨e, he⟩ | ⟨block, htxs, happend, hchain⟩
  · have hraised : onChain (appendChainBlock host policy moment validatorId txs) node =
        (.error e, node) := by
      rw [onChain, he]
    exact .inl ⟨e, bind_of_error hraised⟩
  · have hwritten : onChain (appendChainBlock host policy moment validatorId txs) node =
        (.ok (some block), { node with chain := saveChainBlocks (blocks ++ [block]) }) := by
      rw [onChain, happend]
    exact .inr ⟨block, _, bind_of_ok hwritten, htxs, hchain, rfl, rfl⟩

section Recording

variable (moment) (h : ModeSound host policy node blocks)
  (hmoney : money.chainNetwork = policy.chainNetwork) (hwallet : WalletSound host policy wallet)

include h hmoney hwallet

theorem records_recordValidatorBondLock {bond : Int}
    (hfresh : FreshIds blocks (bondLockTransactions host money moment wallet wallet.address bond)) :
    (∃ e, recordValidatorBondLock host policy moment money wallet bond wallet.address node =
        (.error e, node)) ∨
      (0 < bond ∧ Records host policy
        (recordValidatorBondLock host policy moment money wallet bond wallet.address)
        (bondLockTransactions host money moment wallet wallet.address bond) node blocks) := by
  by_cases hbond : bond ≤ 0
  · left
    rw [recordValidatorBondLock, if_pos hbond]
    exact ⟨_, rfl⟩
  by_cases hlow : chainBalanceAtomic host blocks wallet.address < bond
  · left
    rw [recordValidatorBondLock, if_neg hbond]
    dsimp only
    rw [bind_of_ok (h.readBlocks moment), if_pos hlow]
    exact ⟨_, rfl⟩
  · right
    have hpos : 0 < bond := by omega
    have hrecords := h.records (bondLock_moves money moment hmoney hwallet hpos)
      hwallet.ne_bondPool hfresh moment (some wallet.address)
    have hrun : recordValidatorBondLock host policy moment money wallet bond wallet.address node =
        (do let _ ← onChain (appendChainBlock host policy moment (some wallet.address)
          (bondLockTransactions host money moment wallet wallet.address bond)) :
            NodeAction Unit) node := by
      rw [recordValidatorBondLock, if_neg hbond]
      refine (bind_of_ok (h.readBlocks moment)).trans ?_
      rw [if_neg hlow, hwallet.normal]
    refine ⟨hpos, ?_⟩
    rw [Records, hrun]
    exact hrecords

theorem records_recordValidatorBondRelease (hbond : config.BondOf wallet)
    (hfresh : FreshIds blocks (bondReleaseTransactions host money moment wallet
      wallet.address config.bondAtomic note)) :
    Records host policy
      (recordValidatorBondRelease host policy moment money wallet config config.bondAtomic note)
      (bondReleaseTransactions host money moment wallet wallet.address config.bondAtomic note) node
      blocks := by
  have hpos := hbond.positive
  rw [recordValidatorBondRelease, if_neg (by omega), BondOf.validatorId hbond hwallet]
  exact h.records (bondRelease_moves money moment hmoney hwallet hpos note) hwallet.ne_bondPool
    hfresh moment _

theorem records_recordValidatorBondSlash (hbond : config.BondOf wallet)
    {slash released : Int} (hslash : 0 ≤ slash) (hreleased : 0 ≤ released)
    (hpos : 0 < slash + released) {reason : String}
    (hfresh : FreshIds blocks (bondSlashTransactions host money moment wallet wallet.address slash
      released reason)) :
    Records host policy
      (recordValidatorBondSlash host policy moment money wallet config slash released reason)
      (bondSlashTransactions host money moment wallet wallet.address slash released reason) node
      blocks := by
  rw [recordValidatorBondSlash, if_neg (by omega), BondOf.validatorId hbond hwallet]
  exact h.records (bondSlash_moves money moment hmoney hwallet hslash hreleased hpos reason)
    hwallet.ne_bondPool hfresh moment _

end Recording

/-! ### The local files -/

section Files

variable (h : ModeSound host policy node blocks)
include h

/-- A wallet of the node is rewritten. -/
theorem ModeSound.rewriteWallet
    (hfind : node.Owns wallet) {new : WalletRecord} (hkey : new.key = wallet.key) :
    ∃ node', CaiNetwork.updateWallet host new node = (.ok (), node') ∧ SameFiles node node' := by
  have hid : new.walletId = wallet.walletId := congrArg Prod.fst hkey
  have hmem : new.walletId ∈ node.wallets.map WalletRecord.walletId :=
    hid ▸ List.mem_map_of_mem (Table.mem_of_find hfind)
  exact ⟨_, h.updateWallet new hmem, rfl, keys_update (hid ▸ hfind) hkey, rfl⟩

theorem ModeSound.reserveBond (moment : Moment) (hfind : node.Owns wallet)
    {read : WalletRecord} (hkey : read.key = wallet.key) (reserved : Int) :
    ∃ node', CaiNetwork.reserveBond host policy moment read reserved node = (.ok (), node') ∧
      SameFiles node node' := by
  rw [CaiNetwork.reserveBond, bind_of_ok (h.readBlocks moment)]
  exact h.rewriteWallet hfind hkey

theorem ModeSound.releaseReserve (moment : Moment) (hfind : node.Owns wallet)
    (new : WalletRecord) (hkey : new.key = wallet.key) (released : Int) (note : String) :
    ∃ node', CaiNetwork.releaseReserve host moment new released note node = (.ok (), node') ∧
      SameFiles node node' := by
  obtain ⟨node', hupdate, hsame⟩ := h.rewriteWallet hfind hkey
  rw [CaiNetwork.releaseReserve, bind_of_ok hupdate]
  exact ⟨_, rfl, hsame.chain, hsame.keys, hsame.config⟩

/-- The end of an operation changes the configuration, and nothing else that bonds are read
from. -/
theorem ModeSound.saveAndAnnounce (moment : Moment)
    (hbond : config.holdsBond → ∃ wallet, config.BondOf wallet ∧
      node.Owns wallet) (override : Option String) (ha : SameFiles node a) :
    SameFiles { node with config }
      (CaiNetwork.saveAndAnnounce host policy moment config override a).2 := by
  have hsound : ModeSound host policy { node with config } blocks := ⟨h.chain, h.wallets, hbond⟩
  have hsame : SameFiles { node with config } { a with config } := ⟨ha.chain, ha.keys, rfl⟩
  have hsync := leaves_syncLocalValidatorRegistry moment config override _ (hsame.idle.sound hsound)
  have hend : (CaiNetwork.saveAndAnnounce host policy moment config override a).2 =
      (syncLocalValidatorRegistry host policy moment config override { a with config }).2 :=
    bind_pure_state
  rw [hend]
  exact hsame.trans hsync

end Files

/-! ### Turning the mode on -/

theorem isBondLock_bondLockDebit (hwallet : WalletSound host policy wallet) {bond : Int} :
    ∃ tx ∈ bondLockTransactions host money moment wallet wallet.address bond,
      IsBondLock host wallet wallet.address tx := by
  refine ⟨_, List.mem_cons_self, rfl, ?_, ?_, wallet.address, ?_, hwallet.normal⟩
  · show host.normalizeAddress (host.normalizeAddress wallet.address) = _
    rw [hwallet.normal, hwallet.normal]
  · show host.strOrEmpty (.str wallet.walletId) = _
    exact Host.strOrEmpty_str host _
  · show (Json.str wallet.address).pyOr (.str "") = _
    exact Json.pyOr_str hwallet.ne_empty _

/-- **A new bond**: nothing happens, or the bond is locked and configured. -/
theorem ModeSound.lockBond (h : ModeSound host policy node blocks) (moment : Moment)
    (hmoney : money.chainNetwork = policy.chainNetwork) (hfind : node.Owns wallet)
    (hnone : ¬node.config.holdsBond) (config : ValidatorConfig) {bond : Int}
    (hfresh : FreshIds blocks (bondLockTransactions host money moment wallet wallet.address bond)) :
    (CaiNetwork.lockBond host policy moment money config wallet bond node).2 = node ∨
      ∃ block, LockStep host policy blocks block node
        (CaiNetwork.lockBond host policy moment money config wallet bond node).2 := by
  have hwallet := h.mem_of_find hfind
  rcases records_recordValidatorBondLock moment h hmoney hwallet hfresh with
    ⟨e, he⟩ | ⟨hpos, ⟨e, he⟩ | ⟨block, written, hrecord, hextended⟩⟩
  · left
    rw [CaiNetwork.lockBond, bind_of_error he]
  · left
    rw [CaiNetwork.lockBond, bind_of_error he]
  · right
    have hwritten := hextended.sound h
    obtain ⟨wallet', hfind', hkey⟩ := find_own_of_keys hextended.keys hfind
    obtain ⟨reserved, hreserve, hsame⟩ := hwritten.reserveBond moment hfind' hkey.symm bond
    obtain ⟨wallet'', hfind'', hkey'⟩ := find_own_of_keys hsame.keys hfind'
    have hafter : (config.bondedBy host wallet bond).BondOf wallet :=
      ⟨.inl rfl, rfl, congrArg some hwallet.normal, hpos⟩
    have hdone : ∀ final,
        SameFiles { reserved with config := config.bondedBy host wallet bond } final →
          LockStep host policy blocks block node final := by
      intro final hfinal
      have hbond : final.config.bondAtomic = bond :=
        congrArg ValidatorConfig.bondAtomic hfinal.config
      refine .intro wallet hnone ?_ (hfinal.config ▸ hafter) ?_
      · rw [hbond]
        exact (hextended.trans hsame).moved (bondLock_moves money moment hmoney hwallet hpos) hfind
          hfinal
      · rw [hextended.transactions]
        exact isBondLock_bondLockDebit hwallet
    rw [CaiNetwork.lockBond, bind_of_ok hrecord, bind_of_ok hreserve]
    refine ⟨block, hdone _ ?_⟩
    exact (hsame.idle.sound hwritten).saveAndAnnounce moment
      (fun _ => ⟨wallet'', hafter.of_key (hkey'.trans hkey), hfind''⟩)
      (config.bondedBy host wallet bond).address ⟨rfl, rfl, rfl⟩

variable (host policy) in
/-- The bond that the mode asks for. -/
def BondTerms.bond (terms : BondTerms) : Except PyError Int :=
  coinsToAtomic host (terms.money host policy).validatorMinBondCoins
    (terms.money host policy).decimals

theorem bondedModeStatus_required {network : Option String}
    {active : Option WalletRecord} {required : Int} {status : ValidatorModeStatus}
    (hstatus : (bondedModeStatus host policy moment money network config active required node).1 =
      .ok status) : status.requiredBondAtomic = required := by
  unfold bondedModeStatus at hstatus
  obtain ⟨found, t, -, hstatus⟩ := bind_returns hstatus
  cases found with
  | none =>
    cases hstatus
    rfl
  | some wallet =>
    obtain ⟨backed, t, -, hstatus⟩ := bind_returns hstatus
    repeat' split at hstatus
    all_goals
      cases hstatus
      rfl

theorem unbondedModeStatus_required {network : Option String}
    {active : Option WalletRecord} {unlocked : Option String} {spendable required : Int} :
    (unbondedModeStatus money network config active unlocked spendable
      required).requiredBondAtomic = required := by
  unfold unbondedModeStatus
  repeat' split
  all_goals rfl

theorem getValidatorModeStatus_required {calendar : Calendar} {unreachable : Option String}
    {status : ValidatorModeStatus}
    (hstatus : (getValidatorModeStatus host policy calendar moment money unreachable node).1 =
      .ok status) :
    coinsToAtomic host money.validatorMinBondCoins money.decimals =
      .ok status.requiredBondAtomic := by
  unfold getValidatorModeStatus at hstatus
  generalize coinsToAtomic host money.validatorMinBondCoins money.decimals = bond at hstatus ⊢
  obtain ⟨config, t, -, hstatus⟩ := bind_returns hstatus
  obtain ⟨-, t, -, hstatus⟩ := bind_returns hstatus
  obtain ⟨required, t, hrequired, hstatus⟩ := bind_returns hstatus
  obtain ⟨active, t, -, hstatus⟩ := bind_returns hstatus
  obtain ⟨spendable, t, -, hstatus⟩ := bind_returns hstatus
  obtain ⟨config', t, -, hstatus⟩ := bind_returns hstatus
  have hbond : bond = .ok required := congrArg Prod.fst hrequired
  have hsame : status.requiredBondAtomic = required := by
    cases hstate : config.state <;> rw [hstate] at hstatus
    case bonded => exact bondedModeStatus_required hstatus
    all_goals
      cases hstatus
      first
        | rfl
        | exact unbondedModeStatus_required
  rw [hbond, hsame]

theorem ModeSound.getActiveWallet (h : ModeSound host policy node blocks) :
    ∃ found, CaiNetwork.getActiveWallet host node = (.ok found, node) ∧
      ∀ wallet, found = some wallet → node.Owns wallet := by
  rw [CaiNetwork.getActiveWallet, bind_of_ok get_apply]
  cases node.activeWalletId with
  | none => exact ⟨none, rfl, fun wallet hnone => by cases hnone⟩
  | some walletId =>
    refine ⟨_, h.findWalletById walletId, ?_⟩
    intro wallet hfind
    rw [Node.Owns, Table.key_of_find hfind]
    exact hfind

/-- Bond transactions name a wallet by its id and its address. -/
theorem bondLockTransactions_of_key (hkey : w'.key = w.key) (bond : Int) :
    bondLockTransactions host money moment w' w'.address bond =
      bondLockTransactions host money moment w w.address bond := by
  obtain ⟨hid, haddress⟩ := Prod.mk.inj hkey
  simp only [bondLockTransactions, bondLockDebit, bondPoolCredit, hid, haddress]

theorem bondReleaseTransactions_of_key (hkey : w'.key = w.key) (released : Int) (note : String) :
    bondReleaseTransactions host money moment w' w'.address released note =
      bondReleaseTransactions host money moment w w.address released note := by
  obtain ⟨hid, haddress⟩ := Prod.mk.inj hkey
  simp only [bondReleaseTransactions, bondPoolDebit, bondReleaseCredit, hid, haddress]

theorem bondSlashTransactions_of_key (hkey : w'.key = w.key)
    {slash released : Int} {reason : String} :
    bondSlashTransactions host money moment w' w'.address slash released reason =
      bondSlashTransactions host money moment w w.address slash released reason := by
  obtain ⟨hid, haddress⟩ := Prod.mk.inj hkey
  simp only [bondSlashTransactions, bondPoolDebit, bondReleaseCredit, bondSlashCredit, hid,
    haddress]

/-- A wallet of a node is one of the earlier node, with other balances. -/
theorem exists_wallet_of_keys (h : b.walletKeys = a.walletKeys) (hmem : wallet ∈ b.wallets) :
    ∃ w ∈ a.wallets, wallet.key = w.key := by
  have hkey : wallet.key ∈ a.walletKeys := h ▸ List.mem_map_of_mem hmem
  obtain ⟨w, hw, heq⟩ := List.mem_map.mp hkey
  exact ⟨w, hw, heq.symm⟩

/-- A bond that is still held is the bond of before. -/
theorem Idle.bondAtomic (h : Idle host blocks a b) (hholds : b.config.holdsBond) :
    b.config.bondAtomic = a.config.bondAtomic := by
  rcases h.config with hsame | ⟨hnone, -⟩
  · exact (hsame.terms (hsame.holds.mp hholds)).2.2
  · exact absurd hholds hnone

section Leaving

variable (h : ModeSound host policy node blocks)
include h

/-- **`set_validator_mode(True)`.** -/
theorem ModeSound.enableValidatorMode (calendar : Calendar)
    (moment : Moment) (terms : BondTerms) (unreachable : Option String)
    (hfresh : ∀ wallet ∈ node.wallets, ∀ bond, terms.bond host policy = .ok bond →
      FreshIds blocks (bondLockTransactions host (terms.money host policy) moment wallet
        wallet.address bond)) :
    ModeOutcome host (LockStep host policy) blocks node
      (CaiNetwork.enableValidatorMode host policy calendar moment (terms.money host policy)
        unreachable node).2 := by
  obtain ⟨loaded, hload, hidle⟩ := h.load moment
  have hloaded := hidle.sound h
  have hrests := rests_getValidatorModeStatus calendar moment terms unreachable loaded hloaded
  rw [CaiNetwork.enableValidatorMode, bind_of_ok hload]
  refine .after_idle hidle ?_
  rcases hstatus : getValidatorModeStatus host policy calendar moment (terms.money host policy)
    unreachable loaded with ⟨e | status, asked⟩
  · rw [hstatus] at hrests
    rw [bind_of_error hstatus]
    exact .inl hrests
  rw [hstatus] at hrests
  rw [bind_of_ok hstatus]
  refine .after_idle hrests ?_
  have hasked := hrests.sound hloaded
  by_cases hcan : status.canEnable = false
  · rw [if_pos hcan]
    exact .inl (.refl asked)
  obtain ⟨found, hfound, hactive⟩ := hasked.getActiveWallet
  rw [if_neg hcan]
  dsimp only
  rw [bind_of_ok hfound]
  cases found with
  | none => exact .inl (.refl asked)
  | some wallet =>
    dsimp only
    split
    · exact .inl (.refl asked)
    split
    · exact .inl (.refl asked)
    split
    · exact .inl (.refl asked)
    next hsame hunbonding hbonded =>
      have hnone : ¬loaded.config.holdsBond := by
        rintro (hs | hs)
        · exact hbonded hs
        · exact hunbonding hs
      have hnone' : ¬asked.config.holdsBond := by
        rcases hrests.config with hsb | ⟨hno, -⟩
        · exact fun hh => hnone (hsb.holds.mp hh)
        · exact hno
      have hfind := hactive wallet rfl
      obtain ⟨w, hw, hkey⟩ := exists_wallet_of_keys (hidle.trans hrests).keys
        (Table.mem_of_find hfind)
      have hbond : terms.bond host policy = .ok status.requiredBondAtomic := by
        apply getValidatorModeStatus_required
        rw [hstatus]
      have hids := hfresh w hw _ hbond
      rw [← bondLockTransactions_of_key hkey] at hids
      have hmoney : (terms.money host policy).chainNetwork = policy.chainNetwork := rfl
      rcases hasked.lockBond moment hmoney hfind hnone' loaded.config hids with hno | ⟨block, hstep⟩
      · rw [hno]
        exact .inl (.refl asked)
      · exact .inr ⟨asked, block, .refl asked, hstep⟩

/-! ### Leaving the mode -/

/-- An operation that ends with a configuration of the same bond. -/
theorem ModeSound.saved_same (moment : Moment)
    (hsame : SameBond node.config config) (override : Option String) (ha : SameFiles node a) :
    Idle host blocks node (CaiNetwork.saveAndAnnounce host policy moment config override a).2 := by
  have hidle : Idle host blocks node { node with config } := ⟨rfl, rfl, .inl hsame⟩
  have hend := h.saveAndAnnounce moment (hidle.sound h).bond override ha
  exact hidle.trans hend.idle

theorem startValidatorUnbonding_same (calendar : Calendar) (moment : Moment)
    (config : ValidatorConfig) (hconfig : config.state = .bonded) :
    ∃ config' node', startValidatorUnbonding host calendar moment money config node =
        (.ok config', node') ∧ SameFiles node node' ∧ SameBond config config' := by
  have hsame : ∀ a, SameFiles node a → SameFiles node a ∧ SameBond config
      { config with
        enabled := false
        state := .unbonding
        unbondingStartedAt := some moment.now.text
        unbondingAvailableAt :=
          some (calendar.plusSeconds moment.now (max 0 money.validatorUnbondingSeconds))
        workerEnabled := false } := by
    intro a ha
    exact ⟨ha, ⟨fun _ => .inl hconfig, fun _ => .inr rfl⟩, fun _ => ⟨rfl, rfl, rfl⟩⟩
  rw [startValidatorUnbonding]
  cases nonempty? config.walletId with
  | none => exact ⟨_, node, rfl, hsame node (.refl node)⟩
  | some walletId =>
    dsimp only
    split
    · rw [bind_of_ok (h.findWalletById walletId)]
      cases Table.find WalletRecord.walletId walletId node.wallets with
      | none => exact ⟨_, node, rfl, hsame node (.refl node)⟩
      | some wallet => exact ⟨_, _, rfl, hsame _ ⟨rfl, rfl, rfl⟩⟩
    · exact ⟨_, node, rfl, hsame node (.refl node)⟩

/-- **`set_validator_mode(False)`** starts the unbonding; the bond stays. -/
theorem ModeSound.disableValidatorMode
    (calendar : Calendar) (moment : Moment) (money : MoneyPolicy) : Idle host blocks node
      (CaiNetwork.disableValidatorMode host policy calendar moment money node).2 := by
  obtain ⟨loaded, hload, hidle⟩ := h.load moment
  have hloaded := hidle.sound h
  rw [CaiNetwork.disableValidatorMode, bind_of_ok hload]
  refine hidle.trans ?_
  by_cases hbonded : loaded.config.state = .bonded
  · obtain ⟨config', node', hstart, hfiles, hsame⟩ :=
      startValidatorUnbonding_same hloaded calendar moment loaded.config hbonded
    rw [if_pos hbonded, bind_of_ok hstart]
    exact hloaded.saved_same moment hsame loaded.config.address hfiles
  · rw [if_neg hbonded]
    refine hloaded.saved_same moment ?_ loaded.config.address (.refl loaded)
    exact ⟨Iff.rfl, fun _ => ⟨rfl, rfl, rfl⟩⟩

/-- A release raises and changes nothing, or it drops a bond that the chain does not hold, or it
writes the block that releases the bond. -/
theorem ModeSound.releaseValidatorBond (moment : Moment) (hbond : config.BondOf wallet)
    (hfind : node.Owns wallet) (hfresh : FreshIds blocks (bondReleaseTransactions host
      (moneyPolicyForWalletPolicy host policy) moment wallet wallet.address config.bondAtomic
      note)) :
    (∃ e, CaiNetwork.releaseValidatorBond host policy moment config note node = (.error e, node)) ∨
      ∃ config' node', CaiNetwork.releaseValidatorBond host policy moment config note node =
          (.ok config', node') ∧ ¬config'.holdsBond ∧
        ((SameFiles node node' ∧ ¬BondHeld host blocks wallet config.bondAtomic) ∨
          ∃ block, Extended host policy blocks block (bondReleaseTransactions host
            (moneyPolicyForWalletPolicy host policy) moment wallet wallet.address
            config.bondAtomic note) node node') := by
  have hwallet := h.mem_of_find hfind
  obtain ⟨b, hb, hheld, -⟩ := h.validatorBondIsChainBacked moment
    (moneyPolicyForWalletPolicy host policy) rfl hwallet hbond
  rw [CaiNetwork.releaseValidatorBond, BondOf.nonempty_walletId hbond hwallet]
  dsimp only
  rw [if_pos hbond.positive, bind_of_ok (h.findWalletById _), hfind]
  dsimp only
  rw [bind_of_ok hb]
  cases b with
  | false =>
    obtain ⟨node', hrelease, hsame⟩ := h.releaseReserve moment hfind
      { wallet with
        validatorReservedAtomic := max 0 (wallet.validatorReservedAtomic - config.bondAtomic) }
      rfl 0 "Invalid local validator bond metadata cleared; no on-chain coins were released."
    rw [if_neg Bool.false_ne_true, bind_of_ok hrelease]
    refine .inr ⟨_, node', rfl, ?_, .inl ⟨hsame, fun hh => by cases hheld hh⟩⟩
    rintro (hs | hs) <;> cases hs
  | true =>
    rw [if_pos rfl]
    rcases records_recordValidatorBondRelease moment h rfl hwallet hbond hfresh with
      ⟨e, he⟩ | ⟨block, written, hrecord, hextended⟩
    · rw [bind_of_error he]
      exact .inl ⟨e, rfl⟩
    · have hwritten := hextended.sound h
      obtain ⟨wallet', hfind', hkey⟩ := find_own_of_keys hextended.keys hfind
      obtain ⟨node', hrelease, hsame⟩ := hwritten.releaseReserve moment hfind'
        { wallet with
          spendableBalanceAtomic := chainBalanceAtomic host (blocks ++ [block]) wallet.address
          validatorReservedAtomic := max 0 (wallet.validatorReservedAtomic - config.bondAtomic) }
        hkey.symm config.bondAtomic note
      rw [bind_of_ok hrecord, bind_of_ok (hwritten.readBlocks moment),
        bind_of_ok hrelease]
      refine .inr ⟨_, node', rfl, ?_, .inr ⟨block, hextended.trans hsame⟩⟩
      rintro (hs | hs) <;> cases hs

/-- The end of the unbonding. -/
theorem ModeSound.released (moment : Moment) (hbond : node.config.BondOf wallet)
    (hfind : node.Owns wallet) (hfresh : FreshIds blocks (bondReleaseTransactions host
      (moneyPolicyForWalletPolicy host policy) moment wallet wallet.address
      node.config.bondAtomic note)) :
    ModeOutcome host (ExitStep host policy) blocks node ((do
      let config ← CaiNetwork.releaseValidatorBond host policy moment node.config note
      CaiNetwork.saveAndAnnounce host policy moment config node.config.address :
        NodeAction ValidatorConfig) node).2 := by
  rcases h.releaseValidatorBond moment hbond hfind hfresh with
    ⟨e, he⟩ | ⟨config', node', hrelease, hnone, ⟨hsame, hheld⟩ | ⟨block, hextended⟩⟩
  · rw [bind_of_error he]
    exact .inl (.refl node)
  · -- the bond was not on the chain, and is dropped
    have hend := (hsame.idle.sound h).saveAndAnnounce moment (fun hh => absurd hh hnone)
      node.config.address (.refl node')
    rw [bind_of_ok hrelease]
    refine .inl ⟨hend.chain.trans hsame.chain, hend.keys.trans hsame.keys, .inr ⟨?_, ?_⟩⟩
    · rw [hend.config]
      exact hnone
    · exact ⟨wallet, hbond, hheld⟩
  · have hend := (hextended.sound h).saveAndAnnounce moment (fun hh => absurd hh hnone)
      node.config.address (.refl node')
    rw [bind_of_ok hrelease]
    refine .inr ⟨node, block, .refl node, .intro wallet 0 node.config.bondAtomic hbond le_rfl
      hbond.positive.le (zero_add _) ?_ ?_⟩
    · rw [zero_add]
      exact hextended.moved
        (bondRelease_moves _ moment rfl (h.mem_of_find hfind) hbond.positive _) hfind hend
    · rw [hend.config]
      exact hnone

/-- **`complete_validator_unbond`** releases the bond. -/
theorem ModeSound.completeValidatorUnbond (calendar : Calendar) (moment : Moment)
    (hfresh : ∀ wallet ∈ node.wallets, FreshIds blocks (bondReleaseTransactions host
      (moneyPolicyForWalletPolicy host policy) moment wallet wallet.address node.config.bondAtomic
      "Validator unbonding completed and self-bond released.")) :
    ModeOutcome host (ExitStep host policy) blocks node
      (CaiNetwork.completeValidatorUnbond host policy calendar moment node).2 := by
  obtain ⟨loaded, hload, hidle⟩ := h.load moment
  have hloaded := hidle.sound h
  rw [CaiNetwork.completeValidatorUnbond, bind_of_ok hload]
  refine .after_idle hidle ?_
  by_cases hstate : loaded.config.state ≠ .unbonding
  · rw [if_pos hstate]
    exact .inl (.refl loaded)
  rw [if_neg hstate]
  have hholds : loaded.config.holdsBond := .inr (not_not.mp hstate)
  obtain ⟨wallet, hbond, hfind⟩ := hloaded.bond hholds
  obtain ⟨w, hw, hkey⟩ := exists_wallet_of_keys hidle.keys (Table.mem_of_find hfind)
  have hids := hfresh w hw
  rw [← bondReleaseTransactions_of_key hkey, ← hidle.bondAtomic hholds] at hids
  have hreleased := hloaded.released moment hbond hfind hids
  cases hdeadline : calendar.deadline moment.now loaded.config.unbondingAvailableAt with
  | ahead time seconds => exact .inl (.refl loaded)
  | absent => exact hreleased
  | reached => exact hreleased

end Leaving

/-! ### Jail -/

theorem slashedAtomic_bounds {locked : Int} (hlocked : 0 < locked) (slashBps : Int) :
    0 ≤ slashedAtomic locked slashBps ∧ slashedAtomic locked slashBps ≤ locked := by
  rw [slashedAtomic, if_pos hlocked]
  exact ⟨le_min hlocked.le (le_trans zero_le_one (le_max_left _ _)), min_le_left _ _⟩

theorem loadOrCreateLedger_same (money : MoneyPolicy) (node : Node) :
    ∃ ledger node', loadOrCreateLedger money node = (.ok ledger, node') ∧ SameFiles node node' := by
  unfold loadOrCreateLedger
  rw [bind_of_ok get_apply]
  cases node.ledger with
  | some ledger => exact ⟨ledger, node, rfl, .refl node⟩
  | none => exact ⟨_, _, rfl, rfl, rfl, rfl⟩

/-- The slash raises and changes nothing, or it writes the block that takes the bond out of the
pool. -/
theorem ModeSound.slashBond (h : ModeSound host policy node blocks) (calendar : Calendar)
    (moment : Moment) (hmoney : money.chainNetwork = policy.chainNetwork)
    (hbond : node.config.BondOf wallet) (hfind : node.Owns wallet)
    {slash : Int} (hslash : 0 ≤ slash) (hle : slash ≤ node.config.bondAtomic) {reason : String}
    (hfresh : FreshIds blocks (bondSlashTransactions host money moment wallet wallet.address slash
      (node.config.bondAtomic - slash) reason)) :
    ModeOutcome host (ExitStep host policy) blocks node
      (CaiNetwork.slashBond host policy calendar moment money reason node.config wallet
        node.config.bondAtomic slash node).2 := by
  have hwallet := h.mem_of_find hfind
  have hpos := hbond.positive
  have hreleased : max 0 (node.config.bondAtomic - slash) = node.config.bondAtomic - slash :=
    max_eq_right (by omega)
  rw [CaiNetwork.slashBond, hreleased]
  rcases records_recordValidatorBondSlash moment h hmoney hwallet hbond hslash (by omega) (by omega)
    hfresh with ⟨e, he⟩ | ⟨block, written, hrecord, hextended⟩
  · rw [bind_of_error he]
    exact .inl (.refl node)
  have hwritten := hextended.sound h
  obtain ⟨wallet', hfind', hkey⟩ := find_own_of_keys hextended.keys hfind
  obtain ⟨reserved, hreserve, hsame⟩ := hwritten.reserveBond moment hfind' hkey.symm
    (max 0 (wallet.validatorReservedAtomic - node.config.bondAtomic))
  obtain ⟨ledger, opened, hledger, hopened⟩ := loadOrCreateLedger_same money reserved
  have hfiles := hsame.trans hopened
  rw [bind_of_ok hrecord, bind_of_ok hreserve, bind_of_ok hledger]
  have hdone : ∀ final, SameFiles
        { opened with
          config := node.config.jailedAfter calendar moment money reason slash } final →
      ModeOutcome host (ExitStep host policy) blocks node final := by
    intro final hfinal
    refine .inr ⟨node, block, .refl node, .intro wallet slash (node.config.bondAtomic - slash)
      hbond hslash (by omega) (by omega) ?_ ?_⟩
    · exact (hextended.trans hfiles).moved
        (bondSlash_moves money moment hmoney hwallet hslash (by omega) (by omega) reason) hfind
          hfinal
    · rw [hfinal.config]
      rintro (hs | hs) <;> cases hs
  apply hdone
  refine (hfiles.idle.sound hwritten).saveAndAnnounce moment ?_ none ⟨rfl, rfl, rfl⟩
  rintro (hs | hs) <;> cases hs

/-- **`jail_validator`** takes the bond out of the pool. -/
theorem ModeSound.jailValidator (h : ModeSound host policy node blocks) (calendar : Calendar)
    (moment : Moment) (terms : BondTerms) (reason : String) (slashBps : Option Int)
    (hfresh : ∀ wallet ∈ node.wallets, FreshIds blocks (bondSlashTransactions host
      (terms.money host policy) moment wallet wallet.address
      (slashedAtomic node.config.bondAtomic (slashBps.getD terms.jailSlashBps))
      (node.config.bondAtomic - slashedAtomic node.config.bondAtomic
        (slashBps.getD terms.jailSlashBps)) reason)) :
    ModeOutcome host (ExitStep host policy) blocks node
      (CaiNetwork.jailValidator host policy calendar moment (terms.money host policy) reason
        slashBps node).2 := by
  obtain ⟨loaded, hload, hidle⟩ := h.load moment
  have hloaded := hidle.sound h
  unfold CaiNetwork.jailValidator
  rw [bind_of_ok hload]
  refine .after_idle hidle ?_
  by_cases hjailed : loaded.config.state = .jailed
  · rw [if_pos hjailed]
    exact .inl (.refl loaded)
  by_cases hbonded : loaded.config.state = .bonded
  · obtain ⟨wallet, hbond, hfind⟩ := hloaded.bond (.inl hbonded)
    have hwallet := hloaded.mem_of_find hfind
    have hmoney : (terms.money host policy).chainNetwork = policy.chainNetwork := rfl
    obtain ⟨b, hb, -, hlocked⟩ := hloaded.validatorBondIsChainBacked moment
      (terms.money host policy) hmoney hwallet hbond
    rw [if_neg hjailed, hbonded, BondOf.nonempty_walletId hbond hwallet]
    dsimp only
    rw [bind_of_ok (hloaded.findWalletById _), hfind]
    dsimp only
    rw [bind_of_ok hb]
    cases b with
    | false => exact .inl (.refl loaded)
    | true =>
      have hall : min (max 0 (Tally.get (loaded.config.validatorId host wallet)
            (validatorLockedBonds host blocks))) (max 0 loaded.config.bondAtomic) =
          loaded.config.bondAtomic := by
        have hle := hlocked rfl
        have hpos := hbond.positive
        rw [hloaded.chain.get_validatorLockedBonds, BondOf.validatorId hbond hwallet]
        omega
      have hbounds := slashedAtomic_bounds hbond.positive (slashBps.getD terms.jailSlashBps)
      obtain ⟨w, hw, hkey⟩ := exists_wallet_of_keys hidle.keys (Table.mem_of_find hfind)
      have hids := hfresh w hw
      rw [← bondSlashTransactions_of_key hkey, ← hidle.bondAtomic hbond.holds] at hids
      rw [if_pos rfl, bind_of_ok (hloaded.readBlocks moment), hall]
      exact hloaded.slashBond calendar moment hmoney hbond hfind hbounds.1 hbounds.2 hids
  · rw [if_neg hjailed]
    cases hstate : loaded.config.state
    case bonded => exact absurd hstate hbonded
    case jailed => exact absurd hstate hjailed
    all_goals exact .inl (.refl loaded)

/-- **`clear_validator_jail`** moves no bond. -/
theorem ModeSound.clearValidatorJail (h : ModeSound host policy node blocks) (calendar : Calendar)
    (moment : Moment) :
    Idle host blocks node (CaiNetwork.clearValidatorJail host policy calendar moment node).2 := by
  obtain ⟨loaded, hload, hidle⟩ := h.load moment
  have hloaded := hidle.sound h
  rw [CaiNetwork.clearValidatorJail, bind_of_ok hload]
  refine hidle.trans ?_
  by_cases hstate : loaded.config.state ≠ .jailed
  · rw [if_pos hstate]
    exact .refl loaded
  rw [if_neg hstate]
  have hnone : ¬loaded.config.holdsBond := by
    rintro (hs | hs) <;> rw [not_not.mp hstate] at hs <;> cases hs
  have hcleared : ∀ config : ValidatorConfig, ¬config.holdsBond →
      Idle host blocks loaded (CaiNetwork.saveAndAnnounce host policy moment config
        loaded.config.address loaded).2 := by
    intro config hconfig
    refine hloaded.saved_same moment ?_ _ (.refl loaded)
    exact ⟨⟨fun hh => absurd hh hconfig, fun hh => absurd hh hnone⟩, fun hh => absurd hh hnone⟩
  cases hdeadline : calendar.deadline moment.now loaded.config.unjailAvailableAt with
  | ahead time seconds => exact .refl loaded
  | absent => exact hcleared _ (by rintro (hs | hs) <;> cases hs)
  | reached => exact hcleared _ (by rintro (hs | hs) <;> cases hs)

end CaiNetwork
