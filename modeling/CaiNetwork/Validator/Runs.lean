/-
CaiNetwork/Validator/Runs.lean

Runs of the validator mode on one node.

The mode is turned on and off, the unbonding is completed, the validator is jailed and cleared,
the configuration is read again, in any order.  `BondsMatch` is the invariant: the locked bond of
every wallet of the node is the one that the configuration holds of it.  With it come the coins:
what leaves a wallet or a pool arrives in another of them.
-/

import Mathlib.Algebra.BigOperators.Group.Finset.Piecewise
import CaiNetwork.Validator.Outcomes

namespace CaiNetwork

open List

variable (host : Host) (policy : WalletPolicy)

/-! ### Operations -/

/-- An operation on the validator mode, with everything it reads besides the node. -/
inductive ModeOp
  | enable (calendar : Calendar) (moment : Moment) (terms : BondTerms)
      (unreachable : Option String)
  | disable (calendar : Calendar) (moment : Moment) (terms : BondTerms)
  | completeUnbond (calendar : Calendar) (moment : Moment)
  | jail (calendar : Calendar) (moment : Moment) (terms : BondTerms) (reason : String)
      (slashBps : Option Int)
  | clearJail (calendar : Calendar) (moment : Moment)
  | reload (moment : Moment)
  | session (activeWalletId unlockedWalletId : Option String)

variable {op : ModeOp} {config : ValidatorConfig} {w : WalletRecord}

/-- The node after an operation, whether it returns or raises. -/
def ModeOp.after : ModeOp → Node → Node
  | .enable calendar moment terms unreachable, node =>
    (enableValidatorMode host policy calendar moment (terms.money host policy) unreachable node).2
  | .disable calendar moment terms, node =>
    (disableValidatorMode host policy calendar moment (terms.money host policy) node).2
  | .completeUnbond calendar moment, node =>
    (completeValidatorUnbond host policy calendar moment node).2
  | .jail calendar moment terms reason slashBps, node =>
    (jailValidator host policy calendar moment (terms.money host policy) reason slashBps node).2
  | .clearJail calendar moment, node => (clearValidatorJail host policy calendar moment node).2
  | .reload moment, node => (loadOrCreateNodeConfig host policy moment node).2
  | .session activeWalletId unlockedWalletId, node => { node with activeWalletId, unlockedWalletId }

/-- The transactions that an operation writes if it moves a bond of the wallet. -/
def ModeOp.writes (node : Node) (wallet : WalletRecord) : ModeOp → List ChainTransaction
  | .enable _ moment terms _ =>
    match terms.bond host policy with
    | .ok bond =>
      bondLockTransactions host (terms.money host policy) moment wallet wallet.address bond
    | .error _ => []
  | .completeUnbond _ moment =>
    bondReleaseTransactions host (moneyPolicyForWalletPolicy host policy) moment wallet
      wallet.address node.config.bondAtomic "Validator unbonding completed and self-bond released."
  | .jail _ moment terms reason slashBps =>
    let slash := slashedAtomic node.config.bondAtomic (slashBps.getD terms.jailSlashBps)
    bondSlashTransactions host (terms.money host policy) moment wallet wallet.address slash
      (node.config.bondAtomic - slash) reason
  | _ => []

/-- The ids of these transactions, hashes with a random token, are not on the chain yet. -/
def ModeOp.Fresh (op : ModeOp) (node : Node) : Prop :=
  ∀ blocks, BondedChain host policy node.chain blocks →
    ∀ wallet ∈ node.wallets, FreshIds blocks (op.writes host policy node wallet)

variable {host policy} {node : Node} {blocks : Chain}

/-- The operations that may take a bond out of the pool. -/
def ModeOp.endsBond : ModeOp → Bool
  | .completeUnbond _ _ => true
  | .jail _ _ _ _ _ => true
  | _ => false

/-- **What an operation does**: nothing to the bonds, or a lock, or an exit. -/
theorem ModeSound.after (h : ModeSound host policy node blocks)
    (hfresh : op.Fresh host policy node) : (op.endsBond = false ∧
        ModeOutcome host (LockStep host policy) blocks node (op.after host policy node)) ∨
      (op.endsBond = true ∧
        ModeOutcome host (ExitStep host policy) blocks node (op.after host policy node)) := by
  have hids := hfresh blocks h.chain
  cases op with
  | enable calendar moment terms unreachable =>
    refine .inl ⟨rfl, h.enableValidatorMode calendar moment terms unreachable ?_⟩
    intro wallet hwallet bond hbond
    have hlock := hids wallet hwallet
    rw [ModeOp.writes, hbond] at hlock
    exact hlock
  | disable calendar moment terms =>
    exact .inl ⟨rfl, .inl (h.disableValidatorMode calendar moment _)⟩
  | completeUnbond calendar moment =>
    exact .inr ⟨rfl, h.completeValidatorUnbond calendar moment hids⟩
  | jail calendar moment terms reason slashBps =>
    exact .inr ⟨rfl, h.jailValidator calendar moment terms reason slashBps hids⟩
  | clearJail calendar moment =>
    exact .inl ⟨rfl, .inl (h.clearValidatorJail calendar moment)⟩
  | reload moment => exact .inl ⟨rfl, .inl (rests_load node h)⟩
  | session activeWalletId unlockedWalletId =>
    exact .inl ⟨rfl, .inl ⟨rfl, rfl, .inl (.refl _)⟩⟩

/-! ### The bonds of the node's wallets -/

/-- What a configuration holds of the wallet at an address. -/
def ValidatorConfig.bondAt (config : ValidatorConfig) (address : String) : Int :=
  if config.holdsBond ∧ config.address = some address then config.bondAtomic else 0

variable (host policy) in
/-- The chain has locked what the configuration holds, and nothing else of the node's wallets. -/
structure BondsMatch (node : Node) (blocks : Chain) : Prop
    extends ModeSound host policy node blocks where
  locked : ∀ wallet ∈ node.wallets,
    lockedOf host wallet.address (allTransactions blocks) = node.config.bondAt wallet.address
  lock : ∀ wallet, node.config.BondOf wallet →
    ∃ tx ∈ allTransactions blocks, IsBondLock host wallet wallet.address tx

theorem ValidatorConfig.BondOf.bondAt {wallet : WalletRecord}
    (h : config.BondOf wallet) (address : String) :
    config.bondAt address = if wallet.address = address then config.bondAtomic else 0 := by
  simp only [ValidatorConfig.bondAt, h.address, h.holds, true_and, Option.some.injEq]

theorem ValidatorConfig.bondAt_of_not_holdsBond
    (h : ¬config.holdsBond) {address : String} : config.bondAt address = 0 :=
  if_neg fun hh => h hh.1

theorem SameBond.bondAt {a b : ValidatorConfig} (h : SameBond a b) (address : String) :
    b.bondAt address = a.bondAt address := by
  by_cases ha : a.holdsBond
  · obtain ⟨-, haddress, hbond⟩ := h.terms ha
    simp only [ValidatorConfig.bondAt, h.holds, haddress, hbond]
  · rw [a.bondAt_of_not_holdsBond ha, b.bondAt_of_not_holdsBond fun hb => ha (h.holds.mp hb)]

/-- A bond that matches is on the chain. -/
theorem BondsMatch.held (h : BondsMatch host policy node blocks) {wallet : WalletRecord}
    (hbond : node.config.BondOf wallet) (hfind : node.Owns wallet) :
    BondHeld host blocks wallet node.config.bondAtomic := by
  refine ⟨h.lock wallet hbond, le_of_eq ?_⟩
  rw [h.locked wallet (Table.mem_of_find hfind), hbond.bondAt, if_pos rfl]

/-- The bond of a configuration belongs to one id and one address. -/
theorem ValidatorConfig.BondOf.key_eq {w' : WalletRecord}
    (h : config.BondOf w) (h' : config.BondOf w') : w'.key = w.key := by
  have hid := Option.some.inj (h'.walletId.symm.trans h.walletId)
  have haddress := Option.some.inj (h'.address.symm.trans h.address)
  exact Prod.ext hid haddress

theorem IsBondLock.of_key {w' : WalletRecord} {tx : ChainTransaction}
    (h : IsBondLock host w w.address tx) (hkey : w'.key = w.key) :
    IsBondLock host w' w'.address tx := by
  obtain ⟨hid, haddress⟩ := Prod.mk.inj hkey
  rw [haddress]
  exact ⟨h.txType, haddress ▸ h.address, hid ▸ h.walletId, h.validatorId⟩

/-- While the bonds match, no bond is dropped. -/
theorem BondsMatch.same_of_idle (h : BondsMatch host policy node blocks) {b : Node}
    (hidle : Idle host blocks node b) : SameBond node.config b.config := by
  rcases hidle.config with hsame | ⟨-, wallet, hbond, hheld⟩
  · exact hsame
  · obtain ⟨wallet', hbond', hfind⟩ := h.bond hbond.holds
    have haddress : wallet.address = wallet'.address := congrArg Prod.snd (hbond'.key_eq hbond)
    have hle := (h.held hbond' hfind).2
    rw [← haddress] at hle
    exact absurd ⟨h.lock wallet hbond, hle⟩ hheld

theorem BondsMatch.idle (h : BondsMatch host policy node blocks) {b : Node}
    (hidle : Idle host blocks node b) : BondsMatch host policy b blocks := by
  have hsame := h.same_of_idle hidle
  refine { hidle.sound h.toModeSound with locked := ?_, lock := ?_ }
  · intro wallet hwallet
    obtain ⟨w, hw, hkey⟩ := exists_wallet_of_keys hidle.keys hwallet
    have haddress : wallet.address = w.address := congrArg Prod.snd hkey
    rw [hsame.bondAt, haddress]
    exact h.locked w hw
  · exact fun wallet hbond => h.lock wallet (hsame.bondOf hbond)

section Steps

variable {block : ChainBlock} {b : Node} {wallet : WalletRecord} {toWallet toPool toSlash : Int}

/-- The locked bond of a wallet follows the pool. -/
theorem Moved.lockedOf (h : Moved host policy blocks block wallet toWallet toPool toSlash node b)
    (address : String) : lockedOf host address (allTransactions (blocks ++ [block])) =
      lockedOf host address (allTransactions blocks) +
        if wallet.address = address then toPool else 0 := by
  rw [allTransactions_concat, lockedOf_append, h.moves.locked]

theorem BondsMatch.locked_step (h : BondsMatch host policy node blocks)
    (hstep : LockStep host policy blocks block node b) :
    BondsMatch host policy b (blocks ++ [block]) := by
  have hsound := hstep.sound h.toModeSound
  obtain ⟨wallet, hbefore, hmoved, hafter, tx, htx, hlock⟩ := hstep
  refine { hsound with locked := ?_, lock := ?_ }
  · intro w hw
    obtain ⟨w', hw', hkey⟩ := exists_wallet_of_keys hmoved.keys hw
    have haddress : w.address = w'.address := congrArg Prod.snd hkey
    have hold := h.locked w' hw'
    rw [node.config.bondAt_of_not_holdsBond hbefore] at hold
    rw [hmoved.lockedOf, hafter.bondAt, haddress, hold, zero_add]
  · intro w hbond
    refine ⟨tx, ?_, hlock.of_key (hafter.key_eq hbond)⟩
    rw [allTransactions_concat]
    exact mem_append_right _ htx

theorem BondsMatch.exited_step (h : BondsMatch host policy node blocks)
    (hstep : ExitStep host policy blocks block node b) :
    BondsMatch host policy b (blocks ++ [block]) := by
  have hsound := hstep.sound h.toModeSound
  obtain ⟨wallet, slash, released, hbefore, -, -, hall, hmoved, hafter⟩ := hstep
  refine { hsound with locked := ?_, lock := fun w hbond => absurd hbond.holds hafter }
  intro w hw
  obtain ⟨w', hw', hkey⟩ := exists_wallet_of_keys hmoved.keys hw
  have haddress : w.address = w'.address := congrArg Prod.snd hkey
  have hold := h.locked w' hw'
  rw [hbefore.bondAt] at hold
  rw [hmoved.lockedOf, b.config.bondAt_of_not_holdsBond hafter, haddress, hold, hall]
  split <;> omega

end Steps

/-! ### The coins of the node's wallets and of the pools -/

variable (host policy) in
/-- The addresses between which bonds move. -/
def Node.heldAddresses (node : Node) : Finset String :=
  insert (bondPool host policy) (insert (slashPool host policy)
    (node.wallets.map WalletRecord.address).toFinset)

variable (host policy) in
/-- The coins at these addresses. -/
def Node.coinsHeld (node : Node) (blocks : Chain) : Int :=
  ∑ address ∈ node.heldAddresses host policy, chainBalanceAtomic host blocks address

theorem heldAddresses_of_keys {a b : Node} (h : b.walletKeys = a.walletKeys) :
    b.heldAddresses host policy = a.heldAddresses host policy := by
  have haddresses : b.wallets.map WalletRecord.address = a.wallets.map WalletRecord.address := by
    have hsnd := congrArg (List.map Prod.snd) h
    rwa [Node.walletKeys, Node.walletKeys, map_map, map_map] at hsnd
  rw [Node.heldAddresses, Node.heldAddresses, haddresses]

theorem ModeSound.coinsHeld_eq (h : ModeSound host policy node blocks) :
    node.coinsHeld host policy blocks = ∑ address ∈ node.heldAddresses host policy,
        credited host address (allTransactions blocks) := by
  apply Finset.sum_congr rfl
  intro address hmem
  rw [Node.heldAddresses, Finset.mem_insert, Finset.mem_insert, mem_toFinset, mem_map] at hmem
  have hplain : NormalAddress host address ∧ address ≠ "" := by
    rcases hmem with rfl | rfl | ⟨wallet, hwallet, rfl⟩
    · exact ⟨normalAddress_bondPool, bondPool_ne_empty⟩
    · exact ⟨normalAddress_slashPool, slashPool_ne_empty⟩
    · exact ⟨(h.wallets wallet hwallet).normal, (h.wallets wallet hwallet).ne_empty⟩
  exact chainBalanceAtomic_eq h.chain.wellFormed h.chain.stable hplain.1 hplain.2

/-- **A bond block moves coins between these addresses.** -/
theorem Moved.coinsHeld {block : ChainBlock} {b : Node} {wallet : WalletRecord}
    {toWallet toPool toSlash : Int}
    (h : Moved host policy blocks block wallet toWallet toPool toSlash node b)
    (ha : ModeSound host policy node blocks) (hb : ModeSound host policy b (blocks ++ [block])) :
    b.coinsHeld host policy (blocks ++ [block]) = node.coinsHeld host policy blocks := by
  have hwallet : wallet.address ∈ node.heldAddresses host policy := by
    rw [Node.heldAddresses, Finset.mem_insert, Finset.mem_insert, mem_toFinset]
    exact .inr (.inr (mem_map_of_mem (Table.mem_of_find h.find)))
  have hbond : bondPool host policy ∈ node.heldAddresses host policy := Finset.mem_insert_self _ _
  have hslash : slashPool host policy ∈ node.heldAddresses host policy :=
    Finset.mem_insert_of_mem (Finset.mem_insert_self _ _)
  have hzero : ∑ address ∈ node.heldAddresses host policy,
      credited host address block.transactions = 0 := by
    calc ∑ address ∈ node.heldAddresses host policy, credited host address block.transactions
        = toWallet + toPool + toSlash := by
          simp only [h.moves.credited, Finset.sum_add_distrib, Finset.sum_ite_eq, hwallet, hbond,
            hslash, if_true]
      _ = 0 := h.moves.balanced
  rw [ha.coinsHeld_eq, hb.coinsHeld_eq, heldAddresses_of_keys h.keys, allTransactions_concat]
  simp only [credited_append, Finset.sum_add_distrib, hzero, add_zero]

theorem Idle.coinsHeld {b : Node} (h : Idle host blocks node b) :
    b.coinsHeld host policy blocks = node.coinsHeld host policy blocks := by
  rw [Node.coinsHeld, Node.coinsHeld, heldAddresses_of_keys h.keys]

/-! ### Runs -/

variable (host policy) in
/-- The blocks that the node reads, at any time. -/
def Node.Reads (node : Node) (blocks : Chain) : Prop :=
  ∀ clock, listChainBlocks host policy clock node.chain = .ok blocks

theorem Node.Reads.unique {more : Chain} (h : node.Reads host policy blocks)
    (h' : node.Reads host policy more) : more = blocks :=
  Except.ok.inj ((h' fun _ => genesisCreatedAt).symm.trans (h fun _ => genesisCreatedAt))

theorem ModeSound.reads (h : ModeSound host policy node blocks) :
    node.Reads host policy blocks := h.chain.listed

/-- **One operation** keeps the bonds matched and the coins together. -/
theorem BondsMatch.after (h : BondsMatch host policy node blocks)
    (hfresh : op.Fresh host policy node) :
    ∃ blocks', BondsMatch host policy (op.after host policy node) blocks' ∧
      (op.after host policy node).coinsHeld host policy blocks' =
        node.coinsHeld host policy blocks := by
  rcases h.toModeSound.after hfresh with
    ⟨-, hidle | ⟨mid, block, hidle, hstep⟩⟩ | ⟨-, hidle | ⟨mid, block, hidle, hstep⟩⟩
  · exact ⟨blocks, h.idle hidle, hidle.coinsHeld⟩
  · have hmid := h.idle hidle
    have hend := hmid.locked_step hstep
    obtain ⟨wallet, -, hmoved, -, -⟩ := hstep
    refine ⟨_, hend, ?_⟩
    rw [hmoved.coinsHeld hmid.toModeSound hend.toModeSound, hidle.coinsHeld]
  · exact ⟨blocks, h.idle hidle, hidle.coinsHeld⟩
  · have hmid := h.idle hidle
    have hend := hmid.exited_step hstep
    obtain ⟨wallet, slash, released, -, -, -, -, hmoved, -⟩ := hstep
    refine ⟨_, hend, ?_⟩
    rw [hmoved.coinsHeld hmid.toModeSound hend.toModeSound, hidle.coinsHeld]

variable (host) in
/-- The chain has locked the configured bond of a bonded or unbonding validator; in the other
states nothing of the node's wallets is locked. -/
def LockedAsConfigured (node : Node) (blocks : Chain) : Prop :=
  (node.config.holdsBond → ∃ wallet ∈ node.wallets, node.config.BondOf wallet ∧
    Tally.get wallet.address (validatorLockedBonds host blocks) = node.config.bondAtomic) ∧
  (¬node.config.holdsBond → ∀ wallet ∈ node.wallets,
    Tally.get wallet.address (validatorLockedBonds host blocks) = 0)

theorem BondsMatch.lockedAsConfigured (h : BondsMatch host policy node blocks) :
    LockedAsConfigured host node blocks := by
  constructor
  · intro hholds
    obtain ⟨wallet, hbond, hfind⟩ := h.bond hholds
    have hmem := Table.mem_of_find hfind
    refine ⟨wallet, hmem, hbond, ?_⟩
    rw [h.chain.get_validatorLockedBonds, h.locked wallet hmem, hbond.bondAt, if_pos rfl]
  · intro hnone wallet hmem
    rw [h.chain.get_validatorLockedBonds, h.locked wallet hmem,
      node.config.bondAt_of_not_holdsBond hnone]

variable (host policy) in
/-- A jail leaves the chain and the bond, or it writes one block, which pays the bond that was
locked before it to the wallet and to the slash pool. -/
def JailPaysBond (op : ModeOp) (a b : Node) : Prop :=
  ∀ calendar moment terms reason slashBps, op = .jail calendar moment terms reason slashBps →
    ∀ blocks, a.Reads host policy blocks →
      (b.chain = a.chain ∧ (a.config.holdsBond → b.config.holdsBond)) ∨
      ∃ wallet ∈ a.wallets, a.config.BondOf wallet ∧ ¬b.config.holdsBond ∧
        ∃ block, b.Reads host policy (blocks ++ [block]) ∧
          credited host (slashPool host policy) block.transactions +
              credited host wallet.address block.transactions =
            Tally.get wallet.address (validatorLockedBonds host blocks)

theorem ExitStep.credited {block : ChainBlock} {b : Node}
    (h : ExitStep host policy blocks block node b) (hnode : ModeSound host policy node blocks) :
    ∃ wallet, node.config.BondOf wallet ∧ credited host (slashPool host policy) block.transactions +
        credited host wallet.address block.transactions = node.config.bondAtomic := by
  obtain ⟨wallet, slash, released, hbefore, -, -, hall, hmoved, -⟩ := h
  have hwallet := hnode.mem_of_find hmoved.find
  refine ⟨wallet, hbefore, ?_⟩
  rw [hmoved.moves.credited, hmoved.moves.credited, if_neg hwallet.ne_slashPool,
    if_neg bondPool_ne_slashPool, if_pos rfl, if_pos rfl, if_neg hwallet.ne_bondPool.symm,
    if_neg hwallet.ne_slashPool.symm]
  omega

theorem BondsMatch.jailPaysBond (h : BondsMatch host policy node blocks)
    (hfresh : op.Fresh host policy node) :
    JailPaysBond host policy op node (op.after host policy node) := by
  rintro calendar moment terms reason slashBps rfl read hread
  cases h.toModeSound.reads.unique hread
  rcases h.toModeSound.jailValidator calendar moment terms reason slashBps
    (hfresh blocks h.chain) with hidle | ⟨mid, block, hidle, hstep⟩
  · exact .inl ⟨hidle.chain, (h.same_of_idle hidle).holds.mpr⟩
  · right
    have hmid := h.idle hidle
    obtain ⟨wallet, hbond, hpaid⟩ := hstep.credited hmid.toModeSound
    have hsame := h.same_of_idle hidle
    obtain ⟨w, hbond', hfind⟩ := h.bond (hsame.bondOf hbond).holds
    have haddress : wallet.address = w.address :=
      congrArg Prod.snd (hbond'.key_eq (hsame.bondOf hbond))
    have hend := hmid.exited_step hstep
    obtain ⟨-, -, -, -, -, -, -, -, hafter⟩ := hstep
    refine ⟨w, Table.mem_of_find hfind, hbond', hafter, block, hend.toModeSound.reads, ?_⟩
    rw [h.chain.get_validatorLockedBonds, h.locked w (Table.mem_of_find hfind), hbond'.bondAt,
      if_pos rfl, ← (hsame.terms hbond'.holds).2.2, ← hpaid, haddress]

/-- A calendar that shows every deadline as reached. -/
def sampleCalendar : Calendar := ⟨fun now _ => now.text, fun _ _ => .reached⟩

def sampleTerms : BondTerms := ⟨"1", 500, 60, 60⟩

/-- The wallet of the treasury, which has coins from the genesis block on. -/
def sampleValidator : WalletRecord := { walletId := "t", address := "c4" }

/-- The treasury is a validator with a locked bond, on a node with other wallets. -/
def sampleBondedNode (others : List WalletRecord) (unlocked : Option Fields) : Node :=
  { chain := saveChainBlocks [sampleGenesis, sampleBond]
    wallets := sampleValidator :: others
    unlocked
    config :=
      { enabled := true
        state := .bonded
        walletId := some "t"
        address := some "c4"
        bondAtomic := 1000000000000
        staticIpConfirmed := true } }

theorem sampleValidator_sound : WalletSound sampleHost samplePolicy sampleValidator := by
  refine ⟨by decide, normalize_sampleTreasury, by decide, ?_, ?_⟩
  · rw [bondPool_eq]
    decide
  · rw [slashPool_eq]
    decide

theorem sampleBond_held :
    BondHeld sampleHost [sampleGenesis, sampleBond] sampleValidator 1000000000000 := by
  unfold BondHeld
  rw [allTransactions_sampleBond]
  refine ⟨⟨_, mem_append_right _ mem_cons_self, rfl, rfl, rfl, "c4", rfl,
    normalize_sampleTreasury⟩, ?_⟩
  decide

theorem sampleBondedNode_bondsMatch : BondsMatch sampleHost samplePolicy (sampleBondedNode [] none)
    [sampleGenesis, sampleBond] := by
  have hbond : (sampleBondedNode [] none).config.BondOf sampleValidator :=
    ⟨.inl rfl, rfl, rfl, by decide⟩
  refine
    { chain := sampleBond_bonded
      wallets := forall_mem_singleton.mpr sampleValidator_sound
      bond := fun _ => ⟨sampleValidator, hbond, rfl⟩
      locked := ?_
      lock := fun wallet hother => ?_ }
  · rw [allTransactions_sampleBond]
    decide
  · obtain ⟨tx, htx, hlock⟩ := sampleBond_held.1
    exact ⟨tx, htx, hlock.of_key (hbond.key_eq hother)⟩

/-- The validator leaves, and is jailed while its bond is still locked. -/
def sampleModeOps : List ModeOp :=
  [.disable sampleCalendar sampleMoment sampleTerms,
    .jail sampleCalendar sampleMoment sampleTerms "late" none]

/-- A jail keeps its ids when the validator leaves before it. -/
theorem ModeOp.Fresh.jail_disable {calendar : Calendar} {moment : Moment} {terms : BondTerms}
    {reason : String} {slashBps : Option Int} (hmatch : BondsMatch host policy node blocks)
    (hholds : node.config.holdsBond)
    (h : (ModeOp.jail calendar moment terms reason slashBps).Fresh host policy node) :
    (ModeOp.jail calendar moment terms reason slashBps).Fresh host policy
      ((ModeOp.disable calendar moment terms).after host policy node) := by
  have hidle : Idle host blocks node
      ((ModeOp.disable calendar moment terms).after host policy node) :=
    hmatch.toModeSound.disableValidatorMode calendar moment _
  intro read hread wallet hwallet
  rw [hidle.chain] at hread
  obtain ⟨w, hw, hkey⟩ := exists_wallet_of_keys hidle.keys hwallet
  rw [ModeOp.writes, ((hmatch.same_of_idle hidle).terms hholds).2.2,
    bondSlashTransactions_of_key hkey]
  exact h read hread w hw

theorem sampleJail_fresh : (ModeOp.jail sampleCalendar sampleMoment sampleTerms "late" none).Fresh
    sampleHost samplePolicy (sampleBondedNode [] none) := by
  intro blocks hblocks wallet hwallet
  cases (hblocks.listed sampleClock).symm.trans (sampleBond_bonded.listed sampleClock)
  rw [mem_singleton.mp hwallet, ModeOp.writes, FreshIds, allTransactions_sampleBond]
  decide +kernel

end CaiNetwork
