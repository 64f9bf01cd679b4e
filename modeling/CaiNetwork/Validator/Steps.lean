/-
CaiNetwork/Validator/Steps.lean

What the validator mode reads, and the operations that move no bond.

On a node in order (`ModeSound`) the reading operations change nothing (`Leaves`), and reading the
configuration may only drop a bond that the chain does not hold (`Idle`).
-/

import CaiNetwork.Validator.Moves

namespace CaiNetwork

open List Action

variable (host : Host) (policy : WalletPolicy)

variable {walletId : String} {wallet : WalletRecord} {a b c : Node} {ws ws' : List WalletRecord}

/-! ### Nodes in order -/

/-- The configuration holds a bond of the given wallet. -/
structure ValidatorConfig.BondOf (config : ValidatorConfig) (wallet : WalletRecord) : Prop where
  holds : config.holdsBond
  walletId : config.walletId = some wallet.walletId
  address : config.address = some wallet.address
  positive : 0 < config.bondAtomic

/-- The node finds the wallet under its id. -/
abbrev Node.Owns (node : Node) (wallet : WalletRecord) : Prop :=
  Table.find WalletRecord.walletId wallet.walletId node.wallets = some wallet

/-- A node in order. -/
structure ModeSound (node : Node) (blocks : Chain) : Prop where
  chain : BondedChain host policy node.chain blocks
  wallets : ∀ wallet ∈ node.wallets, WalletSound host policy wallet
  bond : node.config.holdsBond → ∃ wallet, node.config.BondOf wallet ∧ node.Owns wallet

/-- The chain holds the bond of the configuration. -/
def BondHeld (blocks : Chain) (wallet : WalletRecord) (bondAtomic : Int) : Prop :=
  (∃ tx ∈ allTransactions blocks, IsBondLock host wallet wallet.address tx) ∧
    bondAtomic ≤ lockedOf host wallet.address (allTransactions blocks)

variable {host policy} {node : Node} {blocks : Chain}

/-! ### Reading operations -/

section Wallets

variable (h : ModeSound host policy node blocks)
include h

theorem ModeSound.listWallets : CaiNetwork.listWallets host node.wallets = node.wallets := by
  rw [CaiNetwork.listWallets]
  conv_rhs => rw [← map_id node.wallets]
  apply map_congr_left
  intro wallet hwallet
  rw [(h.wallets wallet hwallet).normal]
  rfl

theorem ModeSound.findWalletById (walletId : String) :
    CaiNetwork.findWalletById host walletId node =
      (.ok (Table.find WalletRecord.walletId walletId node.wallets), node) := by
  rw [findWalletById_apply, h.listWallets]

theorem ModeSound.readBlocks (moment : Moment) :
    CaiNetwork.readBlocks host policy moment node = (.ok blocks, node) := by
  show (listChainBlocks host policy moment.clock node.chain, node) = _
  rw [h.chain.listed moment.clock]

theorem ModeSound.updateWallet (wallet : WalletRecord)
    (hid : wallet.walletId ∈ node.wallets.map WalletRecord.walletId) :
    CaiNetwork.updateWallet host wallet node = (.ok (), { node with
        wallets := Table.update WalletRecord.walletId wallet.walletId (fun _ => wallet)
          node.wallets }) := by
  rw [updateWallet_apply, h.listWallets, if_pos hid]

theorem ModeSound.mem_of_find
    (hfind : Table.find WalletRecord.walletId walletId node.wallets = some wallet) :
    WalletSound host policy wallet := h.wallets wallet (Table.mem_of_find hfind)

end Wallets

theorem BondOf.validatorId {config : ValidatorConfig}
    (h : config.BondOf wallet) (hwallet : WalletSound host policy wallet) :
    config.validatorId host wallet = wallet.address := by
  rw [ValidatorConfig.validatorId, h.address, nonempty?, if_neg hwallet.ne_empty,
    Option.getD_some, hwallet.normal]

theorem BondOf.nonempty_walletId {config : ValidatorConfig}
    (h : config.BondOf wallet) (hwallet : WalletSound host policy wallet) :
    nonempty? config.walletId = some wallet.walletId := by
  rw [h.walletId, nonempty?, if_neg hwallet.walletId]

/-- Asking whether a bond is backed changes nothing; a bond that the chain holds is backed, and a
backed bond is locked. -/
theorem ModeSound.validatorBondIsChainBacked (h : ModeSound host policy node blocks)
    (moment : Moment) (money : MoneyPolicy) (hmoney : money.chainNetwork = policy.chainNetwork)
    (hwallet : WalletSound host policy wallet) {config : ValidatorConfig}
    (hbond : config.BondOf wallet) :
    ∃ b, CaiNetwork.validatorBondIsChainBacked host policy moment money wallet config node =
        (.ok b, node) ∧ (BondHeld host blocks wallet config.bondAtomic → b = true) ∧
      (b = true → config.bondAtomic ≤ lockedOf host wallet.address (allTransactions blocks)) := by
  have hid := BondOf.validatorId hbond hwallet
  have hpos := hbond.positive
  have hread : CaiNetwork.validatorBondIsChainBacked host policy moment money wallet config node =
      (bondBackedBy host money wallet config blocks, node) := by
    rw [CaiNetwork.validatorBondIsChainBacked, if_neg (by omega)]
    exact bind_of_ok (h.readBlocks moment)
  obtain ⟨found, hfound, hlock⟩ := validatorBondLockExists_ok h.chain.names wallet
    (config.validatorId host wallet)
  rw [h.chain.bondBackedBy_eq hfound (bondPool_of_network hmoney), hid] at hread
  rw [hid] at hlock
  refine ⟨_, hread, ?_, ?_⟩
  · rintro ⟨hlocked, hle⟩
    rw [hlock hlocked, Bool.true_and]
    exact decide_eq_true (max_le_max le_rfl hle)
  · intro htrue
    simp only [Bool.and_eq_true, decide_eq_true_eq] at htrue
    omega

/-! ### Operations that move no bond -/

/-- The identity of a wallet, which no operation of the mode changes. -/
def WalletRecord.key (wallet : WalletRecord) : String × String := (wallet.walletId, wallet.address)

def Node.walletKeys (node : Node) : List (String × String) := node.wallets.map WalletRecord.key

/-- The same bond, or no bond, before and after. -/
structure SameBond (a b : ValidatorConfig) : Prop where
  holds : b.holdsBond ↔ a.holdsBond
  terms : a.holdsBond → b.walletId = a.walletId ∧ b.address = a.address ∧
    b.bondAtomic = a.bondAtomic

variable (host) in
/-- No bond moves on the chain: the configuration keeps its bond, or it drops one that the chain
does not hold. -/
structure Idle (blocks : Chain) (a b : Node) : Prop where
  chain : b.chain = a.chain
  keys : b.walletKeys = a.walletKeys
  config : SameBond a.config b.config ∨ (¬b.config.holdsBond ∧
    ∃ wallet, a.config.BondOf wallet ∧ ¬BondHeld host blocks wallet a.config.bondAtomic)

theorem SameBond.refl (config : ValidatorConfig) : SameBond config config :=
  ⟨Iff.rfl, fun _ => ⟨rfl, rfl, rfl⟩⟩

theorem SameBond.trans {a b c : ValidatorConfig} (hab : SameBond a b) (hbc : SameBond b c) :
    SameBond a c := by
  refine ⟨hbc.holds.trans hab.holds, fun ha => ?_⟩
  obtain ⟨hw, haddr, hbond⟩ := hab.terms ha
  obtain ⟨hw', haddr', hbond'⟩ := hbc.terms (hab.holds.mpr ha)
  exact ⟨hw'.trans hw, haddr'.trans haddr, hbond'.trans hbond⟩

theorem SameBond.bondOf {a b : ValidatorConfig} (h : SameBond a b)
    (hbond : b.BondOf wallet) : a.BondOf wallet := by
  have ha := h.holds.mp hbond.holds
  obtain ⟨hw, haddr, hamount⟩ := h.terms ha
  exact ⟨ha, hw ▸ hbond.walletId, haddr ▸ hbond.address, hamount ▸ hbond.positive⟩

theorem Idle.refl (node : Node) : Idle host blocks node node := ⟨rfl, rfl, .inl (.refl _)⟩

theorem Idle.trans (hab : Idle host blocks a b) (hbc : Idle host blocks b c) :
    Idle host blocks a c := by
  refine ⟨hbc.chain.trans hab.chain, hbc.keys.trans hab.keys, ?_⟩
  rcases hab.config with hsame | ⟨hnone, hdropped⟩
  · rcases hbc.config with hsame' | ⟨hnone', wallet, hbond, hheld⟩
    · exact .inl (hsame.trans hsame')
    · have ha := hsame.bondOf hbond
      refine .inr ⟨hnone', wallet, ha, ?_⟩
      rwa [(hsame.terms ha.holds).2.2] at hheld
  · rcases hbc.config with hsame' | ⟨hnone', -⟩
    · exact .inr ⟨fun h => hnone (hsame'.holds.mp h), hdropped⟩
    · exact .inr ⟨hnone', hdropped⟩

/-- A wallet of one list is in the other, with other balances: a lookup by id reads the keys. -/
theorem find_own_of_keys (h : ws'.map WalletRecord.key = ws.map WalletRecord.key)
    (hfind : Table.find WalletRecord.walletId wallet.walletId ws = some wallet) :
    ∃ wallet', Table.find WalletRecord.walletId wallet'.walletId ws' = some wallet' ∧
      wallet'.key = wallet.key := by
  have hmap : ∀ ws, (Table.find WalletRecord.walletId wallet.walletId ws).map WalletRecord.key =
      (ws.map WalletRecord.key).find? (fun e => e.1 = wallet.walletId) := by
    intro ws
    rw [find?_map]
    rfl
  have hkeys := hmap ws'
  rw [h, ← hmap ws, hfind] at hkeys
  obtain ⟨wallet', hfind', hkey⟩ := Option.map_eq_some_iff.mp hkeys
  have hid : wallet'.walletId = wallet.walletId := congrArg Prod.fst hkey
  exact ⟨wallet', hid ▸ hfind', hkey⟩

theorem WalletSound.of_key {w w' : WalletRecord} (h : WalletSound host policy w)
    (hkey : w'.key = w.key) : WalletSound host policy w' := by
  obtain ⟨hid, haddress⟩ := Prod.mk.inj hkey
  exact ⟨hid ▸ h.walletId, haddress ▸ h.normal, haddress ▸ h.ne_empty, haddress ▸ h.ne_bondPool,
    haddress ▸ h.ne_slashPool⟩

theorem walletSound_of_keys (h : ws'.map WalletRecord.key = ws.map WalletRecord.key)
    (hsound : ∀ wallet ∈ ws, WalletSound host policy wallet) :
    ∀ wallet ∈ ws', WalletSound host policy wallet := by
  intro wallet hwallet
  have hkey : wallet.key ∈ ws.map WalletRecord.key := h ▸ mem_map_of_mem hwallet
  obtain ⟨w, hw, heq⟩ := mem_map.mp hkey
  exact (hsound w hw).of_key heq.symm

theorem ValidatorConfig.BondOf.of_key {config : ValidatorConfig} {w w' : WalletRecord}
    (h : config.BondOf w) (hkey : w'.key = w.key) : config.BondOf w' := by
  obtain ⟨hid, haddress⟩ := Prod.mk.inj hkey
  exact ⟨h.holds, hid ▸ h.walletId, haddress ▸ h.address, h.positive⟩

/-- **A node in order stays in order** while no bond moves. -/
theorem Idle.sound (h : Idle host blocks a b) (ha : ModeSound host policy a blocks) :
    ModeSound host policy b blocks := by
  refine ⟨h.chain ▸ ha.chain, walletSound_of_keys h.keys ha.wallets, ?_⟩
  intro hholds
  rcases h.config with hsame | ⟨hnone, -⟩
  · obtain ⟨wallet, hbond, hfind⟩ := ha.bond (hsame.holds.mp hholds)
    obtain ⟨wallet', hfind', hkey⟩ := find_own_of_keys h.keys hfind
    have hb : b.config.BondOf wallet := by
      obtain ⟨hw, haddr, hamount⟩ := hsame.terms hbond.holds
      exact ⟨hholds, hw.trans hbond.walletId, haddr.trans hbond.address, hamount ▸ hbond.positive⟩
    exact ⟨wallet', hb.of_key hkey, hfind'⟩
  · exact absurd hholds hnone

/-! ### Reading the configuration -/

namespace ValidatorConfig

/-- The fields that say which bond is held. -/
def terms (config : ValidatorConfig) :
    ValidatorLifecycleState × Option String × Option String × Int :=
  (config.state, config.walletId, config.address, config.bondAtomic)

variable {config config' : ValidatorConfig}

theorem holdsBond_of_terms (h : config'.terms = config.terms) :
    config'.holdsBond ↔ config.holdsBond := by
  have hstate : config'.state = config.state := congrArg Prod.fst h
  rw [holdsBond, holdsBond, hstate]

theorem terms_withoutWorker : config.withoutWorker.terms = config.terms := by
  rw [withoutWorker]
  split <;> rfl

theorem terms_withoutTimes : config.withoutTimes.terms = config.terms := by
  rw [withoutTimes]
  split <;> rfl

theorem terms_withoutWallet (h : config.state ≠ .unbonded) :
    config.withoutWallet.terms = config.terms := by
  rw [withoutWallet, if_neg h]

theorem terms_unjailed : config.unjailed.terms = config.terms := by
  rw [unjailed]
  split <;> rfl

theorem state_withoutWallet : config.withoutWallet.state = config.state := by
  rw [withoutWallet]
  split <;> rfl

theorem not_holdsBond_reset : ¬config.reset.holdsBond := by
  rintro (h | h) <;> cases h

theorem BondOf.of_terms (h : config.BondOf wallet)
    (hterms : config'.terms = config.terms) : config'.BondOf wallet := by
  have hwallet : config'.walletId = config.walletId := congrArg (fun t => t.2.1) hterms
  have haddress : config'.address = config.address := congrArg (fun t => t.2.2.1) hterms
  have hbond : config'.bondAtomic = config.bondAtomic := congrArg (fun t => t.2.2.2) hterms
  exact ⟨(holdsBond_of_terms hterms).mpr h.holds, hwallet.trans h.walletId,
    haddress.trans h.address, hbond ▸ h.positive⟩

theorem sameBond_of_terms (h : config'.terms = config.terms) : SameBond config config' :=
  ⟨holdsBond_of_terms h, fun _ => ⟨congrArg (fun t => t.2.1) h, congrArg (fun t => t.2.2.1) h,
    congrArg (fun t => t.2.2.2) h⟩⟩

theorem knownState_eq (h : config.holdsBond) : knownState config.state = config.state := by
  rcases h with h | h <;> rw [h] <;> rfl

theorem bondComplete_of_bondOf (h : config.BondOf wallet)
    (hwallet : WalletSound host policy wallet) : config.bondComplete = true := by
  rw [bondComplete, h.walletId, h.address, nonempty?, if_neg hwallet.walletId, nonempty?,
    if_neg hwallet.ne_empty, decide_eq_true h.positive]
  rfl

theorem withoutBrokenBond_eq (h : config.holdsBond → config.bondComplete = true) :
    config.withoutBrokenBond = config := by
  rw [withoutBrokenBond, if_neg]
  rintro ⟨hholds, hbroken⟩
  rw [h hholds] at hbroken
  cases hbroken

/-- A configuration with the bond of a proper wallet has nothing to correct. -/
theorem terms_settled (h : config.BondOf wallet)
    (hwallet : WalletSound host policy wallet) : (config.settled host).terms = config.terms := by
  have hspelled : (config.spelled host).terms = config.terms := by
    rw [terms, spelled, knownState_eq h.holds, h.address, Option.map_some, hwallet.normal,
      ← h.address]
    rfl
  have hbroken : (config.spelled host).withoutBrokenBond = config.spelled host :=
    withoutBrokenBond_eq fun _ => bondComplete_of_bondOf (h.of_terms hspelled) hwallet
  have hterms : (config.spelled host).withoutWorker.withoutTimes.terms = config.terms := by
    rw [terms_withoutTimes, terms_withoutWorker, hspelled]
  have hstate : (config.spelled host).withoutWorker.withoutTimes.state ≠ .unbonded := by
    rw [show (config.spelled host).withoutWorker.withoutTimes.state = config.state from
      congrArg Prod.fst hterms]
    rcases h.holds with hstate | hstate <;> rw [hstate] <;> decide
  rw [settled, hbroken, terms_withoutWallet hstate, hterms]

theorem not_holdsBond_settled (h : ¬config.holdsBond) : ¬(config.settled host).holdsBond := by
  have hspelled : ¬(config.spelled host).holdsBond := by
    show ¬(knownState config.state = .bonded ∨ knownState config.state = .unbonding)
    rw [holdsBond] at h
    cases hstate : config.state <;> simp_all [knownState]
  have hbroken : (config.spelled host).withoutBrokenBond = config.spelled host :=
    withoutBrokenBond_eq fun hholds => absurd hholds hspelled
  have hterms : (config.spelled host).withoutWorker.withoutTimes.terms =
      (config.spelled host).terms := by
    rw [terms_withoutTimes, terms_withoutWorker]
  rw [settled, hbroken, holdsBond, state_withoutWallet]
  exact fun hholds => hspelled ((holdsBond_of_terms hterms).mp hholds)

end ValidatorConfig

theorem ModeSound.localValidatorConfigIsChainBacked (h : ModeSound host policy node blocks)
    (moment : Moment) {config : ValidatorConfig}
    (hbond : config.BondOf wallet) (hstate : config.state = .bonded) (hfind : node.Owns wallet) :
    ∃ b, CaiNetwork.localValidatorConfigIsChainBacked host policy moment config node =
        (.ok b, node) ∧ (BondHeld host blocks wallet config.bondAtomic → b = true) := by
  have hwallet := h.mem_of_find hfind
  have hcomplete := ValidatorConfig.bondComplete_of_bondOf hbond hwallet
  have hguard : ¬(config.state ≠ .bonded ∨ config.bondComplete = false) := by
    rw [hstate, hcomplete]
    simp
  obtain ⟨b, hb, hheld, -⟩ := h.validatorBondIsChainBacked moment
    (moneyPolicyForWalletPolicy host policy) rfl hwallet hbond
  refine ⟨b, ?_, hheld⟩
  rw [CaiNetwork.localValidatorConfigIsChainBacked, if_neg hguard, hbond.walletId,
    Option.getD_some, bind_of_ok (h.findWalletById _), hfind]
  dsimp only
  rw [hbond.address, Option.getD_some, if_neg (not_not.mpr rfl)]
  exact hb

/-- A wallet is rewritten under its own id and address. -/
theorem keys_update
    (hfind : Table.find WalletRecord.walletId walletId ws = some wallet) {new : WalletRecord}
    (hkey : new.key = wallet.key) :
    (Table.update WalletRecord.walletId walletId (fun _ => new) ws).map WalletRecord.key =
      ws.map WalletRecord.key := by
  induction ws with
  | nil => rfl
  | cons w ws ih =>
    rw [Table.update]
    split
    next hw =>
      have hfirst : w = wallet := by simpa [Table.find, hw] using hfind
      rw [map_cons, map_cons, hkey, hfirst]
    next hw =>
      have hrest : Table.find WalletRecord.walletId walletId ws = some wallet := by
        simpa [Table.find, hw] using hfind
      rw [map_cons, map_cons, ih hrest]

/-- Dropping a bond resets the configuration and may rewrite the wallet. -/
theorem ModeSound.dropStaleBond (h : ModeSound host policy node blocks)
    {config : ValidatorConfig} (hbond : config.BondOf wallet) (hfind : node.Owns wallet) :
    ∃ wallets, CaiNetwork.dropStaleBond host config node =
        (.ok config.reset, { node with wallets }) ∧
      wallets.map WalletRecord.key = node.wallets.map WalletRecord.key := by
  have hmem : wallet.walletId ∈ node.wallets.map WalletRecord.walletId :=
    mem_map_of_mem (Table.mem_of_find hfind)
  rw [CaiNetwork.dropStaleBond, BondOf.nonempty_walletId hbond (h.mem_of_find hfind)]
  dsimp only
  rw [bind_of_ok (h.findWalletById _), hfind]
  dsimp only
  split
  · rw [bind_of_ok (h.updateWallet { wallet with validatorReservedAtomic := 0 } hmem)]
    exact ⟨_, rfl, keys_update hfind rfl⟩
  · exact ⟨node.wallets, rfl, rfl⟩

/-- The check against the chain keeps a bond that the chain holds. -/
theorem ModeSound.checkBond (h : ModeSound host policy node blocks) (moment : Moment)
    {config : ValidatorConfig} (hbond : config.BondOf wallet) (hfind : node.Owns wallet) :
    ∃ config' wallets, CaiNetwork.checkBond host policy moment config node =
        (.ok config', { node with wallets }) ∧
      wallets.map WalletRecord.key = node.wallets.map WalletRecord.key ∧ (config' = config ∨
        (config' = config.reset ∧ ¬BondHeld host blocks wallet config.bondAtomic)) := by
  rw [CaiNetwork.checkBond]
  split
  next => exact ⟨config, node.wallets, rfl, rfl, .inl rfl⟩
  next hstate =>
    obtain ⟨b, hb, hheld⟩ := h.localValidatorConfigIsChainBacked moment hbond
      (not_not.mp hstate) hfind
    rw [bind_of_ok hb]
    cases b with
    | true => exact ⟨config, node.wallets, rfl, rfl, .inl rfl⟩
    | false =>
      obtain ⟨wallets, hdrop, hkeys⟩ := h.dropStaleBond hbond hfind
      exact ⟨_, wallets, hdrop, hkeys, .inr ⟨rfl, fun hh => by cases hheld hh⟩⟩

/-- **Reading the configuration** moves no bond. -/
theorem ModeSound.load (h : ModeSound host policy node blocks) (moment : Moment) :
    ∃ loaded, loadOrCreateNodeConfig host policy moment node = (.ok loaded.config, loaded) ∧
      Idle host blocks node loaded := by
  have hget : loadOrCreateNodeConfig host policy moment node =
      (CaiNetwork.checkBond host policy moment (node.config.settled host) >>= fun config => do
        modify fun node => { node with config := config.unjailed }
        return config.unjailed) node := rfl
  by_cases hholds : node.config.holdsBond
  · obtain ⟨wallet, hbond, hfind⟩ := h.bond hholds
    have hterms := ValidatorConfig.terms_settled hbond (h.mem_of_find hfind)
    obtain ⟨config, wallets, hcheck, hkeys, hcases⟩ := h.checkBond moment
      (hbond.of_terms hterms) hfind
    rw [hget, bind_of_ok hcheck]
    refine ⟨{ node with wallets, config := config.unjailed }, rfl, rfl, hkeys, ?_⟩
    rcases hcases with rfl | ⟨rfl, hheld⟩
    · left
      apply ValidatorConfig.sameBond_of_terms
      rw [ValidatorConfig.terms_unjailed, hterms]
    · right
      refine ⟨?_, wallet, hbond, ?_⟩
      · rw [ValidatorConfig.holdsBond_of_terms ValidatorConfig.terms_unjailed]
        exact ValidatorConfig.not_holdsBond_reset
      · rwa [show (node.config.settled host).bondAtomic = node.config.bondAtomic from
          congrArg (fun t => t.2.2.2) hterms] at hheld
  · -- nothing is checked against the chain
    have hsettled : ¬(node.config.settled host).holdsBond :=
      ValidatorConfig.not_holdsBond_settled hholds
    have hstate : (node.config.settled host).state ≠ .bonded := fun hs => hsettled (.inl hs)
    have hafter : ¬(node.config.settled host).unjailed.holdsBond := by
      rwa [ValidatorConfig.holdsBond_of_terms ValidatorConfig.terms_unjailed]
    rw [hget, CaiNetwork.checkBond, if_pos hstate]
    refine ⟨{ node with config := (node.config.settled host).unjailed }, rfl, rfl, rfl,
      .inl ⟨?_, fun hh => absurd hh hholds⟩⟩
    exact ⟨fun hh => absurd hh hafter, fun hh => absurd hh hholds⟩

/-! ### Sequences that move no bond -/

/-- The same chain, the same wallets up to their balances, the same configuration. -/
structure SameFiles (a b : Node) : Prop where
  chain : b.chain = a.chain
  keys : b.walletKeys = a.walletKeys
  config : b.config = a.config

theorem SameFiles.refl (node : Node) : SameFiles node node := ⟨rfl, rfl, rfl⟩

theorem SameFiles.trans (hab : SameFiles a b) (hbc : SameFiles b c) : SameFiles a c :=
  ⟨hbc.chain.trans hab.chain, hbc.keys.trans hab.keys, hbc.config.trans hab.config⟩

theorem SameFiles.idle (h : SameFiles a b) : Idle host blocks a b := by
  refine ⟨h.chain, h.keys, .inl ?_⟩
  rw [h.config]
  exact .refl _

variable (host policy) in
/-- From a node in order the action leaves these files. -/
def Leaves (blocks : Chain) (a b : Node) : Prop :=
  ModeSound host policy a blocks → SameFiles a b

variable (host policy) in
/-- From a node in order the action moves no bond. -/
def Rests (blocks : Chain) (a b : Node) : Prop :=
  ModeSound host policy a blocks → Idle host blocks a b

theorem Leaves.refl (node : Node) : Leaves host policy blocks node node := fun _ => .refl node

theorem Leaves.trans (hab : Leaves host policy blocks a b)
    (hbc : Leaves host policy blocks b c) : Leaves host policy blocks a c :=
  fun h => (hab h).trans (hbc ((hab h).idle.sound h))

theorem Leaves.rests (h : Leaves host policy blocks a b) :
    Rests host policy blocks a b := fun ha => (h ha).idle

theorem Rests.refl (node : Node) : Rests host policy blocks node node := fun _ => .refl node

theorem Rests.trans (hab : Rests host policy blocks a b)
    (hbc : Rests host policy blocks b c) : Rests host policy blocks a c :=
  fun h => (hab h).trans (hbc ((hab h).sound h))

/-- An action that reads. -/
theorem leaves_of_same {α : Type} {x : NodeAction α}
    (h : ∀ node, ModeSound host policy node blocks → (x node).2 = node) :
    Within (Leaves host policy blocks) x := by
  intro node hnode
  rw [h node hnode]
  exact .refl node

variable {moment : Moment} {config : ValidatorConfig}

theorem leaves_findWalletById :
    Within (Leaves host policy blocks) (findWalletById host walletId) :=
  leaves_of_same fun node h => by rw [h.findWalletById]

theorem leaves_readBlocks :
    Within (Leaves host policy blocks) (readBlocks host policy moment) :=
  leaves_of_same fun _ _ => rfl

theorem leaves_validatorBondIsChainBacked {money : MoneyPolicy} :
    Within (Leaves host policy blocks)
      (validatorBondIsChainBacked host policy moment money wallet config) := by
  rw [validatorBondIsChainBacked]
  refine .ite (fun _ => .pure .refl _) fun _ => ?_
  exact .bind .trans leaves_readBlocks fun blocks => .lift .refl _

theorem leaves_getActiveWallet :
    Within (Leaves host policy blocks) (getActiveWallet host) := by
  apply leaves_of_same
  intro node h
  rw [getActiveWallet, bind_of_ok get_apply]
  cases node.activeWalletId with
  | none => rfl
  | some walletId => exact congrArg Prod.snd (h.findWalletById walletId)

theorem leaves_walletChainBalanceOrLocalAtomic (moment : Moment) (wallet : Option WalletRecord) :
    Within (Leaves host policy blocks)
      (walletChainBalanceOrLocalAtomic host policy moment wallet) := by
  cases wallet with
  | none => exact .pure .refl _
  | some wallet =>
    refine .bind .trans leaves_readBlocks fun read => ?_
    exact .ite (fun _ => .pure .refl _) fun _ => .pure .refl _

theorem leaves_findBondWallet :
    Within (Leaves host policy blocks) (findBondWallet host config) := by
  rw [findBondWallet]
  cases nonempty? config.walletId with
  | none => exact .pure .refl _
  | some walletId => exact leaves_findWalletById

theorem leaves_bondedModeStatus (moment : Moment) (money : MoneyPolicy) (network : Option String)
    (config : ValidatorConfig) (active : Option WalletRecord) (required : Int) :
    Within (Leaves host policy blocks)
      (bondedModeStatus host policy moment money network config active required) := by
  unfold bondedModeStatus
  refine .bind .trans leaves_findBondWallet fun wallet => ?_
  cases wallet with
  | none => exact .pure .refl _
  | some wallet =>
    refine .bind .trans ?_ fun backed => ?_
    · exact .ite (fun _ => leaves_validatorBondIsChainBacked) fun _ => .pure .refl _
    · refine .ite (fun _ => .pure .refl _) fun _ => ?_
      refine .ite (fun _ => .pure .refl _) fun _ => ?_
      refine .ite (fun _ => .pure .refl _) fun _ => ?_
      cases network <;> exact .pure .refl _

/-! ### The registry -/

theorem leaves_announcedBond :
    Within (Leaves host policy blocks) (announcedBond host policy moment config) := by
  unfold announcedBond
  refine .ite (fun _ => .pure .refl _) fun _ => ?_
  refine .bind .trans leaves_findBondWallet fun wallet => ?_
  cases wallet with
  | none => exact .pure .refl _
  | some wallet =>
    refine .bind .trans leaves_validatorBondIsChainBacked fun backed => ?_
    exact .ite (fun _ => .pure .refl _) fun _ => .pure .refl _

/-- The registry is a file of its own. -/
theorem leaves_syncLocalValidatorRegistry (moment : Moment) (config : ValidatorConfig)
    (validatorIdOverride : Option String) : Within (Leaves host policy blocks)
      (syncLocalValidatorRegistry host policy moment config validatorIdOverride) := by
  rw [syncLocalValidatorRegistry]
  cases (nonempty? validatorIdOverride).or (nonempty? config.address) with
  | none => exact .pure .refl _
  | some validatorId =>
    refine .bind .trans leaves_announcedBond fun announced => ?_
    exact .modify fun node _ => ⟨rfl, rfl, rfl⟩

/-! ### The status of the mode -/

theorem rests_load :
    Within (Rests host policy blocks) (loadOrCreateNodeConfig host policy moment) := by
  intro node h
  obtain ⟨loaded, hload, hidle⟩ := h.load moment
  rw [hload]
  exact hidle

/-- The values of the money policy that the validator mode reads, apart from the network's. -/
structure BondTerms where
  minBondCoins : String
  jailSlashBps : Int
  unbondingSeconds : Int
  unjailCooldownSeconds : Int

variable (host policy) in
/-- The money policy of the network with these values. -/
def BondTerms.money (terms : BondTerms) : MoneyPolicy :=
  { moneyPolicyForWalletPolicy host policy with
    validatorMinBondCoins := terms.minBondCoins
    validatorJailSlashBps := terms.jailSlashBps
    validatorUnbondingSeconds := terms.unbondingSeconds
    validatorUnjailCooldownSeconds := terms.unjailCooldownSeconds }

theorem ensureChainGenesis_terms {terms : BondTerms} {file : ChainFile} :
    ensureChainGenesis host policy (terms.money host policy) moment file =
      ensureChainGenesis host policy (moneyPolicyForWalletPolicy host policy) moment file := rfl

theorem leaves_ensureChainGenesis (terms : BondTerms) (moment : Moment) :
    Within (Leaves host policy blocks)
      (onChain (ensureChainGenesis host policy (terms.money host policy) moment)) := by
  apply leaves_of_same
  intro node h
  have hfile : (ensureChainGenesis host policy (terms.money host policy) moment node.chain).2 =
      node.chain := by
    rw [ensureChainGenesis_terms]
    exact (h.chain.toPersisted.ensureChainGenesis_file moment).resolve_right fun hnil =>
      h.chain.started hnil.1
  show { node with chain := _ } = node
  rw [hfile]

theorem rests_getValidatorModeStatus (calendar : Calendar) (moment : Moment) (terms : BondTerms)
    (unreachable : Option String) : Within (Rests host policy blocks)
      (getValidatorModeStatus host policy calendar moment (terms.money host policy)
        unreachable) := by
  unfold getValidatorModeStatus
  refine .bind .trans rests_load fun config => ?_
  refine .bind .trans ((leaves_ensureChainGenesis terms moment).imp Leaves.rests) fun _ => ?_
  refine .bind .trans (.lift .refl _) fun required => ?_
  refine .bind .trans (leaves_getActiveWallet.imp Leaves.rests) fun active => ?_
  refine .bind .trans ((leaves_walletChainBalanceOrLocalAtomic moment active).imp Leaves.rests)
    fun spendable => ?_
  refine .bind .trans rests_load fun config' => ?_
  cases config.state with
  | bonded => exact (leaves_bondedModeStatus _ _ _ _ _ _).imp Leaves.rests
  | unbonding => exact .pure .refl _
  | jailed => exact .pure .refl _
  | unbonded => exact .bind .trans (.of_same .refl fun _ => rfl) fun _ => .pure .refl _
  | other name => exact .bind .trans (.of_same .refl fun _ => rfl) fun _ => .pure .refl _

end CaiNetwork
