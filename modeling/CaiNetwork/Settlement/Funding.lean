/-
CaiNetwork/Settlement/Funding.lean

What the application of a settlement takes from the wallets and the reserve, and what it pays.

The wallets and the journal together are the `purse` of a node.  An action that is `Quiet` moves
the purse by credits and leaves the settlements, the attestations and the ledger alone: every part
of an application but `fundSettlement` is quiet.  What `fundSettlement` does is said once, in
`fundSettlement_cases`.
-/

import Mathlib.Logic.Relation
import CaiNetwork.Settlement.Import

namespace CaiNetwork

open Action

open CaiNetwork.Action (Within)

variable {a b c : Node} {α : Type}

/-! ### Credits -/

/-- The wallets and the journal. -/
abbrev Purse := List WalletRecord × List JournalEntry

def Node.purse (node : Node) : Purse := (node.wallets, node.journal)

/-- The wallet file with one balance set. -/
def setBalance (host : Host) (wallet : WalletRecord) (balance : Int)
    (wallets : List WalletRecord) : List WalletRecord :=
  Table.update WalletRecord.walletId wallet.walletId
    (fun _ => { wallet with spendableBalanceAtomic := balance }) (listWallets host wallets)

/-- The wallets are read, or one of them gets the amount of an entry that is no debit. -/
inductive CreditStep (host : Host) : Purse → Purse → Prop
  | read (wallets : List WalletRecord) (journal : List JournalEntry) :
      CreditStep host (wallets, journal) (listWallets host wallets, journal)
  | credit (wallets : List WalletRecord) (journal : List JournalEntry) (wallet : WalletRecord)
      (entry : JournalEntry) (hwallet : wallet ∈ wallets)
      (hevent : entry.eventType ≠ .validatorSettlementDebit) :
      CreditStep host (wallets, journal)
        (setBalance host wallet (wallet.spendableBalanceAtomic + entry.amountAtomic) wallets,
          journal ++ [entry])

/-- The purse moves by credits only. -/
abbrev Credits (host : Host) : Purse → Purse → Prop := Relation.ReflTransGen (CreditStep host)

/-- What a settlement takes, and from where. -/
structure Funding where
  settlementId : String
  sourceWalletId : String
  sourceWalletAddress : String
  sourceWalletDebitAtomic : Int
  reserveDebitAtomic : Int

def SettlementRecord.funding (item : SettlementRecord) : Funding where
  settlementId := item.settlementId
  sourceWalletId := item.sourceWalletId
  sourceWalletAddress := item.sourceWalletAddress
  sourceWalletDebitAtomic := item.sourceWalletDebitAtomic
  reserveDebitAtomic := item.reserveDebitAtomic

/-- The entry that the debit for a settlement leaves in the journal. -/
def debitEntry (moment : Moment) (item : Funding) (wallet : WalletRecord) :
    JournalEntry where
  eventType := .validatorSettlementDebit
  createdAt := moment.now.text
  walletId := wallet.walletId
  amountAtomic := max 0 item.sourceWalletDebitAtomic
  note := s!"Validator-applied debit for settlement {item.settlementId}."

/-- A wallet of the file loses the debit. -/
def DebitStep (host : Host) (moment : Moment) (item : Funding) (wallet : WalletRecord)
    (p q : Purse) : Prop :=
  wallet ∈ p.1 ∧ q = (setBalance host wallet
    (wallet.spendableBalanceAtomic - max 0 item.sourceWalletDebitAtomic) p.1,
      p.2 ++ [debitEntry moment item wallet])

/-- The debits in a journal. -/
def debitEntries (journal : List JournalEntry) : List JournalEntry :=
  journal.filter fun entry => entry.eventType = .validatorSettlementDebit

variable {host : Host} {policy : WalletPolicy}

/-- Credits are no debits. -/
theorem Credits.debitEntries_eq {p q : Purse} (h : Credits host p q) :
    debitEntries q.2 = debitEntries p.2 := by
  induction h with
  | refl => rfl
  | tail _ hstep ih =>
    rw [← ih]
    cases hstep with
    | read => rfl
    | credit _ _ _ entry _ hevent =>
      rw [debitEntries, List.filter_append, debitEntries, List.filter_cons_of_neg (by simpa)]
      simp

/-! ### Quiet actions -/

/-- The settlements, their votes and the ledger are left alone, and money is only credited. -/
structure Quiet (host : Host) (a b : Node) : Prop where
  settlements : b.settlements = a.settlements
  attestations : b.attestations = a.attestations
  ledger : b.ledger = a.ledger
  credits : Credits host a.purse b.purse

theorem Quiet.refl (a : Node) : Quiet host a a := ⟨rfl, rfl, rfl, .refl⟩

theorem Quiet.trans (h : Quiet host a b) (h' : Quiet host b c) : Quiet host a c :=
  ⟨h'.settlements.trans h.settlements, h'.attestations.trans h.attestations,
    h'.ledger.trans h.ledger, h.credits.trans h'.credits⟩

/-- An action that leaves these files alone is quiet. -/
theorem Quiet.of_same (hs : b.settlements = a.settlements)
    (ha : b.attestations = a.attestations) (hl : b.ledger = a.ledger)
    (hp : b.purse = a.purse) : Quiet host a b := by
  refine ⟨hs, ha, hl, ?_⟩
  rw [hp]

variable {node : Node} {moment : Moment}

theorem quiet_read : Quiet host node { node with wallets := listWallets host node.wallets } :=
  ⟨rfl, rfl, rfl, .single (.read _ _)⟩

theorem quiet_onChain (f : ChainFile → Written α) :
    Within (Quiet host) (onChain f) := fun _ => .of_same rfl rfl rfl rfl

theorem quiet_readBlocks :
    Within (Quiet host) (readBlocks host policy moment) := fun node => .refl node

theorem creditWallet_apply {wallet : WalletRecord} {entry : JournalEntry} :
    creditWallet host wallet entry node =
      if wallet.walletId ∈ (listWallets host node.wallets).map WalletRecord.walletId then
        (.ok (),
          { node with
            wallets := setBalance host wallet
              (wallet.spendableBalanceAtomic + entry.amountAtomic) node.wallets
            journal := node.journal ++ [entry] })
      else (.error (.valueError s!"Wallet '{wallet.walletId}' not found."),
        { node with wallets := listWallets host node.wallets }) := by
  rw [creditWallet]
  have hupdate := updateWallet_apply host
    { wallet with spendableBalanceAtomic := wallet.spendableBalanceAtomic + entry.amountAtomic }
    node
  split at hupdate
  · rw [if_pos ‹_›, bind_of_ok hupdate]
    rfl
  · rw [if_neg ‹_›, bind_of_error hupdate]

theorem quiet_creditWallet {wallet : WalletRecord} {entry : JournalEntry} {node : Node}
    (hwallet : wallet ∈ node.wallets) (hevent : entry.eventType ≠ .validatorSettlementDebit) :
    Quiet host node (creditWallet host wallet entry node).2 := by
  rw [creditWallet_apply]
  split
  · exact ⟨rfl, rfl, rfl, .single (.credit _ _ _ _ hwallet hevent)⟩
  · exact quiet_read

/-! ### Payments -/

/-- A lookup that is quiet and finds wallets of the file. -/
def Finds (host : Host) (x : NodeAction (Option WalletRecord)) : Prop :=
  ∀ node, Quiet host node (x node).2 ∧
    ∃ found, (x node).1 = .ok found ∧ ∀ wallet ∈ found, wallet ∈ (x node).2.wallets

theorem finds_findWalletById (walletId : String) : Finds host (findWalletById host walletId) :=
  fun _ => ⟨quiet_read, _, rfl, fun _ hwallet => Table.mem_of_find hwallet⟩

theorem finds_findWalletByAddress (address : String) :
    Finds host (findWalletByAddress host address) :=
  fun _ => ⟨quiet_read, _, rfl, fun _ hwallet => Table.mem_of_find hwallet⟩

/-- A lookup that goes on elsewhere when it has found nothing. -/
theorem Finds.orElse {x : NodeAction (Option WalletRecord)}
    {f : Option WalletRecord → NodeAction (Option WalletRecord)} (hx : Finds host x)
    (hnone : Finds host (f none)) (hsome : ∀ wallet, f (some wallet) = pure (some wallet)) :
    Finds host (x >>= f) := by
  intro node
  obtain ⟨hquiet, found, hfound, hmem⟩ := hx node
  have hbind : (x >>= f) node = f found (x node).2 := bind_of_ok (Prod.ext hfound rfl)
  rw [hbind]
  cases found with
  | none =>
    obtain ⟨hquiet', hfound'⟩ := hnone (x node).2
    exact ⟨hquiet.trans hquiet', hfound'⟩
  | some wallet =>
    rw [hsome]
    exact ⟨hquiet, some wallet, rfl, hmem⟩

theorem finds_none : Finds host (pure none) :=
  fun node => ⟨.refl node, none, rfl, fun _ hwallet => by cases hwallet⟩

variable (host) in
theorem finds_findAiDevelopmentWallet (settlement : SettlementRecord) :
    Finds host (findAiDevelopmentWallet host settlement) := by
  rw [findAiDevelopmentWallet]
  cases nonempty? settlement.aiDevelopmentWalletId with
  | none =>
    cases nonempty? settlement.aiDevelopmentAddress with
    | none => exact finds_none
    | some address => exact finds_findWalletByAddress address
  | some walletId =>
    refine (finds_findWalletById walletId).orElse ?_ fun _ => rfl
    cases nonempty? settlement.aiDevelopmentAddress with
    | none => exact finds_none
    | some address => exact finds_findWalletByAddress address

/-- A lookup followed by something quiet for what it finds is quiet. -/
theorem Finds.bind_quiet {x : NodeAction (Option WalletRecord)}
    {f : Option WalletRecord → NodeAction α} (hx : Finds host x)
    (hf : ∀ found node, (∀ wallet ∈ found, wallet ∈ node.wallets) →
      Quiet host node (f found node).2) : Within (Quiet host) (x >>= f) := by
  intro node
  obtain ⟨hquiet, found, hfound, hmem⟩ := hx node
  have hbind : (x >>= f) node = f found (x node).2 := bind_of_ok (Prod.ext hfound rfl)
  rw [hbind]
  exact hquiet.trans (hf found _ hmem)

/-- A credit of a wallet of the file, followed by something quiet, is quiet. -/
theorem quiet_creditWallet_bind {wallet : WalletRecord} {entry : JournalEntry}
    {f : Unit → NodeAction α} {node : Node} (hwallet : wallet ∈ node.wallets)
    (hevent : entry.eventType ≠ .validatorSettlementDebit) (hf : ∀ u, Within (Quiet host) (f u)) :
    Quiet host node ((creditWallet host wallet entry >>= f) node).2 := by
  have hquiet : Quiet host node _ := quiet_creditWallet hwallet hevent
  rcases bind_cases (creditWallet host wallet entry) f node with
    ⟨e, t, hcredit, hbind⟩ | ⟨u, t, hcredit, hbind⟩
  · rw [hbind]
    rwa [hcredit] at hquiet
  · rw [hbind]
    rw [hcredit] at hquiet
    exact hquiet.trans (hf u t)

theorem quiet_applyFinalizedAiDevelopmentFee (moment : Moment) (settlement : SettlementRecord) :
    Within (Quiet host) (applyFinalizedAiDevelopmentFee host moment settlement) := by
  rw [applyFinalizedAiDevelopmentFee]
  refine .ite (fun _ => .pure .refl _) fun _ => ?_
  apply (finds_findAiDevelopmentWallet host settlement).bind_quiet
  intro found node hfound
  cases found with
  | none => exact .refl node
  | some wallet =>
    exact quiet_creditWallet_bind (hfound wallet rfl) (by simp) fun _ => .pure .refl _

theorem quiet_applyFinalizedWorkerPayoutRecord {reconciled : Bool} {item : WorkerPayoutRecord} :
    Within (Quiet host) (applyFinalizedWorkerPayoutRecord host moment reconciled item) := by
  rw [applyFinalizedWorkerPayoutRecord]
  cases item.recipientAddress with
  | none => exact .pure .refl _
  | some address =>
    apply (finds_findWalletByAddress address).bind_quiet
    intro found node hfound
    cases found with
    | none => exact .refl node
    | some wallet =>
      dsimp only
      split
      · refine quiet_creditWallet_bind (hfound wallet rfl) (by simp) fun _ => ?_
        exact .bind .trans (fun node => .of_same rfl rfl rfl rfl) fun _ => .pure .refl _
      · exact .refl node

theorem quiet_applyFinalizedWorkerPayouts (moment : Moment) (settlementId : String) :
    Within (Quiet host) (applyFinalizedWorkerPayouts host moment settlementId) := by
  rw [applyFinalizedWorkerPayouts]
  apply Within.get_bind
  intro node
  refine Within.bind .trans (.each .refl .trans (fun item => ?_) _) (fun updated => ?_) node
  · rw [applyFinalizedWorkerPayout]
    refine .get_bind fun node => ?_
    split
    · exact .refl node
    · exact quiet_applyFinalizedWorkerPayoutRecord node
  · refine .ite (fun _ => ?_) fun _ => .pure .refl _
    exact .modify fun node => .of_same rfl rfl rfl rfl

theorem quiet_reconcileWorkerPayouts :
    Within (Quiet host) (reconcileWorkerPayouts host moment) := by
  rw [reconcileWorkerPayouts]
  apply Within.get_bind
  intro node
  refine Within.bind .trans (.each .refl .trans (fun item => ?_) _) (fun updated => ?_) node
  · rw [reconcileWorkerPayout]
    refine .get_bind fun node => ?_
    dsimp only
    split
    · exact .refl node
    cases node.resolveWorkerRewardAddress item.nodeId with
    | none => exact .refl node
    | some address =>
      dsimp only
      split
      · exact quiet_applyFinalizedWorkerPayoutRecord node
      · exact .refl node
  · refine .ite (fun _ => ?_) fun _ => .pure .refl _
    exact .modify fun node => .of_same rfl rfl rfl rfl

theorem quiet_recordChainEntriesForSettlement (money : MoneyPolicy)
    (settlement : SettlementRecord) (moment : Moment) :
    Within (Quiet host) (recordChainEntriesForSettlement host policy money settlement moment) := by
  rw [recordChainEntriesForSettlement]
  refine .ite (fun _ => .pure .refl _) fun _ => ?_
  refine .bind .trans (quiet_onChain _) fun _ => ?_
  refine .bind .trans quiet_readBlocks fun blocks => ?_
  refine .bind .trans (.lift .refl _) fun surplus => ?_
  refine .get_bind fun node => ?_
  apply Within.set_bind .trans (.of_same rfl rfl rfl rfl)
  exact .bind .trans (quiet_onChain _) fun _ => .pure .refl _

theorem quiet_recordChainEntriesForFinalizedSettlements {money : MoneyPolicy}
    {onlyIfChainRecorded : Bool} :
    Within (Quiet host) (recordChainEntriesForFinalizedSettlements host policy money moment
      onlyIfChainRecorded) := by
  rw [recordChainEntriesForFinalizedSettlements]
  refine .get_bind fun node => ?_
  refine Within.bind .trans (.each .refl .trans (fun settlement => ?_) _)
    (fun counts => .pure .refl _) node
  refine .ite (fun _ => ?_) fun _ => .pure .refl _
  refine .bind .trans quiet_readBlocks fun blocks => ?_
  refine .ite (fun _ => .pure .refl _) fun _ => ?_
  exact quiet_recordChainEntriesForSettlement money settlement moment

/-! ### Taking the funding -/

variable (host policy)

/-- The chain file after the genesis block is ensured. -/
def startedChain (money : MoneyPolicy) (moment : Moment) (file : ChainFile) : ChainFile :=
  (ensureChainGenesis host policy money moment file).2

/-- The blocks from which an application reads the balance of the reserve. -/
def reserveBlocks (money : MoneyPolicy) (moment : Moment) (node : Node) :
    Except PyError Chain :=
  listChainBlocks host policy moment.clock (startedChain host policy money moment node.chain)

/-- The blocks from which an application reads the balance of the source wallet: the genesis
block is ensured once for the ledger and once for the wallet. -/
def sourceBlocks (money : MoneyPolicy) (moment : Moment) (node : Node) :
    Except PyError Chain :=
  listChainBlocks host policy moment.clock (startedChain host policy money moment
    (startedChain host policy money moment node.chain))

/-- The source wallet of a settlement, if it is one of this node's. -/
def sourceWallet (item : Funding) (wallets : List WalletRecord) : Option WalletRecord :=
  match Table.find WalletRecord.walletId item.sourceWalletId (listWallets host wallets) with
  | some wallet => some wallet
  | none => Table.find (fun wallet => host.normalizeAddress wallet.address)
      (host.normalizeAddress item.sourceWalletAddress) (listWallets host (listWallets host wallets))

/-- How the debit of a settlement is taken from its source wallet. -/
inductive WalletTaken (blocks : Except PyError Chain) (moment : Moment)
    (item : Funding) (a b : Purse) : Prop
  /-- There is nothing to take. -/
  | nothing (hdebit : item.sourceWalletDebitAtomic ≤ 0) (hcredits : Credits host a b)
  /-- The wallet is not one of this node's, and its chain balance covers the debit. -/
  | elsewhere (chain : Chain) (hdebit : 0 < item.sourceWalletDebitAtomic)
      (hblocks : blocks = .ok chain) (hsource : sourceWallet host item a.1 = none)
      (hcovered : item.sourceWalletDebitAtomic ≤
        chainBalanceAtomic host chain item.sourceWalletAddress)
      (hcredits : Credits host a b)
  /-- The wallet is one of this node's, and its balance falls by the debit. -/
  | here (wallet : WalletRecord) (p q : Purse) (hdebit : 0 < item.sourceWalletDebitAtomic)
      (hsource : sourceWallet host item a.1 = some wallet)
      (hcovered : item.sourceWalletDebitAtomic ≤ wallet.spendableBalanceAtomic)
      (hbefore : Credits host a p) (htaken : DebitStep host moment item wallet p q)
      (hafter : Credits host q b)

/-- The source wallet is one of this node's, and no transaction of the chain names it or its
balance is not the one on the chain. -/
def SourceUnbacked (blocks : Except PyError Chain) (item : Funding)
    (wallets : List WalletRecord) : Prop :=
  ∃ chain wallet, 0 < item.sourceWalletDebitAtomic ∧ blocks = .ok chain ∧
    sourceWallet host item wallets = some wallet ∧
    (hasChainActivityForAddress host chain wallet.address = false ∨
      wallet.spendableBalanceAtomic ≠ chainBalanceAtomic host chain wallet.address)

variable {host policy}

variable (host) in
theorem findSourceWallet_apply (item : SettlementRecord) (node : Node) :
    ∃ wallets, findSourceWallet host item node =
        (.ok (sourceWallet host item.funding node.wallets), { node with wallets }) ∧
      (∀ wallet ∈ sourceWallet host item.funding node.wallets, wallet ∈ wallets) ∧
      Credits host node.purse (wallets, node.journal) := by
  rw [sourceWallet, findSourceWallet, bind_of_ok findWalletById_apply]
  have hid : item.funding.sourceWalletId = item.sourceWalletId := rfl
  rw [hid]
  cases hfind : Table.find WalletRecord.walletId item.sourceWalletId
      (listWallets host node.wallets) with
  | none => exact ⟨_, rfl, fun _ hwallet => Table.mem_of_find hwallet,
      (Relation.ReflTransGen.single (.read _ _)).tail (.read _ _)⟩
  | some wallet =>
    refine ⟨_, rfl, fun _ hwallet => ?_, .single (.read _ _)⟩
    cases hwallet
    exact Table.mem_of_find hfind

/-- Creating the genesis block and reading the blocks. -/
theorem ensure_read_cases (money : MoneyPolicy) (moment : Moment)
    (f : Chain → NodeAction α) (node : Node) : (∃ e, (do
        let _ ← onChain (ensureChainGenesis host policy money moment)
        let blocks ← readBlocks host policy moment
        f blocks : NodeAction α) node =
      (.error e, { node with chain := startedChain host policy money moment node.chain })) ∨
    ∃ blocks, reserveBlocks host policy money moment node = .ok blocks ∧ (do
        let _ ← onChain (ensureChainGenesis host policy money moment)
        let blocks ← readBlocks host policy moment
        f blocks : NodeAction α) node =
      f blocks { node with chain := startedChain host policy money moment node.chain } := by
  have hchain : onChain (ensureChainGenesis host policy money moment) node =
      ((ensureChainGenesis host policy money moment node.chain).1,
        { node with chain := startedChain host policy money moment node.chain }) := rfl
  rcases hensure : (ensureChainGenesis host policy money moment node.chain).1 with e | n
  · rw [hensure] at hchain
    exact .inl ⟨e, bind_of_error hchain⟩
  · rw [hensure] at hchain
    rw [bind_of_ok hchain]
    rcases hread : reserveBlocks host policy money moment node with e | blocks
    · exact .inl ⟨e, bind_of_error (Prod.ext hread rfl)⟩
    · exact .inr ⟨blocks, rfl, bind_of_ok (Prod.ext hread rfl)⟩

theorem WalletTaken.credits {blocks : Except PyError Chain} {moment : Moment}
    {item : Funding} {a b c : Purse} (h : WalletTaken host blocks moment item a b)
    (hbc : Credits host b c) : WalletTaken host blocks moment item a c := by
  cases h with
  | nothing hdebit hcredits => exact .nothing hdebit (hcredits.trans hbc)
  | elsewhere chain hdebit hblocks hsource hcovered hcredits =>
    exact .elsewhere chain hdebit hblocks hsource hcovered (hcredits.trans hbc)
  | here wallet p q hdebit hsource hcovered hbefore htaken hafter =>
    exact .here wallet p q hdebit hsource hcovered hbefore htaken (hafter.trans hbc)

/-- The settlements, the votes and the ledger are left alone. -/
def KeepsBooks (a b : Node) : Prop :=
  b.settlements = a.settlements ∧ b.attestations = a.attestations ∧ b.ledger = a.ledger

/-- **What the debit of the source wallet can do.** -/
theorem debitSourceWallet_cases (money : MoneyPolicy) (moment : Moment) (item : SettlementRecord)
    (node : Node) :
    (∃ e node', debitSourceWallet host policy money moment item node = (.error e, node') ∧
      Quiet host node node') ∨
    ∃ moved node', debitSourceWallet host policy money moment item node = (.ok moved, node') ∧
      KeepsBooks node node' ∧
      (WalletTaken host (reserveBlocks host policy money moment node) moment item.funding
          node.purse node'.purse ∨
        SourceUnbacked host (reserveBlocks host policy money moment node) item.funding
          node.wallets) := by
  rw [debitSourceWallet]
  dsimp only
  by_cases hdebit : max 0 item.sourceWalletDebitAtomic ≤ 0
  · rw [if_pos hdebit]
    have hnothing : item.funding.sourceWalletDebitAtomic ≤ 0 := le_trans (le_max_right _ _) hdebit
    exact .inr ⟨none, node, rfl, ⟨rfl, rfl, rfl⟩, .inl (.nothing hnothing .refl)⟩
  have hpos : 0 < item.sourceWalletDebitAtomic := by omega
  rw [if_neg hdebit]
  -- the wallet is looked up, and the chain is read
  obtain ⟨wallets, hfind, hmem, hread⟩ := findSourceWallet_apply host item node
  rw [bind_of_ok hfind]
  rcases ensure_read_cases money moment _ { node with wallets } with
    ⟨e, hensure⟩ | ⟨blocks, hblocks, hensure⟩
  · rw [hensure]
    exact .inl ⟨e, _, rfl, rfl, rfl, rfl, hread⟩
  rw [hensure]
  clear hensure
  cases hsource : sourceWallet host item.funding node.wallets with
  | none =>
    dsimp only
    split
    next => exact .inl ⟨_, _, rfl, rfl, rfl, rfl, hread⟩
    next hcovered =>
      refine .inr ⟨_, _, rfl, ⟨rfl, rfl, rfl⟩, .inl ?_⟩
      exact .elsewhere blocks hpos hblocks hsource
        (le_trans (le_max_right _ _) (not_lt.mp hcovered)) hread
  | some wallet =>
    dsimp only
    split
    next hactive =>
      exact .inr ⟨_, _, rfl, ⟨rfl, rfl, rfl⟩,
        Or.inr ⟨blocks, wallet, hpos, hblocks, hsource, .inl hactive⟩⟩
    next =>
    split
    next => exact .inl ⟨_, _, rfl, rfl, rfl, rfl, hread⟩
    next hcovered =>
      -- the new balance is written, then the journal entry
      have hupdate := updateWallet_apply host
        { wallet with
          spendableBalanceAtomic := chainBalanceAtomic host blocks wallet.address -
            max 0 item.sourceWalletDebitAtomic }
        { node with
          wallets
          chain := startedChain host policy money moment node.chain }
      split at hupdate
      · rw [bind_of_ok hupdate]
        refine .inr ⟨_, _, rfl, ⟨rfl, rfl, rfl⟩, ?_⟩
        by_cases hbacked : wallet.spendableBalanceAtomic =
          chainBalanceAtomic host blocks wallet.address
        · rw [← hbacked] at hcovered ⊢
          exact .inl (.here wallet (wallets, node.journal) _ hpos hsource
            (le_trans (le_max_right _ _) (not_lt.mp hcovered)) hread
            ⟨hmem wallet hsource, rfl⟩ .refl)
        · exact .inr ⟨blocks, wallet, hpos, hblocks, hsource, .inr hbacked⟩
      · rw [bind_of_error hupdate]
        exact .inl ⟨_, _, rfl, rfl, rfl, rfl, hread.tail (.read _ _)⟩

/-! ### Funding a settlement -/

variable (host policy)

/-- The balance of the reserve in the ledger, or in the one that would be created. -/
def Node.reserve (money : MoneyPolicy) (node : Node) : Int :=
  (node.ledger.map LedgerState.computeReserveBalanceAtomic).getD
    (atomicOfCoins money.computeReserveCoins money.decimals)

/-- The funding of a settlement is taken: the reserve falls by its debit, and the debit of the
source wallet is taken. -/
structure FundingTaken (money : MoneyPolicy) (moment : Moment) (item : Funding)
    (a b : Node) : Prop where
  reserve : ∃ ledger, b.ledger = some ledger ∧ max 0 item.reserveDebitAtomic ≤ a.reserve money ∧
    ledger.computeReserveBalanceAtomic = a.reserve money - max 0 item.reserveDebitAtomic
  wallet : WalletTaken host (sourceBlocks host policy money moment a) moment item a.purse b.purse

/-- The reserve or the source wallet of a settlement has another balance than on the chain. -/
def Unbacked (money : MoneyPolicy) (moment : Moment) (item : Funding) (node : Node) : Prop :=
  (∃ blocks, reserveBlocks host policy money moment node = .ok blocks ∧ node.reserve money ≠
      chainBalanceAtomic host blocks (computeReserveChainAddress host money)) ∨
    SourceUnbacked host (sourceBlocks host policy money moment node) item node.wallets

/-- Nothing is taken: a ledger that is there stays, and money is only credited. -/
structure NothingTaken (a b : Node) : Prop where
  ledger : ∀ ledger, a.ledger = some ledger → b.ledger = some ledger
  credits : Credits host a.purse b.purse

variable {host policy}

theorem NothingTaken.refl (a : Node) : NothingTaken host a a := ⟨fun _ h => h, .refl⟩

theorem NothingTaken.trans (h : NothingTaken host a b)
    (h' : NothingTaken host b c) : NothingTaken host a c :=
  ⟨fun ledger hl => h'.ledger ledger (h.ledger ledger hl), h.credits.trans h'.credits⟩

theorem Quiet.nothingTaken (h : Quiet host a b) : NothingTaken host a b :=
  ⟨fun _ hl => h.ledger.trans hl, h.credits⟩

theorem FundingTaken.nothingTaken {money : MoneyPolicy} {moment : Moment} {item : Funding}
    (h : FundingTaken host policy money moment item a b)
    (hbc : NothingTaken host b c) : FundingTaken host policy money moment item a c := by
  refine ⟨?_, h.wallet.credits hbc.credits⟩
  obtain ⟨ledger, hledger, hreserve⟩ := h.reserve
  exact ⟨ledger, hbc.ledger ledger hledger, hreserve⟩

/-- The amounts that an audit quotes can be read. -/
def AuditReadable (host : Host) (item : SettlementRecord) : Prop :=
  ∀ reserveBefore reserveAfter moved, ∃ applied,
    appliedSection host (Json.getD item.balanceAudit "quote") (Json.getD item.balanceAudit "debits")
      reserveBefore reserveAfter moved = .ok applied

/-- An application adds one section to the audit. -/
theorem withAppliedBalanceAudit_eq_ok {item : SettlementRecord} {before after : Int}
    {moved : Option (Int × Int)} {audit : Fields}
    (h : withAppliedBalanceAudit host item before after moved = .ok audit) :
    ∃ applied, audit = Json.set item.balanceAudit "applied" applied := by
  obtain ⟨applied, -, hset⟩ := bind_eq_ok.mp h
  exact ⟨applied, (pure_eq_ok.mp hset).symm⟩

theorem AuditReadable.withAppliedBalanceAudit {item : SettlementRecord}
    (h : AuditReadable host item) (before after : Int) (moved : Option (Int × Int)) :
    ∃ audit, withAppliedBalanceAudit host item before after moved = .ok audit := by
  obtain ⟨applied, happlied⟩ := h before after moved
  exact ⟨_, bind_eq_ok.mpr ⟨applied, happlied, rfl⟩⟩

/-- The record of a settlement that was applied. -/
def SettlementRecord.markedApplied (item : SettlementRecord) (moment : Moment)
    (validatorId : Option String) (audit : Fields) : SettlementRecord :=
  { item with
    appliedAt := some moment.now
    appliedByValidatorId := validatorId
    status := .applied
    balanceAudit := audit }

theorem loadOrCreateLedger_apply (money : MoneyPolicy) (node : Node) :
    ∃ ledger, loadOrCreateLedger money node = (.ok ledger, { node with ledger := some ledger }) ∧
      ∀ l, node.ledger = some l → l = ledger := by
  rcases node with ⟨chain, records, wallets, unlocked, ledger, journal, settlements, attestations,
    payouts, rewardAddresses, creditedPayouts⟩
  cases ledger with
  | none => exact ⟨_, rfl, fun l h => by cases h⟩
  | some ledger => exact ⟨ledger, rfl, fun l h => (Option.some.inj h).symm⟩

theorem chainBackedLedgerSnapshot_cases (money : MoneyPolicy) (moment : Moment)
    (stored : LedgerState) (node : Node) :
    (∃ e, chainBackedLedgerSnapshot host policy money moment stored node =
      (.error e, { node with chain := startedChain host policy money moment node.chain })) ∨
    ∃ blocks ledger, reserveBlocks host policy money moment node = .ok blocks ∧
      ledger.computeReserveBalanceAtomic =
        chainBalanceAtomic host blocks (computeReserveChainAddress host money) ∧
      chainBackedLedgerSnapshot host policy money moment stored node =
        (.ok ledger, { node with chain := startedChain host policy money moment node.chain }) := by
  rw [chainBackedLedgerSnapshot]
  rcases ensure_read_cases money moment _ node with ⟨e, hensure⟩ | ⟨blocks, hblocks, hensure⟩
  · exact .inl ⟨e, hensure⟩
  · exact .inr ⟨blocks, _, hblocks, rfl, hensure⟩

/-- **What funding a settlement can do.**  It fails and leaves the settlements and their votes
alone, or it marks the settlement after it took the funding; only a settlement whose audit cannot
be read is left unmarked after something was taken, and only balances that are not those of the
chain can change otherwise. -/
theorem fundSettlement_cases (money : MoneyPolicy) (moment : Moment) (validatorId : Option String)
    (item : SettlementRecord) (node : Node) :
    (∃ e node', fundSettlement host policy money moment validatorId item node = (.error e, node') ∧
      node'.settlements = node.settlements ∧ node'.attestations = node.attestations ∧
      (AuditReadable host item → NothingTaken host node node')) ∨
    ∃ audit mid, fundSettlement host policy money moment validatorId item node =
        (.ok (item.markedApplied moment validatorId audit),
          mid.saveSettlement (item.markedApplied moment validatorId audit)) ∧
      mid.settlements = node.settlements ∧ mid.attestations = node.attestations ∧
      (∃ applied, audit = Json.set item.balanceAudit "applied" applied) ∧
      (FundingTaken host policy money moment item.funding node mid ∨
        Unbacked host policy money moment item.funding node) := by
  rw [fundSettlement]
  obtain ⟨stored, hload, hstored⟩ := loadOrCreateLedger_apply money node
  rw [bind_of_ok hload]
  -- a step that leaves the ledger as it was loaded has taken nothing
  have hloaded : ∀ {node' : Node}, node'.ledger = some stored →
      Credits host node.purse node'.purse → NothingTaken host node node' :=
    fun hledger hcredits => ⟨fun l hl => by rw [hledger, hstored l hl], hcredits⟩
  rcases chainBackedLedgerSnapshot_cases money moment stored
    { node with ledger := some stored } with
    ⟨e, hsnapshot⟩ | ⟨blocks, ledger, hblocks, hreserve, hsnapshot⟩
  · rw [bind_of_error hsnapshot]
    exact .inl ⟨e, _, rfl, rfl, rfl, fun _ => hloaded rfl .refl⟩
  rw [bind_of_ok hsnapshot]
  dsimp only
  split
  next => exact .inl ⟨_, _, rfl, rfl, rfl, fun _ => hloaded rfl .refl⟩
  next hcovered =>
  rcases debitSourceWallet_cases money moment item
      { node with
        ledger := some stored
        chain := startedChain host policy money moment node.chain } with
    ⟨e, node', hdebit, hquiet⟩ | ⟨moved, node', hdebit, hbooks, htaken⟩
  · rw [bind_of_error hdebit]
    exact .inl ⟨e, node', rfl, hquiet.settlements, hquiet.attestations,
      fun _ => hloaded hquiet.ledger hquiet.credits⟩
  rw [bind_of_ok hdebit]
  -- the new ledger is written; what is left can only fail to read the audit
  obtain ⟨hsettlements, hattestations, -⟩ := hbooks
  have hsave : ∀ ledger : LedgerState, saveLedger ledger node' =
      (.ok (), { node' with ledger := some ledger }) := fun _ => rfl
  rw [bind_of_ok (hsave _)]
  rcases haudit : withAppliedBalanceAudit host item ledger.computeReserveBalanceAtomic
      (ledger.funded host item).computeReserveBalanceAtomic moved with e | audit
  · rw [bind_of_error (lift_apply _)]
    refine .inl ⟨e, _, rfl, hsettlements, hattestations, fun hreadable => ?_⟩
    obtain ⟨audit, hok⟩ := hreadable.withAppliedBalanceAudit ledger.computeReserveBalanceAtomic
      (ledger.funded host item).computeReserveBalanceAtomic moved
    rw [hok] at haudit
    cases haudit
  · rw [bind_of_ok (lift_apply _)]
    refine .inr ⟨audit, { node' with ledger := some (ledger.funded host item) }, rfl,
      hsettlements, hattestations, withAppliedBalanceAudit_eq_ok haudit, ?_⟩
    rcases htaken with htaken | hunbacked
    · by_cases hbacked : node.reserve money = ledger.computeReserveBalanceAtomic
      · exact .inl ⟨⟨_, rfl, hbacked ▸ not_lt.mp hcovered, hbacked ▸ rfl⟩, htaken⟩
      · exact .inr (.inl ⟨blocks, hblocks, hreserve ▸ hbacked⟩)
    · exact .inr (.inr hunbacked)

end CaiNetwork
