/-
CaiNetwork/Validator/Bonds.lean

Bonds on the chain (`node_config.py`, `validators.py`).

Locking a bond moves coins from a wallet to the bond pool, releasing or slashing it moves them
back or on to the slash pool.  The locked bonds are the sums of these transactions; they count only
while they add up to the balance of the pool, so one stray coin in the pool hides every bond.

`Backed` says that they do add up.  A block keeps it when it moves the pool by as much as the
locked bonds (`Backed.append`), and under it the readers of the index see the plain sums
(`Backed.get_chainLockedBondsByValidator`, `BondedChain.bondBackedBy_eq`).
-/

import CaiNetwork.ChainRuns
import CaiNetwork.Settlement.Records

namespace CaiNetwork

open List

variable (host : Host) (policy : WalletPolicy)

variable {tx : ChainTransaction} {v : String} {delta : Int} {txs : List ChainTransaction}
  {e : String × Int} {wallet : WalletRecord}

/-! ### What transactions move -/

/-- What the transactions add to the balance of an address. -/
def credited (address : String) (txs : List ChainTransaction) : Int :=
  ((txs.filter fun tx => host.normalizeAddress tx.address = address).map
    ChainTransaction.deltaAtomic).sum

/-- What the transactions add to the locked bond of a validator. -/
def lockedOf (validatorId : String) (txs : List ChainTransaction) : Int :=
  (((txs.filterMap (lockedBondEntry host)).filter fun e => e.1 = validatorId).map Prod.snd).sum

/-- What the transactions add to the locked bonds together. -/
def lockedTotal (txs : List ChainTransaction) : Int :=
  ((txs.filterMap (lockedBondEntry host)).map Prod.snd).sum

section Moves

variable {host policy}

variable {address : String} {more : List ChainTransaction}

@[simp] theorem credited_nil : credited host address [] = 0 := rfl

@[simp] theorem lockedOf_nil {validatorId : String} : lockedOf host validatorId [] = 0 := rfl

@[simp] theorem lockedTotal_nil : lockedTotal host [] = 0 := rfl

@[simp] theorem credited_cons :
    credited host address (tx :: txs) =
      (if host.normalizeAddress tx.address = address then tx.deltaAtomic else 0) +
        credited host address txs := by
  rw [credited, credited, filter_cons]
  split
  next h => rw [if_pos (of_decide_eq_true h), map_cons, sum_cons]
  next h => rw [if_neg (fun heq => h (decide_eq_true heq)), zero_add]

theorem credited_append : credited host address (txs ++ more) =
      credited host address txs + credited host address more := by
  rw [credited, filter_append, map_append, sum_append]
  rfl

theorem lockedOf_append {validatorId : String} : lockedOf host validatorId (txs ++ more) =
      lockedOf host validatorId txs + lockedOf host validatorId more := by
  rw [lockedOf, filterMap_append, filter_append, map_append, sum_append]
  rfl

theorem lockedTotal_append :
    lockedTotal host (txs ++ more) = lockedTotal host txs + lockedTotal host more := by
  rw [lockedTotal, filterMap_append, map_append, sum_append]
  rfl

/-- A transaction that is no bond transaction, or moves nothing. -/
theorem locked_cons_none (h : lockedBondEntry host tx = none)
    (validatorId : String) (txs : List ChainTransaction) :
    lockedOf host validatorId (tx :: txs) = lockedOf host validatorId txs ∧
      lockedTotal host (tx :: txs) = lockedTotal host txs := by
  rw [lockedOf, lockedTotal, filterMap_cons_none h]
  exact ⟨rfl, rfl⟩

theorem locked_cons_some (h : lockedBondEntry host tx = some (v, delta)) (validatorId : String)
    (txs : List ChainTransaction) : lockedOf host validatorId (tx :: txs) =
        (if v = validatorId then delta else 0) + lockedOf host validatorId txs ∧
      lockedTotal host (tx :: txs) = delta + lockedTotal host txs := by
  rw [lockedOf, lockedTotal, filterMap_cons_some h, filter_cons]
  refine ⟨?_, by rw [map_cons, sum_cons]; rfl⟩
  by_cases hv : v = validatorId
  · rw [if_pos (decide_eq_true hv), if_pos hv, map_cons, sum_cons]
    rfl
  · rw [if_neg (by simpa using hv), if_neg hv, zero_add]
    rfl

/-- Transactions of other types lock nothing. -/
theorem locked_eq_zero
    (h : ∀ tx ∈ txs, tx.txType ∉ ["validator_bond_lock", "validator_bond_pool_debit"])
    (validatorId : String) : lockedOf host validatorId txs = 0 ∧ lockedTotal host txs = 0 := by
  have hnone : txs.filterMap (lockedBondEntry host) = [] := by
    rw [filterMap_eq_nil_iff]
    intro tx htx
    rw [lockedBondEntry, if_neg (h tx htx)]
  rw [lockedOf, lockedTotal, hnone]
  exact ⟨rfl, rfl⟩

/-! ### The indexes of a well-formed chain -/

variable {blocks : Chain}

section Sums

variable (h : WellFormed host policy blocks)
include h

theorem WellFormed.get_balance (address : String) :
    Tally.get address (chainBalanceIndex host blocks) =
      credited host address (allTransactions blocks) :=
  h.balance_eq address

theorem WellFormed.lockedIndex_eq : validatorLockedBondIndex host blocks =
      Tally.ofEntries ((allTransactions blocks).filterMap (lockedBondEntry host)) :=
  Tally.tallyOnce_of_nodup _ _ h.txId_nodup

theorem WellFormed.get_locked {validatorId : String} :
    Tally.get validatorId (validatorLockedBondIndex host blocks) =
      lockedOf host validatorId (allTransactions blocks) := by
  rw [h.lockedIndex_eq, Tally.get_ofEntries]
  rfl

theorem WellFormed.total_locked : Tally.total (validatorLockedBondIndex host blocks) =
      lockedTotal host (allTransactions blocks) := by
  rw [h.lockedIndex_eq, Tally.total_ofEntries]
  rfl

/-- The validators of the index are named by its transactions. -/
theorem WellFormed.mem_lockedIndex (he : e ∈ validatorLockedBondIndex host blocks) :
    ∃ tx ∈ allTransactions blocks, ∃ delta, lockedBondEntry host tx = some (e.1, delta) := by
  have hkey : e.1 ∈ (validatorLockedBondIndex host blocks).map Prod.fst := mem_map_of_mem he
  rw [h.lockedIndex_eq, Tally.mem_keys_ofEntries] at hkey
  obtain ⟨⟨v, delta⟩, hentry, hv⟩ := mem_map.mp hkey
  obtain ⟨tx, htx, heq⟩ := mem_filterMap.mp hentry
  exact ⟨tx, htx, delta, heq.trans (by rw [← hv])⟩

end Sums

theorem validatorId_of_lockedBondEntry (h : lockedBondEntry host tx = some (v, delta)) :
    validatorIdFromBondMetadata host tx = some v := by
  rw [lockedBondEntry] at h
  split at h
  swap
  · cases h
  cases hid : validatorIdFromBondMetadata host tx with
  | none =>
    rw [hid] at h
    cases h
  | some id =>
    rw [hid] at h
    dsimp only at h
    generalize (if tx.txType = "validator_bond_lock" then max 0 (-tx.deltaAtomic)
      else tx.deltaAtomic) = moved at h
    split at h
    · cases h
    · rw [Option.some.injEq, Prod.mk.injEq] at h
      rw [h.1]

theorem lockedBondEntry_ne_empty (h : lockedBondEntry host tx = some (v, delta)) : v ≠ "" := by
  have hid := validatorId_of_lockedBondEntry h
  rw [validatorIdFromBondMetadata] at hid
  split at hid
  · cases hid
  · exact ne_empty_of_nonempty? hid

theorem credited_eq_zero {address : String}
    (h : ∀ tx ∈ txs, host.normalizeAddress tx.address ≠ address) :
    credited host address txs = 0 := by
  have hnone : txs.filter (fun tx => host.normalizeAddress tx.address = address) = [] := by
    rw [filter_eq_nil_iff]
    intro tx htx
    rw [decide_eq_true_eq]
    exact h tx htx
  rw [credited, hnone]
  rfl

theorem lockedOf_ne_zero (h : lockedOf host v txs ≠ 0) :
    ∃ tx ∈ txs, ∃ delta, lockedBondEntry host tx = some (v, delta) := by
  by_contra hno
  apply h
  have hnone : (txs.filterMap (lockedBondEntry host)).filter (fun e => e.1 = v) = [] := by
    rw [filter_eq_nil_iff]
    rintro ⟨v', delta⟩ hentry
    obtain ⟨tx, htx, heq⟩ := mem_filterMap.mp hentry
    rw [decide_eq_true_eq]
    rintro rfl
    exact hno ⟨tx, htx, delta, heq⟩
  rw [lockedOf, hnone]
  rfl

end Moves

/-! ### Reading the indexes -/

/-- `validator_locked_bond_index(policy)`, as the index file gives it back. -/
def validatorLockedBonds (blocks : Chain) : Tally String :=
  intMapping host ((validatorLockedBondIndex host blocks).insertionSort entryLe)

/-- The address of the bond pool of the policy's network. -/
def bondPool : String := validatorBondPoolChainAddress host (moneyPolicyForWalletPolicy host policy)

/-- The address of the slash pool of the policy's network. -/
def slashPool : String :=
  validatorSlashPoolChainAddress host (moneyPolicyForWalletPolicy host policy)

/-- A check of `_validator_bond_lock_exists` on one transaction; a validator id that is no text
has no `strip`. -/
def isBondLockOf (wallet : WalletRecord) (validatorId : String) (tx : ChainTransaction) :
    Except PyError Bool :=
  if tx.txType ≠ "validator_bond_lock" then .ok false
  else if host.normalizeAddress tx.address ≠ host.normalizeAddress wallet.address then .ok false
  else if host.strOrEmpty (Json.getD tx.metadata "validator_wallet_id") ≠ wallet.walletId then
    .ok false
  else
    match (Json.getD tx.metadata "validator_id").pyOr (.str "") with
    | .str s => .ok (host.normalizeAddress s = validatorId)
    | _ => .error .attributeError

/-- `_validator_bond_lock_exists`, over the transactions of the chain. -/
def validatorBondLockExists (wallet : WalletRecord) (validatorId : String) :
    List ChainTransaction → Except PyError Bool
  | [] => .ok false
  | tx :: txs => do
    if ← isBondLockOf host wallet validatorId tx then return true
    else validatorBondLockExists wallet validatorId txs

/-- The id under which a configured validator's bond is locked. -/
def ValidatorConfig.validatorId (config : ValidatorConfig) (wallet : WalletRecord) : String :=
  host.normalizeAddress ((nonempty? config.address).getD wallet.address)

/-- What `_validator_bond_is_chain_backed` asks of the blocks of the file. -/
def bondBackedBy (money : MoneyPolicy) (wallet : WalletRecord) (config : ValidatorConfig)
    (blocks : Chain) : Except PyError Bool := do
  let validatorId := config.validatorId host wallet
  let locked := validatorLockedBonds host blocks
  let totalLocked := (locked.map fun e => max 0 e.2).sum
  if blocks.isEmpty then return false
  let lockExists ← validatorBondLockExists host wallet validatorId (allTransactions blocks)
  return lockExists && decide (max 0 (Tally.get validatorId locked) ≥ max 0 config.bondAtomic) &&
    decide (chainBalanceAtomic host blocks (validatorBondPoolChainAddress host money) = totalLocked)

/-- `_validator_bond_is_chain_backed`. -/
def validatorBondIsChainBacked (moment : Moment) (money : MoneyPolicy) (wallet : WalletRecord)
    (config : ValidatorConfig) : NodeAction Bool := do
  if max 0 config.bondAtomic ≤ 0 then return false
  let blocks ← readBlocks host policy moment
  Action.lift (bondBackedBy host money wallet config blocks)

section Readers

variable {host policy} {blocks : Chain}

/-- An index with keys in normal form is read back as it is, but for the empty key. -/
theorem intMapping_of_normal {t : Tally String} (hnormal : ∀ e ∈ t, NormalAddress host e.1)
    (hnd : (t.map Prod.fst).Nodup) : intMapping host t = t.filter fun e => e.1 ≠ "" := by
  have hset : intMapping host t =
      t.foldl (fun t e => if e.1 ≠ "" then Tally.set e.1 e.2 t else t) [] := by
    apply foldl_ext
    intro acc e he
    rw [hnormal e he]
    by_cases hempty : e.1 = "" <;> simp [hempty]
  have hnd' : ((([] : Tally String) ++ t.filter fun e => e.1 ≠ "").map Prod.fst).Nodup := by
    rw [nil_append]
    exact (filter_sublist.map Prod.fst).nodup hnd
  have hfilter := Tally.foldl_set_of_nodup hnd'
  rw [foldl_filter, nil_append] at hfilter
  rw [hset, ← hfilter]
  simp only [decide_eq_true_eq]

theorem keys_nodup_sorted {t : Tally String} (hnd : (t.map Prod.fst).Nodup) :
    ((t.insertionSort entryLe).map Prod.fst).Nodup :=
  ((perm_insertionSort entryLe t).map Prod.fst).nodup_iff.mpr hnd

/-- **The balance the index file gives** is the sum of the transactions. -/
theorem chainBalanceAtomic_eq (hwell : WellFormed host policy blocks)
    (hstable : StableChain host blocks) {address : String} (hnormal : NormalAddress host address)
    (hne : address ≠ "") :
    chainBalanceAtomic host blocks address = credited host address (allTransactions blocks) := by
  have hnd := keys_nodup_chainBalanceIndex host blocks
  have hkeys : ∀ e ∈ (chainBalanceIndex host blocks).insertionSort entryLe,
      NormalAddress host e.1 := by
    intro e he
    have hkey : e.1 ∈ (chainBalanceIndex host blocks).map Prod.fst :=
      mem_map_of_mem ((mem_insertionSort entryLe).mp he)
    rw [chainBalanceIndex, Tally.tallyOnce_of_nodup _ _ hwell.txId_nodup,
      Tally.mem_keys_ofEntries] at hkey
    obtain ⟨e', hentry, heq⟩ := mem_map.mp hkey
    obtain ⟨tx, htx, hsome⟩ := mem_filterMap.mp hentry
    cases hsome
    obtain ⟨b, hb, htxb⟩ := mem_flatMap.mp htx
    have haddress : NormalAddress host tx.address := by
      have hreread := congrArg ChainTransaction.address (hstable b hb tx htxb)
      exact hreread
    rw [← heq]
    show NormalAddress host (host.normalizeAddress tx.address)
    rw [haddress]
    exact haddress
  have hread : (intMapping host ((chainBalanceIndex host blocks).insertionSort entryLe)) =
      ((chainBalanceIndex host blocks).insertionSort entryLe).filter fun e => e.1 ≠ "" :=
    intMapping_of_normal hkeys (keys_nodup_sorted hnd)
  rw [chainBalanceAtomic, hread, hnormal, Tally.get_filter_ne hne,
    ← Tally.get_perm (perm_insertionSort entryLe _).symm hnd]
  exact hwell.get_balance address

end Readers

/-! ### Chains whose bonds add up -/

/-- A lock or a pool debit names its validator by an address in normal form. -/
structure NamesValidator (tx : ChainTransaction) : Prop where
  text : tx.txType = "validator_bond_lock" →
    ∃ s, (Json.getD tx.metadata "validator_id").pyOr (.str "") = .str s
  normal : ∀ v delta, lockedBondEntry host tx = some (v, delta) → NormalAddress host v

/-- The locked bonds add up to the balance of the bond pool. -/
structure Backed (blocks : Chain) : Prop where
  names : ∀ tx ∈ allTransactions blocks, NamesValidator host tx
  pool : credited host (bondPool host policy) (allTransactions blocks) =
    lockedTotal host (allTransactions blocks)

/-- The file holds a valid chain that has begun, and its bonds add up. -/
structure BondedChain (file : ChainFile) (blocks : Chain) : Prop
    extends Persisted host policy file blocks, Backed host policy blocks where
  started : blocks ≠ []

section Backed

variable {host policy} {file : ChainFile} {blocks : Chain}

variable (host) in
/-- A credit, which is no entry among the locked bonds. -/
theorem namesValidator_credit
    (htype : tx.txType ∉ ["validator_bond_lock", "validator_bond_pool_debit"]) :
    lockedBondEntry host tx = none ∧ NamesValidator host tx := by
  have hnone : lockedBondEntry host tx = none := if_neg htype
  refine ⟨hnone, ?_, ?_⟩
  · intro hlock
    rw [hlock] at htype
    exact absurd mem_cons_self htype
  · intro v delta h
    rw [hnone] at h
    cases h

theorem allTransactions_concat (blocks : Chain) (block : ChainBlock) :
    allTransactions (blocks ++ [block]) = allTransactions blocks ++ block.transactions := by
  simp

/-- **A block that moves the pool with the bonds** leaves bonds that add up. -/
theorem Backed.append (h : Backed host policy blocks) {block : ChainBlock}
    (hnames : ∀ tx ∈ block.transactions, NamesValidator host tx)
    (hmoved : credited host (bondPool host policy) block.transactions =
      lockedTotal host block.transactions) :
    Backed host policy (blocks ++ [block]) := by
  refine ⟨?_, ?_⟩
  · rw [allTransactions_concat]
    exact forall_mem_append.mpr ⟨h.names, hnames⟩
  · rw [allTransactions_concat, credited_append, lockedTotal_append, h.pool, hmoved]

theorem normalAddress_bondPool : NormalAddress host (bondPool host policy) :=
  normalAddress_systemAddress (by decide) ⟨_, _, rfl, by decide⟩

theorem bondPool_eq : bondPool host policy =
    "system:validator-bond-pool" ++ ":" ++ policy.chainNetwork.value :=
  systemAddress_eq (by decide) ⟨'s', _, rfl, by decide⟩

theorem slashPool_eq : slashPool host policy =
    "system:validator-slash-pool" ++ ":" ++ policy.chainNetwork.value :=
  systemAddress_eq (by decide) ⟨'s', _, rfl, by decide⟩

theorem bondPool_ne_empty : bondPool host policy ≠ "" := by
  rw [bondPool_eq]
  cases policy.chainNetwork <;> decide

theorem slashPool_ne_empty : slashPool host policy ≠ "" := by
  rw [slashPool_eq]
  cases policy.chainNetwork <;> decide

theorem bondPool_ne_slashPool : bondPool host policy ≠ slashPool host policy := by
  rw [bondPool_eq, slashPool_eq]
  cases policy.chainNetwork <;> decide

theorem normalAddress_slashPool : NormalAddress host (slashPool host policy) :=
  normalAddress_systemAddress (by decide) ⟨_, _, rfl, by decide⟩

section Bonded

variable (h : BondedChain host policy file blocks)
include h

theorem BondedChain.closing : ClosingSound host policy blocks :=
  (h.wellFormed.validate_iff h.started).mp h.accepted

theorem BondedChain.lockedOf_nonneg
    (validatorId : String) : 0 ≤ lockedOf host validatorId (allTransactions blocks) := by
  rw [← h.wellFormed.get_locked]
  exact h.closing.bonds validatorId

theorem BondedChain.normal_index
    (he : e ∈ validatorLockedBondIndex host blocks) : NormalAddress host e.1 ∧ e.1 ≠ "" := by
  obtain ⟨tx, htx, delta, hentry⟩ := h.wellFormed.mem_lockedIndex he
  exact ⟨(h.names tx htx).normal _ _ hentry, lockedBondEntry_ne_empty hentry⟩

/-- The index file gives the locked bonds back, sorted. -/
theorem BondedChain.validatorLockedBonds_perm :
    (validatorLockedBonds host blocks).Perm (validatorLockedBondIndex host blocks) := by
  have hnormal : ∀ e ∈ (validatorLockedBondIndex host blocks).insertionSort entryLe,
      NormalAddress host e.1 ∧ e.1 ≠ "" := fun e he =>
    h.normal_index ((mem_insertionSort entryLe).mp he)
  rw [validatorLockedBonds, intMapping_of_normal (fun e he => (hnormal e he).1)
    (keys_nodup_sorted (keys_nodup_validatorLockedBondIndex host blocks)),
    filter_eq_self.mpr fun e he => decide_eq_true (hnormal e he).2]
  exact perm_insertionSort entryLe _

theorem BondedChain.get_validatorLockedBonds
    (validatorId : String) : Tally.get validatorId (validatorLockedBonds host blocks) =
      lockedOf host validatorId (allTransactions blocks) := by
  rw [← Tally.get_perm h.validatorLockedBonds_perm.symm
    (keys_nodup_validatorLockedBondIndex host blocks), h.wellFormed.get_locked]

theorem BondedChain.value_nonneg (he : e ∈ validatorLockedBonds host blocks) : 0 ≤ e.2 :=
  (Tally.forall_value_iff le_rfl (keys_nodup_validatorLockedBondIndex host blocks)).mpr
    h.closing.bonds e (h.validatorLockedBonds_perm.mem_iff.mp he)

theorem BondedChain.total_validatorLockedBonds :
    Tally.total (validatorLockedBonds host blocks) = lockedTotal host (allTransactions blocks) := by
  rw [Tally.total_perm h.validatorLockedBonds_perm, h.wellFormed.total_locked]

/-- The pool holds what is locked, as the index files give both. -/
theorem BondedChain.pool_eq : chainBalanceAtomic host blocks (bondPool host policy) =
      lockedTotal host (allTransactions blocks) := by
  rw [chainBalanceAtomic_eq h.wellFormed h.stable normalAddress_bondPool bondPool_ne_empty, h.pool]

end Bonded

theorem chainLockedBondsByValidator_eq : chainLockedBondsByValidator host policy blocks =
    let locked := (validatorLockedBonds host blocks).foldl
      (fun t e => Tally.set (normalizeValidatorId host e.1) (max 0 e.2) t) []
    if Tally.total locked ≤ 0 then []
    else if chainBalanceAtomic host blocks (bondPool host policy) ≠ Tally.total locked then []
    else locked := rfl

/-- **The registry reads the plain sums**: no bond is hidden while the bonds add up. -/
theorem BondedChain.get_chainLockedBondsByValidator (h : BondedChain host policy file blocks)
    {validatorId : String} :
    Tally.get validatorId (chainLockedBondsByValidator host policy blocks) =
      lockedOf host validatorId (allTransactions blocks) := by
  have hnd : ((validatorLockedBonds host blocks).map Prod.fst).Nodup :=
    (h.validatorLockedBonds_perm.map _).nodup_iff.mpr
      (keys_nodup_validatorLockedBondIndex host blocks)
  have hkeep : (validatorLockedBonds host blocks).foldl
      (fun t e => Tally.set (normalizeValidatorId host e.1) (max 0 e.2) t) [] =
        validatorLockedBonds host blocks := by
    refine (foldl_ext _ (fun t e => Tally.set e.1 e.2 t) _ fun acc e he => ?_).trans
      (Tally.foldl_set_of_nodup hnd)
    have hkey := (h.normal_index (h.validatorLockedBonds_perm.mem_iff.mp he)).1
    rw [max_eq_right (h.value_nonneg he), normalizeValidatorId, hkey]
  have hlocked := h.get_validatorLockedBonds validatorId
  have hpool := h.pool_eq
  rw [← h.total_validatorLockedBonds] at hpool
  rw [chainLockedBondsByValidator_eq, hkeep]
  dsimp only
  split
  next hnothing =>
    -- non-negative bonds without a total are all zero
    rw [← hlocked]
    have hle : Tally.get validatorId (validatorLockedBonds host blocks) ≤
        Tally.total (validatorLockedBonds host blocks) := by
      simpa using Tally.sum_get_le_total hnd (fun e he => h.value_nonneg he)
        (nodup_singleton validatorId)
    have hnonneg := h.lockedOf_nonneg validatorId
    rw [← hlocked] at hnonneg
    show (0 : Int) = _
    omega
  next =>
    rw [if_neg]
    · exact hlocked
    · exact not_not.mpr hpool

/-! ### Backed configurations -/

variable (host) in
/-- A lock that the wallet made for the validator. -/
structure IsBondLock (wallet : WalletRecord) (validatorId : String) (tx : ChainTransaction) :
    Prop where
  txType : tx.txType = "validator_bond_lock"
  address : host.normalizeAddress tx.address = host.normalizeAddress wallet.address
  walletId : host.strOrEmpty (Json.getD tx.metadata "validator_wallet_id") = wallet.walletId
  validatorId : ∃ s, (Json.getD tx.metadata "validator_id").pyOr (.str "") = .str s ∧
    host.normalizeAddress s = validatorId

theorem isBondLockOf_ok (h : NamesValidator host tx)
    (wallet : WalletRecord) (validatorId : String) :
    ∃ b, isBondLockOf host wallet validatorId tx = .ok b ∧
      (IsBondLock host wallet validatorId tx → b = true) := by
  rw [isBondLockOf]
  split
  next hlock => exact ⟨false, rfl, fun hl => absurd hl.txType hlock⟩
  next hlock =>
  split
  next haddress => exact ⟨false, rfl, fun hl => absurd hl.address haddress⟩
  next =>
  split
  next hwallet => exact ⟨false, rfl, fun hl => absurd hl.walletId hwallet⟩
  next =>
    obtain ⟨s, hs⟩ := h.text (not_not.mp hlock)
    rw [hs]
    refine ⟨_, rfl, ?_⟩
    rintro ⟨-, -, -, s', hs', hid⟩
    cases hs.symm.trans hs'
    exact decide_eq_true hid

/-- The search for a lock returns, and finds one that is there. -/
theorem validatorBondLockExists_ok
    (hnames : ∀ tx ∈ txs, NamesValidator host tx) (wallet : WalletRecord) (validatorId : String) :
    ∃ b, validatorBondLockExists host wallet validatorId txs = .ok b ∧
      ((∃ tx ∈ txs, IsBondLock host wallet validatorId tx) → b = true) := by
  induction txs with
  | nil => exact ⟨false, rfl, by simp⟩
  | cons first txs ih =>
    obtain ⟨b, hb, hfirst⟩ := isBondLockOf_ok (hnames first mem_cons_self) wallet validatorId
    obtain ⟨found, hfound, hrest⟩ := ih fun tx htx => hnames tx (mem_cons_of_mem _ htx)
    rw [validatorBondLockExists, hb, ok_bind]
    cases b with
    | true => exact ⟨true, rfl, fun _ => rfl⟩
    | false =>
      refine ⟨found, hfound, ?_⟩
      rintro ⟨tx, hmem, hlock⟩
      rcases mem_cons.mp hmem with rfl | hmem
      · cases hfirst hlock
      · exact hrest ⟨tx, hmem, hlock⟩

/-- **A bond that is locked counts as backed**, while the bonds add up. -/
theorem BondedChain.bondBackedBy_eq (h : BondedChain host policy file blocks)
    {config : ValidatorConfig} {found : Bool} (hfound : validatorBondLockExists host wallet
      (config.validatorId host wallet) (allTransactions blocks) = .ok found)
    {money : MoneyPolicy}
    (hmoney : validatorBondPoolChainAddress host money = bondPool host policy) :
    bondBackedBy host money wallet config blocks = .ok (found && decide (max 0
      (lockedOf host (config.validatorId host wallet) (allTransactions blocks)) ≥
        max 0 config.bondAtomic)) := by
  have hempty : blocks.isEmpty = false := by
    rw [isEmpty_eq_false_iff]
    exact h.started
  have htotal : ((validatorLockedBonds host blocks).map fun e => max 0 e.2).sum =
      lockedTotal host (allTransactions blocks) := by
    rw [← h.total_validatorLockedBonds, Tally.total]
    congr 1
    apply map_congr_left
    intro e he
    exact max_eq_right (h.value_nonneg he)
  rw [bondBackedBy]
  simp only [hempty, Bool.false_eq_true, if_false]
  rw [hfound, ok_bind, hmoney, htotal, h.pool_eq, h.get_validatorLockedBonds, decide_eq_true rfl,
    Bool.and_true]
  rfl

end Backed

/-! ### Longer chains -/

section Concat

variable {host policy} {file : ChainFile} {blocks : Chain}

/-- Only the addresses of the transactions have a balance. -/
theorem credited_nonneg
    (h : ∀ tx ∈ txs, 0 ≤ credited host (host.normalizeAddress tx.address) txs) (address : String) :
    0 ≤ credited host address txs := by
  by_cases hmem : ∃ tx ∈ txs, host.normalizeAddress tx.address = address
  · obtain ⟨tx, htx, rfl⟩ := hmem
    exact h tx htx
  · rw [credited_eq_zero fun tx htx heq => hmem ⟨tx, htx, heq⟩]

/-- Only the validators that the transactions name have a locked bond. -/
theorem lockedOf_nonneg
    (h : ∀ e ∈ txs.filterMap (lockedBondEntry host), 0 ≤ lockedOf host e.1 txs) (v : String) :
    0 ≤ lockedOf host v txs := by
  by_cases hzero : lockedOf host v txs = 0
  · rw [hzero]
  · obtain ⟨tx, htx, delta, hentry⟩ := lockedOf_ne_zero hzero
    exact h (v, delta) (mem_filterMap.mpr ⟨tx, htx, hentry⟩)

/-- **One more block** that conserves the supply and leaves no negative balance or bond. -/
theorem Persisted.concat (h : Persisted host policy file blocks) (hne : blocks ≠ [])
    {draft : ChainBlock} (hdraft : DraftAccepted host policy blocks draft)
    (hlinked : LinkedAfter host policy blocks (draft.seal host blocks))
    (hhash : (draft.seal host blocks).blockHash ∉ blocks.map ChainBlock.blockHash)
    (hdated : Dated draft) (hstable : ∀ tx ∈ draft.transactions, TransactionStable host tx)
    (hsupply : (draft.transactions.map ChainTransaction.deltaAtomic).sum = 0)
    (hbalances : ∀ address,
      0 ≤ credited host address (allTransactions blocks ++ draft.transactions))
    (hbonds : ∀ v, 0 ≤ lockedOf host v (allTransactions blocks ++ draft.transactions)) :
    ClosingSound host policy (blocks ++ [draft.seal host blocks]) ∧
      Persisted host policy (saveChainBlocks (blocks ++ [draft.seal host blocks]))
        (blocks ++ [draft.seal host blocks]) := by
  have hall : allTransactions (blocks ++ [draft.seal host blocks]) =
      allTransactions blocks ++ draft.transactions := allTransactions_concat blocks _
  have hwell : WellFormed host policy (blocks ++ [draft.seal host blocks]) :=
    wellFormed_concat.mpr ⟨h.wellFormed, hdraft.seal hlinked hhash⟩
  have hclosing : ClosingSound host policy (blocks ++ [draft.seal host blocks]) := by
    refine ⟨?_, ?_, ?_⟩
    · intro address
      rw [hwell.get_balance, hall]
      exact hbalances address
    · rw [hwell.total_eq, hall, map_append, sum_append, hsupply, add_zero, ← h.wellFormed.total_eq]
      exact ((h.wellFormed.validate_iff hne).mp h.accepted).supply
    · intro v
      rw [hwell.get_locked, hall]
      exact hbonds v
  refine ⟨hclosing, rfl, (hwell.validate_iff (by simp)).mpr hclosing, hwell, ?_, ?_⟩
  · exact forall_mem_append.mpr ⟨h.dated,
      forall_mem_singleton.mpr ⟨hdated.createdAt, hdated.transactions⟩⟩
  · exact forall_mem_append.mpr ⟨h.stable, forall_mem_singleton.mpr hstable⟩

theorem linkedAfter_appendDraft (hne : blocks ≠ []) {moment : Moment}
    {validatorId : Option String} : LinkedAfter host policy blocks
      ((appendDraft host policy moment validatorId blocks txs).seal host blocks) := by
  have hlast := getLast?_eq_some_getLast hne
  rw [LinkedAfter, hlast]
  show (appendDraft host policy moment validatorId blocks txs).height = _ ∧
    (appendDraft host policy moment validatorId blocks txs).previousHash = _
  rw [appendDraft, hlast]
  exact ⟨rfl, rfl⟩

/-- **An append of proper transactions** succeeds. -/
theorem Persisted.append (h : Persisted host policy file blocks) (hne : blocks ≠ [])
    {moment : Moment} {validatorId : Option String} {block : ChainBlock} (hblock : block =
      (appendDraft host policy moment validatorId blocks txs).seal host blocks)
    (hdraft : DraftAccepted host policy blocks
      (appendDraft host policy moment validatorId blocks txs))
    (hnew : newTransactions blocks txs = txs)
    (hhash : block.blockHash ∉ blocks.map ChainBlock.blockHash)
    (hstored : ∀ tx ∈ txs, StoredAsIs host tx)
    (hsupply : (txs.map ChainTransaction.deltaAtomic).sum = 0)
    (hbalances : ∀ address, 0 ≤ credited host address (allTransactions blocks ++ txs))
    (hbonds : ∀ v, 0 ≤ lockedOf host v (allTransactions blocks ++ txs)) :
    appendChainBlock host policy moment validatorId txs file =
        (.ok (some block), saveChainBlocks (blocks ++ [block])) ∧
      Persisted host policy (saveChainBlocks (blocks ++ [block])) (blocks ++ [block]) := by
  have hdated : Dated (appendDraft host policy moment validatorId blocks txs) :=
    ⟨moment.now.nonempty, fun tx htx => (hstored tx htx).1⟩
  have hfill : txs.map (fillChainId policy) = txs := by
    conv_rhs => rw [← map_id txs]
    apply map_congr_left
    intro tx htx
    have hchain := (hdraft.transactions tx htx).chainId
    rw [fillChainId, if_neg (hchain ▸ network_value_ne), id]
  subst hblock
  obtain ⟨hclosing, hpersisted⟩ := h.concat hne hdraft (linkedAfter_appendDraft hne) hhash hdated
    (fun tx htx => (hstored tx htx).2) hsupply hbalances hbonds
  refine ⟨appendChainBlock_of_wellFormed (h.listed moment.clock) ?_ ?_ hpersisted.wellFormed
    hclosing, hpersisted⟩
  · rw [hnew]
    exact hdraft.transactions_ne
  · rw [hnew, hfill]

end Concat

/-! ### A chain with one validator -/

theorem sampleGenesis_unbonded : ∀ tx ∈ allTransactions [sampleGenesis],
    tx.txType ∉ ["validator_bond_lock", "validator_bond_pool_debit"] := by
  rw [allTransactions_sampleGenesis]
  decide

theorem sampleGenesis_bonded :
    BondedChain sampleHost samplePolicy (saveChainBlocks [sampleGenesis]) [sampleGenesis] := by
  have hlocked : _ ∧ lockedTotal sampleHost _ = 0 := locked_eq_zero sampleGenesis_unbonded ""
  refine
    { Persisted.genesis sampleGenesis_idsDistinct normalize_sampleTreasury with
      names := fun tx htx => (namesValidator_credit _ (sampleGenesis_unbonded tx htx)).2
      pool := ?_
      started := cons_ne_nil _ _ }
  rw [hlocked.2, bondPool_eq, allTransactions_sampleGenesis]
  simp only [credited, sampleGenesisTransactions, sampleCredit, filter_cons, filter_nil,
    normalize_sampleReserve, normalize_sampleFund, normalize_sampleTreasury]
  decide

/-- The treasury locks a bond and pays ten units. -/
def sampleBondTransactions : List ChainTransaction :=
  [{ sampleTransaction "l1" "c4" (-1000000000000) with
      txType := "validator_bond_lock"
      metadata := [("validator_id", .str "c4"), ("validator_wallet_id", .str "t")] },
    { sampleTransaction "l2" "system:validator-bond-pool:testnet" 1000000000000 with
      txType := "validator_bond_pool_credit" },
    sampleTransaction "l3" "c4" (-10),
    sampleTransaction "l4" "ca978112ca1bbdcafac231b39a23dc4d" 10]

def sampleBondDraft : ChainBlock :=
  sampleDraft 1 "7743f51555b5f62f11eb196b78c9e8d519efa21d50d1f9c404bf9c2fb68abbb9"
    sampleBondTransactions

def sampleBond : ChainBlock := sampleBondDraft.seal sampleHost [sampleGenesis]

theorem sampleBond_blockHash : sampleBond.blockHash =
    "6fcbbc39eac7a6732c47578979872a9eddfec1a1b0022db9576baf39fbfbbd26" := by
  decide +kernel

theorem normalize_sampleBondPool :
    sampleHost.normalizeAddress "system:validator-bond-pool:testnet" =
      "system:validator-bond-pool:testnet" := by
  decide

theorem allTransactions_sampleBond : allTransactions [sampleGenesis, sampleBond] =
    sampleGenesisTransactions ++ sampleBondTransactions := by
  rw [← allTransactions_sampleGenesis]
  exact allTransactions_concat [sampleGenesis] sampleBond

theorem sampleBond_persisted :
    Persisted sampleHost samplePolicy (saveChainBlocks [sampleGenesis, sampleBond])
      [sampleGenesis, sampleBond] := by
  refine (sampleGenesis_bonded.toPersisted.concat sampleGenesis_bonded.started ?_ ?_ ?_ ?_ ?_ ?_ ?_
    ?_).2
  · apply sampleDraft_accepted (cons_ne_nil _ _) (by decide)
    · rw [allTransactions_sampleGenesis]
      decide
    · simp only [forall_mem_cons]
      exact ⟨⟨rfl, rfl, rfl⟩, ⟨rfl, rfl, rfl⟩, ⟨rfl, rfl, rfl⟩, ⟨rfl, rfl, rfl⟩, forall_mem_nil _⟩
    · simp [sampleTransaction]
  · exact ⟨rfl, sampleGenesis_blockHash.symm⟩
  · rw [← sampleBond, sampleBond_blockHash, map_singleton, sampleGenesis_blockHash]
    decide
  · exact ⟨by decide, by decide⟩
  · show ∀ tx ∈ sampleBondTransactions, _
    simp only [sampleBondTransactions, forall_mem_cons]
    exact ⟨transactionStable_of_address normalize_sampleTreasury rfl,
      transactionStable_of_address normalize_sampleBondPool rfl,
      transactionStable_of_address normalize_sampleTreasury rfl,
      transactionStable_of_address (by decide) rfl, forall_mem_nil _⟩
  · decide
  · apply credited_nonneg
    rw [allTransactions_sampleGenesis]
    decide
  · apply lockedOf_nonneg
    rw [allTransactions_sampleGenesis]
    decide

/-- **A chain whose bonds add up**, with the bond of the treasury. -/
theorem sampleBond_bonded : BondedChain sampleHost samplePolicy
    (saveChainBlocks [sampleGenesis, sampleBond]) [sampleGenesis, sampleBond] := by
  refine { sampleBond_persisted with names := ?_, pool := ?_, started := cons_ne_nil _ _ }
  · rw [allTransactions_sampleBond, forall_mem_append, ← allTransactions_sampleGenesis]
    refine ⟨sampleGenesis_bonded.names, ?_⟩
    simp only [sampleBondTransactions, forall_mem_cons]
    refine ⟨⟨fun _ => ⟨"c4", rfl⟩, ?_⟩, (namesValidator_credit _ (by decide)).2,
      (namesValidator_credit _ (by decide)).2, (namesValidator_credit _ (by decide)).2,
      forall_mem_nil _⟩
    intro v delta hentry
    cases hentry
    exact normalize_sampleTreasury
  · rw [bondPool_eq, allTransactions_sampleBond]
    decide

end CaiNetwork
