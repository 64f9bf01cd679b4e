/-
CaiNetwork/Genesis.lean

The genesis block of a network (`chain.py`): three credits that hand the whole supply to the
compute reserve, the developer contribution fund and the founder treasury.

The block is a function of the money policy alone.  What later modules need of it:
its transactions carry no nonce and no signature requirement, its allocations add up to the
supply (`genesis_allocations`), and its roots and hash are the computed ones by construction.
-/

import CaiNetwork.Block

namespace CaiNetwork

/-! ### System addresses -/

/-- `GENESIS_CREATED_AT`. -/
def genesisCreatedAt : Timestamp := ⟨"2026-01-01T00:00:00+00:00", by decide⟩

/-- `normalize_address(f"{prefix}:{network}")`. -/
def systemAddress (host : Host) (name : String) (money : MoneyPolicy) : String :=
  host.normalizeAddress (name ++ ":" ++ money.chainNetwork.value)

/-- `compute_reserve_chain_address`. -/
def computeReserveChainAddress (host : Host) (money : MoneyPolicy) : String :=
  systemAddress host "system:compute-reserve" money

/-- `developer_contribution_fund_chain_address`. -/
def developerContributionFundChainAddress (host : Host) (money : MoneyPolicy) : String :=
  systemAddress host "system:developer-contribution-fund" money

/-- The address of a pool is the name it is built from. -/
theorem systemAddress_eq {host : Host} {name : String}
    (hname : ∀ c ∈ name.toList, c.toNat < 128 ∧ c.isUpper = false ∧ isSpace c = false)
    (hmark : ∃ c cs, name.toList = c :: cs ∧ c ≠ 'c') {money : MoneyPolicy} :
    systemAddress host name money = name ++ ":" ++ money.chainNetwork.value := by
  have hnetwork : ∀ c ∈ (":" ++ money.chainNetwork.value).toList,
      c.toNat < 128 ∧ c.isUpper = false ∧ isSpace c = false := by
    cases money.chainNetwork <;> decide
  apply host.normalizeAddress_eq_self
  · intro c hc
    rw [String.append_assoc, String.toList_append, List.mem_append] at hc
    rcases hc with hc | hc
    · exact hname c hc
    · exact hnetwork c hc
  · obtain ⟨c, cs, hcs, hc⟩ := hmark
    rw [startsWith, String.append_assoc, String.toList_append, hcs]
    simp [List.isPrefixOf, Ne.symm hc]

theorem computeReserveChainAddress_eq (host : Host) (money : MoneyPolicy) :
    computeReserveChainAddress host money =
      "system:compute-reserve" ++ ":" ++ money.chainNetwork.value :=
  systemAddress_eq (by decide) ⟨'s', _, rfl, by decide⟩

theorem developerContributionFundChainAddress_eq (host : Host) (money : MoneyPolicy) :
    developerContributionFundChainAddress host money =
      "system:developer-contribution-fund" ++ ":" ++ money.chainNetwork.value :=
  systemAddress_eq (by decide) ⟨'s', _, rfl, by decide⟩

variable (host : Host) (money : MoneyPolicy)

/-! ### The block -/

/-- The metadata of the genesis transactions. -/
def genesisMetadata : Fields :=
  [("network", .str money.chainNetwork.value), ("reward_token_code", .str money.rewardTokenCode)]

/-- `genesis_chain_transactions`. -/
def genesisChainTransactions : List ChainTransaction :=
  [makeChainTransaction host genesisCreatedAt {
      txType := "genesis_compute_reserve_credit"
      address := computeReserveChainAddress host money
      deltaAtomic := atomicOfCoins money.computeReserveCoins money.decimals
      walletId := some s!"system-compute-reserve-{money.chainNetwork.value}"
      note := some ("Genesis allocation for the CAI compute reserve. This is the " ++
        "chain source of reserve-funded jobs.")
      metadata := genesisMetadata money
      createdAt := some genesisCreatedAt.text
      chainId := some money.chainNetwork.value },
    makeChainTransaction host genesisCreatedAt {
      txType := "genesis_developer_contribution_fund_credit"
      address := developerContributionFundChainAddress host money
      deltaAtomic := atomicOfCoins money.developerContributionFundCoins money.decimals
      walletId := some s!"system-developer-contribution-fund-{money.chainNetwork.value}"
      note := some ("Genesis allocation for the developer contribution fund. " ++
        "Distribution is governed by the public contribution rules.")
      metadata := genesisMetadata money
      createdAt := some genesisCreatedAt.text
      chainId := some money.chainNetwork.value },
    makeChainTransaction host genesisCreatedAt {
      txType := "genesis_developer_treasury_credit"
      address := money.developerTreasuryAddress
      deltaAtomic := atomicOfCoins money.developerTreasuryCoins money.decimals
      walletId := some money.developerTreasuryWalletId
      note := some "Genesis allocation for the fixed founder treasury wallet."
      metadata := genesisMetadata money
      createdAt := some genesisCreatedAt.text
      chainId := some money.chainNetwork.value }]

/-- The genesis block before its state root and hash are filled in. -/
def genesisBlockDraft : ChainBlock where
  blockId := takeString 32 (canonicalHash (.obj [("kind", .str "genesis"),
    ("network", .str money.chainNetwork.value), ("height", .int 0),
    ("created_at", .str genesisCreatedAt.text), ("previous_hash", .str genesisPreviousHash),
    ("validator_id", .str "genesis"),
    ("tx_ids", .arr ((genesisChainTransactions host money).map (fun tx => .str tx.txId)))]))
  height := 0
  createdAt := genesisCreatedAt.text
  previousHash := genesisPreviousHash
  validatorId := .str "genesis"
  transactions := genesisChainTransactions host money
  blockHash := ""
  chainId := money.chainNetwork.value
  txRoot := computeTransactionRoot host (genesisChainTransactions host money)

/-- A block with the state root it has after the given blocks, and then its hash. -/
def ChainBlock.seal (block : ChainBlock) (before : Chain) : ChainBlock :=
  let rooted := { block with stateRoot := computeChainStateRoot host (before ++ [block]) }
  { rooted with blockHash := computeBlockHash host rooted }

/-- `make_genesis_block`. -/
def makeGenesisBlock : ChainBlock := (genesisBlockDraft host money).seal host []

/-- `expected_genesis_hash`. -/
def expectedGenesisHash : String := (makeGenesisBlock host money).blockHash

/-- `expected_total_supply_atomic`. -/
def expectedTotalSupplyAtomic : Int := atomicOfCoins money.totalSupplyCoins money.decimals

/-! ### Facts about the genesis block -/

theorem atomicOfCoins_add {a b decimals : Nat} :
    atomicOfCoins a decimals + atomicOfCoins b decimals = atomicOfCoins (a + b) decimals := by
  rw [atomicOfCoins, atomicOfCoins, atomicOfCoins, Int.natCast_add, Int.add_mul]

theorem sum_genesis_deltas :
    ((genesisChainTransactions host money).map ChainTransaction.deltaAtomic).sum =
      atomicOfCoins (money.computeReserveCoins + (money.developerContributionFundCoins +
        money.developerTreasuryCoins)) money.decimals := by
  rw [← atomicOfCoins_add, ← atomicOfCoins_add]
  simp only [genesisChainTransactions, makeChainTransaction, List.map_cons, List.map_nil,
    List.sum_cons, List.sum_nil, Int.add_zero]

/-- The three allocations of the policy exhaust its supply. -/
theorem genesis_allocations (policy : WalletPolicy) :
    ((genesisChainTransactions host (moneyPolicyForWalletPolicy host policy)).map
      ChainTransaction.deltaAtomic).sum =
      expectedTotalSupplyAtomic (moneyPolicyForWalletPolicy host policy) := by
  rw [sum_genesis_deltas, expectedTotalSupplyAtomic]
  have hcoins : 850000000 + (100000000 + 50000000) = 1000000000 := by decide
  exact congrArg (atomicOfCoins · 8) hcoins

end CaiNetwork
