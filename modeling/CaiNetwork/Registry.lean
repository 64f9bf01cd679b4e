/-
CaiNetwork/Registry.lean

The validator registry (`validators.py`): the records of the registry file, and what the chain
makes of them.

A bonded record counts only while the chain holds at least its bond locked, and the locked bonds
count only while they add up to the balance of the bond pool (`chainLockedBondsByValidator`).
Everything that asks for bonded validators reads `listBondedValidators`.
-/

import CaiNetwork.Store

namespace CaiNetwork

/-! ### Records -/

/-- `ValidatorLifecycleState`; the file may hold any other text. -/
inductive ValidatorLifecycleState
  | bonded
  | unbonding
  | jailed
  | unbonded
  | other (name : String)
deriving DecidableEq

/-- The fields of `ValidatorRecord` that the chain and the committees read. -/
structure ValidatorRecord where
  validatorId : String
  walletId : Option String
  address : String
  state : ValidatorLifecycleState
  bondedAtomic : Int
deriving DecidableEq

/-- `state_rank`. -/
def ValidatorLifecycleState.rank : ValidatorLifecycleState → Nat
  | .bonded => 0
  | .unbonding => 1
  | .jailed => 2
  | .unbonded => 3
  | .other _ => 99

/-- The order of `list_validator_records`. -/
def recordLe (a b : ValidatorRecord) : Prop :=
  a.state.rank < b.state.rank ∨
    (a.state.rank = b.state.rank ∧ Json.stringLe a.validatorId b.validatorId = true)

instance : DecidableRel recordLe := fun a b =>
  inferInstanceAs (Decidable (a.state.rank < b.state.rank ∨
    (a.state.rank = b.state.rank ∧ Json.stringLe a.validatorId b.validatorId = true)))

/-- `list_validator_records`, from the records of the file. -/
def listValidatorRecords (file : List ValidatorRecord) : List ValidatorRecord :=
  file.insertionSort recordLe

variable (host : Host) (policy : WalletPolicy)

/-! ### Bonds that the chain backs -/

/-- `validator_bond_pool_chain_address`. -/
def validatorBondPoolChainAddress (money : MoneyPolicy) : String :=
  systemAddress host "system:validator-bond-pool" money

/-- `_normalize_validator_id`: the computation of `normalize_address`. -/
def normalizeValidatorId (validatorId : String) : String := host.normalizeAddress validatorId

/-- `_chain_locked_bonds_by_validator`. -/
def chainLockedBondsByValidator (blocks : Chain) : Tally String :=
  let index := intMapping host ((validatorLockedBondIndex host blocks).insertionSort entryLe)
  let locked := index.foldl (fun t e => Tally.set (normalizeValidatorId host e.1) (max 0 e.2) t) []
  let pool := validatorBondPoolChainAddress host (moneyPolicyForWalletPolicy host policy)
  if Tally.total locked ≤ 0 then []
  else if chainBalanceAtomic host blocks pool ≠ Tally.total locked then []
  else locked

/-- `_chain_backed_validator_record`. -/
def chainBackedValidatorRecord (locked : Tally String) (record : ValidatorRecord) :
    ValidatorRecord :=
  if record.state ≠ .bonded then record
  else if record.bondedAtomic > 0 ∧
      Tally.get (normalizeValidatorId host record.validatorId) locked ≥ record.bondedAtomic then
    record
  else { record with state := .unbonded, bondedAtomic := 0 }

/-- `list_effective_validator_records`. -/
def listEffectiveValidatorRecords (blocks : Chain) (file : List ValidatorRecord) :
    List ValidatorRecord :=
  (listValidatorRecords file).map
    (chainBackedValidatorRecord host (chainLockedBondsByValidator host policy blocks))

/-- `list_bonded_validators`. -/
def listBondedValidators (blocks : Chain) (file : List ValidatorRecord) :
    List ValidatorRecord :=
  (listEffectiveValidatorRecords host policy blocks file).filter
    (fun record => record.state = .bonded ∧ record.bondedAtomic > 0)

variable {host policy}

/-- **A bonded validator is backed by the chain**: it is a record of the file, bonded there with
the same bond, and the chain holds at least that bond locked for it. -/
theorem mem_listBondedValidators {blocks : Chain} {file : List ValidatorRecord}
    {record : ValidatorRecord} : record ∈ listBondedValidators host policy blocks file ↔
      record ∈ file ∧ record.state = .bonded ∧ 0 < record.bondedAtomic ∧
        record.bondedAtomic ≤ Tally.get (normalizeValidatorId host record.validatorId)
          (chainLockedBondsByValidator host policy blocks) := by
  rw [listBondedValidators, List.mem_filter, listEffectiveValidatorRecords, List.mem_map,
    decide_eq_true_eq]
  constructor
  · rintro ⟨⟨raw, hraw, rfl⟩, hstate, hbond⟩
    rw [chainBackedValidatorRecord] at hstate hbond ⊢
    by_cases hraws : raw.state = .bonded
    swap
    · rw [if_pos hraws] at hstate
      exact absurd hstate hraws
    rw [if_neg (not_not.mpr hraws)] at hstate hbond ⊢
    split at hstate
    next hback =>
      rw [if_pos hback]
      exact ⟨(List.mem_insertionSort recordLe).mp hraw, hraws, hback.1, hback.2⟩
    next => cases hstate
  · rintro ⟨hmem, hstate, hbond, hlocked⟩
    refine ⟨⟨record, (List.mem_insertionSort recordLe).mpr hmem, ?_⟩, hstate, hbond⟩
    rw [chainBackedValidatorRecord, if_neg (not_not.mpr hstate), if_pos ⟨hbond, hlocked⟩]

end CaiNetwork
