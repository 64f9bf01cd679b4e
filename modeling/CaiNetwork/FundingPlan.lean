/-
CaiNetwork/FundingPlan.lean

How a job is paid for (`economics.py`): a fee quote for its compute cost, a plan that decides
whether the compute reserve or the wallet pays, and the application of the plan.

The reserve pays while the daily allowance of every identity of the request lasts.  An accepted
plan takes exactly the cost and the fee from the two balances (`fundingSound_iff`).  No branch
looks at the sign of the cost: a negative one is accepted wherever the balances cover it, and then
it raises them (`negativeCost_accepted`).  What each identity has spent today is an argument.
-/

import Mathlib.Algebra.Order.Ring.Int
import CaiNetwork.Settlement.Lifecycle
import CaiNetwork.Transfer

namespace CaiNetwork

/-- `PaymentPreference`. -/
inductive PaymentPreference
  | auto
  | reserveOnly
  | walletOnly
deriving DecidableEq

/-- `atomic_to_coins`. -/
def atomicToCoins (value : Int) (decimals : Nat) : String :=
  let scale := 10 ^ decimals
  let fraction := Nat.toDigits 10 (value.natAbs % scale)
  String.ofList ((if value < 0 then ['-'] else []) ++ Nat.toDigits 10 (value.natAbs / scale) ++
    '.' :: (List.replicate (decimals - fraction.length) '0' ++ fraction))

/-! ### The fee quote -/

section Quote

variable (host : Host) (money : MoneyPolicy)

/-- `_default_tx_fee_atomic`. -/
def defaultTxFeeAtomic : Except PyError Int := do
  let text := money.defaultTxFeeCoins.toList
  let whole := text.takeWhile (· ≠ '.')
  let fraction := ((text.dropWhile (· ≠ '.')).drop 1 ++
    List.replicate money.decimals '0').take money.decimals
  let w ← host.int (.str (String.ofList (if whole = [] then ['0'] else whole)))
  let f ← host.int (.str (String.ofList (if fraction = [] then ['0'] else fraction)))
  return w * 10 ^ money.decimals + f

/-- The transaction fee of a quote: the given one, or that of the policy. -/
def resolvedTxFee (txFeeAtomic : Option Int) : Except PyError Int :=
  match txFeeAtomic with
  | some fee => .ok fee
  | none => defaultTxFeeAtomic host money

/-- `build_fee_quote`, with its transaction fee. -/
def feeQuote (computeCostAtomic txFeeAtomic : Int) : FeeQuote :=
  let settlementFee := computeCostAtomic * money.validatorSettlementFeeBps / 10000
  let aiDevelopmentFee := computeCostAtomic * money.aiDevelopmentFeeBps / 10000
  ⟨computeCostAtomic, txFeeAtomic, settlementFee, aiDevelopmentFee,
    max (computeCostAtomic - settlementFee - aiDevelopmentFee) 0⟩

end Quote

/-! ### Identities and their daily allowance -/

/-- `ipaddress.ip_address` and `ipaddress.ip_network`, as far as their texts go. -/
structure IpTexts where
  /-- `str(ip_address(raw))`, `none` where it raises. -/
  address : String → Option String
  /-- The text of the /24 or /64 network of an address, `none` for a text that is no address. -/
  network : String → Option String

section Allowance

variable (host : Host) (ip : IpTexts) (money : MoneyPolicy)

/-- A daily limit of the policy: `_daily_user_reserve_limit_atomic` and
`_daily_ip_reserve_limit_atomic`. -/
def dailyLimit (enabled : Bool) (coins : String) : Except PyError (Option Int) :=
  if enabled = false ∨ strip coins = "" then .ok none
  else do
    let limit ← coinsToAtomic host (strip coins) money.decimals
    return some (max limit 0)

/-- `_daily_user_reserve_limit_atomic`. -/
def dailyUserReserveLimit : Except PyError (Option Int) :=
  dailyLimit host money money.dailyUserReserveLimitEnabled money.dailyUserReserveLimitCoins

/-- `_daily_ip_reserve_limit_atomic`. -/
def dailyIpReserveLimit : Except PyError (Option Int) :=
  dailyLimit host money money.dailyIpReserveLimitEnabled money.dailyIpReserveLimitCoins

/-- `normalize_reserve_client_ip`. -/
def normalizeReserveClientIp (value : Option String) : Option String :=
  let raw := host.lower (strip (value.getD ""))
  if raw = "" ∨ raw = "unknown" then none else some ((ip.address raw).getD raw)

/-- `reserve_client_ip_hash`. -/
def reserveClientIpHash (value : Option String) : Option String :=
  (normalizeReserveClientIp host ip value).map fun normalized =>
    String.ofList (Sha256.hexdigest ("ip:" ++ normalized).toUTF8.toList)

/-- `reserve_client_ip_prefix_hash`. -/
def reserveClientIpPrefixHash (value : Option String) : Option String := do
  let normalized ← normalizeReserveClientIp host ip value
  let network ← ip.network normalized
  return String.ofList (Sha256.hexdigest ("ip-prefix:" ++ network).toUTF8.toList)

/-- `build_reserve_limit_identity_keys`. -/
def buildReserveLimitIdentityKeys (walletId : String) (clientIp : Option String) :
    Except PyError (List String) := do
  let ipLimit ← match reserveClientIpHash host ip clientIp with
    | none => .ok none
    | some _ => dailyIpReserveLimit host money
  let ipKeys := if ipLimit = none then [] else
    ((reserveClientIpHash host ip clientIp).map ("ip:" ++ ·)).toList ++
      ((reserveClientIpPrefixHash host ip clientIp).map ("ip-prefix:" ++ ·)).toList
  return (("wallet:" ++ strip walletId) :: ipKeys).filter (· ≠ "wallet:")

/-- `_daily_reserve_limit_for_identity_key`. -/
def dailyReserveLimitForIdentityKey (key : String) : Except PyError (Option Int) :=
  if startsWith "ip:" (strip key) ∨ startsWith "ip-prefix:" (strip key) then
    dailyIpReserveLimit host money
  else dailyUserReserveLimit host money

/-- `reserve_identity_limits_atomic`: the keys that are limited, with their limits. -/
def reserveIdentityLimits : List String → Except PyError (List (String × Int))
  | [] => .ok []
  | key :: keys => do
    let limit ← dailyReserveLimitForIdentityKey host money key
    let limits ← reserveIdentityLimits keys
    return (limit.map fun limit => (key, limit)).toList ++ limits

end Allowance

/-! ### The plan -/

/-- What a plan is asked for. -/
structure FundingRequest where
  computeCostAtomic : Int
  paymentPreference : PaymentPreference
  txFeeAtomic : Option Int := none
  reserveClientIp : Option String := none
  reserveLimitIdentityKeys : Option (List String) := none
  reserveClientHash : Option String := none

/-- `FundingDecision`, with the fields that a settlement does not take over. -/
structure FundingPlan extends FundingDecision where
  canFund : Bool
  reason : String
  paymentPreference : PaymentPreference
  dailyReserveLimitAtomic : Option Int := none
  dailyReserveSpentTodayAtomic : Int := 0
  dailyReserveRemainingAtomic : Option Int := none
deriving DecidableEq

variable {reason : String} {plan : FundingPlan}

/-- What the branches of `plan_funding` look at. -/
structure FundingTerms where
  quote : FeeQuote
  paymentPreference : PaymentPreference
  reserveBefore : Int
  walletBefore : Int
  /-- `reserve_identity_limits_atomic`. -/
  limits : List (String × Int)
  /-- `fallback_daily_limit_atomic`. -/
  fallbackLimit : Option Int
  /-- `reserve_identity_spent_atomic`. -/
  spent : String → Int
  /-- `daily_spent_today_atomic`. -/
  spentToday : Int
  identityKeys : List String
  clientHash : Option String
  decimals : Nat
  currencyCode : String

namespace FundingTerms

variable (terms : FundingTerms)

/-- `daily_limit_atomic`. -/
def dailyLimitAtomic : Option Int := (terms.limits.map Prod.snd).min?.or terms.fallbackLimit

/-- `daily_remaining_atomic`. -/
def dailyRemainingAtomic : Option Int :=
  (terms.limits.map fun (key, limit) => max (limit - terms.spent key) 0).min?

/-- `reserve_limit_exceeded`. -/
def reserveLimitExceeded : Bool :=
  terms.limits.any fun (key, limit) => limit < terms.spent key + terms.quote.computeCostAtomic

/-- `_reject`. -/
def reject (reason : String) : FundingPlan where
  canFund := false
  reason := reason
  paymentPreference := terms.paymentPreference
  fundingSource := none
  feeQuote := terms.quote
  reserveBeforeAtomic := terms.reserveBefore
  reserveAfterAtomic := terms.reserveBefore
  walletBeforeAtomic := terms.walletBefore
  walletAfterAtomic := terms.walletBefore
  dailyReserveLimitAtomic := terms.dailyLimitAtomic
  dailyReserveSpentTodayAtomic := terms.spentToday
  dailyReserveRemainingAtomic := terms.dailyRemainingAtomic
  reserveLimitIdentityKeys := terms.identityKeys
  reserveClientIpHash := terms.clientHash

/-- An accepted plan, in which the source pays for the compute and the two balances become what is
given.  Compute that the reserve pays for is metered. -/
def fund (source : FundingSource) (reserveAfter walletAfter : Int) (reason : String) :
    FundingPlan where
  canFund := true
  reason := reason
  paymentPreference := terms.paymentPreference
  fundingSource := some source
  feeQuote := terms.quote
  reserveBeforeAtomic := terms.reserveBefore
  reserveAfterAtomic := reserveAfter
  walletBeforeAtomic := terms.walletBefore
  walletAfterAtomic := walletAfter
  dailyReserveLimitAtomic := terms.dailyLimitAtomic
  dailyReserveSpentTodayAtomic := terms.spentToday
  dailyReserveRemainingAtomic := match source with
    | .reserve =>
      terms.dailyRemainingAtomic.map fun left => max (left - terms.quote.computeCostAtomic) 0
    | .wallet => terms.dailyRemainingAtomic
  reserveLimitIdentityKeys := terms.identityKeys
  reserveClientIpHash := terms.clientHash

/-- The compute from the reserve, the fee from the wallet. -/
def fundByReserve (reason : String) : FundingPlan :=
  terms.fund .reserve (terms.reserveBefore - terms.quote.computeCostAtomic)
    (terms.walletBefore - terms.quote.txFeeAtomic) reason

/-- Both from the reserve. -/
def fundAllByReserve (reason : String) : FundingPlan :=
  terms.fund .reserve
    (terms.reserveBefore - (terms.quote.computeCostAtomic + terms.quote.txFeeAtomic))
    terms.walletBefore reason

/-- Both from the wallet. -/
def fundByWallet (reason : String) : FundingPlan :=
  terms.fund .wallet terms.reserveBefore
    (terms.walletBefore - (terms.quote.computeCostAtomic + terms.quote.txFeeAtomic)) reason

/-- The refusal of a request whose daily allowance is used up. -/
def allowanceText : String :=
  "Daily reserve allowance of " ++ atomicToCoins (terms.dailyLimitAtomic.getD 0) terms.decimals ++
    " " ++ terms.currencyCode ++ " would be exceeded. Already reserve-funded today: " ++
    atomicToCoins terms.spentToday terms.decimals ++ "."

/-- The branches of `plan_funding`. -/
def decide : FundingPlan :=
  let total := terms.quote.computeCostAtomic + terms.quote.txFeeAtomic
  match terms.paymentPreference with
  | .reserveOnly =>
    if terms.reserveLimitExceeded then terms.reject terms.allowanceText
    else if terms.reserveBefore < terms.quote.computeCostAtomic then
      terms.reject "Reserve balance is insufficient for the requested compute cost."
    else if terms.walletBefore < terms.quote.txFeeAtomic then
      terms.reject "Wallet balance is insufficient to pay the transaction fee."
    else terms.fundByReserve "Compute is funded by reserve, tx fee by wallet."
  | .walletOnly =>
    if terms.walletBefore < total then
      terms.reject "Wallet balance is insufficient to fund compute cost and tx fee."
    else terms.fundByWallet "Compute and tx fee are funded by wallet."
  | .auto =>
    if terms.reserveLimitExceeded = false ∧ terms.quote.computeCostAtomic ≤ terms.reserveBefore ∧
        terms.quote.txFeeAtomic ≤ terms.walletBefore then
      terms.fundByReserve "Auto mode selected reserve for compute and wallet for tx fee."
    else if terms.reserveLimitExceeded = false ∧ total ≤ terms.reserveBefore then
      terms.fundAllByReserve "Auto mode selected reserve for compute and tx fee."
    else if total ≤ terms.walletBefore then
      terms.fundByWallet (if terms.reserveLimitExceeded then
        "Auto mode fell back to wallet funding after daily reserve allowance was exhausted."
        else "Auto mode fell back to wallet funding.")
    else terms.reject (if terms.reserveLimitExceeded then
      "Daily reserve allowance is exhausted and wallet balance is insufficient " ++
        "to fund this compute job."
      else "Neither reserve+wallet nor wallet-only path can fund this compute job.")

end FundingTerms

section Plan

variable (host : Host) (ip : IpTexts) (money : MoneyPolicy) (spent : String → Int)

/-- `resolved_reserve_limit_identity_keys`. -/
def resolvedIdentityKeys (walletId : String) (request : FundingRequest) :
    Except PyError (List String) :=
  let provided := (request.reserveLimitIdentityKeys.getD []).filter fun key => strip key ≠ ""
  if provided ≠ [] then .ok provided
  else buildReserveLimitIdentityKeys host ip money walletId request.reserveClientIp

/-- `_daily_user_reserve_spent_today_atomic`: the largest amount that an identity has spent. -/
def dailySpentToday (walletId : String) (keys : List String) : Int :=
  let keys := if keys = [] then ["wallet:" ++ strip walletId] else keys
  (keys.map spent).max?.getD 0

/-- `resolved_reserve_client_hash`. -/
def resolvedClientHash (request : FundingRequest) : Option String :=
  match request.reserveClientHash with
  | some hash =>
    if strip hash ≠ "" then some (strip hash)
    else reserveClientIpHash host ip request.reserveClientIp
  | none => reserveClientIpHash host ip request.reserveClientIp

/-- The terms of a request, with what is read from the policy for it. -/
def fundingTerms (ledger : LedgerState) (wallet : WalletRecord) (request : FundingRequest)
    (fee : Int) (fallbackLimit : Option Int) (keys : List String) (limits : List (String × Int)) :
    FundingTerms where
  quote := feeQuote money request.computeCostAtomic fee
  paymentPreference := request.paymentPreference
  reserveBefore := ledger.computeReserveBalanceAtomic
  walletBefore := wallet.spendableBalanceAtomic
  limits := limits
  fallbackLimit := fallbackLimit
  spent := spent
  spentToday := dailySpentToday spent wallet.walletId keys
  identityKeys := keys
  clientHash := resolvedClientHash host ip request
  decimals := money.decimals
  currencyCode := money.currencyCode

/-- `plan_funding`. -/
def planFunding (ledger : LedgerState) (wallet : WalletRecord) (request : FundingRequest) :
    Except PyError FundingPlan := do
  let fee ← resolvedTxFee host money request.txFeeAtomic
  let fallbackLimit ← dailyUserReserveLimit host money
  let keys ← resolvedIdentityKeys host ip money wallet.walletId request
  let limits ← reserveIdentityLimits host money keys
  return (fundingTerms host ip money spent ledger wallet request fee fallbackLimit keys
    limits).decide

end Plan

/-- `apply_funding_decision`, on the ledger and the wallet that it changes. -/
def applyFundingDecision (plan : FundingPlan) : Action (LedgerState × WalletRecord) PyError Unit :=
  if plan.canFund = false ∨ plan.fundingSource = none then
    throw (.valueError "Cannot apply an unfunded decision.")
  else modify fun (ledger, wallet) =>
    ({ ledger with
        computeReserveBalanceAtomic := plan.reserveAfterAtomic
        validatorFeePoolAtomic := ledger.validatorFeePoolAtomic + plan.feeQuote.settlementFeeAtomic
        aiDevelopmentFeePoolAtomic :=
          ledger.aiDevelopmentFeePoolAtomic + plan.feeQuote.aiDevelopmentFeeAtomic
        txFeePoolAtomic := ledger.txFeePoolAtomic + plan.feeQuote.txFeeAtomic
        workerDistributedAtomic :=
          ledger.workerDistributedAtomic + plan.feeQuote.workerRewardAtomic
        settlementsApplied := ledger.settlementsApplied + 1 },
      { wallet with spendableBalanceAtomic := plan.walletAfterAtomic })

/-! ### What a plan takes from the two balances -/

/-- The amounts that are taken from the reserve and from the wallet. -/
structure Debits where
  reserve : Int
  wallet : Int

/-- The ways to take a cost and a fee from two balances: the payer of each has it. -/
inductive Payable (cost fee reserve wallet : Int) : Debits → Prop
  | shared : cost ≤ reserve → fee ≤ wallet → Payable cost fee reserve wallet ⟨cost, fee⟩
  | byReserve : cost + fee ≤ reserve → Payable cost fee reserve wallet ⟨cost + fee, 0⟩
  | byWallet : cost + fee ≤ wallet → Payable cost fee reserve wallet ⟨0, cost + fee⟩

section Payable

variable {cost fee reserve wallet : Int} {debits : Debits}

theorem Payable.total (h : Payable cost fee reserve wallet debits) :
    debits.reserve + debits.wallet = cost + fee := by
  cases h <;> simp

/-- A balance is between its previous value and zero, or the previous value where that is below. -/
def Lowered (before after : Int) : Prop := min before 0 ≤ after ∧ after ≤ before

/-- **Amounts that are not negative lower the balances**, and not below zero. -/
theorem Payable.lowered (h : Payable cost fee reserve wallet debits) (hcost : 0 ≤ cost)
    (hfee : 0 ≤ fee) :
    Lowered reserve (reserve - debits.reserve) ∧ Lowered wallet (wallet - debits.wallet) := by
  cases h <;> simp only [Lowered] <;> omega

end Payable

/-- The balances and the allowances cover a request, under a payment preference. -/
def Covered (preference : PaymentPreference) (limits : List (String × Int)) (spent : String → Int)
    (cost fee reserve wallet : Int) : Prop :=
  let allowed := ∀ entry ∈ limits, spent entry.1 + cost ≤ entry.2
  match preference with
  | .reserveOnly => allowed ∧ cost ≤ reserve ∧ fee ≤ wallet
  | .walletOnly => cost + fee ≤ wallet
  | .auto => (allowed ∧ cost ≤ reserve ∧ fee ≤ wallet) ∨ (allowed ∧ cost + fee ≤ reserve) ∨
      cost + fee ≤ wallet

namespace FundingTerms

variable {terms : FundingTerms}

/-- The balances and the allowances cover the request of the terms. -/
def Covers (terms : FundingTerms) : Prop :=
  Covered terms.paymentPreference terms.limits terms.spent terms.quote.computeCostAtomic
    terms.quote.txFeeAtomic terms.reserveBefore terms.walletBefore

/-- An accepted plan: what it takes is payable, and leaves the rest. -/
structure Funds (terms : FundingTerms) (plan : FundingPlan) (debits : Debits) : Prop where
  canFund : plan.canFund = true
  source : plan.fundingSource ≠ none
  payable : Payable terms.quote.computeCostAtomic terms.quote.txFeeAtomic terms.reserveBefore
    terms.walletBefore debits
  reserveAfter : plan.reserveAfterAtomic = terms.reserveBefore - debits.reserve
  walletAfter : plan.walletAfterAtomic = terms.walletBefore - debits.wallet

theorem reserveLimitExceeded_eq_false : terms.reserveLimitExceeded = false ↔
    ∀ entry ∈ terms.limits, terms.spent entry.1 + terms.quote.computeCostAtomic ≤ entry.2 := by
  simp [reserveLimitExceeded, List.any_eq_false]

theorem funds_fundByReserve (hreserve : terms.quote.computeCostAtomic ≤ terms.reserveBefore)
    (hwallet : terms.quote.txFeeAtomic ≤ terms.walletBefore) :
    Funds terms (terms.fundByReserve reason)
      ⟨terms.quote.computeCostAtomic, terms.quote.txFeeAtomic⟩ :=
  ⟨rfl, nofun, .shared hreserve hwallet, rfl, rfl⟩

theorem funds_fundAllByReserve
    (h : terms.quote.computeCostAtomic + terms.quote.txFeeAtomic ≤ terms.reserveBefore) :
    Funds terms (terms.fundAllByReserve reason)
      ⟨terms.quote.computeCostAtomic + terms.quote.txFeeAtomic, 0⟩ :=
  ⟨rfl, nofun, .byReserve h, rfl, (sub_zero _).symm⟩

theorem funds_fundByWallet
    (h : terms.quote.computeCostAtomic + terms.quote.txFeeAtomic ≤ terms.walletBefore) :
    Funds terms (terms.fundByWallet reason)
      ⟨0, terms.quote.computeCostAtomic + terms.quote.txFeeAtomic⟩ :=
  ⟨rfl, nofun, .byWallet h, (sub_zero _).symm, rfl⟩

/-- **The branches of a plan**: a covered request is funded, any other is rejected. -/
theorem decide_cases : (terms.Covers ∧ ∃ debits, Funds terms terms.decide debits) ∨
      (¬ terms.Covers ∧ ∃ reason, terms.decide = terms.reject reason) := by
  unfold decide Covers Covered
  cases terms.paymentPreference with
  | reserveOnly =>
    simp only
    rw [← reserveLimitExceeded_eq_false]
    split
    · rename_i hexceeded
      exact .inr ⟨by simp [hexceeded], _, rfl⟩
    split
    · exact .inr ⟨by omega, _, rfl⟩
    split
    · exact .inr ⟨by omega, _, rfl⟩
    · rename_i hexceeded hreserve hwallet
      exact .inl ⟨⟨by simpa using hexceeded, not_lt.mp hreserve, not_lt.mp hwallet⟩, _,
        funds_fundByReserve (not_lt.mp hreserve) (not_lt.mp hwallet)⟩
  | walletOnly =>
    simp only
    split
    · exact .inr ⟨by omega, _, rfl⟩
    · rename_i hwallet
      exact .inl ⟨not_lt.mp hwallet, _, funds_fundByWallet (not_lt.mp hwallet)⟩
  | auto =>
    simp only
    rw [← reserveLimitExceeded_eq_false]
    split
    · rename_i h
      exact .inl ⟨.inl h, _, funds_fundByReserve h.2.1 h.2.2⟩
    split
    · rename_i h
      exact .inl ⟨.inr (.inl h), _, funds_fundAllByReserve h.2⟩
    split
    · rename_i h
      exact .inl ⟨.inr (.inr h), _, funds_fundByWallet h⟩
    · rename_i hshared hreserve hwallet
      exact .inr ⟨by tauto, _, rfl⟩

end FundingTerms

/-! ### Sound funding -/

/-- What an applied plan did to the ledger and the wallet, for a compute cost. -/
structure AppliedSoundly (cost : Int) (quote : FeeQuote)
    (before after : LedgerState × WalletRecord) : Prop where
  debits : (before.1.computeReserveBalanceAtomic - after.1.computeReserveBalanceAtomic) +
    (before.2.spendableBalanceAtomic - after.2.spendableBalanceAtomic) = cost + quote.txFeeAtomic
  shares : cost =
    quote.workerRewardAtomic + quote.settlementFeeAtomic + quote.aiDevelopmentFeeAtomic
  nonneg : 0 ≤ cost ∧ 0 ≤ quote.txFeeAtomic ∧ 0 ≤ quote.workerRewardAtomic ∧
    0 ≤ quote.settlementFeeAtomic ∧ 0 ≤ quote.aiDevelopmentFeeAtomic
  reserve : Lowered before.1.computeReserveBalanceAtomic after.1.computeReserveBalanceAtomic
  wallet : Lowered before.2.spendableBalanceAtomic after.2.spendableBalanceAtomic

section Sound

variable (host : Host) (ip : IpTexts) (money : MoneyPolicy) (spent : String → Int)
  (ledger : LedgerState) (wallet : WalletRecord) (request : FundingRequest)

/-- Accepted plans are for costs that are not negative and are applied soundly; a rejected plan
cannot be applied, and the attempt changes nothing. -/
def FundingSound : Prop :=
  ∀ plan, planFunding host ip money spent ledger wallet request = .ok plan →
    (plan.canFund = true → 0 ≤ request.computeCostAtomic ∧
      ∃ after, applyFundingDecision plan (ledger, wallet) = (.ok (), after) ∧
        AppliedSoundly request.computeCostAtomic plan.feeQuote (ledger, wallet) after) ∧
    (plan.canFund = false → plan.reserveAfterAtomic = ledger.computeReserveBalanceAtomic ∧
      plan.walletAfterAtomic = wallet.spendableBalanceAtomic ∧
      ∃ e, applyFundingDecision plan (ledger, wallet) = (.error e, (ledger, wallet)))

/-- The two fee rates are shares of the cost, in basis points. -/
def FeeRatesInRange : Prop :=
  (0 ≤ money.validatorSettlementFeeBps ∧ money.validatorSettlementFeeBps ≤ 10000) ∧
    0 ≤ money.aiDevelopmentFeeBps ∧ money.aiDevelopmentFeeBps ≤ 10000

instance : Decidable (FeeRatesInRange money) := inferInstanceAs (Decidable (_ ∧ _))

/-- The transaction fee and the limits that are read from the policy for a request. -/
def FundingReads (fee : Int) (limits : List (String × Int)) : Prop :=
  resolvedTxFee host money request.txFeeAtomic = .ok fee ∧
    (∃ fallbackLimit, dailyUserReserveLimit host money = .ok fallbackLimit) ∧
    ∃ keys, resolvedIdentityKeys host ip money wallet.walletId request = .ok keys ∧
      reserveIdentityLimits host money keys = .ok limits

/-- The amounts of a request are not negative, and the two fees leave something of the cost or
nothing. -/
def WellPriced (fee : Int) : Prop :=
  0 ≤ request.computeCostAtomic ∧ 0 ≤ fee ∧
    request.computeCostAtomic * money.validatorSettlementFeeBps / 10000 +
      request.computeCostAtomic * money.aiDevelopmentFeeBps / 10000 ≤ request.computeCostAtomic

variable {host ip money spent ledger wallet request}

/-- Rates that together are a share of the cost leave the worker the rest. -/
theorem wellPriced_of_rates {fee : Int}
    (hsum : money.validatorSettlementFeeBps + money.aiDevelopmentFeeBps ≤ 10000)
    (hcost : 0 ≤ request.computeCostAtomic) (hfee : 0 ≤ fee) : WellPriced money request fee := by
  refine ⟨hcost, hfee, ?_⟩
  have hfees : request.computeCostAtomic * money.validatorSettlementFeeBps +
      request.computeCostAtomic * money.aiDevelopmentFeeBps ≤
        request.computeCostAtomic * 10000 := by
    rw [← mul_add]
    exact mul_le_mul_of_nonneg_left hsum hcost
  omega

/-- What `plan_funding` returns. -/
theorem planFunding_ok : planFunding host ip money spent ledger wallet request = .ok plan ↔
      ∃ fee, resolvedTxFee host money request.txFeeAtomic = .ok fee ∧
        ∃ fallbackLimit, dailyUserReserveLimit host money = .ok fallbackLimit ∧
        ∃ keys, resolvedIdentityKeys host ip money wallet.walletId request = .ok keys ∧
        ∃ limits, reserveIdentityLimits host money keys = .ok limits ∧
          (fundingTerms host ip money spent ledger wallet request fee fallbackLimit keys
            limits).decide = plan := by
  simp only [planFunding, bind_eq_ok, pure_eq_ok]

theorem applyFundingDecision_unfunded (h : plan.canFund = false) :
    applyFundingDecision plan (ledger, wallet) =
      (.error (.valueError "Cannot apply an unfunded decision."), (ledger, wallet)) := by
  rw [applyFundingDecision, if_pos (.inl h)]
  rfl

/-- **An applied plan leaves the balances it announced.** -/
theorem applyFundingDecision_funded (ledger : LedgerState) (wallet : WalletRecord)
    (hfund : plan.canFund = true) (hsource : plan.fundingSource ≠ none) :
    ∃ after, applyFundingDecision plan (ledger, wallet) = (.ok (), after) ∧
      after.1.computeReserveBalanceAtomic = plan.reserveAfterAtomic ∧
      after.2.spendableBalanceAtomic = plan.walletAfterAtomic := by
  rw [applyFundingDecision, if_neg (by simp [hfund, hsource])]
  exact ⟨_, rfl, rfl, rfl⟩

/-- The quote of a plan is that of its terms. -/
theorem FundingTerms.decide_feeQuote (terms : FundingTerms) :
    terms.decide.feeQuote = terms.quote := by
  unfold FundingTerms.decide
  cases terms.paymentPreference with
  | reserveOnly => simp only; repeat' split
                   all_goals rfl
  | walletOnly => simp only; split <;> rfl
  | auto => simp only; repeat' split
            all_goals rfl

/-- The shares of a quote with rates in range. -/
theorem feeQuote_shares {cost : Int} (fee : Int) (hrates : FeeRatesInRange money)
    (hcost : 0 ≤ cost) : 0 ≤ (feeQuote money cost fee).settlementFeeAtomic ∧
      0 ≤ (feeQuote money cost fee).aiDevelopmentFeeAtomic ∧
      0 ≤ (feeQuote money cost fee).workerRewardAtomic ∧
      (cost = (feeQuote money cost fee).workerRewardAtomic +
          (feeQuote money cost fee).settlementFeeAtomic +
          (feeQuote money cost fee).aiDevelopmentFeeAtomic ↔
        cost * money.validatorSettlementFeeBps / 10000 +
          cost * money.aiDevelopmentFeeBps / 10000 ≤ cost) := by
  have hsettlement := mul_nonneg hcost hrates.1.1
  have hai := mul_nonneg hcost hrates.2.1
  simp only [feeQuote]
  omega

/-- **When a funded plan is applied soundly.** -/
theorem appliedSoundly_iff {terms : FundingTerms} {debits : Debits} {fee : Int}
    {after : LedgerState × WalletRecord} (hrates : FeeRatesInRange money)
    (hfunds : FundingTerms.Funds terms plan debits)
    (hquote : terms.quote = feeQuote money request.computeCostAtomic fee)
    (hreserve : terms.reserveBefore = ledger.computeReserveBalanceAtomic)
    (hwallet : terms.walletBefore = wallet.spendableBalanceAtomic)
    (hafter : after.1.computeReserveBalanceAtomic = plan.reserveAfterAtomic ∧
      after.2.spendableBalanceAtomic = plan.walletAfterAtomic)
    (hcost : 0 ≤ request.computeCostAtomic) :
    AppliedSoundly request.computeCostAtomic terms.quote (ledger, wallet) after ↔
      WellPriced money request fee := by
  have hpayable : Payable request.computeCostAtomic fee ledger.computeReserveBalanceAtomic
      wallet.spendableBalanceAtomic debits := by
    have h := hfunds.payable
    rw [hquote, hreserve, hwallet] at h
    exact h
  have hreserveAfter := hafter.1.trans hfunds.reserveAfter
  have hwalletAfter := hafter.2.trans hfunds.walletAfter
  rw [hreserve] at hreserveAfter
  rw [hwallet] at hwalletAfter
  obtain ⟨hsettlement, hai, hworker, hshares⟩ := feeQuote_shares fee hrates hcost
  rw [hquote]
  constructor
  · intro h
    exact ⟨hcost, h.nonneg.2.1, hshares.mp h.shares⟩
  · rintro ⟨-, hfee, hfees⟩
    obtain ⟨hlowerReserve, hlowerWallet⟩ := hpayable.lowered hcost hfee
    have htotal := hpayable.total
    refine ⟨?_, hshares.mpr hfees, ⟨hcost, hfee, hworker, hsettlement, hai⟩, ?_, ?_⟩
    · show (ledger.computeReserveBalanceAtomic - after.1.computeReserveBalanceAtomic) +
        (wallet.spendableBalanceAtomic - after.2.spendableBalanceAtomic) =
          request.computeCostAtomic + fee
      rw [hreserveAfter, hwalletAfter]
      omega
    · rw [hreserveAfter]
      exact hlowerReserve
    · rw [hwalletAfter]
      exact hlowerWallet

/-- **When funding is sound.**  For every ledger, wallet, request and policy with rates in range,
an accepted plan is for a cost that is not negative, takes the cost and the fee from the two
balances, which do not rise and do not fall below zero, and splits the cost into shares that are not
negative, and a rejected plan changes nothing, exactly when every request that the balances and
the allowances cover has a cost and a fee that are not negative and fees within the cost. -/
theorem fundingSound_iff (hrates : FeeRatesInRange money) :
    FundingSound host ip money spent ledger wallet request ↔
      ∀ fee limits, FundingReads host ip money wallet request fee limits →
        Covered request.paymentPreference limits spent request.computeCostAtomic fee
          ledger.computeReserveBalanceAtomic wallet.spendableBalanceAtomic →
        WellPriced money request fee := by
  constructor
  · rintro hsound fee limits ⟨hfee, ⟨fallbackLimit, hfallback⟩, keys, hkeys, hlimits⟩ hcovered
    have hplan : planFunding host ip money spent ledger wallet request = .ok _ :=
      planFunding_ok.mpr ⟨fee, hfee, fallbackLimit, hfallback, keys, hkeys, limits, hlimits, rfl⟩
    obtain ⟨hcovers, debits, hfunds⟩ | ⟨huncovered, -⟩ := (fundingTerms host ip money spent ledger
      wallet request fee fallbackLimit keys limits).decide_cases
    · obtain ⟨hcost, after, happly, happlied⟩ := (hsound _ hplan).1 hfunds.canFund
      obtain ⟨after', happly', hafter⟩ :=
        applyFundingDecision_funded ledger wallet hfunds.canFund hfunds.source
      have hsame : after' = after := (Prod.mk.inj (happly'.symm.trans happly)).2
      rw [hsame] at hafter
      rw [FundingTerms.decide_feeQuote] at happlied
      exact (appliedSoundly_iff hrates hfunds rfl rfl rfl hafter hcost).mp happlied
    · exact absurd hcovered huncovered
  · intro hpriced plan hplan
    obtain ⟨fee, hfee, fallbackLimit, hfallback, keys, hkeys, limits, hlimits, rfl⟩ :=
      planFunding_ok.mp hplan
    obtain ⟨hcovers, debits, hfunds⟩ | ⟨-, reason, hreject⟩ := (fundingTerms host ip money spent
      ledger wallet request fee fallbackLimit keys limits).decide_cases
    · refine ⟨fun _ => ?_, fun hrejected => absurd (hfunds.canFund.symm.trans hrejected) nofun⟩
      have hwell := hpriced fee limits ⟨hfee, ⟨fallbackLimit, hfallback⟩, keys, hkeys, hlimits⟩
        hcovers
      obtain ⟨after, happly, hafter⟩ :=
        applyFundingDecision_funded ledger wallet hfunds.canFund hfunds.source
      refine ⟨hwell.1, after, happly, ?_⟩
      rw [FundingTerms.decide_feeQuote]
      exact (appliedSoundly_iff hrates hfunds rfl rfl rfl hafter hwell.1).mpr hwell
    · rw [hreject]
      exact ⟨nofun, fun hrejected => ⟨rfl, rfl, _, applyFundingDecision_unfunded hrejected⟩⟩

end Sound

section Sample

/-- A wallet with two transaction fees. -/
def sampleFundingWallet : WalletRecord where
  walletId := "w"
  address := "ca978112ca1bbdcafac231b39a23dc4d"
  spendableBalanceAtomic := 20000

/-- No address is read as one. -/
def sampleIpTexts : IpTexts := ⟨fun _ => none, fun _ => none⟩

/-- The policy of the test network. -/
def sampleFundingMoney : MoneyPolicy := moneyPolicyForWalletPolicy sampleHost samplePolicy

/-- A reserve of one hundred. -/
def sampleFundingLedger : LedgerState where
  computeReserveBalanceAtomic := 100
  projectTreasuryBalanceAtomic := 0

/-- A request that the reserve shall pay for. -/
def sampleFundingRequest (cost : Int) : FundingRequest :=
  ⟨cost, .reserveOnly, none, none, none, none⟩

theorem sampleFunding_plan :
    planFunding sampleHost sampleIpTexts sampleFundingMoney (fun _ => 0) sampleFundingLedger
        sampleFundingWallet (sampleFundingRequest (-5)) =
      .ok (fundingTerms sampleHost sampleIpTexts sampleFundingMoney (fun _ => 0)
        sampleFundingLedger sampleFundingWallet (sampleFundingRequest (-5)) 10000 (some 100000000)
        ["wallet:w"] [("wallet:w", 100000000)]).decide := by
  refine planFunding_ok.mpr ⟨_, ?_, _, ?_, _, ?_, _, ?_, rfl⟩ <;> decide +kernel

theorem fundingSound_iff_sample :
    FundingSound sampleHost sampleIpTexts sampleFundingMoney (fun _ => 0) sampleFundingLedger
      sampleFundingWallet (sampleFundingRequest 60) := by
  refine (fundingSound_iff (by decide +kernel)).mpr fun fee limits hreads _ => ?_
  have hfee : resolvedTxFee sampleHost sampleFundingMoney none = .ok 10000 := by decide +kernel
  have hsame : fee = 10000 := Except.ok.inj (hreads.1.symm.trans hfee)
  rw [hsame]
  exact wellPriced_of_rates (by decide +kernel) (by decide) (by decide)

/-- A request for minus five units is accepted, and the reserve grows. -/
theorem negativeCost_accepted :
    ∃ plan after, planFunding sampleHost sampleIpTexts sampleFundingMoney (fun _ => 0)
        sampleFundingLedger sampleFundingWallet (sampleFundingRequest (-5)) = .ok plan ∧
      plan.canFund = true ∧
      applyFundingDecision plan (sampleFundingLedger, sampleFundingWallet) = (.ok (), after) ∧
      after.1.computeReserveBalanceAtomic = 105 ∧ after.2.spendableBalanceAtomic = 10000 := by
  refine ⟨_, _, sampleFunding_plan, by decide +kernel, rfl, by decide +kernel, by decide +kernel⟩

end Sample

end CaiNetwork
