/-
CaiNetwork/Pricing.lean

Prices of jobs: the automatic quote under which a job is accepted (`economics.py`), and the compute
cost it is settled with (`execute_job_intent` in `jobs.py`).

A job priced by tokens stores its prices, its multiplier, a floor and a cap.  The reserved cost is
the price of the prompt and of the reserved output between floor and cap; the final cost is the
price of the reported tokens between the same bounds.  Nothing ties the two but the cap: a report of
more tokens than were reserved raises the cost (`settledCost_exceeds`).

What the source computes with floats, the multipliers and the units of a prompt, is an argument
(`PricingMarket`).
-/
import CaiNetwork.FundingPlan
import CaiNetwork.PeerPayload

namespace CaiNetwork

open Json (getD)

/-- `MoneyPolicy`, with the fields that prices are made of and their defaults. -/
structure PricePolicy extends MoneyPolicy where
  automaticTokenPricingEnabled : Bool := true
  automaticPriceFloorCoins : String := "0.00100000"
  automaticPriceCapCoins : String := "0.00500000"
  automaticPricePerInputTokenCoins : String := "0.00000300"
  automaticPricePerOutputTokenCoins : String := "0.00000600"
  automaticPriceDefaultReservedOutputTokens : Int := 128
  automaticPricePerPromptUnitCoins : String := "0.00025000"

/-- What the price of a job depends on beside the policy and the prompt. -/
structure PricingMarket where
  modelMultiplierBps : Int
  loadMultiplierBps : Int
  reserveMultiplierBps : Int
  /-- The length of the prompt in units, rounded up. -/
  promptUnits : Int

def PricingMarket.finalMultiplierBps (market : PricingMarket) : Int :=
  max (market.modelMultiplierBps * market.loadMultiplierBps * market.reserveMultiplierBps /
    (10000 * 10000)) 1000

/-- The fields of `AutomaticPriceQuote` that a job takes over. -/
structure AutomaticPriceQuote where
  pricingBasis : String
  computeCostAtomic : Int
  promptTokensEstimate : Option Int := none
  reservedOutputTokens : Option Int := none
  inputTokenPriceAtomic : Option Int := none
  outputTokenPriceAtomic : Option Int := none
  finalMultiplierBps : Int

/-- The fields of `JobIntent` that its price is made of. -/
structure JobIntent where
  pricingBasis : String
  requestedComputeCostAtomic : Int
  reservedPromptTokens : Option Int := none
  reservedCompletionTokens : Option Int := none
  pricingFinalMultiplierBps : Option Int := none
  pricingFloorAtomic : Option Int := none
  pricingCapAtomic : Option Int := none
  pricingInputTokenPriceAtomic : Option Int := none
  pricingOutputTokenPriceAtomic : Option Int := none
deriving DecidableEq

/-! ### Prices by tokens -/

/-- The prices and bounds that a token price is made of. -/
structure TokenTerms where
  inputPrice : Int
  outputPrice : Int
  multiplierBps : Int
  floor : Int
  cap : Int

namespace TokenTerms

variable (terms : TokenTerms)

/-- `raw_compute_cost_atomic`. -/
def raw (promptTokens completionTokens : Int) : Int :=
  (max promptTokens 0 * terms.inputPrice + max completionTokens 0 * terms.outputPrice) *
    max terms.multiplierBps 1000 / 10000

/-- `bounded_compute_cost_atomic`. -/
def cost (promptTokens completionTokens : Int) : Int :=
  min (max (terms.raw promptTokens completionTokens) terms.floor) terms.cap

theorem floor_le_cost (h : terms.floor ≤ terms.cap) (promptTokens completionTokens : Int) :
    terms.floor ≤ terms.cost promptTokens completionTokens :=
  le_min (le_max_right _ _) h

/-- More tokens are not cheaper. -/
theorem raw_mono (hinput : 0 ≤ terms.inputPrice) (houtput : 0 ≤ terms.outputPrice)
    {promptTokens completionTokens reservedPrompt reservedOutput : Int}
    (hprompt : promptTokens ≤ reservedPrompt) (hcompletion : completionTokens ≤ reservedOutput) :
    terms.raw promptTokens completionTokens ≤ terms.raw reservedPrompt reservedOutput := by
  apply Int.ediv_le_ediv (by decide)
  gcongr

theorem cost_le_iff (promptTokens completionTokens reservedPrompt reservedOutput : Int) :
    terms.cost promptTokens completionTokens ≤ terms.cost reservedPrompt reservedOutput ↔
      terms.raw promptTokens completionTokens ≤
          max (terms.raw reservedPrompt reservedOutput) terms.floor ∨
        terms.cap ≤ max (terms.raw reservedPrompt reservedOutput) terms.floor := by
  rw [cost, cost]
  generalize terms.raw promptTokens completionTokens = used
  generalize terms.raw reservedPrompt reservedOutput = reserved
  omega

end TokenTerms

section Model

variable (host : Host) (policy : PricePolicy)

/-- `coins_to_atomic(coins, money_policy)`. -/
def PricePolicy.atomic (coins : String) : Except PyError Int :=
  coinsToAtomic host coins policy.decimals

/-- A given price, or the policy's. -/
def orPolicyPrice (price : Option Int) (coins : String) : Except PyError Int :=
  price.elim (policy.atomic host coins) .ok

/-- `calculate_token_priced_cost`. -/
def calculateTokenPricedCost (promptTokens completionTokens : Option Int) (multiplierBps : Int)
    (inputPrice outputPrice floor cap : Option Int) : Except PyError Int := do
  let inputPrice ← orPolicyPrice host policy inputPrice policy.automaticPricePerInputTokenCoins
  let outputPrice ← orPolicyPrice host policy outputPrice policy.automaticPricePerOutputTokenCoins
  let floor ← orPolicyPrice host policy floor policy.automaticPriceFloorCoins
  let cap ← orPolicyPrice host policy cap policy.automaticPriceCapCoins
  return TokenTerms.cost ⟨inputPrice, outputPrice, multiplierBps, floor, cap⟩
    (promptTokens.getD 0) (completionTokens.getD 0)

/-! ### Acceptance -/

/-- `estimate_prompt_token_upper_bound`. -/
def estimatePromptTokenUpperBound (prompt : String) : Int := max (strip prompt).length 1

/-- `resolve_reserved_output_tokens`. -/
def resolveReservedOutputTokens (maxOutputTokens : Option Int) : Int :=
  (maxOutputTokens.filter (0 < ·)).getD (max policy.automaticPriceDefaultReservedOutputTokens 1)

/-- `extract_reserved_output_tokens`. -/
def extractReservedOutputTokens (preview : Fields) : Except PyError Int := do
  let maxTokens ← tryInt host (getD preview "max_tokens")
  match maxTokens.filter (0 < ·) with
  | some n => return n
  | none =>
    let maxOutput ← tryInt host (getD preview "max_output_tokens")
    return resolveReservedOutputTokens policy maxOutput

/-- `quote_automatic_compute_price`. -/
def quoteAutomaticComputePrice (market : PricingMarket) (prompt : String)
    (maxOutputTokens : Option Int) : Except PyError AutomaticPriceQuote := do
  let floor ← policy.atomic host policy.automaticPriceFloorCoins
  let cap ← policy.atomic host policy.automaticPriceCapCoins
  let perUnit ← policy.atomic host policy.automaticPricePerPromptUnitCoins
  let multiplier := market.finalMultiplierBps
  if policy.automaticTokenPricingEnabled then
    let promptTokens := estimatePromptTokenUpperBound prompt
    let outputTokens := resolveReservedOutputTokens policy maxOutputTokens
    let inputPrice ← policy.atomic host policy.automaticPricePerInputTokenCoins
    let outputPrice ← policy.atomic host policy.automaticPricePerOutputTokenCoins
    let cost ← calculateTokenPricedCost host policy (some promptTokens) (some outputTokens)
      multiplier (some inputPrice) (some outputPrice) (some floor) (some cap)
    return ⟨"llm_tokens", cost, some promptTokens, some outputTokens, some inputPrice,
      some outputPrice, multiplier⟩
  else
    let base := floor + max (max 1 market.promptUnits - 1) 0 * perUnit
    -- the token price is computed here too, and may raise
    let _ ← calculateTokenPricedCost host policy none none multiplier none none (some floor)
      (some cap)
    return { pricingBasis := "prompt_chars", finalMultiplierBps := multiplier
             computeCostAtomic := min (max (base * multiplier / 10000) floor) cap }

/-- `create_job_intent`, as far as the price: manual where an amount is given, automatic
otherwise. -/
def createJobIntent (market : PricingMarket) (amountCoins : Option String) (prompt : String)
    (preview : Fields) : Except PyError JobIntent := do
  let reservedOutput ← extractReservedOutputTokens host policy preview
  match amountCoins with
  | some coins =>
    let cost ← policy.atomic host coins
    let _ ← policy.atomic host policy.automaticPriceFloorCoins
    let _ ← policy.atomic host policy.automaticPriceCapCoins
    return { pricingBasis := "manual", requestedComputeCostAtomic := cost }
  | none =>
    if strip prompt = "" then
      throw (.valueError
        "Prompt is required when automatic network pricing is used without --amount.")
    let quote ← quoteAutomaticComputePrice host policy market prompt (some reservedOutput)
    let floor ← policy.atomic host policy.automaticPriceFloorCoins
    let cap ← policy.atomic host policy.automaticPriceCapCoins
    return ⟨quote.pricingBasis, quote.computeCostAtomic, quote.promptTokensEstimate,
      quote.reservedOutputTokens, some quote.finalMultiplierBps, some floor, some cap,
      quote.inputTokenPriceAtomic, quote.outputTokenPriceAtomic⟩

/-! ### Reported usage -/

/-- Tokens that are reported for a job. -/
structure TokenUsage where
  promptTokens : Int
  completionTokens : Int

/-- `first_int_value`. -/
def firstIntValue (kvs : Fields) : List String → Except PyError (Option Int)
  | [] => .ok none
  | key :: keys => do
    match ← tryInt host (getD kvs key) with
    | some n => return some n
    | none => firstIntValue kvs keys

/-- `extract_llm_token_usage`, of the response. -/
def extractLlmTokenUsage (response : Fields) : Except PyError (Option TokenUsage) :=
  match getD response "usage" with
  | .obj usage => do
    let prompt ← firstIntValue host usage ["prompt_tokens", "input_tokens"]
    let completion ← firstIntValue host usage ["completion_tokens", "output_tokens"]
    if prompt = none ∧ completion = none then return none
    let _ ← firstIntValue host usage ["total_tokens"]
    return some ⟨max (prompt.getD 0) 0, max (completion.getD 0) 0⟩
  | _ => .ok none

/-- What one shard receipt reports. -/
structure ShardCounts where
  prompt : Option Int
  completion : Option Int
  input : Option Int
  output : Option Int
  total : Option Int

/-- A count that is not negative. -/
def normalCount (n : Option Int) : Int := max 0 (n.getD 0)

/-- The counts of a receipt, unless it has none or only zeros. -/
def shardCounts (metrics : Fields) : Except PyError (Option ShardCounts) := do
  let prompt ← firstIntValue host metrics ["promptTokenCount", "promptTokens", "prompt_tokens"]
  let completion ← firstIntValue host metrics
    ["completionTokenCount", "completionTokens", "completion_tokens"]
  let input ← firstIntValue host metrics ["inputTokenCount", "inputTokens", "input_tokens"]
  let output ← firstIntValue host metrics ["outputTokenCount", "outputTokens", "output_tokens"]
  let total ← firstIntValue host metrics
    ["tokenCount", "totalTokenCount", "totalTokens", "total_tokens", "tokens"]
  if [prompt, completion, input, output, total].all (normalCount · ≤ 0) then return none
  else return some ⟨prompt, completion, input, output, total⟩

/-- `list(v or [])`, which a number or `True` does not allow. -/
def checkIterable : Json → Except PyError Unit
  | .arr _ | .obj _ | .str _ => .ok ()
  | v => if v.truthy then .error .typeError else .ok ()

/-- One turn of the loop over the receipts; what it says of batches and stages is only read. -/
def receiptCounts : Json → Except PyError (Option ShardCounts)
  | .obj receipt =>
    match getD receipt "metrics" with
    | .obj metrics => do
      match ← shardCounts host metrics with
      | none => return none
      | some counts =>
        discard <| host.int ((getD receipt "activationBatchCount").pyOr (.int 0))
        discard <| host.int ((getD receipt "decodeBatchCount").pyOr (.int 0))
        checkIterable (getD receipt "batchIds")
        checkIterable (getD receipt "stageIds")
        return some counts
    | _ => .ok none
  | _ => .ok none

/-- The usage that the receipts of a transport proof add up to. -/
def logicalUsage (counts : List ShardCounts) : Option TokenUsage :=
  let prompt := (counts.filterMap fun c => c.prompt.map (max 0)).max?
  let completion := (counts.filterMap fun c => c.completion.map (max 0)).max?
  let input := (counts.map fun c => normalCount c.input).max?.getD 0
  let output := (counts.map fun c => normalCount c.output).max?.getD 0
  let total := (counts.map fun c => normalCount c.total).max?.getD 0
  match prompt with
  | some prompt => some ⟨prompt, completion.getD output⟩
  | none =>
    if 0 < input then
      some ⟨if 0 < output ∧ output ≤ input then max 0 (input - output) else input, output⟩
    else if 0 < total then some ⟨max 0 (total - output), output⟩
    else if 0 < output then some ⟨0, output⟩
    else none

/-- `extract_cai_owned_transport_token_usage`, of the network audit. -/
def extractTransportTokenUsage (audit : Fields) : Except PyError (Option TokenUsage) :=
  if (getD audit "caiOwnedTransportExecuted").truthy then
    match getD audit "caiOwnedTransportExecutionProof" with
    | .obj proof =>
      match getD proof "shardReceipts" with
      | .arr receipts => do
        let counts ← receipts.mapM (receiptCounts host)
        return logicalUsage (counts.filterMap id)
      | _ => .ok none
    | _ => .ok none
  else .ok none

/-- `merge_llm_token_usage_audit`: the transport proof goes before the response. -/
def reportedUsage (response audit : Fields) : Except PyError (Option TokenUsage) := do
  let responseUsage ← extractLlmTokenUsage host response
  let proofUsage ← extractTransportTokenUsage host audit
  return proofUsage.or responseUsage

/-! ### Settlement -/

/-- `actual_compute_cost_atomic` in `execute_job_intent`. -/
def actualComputeCost (job : JobIntent) (usage : Option TokenUsage) : Except PyError Int :=
  match usage, job.pricingFinalMultiplierBps with
  | some usage, some multiplier =>
    if job.pricingBasis = "llm_tokens" then
      calculateTokenPricedCost host policy usage.promptTokens usage.completionTokens multiplier
        job.pricingInputTokenPriceAtomic job.pricingOutputTokenPriceAtomic job.pricingFloorAtomic
        job.pricingCapAtomic
    else .ok job.requestedComputeCostAtomic
  | _, _ => .ok job.requestedComputeCostAtomic

variable (ip : IpTexts) (spent : String → Int) (ledger : LedgerState) (wallet : WalletRecord)
  (payment : FundingRequest)

/-- A funding plan for a compute cost, or the error of one that cannot be funded. -/
def fundJob (refused : String) (cost : Int) : Except PyError FundingPlan := do
  let plan ← planFunding host ip policy.toMoneyPolicy spent ledger wallet
    { payment with computeCostAtomic := cost }
  if plan.canFund then return plan else throw (.valueError (refused ++ plan.reason))

/-- The decision that `execute_job_intent` settles, from what the execution reports: that of the
reservation, or a new one where the final cost is another. -/
def settleJob (job : JobIntent) (response audit : Fields) : Except PyError FundingPlan := do
  let reservation ← fundJob host policy ip spent ledger wallet payment ""
    job.requestedComputeCostAtomic
  let usage ← reportedUsage host response audit
  let cost ← actualComputeCost host policy job usage
  if cost = job.requestedComputeCostAtomic then return reservation
  else
    fundJob host policy ip spent ledger wallet payment
      "Execution completed, but final token-priced settlement could not be funded: " cost

end Model

/-! ### What is settled against what was reserved -/

/-- The terms a job stores. -/
def JobIntent.terms (job : JobIntent) : Option TokenTerms := do
  let inputPrice ← job.pricingInputTokenPriceAtomic
  let outputPrice ← job.pricingOutputTokenPriceAtomic
  let multiplier ← job.pricingFinalMultiplierBps
  let floor ← job.pricingFloorAtomic
  let cap ← job.pricingCapAtomic
  return ⟨inputPrice, outputPrice, multiplier, floor, cap⟩

/-- The price of the reported tokens is not above that of the reserved ones or the floor, or the cap
is not. -/
def WithinReservation (job : JobIntent) (terms : TokenTerms) (usage : TokenUsage) : Prop :=
  let reserved := max (terms.raw (job.reservedPromptTokens.getD 0)
    (job.reservedCompletionTokens.getD 0)) terms.floor
  terms.raw usage.promptTokens usage.completionTokens ≤ reserved ∨ terms.cap ≤ reserved

variable {host : Host} {policy policy' : PricePolicy} {market : PricingMarket} {prompt : String}
  {preview response audit : Fields} {job : JobIntent} {usage : Option TokenUsage}
  {terms : TokenTerms}
  {ip : IpTexts} {spent : String → Int} {ledger : LedgerState} {wallet : WalletRecord}
  {payment : FundingRequest} {plan : FundingPlan}

/-- **What an accepted job priced by tokens stores**: terms, and the price of the reserved tokens
under them. -/
theorem createJobIntent_tokens (hjob : createJobIntent host policy market none prompt preview =
    .ok job) (hbasis : job.pricingBasis = "llm_tokens") :
    ∃ terms, job.terms = some terms ∧ job.requestedComputeCostAtomic =
      terms.cost (job.reservedPromptTokens.getD 0) (job.reservedCompletionTokens.getD 0) := by
  rw [createJobIntent] at hjob
  obtain ⟨reservedOutput, -, hjob⟩ := bind_eq_ok.mp hjob
  simp only at hjob
  split at hjob
  · cases hjob
  obtain ⟨quote, hquote, hjob⟩ := bind_eq_ok.mp hjob
  rw [quoteAutomaticComputePrice] at hquote
  simp only [bind_eq_ok] at hquote hjob
  obtain ⟨floor, hfloor, cap, hcap, perUnit, -, hquote⟩ := hquote
  obtain ⟨_, hfloor', _, hcap', hjob⟩ := hjob
  obtain rfl := Except.ok.inj (hfloor.symm.trans hfloor')
  obtain rfl := Except.ok.inj (hcap.symm.trans hcap')
  obtain rfl := pure_eq_ok.mp hjob
  split at hquote
  · simp only [bind_eq_ok] at hquote
    obtain ⟨inputPrice, -, outputPrice, -, cost, hcost, hquote⟩ := hquote
    obtain rfl := pure_eq_ok.mp hquote
    exact ⟨_, rfl, (Except.ok.inj hcost).symm⟩
  · simp only [bind_eq_ok] at hquote
    obtain ⟨_, -, hquote⟩ := hquote
    obtain rfl := pure_eq_ok.mp hquote
    exact absurd hbasis (show ("prompt_chars" : String) ≠ "llm_tokens" by decide)

/-- The quote of a funded job is for the cost that was asked for. -/
theorem fundJob_cost {refused : String} {cost : Int} (h : fundJob host policy ip spent ledger wallet
    payment refused cost = .ok plan) : plan.feeQuote.computeCostAtomic = cost := by
  rw [fundJob] at h
  obtain ⟨plan', hplan, h⟩ := bind_eq_ok.mp h
  split at h
  · obtain rfl := pure_eq_ok.mp h
    obtain ⟨fee, -, _, -, _, -, _, -, rfl⟩ := planFunding_ok.mp hplan
    rw [FundingTerms.decide_feeQuote]
    rfl
  · cases h

/-- The cost a job is settled with, from the terms it stores. -/
theorem settleJob_cost (hterms : job.terms = some terms) (hbasis : job.pricingBasis = "llm_tokens")
    (husage : reportedUsage host response audit = .ok usage)
    (h : settleJob host policy ip spent ledger wallet payment job response audit = .ok plan) :
    plan.feeQuote.computeCostAtomic = (usage.map fun u =>
      terms.cost u.promptTokens u.completionTokens).getD job.requestedComputeCostAtomic := by
  have hactual : actualComputeCost host policy job usage = .ok ((usage.map fun u =>
      terms.cost u.promptTokens u.completionTokens).getD job.requestedComputeCostAtomic) := by
    simp only [JobIntent.terms, Option.bind_eq_bind, Option.bind_eq_some_iff, Option.pure_def,
      Option.some.injEq] at hterms
    obtain ⟨inputPrice, hinput, outputPrice, houtput, multiplier, hmultiplier, floor, hfloor, cap,
      hcap, rfl⟩ := hterms
    cases usage with
    | none => rfl
    | some u =>
      unfold actualComputeCost
      rw [hmultiplier]
      show (if job.pricingBasis = "llm_tokens" then _ else _) = _
      rw [if_pos hbasis, hinput, houtput, hfloor, hcap]
      rfl
  rw [settleJob] at h
  obtain ⟨reservation, hreservation, h⟩ := bind_eq_ok.mp h
  rw [husage, ok_bind, hactual, ok_bind] at h
  split at h
  next hsame =>
    obtain rfl := pure_eq_ok.mp h
    rw [fundJob_cost hreservation, hsame]
  next => exact fundJob_cost h

/-- **When a job stays within what was reserved.**  For every accepted job priced by tokens that is
settled, whatever the response and the receipts report: the settled compute cost is at most the
reserved one, and at least the floor where the floor is not above the cap, exactly when the reported
tokens are within the reservation; and so they are if no more of them than the reserved ones are
reported, at prices that are not negative. -/
theorem settledCost_iff (hjob : createJobIntent host policy market none prompt preview = .ok job)
    (hbasis : job.pricingBasis = "llm_tokens") (hterms : job.terms = some terms)
    (husage : reportedUsage host response audit = .ok usage)
    (hplan : settleJob host policy' ip spent ledger wallet payment job response audit = .ok plan) :
    ((plan.feeQuote.computeCostAtomic ≤ job.requestedComputeCostAtomic ∧
        (terms.floor ≤ terms.cap → terms.floor ≤ plan.feeQuote.computeCostAtomic)) ↔
      ∀ u ∈ usage, WithinReservation job terms u) ∧
    (0 ≤ terms.inputPrice → 0 ≤ terms.outputPrice → ∀ u : TokenUsage,
      u.promptTokens ≤ job.reservedPromptTokens.getD 0 →
      u.completionTokens ≤ job.reservedCompletionTokens.getD 0 →
      WithinReservation job terms u) := by
  refine ⟨?_, fun hinput houtput u hprompt hcompletion =>
    .inl (le_max_of_le_left (terms.raw_mono hinput houtput hprompt hcompletion))⟩
  obtain ⟨terms', hterms', hrequested⟩ := createJobIntent_tokens hjob hbasis
  cases hterms.symm.trans hterms'
  rw [settleJob_cost hterms hbasis husage hplan, hrequested]
  cases usage with
  | none =>
    exact iff_of_true ⟨le_rfl, fun h => terms.floor_le_cost h _ _⟩ fun u hu => by cases hu
  | some u =>
    simp only [Option.map_some, Option.getD_some, Option.mem_some_iff, forall_eq']
    rw [terms.cost_le_iff, and_iff_left fun h => terms.floor_le_cost h _ _]
    rfl

/-! A prompt of two letters with one token of output, under the default prices. -/

def samplePrices : PricePolicy := { sampleFundingMoney with }

def sampleMarket : PricingMarket := ⟨10000, 10000, 10000, 1⟩

/-- The price of the job is the floor. -/
def samplePricedJob : JobIntent :=
  ⟨"llm_tokens", 100000, some 2, some 1, some 10000, some 100000, some 500000, some 300, some 600⟩

theorem samplePricedJob_accepted : createJobIntent sampleHost samplePrices sampleMarket none "hi"
    [("max_tokens", .int 1)] = .ok samplePricedJob := by
  decide +kernel

/-- A response that reports so many tokens of the prompt. -/
def sampleResponse (promptTokens : Int) : Fields :=
  [("usage", .obj [("prompt_tokens", .int promptTokens), ("completion_tokens", .int 1)])]

/-- The job is paid from a reserve of a hundredth coin, after such a response. -/
def sampleSettled (promptTokens : Int) : Except PyError FundingPlan :=
  settleJob sampleHost samplePrices sampleIpTexts (fun _ => 0)
    { sampleFundingLedger with computeReserveBalanceAtomic := 1000000 } sampleFundingWallet
    (sampleFundingRequest 0) samplePricedJob (sampleResponse promptTokens) []

/-- A report of a thousand tokens triples the cost that was reserved. -/
theorem settledCost_exceeds :
    createJobIntent sampleHost samplePrices sampleMarket none "hi" [("max_tokens", .int 1)] =
        .ok samplePricedJob ∧
      (sampleSettled 1000).map (·.feeQuote.computeCostAtomic) = .ok 300600 ∧
      samplePricedJob.requestedComputeCostAtomic < 300600 :=
  ⟨samplePricedJob_accepted, by decide +kernel, by decide⟩

/-- A report within the reservation is settled with the reserved cost. -/
theorem settledCost_iff_floor : ∃ plan, sampleSettled 2 = .ok plan ∧
    plan.feeQuote.computeCostAtomic ≤ 100000 ∧ 100000 ≤ plan.feeQuote.computeCostAtomic := by
  have hfunded : (sampleSettled 2).isOk = true := by decide +kernel
  have hterms : samplePricedJob.terms = some ⟨300, 600, 10000, 100000, 500000⟩ := rfl
  have husage : reportedUsage sampleHost (sampleResponse 2) [] = .ok (some ⟨2, 1⟩) := rfl
  rcases hplan : sampleSettled 2 with e | plan
  · rw [hplan] at hfunded
    cases hfunded
  · obtain ⟨hsettled, hwithin⟩ := settledCost_iff samplePricedJob_accepted rfl hterms husage hplan
    obtain ⟨hle, hfloor⟩ := hsettled.mpr fun u hu => by
      cases hu
      exact hwithin (by decide) (by decide) _ (by decide) (by decide)
    exact ⟨plan, rfl, hle, hfloor (by decide)⟩

end CaiNetwork
