/-
CaiNetwork/Spending.lean

Who can debit an address on a valid chain.

Under the Ed25519 scheme and the two hybrid schemes the check of a wallet transfer debit derives the
address from the keys and compares (`spenderAddress_of_verified`).  Under the scheme of fixed
addresses it verifies the signatures and compares nothing, so the scheme a transaction declares
decides whether its debit is bound to its keys (`walletDebit_bound_iff`).
-/

import CaiNetwork.Accepted

namespace CaiNetwork

open List

/-- An address of the keys under which the signature of the transaction verifies. -/
inductive SpenderAddress (host : Host) (tx : ChainTransaction) : String → Prop
  | ed25519 {key signature a : String} : tx.publicKeyB64 = some key →
      tx.signatureB64 = some signature → addressFromPublicKeyB64 key = some a →
      verifyPayloadSignature host key signature (transactionSigningPayload host tx) = true →
      SpenderAddress host tx a
  | hybrid {key signature scheme a : String} : tx.publicKeyB64 = some key →
      tx.signatureB64 = some signature →
      hybridAddressFromPublicKeysB64 key (metadataText host tx "pq_public_key_b64") scheme =
        .ok a →
      verifyHybridPayloadSignature host key signature (metadataText host tx "pq_public_key_b64")
        (metadataText host tx "pq_signature_b64") (transactionSigningPayload host tx) = true →
      SpenderAddress host tx a

variable {host : Host} {policy : WalletPolicy} {tx : ChainTransaction}

/-! ### One transaction -/

/-- **A verified debit is bound to its keys**, whatever scheme it declares other than that of
fixed addresses. -/
theorem spenderAddress_of_verified
    (hverified : verifyChainTransactionSignature host policy tx = .ok none)
    (hdebit : tx.txType ∈ signableWalletTransactionTypes)
    (hscheme : metadataText host tx "address_scheme" ≠ addressSchemeFixedWalletIdSha256) :
    SpenderAddress host tx (host.normalizeAddress tx.address) := by
  have hrequired : signatureRequired tx ≠ false := by
    rw [signatureRequired, decide_eq_true hdebit, Bool.or_true]
    exact Bool.true_eq_false_eq_False
  rw [verifyChainTransactionSignature, if_neg hrequired] at hverified
  split at hverified
  next => cases hverified
  next => cases hverified
  next key signature hkey hsignature =>
  have hkey := eq_some_of_nonempty? hkey
  have hsignature := eq_some_of_nonempty? hsignature
  dsimp only at hverified
  split at hverified
  next => cases hverified
  split at hverified
  next =>
    -- the Ed25519 scheme
    split at hverified
    next => cases hverified
    split at hverified
    next => cases hverified
    next expected hexpected =>
    split at hverified
    next => cases hverified
    next haddress =>
    split at hverified
    next hsigned => exact .ed25519 hkey hsignature (not_not.mp haddress ▸ hexpected) hsigned
    next => cases hverified
  split at hverified
  next =>
    -- the hybrid schemes
    split at hverified
    next => cases hverified
    split at hverified
    next => cases hverified
    split at hverified
    next => cases hverified
    next expected hexpected =>
    split at hverified
    next => cases hverified
    next haddress =>
    split at hverified
    next hsigned => exact .hybrid hkey hsignature (not_not.mp haddress ▸ hexpected) hsigned
    next => cases hverified
  -- the branch of fixed addresses is excluded, and every other scheme is refused
  cases hverified

/-- The forged debit of the sample chain names the treasury's address, which its keys do not
have under any scheme. -/
theorem sampleForgedDebit_unbound :
    ¬SpenderAddress sampleHost sampleForgedDebit (sampleHost.normalizeAddress "c4") := by
  rw [normalize_sampleTreasury]
  have hkey : ∀ {key : String}, sampleForgedDebit.publicKeyB64 = some key → key = "YQ==" :=
    fun h => (Option.some.inj h).symm
  intro hbound
  cases hbound with
  | ed25519 hpublic _ haddress _ =>
    rw [hkey hpublic] at haddress
    exact absurd haddress (by decide)
  | @hybrid _ _ scheme _ hpublic _ haddress _ =>
    rw [hkey hpublic, show metadataText sampleHost sampleForgedDebit "pq_public_key_b64" = "YQ==" by
      decide, hybridAddressFromPublicKeysB64] at haddress
    dsimp only at haddress
    split at haddress
    next hscheme =>
      rw [hybridAddressSchemes, mem_pair] at hscheme
      rcases hscheme with h | h <;> rw [h] at haddress <;> exact absurd haddress (by decide +kernel)
    next => cases haddress

/-! ### Valid chains -/

/-- Every transaction of a valid chain passed the signature check. -/
theorem transactionAccepted_of_accepted {blocks : Chain}
    (hvalid : validateChainBlocks host policy blocks = .ok [])
    (htx : tx ∈ allTransactions blocks) : TransactionAccepted host policy tx := by
  obtain ⟨b, hb, htxb⟩ := mem_flatMap.mp htx
  have hne : blocks ≠ [] := ne_nil_of_mem hb
  have hwell := ((validateChainBlocks_eq_nil_iff hne).mp hvalid).1
  obtain ⟨before, after, heq⟩ := append_of_mem ((mem_insertionSort blockLe).mpr hb)
  exact (hwell before b after heq).transactions tx htxb

/-- **Which declared schemes bind a debit to its keys**: on every valid chain, the address that
a wallet transfer debit takes from is an address of the keys its signature verifies under, and
so someone who can only sign for addresses they hold the keys of holds its key, exactly when
the declared scheme is not that of fixed addresses. -/
theorem walletDebit_bound_iff (scheme : String) :
    (∀ (host : Host) (policy : WalletPolicy) (blocks : List ChainBlock) (tx : ChainTransaction),
      validateChainBlocks host policy blocks = .ok [] → tx ∈ allTransactions blocks →
      tx.txType ∈ signableWalletTransactionTypes → metadataText host tx "address_scheme" = scheme →
      SpenderAddress host tx (host.normalizeAddress tx.address) ∧
        ∀ holdsKeyOf : String → Prop, (∀ a, SpenderAddress host tx a → holdsKeyOf a) →
          holdsKeyOf (host.normalizeAddress tx.address)) ↔
    scheme ≠ addressSchemeFixedWalletIdSha256 := by
  constructor
  · rintro hbound rfl
    have hdebit := hbound sampleHost samplePolicy _ sampleForgedDebit sampleChain_accepted
      (mem_flatMap.mpr ⟨sampleFirst, by simp, mem_cons_self⟩)
      (mem_singleton_self _) (by decide)
    exact sampleForgedDebit_unbound hdebit.1
  · intro hscheme host policy blocks tx hvalid htx hdebit hdeclared
    have hspender : SpenderAddress host tx (host.normalizeAddress tx.address) := by
      apply spenderAddress_of_verified (transactionAccepted_of_accepted hvalid htx).signature hdebit
      rw [hdeclared]
      exact hscheme
    exact ⟨hspender, fun holdsKeyOf hunforgeable => hunforgeable _ hspender⟩

/-- A valid chain on which the treasury is debited under keys that do not have its address. -/
theorem walletDebit_unbound_sample :
    validateChainBlocks sampleHost samplePolicy [sampleGenesis, sampleFirst, sampleSecond] =
        .ok [] ∧
      sampleForgedDebit ∈ allTransactions [sampleGenesis, sampleFirst, sampleSecond] ∧
      sampleForgedDebit.txType = "wallet_transfer_debit" ∧
      verifyChainTransactionSignature sampleHost samplePolicy sampleForgedDebit = .ok none ∧
      metadataText sampleHost sampleForgedDebit "address_scheme" =
        addressSchemeFixedWalletIdSha256 ∧
      ¬SpenderAddress sampleHost sampleForgedDebit
        (sampleHost.normalizeAddress sampleForgedDebit.address) :=
  ⟨sampleChain_accepted, mem_flatMap.mpr ⟨sampleFirst, by simp, mem_cons_self⟩, rfl,
    sampleForgedDebit_accepted.signature, by decide, sampleForgedDebit_unbound⟩

end CaiNetwork
