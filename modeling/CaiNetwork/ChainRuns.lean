/-
CaiNetwork/ChainRuns.lean

Everything that writes the chain file, over whole runs.

Five operations write it: the creation of the genesis block, an append, a developer fund
distribution, a wallet transfer and a merge (`ChainOp`).  From the empty file on, with addresses
in normal form, the file holds a chain that the validator accepts, and an operation that raises
leaves it alone, but for a distribution that creates the genesis block before it looks at its
recipients (`chainRuns_sound`).  No block is taken away but by a merge with authority over the
chain (`chainRuns_history`).
-/

import Mathlib.Algebra.Order.Group.Int
import CaiNetwork.Machine
import CaiNetwork.Reread
import CaiNetwork.MergeSafety
import CaiNetwork.Transfer

namespace CaiNetwork

open List

variable {host : Host} {policy : WalletPolicy}

variable {tx : ChainTransaction} {moment : Moment} {transactions : List ChainTransaction}

/-! ### Operations -/

/-- An operation on the chain file, with everything it reads besides the file. -/
inductive ChainOp
  | genesis (moment : Moment)
  | append (moment : Moment) (validatorId : Option String) (transactions : List ChainTransaction)
  | developerFund (moment : Moment) (args : DistributionArgs)
  | walletTransfer (moment : Moment) (context : TransferContext) (args : TransferArgs)
  | merge (records : List ValidatorRecord) (clock : Json → Timestamp) (payload : Json)

/-- What an operation raises or returns, without the returned value, and the file after it. -/
def ChainOp.apply (host : Host) (policy : WalletPolicy) : ChainOp → ChainFile → Written Unit
  | .genesis moment, file =>
    let r := ensureChainGenesis host policy (moneyPolicyForWalletPolicy host policy) moment file
    (r.1.map fun _ => (), r.2)
  | .append moment validatorId transactions, file =>
    let r := appendChainBlock host policy moment validatorId transactions file
    (r.1.map fun _ => (), r.2)
  | .developerFund moment args, file =>
    let r := recordDeveloperFundDistribution host policy (moneyPolicyForWalletPolicy host policy)
      moment args file
    (r.1.map fun _ => (), r.2)
  | .walletTransfer moment context args, file =>
    let r := applyWalletTransfer host policy context args moment file
    (r.outcome.map fun _ => (), r.file)
  | .merge records clock payload, file =>
    let r := mergeRemoteChainPayload host policy records clock payload file
    (r.1.map fun _ => (), r.2)

/-- The file after an operation. -/
def ChainOp.after (host : Host) (policy : WalletPolicy) (op : ChainOp) (file : ChainFile) :
    ChainFile :=
  (op.apply host policy file).2

/-- An address in normal form. -/
def NormalAddress (host : Host) (address : String) : Prop := host.normalizeAddress address = address

/-- The addresses that the operation brings in are in normal form.  The transactions of an
append also have their times, which every constructed transaction has, and no empty text in
place of an absent counterparty. -/
def ChainOp.Normal (host : Host) (policy : WalletPolicy) : ChainOp → Prop
  | .genesis _ => True
  | .append _ _ transactions =>
    ∀ tx ∈ transactions, tx.createdAt ≠ "" ∧ NormalAddress host tx.address ∧
      ∀ c, tx.counterpartyAddress = some c → c ≠ "" ∧ NormalAddress host c
  | .developerFund _ args =>
    ∀ kvs, .obj kvs ∈ args.recipients →
      NormalAddress host (host.strOrEmpty (Json.getD kvs "address"))
  | .walletTransfer _ context args =>
    (∀ wallet ∈ context.wallets, NormalAddress host wallet.address) ∧
      NormalAddress host args.recipientAddress ∧
      ∀ record ∈ context.records, NormalAddress host record.validatorId
  | .merge _ clock payload =>
    ∀ kvs raws, payload = .obj kvs → payloadBlocks host policy kvs = .ok raws →
      ∀ raw ∈ raws, ∀ b, remoteBlock? host policy clock raw = some b → ∀ tx ∈ b.transactions,
        NormalAddress host tx.address ∧
          ∀ c, tx.counterpartyAddress = some c → c ≠ "" ∧ NormalAddress host c

/-! ### Transactions with addresses in normal form -/

/-- A transaction that is stored and read without change. -/
def StoredAsIs (host : Host) (tx : ChainTransaction) : Prop :=
  tx.createdAt ≠ "" ∧ TransactionStable host tx

/-- The constructor keeps addresses in normal form; an empty counterparty becomes an absent
one. -/
theorem makeChainTransaction_stored {now : Timestamp} {args : TransactionArgs}
    (haddress : NormalAddress host args.address)
    (hcounterparty : ∀ c, args.counterpartyAddress = some c → NormalAddress host c) :
    StoredAsIs host (makeChainTransaction host now args) := by
  refine ⟨makeChainTransaction_createdAt,
    transactionStable_of_normal (congrArg _ haddress) fun c hc => ?_⟩
  obtain ⟨d, hd, rfl⟩ := Option.map_eq_some_iff.mp hc
  have hsome := eq_some_of_nonempty? hd
  have hne : d ≠ "" := by
    rintro rfl
    rw [hsome, nonempty?, if_pos rfl] at hd
    cases hd
  rw [hcounterparty d hsome]
  exact ⟨hne, hcounterparty d hsome⟩

theorem storedAsIs_fillChainId (h : StoredAsIs host tx) :
    StoredAsIs host (fillChainId policy tx) := by
  rw [fillChainId]
  split
  · refine ⟨h.1, ?_⟩
    have hstable : rereadTransaction host tx = tx := h.2
    show { rereadTransaction host tx with chainId := policy.chainNetwork.value } = _
    rw [hstable]
  · exact h

/-! ### Files that hold a valid chain -/

/-- The file holds a valid chain that is read as it was written. -/
structure Persisted (host : Host) (policy : WalletPolicy) (file : ChainFile)
    (blocks : Chain) : Prop where
  saved : file = saveChainBlocks blocks
  accepted : validateChainBlocks host policy blocks = .ok []
  wellFormed : WellFormed host policy blocks
  dated : ∀ b ∈ blocks, Dated b
  stable : StableChain host blocks

section Persisted

variable {file : ChainFile} {blocks : Chain}

theorem Persisted.nil : Persisted host policy [] [] where
  saved := rfl
  accepted := rfl
  wellFormed := wellFormed_nil
  dated := fun _ hb => by cases hb
  stable := fun _ hb => by cases hb

theorem Persisted.listed (h : Persisted host policy file blocks) (clock : Json → Timestamp) :
    listChainBlocks host policy clock file = .ok blocks := by
  rw [h.saved]
  exact listChainBlocks_save_stable h.accepted h.dated h.wellFormed h.stable

theorem Persisted.genesis (hids : GenesisIdsDistinct host policy)
    (htreasury : NormalAddress host host.developerTreasuryAddress) :
    Persisted host policy (saveChainBlocks [policyGenesis host policy])
      [policyGenesis host policy] where
  saved := rfl
  accepted := policyGenesis_accepted host policy hids
  wellFormed := policyGenesis_wellFormed host policy hids
  dated := fun _ hb => mem_singleton.mp hb ▸ policyGenesis_dated host policy
  stable := policyGenesis_stable host policy htreasury

/-- **An append of transactions that are stored as they are** leaves a valid chain, longer by a
block. -/
theorem Persisted.appended (h : Persisted host policy file blocks)
    {validatorId : Option String} {read : Chain} {block : ChainBlock}
    (happended : Appended host policy moment validatorId transactions file read block)
    (hstored : ∀ tx ∈ transactions, StoredAsIs host tx) :
    Persisted host policy (saveChainBlocks (read ++ [block])) (read ++ [block]) ∧
      blocks <+: read ++ [block] := by
  cases happended.listed.symm.trans (h.listed moment.clock)
  refine ⟨
    { saved := rfl
      accepted := happended.accepted
      wellFormed := (happended.wellFormed h.accepted).1
      dated := happended.dated fun tx htx => (hstored tx htx).1
      stable := ?_ }, prefix_append _ _⟩
  intro b hb
  rcases mem_append.mp hb with hb | hb
  · exact h.stable b hb
  · rw [mem_singleton.mp hb, happended.block_eq]
    intro tx htx
    obtain ⟨new, hnew, rfl⟩ := mem_map.mp htx
    exact (storedAsIs_fillChainId (hstored new (mem_filter.mp hnew).1)).2

/-! ### The genesis block -/

theorem genesisTransactions_positive :
    ∀ tx ∈ genesisChainTransactions host (moneyPolicyForWalletPolicy host policy),
      0 < tx.deltaAtomic := by
  intro tx htx
  simp only [genesisChainTransactions, mem_cons, not_mem_nil, or_false] at htx
  rcases htx with rfl | rfl | rfl
  · show 0 < atomicOfCoins 850000000 8
    decide
  · show 0 < atomicOfCoins 100000000 8
    decide
  · show 0 < atomicOfCoins 50000000 8
    decide

/-- No chain with its full supply takes a block of genesis transactions on top. -/
theorem not_appended_genesis (h : Persisted host policy file blocks) (hne : blocks ≠ [])
    {read : Chain} {block : ChainBlock}
    (happended : Appended host policy moment (some "genesis") (newTransactions read
      (genesisChainTransactions host (moneyPolicyForWalletPolicy host policy))) file read block) :
    False := by
  cases happended.listed.symm.trans (h.listed moment.clock)
  obtain ⟨hwell, hclosing⟩ := happended.wellFormed h.accepted
  have hbefore := ((h.wellFormed.validate_iff hne).mp h.accepted).supply
  have hafter := hclosing.supply
  rw [hwell.total_eq, allTransactions_append, map_append, sum_append,
    ← h.wellFormed.total_eq, hbefore] at hafter
  -- the new block would have to add nothing, but each of its transactions adds something
  have hpositive : ∀ d ∈ (allTransactions [block]).map ChainTransaction.deltaAtomic, 0 < d := by
    intro d hd
    obtain ⟨tx, htx, rfl⟩ := mem_map.mp hd
    rw [allTransactions_cons, allTransactions_nil, append_nil, happended.block_eq] at htx
    obtain ⟨new, hnew, rfl⟩ := mem_map.mp htx
    have hgenesis := (mem_filter.mp (mem_filter.mp hnew).1).1
    rw [show (fillChainId policy new).deltaAtomic = new.deltaAtomic by
      rw [fillChainId]; split <;> rfl]
    exact genesisTransactions_positive new hgenesis
  have hsome : (allTransactions [block]).map ChainTransaction.deltaAtomic ≠ [] := by
    rw [allTransactions_cons, allTransactions_nil, append_nil]
    exact fun hnil => (hwell blocks block [] rfl).transactions_ne (map_eq_nil_iff.mp hnil)
  have hsum := sum_pos _ hpositive hsome
  omega

/-- The genesis block is only ever created on an empty chain. -/
theorem Persisted.ensureChainGenesis_file (h : Persisted host policy file blocks)
    (moment : Moment) :
    (CaiNetwork.ensureChainGenesis host policy (moneyPolicyForWalletPolicy host policy) moment
        file).2 = file ∨
      (blocks = [] ∧ (CaiNetwork.ensureChainGenesis host policy
        (moneyPolicyForWalletPolicy host policy) moment file).2 =
          saveChainBlocks [policyGenesis host policy]) := by
  rcases eq_or_ne blocks [] with rfl | hne
  · refine .inr ⟨rfl, ?_⟩
    rw [CaiNetwork.ensureChainGenesis, h.listed]
    rfl
  left
  rcases ensureChainGenesis_cases (moneyPolicyForWalletPolicy host policy) moment file with
    ⟨r, hr⟩ | ⟨n, read, hread, hlone, hr⟩ | ⟨n, read, block, happended, hr⟩
  · rw [hr]
  · cases hread.symm.trans (h.listed moment.clock)
    rcases hlone with hnil | ⟨b, rfl, hhash⟩
    · exact absurd hnil hne
    · exact absurd (h.wellFormed.head_hash b rfl) hhash
  · exact (not_appended_genesis h hne happended).elim

theorem Persisted.ensureChainGenesis (h : Persisted host policy file blocks)
    (hids : GenesisIdsDistinct host policy)
    (htreasury : NormalAddress host host.developerTreasuryAddress) (moment : Moment) :
    ∃ blocks', Persisted host policy (CaiNetwork.ensureChainGenesis host policy
      (moneyPolicyForWalletPolicy host policy) moment file).2 blocks' ∧ blocks <+: blocks' := by
  rcases h.ensureChainGenesis_file moment with hfile | ⟨rfl, hfile⟩
  · rw [hfile]
    exact ⟨blocks, h, prefix_rfl⟩
  · rw [hfile]
    exact ⟨_, Persisted.genesis hids htreasury, nil_prefix⟩

/-! ### Developer fund distributions -/

/-- The addresses of the system accounts are in normal form. -/
theorem normalAddress_systemAddress {name : String} {money : MoneyPolicy}
    (hname : ∀ c ∈ name.toList, c.toNat < 128 ∧ c.isUpper = false ∧ isSpace c = false)
    (hmark : ∃ c cs, name.toList = c :: cs ∧ c ≠ 'c') :
    NormalAddress host (systemAddress host name money) := by
  show host.normalizeAddress (systemAddress host name money) = _
  conv_lhs => rw [systemAddress_eq hname hmark]
  rfl

theorem mem_prepareRecipients {raws : List Json} {r : PreparedRecipient} :
    ∀ {index : Nat} {seen : List String} {prepared : List PreparedRecipient},
      prepareRecipients host index seen raws = .ok prepared → r ∈ prepared →
      ∃ kvs, .obj kvs ∈ raws ∧
        r.address = host.normalizeAddress (host.strOrEmpty (Json.getD kvs "address")) := by
  induction raws with
  | nil =>
    intro index seen prepared h hr
    cases h
    cases hr
  | cons raw raws ih =>
    intro index seen prepared h hr
    cases raw with
    | obj kvs =>
      rw [prepareRecipients] at h
      obtain ⟨amount, -, h⟩ := bind_eq_ok.mp h
      dsimp only at h
      split at h
      next => cases h
      split at h
      next => cases h
      split at h
      next => cases h
      split at h
      next => cases h
      obtain ⟨more, hmore, h⟩ := bind_eq_ok.mp h
      cases pure_eq_ok.mp h
      rcases mem_cons.mp hr with rfl | hr
      · exact ⟨kvs, mem_cons_self, rfl⟩
      · obtain ⟨kvs', hkvs', haddress⟩ := ih hmore hr
        exact ⟨kvs', mem_cons_of_mem _ hkvs', haddress⟩
    | _ => cases h

theorem distributionPlan_stored {money : MoneyPolicy} {args : DistributionArgs}
    (hplan : distributionPlan host policy money moment args file = .ok transactions)
    (hnormal : ∀ kvs, .obj kvs ∈ args.recipients →
      NormalAddress host (host.strOrEmpty (Json.getD kvs "address"))) :
    ∀ tx ∈ transactions, StoredAsIs host tx := by
  rw [distributionPlan] at hplan
  obtain ⟨read, -, hplan⟩ := bind_eq_ok.mp hplan
  split at hplan
  next => cases hplan
  obtain ⟨prepared, hprepared, hplan⟩ := bind_eq_ok.mp hplan
  split at hplan
  next => cases hplan
  dsimp only at hplan
  split at hplan
  next => cases hplan
  cases pure_eq_ok.mp hplan
  have hfund : NormalAddress host (developerContributionFundChainAddress host money) :=
    normalAddress_systemAddress (by decide) ⟨_, _, rfl, by decide⟩
  intro tx htx
  rcases mem_cons.mp htx with rfl | htx
  · exact makeChainTransaction_stored hfund fun c hc => by cases hc
  · obtain ⟨r, hr, rfl⟩ := mem_map.mp htx
    refine makeChainTransaction_stored ?_ ?_
    · obtain ⟨kvs, hkvs, haddress⟩ := mem_prepareRecipients hprepared hr
      have haddress' := hnormal kvs hkvs
      show NormalAddress host r.address
      rw [haddress, haddress']
      exact haddress'
    · intro c hc
      cases hc
      exact hfund

/-! ### Wallet transfers -/

theorem StoredAsIs.withSignatures (h : StoredAsIs host tx)
    {signature : Option String} {metadata : Fields} :
    StoredAsIs host { tx with signatureB64 := signature, metadata := metadata } := by
  refine ⟨h.1, ?_⟩
  have hstable : rereadTransaction host tx = tx := h.2
  show { rereadTransaction host tx with signatureB64 := signature, metadata := metadata } = _
  rw [hstable]

section Transfer

variable {context : TransferContext} {args : TransferArgs} {now : Timestamp}
  {sender : WalletRecord}

/-- Signing a debit adds fields to what the constructor built. -/
theorem transferDebit_shape {debit : ChainTransaction}
    (hdebit : transferDebit host policy context args now sender = .ok debit) :
    ∃ signing key signature metadata, debit =
      { makeChainTransaction host now
          (transferDebitArgs host policy context args sender signing key) with
        signatureB64 := signature
        metadata := metadata } := by
  rw [transferDebit] at hdebit
  dsimp only at hdebit
  split at hdebit
  next =>
    rw [← Except.ok.inj hdebit]
    exact ⟨[], none, _, _, rfl⟩
  split at hdebit
  next => cases hdebit
  next signer _ =>
  split at hdebit
  next =>
    rw [← pure_eq_ok.mp hdebit]
    exact ⟨_, _, _, _, rfl⟩
  obtain ⟨seed, -, hdebit⟩ := bind_eq_ok.mp hdebit
  obtain ⟨signature, -, hdebit⟩ := bind_eq_ok.mp hdebit
  split at hdebit
  next =>
    obtain ⟨pqSignature, -, hdebit⟩ := bind_eq_ok.mp hdebit
    rw [← pure_eq_ok.mp hdebit]
    exact ⟨_, _, _, _, rfl⟩
  next =>
    rw [← pure_eq_ok.mp hdebit]
    exact ⟨_, _, _, _, rfl⟩

theorem transferDebit_stored {debit : ChainTransaction}
    (hdebit : transferDebit host policy context args now sender = .ok debit)
    (hsender : NormalAddress host sender.address)
    (hrecipient : NormalAddress host (host.normalizeAddress args.recipientAddress)) :
    StoredAsIs host debit := by
  obtain ⟨signing, key, signature, metadata, rfl⟩ := transferDebit_shape hdebit
  apply StoredAsIs.withSignatures
  refine makeChainTransaction_stored hsender fun c hc => ?_
  cases hc
  exact hrecipient

theorem transferFees_stored (hsender : NormalAddress host sender.address)
    (hrecords : ∀ record ∈ listBondedValidators host policy blocks context.records,
      NormalAddress host (normalizeValidatorId host record.validatorId)) :
    ∀ tx ∈ transferFees host policy context args now sender
      (transferCommittee host policy context blocks), StoredAsIs host tx := by
  have hpool : NormalAddress host
      (txFeePoolChainAddress host (moneyPolicyForWalletPolicy host policy)) :=
    normalAddress_systemAddress (by decide) ⟨_, _, rfl, by decide⟩
  have hcounterparty : ∀ c, some sender.address = some c → NormalAddress host c := by
    intro c hc
    cases hc
    exact hsender
  intro tx htx
  rw [transferFees] at htx
  split at htx
  next =>
    rw [mem_singleton.mp htx]
    exact makeChainTransaction_stored hpool hcounterparty
  next =>
    obtain ⟨share, hshare, rfl⟩ := mem_map.mp htx
    refine makeChainTransaction_stored ?_ hcounterparty
    -- the share goes to the id of a record
    obtain ⟨raw, hid, hraw⟩ := mem_splitAmountByValidatorBond host hshare
    obtain ⟨record, hrecord, rfl⟩ := mem_validatorIds_select hraw
    show NormalAddress host share.validatorId
    rw [hid]
    exact hrecords record hrecord

theorem transferTransactions_stored {recipient : Option WalletRecord}
    (htransactions : transferTransactions host policy context args now blocks sender recipient =
      .ok transactions) (hsender : NormalAddress host sender.address)
    (hrecipient : NormalAddress host (host.normalizeAddress args.recipientAddress))
    (hrecords : ∀ record ∈ listBondedValidators host policy blocks context.records,
      NormalAddress host (normalizeValidatorId host record.validatorId)) :
    ∀ tx ∈ transactions, StoredAsIs host tx := by
  rw [transferTransactions] at htransactions
  split at htransactions
  next => cases htransactions
  obtain ⟨debit, hdebit, htransactions⟩ := bind_eq_ok.mp htransactions
  cases pure_eq_ok.mp htransactions
  have hcredit : StoredAsIs host
      (transferCredit host policy context args now sender recipient) := by
    refine makeChainTransaction_stored hrecipient fun c hc => ?_
    cases hc
    exact hsender
  intro tx htx
  rcases mem_cons.mp htx with rfl | htx
  · exact transferDebit_stored hdebit hsender hrecipient
  rcases mem_cons.mp htx with rfl | htx
  · exact hcredit
  · exact transferFees_stored hsender hrecords tx htx

end Transfer

/-! ### Merges -/

/-- What a merge saves.  Without authority it only adds blocks. -/
theorem Persisted.merged (h : Persisted host policy file blocks) {records : List ValidatorRecord}
    {clock : Json → Timestamp} {kvs : Fields} {raws : List Json} {loc saved : Chain}
    (hraws : payloadBlocks host policy kvs = .ok raws)
    (hloc : listChainBlocks host policy clock file = .ok loc)
    (hsaves : MergeSaves host policy records clock kvs raws loc saved)
    (hnormal : (ChainOp.merge records clock (.obj kvs)).Normal host policy) :
    Persisted host policy (saveChainBlocks saved) saved ∧
      (blocks <+: saved ∨ AuthorizesRemoteChain host policy blocks records kvs) := by
  cases hloc.symm.trans (h.listed clock)
  have hstable : ∀ raw ∈ raws, ∀ b, remoteBlock? host policy clock raw = some b →
      ∀ tx ∈ b.transactions, TransactionStable host tx := by
    intro raw hraw b hb tx htx
    obtain ⟨haddress, hcounterparty⟩ := hnormal kvs raws rfl hraws raw hraw b hb tx htx
    exact transactionStable_of_normal haddress hcounterparty
  cases hsaves with
  | adopt hremote hadopt =>
    have hne : saved ≠ [] := by
      rintro rfl
      cases hadopt
    obtain ⟨sorted, hsorted, hread, haccepted⟩ := coerceValidRemoteChain_eq_ok hremote hne
    have hreads := readsAs_of_coerceRemoteBlocks hread
    refine ⟨⟨rfl, haccepted, (wellFormed_of_readsAs hsorted hreads haccepted hne).1,
      dated_of_readsAs hreads, ?_⟩, .inr ⟨chainSignatureError_of_payloadBlocks hraws, ?_⟩⟩
    · intro b hb
      obtain ⟨raw, hraw, hb⟩ := exists_of_mem_forall₂ hreads hb
      exact hstable raw ((sortRawBlocks_eq_ok hsorted).1.mem_iff.mp hraw) b hb.read
    · by_contra hunsigned
      rw [adopt_eq_none h.wellFormed.head_hash fun hsigned => absurd hsigned hunsigned] at hadopt
      cases hadopt
  | @extend sorted st hguard hsorted hst himported hvalid =>
    obtain ⟨new, hblocks, -, hread, -, -⟩ := importBlocks_spec rfl hst
    -- every block was there before or was read from the payload
    have hmem : ∀ b ∈ sortBlocks st.blocks, b ∈ blocks ∨ ∃ raw ∈ raws, ∃ read,
        remoteBlock? host policy clock raw = some read ∧ SameContent read b := by
      intro b hb
      have hb' := (mem_insertionSort blockLe).mp hb
      rw [hblocks] at hb'
      rcases mem_append.mp hb' with hb' | hb'
      · exact .inl hb'
      · obtain ⟨raw, hraw, read, hrest⟩ := hread b hb'
        exact .inr ⟨raw, (sortRawBlocks_eq_ok hsorted).1.mem_iff.mp hraw, read, hrest⟩
    have hwell : WellFormed host policy (sortBlocks st.blocks) := by
      rcases eq_or_ne (sortBlocks st.blocks) [] with hnil | hne
      · rw [hnil]
        exact wellFormed_nil
      · have hsound := ((validateChainBlocks_eq_nil_iff hne).mp hvalid).1
        rwa [sortBlocks_eq_of_heights hsound (pairwise_height_sortBlocks _)] at hsound
    refine ⟨⟨rfl, hvalid, hwell, ?_, ?_⟩, .inl (h.wellFormed.prefix_of_subset hwell fun b hb =>
      (mem_insertionSort blockLe).mpr (hblocks ▸ mem_append_left _ hb))⟩
    · intro b hb
      rcases hmem b hb with hb | ⟨raw, -, read, hread, hsame⟩
      · exact h.dated b hb
      · have hdated := (remoteBlock?_eq_some hread).1
        exact ⟨hsame.createdAt ▸ hdated.createdAt, hsame.transactions ▸ hdated.transactions⟩
    · intro b hb
      rcases hmem b hb with hb | ⟨raw, hraw, read, hread, hsame⟩
      · exact h.stable b hb
      · rw [hsame.transactions]
        exact hstable raw hraw read hread

/-! ### Every operation -/

/-- After the operation the file holds a valid chain.  An operation that raises leaves the file
alone, but for a distribution on an empty chain, which may leave the genesis block it created. -/
def ChainOp.Keeps (host : Host) (policy : WalletPolicy) (op : ChainOp) (file : ChainFile) : Prop :=
  (∃ blocks, Persisted host policy (op.after host policy file) blocks) ∧
    ∀ e, (op.apply host policy file).1 = .error e →
      op.after host policy file = file ∨ ((∃ moment args, op = .developerFund moment args) ∧
        file = [] ∧ op.after host policy file = saveChainBlocks [policyGenesis host policy])

/-- The blocks the operation finds may be replaced by others: it merges a payload with authority
over them. -/
def ChainOp.Rewrites (host : Host) (policy : WalletPolicy) (blocks : Chain) : ChainOp → Prop
  | .merge records _ (.obj kvs) => AuthorizesRemoteChain host policy blocks records kvs
  | _ => False

/-- The operation keeps the file valid, and only a rewriting one takes blocks away. -/
def ChainOp.Follows (host : Host) (policy : WalletPolicy) (op : ChainOp) (file : ChainFile)
    (blocks : Chain) : Prop :=
  op.Keeps host policy file ∧ ∃ blocks', Persisted host policy (op.after host policy file) blocks' ∧
    (blocks <+: blocks' ∨ op.Rewrites host policy blocks)

theorem Persisted.unchanged (h : Persisted host policy file blocks) {op : ChainOp}
    (hfile : op.after host policy file = file) : op.Follows host policy file blocks :=
  ⟨⟨⟨blocks, hfile.symm ▸ h⟩, fun _ _ => .inl hfile⟩, blocks, hfile.symm ▸ h, .inl prefix_rfl⟩

theorem Persisted.written {after : ChainFile} {blocks' : Chain}
    (h : Persisted host policy after blocks') {op : ChainOp}
    (hblocks : blocks <+: blocks' ∨ op.Rewrites host policy blocks)
    (happly : op.apply host policy file = (.ok (), after)) :
    op.Follows host policy file blocks := by
  rw [ChainOp.Follows, ChainOp.Keeps, ChainOp.after, happly]
  exact ⟨⟨⟨blocks', h⟩, fun e hraised => by cases hraised⟩, blocks', h, hblocks⟩

variable (hids : GenesisIdsDistinct host policy)
  (htreasury : NormalAddress host host.developerTreasuryAddress)

include hids htreasury

/-- **One operation** on a file that holds a valid chain. -/
theorem Persisted.follows (h : Persisted host policy file blocks) (op : ChainOp)
    (hnormal : op.Normal host policy) : op.Follows host policy file blocks := by
  cases op with
  | genesis moment =>
    obtain ⟨started, hstarted, hstart⟩ := h.ensureChainGenesis hids htreasury moment
    rcases ensureChainGenesis_cases (moneyPolicyForWalletPolicy host policy) moment file with
      ⟨r, hr⟩ | ⟨n, read, -, -, hr⟩ | ⟨n, read, block, -, hr⟩
    · exact h.unchanged (by rw [ChainOp.after, ChainOp.apply, hr])
    · exact hstarted.written (.inl hstart) (by rw [ChainOp.apply, hr]; rfl)
    · exact hstarted.written (.inl hstart) (by rw [ChainOp.apply, hr]; rfl)
  | append moment validatorId transactions =>
    rcases appendChainBlock_cases moment validatorId transactions file with
      ⟨e, hr⟩ | hr | ⟨read, block, happended, hr⟩
    · exact h.unchanged (by rw [ChainOp.after, ChainOp.apply, hr])
    · exact h.unchanged (by rw [ChainOp.after, ChainOp.apply, hr])
    · obtain ⟨hwritten, hlonger⟩ := h.appended happended fun tx htx => by
        obtain ⟨hcreated, haddress, hcounterparty⟩ := hnormal tx htx
        exact ⟨hcreated, transactionStable_of_normal haddress hcounterparty⟩
      exact hwritten.written (.inl hlonger) (by rw [ChainOp.apply, hr]; rfl)
  | developerFund moment args =>
    obtain ⟨started, hstarted, hstart⟩ := h.ensureChainGenesis hids htreasury moment
    rcases recordDeveloperFundDistribution_cases (moneyPolicyForWalletPolicy host policy) moment
      args file with ⟨e, hr⟩ | ⟨e, hr⟩ | ⟨transactions, read, block, hplan, happended, hr⟩
    · exact h.unchanged (by rw [ChainOp.after, ChainOp.apply, hr])
    · rw [ChainOp.Follows, ChainOp.Keeps, ChainOp.after, ChainOp.apply, hr]
      refine ⟨⟨⟨started, hstarted⟩, fun _ _ => ?_⟩, started, hstarted, .inl hstart⟩
      rcases h.ensureChainGenesis_file moment with hfile | ⟨rfl, hfile⟩
      · exact .inl hfile
      · exact .inr ⟨⟨moment, args, rfl⟩, h.saved, hfile⟩
    · obtain ⟨hwritten, hlonger⟩ :=
        hstarted.appended happended (distributionPlan_stored hplan hnormal)
      exact hwritten.written (.inl (hstart.trans hlonger)) (by rw [ChainOp.apply, hr]; rfl)
  | walletTransfer moment context args =>
    obtain ⟨hwallets, hrecipient, hrecords⟩ := hnormal
    rcases applyWalletTransfer_cases moment file with
      hr | ⟨sender, hsender, recipient, transactions, read, block, hplan, happended, hr, r,
        houtcome⟩
    · exact h.unchanged hr
    have hnormalSender : NormalAddress host sender.address := by
      obtain ⟨wallet, hwallet, rfl⟩ := mem_map.mp hsender
      show NormalAddress host (host.normalizeAddress wallet.address)
      rw [hwallets wallet hwallet]
      exact hwallets wallet hwallet
    have hstored := transferTransactions_stored hplan hnormalSender
      (show NormalAddress host (host.normalizeAddress args.recipientAddress) by
        rw [hrecipient]
        exact hrecipient)
      (fun record hrecord => by
        have hnormal := hrecords record (mem_listBondedValidators.mp hrecord).1
        rw [normalizeValidatorId, hnormal]
        exact hnormal)
    obtain ⟨hwritten, hlonger⟩ := h.appended happended hstored
    exact hwritten.written (.inl hlonger) (by rw [ChainOp.apply, houtcome, hr]; rfl)
  | merge records clock payload =>
    rcases mergeRemoteChainPayload_cases records clock payload file with
      ⟨r, hr⟩ | ⟨kvs, raws, loc, saved, counts, rfl, hraws, hloc, hsaves, hr⟩
    · exact h.unchanged (by rw [ChainOp.after, ChainOp.apply, hr])
    · obtain ⟨hwritten, hblocks⟩ := h.merged hraws hloc hsaves hnormal
      exact hwritten.written hblocks (by rw [ChainOp.apply, hr]; rfl)

/-- An operation leaves a file that holds a valid chain. -/
theorem exists_persisted_after (op : ChainOp) (file : ChainFile)
    (h : ∃ blocks, Persisted host policy file blocks) (hnormal : op.Normal host policy) :
    ∃ blocks, Persisted host policy (op.after host policy file) blocks :=
  h.elim fun _ h => (h.follows hids htreasury op hnormal).1.1

end Persisted

/-! ### Runs -/

/-- A block list that the validator accepts, with what that comes to. -/
structure SoundChain (host : Host) (policy : WalletPolicy) (blocks : Chain) : Prop where
  accepted : validateChainBlocks host policy blocks = .ok []
  heights : ∀ before b after, blocks = before ++ b :: after → b.height = before.length
  links : ∀ before parent b after, blocks = before ++ parent :: b :: after →
    b.previousHash = parent.blockHash
  hashes : ∀ b ∈ blocks, computeBlockHash host b = b.blockHash
  txRoots : ∀ b ∈ blocks, computeTransactionRoot host b.transactions = b.txRoot
  stateRoots : ∀ before b after, blocks = before ++ b :: after →
    computeChainStateRoot host (before ++ [b]) = b.stateRoot
  txIds : ((allTransactions blocks).map ChainTransaction.txId).Nodup
  nonces : ((allTransactions blocks).filterMap (nonceKey host)).Nodup
  balances : ∀ address, 0 ≤ Tally.get address (chainBalanceIndex host blocks)
  supply : blocks ≠ [] → chainTotalBalanceAtomic host blocks =
    expectedTotalSupplyAtomic (moneyPolicyForWalletPolicy host policy)

theorem Persisted.sound {file : ChainFile} {blocks : Chain}
    (h : Persisted host policy file blocks) : SoundChain host policy blocks := by
  have hmem : ∀ b ∈ blocks, ∃ before, BlockAccepted host policy before b := by
    intro b hb
    obtain ⟨before, after, heq⟩ := append_of_mem hb
    exact ⟨before, h.wellFormed before b after heq⟩
  refine
    { accepted := h.accepted
      heights := fun before b after heq => h.wellFormed.height_eq before after b heq
      links := ?_
      hashes := fun b hb => (hmem b hb).elim fun _ hb => hb.hash_eq
      txRoots := fun b hb => (hmem b hb).elim fun _ hb => hb.txRoot.symm
      stateRoots := fun before b after heq => (h.wellFormed before b after heq).stateRoot.symm
      txIds := h.wellFormed.txId_nodup
      nonces := h.wellFormed.nonce_nodup
      balances := ?_
      supply := fun hne => ((h.wellFormed.validate_iff hne).mp h.accepted).supply }
  · intro before parent b after heq
    have hlinked := (h.wellFormed (before ++ [parent]) b after (by rw [heq]; simp)).linked
    rw [LinkedAfter, getLast?_concat] at hlinked
    exact hlinked.2
  · intro address
    rcases eq_or_ne blocks [] with rfl | hne
    · exact le_refl 0
    · exact ((h.wellFormed.validate_iff hne).mp h.accepted).balances address

/-- The creation of the genesis block, then a payment. -/
def sampleOps : List ChainOp :=
  [.genesis sampleMoment, .append sampleMoment none (samplePayment "dd")]

theorem sampleOps_normal : ∀ op ∈ sampleOps, op.Normal sampleHost samplePolicy := by
  simp only [sampleOps, forall_mem_cons]
  refine ⟨trivial, ?_, forall_mem_nil _⟩
  show ∀ tx ∈ samplePayment "dd", _
  simp only [samplePayment, forall_mem_cons]
  have hdate : ("2026-01-02T00:00:00+00:00" : String) ≠ "" := by decide
  exact ⟨⟨hdate, normalize_sampleTreasury, fun c hc => by cases hc⟩,
    ⟨hdate, show sampleHost.normalizeAddress "dd" = "dd" by decide, fun c hc => by cases hc⟩,
    forall_mem_nil _⟩

/-- The blocks that are read before the operation are the first ones that are read after it, unless
it rewrites the chain. -/
def ChainOp.KeepsHistory (host : Host) (policy : WalletPolicy) (op : ChainOp)
    (file after : ChainFile) : Prop :=
  ∃ blocks blocks', (∀ clock, listChainBlocks host policy clock file = .ok blocks) ∧
    (∀ clock, listChainBlocks host policy clock after = .ok blocks') ∧
    (blocks <+: blocks' ∨ op.Rewrites host policy blocks)

/-- **The history of the chain** over every run from the empty file: no block that an operation
finds is changed, dropped or reordered by it, unless the operation merges a payload with
authority over that chain.  Every other operation at most adds blocks at the end. -/
theorem chainRuns_history (hids : GenesisIdsDistinct host policy)
    (htreasury : NormalAddress host host.developerTreasuryAddress) (ops : List ChainOp)
    (hnormal : ∀ op ∈ ops, op.Normal host policy) :
    Machine.EachStep (ChainOp.after host policy) (ChainOp.KeepsHistory host policy) ops [] := by
  have hstep := exists_persisted_after hids htreasury
  apply Machine.eachStep_of_invariant hstep ?_ (Machine.meets_of_forall hnormal)
    ⟨[], Persisted.nil⟩
  rintro op file ⟨blocks, h⟩ hop
  obtain ⟨-, blocks', h', hblocks⟩ := h.follows hids htreasury op hop
  exact ⟨blocks, blocks', h.listed, h'.listed, hblocks⟩

/-- A distribution without recipients. -/
def sampleDistribution : DistributionArgs :=
  { roundId := "r", recipients := [], roundHash := "h", participantsHash := "p" }

theorem sampleGenesis_merge_normal (records : List ValidatorRecord) (clock : Json → Timestamp) :
    (ChainOp.merge records clock (.obj (sampleSignedPayload [sampleGenesis]))).Normal sampleHost
      samplePolicy := by
  rintro kvs raws ⟨⟩ hraws raw hraw b hb
  rw [sampleSignedPayload_blocks, Except.ok.injEq] at hraws
  rw [← hraws, map_singleton, mem_singleton] at hraw
  have hstorable := sampleGenesis_wellFormed.storable
    (fun b hb => mem_singleton.mp hb ▸ policyGenesis_dated _ _) sampleGenesis
    (mem_singleton_self _)
  have hhash : strip sampleGenesis.blockHash ≠ "" := by
    rw [sampleGenesis_blockHash]
    decide
  rw [hraw, remoteBlock?_asdict hstorable hhash, Option.some.injEq,
    rereadBlock_eq_self (sampleGenesis_stable _ (mem_singleton_self _))] at hb
  have htransactions : b.transactions = sampleGenesisTransactions :=
    hb ▸ sampleGenesis_transactions
  rw [htransactions]
  simp only [sampleGenesisTransactions, forall_mem_cons]
  exact ⟨⟨normalize_sampleReserve, fun c hc => by cases hc⟩,
    ⟨normalize_sampleFund, fun c hc => by cases hc⟩,
    ⟨normalize_sampleTreasury, fun c hc => by cases hc⟩, forall_mem_nil _⟩

/-- The genesis block, a payment, a distribution that is refused and the merge of an old payload of
the trusted validator. -/
theorem chainRuns_history_rollback : Machine.EachStep (ChainOp.after sampleHost samplePolicy)
    (ChainOp.KeepsHistory sampleHost samplePolicy) (sampleOps ++
      [.developerFund sampleMoment sampleDistribution,
        .merge [] sampleClock (.obj (sampleSignedPayload [sampleGenesis]))]) [] :=
  chainRuns_history sampleGenesis_idsDistinct normalize_sampleTreasury _
    (forall_mem_append.mpr ⟨sampleOps_normal, forall_mem_cons.mpr
      ⟨fun _ hkvs => absurd hkvs not_mem_nil,
        forall_mem_singleton.mpr (sampleGenesis_merge_normal _ _)⟩⟩)

end CaiNetwork
