/-
CaiNetwork/Settlement/Runs.lean

Runs of the settlement operations of one node.

A run is any sequence of the operations of `settlement.py`, on any number of settlements, with
any change of the surrounding files between them.  In a run whose committees come from the node
itself the two sides of a vote never both reach the quorum, a settlement is applied only after a
quorum of accepting bond and stays applied, and its funding is taken in the step that applies it
and in no other (`settlementRuns_safe`).
-/

import CaiNetwork.Machine
import CaiNetwork.Settlement.Finality
import CaiNetwork.Validator.Bonds

namespace CaiNetwork

open List Action

/-! ### Operations -/

/-- An operation of the node on its settlements. -/
inductive SettlementOp
  | fund (money : MoneyPolicy) (moment : Moment) (args : FundingArgs)
  | importProposal (money : MoneyPolicy) (payload : Json)
  | complete (backend : SigningBackend) (money : MoneyPolicy) (moment : Moment)
      (settlementId : String)
  | sign (backend : SigningBackend) (money : MoneyPolicy) (moment : Moment) (settlementId : String)
  | attest (moment : Moment) (args : AttestationArgs)
  | refresh (settlementId : String)
  | apply (money : MoneyPolicy) (moment : Moment) (validatorId : Option String)
      (settlementId : String)
  | reset (backend : SigningBackend) (money : MoneyPolicy) (moment : Moment)
      (settlementId : String)
  | recordPayouts (money : MoneyPolicy) (moment : Moment) (args : PayoutArgs)
  | reconcile (moment : Moment)
  | bindRewardAddress (nodeId address : String)
  | recordChain (money : MoneyPolicy) (moment : Moment) (settlementId : String)
  | recordAllChain (money : MoneyPolicy) (moment : Moment) (onlyIfChainRecorded : Bool)
  /-- Other parts of the program write the chain, the registry and the wallets. -/
  | surroundings (chain : ChainFile) (records : List ValidatorRecord)
      (wallets : List WalletRecord) (unlocked : Option Fields)

variable (host : Host) (policy : WalletPolicy)

/-- The node after an operation, whether it returned or raised. -/
def SettlementOp.after (op : SettlementOp) (node : Node) : Node :=
  match op with
  | fund money moment args => (recordFundingSettlement host policy money moment args node).2
  | importProposal money payload => (importSettlementProposalPayload host money payload node).2
  | complete backend money moment settlementId =>
    (ensureSettlementCommittee host policy backend money moment settlementId node).2
  | sign backend money moment settlementId =>
    (signSettlementEnvelope host backend money moment settlementId node).2
  | attest moment args => (recordValidatorAttestation host policy moment args node).2
  | refresh settlementId => (refreshSettlementFinality settlementId node).2
  | apply money moment validatorId settlementId =>
    (applyFinalizedSettlement host policy money moment validatorId settlementId node).2
  | reset backend money moment settlementId =>
    (resetRetryableSettlementRejection host backend money moment settlementId node).2
  | recordPayouts money moment args => (recordWorkerPayouts host money moment args node).2
  | reconcile moment => (reconcileWorkerPayouts host moment node).2
  | bindRewardAddress nodeId address => (bindWorkerRewardAddress host nodeId address node).2
  | recordChain money moment settlementId =>
    match node.resolveSettlement settlementId with
    | none => node
    | some item => (recordChainEntriesForSettlement host policy money item moment node).2
  | recordAllChain money moment onlyIfChainRecorded =>
    (recordChainEntriesForFinalizedSettlements host policy money moment onlyIfChainRecorded node).2
  | surroundings chain records wallets unlocked => { node with chain, records, wallets, unlocked }

/-- The committees of the run come from the node itself. -/
def SettlementOp.Local : SettlementOp → Prop
  | importProposal _ _ => False
  | _ => True

/-- The random id of a new settlement is none of the ids in use. -/
def SettlementOp.FreshId (op : SettlementOp) (node : Node) : Prop :=
  match op with
  | fund _ moment _ => moment.token ∉ node.settlementIds
  | _ => True

/-- The settlements that an operation may apply, with the money policy and the moment of the
application. -/
def SettlementOp.Applies (op : SettlementOp) (m : MoneyPolicy) (t : Moment)
    (settlementId : String) : Prop :=
  match op with
  | attest moment args => args.Applies host moment m t settlementId
  | apply money moment _ id => m = money ∧ t = moment ∧ settlementId = id
  | _ => False

/-- The reserve and the local source wallet of a settlement that an operation may apply have their
balances on the chain. -/
def SettlementOp.Backed (op : SettlementOp) (node : Node) : Prop :=
  ∀ money moment item, op.Applies host money moment item.settlementId →
    node.resolveSettlement item.settlementId = some item → item.appliedAt = none →
    ¬Unbacked host policy money moment item.funding node

/-- The committee that an operation draws for a settlement, or takes from a proposal where the node
would draw the same. -/
def SettlementOp.Draws (op : SettlementOp) (node : Node) (settlementId : String)
    (committee : ValidatorCommitteeSnapshot) : Prop :=
  match op with
  | fund money moment _ => settlementId = moment.token ∧
      DrawnWith host policy node settlementId money none committee
  | importProposal money payload => ∃ settlement payouts,
      checkProposal host money payload = .ok (settlement, payouts) ∧
      settlementId = settlement.settlementId ∧ DrawnFor host policy money settlement node committee
  | complete _ money _ id => settlementId = id ∧ ∃ item, node.resolveSettlement id = some item ∧
      DrawnFor host policy money item node committee
  | _ => False

/-! ### New settlements -/

variable {host policy} {node : Node} {rule : CommitteeRule}

variable (host) in
/-- A number of a dictionary can be read. -/
theorem intFieldIs_ok {d : Fields} {k : String} {n : Int}
    (h : Json.getD d k = .int n) (m : Int) : ∃ b, intFieldIs host d k m = .ok b := by
  have hint : ∃ v, intField host d k = .ok v := by
    rw [intField, h, Json.pyOr]
    split
    · exact ⟨n, rfl⟩
    · exact ⟨0, rfl⟩
  obtain ⟨v, hv⟩ := hint
  exact ⟨_, bind_eq_ok.mpr ⟨v, hv, rfl⟩⟩

/-- Dictionaries with the numbers that an application compares can be read. -/
theorem appliedSection_ok {quote debits : Fields} {a b c d : Int}
    (hreserve : Json.getD quote "reserve_after_atomic" = .int a)
    (hwallet : Json.getD quote "wallet_after_atomic" = .int b)
    (hreserve' : Json.getD debits "reserve_debit_atomic" = .int c)
    (hwallet' : Json.getD debits "source_wallet_debit_atomic" = .int d)
    (reserveBefore reserveAfter : Int) (moved : Option (Int × Int)) :
    ∃ applied, appliedSection host (.obj quote) (.obj debits) reserveBefore reserveAfter moved =
      .ok applied := by
  have hdict : ∀ kvs : Fields, ((Json.obj kvs).pyOr (.obj [])).asDict = .ok kvs := by
    intro kvs
    cases kvs with
    | nil => rfl
    | cons e kvs => rfl
  have hquote : ∀ {k : String} {n : Int}, Json.getD quote k = .int n → ∀ m, ∃ r,
      (if quote = [] then .ok true else intFieldIs host quote k m) = Except.ok r := by
    intro k n hk m
    split
    · exact ⟨true, rfl⟩
    · exact intFieldIs_ok host hk m
  obtain ⟨reserveMatches, h₁⟩ := intFieldIs_ok host hreserve' (reserveBefore - reserveAfter)
  obtain ⟨quoteReserve, h₂⟩ := hquote hreserve reserveAfter
  rw [appliedSection, hdict, ok_bind, hdict, ok_bind, h₁, ok_bind]
  cases moved with
  | none =>
    dsimp only
    rw [h₂]
    exact ⟨_, rfl⟩
  | some moved =>
    obtain ⟨walletMatches, h₃⟩ := intFieldIs_ok host hwallet' (moved.1 - moved.2)
    obtain ⟨quoteWallet, h₄⟩ := hquote hwallet moved.2
    dsimp only
    rw [h₃, ok_bind, h₂, ok_bind, h₄]
    exact ⟨_, rfl⟩

/-- **The audit of a new settlement can be read.** -/
theorem auditReadable_fundingRecord (money : MoneyPolicy) (moment : Moment) (args : FundingArgs)
    (source : FundingSource) (committee : ValidatorCommitteeSnapshot) :
    AuditReadable host (fundingRecord money moment args source committee) :=
  appliedSection_ok rfl rfl rfl rfl

variable (host policy) in
/-- **What recording a settlement can do**: nothing, or add a record with a committee that the
node draws. -/
theorem recordFundingSettlement_cases (money : MoneyPolicy) (moment : Moment) (args : FundingArgs)
    (node : Node) : (recordFundingSettlement host policy money moment args node).2 = node ∨
    ∃ source committee, DrawnWith host policy node moment.token money none committee ∧
      (recordFundingSettlement host policy money moment args node).2 =
        node.addSettlement (fundingRecord money moment args source committee) := by
  rw [recordFundingSettlement]
  cases args.decision.fundingSource with
  | none => exact .inl rfl
  | some source =>
    rcases drawCommittee_cases host policy money moment moment.token none
      node with ⟨e, hdraw⟩ | ⟨blocks, hblocks, hdraw⟩
    · dsimp only
      rw [bind_of_error hdraw]
      exact .inl rfl
    · dsimp only
      rw [bind_of_ok hdraw]
      exact .inr ⟨source, _, ⟨_, _, hblocks, rfl⟩, rfl⟩

theorem recordSound_fundingRecord {money : MoneyPolicy} {moment : Moment} {args : FundingArgs}
    {source : FundingSource} {committee : ValidatorCommitteeSnapshot}
    {attestations : List ValidatorAttestation} (hallowed : rule.allows moment.token committee) :
    RecordSound rule attestations (fundingRecord money moment args source committee) := by
  refine ⟨fun _ => hallowed, fun hfinal => ?_, iff_of_false (fun h => nomatch h) (fun h => h rfl)⟩
  rcases hfinal with hfinal | hfinal <;> cases hfinal

/-! ### One step -/

/-- The operations that neither record a new settlement nor stand for other programs. -/
def SettlementOp.Settles : SettlementOp → Prop
  | fund _ _ _ => False
  | importProposal _ _ => False
  | surroundings _ _ _ _ => False
  | _ => True

theorem SettlementOp.Draws.drawn {op : SettlementOp} {settlementId : String}
    {committee : ValidatorCommitteeSnapshot}
    (h : op.Draws host policy node settlementId committee) : Drawn host policy committee := by
  cases op with
  | fund money moment args => exact h.2.drawn
  | importProposal money payload =>
    obtain ⟨_, _, -, -, hdrawn⟩ := h
    exact hdrawn.drawn
  | complete backend money moment id =>
    obtain ⟨-, item, -, hdrawn⟩ := h
    exact hdrawn.drawn
  | _ => exact h.elim

/-- **What one operation can do.** -/
theorem SettlementOp.outcome {op : SettlementOp} (hop : op.Settles) (h : Sound rule node)
    (hallowed : ∀ settlementId committee, op.Draws host policy node settlementId committee →
      rule.allows settlementId committee) :
    Outcome host policy rule (op.Applies host) node (op.after host policy node) := by
  cases op with
  | fund money moment args => exact hop.elim
  | importProposal money payload => exact hop.elim
  | surroundings chain records wallets unlocked => exact hop.elim
  | complete backend money moment settlementId =>
    exact (steady_ensureSettlementCommittee backend money moment fun item committee hitem hdrawn =>
      hallowed settlementId committee ⟨rfl, item, hitem, hdrawn⟩).outcome
  | sign backend money moment settlementId =>
    exact (steady_signSettlementEnvelope backend money moment settlementId node).outcome
  | attest moment args => exact recordValidatorAttestation_outcome h
  | refresh settlementId => exact (steady_refreshSettlementFinality settlementId h).outcome
  | apply money moment validatorId settlementId =>
    exact applyFinalizedSettlement_outcome money moment validatorId settlementId h
  | reset backend money moment settlementId =>
    exact (steady_resetRetryableSettlementRejection backend money moment settlementId h).outcome
  | recordPayouts money moment args =>
    exact (steady_recordWorkerPayouts node).outcome
  | reconcile moment => exact (quiet_reconcileWorkerPayouts node).steady.outcome
  | bindRewardAddress nodeId address =>
    have hquiet : Quiet host node (bindWorkerRewardAddress host nodeId address node).2 :=
      .of_same rfl rfl rfl rfl
    exact hquiet.steady.outcome
  | recordChain money moment settlementId =>
    rw [SettlementOp.after]
    cases node.resolveSettlement settlementId with
    | none => exact (Steady.refl node).outcome
    | some item =>
      exact (quiet_recordChainEntriesForSettlement money item moment node).steady.outcome
  | recordAllChain money moment onlyIfChainRecorded =>
    exact (quiet_recordChainEntriesForFinalizedSettlements node).steady.outcome

/-! ### What is safe about the votes -/

/-- Distinct members of a committee that hold two thirds of its bond have accepted. -/
def AcceptedByQuorum (node : Node) (item : SettlementRecord) : Prop :=
  0 < Tally.total item.committeeBondedAtomicByValidatorId ∧
  ∃ voters : List String, voters.Nodup ∧
    (∀ voter ∈ voters, voter ∈ item.committeeValidatorIds ∧
      ∃ vote ∈ node.attestations, vote.settlementId = item.settlementId ∧
        vote.validatorId = voter ∧ vote.accepted = true) ∧
    2 * Tally.total item.committeeBondedAtomicByValidatorId ≤
      3 * (voters.map fun voter =>
        Tally.get voter item.committeeBondedAtomicByValidatorId).sum

/-- The votes of a node are safe: the latest votes of a committee never give the quorum to both
sides, and an applied settlement has a quorum of accepting members. -/
structure VotesSafe (node : Node) : Prop where
  sides : ∀ settlementId item, node.resolveSettlement settlementId = some item →
    0 < item.committeeQuorumBondAtomic →
    ¬(item.committeeQuorumBondAtomic ≤
        item.voteBond true (item.votes (node.attestationsOf settlementId)) ∧
      item.committeeQuorumBondAtomic ≤
        item.voteBond false (item.votes (node.attestationsOf settlementId)))
  applied : ∀ settlementId item, node.resolveSettlement settlementId = some item →
    item.status = .applied → AcceptedByQuorum node item

theorem RecordSound.acceptedByQuorum {item : SettlementRecord}
    (hvotes : VotesOnce node.attestations) (h : RecordSound rule node.attestations item)
    (hstatus : item.status = .finalized ∨ item.status = .applied) : AcceptedByQuorum node item := by
  obtain ⟨hquorum, haccepted⟩ := h.accepted hstatus
  have hcommittee := rule.sound (h.committee hquorum)
  have htotal : 0 < Tally.total item.committeeBondedAtomicByValidatorId :=
    hcommittee.total_pos hquorum
  -- the voters are the members among those who accepted
  let votes := (acceptingVotes item.settlementId node.attestations).filter fun vote =>
    vote.validatorId ∈ item.committeeBondedAtomicByValidatorId.map Prod.fst
  refine ⟨htotal, votes.map ValidatorAttestation.validatorId, ?_, ?_, ?_⟩
  · have hsub : (acceptingVotes item.settlementId node.attestations).Sublist
        (node.attestations.filter fun vote => vote.settlementId = item.settlementId) := by
      rw [acceptingVotes]
      apply monotone_filter_right
      intro vote hvote
      simp only [decide_eq_true_eq] at hvote ⊢
      exact hvote.1
    exact (hvotes.nodup_validators).sublist ((filter_sublist.trans hsub).map _)
  · intro voter hvoter
    obtain ⟨vote, hvote, rfl⟩ := mem_map.mp hvoter
    obtain ⟨haccepting, hmember⟩ := mem_filter.mp hvote
    obtain ⟨hmem, hvote⟩ := mem_filter.mp haccepting
    simp only [decide_eq_true_eq] at hmember hvote
    exact ⟨(hcommittee.ids _).mpr hmember, vote, hmem, hvote.1, rfl, hvote.2⟩
  · have hsum : (votes.map fun vote =>
        Tally.get vote.validatorId item.committeeBondedAtomicByValidatorId).sum =
        item.acceptedBond node.attestations := sum_bonds_members
    have hquorum_eq : item.committeeQuorumBondAtomic =
        quorumBondAtomic (Tally.total item.committeeBondedAtomicByValidatorId) :=
      hcommittee.quorum
    rw [map_map, ← quorumBondAtomic_le_iff htotal, ← hquorum_eq]
    exact haccepted.trans_eq hsum.symm

theorem Sound.votesSafe (h : Sound rule node) : VotesSafe node := by
  refine ⟨fun settlementId item hitem hquorum => ?_, fun settlementId item hitem hstatus => ?_⟩
  · have hsound := h.record settlementId item hitem
    exact (rule.sound (hsound.committee hquorum)).not_both_sides hquorum
  · exact (h.record settlementId item hitem).acceptedByQuorum h.votes (.inr hstatus)

/-! ### Runs -/

/-- What a step does to the settlements that are applied and to their funding: none is taken back,
and either the same are applied as before and nothing is taken, or exactly one is applied for the
first time and its funding is taken. -/
def TakenOnce (host : Host) (policy : WalletPolicy) (op : SettlementOp) (a b : Node) : Prop :=
  (∀ settlementId, Applied a settlementId → Applied b settlementId) ∧
  (((∀ settlementId, Applied b settlementId → Applied a settlementId) ∧
      (∀ ledger, a.ledger = some ledger → b.ledger = some ledger) ∧
      ((∀ chain records wallets unlocked,
        op ≠ .surroundings chain records wallets unlocked) → Credits host a.purse b.purse)) ∨
    ∃ money moment item, op.Applies host money moment item.settlementId ∧
      a.resolveSettlement item.settlementId = some item ∧ ¬Applied a item.settlementId ∧
      (∀ settlementId, Applied b settlementId ↔
        Applied a settlementId ∨ settlementId = item.settlementId) ∧
      FundingTaken host policy money moment item.funding a b)

/-- What a run does: it applies some settlements, each of them once, and the reserve loses what
they take from it. -/
def AppliedOnce (a b : Node) : Prop :=
  ∃ items : List SettlementRecord, (items.map SettlementRecord.settlementId).Nodup ∧
    (∀ item ∈ items, ¬Applied a item.settlementId) ∧
    (∀ settlementId, Applied b settlementId ↔ Applied a settlementId ∨
      settlementId ∈ items.map SettlementRecord.settlementId) ∧
    ∀ ledger, a.ledger = some ledger → ∃ ledger', b.ledger = some ledger' ∧
      ledger'.computeReserveBalanceAtomic = ledger.computeReserveBalanceAtomic -
        (items.map fun item => max 0 item.reserveDebitAtomic).sum

/-- The invariant of the runs. -/
structure RunInv (host : Host) (policy : WalletPolicy) (node : Node) : Prop where
  sound : Sound (.drawn host policy) node
  readable : Readable host node

/-- The conditions on the steps of a run. -/
def SettlementOp.Admissible (host : Host) (policy : WalletPolicy) (op : SettlementOp)
    (node : Node) : Prop :=
  op.Local ∧ op.FreshId node ∧ op.Backed host policy node

variable {op : SettlementOp}

/-- A step that takes nothing goes before the run, and one that applies a settlement adds it. -/
theorem TakenOnce.appliedOnce {a b c : Node} (h : TakenOnce host policy op a b)
    (hrun : AppliedOnce b c) : AppliedOnce a c := by
  obtain ⟨items, hnodup, hfresh, happlied, hreserve⟩ := hrun
  obtain ⟨hkept, ⟨hsame, hledger, -⟩ | ⟨money, moment, item, -, -, hnew, hiff, htaken⟩⟩ := h
  · have hb : ∀ settlementId, Applied b settlementId ↔ Applied a settlementId := fun settlementId =>
      ⟨hsame settlementId, hkept settlementId⟩
    simp only [hb] at hfresh happlied
    exact ⟨items, hnodup, hfresh, happlied, fun ledger hl => hreserve ledger (hledger ledger hl)⟩
  · refine ⟨item :: items, ?_, ?_, ?_, ?_⟩
    · refine nodup_cons.mpr ⟨fun hmem => ?_, hnodup⟩
      obtain ⟨other, hother, hid⟩ := mem_map.mp hmem
      exact hfresh other hother (hid ▸ (hiff _).mpr (.inr rfl))
    · exact forall_mem_cons.mpr ⟨hnew, fun other hother h => hfresh other hother (hkept _ h)⟩
    · intro settlementId
      rw [happlied, hiff, map_cons, mem_cons, or_assoc]
    · intro ledger hl
      obtain ⟨ledger', hl', -, hfall⟩ := htaken.reserve
      obtain ⟨ledger'', hl'', hrest⟩ := hreserve ledger' hl'
      refine ⟨ledger'', hl'', ?_⟩
      rw [hrest, hfall, Node.reserve, hl, map_cons, sum_cons, Option.map_some, Option.getD_some,
        sub_sub]
      rfl

theorem appliedOnce_of_eachStep {ops : List SettlementOp}
    (h : Machine.EachStep (SettlementOp.after host policy) (TakenOnce host policy) ops node) :
    AppliedOnce node (Machine.run (SettlementOp.after host policy) ops node) := by
  induction ops generalizing node with
  | nil => exact ⟨[], nodup_nil, forall_mem_nil _, by simp [Machine.run], fun ledger hl =>
      ⟨ledger, hl, (sub_zero _).symm⟩⟩
  | cons op ops ih => exact h.1.appliedOnce (ih h.2)

theorem TakenOnce.of_settles (hop : op.Settles) (h : RunInv host policy node)
    (hbacked : op.Backed host policy node) : RunInv host policy (op.after host policy node) ∧
      TakenOnce host policy op node (op.after host policy node) := by
  have hreadable : (∀ settlementId new, (op.after host policy node).resolveSettlement settlementId =
      some new → ∃ old, node.resolveSettlement settlementId = some old ∧ SameTerms old new) →
      Readable host (op.after host policy node) := by
    intro hterms settlementId new hnew
    obtain ⟨old, hold, hsame⟩ := hterms settlementId new hnew
    exact hsame.readable (h.readable settlementId old hold)
  rcases op.outcome hop h.sound (fun _ _ hdrawn => hdrawn.drawn) with
    ⟨hsame, hnothing⟩ | ⟨money, moment, item, happlies, hfirst⟩
  · refine ⟨⟨hsame.sound h.sound, hreadable (hsame.terms h.sound)⟩,
      fun settlementId => (hsame.applied h.sound settlementId).mpr,
      Or.inl ⟨fun settlementId => (hsame.applied h.sound settlementId).mp, ?_⟩⟩
    exact ⟨(hnothing h.readable).ledger, fun _ => (hnothing h.readable).credits⟩
  · have hnone : item.appliedAt = none := by
      by_contra hsome
      exact hfirst.fresh ⟨item, hfirst.recorded,
        (h.sound.record _ _ hfirst.recorded).applied.mpr hsome⟩
    refine ⟨⟨hfirst.sound, hreadable hfirst.terms⟩,
      fun settlementId happlied => (hfirst.applied settlementId).mpr (.inl happlied),
      Or.inr ⟨money, moment, item, happlies, hfirst.recorded, hfirst.fresh, hfirst.applied, ?_⟩⟩
    exact hfirst.taken.resolve_right (hbacked money moment item happlies hfirst.recorded hnone)

/-- A new settlement is not applied, and nothing is taken for it. -/
theorem TakenOnce.of_fund {money : MoneyPolicy} {moment : Moment} {args : FundingArgs}
    (h : RunInv host policy node) (hfresh : moment.token ∉ node.settlementIds) :
    RunInv host policy (recordFundingSettlement host policy money moment args node).2 ∧
      TakenOnce host policy (.fund money moment args) node
        (recordFundingSettlement host policy money moment args node).2 := by
  rcases recordFundingSettlement_cases host policy money moment args node with
    hsame | ⟨source, committee, hdrawn, hadd⟩
  · rw [hsame]
    exact ⟨h, fun _ h => h, .inl ⟨fun _ h => h, fun _ h => h, fun _ => .refl⟩⟩
  rw [hadd]
  have hlookup : ∀ settlementId,
      (node.addSettlement (fundingRecord money moment args source committee)).resolveSettlement
        settlementId = _ := Node.resolveSettlement_add h.sound.ids hfresh
  have happlied : ∀ settlementId,
      Applied (node.addSettlement (fundingRecord money moment args source committee)) settlementId ↔
        Applied node settlementId := by
    intro settlementId
    rw [Applied, Applied, hlookup]
    split
    next heq =>
      rw [Node.resolveSettlement_fresh h.sound.ids (heq.symm ▸ hfresh)]
      constructor
      · rintro ⟨item, hitem, hstatus⟩
        cases hitem
        cases hstatus
      · rintro ⟨item, hitem, -⟩
        cases hitem
    next => rfl
  refine ⟨⟨h.sound.add hfresh (recordSound_fundingRecord hdrawn.drawn),
    fun settlementId item hitem => ?_⟩, fun settlementId => (happlied settlementId).mpr,
    Or.inl ⟨fun settlementId => (happlied settlementId).mp, fun _ h => h, fun _ => .refl⟩⟩
  rw [hlookup] at hitem
  split at hitem
  · cases hitem
    exact auditReadable_fundingRecord money moment args source committee
  · exact h.readable settlementId item hitem

/-- **One step of a run.** -/
theorem SettlementOp.takenOnce (op : SettlementOp) (h : RunInv host policy node)
    (hop : op.Admissible host policy node) : RunInv host policy (op.after host policy node) ∧
      TakenOnce host policy op node (op.after host policy node) := by
  obtain ⟨hlocal, hfresh, hbacked⟩ := hop
  by_cases hsettles : op.Settles
  · exact TakenOnce.of_settles hsettles h hbacked
  cases op with
  | fund money moment args => exact TakenOnce.of_fund h hfresh
  | importProposal money payload => exact hlocal.elim
  | surroundings chain records wallets unlocked =>
    have hsound : Sound (.drawn host policy) { node with chain, records, wallets, unlocked } :=
      Sound.of_same (a := node) rfl rfl h.sound
    refine ⟨⟨hsound, h.readable⟩, fun _ h => h, .inl ⟨fun _ h => h, fun _ h => h, ?_⟩⟩
    intro hother
    exact absurd rfl (hother chain records wallets unlocked)
  | _ => exact absurd trivial hsettles

/-- A node without settlements and votes. -/
theorem Sound.of_empty (hs : node.settlements = []) (ha : node.attestations = []) :
    Sound rule node := by
  refine ⟨?_, ?_, fun settlementId item hitem => ?_⟩
  · rw [Node.settlementIds, hs]
    exact nodup_nil
  · rw [ha]
    exact nodup_nil
  · rw [Node.resolveSettlement, Node.listSettlements, hs] at hitem
    cases hitem

theorem runInv_empty (hs : node.settlements = []) (ha : node.attestations = []) :
    RunInv host policy node := by
  refine ⟨.of_empty hs ha, fun settlementId item hitem => ?_⟩
  rw [Node.resolveSettlement, Node.listSettlements, hs] at hitem
  cases hitem

/-- A chain that begins with the genesis block of the policy lacks no genesis transaction. -/
theorem Persisted.ensureChainGenesis_started {file : ChainFile} {rest : Chain} {moment : Moment}
    (h : Persisted host policy file (policyGenesis host policy :: rest)) :
    CaiNetwork.ensureChainGenesis host policy (moneyPolicyForWalletPolicy host policy) moment file =
      (.ok 0, file) := by
  have hstale : isStaleGenesisOnlyChain (policyGenesis host policy :: rest)
      (policyGenesis host policy) = false := by
    cases rest with
    | nil => rw [isStaleGenesisOnlyChain, if_pos (.inr (.inr (.inr rfl)))]
    | cons second rest => rfl
  have hnew : newTransactions (policyGenesis host policy :: rest)
      (policyGenesis host policy).transactions = [] := by
    rw [newTransactions, filter_eq_nil_iff]
    intro tx htx
    rw [allTransactions_cons]
    simp only [decide_not, Bool.not_eq_true', decide_eq_false_iff_not, not_not]
    exact mem_map_of_mem (mem_append_left _ htx)
  rw [CaiNetwork.ensureChainGenesis, h.listed, ← policyGenesis]
  dsimp only
  rw [hstale, if_neg (by simp), hnew]
  split
  · rw [if_neg (not_not.mpr rfl)]
  · rw [if_neg (not_not.mpr rfl), appendChainBlock, appendPlan, if_pos rfl]

/-! ### Applications without a debit -/

section Untouched

variable {file : ChainFile} {blocks : Chain} {money : MoneyPolicy} {moment : Moment}
  {validatorId : Option String} {item : SettlementRecord}

/-- A debit that is taken from a wallet of this node stands in the journal. -/
theorem WalletTaken.debitEntries_ne_nil {read : Except PyError Chain} {f : Funding}
    {a b : Purse} (h : WalletTaken host read moment f a b) (hpos : 0 < f.sourceWalletDebitAtomic)
    (hsource : sourceWallet host f a.1 ≠ none) : debitEntries b.2 ≠ [] := by
  cases h with
  | nothing hnone => exact absurd hnone (not_le.mpr hpos)
  | elsewhere chain _ _ hnone => exact absurd hnone hsource
  | here wallet p q _ _ _ _ htaken hafter =>
    rw [hafter.debitEntries_eq, htaken.2, debitEntries, filter_append]
    exact append_ne_nil_of_right_ne_nil _ (cons_ne_nil _ _)

/-- A step that applies a settlement and takes its debit from a wallet of this node leaves an entry
in the journal. -/
theorem TakenOnce.debitEntries_ne_nil {op : SettlementOp} {a b : Node} {settlementId : String}
    (h : TakenOnce host policy op a b) (hitem : a.resolveSettlement settlementId = some item)
    (hnot : item.status ≠ .applied) (happlied : Applied b settlementId)
    (hpos : 0 < item.sourceWalletDebitAtomic)
    (hsource : sourceWallet host item.funding a.wallets ≠ none) : debitEntries b.journal ≠ [] := by
  have hfresh : ¬Applied a settlementId := by
    rintro ⟨other, hother, hstatus⟩
    rw [hitem] at hother
    cases hother
    exact hnot hstatus
  rcases h.2 with ⟨hsame, -⟩ | ⟨money, moment, other, -, hother, -, hiff, hfunding⟩
  · exact absurd (hsame settlementId happlied) hfresh
  · rcases (hiff settlementId).mp happlied with hold | hid
    · exact absurd hold hfresh
    rw [← hid, hitem] at hother
    cases hother
    exact hfunding.wallet.debitEntries_ne_nil hpos hsource

/-- A source wallet that no transaction names is left alone. -/
theorem debitSourceWallet_inactive {n : Nat} {mid : Node} {w : WalletRecord}
    (hfind : findSourceWallet host item node = (.ok (some w), mid)) (hfile : mid.chain = file)
    (hgenesis : ensureChainGenesis host policy money moment file = (.ok n, file))
    (hblocks : listChainBlocks host policy moment.clock file = .ok blocks)
    (hpos : 0 < item.sourceWalletDebitAtomic)
    (hinactive : hasChainActivityForAddress host blocks w.address = false) :
    debitSourceWallet host policy money moment item node = (.ok none, mid) := by
  subst hfile
  have hchain : onChain (ensureChainGenesis host policy money moment) mid = (.ok n, mid) := by
    rw [onChain, hgenesis]
  have hread : readBlocks host policy moment mid = (.ok blocks, mid) := by
    rw [readBlocks, hblocks]
  rw [debitSourceWallet]
  dsimp only
  rw [if_neg (by omega), bind_of_ok hfind, bind_of_ok hchain, bind_of_ok hread]
  dsimp only
  rw [if_pos hinactive]
  rfl

variable {n : Nat} {wallets : List WalletRecord}
  (hdebit : ∀ ledger, debitSourceWallet host policy money moment item
    { node with ledger } = (.ok none, { node with ledger, wallets }))
  (hfile : node.chain = file)
  (hgenesis : ensureChainGenesis host policy money moment file = (.ok n, file))
  (hblocks : listChainBlocks host policy moment.clock file = .ok blocks)
  (hreserve : max 0 item.reserveDebitAtomic ≤
    chainBalanceAtomic host blocks (computeReserveChainAddress host money))
  (hreadable : AuditReadable host item)

include hdebit hfile hgenesis hblocks hreserve hreadable

variable (validatorId) in
/-- An application that debits no wallet marks the settlement. -/
theorem fundSettlement_untouched :
    ∃ audit ledger, fundSettlement host policy money moment validatorId item node =
      (.ok (item.markedApplied moment validatorId audit),
        Node.saveSettlement { node with ledger, wallets }
          (item.markedApplied moment validatorId audit)) := by
  subst hfile
  obtain ⟨stored, hload, -⟩ := loadOrCreateLedger_apply money node
  rw [fundSettlement, bind_of_ok hload]
  -- the chain is as it should be, so the ledger is brought up to date with it
  have hchain : onChain (ensureChainGenesis host policy money moment)
      { node with ledger := some stored } = (.ok n, { node with ledger := some stored }) := by
    rw [onChain]
    dsimp only
    rw [hgenesis]
  have hread : readBlocks host policy moment { node with ledger := some stored } =
      (.ok blocks, { node with ledger := some stored }) := by
    rw [readBlocks, hblocks]
  obtain ⟨ledger, hsnapshot, hbalance⟩ : ∃ ledger : LedgerState,
      chainBackedLedgerSnapshot host policy money moment stored
        { node with ledger := some stored } = (.ok ledger, { node with ledger := some stored }) ∧
      ledger.computeReserveBalanceAtomic =
        chainBalanceAtomic host blocks (computeReserveChainAddress host money) := by
    rw [chainBackedLedgerSnapshot, bind_of_ok hchain, bind_of_ok hread]
    exact ⟨_, rfl, rfl⟩
  rw [bind_of_ok hsnapshot]
  dsimp only
  rw [if_neg (by rw [hbalance]; exact not_lt.mpr hreserve), bind_of_ok (hdebit _)]
  obtain ⟨audit, haudit⟩ := hreadable.withAppliedBalanceAudit ledger.computeReserveBalanceAtomic
    (ledger.funded host item).computeReserveBalanceAtomic none
  have hsave : saveLedger (ledger.funded host item)
      { node with
        ledger := some stored
        wallets } = (.ok (), { node with ledger := some (ledger.funded host item), wallets }) := rfl
  rw [bind_of_ok hsave, haudit, bind_of_ok (lift_apply _)]
  exact ⟨audit, some (ledger.funded host item), rfl⟩

variable (validatorId) in
/-- **A first application that debits no wallet**: the settlement is applied, and no debit is
entered. -/
theorem applyFinalizedSettlement_untouched {rule : CommitteeRule} {settlementId : String}
    (h : Sound rule node) (hitem : node.resolveSettlement settlementId = some item)
    (hstatus : item.status = .finalized) :
    Applied (applyFinalizedSettlement host policy money moment validatorId settlementId
        node).2 settlementId ∧
      debitEntries (applyFinalizedSettlement host policy money moment validatorId
        settlementId node).2.journal = debitEntries node.journal := by
  obtain rfl := Node.settlementId_of_resolve hitem
  have hsound := h.record _ _ hitem
  have hnone : item.appliedAt = none := by
    by_contra hsome
    have happlied := hsound.applied.mpr hsome
    rw [hstatus] at happlied
    cases happlied
  obtain ⟨audit, ledger, hfund⟩ :=
    fundSettlement_untouched validatorId hdebit hfile hgenesis hblocks hreserve hreadable
  rw [applyFinalizedSettlement, bind_of_ok get_apply, hitem]
  dsimp only
  rw [if_neg (by rw [hstatus]; simp), if_pos hnone, bind_of_ok hfund]
  -- the marked record is found again, and paying leaves it
  have hmid : Sound rule { node with ledger, wallets } := Sound.of_same (a := node) rfl rfl h
  have hmarked : RecordSound rule node.attestations (item.markedApplied moment validatorId audit) :=
    hsound.markedApplied hstatus
  have hsaved := hmid.save hmarked
  have hresolve : Node.resolveSettlement (Node.saveSettlement { node with ledger, wallets }
      (item.markedApplied moment validatorId audit))
        (item.markedApplied moment validatorId audit).settlementId =
          some (item.markedApplied moment validatorId audit) := by
    rw [Node.resolveSettlement_save hmid.ids]
    show (if item.settlementId = item.settlementId then
      (node.resolveSettlement item.settlementId).map _ else _) = _
    rw [if_pos rfl, hitem]
    rfl
  have hsteady : Steady rule host _ (paySettlement host policy money moment _ _).2 :=
    steady_paySettlement money moment hresolve
  exact ⟨(hsteady.applied hsaved _).mpr ⟨_, hresolve, rfl⟩, hsteady.nothing.credits.debitEntries_eq⟩

end Untouched

/-! ### The vote that finalizes -/

section Finalizing

variable {moment : Moment} {args : AttestationArgs} {item : SettlementRecord}

/-- A settlement that the votes finalize is applied. -/
theorem settleVotes_finalized {mid : Node}
    (hrefresh : refreshSettlementFinality args.settlementId node = (.ok (some item), mid))
    (hstatus : item.status = .finalized) (happly : args.applyOnFinalize = true) :
    (settleVotes host policy moment args node).2 =
      (applyFinalizedSettlement host policy (.ofNetwork host host.activeNetwork) moment
        (some args.validatorId) args.settlementId mid).2 := by
  have hfinal : args.applyOnFinalize ∧
      ((some item).map SettlementRecord.status) = some .finalized :=
    ⟨happly, congrArg some hstatus⟩
  rw [settleVotes, bind_of_ok hrefresh, if_pos hfinal, bind_pure_state]

/-- A member that has not voted may vote. -/
theorem recordValidatorAttestation_first
    (hitem : node.resolveSettlement args.settlementId = some item)
    (hmember : args.validatorId ∈ item.committeeValidatorIds)
    (hnone : (node.attestationsOf args.settlementId).find? (fun vote =>
      vote.validatorId = args.validatorId) = none) :
    (recordValidatorAttestation host policy moment args node).2 =
      (settleVotes host policy moment args
        { node with attestations := node.attestations ++ [args.attestation moment] }).2 := by
  rw [recordValidatorAttestation, bind_of_ok get_apply, hitem]
  dsimp only
  rw [if_neg (fun h => h.2 hmember), hnone]
  dsimp only
  rw [bind_of_ok (modify_apply _), bind_pure_state]

end Finalizing

/-! ### A committee of one -/

/-- The treasury as a validator. -/
def sampleVoter : ValidatorRecord :=
  { validatorId := "c4", walletId := some "t", address := "c4", state := .bonded
    bondedAtomic := 1000000000000 }

theorem sampleVoter_bonded :
    listBondedValidators sampleHost samplePolicy [sampleGenesis, sampleBond] [sampleVoter] =
      [sampleVoter] := by
  have hbacked : chainBackedValidatorRecord sampleHost
      (chainLockedBondsByValidator sampleHost samplePolicy [sampleGenesis, sampleBond])
      sampleVoter = sampleVoter := by
    rw [chainBackedValidatorRecord, if_neg (by decide), if_pos]
    refine ⟨by decide, ?_⟩
    rw [sampleBond_bonded.get_chainLockedBondsByValidator, allTransactions_sampleBond]
    decide
  show List.filter _ [chainBackedValidatorRecord sampleHost _ sampleVoter] = _
  rw [hbacked]
  rfl

/-- A node with a bonded validator in its registry. -/
def sampleSettler (wallets : List WalletRecord) : Node :=
  { chain := saveChainBlocks [sampleGenesis, sampleBond]
    records := [sampleVoter]
    wallets
    ledger := some ⟨85000000000000000, 0, 0, 0, 0, 0, 0, 0⟩ }

/-- Five units from a wallet, for a worker. -/
def sampleFunding (walletId address : String) : FundingArgs :=
  { sourceWalletId := walletId
    sourceWalletAddress := address
    decision :=
      { fundingSource := some .wallet
        feeQuote := ⟨5, 0, 0, 0, 5⟩
        reserveBeforeAtomic := 0
        reserveAfterAtomic := 0
        walletBeforeAtomic := 5
        walletAfterAtomic := 0 } }

def sampleMoney : MoneyPolicy := moneyPolicyForWalletPolicy sampleHost samplePolicy

def sampleCommittee : ValidatorCommitteeSnapshot :=
  ⟨["c4"], [("c4", 1000000000000)], 1000000000000, 666666666667⟩

def sampleSettlement (walletId address : String) : SettlementRecord :=
  fundingRecord sampleMoney sampleMoment (sampleFunding walletId address) .wallet sampleCommittee

variable (walletId address : String) (wallets : List WalletRecord)

def sampleFund : SettlementOp := .fund sampleMoney sampleMoment (sampleFunding walletId address)

def sampleAccept : AttestationArgs := { settlementId := "t", validatorId := "c4" }

theorem sampleFund_after : (sampleFund walletId address).after sampleHost samplePolicy
    (sampleSettler wallets) =
      (sampleSettler wallets).addSettlement (sampleSettlement walletId address) := by
  have hread : readBlocks sampleHost samplePolicy sampleMoment (sampleSettler wallets) =
      (.ok [sampleGenesis, sampleBond], sampleSettler wallets) :=
    Prod.ext (sampleBond_bonded.listed sampleClock) rfl
  have hdraw : drawCommittee sampleHost samplePolicy sampleMoney sampleMoment sampleMoment.token
      none (sampleSettler wallets) = (.ok sampleCommittee, sampleSettler wallets) := by
    rw [drawCommittee, bind_of_ok hread]
    show (Except.ok (selectValidatorCommitteeSnapshot (listBondedValidators sampleHost samplePolicy
      [sampleGenesis, sampleBond] [sampleVoter]) sampleMoment.token sampleMoney none), _) = _
    rw [sampleVoter_bonded]
    rfl
  rw [sampleFund, SettlementOp.after, recordFundingSettlement]
  dsimp only [sampleFunding]
  rw [bind_of_ok hdraw]
  rfl

/-- The vote of the treasury. -/
def sampleVote : ValidatorAttestation :=
  { attestationId := "t", createdAt := "2026-01-02T00:00:00+00:00", settlementId := "t"
    validatorId := "c4", accepted := true, note := none }

/-- The settlement with the vote counted. -/
def sampleFinalized : SettlementRecord :=
  { sampleSettlement walletId address with
    acceptedAttestations := 1
    acceptedBondAtomic := 1000000000000
    status := .finalized }

/-- The node when the votes are counted. -/
def sampleVoted : Node :=
  { sampleSettler wallets with
    settlements := [sampleFinalized walletId address]
    attestations := [sampleVote] }

theorem sampleSettlement_counted :
    (sampleSettlement walletId address).counted [sampleVote] =
      sampleFinalized walletId address := by
  have hvotes : (sampleSettlement walletId address).votes [sampleVote] = [sampleVote] := rfl
  have haccepted : (sampleSettlement walletId address).voteBond true [sampleVote] =
      1000000000000 := by
    show ([1000000000000] : List Int).sum = _
    decide
  rw [SettlementRecord.counted, hvotes, haccepted]
  rfl

theorem sampleVoted_refresh : refreshSettlementFinality "t"
      { (sampleSettler wallets).addSettlement (sampleSettlement walletId address) with
        attestations := [sampleVote] } =
      (.ok (some (sampleFinalized walletId address)), sampleVoted walletId address wallets) := by
  rw [refreshSettlementFinality_apply]
  show ((Except.ok (some ((sampleSettlement walletId address).counted [sampleVote])) :
      Except PyError (Option SettlementRecord)),
    Node.saveSettlement _ ((sampleSettlement walletId address).counted [sampleVote])) = _
  rw [sampleSettlement_counted]
  rfl

theorem sampleAccept_after :
    (SettlementOp.attest sampleMoment sampleAccept).after sampleHost samplePolicy
        ((sampleSettler wallets).addSettlement (sampleSettlement walletId address)) =
      (applyFinalizedSettlement sampleHost samplePolicy sampleMoney sampleMoment (some "c4") "t"
        (sampleVoted walletId address wallets)).2 := by
  have hitem : ((sampleSettler wallets).addSettlement
      (sampleSettlement walletId address)).resolveSettlement sampleAccept.settlementId =
      some (sampleSettlement walletId address) := rfl
  rw [SettlementOp.after, recordValidatorAttestation_first hitem (mem_singleton_self _) rfl]
  exact settleVotes_finalized (sampleVoted_refresh walletId address wallets) rfl rfl

theorem sampleSettler_genesis : ensureChainGenesis sampleHost samplePolicy sampleMoney sampleMoment
    (saveChainBlocks [sampleGenesis, sampleBond]) =
      (.ok 0, saveChainBlocks [sampleGenesis, sampleBond]) :=
  sampleBond_persisted.ensureChainGenesis_started

theorem sampleSettler_listed : listChainBlocks sampleHost samplePolicy sampleMoment.clock
    (saveChainBlocks [sampleGenesis, sampleBond]) = .ok [sampleGenesis, sampleBond] :=
  sampleBond_bonded.listed sampleClock

/-- A settlement of five units of a wallet, and the vote that finalizes it. -/
def sampleSettlementOps : List SettlementOp :=
  [sampleFund walletId address, .attest sampleMoment sampleAccept]

theorem sampleSettler_reserve : chainBalanceAtomic sampleHost [sampleGenesis, sampleBond]
    (computeReserveChainAddress sampleHost sampleMoney) = 85000000000000000 := by
  have hreserve : computeReserveChainAddress sampleHost sampleMoney =
      "system:compute-reserve:testnet" := normalize_sampleReserve
  rw [hreserve, chainBalanceAtomic_eq sampleBond_persisted.wellFormed sampleBond_persisted.stable
    normalize_sampleReserve (by decide), allTransactions_sampleBond]
  decide

/-- The treasury pays. -/
def samplePayer : WalletRecord :=
  { walletId := "p", address := "c4", spendableBalanceAtomic := 4998999999999990 }

theorem samplePayer_backed : chainBalanceAtomic sampleHost [sampleGenesis, sampleBond]
    samplePayer.address = samplePayer.spendableBalanceAtomic := by
  rw [chainBalanceAtomic_eq sampleBond_persisted.wellFormed sampleBond_persisted.stable
    (show sampleHost.normalizeAddress _ = _ by decide) (by decide), allTransactions_sampleBond]
  decide

theorem samplePayer_active : hasChainActivityForAddress sampleHost [sampleGenesis, sampleBond]
    samplePayer.address = true := by
  rw [hasChainActivityForAddress, allTransactions_sampleBond]
  decide

def sampleIdle : WalletRecord :=
  { walletId := "w", address := "aa", spendableBalanceAtomic := 5 }

theorem sampleIdle_inactive : hasChainActivityForAddress sampleHost [sampleGenesis, sampleBond]
    sampleIdle.address = false := by
  rw [hasChainActivityForAddress, allTransactions_sampleBond]
  decide

theorem sampleFund_runInv : RunInv sampleHost samplePolicy
    ((sampleSettler wallets).addSettlement (sampleSettlement walletId address)) := by
  rw [← sampleFund_after]
  have hadmissible : (sampleFund walletId address).Admissible sampleHost samplePolicy
      (sampleSettler wallets) := ⟨trivial, not_mem_nil, fun _ _ _ happlies => happlies.elim⟩
  exact ((sampleFund walletId address).takenOnce (runInv_empty rfl rfl) hadmissible).1

theorem sampleVoted_sound :
    Sound (.drawn sampleHost samplePolicy) (sampleVoted walletId address wallets) := by
  have hvote : Steady (.drawn sampleHost samplePolicy) sampleHost
      ((sampleSettler wallets).addSettlement (sampleSettlement walletId address))
      { (sampleSettler wallets).addSettlement (sampleSettlement walletId address) with
        attestations := [] ++ [sampleVote] } :=
    .addVote fun v hv => by cases hv
  have hsound := hvote.sound (sampleFund_runInv walletId address wallets).sound
  have hrefresh : Steady (.drawn sampleHost samplePolicy) sampleHost _ _ :=
    steady_refreshSettlementFinality "t" hsound
  have hcounted : (refreshSettlementFinality "t" _).2 = sampleVoted walletId address wallets :=
    congrArg Prod.snd (sampleVoted_refresh walletId address wallets)
  exact hcounted ▸ hrefresh.sound hsound

end CaiNetwork
