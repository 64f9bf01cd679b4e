/-
CaiNetwork/Registry/Runs.lean

Runs of the registry file under local syncs, payloads of other nodes and penalties they report.

What remote nodes say never touches the standing of a local record (`registryRuns_local`).  A merge
looks a record up under the id it spells, while its bond is looked up on the chain under the normal
form of its id, so two spellings of one id are two records that count one bond
(`registryRuns_respelled`).  As long as no operation brings another spelling of an id, the listed
bonds stay within the bond pool (`registryRuns_pool`).
-/

import CaiNetwork.Machine
import CaiNetwork.Registry.Remote
import CaiNetwork.Validator.Bonds

namespace CaiNetwork

open List

variable (host : Host) (policy : WalletPolicy) (rules : RegistryRules)

/-- What other nodes send. -/
inductive RemoteOp
  | payload (now sourceUrl : String) (kvs : Fields)
  | penalize (now : String) (penalty : RemotePenalty)

/-- One payload or penalty; an exception leaves what was written before it. -/
def RemoteOp.step : RemoteOp → RegistryFile → RegistryFile
  | .payload now sourceUrl kvs, file =>
    (mergeRemoteValidatorSet host policy rules now sourceUrl kvs file).2
  | .penalize now penalty, file => (applyRemotePenalty host now penalty file).toOption.getD file

theorem perm_listRegistry (file : RegistryFile) : (listRegistry file).Perm file :=
  perm_insertionSort _ file

/-! ### Local records -/

/-- What a remote node must not change of a local record. -/
structure Standing where
  validatorId : String
  state : ValidatorLifecycleState
  bondedAtomic : Nat
  walletId : Json
  address : String
  totalSlashedAtomic : Int
  jailedAt : Json
  unjailAvailableAt : Json

/-- The standing of a local record. -/
def RegistryRecord.localStanding (record : RegistryRecord) : Option Standing :=
  if record.source = "local" then
    some ⟨record.validatorId, record.state, record.bondedAtomic, record.walletId, record.address,
      record.totalSlashedAtomic, record.jailedAt, record.unjailAvailableAt⟩
  else none

/-- The standings of the local records of a file. -/
def localStandings (file : RegistryFile) : List Standing :=
  file.filterMap RegistryRecord.localStanding

section Local

variable {host policy rules} {now : String} {file file' : RegistryFile}
  {previous : Option RegistryRecord} {record : RegistryRecord} {P : RegistryRecord → Prop}

theorem localStanding_eq_none (h : record.source ≠ "local") : record.localStanding = none :=
  if_neg h

/-- A merged lease leaves the standing of the record. -/
theorem localStanding_lease {existing incoming : RegistryRecord} {args : SyncArgs}
    (hargs : leaseArgs host now existing incoming = .ok args)
    (hrecord : syncedRecord host now (some existing) args = .ok record) :
    record.localStanding = existing.localStanding := by
  rw [leaseArgs] at hargs
  obtain ⟨ids, -, hargs⟩ := bind_eq_ok.mp hargs
  rw [syncedRecord] at hrecord
  obtain ⟨ids', -, hrecord⟩ := bind_eq_ok.mp hrecord
  rw [← pure_eq_ok.mp hrecord, ← pure_eq_ok.mp hargs]
  simp [RegistryRecord.localStanding]

/-- **No change at the word of a remote node touches the standing of a local record**, or makes a
record local. -/
theorem RemoteChange.localStanding (h : RemoteChange host rules now P previous record) :
    record.localStanding = previous.bind RegistryRecord.localStanding := by
  cases h with
  | lease hP hid hmerges hargs hrecord => exact localStanding_lease hargs hrecord
  | @adopt _ incoming _ hP hpeer hlocal hrecord =>
    have hsource : record.source ≠ "local" := by
      rw [syncedRecord_source hrecord]
      show incoming.source ≠ "local"
      rw [hpeer]
      decide
    rw [localStanding_eq_none hsource]
    cases previous with
    | none => rfl
    | some existing => exact (localStanding_eq_none (hlocal existing rfl)).symm
  | penalty hlocal hrecord =>
    have hsource : record.source ≠ "local" := by
      rw [syncedRecord_source hrecord]
      exact hlocal
    rw [localStanding_eq_none hsource, Option.bind_some, localStanding_eq_none hlocal]

theorem RemoteStep.localStandings (h : RemoteStep host rules now P file file') :
    (localStandings file').Perm (localStandings file) := by
  cases h with
  | @write record hchange =>
    have hstanding := hchange.localStanding
    have hview : localStandings (Table.upsert RegistryRecord.validatorId record
        (listRegistry file)) = localStandings (listRegistry file) := by
      apply Table.filterMap_upsert
      · intro existing hfound
        rw [hstanding, getRegistryRecord, hfound, Option.bind_some]
      · intro hnone
        rw [hstanding, getRegistryRecord, hnone, Option.bind_none]
    rw [hview]
    exact (perm_listRegistry file).filterMap _
  | @drop dropped hdropped =>
    have hview : localStandings ((listRegistry file).filter fun record => !dropped record) =
        localStandings (listRegistry file) := by
      rw [localStandings, filterMap_filter]
      apply filterMap_congr
      intro record _
      -- a dropped record is one of a peer, and has no local standing to lose
      by_cases hdrop : dropped record = true
      · have hne : record.source ≠ "local" := by
          rw [hdropped record hdrop]
          decide
        simp [hdrop, localStanding_eq_none hne]
      · simp [hdrop]
    rw [hview]
    exact (perm_listRegistry file).filterMap _

theorem RemoteSteps.localStandings (h : RemoteSteps host rules now P file file') :
    (localStandings file').Perm (localStandings file) := by
  induction h with
  | refl => exact List.Perm.refl _
  | tail _ hstep ih => exact hstep.localStandings.trans ih

theorem RemoteOp.localStandings (op : RemoteOp) (file : RegistryFile) :
    (CaiNetwork.localStandings (op.step host policy rules file)).Perm
      (CaiNetwork.localStandings file) := by
  cases op with
  | payload now sourceUrl kvs => exact mergeRemoteValidatorSet_steps.localStandings
  | penalize now penalty =>
    rw [RemoteOp.step]
    rcases happly : applyRemotePenalty host now penalty file with e | file'
    · exact List.Perm.refl _
    · have hsteps : RemoteSteps host rules now (fun _ => True) file file' :=
        applyRemotePenalty_steps happly
      exact hsteps.localStandings

variable (host policy rules) in
/-- **Local records belong to the node.**  In every run of payloads and penalties of other nodes,
valid or not, from every registry file, the local records of every state have the standings of the
first one. -/
theorem registryRuns_local (ops : List RemoteOp) (file : List RegistryRecord) :
    Machine.Always (RemoteOp.step host policy rules)
      (fun file' => (localStandings file').Perm (localStandings file)) ops file := by
  have hstep : ∀ (op : RemoteOp) (s : RegistryFile),
      (localStandings s).Perm (localStandings file) → True →
      (localStandings (op.step host policy rules s)).Perm (localStandings file) :=
    fun op s hs _ => (op.localStandings s).trans hs
  exact Machine.always_of_invariant hstep (Machine.meets_of_forall fun _ _ => trivial)
    (List.Perm.refl _)

end Local

/-! ### Bonds of the listed validators -/

section Pool

variable {host policy rules} {blocks : Chain} {file : RegistryFile}

/-- The bonds of the listed validators together. -/
def listedBonds (host : Host) (policy : WalletPolicy) (blocks : Chain)
    (file : RegistryFile) : Int :=
  ((listBondedValidators host policy blocks (file.map RegistryRecord.summary)).map
    ValidatorRecord.bondedAtomic).sum

/-- What is read as locked: no validator twice, no negative amount, and all of it in the pool. -/
theorem chainLockedBonds_sound (host : Host) (policy : WalletPolicy) (blocks : Chain) :
    ((chainLockedBondsByValidator host policy blocks).map Prod.fst).Nodup ∧
      (∀ e ∈ chainLockedBondsByValidator host policy blocks, 0 ≤ e.2) ∧
      (chainLockedBondsByValidator host policy blocks = [] ∨
        Tally.total (chainLockedBondsByValidator host policy blocks) =
          chainBalanceAtomic host blocks (bondPool host policy)) := by
  rw [chainLockedBondsByValidator_eq]
  simp only
  split
  · exact ⟨nodup_nil, fun e he => absurd he not_mem_nil, .inl rfl⟩
  split
  · exact ⟨nodup_nil, fun e he => absurd he not_mem_nil, .inl rfl⟩
  · rename_i _ hpool
    rw [← and_assoc]
    refine ⟨?_, .inr (not_not.mp hpool).symm⟩
    refine foldlRecOn (motive := fun t : Tally String =>
      (t.map Prod.fst).Nodup ∧ ∀ e ∈ t, 0 ≤ e.2) _ _
      ⟨nodup_nil, fun e he => absurd he not_mem_nil⟩ ?_
    rintro t ⟨hnd, hnonneg⟩ e -
    refine ⟨Tally.nodup_set _ _ hnd, fun e' he' => ?_⟩
    rcases Tally.mem_of_mem_set he' with hnew | hold
    · rw [hnew]
      exact le_max_left 0 e.2
    · exact hnonneg e' hold

/-- **Records under different normal ids count no bond twice.** -/
theorem listedBonds_le_total (hnd : (file.map RegistryRecord.validatorId).Nodup)
    (hinj : ∀ a ∈ file.map RegistryRecord.validatorId, ∀ b ∈ file.map RegistryRecord.validatorId,
      normalizeValidatorId host a = normalizeValidatorId host b → a = b) :
    listedBonds host policy blocks file ≤
      Tally.total (chainLockedBondsByValidator host policy blocks) := by
  obtain ⟨hkeys, hnonneg, -⟩ := chainLockedBonds_sound host policy blocks
  have hids : ((listBondedValidators host policy blocks (file.map RegistryRecord.summary)).map
      ValidatorRecord.validatorId).Sublist
        ((listValidatorRecords (file.map RegistryRecord.summary)).map
          ValidatorRecord.validatorId) := by
    have hsame : (listEffectiveValidatorRecords host policy blocks
        (file.map RegistryRecord.summary)).map ValidatorRecord.validatorId =
        (listValidatorRecords (file.map RegistryRecord.summary)).map
          ValidatorRecord.validatorId := by
      rw [listEffectiveValidatorRecords, map_map]
      apply map_congr_left
      intro record _
      rw [Function.comp_apply, chainBackedValidatorRecord]
      split_ifs <;> rfl
    rw [← hsame]
    exact filter_sublist.map _
  have hperm : ((listValidatorRecords (file.map RegistryRecord.summary)).map
      ValidatorRecord.validatorId).Perm (file.map RegistryRecord.validatorId) := by
    have hsummary : file.map RegistryRecord.validatorId =
        (file.map RegistryRecord.summary).map ValidatorRecord.validatorId := by
      rw [map_map]
      rfl
    rw [hsummary]
    exact (perm_insertionSort recordLe _).map _
  have hlisted : ((listBondedValidators host policy blocks (file.map RegistryRecord.summary)).map
      fun record => normalizeValidatorId host record.validatorId).Nodup := by
    rw [← Function.comp_def, ← map_map]
    apply List.Nodup.map_on _ (hids.nodup (hperm.nodup_iff.mpr hnd))
    intro a ha b hb hab
    exact hinj a (hperm.subset (hids.subset ha)) b (hperm.subset (hids.subset hb)) hab
  calc listedBonds host policy blocks file
      ≤ ((listBondedValidators host policy blocks (file.map RegistryRecord.summary)).map
          fun record => Tally.get (normalizeValidatorId host record.validatorId)
            (chainLockedBondsByValidator host policy blocks)).sum := by
        apply sum_le_sum
        intro record hrecord
        exact (mem_listBondedValidators.mp hrecord).2.2.2
    _ = (((listBondedValidators host policy blocks (file.map RegistryRecord.summary)).map
          fun record => normalizeValidatorId host record.validatorId).map
            fun k => Tally.get k (chainLockedBondsByValidator host policy blocks)).sum := by
        rw [map_map]
        rfl
    _ ≤ Tally.total (chainLockedBondsByValidator host policy blocks) :=
        Tally.sum_get_le_total hkeys hnonneg hlisted

/-- Every value that the index file gives back is one of the index. -/
theorem value_of_mem_intMapping {index : Tally String} :
    ∀ e ∈ intMapping host index, ∃ e' ∈ index, e'.2 = e.2 := by
  refine foldlRecOn (motive := fun t : Tally String => ∀ e ∈ t, ∃ e' ∈ index, e'.2 = e.2) index _
    (fun e he => absurd he not_mem_nil) ?_
  intro t ht e₁ he₁ e he
  beta_reduce at he
  split at he
  · exact ht e he
  · rcases Tally.mem_of_mem_set he with hset | hold
    · exact ⟨e₁, he₁, by rw [hset]⟩
    · exact ht e hold

/-- No balance of a valid chain is read as negative. -/
theorem chainBalanceAtomic_nonneg (hvalid : validateChainBlocks host policy blocks = .ok [])
    {address : String} : 0 ≤ chainBalanceAtomic host (sortBlocks blocks) address := by
  have hindex : ∀ e ∈ chainBalanceIndex host (sortBlocks blocks), 0 ≤ e.2 := by
    by_cases hne : blocks = []
    · subst hne
      exact fun e he => absurd he not_mem_nil
    · obtain ⟨-, hclosing⟩ := (validateChainBlocks_eq_nil_iff hne).mp hvalid
      exact (Tally.forall_value_iff le_rfl (keys_nodup_chainBalanceIndex host _)).mpr
        hclosing.balances
  apply Tally.get_nonneg
  intro e he
  obtain ⟨e', he', hvalue⟩ := value_of_mem_intMapping e he
  rw [← hvalue]
  exact hindex e' ((mem_insertionSort entryLe).mp he')

end Pool

/-- What changes the registry file: the node itself, or what others send. -/
inductive RegistryOp
  | sync (now : String) (args : SyncArgs)
  | remote (op : RemoteOp)

namespace RegistryOp

/-- One operation; a sync that raises writes nothing. -/
def step : RegistryOp → RegistryFile → RegistryFile
  | sync now args, file => (syncRegistryRecord host now args file).toOption.getD file
  | remote op, file => op.step host policy rules file

/-- The ids that the operation may bring into the file, as it spells them. -/
def ids : RegistryOp → List String
  | sync _ args => [args.validatorId]
  | remote (.payload _ _ kvs) =>
    ((iterRemoteValidatorRecords host kvs).toOption.map (importedValidatorIds host)).getD []
  | remote (.penalize _ _) => []

end RegistryOp

/-- The ids of a file. -/
def registryIds (file : RegistryFile) : List String :=
  file.map RegistryRecord.validatorId

/-- No two of the ids are spellings of one validator. -/
def OneSpelling (ids : List String) : Prop :=
  ∀ a ∈ ids, ∀ b ∈ ids, normalizeValidatorId host a = normalizeValidatorId host b → a = b

section Ids

variable {host policy rules} {now : String} {file file' : RegistryFile}
  {previous : Option RegistryRecord} {record : RegistryRecord} {P : RegistryRecord → Prop}

theorem RemoteChange.validatorId (h : RemoteChange host rules now P previous record) :
    (∃ e ∈ previous, record.validatorId = e.validatorId) ∨
      ∃ incoming, P incoming ∧ record.validatorId = incoming.validatorId := by
  cases h with
  | @lease existing _ _ _ hP hid hmerges hargs hrecord =>
    exact .inl ⟨existing, rfl,
      (syncedRecord_validatorId hrecord).trans (leaseArgs_validatorId hargs)⟩
  | @adopt _ incoming _ hP hpeer hlocal hrecord =>
    exact .inr ⟨incoming, hP, syncedRecord_validatorId hrecord⟩
  | @penalty existing _ _ hlocal hrecord =>
    exact .inl ⟨existing, rfl, syncedRecord_validatorId hrecord⟩

/-- The file has one record per id, and its ids are among these. -/
structure IdsWithin (ids : List String) (file : RegistryFile) : Prop where
  nodup : (registryIds file).Nodup
  subset : ∀ id ∈ registryIds file, id ∈ ids

theorem mem_registryIds_sorted {id : String} :
    id ∈ registryIds (listRegistry file) ↔ id ∈ registryIds file :=
  ((perm_listRegistry file).map _).mem_iff

theorem IdsWithin.upsert {ids : List String} (h : IdsWithin ids file)
    (hid : record.validatorId ∈ ids) :
    IdsWithin ids (Table.upsert RegistryRecord.validatorId record (listRegistry file)) where
  nodup := Table.nodup_upsert (((perm_listRegistry file).map _).nodup_iff.mpr h.nodup)
  subset := by
    intro id hmem
    obtain ⟨r, hr, rfl⟩ := mem_map.mp hmem
    rcases Table.mem_upsert hr with hold | rfl
    · exact h.subset _ (mem_registryIds_sorted.mp (mem_map_of_mem hold))
    · exact hid

theorem IdsWithin.step {ids : List String} (h : IdsWithin ids file)
    (hP : ∀ incoming, P incoming → incoming.validatorId ∈ ids)
    (hstep : RemoteStep host rules now P file file') : IdsWithin ids file' := by
  cases hstep with
  | @write record hchange =>
    apply h.upsert
    rcases hchange.validatorId with ⟨e, he, hid⟩ | ⟨incoming, hincoming, hid⟩
    · rw [hid]
      apply h.subset
      exact mem_registryIds_sorted.mp (mem_map_of_mem (Table.mem_of_find he))
    · rw [hid]
      exact hP incoming hincoming
  | @drop dropped hdropped =>
    have hsub : (registryIds ((listRegistry file).filter fun record => !dropped record)).Sublist
        (registryIds (listRegistry file)) := filter_sublist.map _
    have hnd : (registryIds (listRegistry file)).Nodup :=
      ((perm_listRegistry file).map _).nodup_iff.mpr h.nodup
    refine ⟨hsub.nodup hnd, ?_⟩
    intro id hid
    exact h.subset id (mem_registryIds_sorted.mp (hsub.subset hid))

theorem IdsWithin.steps {ids : List String} (h : IdsWithin ids file)
    (hP : ∀ incoming, P incoming → incoming.validatorId ∈ ids)
    (hsteps : RemoteSteps host rules now P file file') : IdsWithin ids file' := by
  induction hsteps with
  | refl => exact h
  | tail _ hstep ih => exact ih.step hP hstep

/-- **The ids after an operation** are those before it and those it spells. -/
theorem IdsWithin.op {ids : List String} (h : IdsWithin ids file) {op : RegistryOp}
    (hids : ∀ id ∈ op.ids host, id ∈ ids) : IdsWithin ids (op.step host policy rules file) := by
  cases op with
  | sync now args =>
    rw [RegistryOp.step]
    rcases hsync : syncRegistryRecord host now args file with e | file'
    · exact h
    · rw [syncRegistryRecord] at hsync
      obtain ⟨record, hrecord, hsync⟩ := bind_eq_ok.mp hsync
      rw [Except.toOption, Option.getD_some, ← pure_eq_ok.mp hsync]
      apply h.upsert
      rw [syncedRecord_validatorId hrecord]
      exact hids _ mem_cons_self
  | remote op =>
    cases op with
    | penalize now penalty =>
      rw [RegistryOp.step, RemoteOp.step]
      rcases happly : applyRemotePenalty host now penalty file with e | file'
      · exact h
      · have hsteps : RemoteSteps host rules now (fun _ => False) file file' :=
          applyRemotePenalty_steps happly
        exact h.steps (fun _ hfalse => hfalse.elim) hsteps
    | payload now sourceUrl kvs =>
      apply h.steps _ mergeRemoteValidatorSet_steps
      rintro incoming ⟨raws, hraws, raw, hraw, hne, hincoming⟩
      apply hids
      rw [RegistryOp.ids, hraws, (incomingValidator_id hincoming).1]
      show rawValidatorId host raw ∈ importedValidatorIds host raws
      rw [importedValidatorIds, mem_filter]
      exact ⟨mem_filterMap.mpr ⟨.obj raw, hraw, rfl⟩, decide_eq_true hne⟩

/-- The operation does not spell an id of the file, or of its own, in another way. -/
def KeepsSpelling (host : Host) (op : RegistryOp) (file : RegistryFile) : Prop :=
  OneSpelling host (registryIds file ++ op.ids host)

/-- **No bond is counted twice.**  In every run from the empty registry whose operations do not
spell an id in another way than the file or the operation itself, on every valid chain, the bonds
of the listed validators are at most the balance of the bond pool, in every state. -/
theorem registryRuns_pool {ops : List RegistryOp} {blocks : List ChainBlock}
    (hvalid : validateChainBlocks host policy blocks = .ok [])
    (hmeets : Machine.Meets (RegistryOp.step host policy rules) (KeepsSpelling host) ops []) :
    Machine.Always (RegistryOp.step host policy rules)
      (fun file => listedBonds host policy (sortBlocks blocks) file ≤
        chainBalanceAtomic host (sortBlocks blocks) (bondPool host policy)) ops [] := by
  have hstep : ∀ (op : RegistryOp) (file : RegistryFile),
      (registryIds file).Nodup ∧ OneSpelling host (registryIds file) → KeepsSpelling host op file →
      (registryIds (op.step host policy rules file)).Nodup ∧
        OneSpelling host (registryIds (op.step host policy rules file)) := by
    intro op file hinv hkeeps
    have hwithin : IdsWithin (registryIds file ++ op.ids host) file :=
      ⟨hinv.1, fun id hid => mem_append_left _ hid⟩
    have hafter : IdsWithin (registryIds file ++ op.ids host) (op.step host policy rules file) :=
      hwithin.op fun id hid => mem_append_right _ hid
    refine ⟨hafter.nodup, ?_⟩
    intro a ha b hb
    exact hkeeps a (hafter.subset a ha) b (hafter.subset b hb)
  have hempty : (registryIds []).Nodup ∧ OneSpelling host (registryIds []) :=
    ⟨nodup_nil, fun a ha => absurd ha not_mem_nil⟩
  refine (Machine.always_of_invariant hstep hmeets hempty).imp ?_
  rintro file ⟨hnd, hspelling⟩
  have htotal : listedBonds host policy (sortBlocks blocks) file ≤
      Tally.total (chainLockedBondsByValidator host policy (sortBlocks blocks)) :=
    listedBonds_le_total hnd hspelling
  obtain ⟨-, -, hnone | hpool⟩ := chainLockedBonds_sound host policy (sortBlocks blocks)
  · rw [hnone] at htotal
    exact htotal.trans (chainBalanceAtomic_nonneg hvalid)
  · rwa [hpool] at htotal

end Ids

/-! The treasury of the sample chain is bonded, and a peer spells its id with a `cai_` in front. -/

def sampleRegistryRules : RegistryRules where
  fromIso _ := none
  resolvePeerUrl _ _ := .ok none

def sampleSync : RegistryOp :=
  .sync "t" { validatorId := "c4", walletId := .null, address := "c4", state := .bonded
              bondedAtomic := 1000000000000, staticIpConfirmed := true }

/-- A payload with one bonded record of the treasury. -/
def sampleValidatorSet (validatorId : String) : RegistryOp :=
  .remote (.payload "t" "u" (addPeerPayloadMetadata sampleHost samplePolicy
    [("records", .arr [.obj [("validator_id", .str validatorId), ("state", .str "bonded"),
      ("bonded_atomic", .int 1000000000000)]])]))

/-- The record that such a payload brings. -/
abbrev sampleEntry (validatorId : String) : Json :=
  .obj [("validator_id", .str validatorId), ("state", .str "bonded"),
    ("bonded_atomic", .int 1000000000000)]

theorem sampleValidatorSet_read {validatorId : String} : readValidatorSet sampleHost samplePolicy
    sampleRegistryRules "u" (addPeerPayloadMetadata sampleHost samplePolicy
      [("records", .arr [sampleEntry validatorId])]) = .ok ([sampleEntry validatorId], [], []) := by
  rw [readValidatorSet, checkValidatorSetPayload,
    validatePeerPayloadNetwork_added (by simp [List.lookup_cons])]
  rfl

/-- The treasury's bond under the given spelling of its id. -/
abbrev sampleListed (validatorId : String) : ValidatorRecord :=
  ⟨validatorId, none, validatorId, .bonded, 1000000000000⟩

/-- The listed bonds of two records of the treasury are twice what the pool holds. -/
theorem registryRuns_respelled :
    validateChainBlocks sampleHost samplePolicy [sampleGenesis, sampleBond] = .ok [] ∧
    ¬ Machine.Always (RegistryOp.step sampleHost samplePolicy sampleRegistryRules)
      (fun file => listedBonds sampleHost samplePolicy (sortBlocks [sampleGenesis, sampleBond])
        file ≤ chainBalanceAtomic sampleHost (sortBlocks [sampleGenesis, sampleBond])
          (bondPool sampleHost samplePolicy)) [sampleSync, sampleValidatorSet "cai_c4"] [] := by
  refine ⟨sampleBond_bonded.accepted, ?_⟩
  rintro ⟨-, -, h⟩
  have hsorted : sortBlocks [sampleGenesis, sampleBond] = [sampleGenesis, sampleBond] := rfl
  have hfile : ((sampleValidatorSet "cai_c4").step sampleHost samplePolicy sampleRegistryRules
      (sampleSync.step sampleHost samplePolicy sampleRegistryRules [])).map RegistryRecord.summary =
      [sampleListed "c4", sampleListed "cai_c4"] := by
    rw [sampleValidatorSet, RegistryOp.step, RemoteOp.step, mergeRemoteValidatorSet,
      sampleValidatorSet_read]
    rfl
  have hlocked : Tally.get "c4" (chainLockedBondsByValidator sampleHost samplePolicy
      [sampleGenesis, sampleBond]) = 1000000000000 := by
    rw [sampleBond_bonded.get_chainLockedBondsByValidator, allTransactions_sampleBond]
    decide
  have hpool : chainBalanceAtomic sampleHost [sampleGenesis, sampleBond]
      (bondPool sampleHost samplePolicy) = 1000000000000 := by
    rw [sampleBond_bonded.pool_eq, allTransactions_sampleBond]
    decide
  have hlisted : listBondedValidators sampleHost samplePolicy [sampleGenesis, sampleBond]
      [sampleListed "c4", sampleListed "cai_c4"] = [sampleListed "c4", sampleListed "cai_c4"] := by
    have horder : listValidatorRecords [sampleListed "c4", sampleListed "cai_c4"] =
        [sampleListed "c4", sampleListed "cai_c4"] := by decide
    -- both spellings are looked up on the chain as `c4`
    have hplain : normalizeValidatorId sampleHost "c4" = "c4" := by decide
    have hmarked : normalizeValidatorId sampleHost "cai_c4" = "c4" := by decide
    simp [listBondedValidators, listEffectiveValidatorRecords, horder, chainBackedValidatorRecord,
      hplain, hmarked, hlocked]
  rw [hsorted] at h
  have hbad : listedBonds sampleHost samplePolicy [sampleGenesis, sampleBond]
      ((sampleValidatorSet "cai_c4").step sampleHost samplePolicy sampleRegistryRules
        (sampleSync.step sampleHost samplePolicy sampleRegistryRules [])) ≤
      chainBalanceAtomic sampleHost [sampleGenesis, sampleBond]
        (bondPool sampleHost samplePolicy) := h
  rw [listedBonds, hfile, hlisted, hpool] at hbad
  exact absurd hbad (by decide)

/-- A payload that spells the id as the file does keeps to the bond. -/
theorem registryRuns_pool_same :
    Machine.Always (RegistryOp.step sampleHost samplePolicy sampleRegistryRules)
      (fun file => listedBonds sampleHost samplePolicy (sortBlocks [sampleGenesis, sampleBond])
        file ≤ chainBalanceAtomic sampleHost (sortBlocks [sampleGenesis, sampleBond])
          (bondPool sampleHost samplePolicy)) [sampleSync, sampleValidatorSet "c4"] [] := by
  apply registryRuns_pool sampleBond_bonded.accepted
  have hone : OneSpelling sampleHost ["c4", "c4"] := by
    intro a ha b hb _
    simp only [mem_cons, not_mem_nil, or_false, or_self] at ha hb
    rw [ha, hb]
  refine ⟨?_, hone, trivial⟩
  intro a ha b hb _
  exact (mem_singleton.mp ha).trans (mem_singleton.mp hb).symm

end CaiNetwork
