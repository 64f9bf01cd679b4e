/-
CaiNetwork/Registry/Lease.lean

Replicas of one validator and the lease that says which of them is active
(`refresh_validator_ha_lease` in `node_config.py`, `validator_ha_lease_is_active` and the merge of
leases in `validators.py`).

The lease is two fields of the validator's record in the registry of each replica, and travels in
the records they exchange.  A replica that refreshes its lease looks only at its own record, so two
replicas may both take it (`haRuns_both`).  If no replica refreshes while a lease of another one is
running somewhere that its own record does not show, at most one replica is active
(`haRuns_exclusive`).
-/

import CaiNetwork.Registry.Runs

namespace CaiNetwork

open List

/-! ### Leases -/

/-- `VALIDATOR_HA_ROLE_ACTIVE` and `VALIDATOR_HA_ROLE_PASSIVE`, the roles of a replica. -/
inductive HaRole
  | active
  | passive
deriving DecidableEq

/-- The text of a role. -/
def HaRole.text : HaRole → String
  | .active => "active"
  | .passive => "passive"

variable (host : Host) (policy : WalletPolicy) (rules : RegistryRules)

/-- `validator_ha_lease_is_active`, of a record; a time without a zone counts as UTC. -/
def haLeaseIsActive (now : Nat) (record : RegistryRecord) : Except PyError Bool :=
  if record.haEnabled.truthy = false ∨ record.activeReplicaNodeId.truthy = false then .ok false
  else do
    match ← parseIsoDatetime rules record.activeReplicaLeaseUntil with
    | none => return false
    | some lease => return decide ((now : Int) < lease.micros)

/-- `str(record.active_replica_node_id or "").strip()`. -/
def activeNodeId (record : RegistryRecord) : String :=
  strip (host.strOrEmpty record.activeReplicaNodeId)

/-! ### Replicas -/

/-- The replicas of a validator: its id, and the node each of them runs on. -/
structure HaGroup (ι : Type) where
  validatorId : String
  nodeId : ι → String
  validatorId_normal : host.lower (strip validatorId) = validatorId
  nodeId_injective : Function.Injective nodeId
  nodeId_strip : ∀ i, strip (nodeId i) = nodeId i
  nodeId_ne : ∀ i, nodeId i ≠ ""

/-- One replica: its role, whether it takes over by itself, and its registry file. -/
structure Replica where
  role : HaRole
  autoFailover : Bool
  registry : RegistryFile

/-- What a refresh reads beside the replica: whether the node is reachable as a validator, the
fields of the node config that go into the record, and the length of a lease. -/
structure RefreshCall where
  ready : Bool
  allowFailover : Bool := true
  config : SyncArgs
  leaseMicros : Nat

-- `iso` is `isoformat` of a time in microseconds
variable {host} {ι : Type} (group : HaGroup host ι) (iso : Nat → String)

/-- The call of `sync_validator_record` in `_sync_local_validator_registry`. -/
def localSyncArgs (i : ι) (call : RefreshCall) (clock : Nat) (role : HaRole) : SyncArgs :=
  { call.config with
    validatorId := group.validatorId
    address := group.validatorId
    currentNodeId := .str (group.nodeId i)
    haEnabled := .bool true
    haRole := role.text
    activeReplicaNodeId := if role = .active then .str (group.nodeId i) else .null
    activeReplicaLeaseUntil :=
      if role = .active then .str (iso (clock + call.leaseMicros)) else .null
    replicaNodeIds := [group.nodeId i]
    source := "local" }

/-- The role after a refresh: an active replica steps down where its record shows a running lease
of another node, a passive one takes over where it does not. -/
def refreshedRole (i : ι) (call : RefreshCall) (replica : Replica) (leaseIsActive : Bool)
    (activeId : String) : HaRole :=
  let holds := activeId ≠ "" ∧ activeId = group.nodeId i
  match replica.role with
  | .active => if leaseIsActive ∧ activeId ≠ "" ∧ ¬ holds then .passive else .active
  | .passive =>
    if call.allowFailover ∧ replica.autoFailover ∧ (holds ∨ activeId = "" ∨ leaseIsActive = false)
    then .active else .passive

/-- `refresh_validator_ha_lease` at a replica; the role is saved before the record is written, and
an exception while it is written leaves the file. -/
def refreshValidatorHaLease (i : ι) (call : RefreshCall) (clock : Nat) (replica : Replica) :
    Replica :=
  let record := getRegistryRecord group.validatorId replica.registry
  if call.ready = false then replica
  else
    match (record.map (haLeaseIsActive rules clock)).getD (.ok false) with
    | .error _ => replica
    | .ok leaseIsActive =>
      let role := refreshedRole group i call replica leaseIsActive
        ((record.map (activeNodeId host)).getD "")
      { replica with
        role := role
        registry := (syncRegistryRecord host (iso clock)
          (localSyncArgs group iso i call clock role)
          replica.registry).toOption.getD replica.registry }

/-! ### Exchange of records -/

/-- The text of a lifecycle state. -/
def ValidatorLifecycleState.text : ValidatorLifecycleState → String
  | .bonded => "bonded"
  | .unbonding => "unbonding"
  | .jailed => "jailed"
  | .unbonded => "unbonded"
  | .other name => name

/-- `asdict(record)`. -/
def registryFields (record : RegistryRecord) : Fields :=
  [("validator_id", .str record.validatorId), ("wallet_id", record.walletId),
    ("address", .str record.address), ("state", .str record.state.text),
    ("bonded_atomic", .int record.bondedAtomic),
    ("static_ip_confirmed", .bool record.staticIpConfirmed),
    ("current_node_id", record.currentNodeId), ("advertised_api_host", record.advertisedApiHost),
    ("advertised_data_host", record.advertisedDataHost), ("activated_at", record.activatedAt),
    ("ha_enabled", record.haEnabled), ("active_replica_node_id", record.activeReplicaNodeId),
    ("active_replica_lease_until", record.activeReplicaLeaseUntil),
    ("replica_node_ids", .arr (record.replicaNodeIds.map .str)),
    ("unbonding_started_at", record.unbondingStartedAt),
    ("unbonding_available_at", record.unbondingAvailableAt), ("jailed_at", record.jailedAt),
    ("unjail_available_at", record.unjailAvailableAt),
    ("last_slash_atomic", .int record.lastSlashAtomic),
    ("total_slashed_atomic", .int record.totalSlashedAtomic), ("source", .str record.source),
    ("source_url", record.sourceUrl), ("last_seen_at", record.lastSeenAt),
    ("updated_at", record.updatedAt)]

/-- `_chain_backed_validator_record`, with all fields. -/
def effectiveRecord (host : Host) (locked : Tally String) (record : RegistryRecord) :
    RegistryRecord :=
  if record.state ≠ .bonded then record
  else if 0 < record.bondedAtomic ∧ (record.bondedAtomic : Int) ≤
      Tally.get (normalizeValidatorId host record.validatorId) locked then record
  else { record with state := .unbonded, bondedAtomic := 0 }

/-- A payload under way: the records a replica exported, and what it put around them. -/
structure Gossip where
  records : RegistryFile
  exportedAt : String
  committee : Json
  signature : Option Fields

/-- `export_validator_set_payload`, signed or not. -/
def Gossip.payload (host : Host) (policy : WalletPolicy) (gossip : Gossip) :
    Fields :=
  addPeerPayloadMetadata host policy [("exported_at", .str gossip.exportedAt),
    ("records", .arr (gossip.records.map fun record => .obj (registryFields record))),
    ("committee", gossip.committee)] ++ (gossip.signature.map fun s => ("signature", .obj s)).toList

/-! ### The group as a machine -/

/-- The replicas, the clock they share, and the payloads under way.  A payload may arrive any
number of times, at any replica, in any order. -/
structure HaState (ι : Type) where
  clock : Nat
  replica : ι → Replica
  sent : List Gossip

inductive HaOp (ι : Type)
  | tick (micros : Nat)
  | refresh (i : ι) (call : RefreshCall)
  /-- A replica exports its records, as the chain it knows backs them. -/
  | publish (i : ι) (locked : Tally String) (exportedAt : String) (committee : Json)
      (signature : Option Fields)
  | deliver (i : ι) (message : Nat) (sourceUrl : String)

section Moves

variable [DecidableEq ι]

/-- One replica in a new state. -/
def HaState.put (s : HaState ι) (i : ι) (replica : Replica) : HaState ι :=
  { s with
    replica := Function.update s.replica i replica }

@[simp] theorem HaState.put_self (s : HaState ι) (i : ι) (replica : Replica) :
    (s.put i replica).replica i = replica := by
  simp [HaState.put]

@[simp] theorem HaState.put_of_ne (s : HaState ι) {i j : ι} (h : j ≠ i) (replica : Replica) :
    (s.put i replica).replica j = s.replica j := by
  simp [HaState.put, h]

def HaOp.step : HaOp ι → HaState ι → HaState ι
  | .tick micros, s => { s with clock := s.clock + micros }
  | .refresh i call, s =>
    s.put i (refreshValidatorHaLease rules group iso i call s.clock (s.replica i))
  | .publish i locked exportedAt committee signature, s =>
    let records := (listRegistry (s.replica i).registry).map (effectiveRecord host locked)
    { s with sent := ⟨records, exportedAt, committee, signature⟩ :: s.sent }
  | .deliver i message sourceUrl, s =>
    match s.sent[message]? with
    | none => s
    | some gossip =>
      s.put i { s.replica i with
        registry := (mergeRemoteValidatorSet host policy rules (iso s.clock) sourceUrl
          (gossip.payload host policy) (s.replica i).registry).2 }

end Moves

/-- A replica takes itself for the active one: its role is active, and its own record shows a
running lease of its node.  This is what allows it to attest. -/
def ConsidersActive (s : HaState ι) (i : ι) : Prop :=
  (s.replica i).role = .active ∧
    ∃ record, getRegistryRecord group.validatorId (s.replica i).registry = some record ∧
      haLeaseIsActive rules s.clock record = .ok true ∧ activeNodeId host record = group.nodeId i

/-! ### What a record shows -/

/-- The record shows a running lease of the node. -/
structure ShowsLease (host : Host) (clock : Nat) (record : RegistryRecord) (nodeId : String) :
    Prop where
  named : activeNodeId host record = nodeId
  ne : nodeId ≠ ""
  truthy : record.activeReplicaNodeId.truthy = true
  running : ∃ lease, parseIsoDatetime rules record.activeReplicaLeaseUntil = .ok (some lease) ∧
    (clock : Int) < lease.micros

section Shows

variable {rules} {clock : Nat} {record other : RegistryRecord} {nodeId : String}

/-- Two records with one lease show the same. -/
theorem ShowsLease.of_same (h : ShowsLease rules host clock record nodeId)
    (hnode : record.activeReplicaNodeId = other.activeReplicaNodeId)
    (hlease : record.activeReplicaLeaseUntil = other.activeReplicaLeaseUntil) :
    ShowsLease rules host clock other nodeId where
  named := by
    rw [← h.named, activeNodeId, activeNodeId, hnode]
  ne := h.ne
  truthy := hnode ▸ h.truthy
  running := hlease ▸ h.running

/-- A lease that runs now was running before. -/
theorem ShowsLease.earlier {clock' : Nat} (h : ShowsLease rules host clock' record nodeId)
    (hle : clock ≤ clock') : ShowsLease rules host clock record nodeId where
  named := h.named
  ne := h.ne
  truthy := h.truthy
  running := by
    obtain ⟨lease, hparse, hlt⟩ := h.running
    exact ⟨lease, hparse, by omega⟩

theorem haLeaseIsActive_of_shows (h : ShowsLease rules host clock record nodeId)
    (hha : record.haEnabled.truthy = true) : haLeaseIsActive rules clock record = .ok true := by
  obtain ⟨lease, hparse, hlt⟩ := h.running
  rw [haLeaseIsActive, if_neg (by simp [hha, h.truthy]), hparse, ok_bind]
  simp [hlt, pure, Except.pure]

/-- What `validator_ha_lease_is_active` accepts is a running lease of the node it names. -/
theorem showsLease_of_active (h : haLeaseIsActive rules clock record = .ok true)
    (hnode : activeNodeId host record = nodeId) (hne : nodeId ≠ "") :
    ShowsLease rules host clock record nodeId := by
  rw [haLeaseIsActive] at h
  split at h
  · cases h
  · rename_i hflags
    simp only [not_or, Bool.not_eq_false] at hflags
    obtain ⟨parsed, hparse, h⟩ := bind_eq_ok.mp h
    cases parsed with
    | none => cases pure_eq_ok.mp h
    | some lease =>
      exact ⟨hnode, hne, hflags.2, lease, hparse, of_decide_eq_true (pure_eq_ok.mp h)⟩

end Shows

/-! ### Writing a lease -/

section Writes

variable {rules} {now : String} {previous record : RegistryRecord} {args : SyncArgs}

/-- A role is a text in lower case. -/
theorem lower_strip_role {role : String} (hstrip : strip role = role)
    (hrole : ∀ c ∈ role.toList, c.toNat < 128 ∧ c.isUpper = false) :
      host.lower (strip role) = role := by
  rw [hstrip]
  exact host.lower_of_noUpper _ hrole

theorem orElseNone_of_truthy {v w : Json} (h : v.truthy = true) : orElseNone v w = v := by
  cases v with
  | null => cases h
  | _ => rfl

/-- The lease fields of a record that is written in high availability. -/
theorem syncedRecord_lease (h : syncedRecord host now (some previous) args = .ok record)
    (hha : args.haEnabled = .bool true) : record.haEnabled = .bool true ∧
      record.activeReplicaNodeId = syncedReplicaField host (some previous) args
        args.activeReplicaNodeId RegistryRecord.activeReplicaNodeId ∧
      record.activeReplicaLeaseUntil = syncedReplicaField host (some previous) args
        args.activeReplicaLeaseUntil RegistryRecord.activeReplicaLeaseUntil := by
  have henabled : syncedHaEnabled (some previous) args = true := by
    rw [syncedHaEnabled, hha]
    rfl
  rw [syncedRecord] at h
  obtain ⟨ids, -, h⟩ := bind_eq_ok.mp h
  rw [← pure_eq_ok.mp h]
  simp [henabled]

theorem syncedReplicaField_passive {value : Json} {field : RegistryRecord → Json}
    (hrole : args.haRole = "passive") :
    syncedReplicaField host (some previous) args value field = field previous := by
  rw [syncedReplicaField, hrole, if_pos ⟨lower_strip_role (by decide) (by decide), rfl⟩]
  rfl

theorem syncedReplicaField_other {value : Json} {field : RegistryRecord → Json}
    (hrole : host.lower (strip args.haRole) ≠ "passive") (hvalue : value.truthy = true) :
    syncedReplicaField host (some previous) args value field = value := by
  rw [syncedReplicaField, if_neg fun h => hrole h.1, orElseNone_of_truthy hvalue]

/-- What has to hold for a lease to be merged. -/
theorem shouldMerge_truthy {existing incoming : RegistryRecord}
    (h : shouldMergeRemoteHaLease rules existing incoming = .ok true) :
    incoming.activeReplicaNodeId.truthy = true ∧
      incoming.activeReplicaLeaseUntil.truthy = true := by
  rw [shouldMergeRemoteHaLease] at h
  split at h
  · cases h
  split at h
  · cases h
  split at h
  · cases h
  · rename_i _ _ hfields
    simpa only [not_or, Bool.not_eq_false] using hfields

/-- **A merged lease is the incoming one.** -/
theorem syncedRecord_mergedLease {existing incoming : RegistryRecord}
    (hmerges : shouldMergeRemoteHaLease rules existing incoming = .ok true)
    (hargs : leaseArgs host now existing incoming = .ok args)
    (h : syncedRecord host now (some existing) args = .ok record) :
    record.source = existing.source ∧ record.haEnabled = .bool true ∧
      record.activeReplicaNodeId = incoming.activeReplicaNodeId ∧
      record.activeReplicaLeaseUntil = incoming.activeReplicaLeaseUntil := by
  obtain ⟨hnode, hlease⟩ := shouldMerge_truthy hmerges
  rw [leaseArgs] at hargs
  obtain ⟨ids, -, hargs⟩ := bind_eq_ok.mp hargs
  have hargs' := pure_eq_ok.mp hargs
  subst hargs'
  have hrole : host.lower (strip "standalone") ≠ "passive" := by
    rw [lower_strip_role (by decide) (by decide)]
    decide
  obtain ⟨hha, hactive, huntil⟩ := syncedRecord_lease h rfl
  refine ⟨syncedRecord_source h, hha, ?_, ?_⟩
  · rw [hactive]
    exact syncedReplicaField_other hrole hnode
  · rw [huntil]
    exact syncedReplicaField_other hrole hlease

end Writes

/-! ### Registries of a replica -/

/-- The registry of a running replica: one record per id, ids as they are written, and a local
record of the validator in high availability. -/
structure Enrolled (host : Host) (validatorId : String) (file : RegistryFile) : Prop where
  nodup : (registryIds file).Nodup
  normal : ∀ id ∈ registryIds file, host.lower (strip id) = id
  own : ∃ record, getRegistryRecord validatorId file = some record ∧ record.source = "local" ∧
    record.haEnabled.truthy = true

section Enrolled

variable {rules} {validatorId now : String} {file file' : RegistryFile}
  {record : RegistryRecord} {P : RegistryRecord → Prop}

theorem getRegistryRecord_eq (hnd : (registryIds file).Nodup) (id : String) :
    getRegistryRecord id file = Table.find RegistryRecord.validatorId id file :=
  (Table.find_perm (perm_listRegistry file).symm hnd).symm

/-- The record found after a write. -/
theorem getRegistryRecord_upsert (hnd : (registryIds file).Nodup) (id : String) :
    getRegistryRecord id (Table.upsert RegistryRecord.validatorId record (listRegistry file)) =
      if id = record.validatorId then some record else getRegistryRecord id file := by
  have hsorted : (registryIds (listRegistry file)).Nodup :=
    ((perm_listRegistry file).map _).nodup_iff.mpr hnd
  rw [getRegistryRecord_eq (Table.nodup_upsert hsorted), Table.find_upsert]
  rfl

/-- A write of a record with a local one of the validator in its place. -/
theorem Enrolled.upsert (h : Enrolled host validatorId file)
    (hnormal : host.lower (strip record.validatorId) = record.validatorId)
    (hown : record.validatorId = validatorId →
      record.source = "local" ∧ record.haEnabled.truthy = true) :
    Enrolled host validatorId
      (Table.upsert RegistryRecord.validatorId record (listRegistry file)) where
  nodup := Table.nodup_upsert (((perm_listRegistry file).map _).nodup_iff.mpr h.nodup)
  normal := by
    intro id hid
    obtain ⟨r, hr, rfl⟩ := mem_map.mp hid
    rcases Table.mem_upsert hr with hold | rfl
    · exact h.normal _ (mem_registryIds_sorted.mp (mem_map_of_mem hold))
    · exact hnormal
  own := by
    rw [getRegistryRecord_upsert h.nodup]
    by_cases hid : validatorId = record.validatorId
    · rw [if_pos hid]
      exact ⟨record, rfl, hown hid.symm⟩
    · rw [if_neg hid]
      exact h.own

/-- The registry is one of a running replica, and the leases its own record shows are among
these. -/
structure ShowsAmong (host : Host) (validatorId : String) (Q : RegistryRecord → Prop)
    (file : RegistryFile) : Prop extends Enrolled host validatorId file where
  among : ∀ record, getRegistryRecord validatorId file = some record → Q record

variable {Q : RegistryRecord → Prop}
  (hsame : ∀ a b : RegistryRecord, a.activeReplicaNodeId = b.activeReplicaNodeId →
    a.activeReplicaLeaseUntil = b.activeReplicaLeaseUntil → Q b → Q a)
  (hP : ∀ incoming, P incoming → host.lower (strip incoming.validatorId) = incoming.validatorId ∧
    (incoming.validatorId = validatorId → Q incoming))

include hsame hP

/-- **A remote step** leaves the validator's own record, or merges an incoming lease into it. -/
theorem ShowsAmong.step (h : ShowsAmong host validatorId Q file)
    (hstep : RemoteStep host rules now P file file') : ShowsAmong host validatorId Q file' := by
  obtain ⟨own, hown, hlocal, hha⟩ := h.own
  cases hstep with
  | @write record hchange =>
    have hnormal : host.lower (strip record.validatorId) = record.validatorId := by
      rcases hchange.validatorId with ⟨e, he, hid⟩ | ⟨incoming, hincoming, hid⟩
      · rw [hid]
        apply h.normal
        exact mem_registryIds_sorted.mp (mem_map_of_mem (Table.mem_of_find he))
      · rw [hid]
        exact (hP incoming hincoming).1
    -- a change of the validator's own record can only be a merged lease
    have hmerged : record.validatorId = validatorId →
        record.source = "local" ∧ record.haEnabled.truthy = true ∧ Q record := by
      intro hid
      rw [hid, hown] at hchange
      cases hchange with
      | @lease _ incoming _ _ hincoming hsameId hmerges hargs hrecord =>
        obtain ⟨hsource, henabled, hnode, hlease⟩ := syncedRecord_mergedLease hmerges hargs hrecord
        have hQ : Q incoming := (hP incoming hincoming).2 (hsameId.trans (validatorId_of_get hown))
        exact ⟨hsource.trans hlocal, henabled ▸ rfl, hsame record incoming hnode hlease hQ⟩
      | adopt _ _ hforeign _ => exact absurd hlocal (hforeign own rfl)
      | penalty hforeign _ => exact absurd hlocal hforeign
    refine ⟨h.toEnrolled.upsert hnormal fun hid => ?_, ?_⟩
    · exact ⟨(hmerged hid).1, (hmerged hid).2.1⟩
    · intro r hr
      rw [getRegistryRecord_upsert h.nodup] at hr
      split at hr
      · rename_i hid
        cases hr
        exact (hmerged hid.symm).2.2
      · exact h.among r hr
  | @drop dropped hdropped =>
    have hsorted : (registryIds (listRegistry file)).Nodup :=
      ((perm_listRegistry file).map _).nodup_iff.mpr h.nodup
    have hsub : (registryIds ((listRegistry file).filter fun record => !dropped record)).Sublist
        (registryIds (listRegistry file)) := filter_sublist.map _
    have hkept : getRegistryRecord validatorId
        ((listRegistry file).filter fun record => !dropped record) = some own := by
      have hkeep : dropped own = false := by
        by_contra hdrop
        have hpeer := hdropped own (Bool.not_eq_false _ ▸ hdrop)
        rw [hlocal] at hpeer
        exact absurd hpeer (by decide)
      rw [getRegistryRecord_eq (hsub.nodup hsorted), Table.find_eq_some (hsub.nodup hsorted)]
      exact ⟨mem_filter.mpr ⟨Table.mem_of_find hown, by rw [hkeep]; rfl⟩, Table.key_of_find hown⟩
    refine ⟨⟨hsub.nodup hsorted, ?_, own, hkept, hlocal, hha⟩, ?_⟩
    · intro id hid
      exact h.normal id (mem_registryIds_sorted.mp (hsub.subset hid))
    · intro r hr
      rw [hkept] at hr
      cases hr
      exact h.among own hown

theorem ShowsAmong.steps (h : ShowsAmong host validatorId Q file)
    (hsteps : RemoteSteps host rules now P file file') : ShowsAmong host validatorId Q file' := by
  induction hsteps with
  | refl => exact h
  | tail _ hstep ih => exact ih.step hsame hP hstep

end Enrolled

/-! ### One refresh -/

section Refresh

variable {rules group iso} {i : ι} {call : RefreshCall} {clock : Nat} {replica : Replica}

/-- The validator's record in a registry shows a running lease of the node. -/
def OwnShows (rules : RegistryRules) (group : HaGroup host ι) (clock : Nat) (file : RegistryFile)
    (nodeId : String) : Prop :=
  ∃ record, getRegistryRecord group.validatorId file = some record ∧
    ShowsLease rules host clock record nodeId

/-- **A replica that takes the lease** does not see a running lease of another node. -/
theorem refreshedRole_active {leaseIsActive : Bool} {activeId : String}
    (h : refreshedRole group i call replica leaseIsActive activeId = .active)
    (hactive : leaseIsActive = true) (hne : activeId ≠ "") : activeId = group.nodeId i := by
  by_contra hother
  unfold refreshedRole at h
  split at h
  · simp [hactive, hne, hother] at h
  · simp [hactive, hne, hother] at h

/-- The lease that a refreshed record shows is its old one, or one of the replica itself. -/
theorem refreshed_shows {role : HaRole} {own record : RegistryRecord} {now nodeId : String}
    (hrecord : syncedRecord host now (some own)
      (localSyncArgs group iso i call clock role) = .ok record)
    (hshows : ShowsLease rules host clock record nodeId) :
    (role = .passive ∧ ShowsLease rules host clock own nodeId) ∨
      (role = .active ∧ nodeId = group.nodeId i) := by
  obtain ⟨-, hnode, hlease⟩ := syncedRecord_lease hrecord rfl
  cases role with
  | passive =>
    rw [syncedReplicaField_passive rfl] at hnode hlease
    exact .inl ⟨rfl, hshows.of_same hnode hlease⟩
  | active =>
    have hrole : host.lower (strip (localSyncArgs group iso i call clock .active).haRole) ≠
        "passive" := by
      show host.lower (strip "active") ≠ "passive"
      rw [lower_strip_role (by decide) (by decide)]
      decide
    have htruthy : (Json.str (group.nodeId i)).truthy = true := by
      simp [Json.truthy, group.nodeId_ne i]
    have hwritten : record.activeReplicaNodeId = .str (group.nodeId i) := by
      rw [hnode]
      exact syncedReplicaField_other hrole htruthy
    refine .inr ⟨rfl, ?_⟩
    rw [← hshows.named, activeNodeId, hwritten, Host.strOrEmpty_str, group.nodeId_strip]

/-- **One refresh.**  The registry stays that of a running replica.  A lease that its record
shows afterwards was there before, or is the replica's own and no lease of another was. -/
theorem refresh_spec (h : Enrolled host group.validatorId replica.registry) :
    Enrolled host group.validatorId
      (refreshValidatorHaLease rules group iso i call clock replica).registry ∧
    ∀ m, OwnShows rules group clock
        (refreshValidatorHaLease rules group iso i call clock replica).registry m →
      OwnShows rules group clock replica.registry m ∨ (m = group.nodeId i ∧
        ∀ m', OwnShows rules group clock replica.registry m' → m' = group.nodeId i) := by
  obtain ⟨own, hown, hlocal, hha⟩ := h.own
  unfold refreshValidatorHaLease
  simp only
  split
  · exact ⟨h, fun _ => .inl⟩
  rw [hown, Option.map_some, Option.getD_some, Option.map_some, Option.getD_some]
  split
  · exact ⟨h, fun _ => .inl⟩
  · rename_i leaseIsActive hlease
    generalize hrole : refreshedRole group i call replica leaseIsActive (activeNodeId host own) =
        role
    rcases hsync : syncRegistryRecord host (iso clock)
        (localSyncArgs group iso i call clock role) replica.registry with e | file'
    · exact ⟨h, fun _ => .inl⟩
    rw [syncRegistryRecord] at hsync
    obtain ⟨record, hrecord, hsync⟩ := bind_eq_ok.mp hsync
    have hid : record.validatorId = group.validatorId := syncedRecord_validatorId hrecord
    have hprevious : getRegistryRecord (localSyncArgs group iso i call clock
        role).validatorId replica.registry = some own := hown
    rw [hprevious] at hrecord
    show Enrolled host group.validatorId file' ∧ _
    rw [← pure_eq_ok.mp hsync]
    constructor
    · apply h.upsert
      · rw [hid]
        exact group.validatorId_normal
      · intro _
        exact ⟨syncedRecord_source hrecord, (syncedRecord_lease hrecord rfl).1 ▸ rfl⟩
    · rintro m ⟨found, hfound, hshows⟩
      change getRegistryRecord _ (Table.upsert _ _ _) = _ at hfound
      rw [getRegistryRecord_upsert h.nodup, if_pos hid.symm] at hfound
      cases hfound
      rcases refreshed_shows hrecord hshows with ⟨-, hold⟩ | ⟨hactive, hself⟩
      · exact .inl ⟨own, hown, hold⟩
      · refine .inr ⟨hself, ?_⟩
        rintro m' ⟨own', hown', hm'⟩
        cases hown.symm.trans hown'
        rw [haLeaseIsActive_of_shows hm' hha] at hlease
        rw [← hm'.named]
        apply refreshedRole_active (hrole.trans hactive) (Except.ok.inj hlease).symm
        rw [hm'.named]
        exact hm'.ne

end Refresh

/-! ### The whole group -/

section Group

variable {policy rules group iso}

/-- A running lease of the node is shown somewhere: in the validator's record at a replica, or in
a record under way. -/
def HaState.Shows (rules : RegistryRules) (group : HaGroup host ι) (s : HaState ι)
    (nodeId : String) : Prop :=
  (∃ i record, getRegistryRecord group.validatorId (s.replica i).registry = some record ∧
    ShowsLease rules host s.clock record nodeId) ∨
  ∃ gossip ∈ s.sent, ∃ record ∈ gossip.records, record.validatorId = group.validatorId ∧
    ShowsLease rules host s.clock record nodeId

/-- The replicas run, and all running leases are of one of them. -/
structure HaSound (rules : RegistryRules) (group : HaGroup host ι) (s : HaState ι) : Prop where
  enrolled : ∀ i, Enrolled host group.validatorId (s.replica i).registry
  spelled : ∀ gossip ∈ s.sent, ∀ record ∈ gossip.records,
    host.lower (strip record.validatorId) = record.validatorId
  agreed : ∀ m m', s.Shows rules group m → s.Shows rules group m' → m = m'

/-- A replica only refreshes while no lease of another node is running anywhere, or its own record
shows one. -/
def KnowsLease (rules : RegistryRules) (group : HaGroup host ι) : HaOp ι → HaState ι → Prop
  | .refresh i _, s => ∀ m, s.Shows rules group m → m ≠ group.nodeId i →
      ∃ own m', getRegistryRecord group.validatorId (s.replica i).registry = some own ∧
        ShowsLease rules host s.clock own m' ∧ m' ≠ group.nodeId i
  | _, _ => True

theorem iterRemoteValidatorRecords_gossip {gossip : Gossip} :
    iterRemoteValidatorRecords host (gossip.payload host policy) =
      .ok (gossip.records.map fun record => .obj (registryFields record)) := by
  have hrecords : Json.getD (gossip.payload host policy) "records" =
      .arr (gossip.records.map fun record => .obj (registryFields record)) := rfl
  have hvalidators : Json.getD (gossip.payload host policy) "validators" = .null := by
    rcases hsignature : gossip.signature with - | signature
    · rw [Gossip.payload, hsignature]
      rfl
    · rw [Gossip.payload, hsignature]
      rfl
  rw [iterRemoteValidatorRecords, hrecords, hvalidators]
  split
  · rw [Json.listOrEmpty_arr]
  · rename_i hempty
    have hnil : gossip.records = [] := by simpa [Json.truthy] using hempty
    rw [hnil]
    rfl

/-- A record that arrives is the one that was sent, in its id and its lease. -/
theorem incomingValidator_registryFields {now sourceUrl : String} {record incoming : RegistryRecord}
    (h : incomingValidator host rules now sourceUrl (registryFields record) = .ok incoming) :
    incoming.validatorId = host.lower (strip record.validatorId) ∧
      incoming.activeReplicaNodeId = record.activeReplicaNodeId ∧
      incoming.activeReplicaLeaseUntil = record.activeReplicaLeaseUntil := by
  have hid : rawValidatorId host (registryFields record) =
      host.lower (strip record.validatorId) := by
    rw [rawValidatorId, fieldText_of_str host rfl]
  rw [← hid]
  rw [incomingValidator] at h
  simp only [bind_eq_ok, pure_eq_ok] at h
  obtain ⟨url, -, bonded, -, ids, -, last, -, total, -, rfl⟩ := h
  exact ⟨rfl, rfl, rfl⟩

/-- At most one replica takes itself for the active one where all running leases agree. -/
theorem HaSound.exclusive {s : HaState ι} (h : HaSound rules group s) {i j : ι}
    (hi : ConsidersActive rules group s i) (hj : ConsidersActive rules group s j) : i = j := by
  have hshows : ∀ k, ConsidersActive rules group s k → s.Shows rules group (group.nodeId k) := by
    rintro k ⟨-, record, hrecord, hactive, hnode⟩
    exact .inl ⟨k, record, hrecord, showsLease_of_active hactive hnode (group.nodeId_ne k)⟩
  exact group.nodeId_injective (h.agreed _ _ (hshows i hi) (hshows j hj))

variable [DecidableEq ι]

/-- What a new state of one replica shows: only leases that were shown, or that this replica's
record shows now. -/
theorem shows_put {s : HaState ι} {i : ι} {replica : Replica} {m : String}
    (h : (s.put i replica).Shows rules group m) :
    s.Shows rules group m ∨ OwnShows rules group s.clock replica.registry m := by
  rcases h with ⟨j, record, hrecord, hshows⟩ | hsent
  · by_cases hj : j = i
    · subst hj
      rw [HaState.put_self] at hrecord
      exact .inr ⟨record, hrecord, hshows⟩
    · rw [HaState.put_of_ne s hj] at hrecord
      exact .inl (.inl ⟨j, record, hrecord, hshows⟩)
  · exact .inl (.inr hsent)

theorem HaSound.put {s : HaState ι} (h : HaSound rules group s) {i : ι} {replica : Replica}
    (henrolled : Enrolled host group.validatorId replica.registry)
    (hagreed : ∀ m m', (s.put i replica).Shows rules group m →
      (s.put i replica).Shows rules group m' → m = m') :
    HaSound rules group (s.put i replica) where
  enrolled := by
    intro j
    by_cases hj : j = i
    · subst hj
      rwa [HaState.put_self]
    · rw [HaState.put_of_ne s hj]
      exact h.enrolled j
  spelled := h.spelled
  agreed := hagreed

theorem HaSound.refresh {s : HaState ι} (h : HaSound rules group s) {i : ι} {call : RefreshCall}
    (hknows : KnowsLease rules group (.refresh i call) s) :
    HaSound rules group ((HaOp.refresh i call).step policy rules group iso s) := by
  obtain ⟨henrolled, hspec⟩ :=
    @refresh_spec host rules ι group iso i call s.clock (s.replica i) (h.enrolled i)
  apply h.put henrolled
  -- every lease shown after the refresh was shown before, or is the replica's own and the only one
  have hshown : ∀ m, (s.put i (refreshValidatorHaLease rules group iso i call s.clock
      (s.replica i))).Shows rules group m → s.Shows rules group m ∨
      (m = group.nodeId i ∧ ∀ m', s.Shows rules group m' → m' = group.nodeId i) := by
    intro m hm
    rcases shows_put hm with hold | hshows
    · exact .inl hold
    rcases hspec m hshows with hown | ⟨hself, hnone⟩
    · exact .inl (.inl ⟨i, hown⟩)
    · refine .inr ⟨hself, fun m' hm' => ?_⟩
      by_contra hother
      obtain ⟨own, m'', hown, hshows'', hne⟩ := hknows m' hm' hother
      exact hne (hnone m'' ⟨own, hown, hshows''⟩)
  intro m m' hm hm'
  rcases hshown m hm with hold | ⟨hself, honly⟩
  · rcases hshown m' hm' with hold' | ⟨hself', honly'⟩
    · exact h.agreed m m' hold hold'
    · rw [hself']
      exact honly' m hold
  · rcases hshown m' hm' with hold' | ⟨hself', -⟩
    · rw [hself]
      exact (honly m' hold').symm
    · rw [hself, hself']

theorem HaSound.deliver {s : HaState ι} (h : HaSound rules group s) {i : ι} {message : Nat}
    {sourceUrl : String} :
    HaSound rules group ((HaOp.deliver i message sourceUrl).step policy rules group iso s) := by
  unfold HaOp.step
  simp only
  rcases hmessage : s.sent[message]? with - | gossip
  · exact h
  have hsent : gossip ∈ s.sent := mem_of_getElem? hmessage
  have hamong : ShowsAmong host group.validatorId
      (fun record => ∀ m, ShowsLease rules host s.clock record m → s.Shows rules group m)
      (s.replica i).registry :=
    ⟨h.enrolled i, fun record hrecord m hm => .inl ⟨i, record, hrecord, hm⟩⟩
  have hmerged : ShowsAmong host group.validatorId
      (fun record => ∀ m, ShowsLease rules host s.clock record m → s.Shows rules group m)
      (mergeRemoteValidatorSet host policy rules (iso s.clock) sourceUrl
        (gossip.payload host policy) (s.replica i).registry).2 := by
    refine hamong.steps ?_ ?_ mergeRemoteValidatorSet_steps
    · intro a b hnode hlease hb m hm
      exact hb m (hm.of_same hnode hlease)
    · rintro incoming ⟨raws, hraws, raw, hraw, -, hincoming⟩
      rw [iterRemoteValidatorRecords_gossip] at hraws
      cases hraws
      obtain ⟨record, hrecord, heq⟩ := mem_map.mp hraw
      cases heq
      obtain ⟨hid, hnode, hlease⟩ := incomingValidator_registryFields hincoming
      rw [h.spelled gossip hsent record hrecord] at hid
      refine ⟨hid ▸ h.spelled gossip hsent record hrecord, ?_⟩
      intro hvalidator m hm
      exact .inr ⟨gossip, hsent, record, hrecord, hid.symm.trans hvalidator,
        hm.of_same hnode hlease⟩
  apply h.put hmerged.toEnrolled
  have hshown : ∀ m, (s.put i { s.replica i with
      registry := (mergeRemoteValidatorSet host policy rules (iso s.clock) sourceUrl
        (gossip.payload host policy) (s.replica i).registry).2 }).Shows rules group m →
      s.Shows rules group m := by
    intro m hm
    rcases shows_put hm with hold | ⟨record, hrecord, hshows⟩
    · exact hold
    · exact hmerged.among record hrecord m hshows
  exact fun m m' hm hm' => h.agreed m m' (hshown m hm) (hshown m' hm')

/-- An exported record has the id and the lease of the one it was made from. -/
theorem effectiveRecord_lease {locked : Tally String} {record : RegistryRecord} :
    (effectiveRecord host locked record).validatorId = record.validatorId ∧
      (effectiveRecord host locked record).activeReplicaNodeId = record.activeReplicaNodeId ∧
      (effectiveRecord host locked record).activeReplicaLeaseUntil =
        record.activeReplicaLeaseUntil := by
  rw [effectiveRecord]
  split_ifs <;> exact ⟨rfl, rfl, rfl⟩

theorem HaSound.publish {s : HaState ι} (h : HaSound rules group s) {i : ι}
    {locked : Tally String} {exportedAt : String} {committee : Json} {signature : Option Fields} :
    HaSound rules group ((HaOp.publish i locked exportedAt committee signature).step policy rules
      group iso s) := by
  have hmem : ∀ record ∈ (listRegistry (s.replica i).registry).map (effectiveRecord host locked),
      ∃ own ∈ (s.replica i).registry, record.validatorId = own.validatorId ∧
        record.activeReplicaNodeId = own.activeReplicaNodeId ∧
        record.activeReplicaLeaseUntil = own.activeReplicaLeaseUntil := by
    intro record hrecord
    obtain ⟨own, hown, rfl⟩ := mem_map.mp hrecord
    exact ⟨own, (perm_listRegistry _).mem_iff.mp hown, effectiveRecord_lease⟩
  refine ⟨h.enrolled, ?_, ?_⟩
  · intro gossip hgossip record hrecord
    rcases mem_cons.mp hgossip with rfl | hold
    · obtain ⟨own, hown, hid, -⟩ := hmem record hrecord
      rw [hid]
      exact (h.enrolled i).normal _ (mem_map_of_mem hown)
    · exact h.spelled gossip hold record hrecord
  · have hshown : ∀ m, ((HaOp.publish i locked exportedAt committee signature).step policy rules
        group iso s).Shows rules group m → s.Shows rules group m := by
      rintro m (hreplica | ⟨gossip, hgossip, record, hrecord, hid, hshows⟩)
      · exact .inl hreplica
      rcases mem_cons.mp hgossip with rfl | hold
      · obtain ⟨own, hown, hid', hnode, hlease⟩ := hmem record hrecord
        refine .inl ⟨i, own, ?_, hshows.of_same hnode hlease⟩
        rw [getRegistryRecord_eq (h.enrolled i).nodup, Table.find_eq_some (h.enrolled i).nodup]
        exact ⟨hown, hid'.symm.trans hid⟩
      · exact .inr ⟨gossip, hold, record, hrecord, hid, hshows⟩
    exact fun m m' hm hm' => h.agreed m m' (hshown m hm) (hshown m' hm')

theorem HaSound.tick {s : HaState ι} (h : HaSound rules group s) {micros : Nat} :
    HaSound rules group ((HaOp.tick micros).step policy rules group iso s) where
  enrolled := h.enrolled
  spelled := h.spelled
  agreed := by
    have hshown : ∀ m, ((HaOp.tick micros).step policy rules group iso s).Shows rules group m →
        s.Shows rules group m := by
      rintro m (⟨i, record, hrecord, hshows⟩ | ⟨gossip, hgossip, record, hrecord, hid, hshows⟩)
      · exact .inl ⟨i, record, hrecord, hshows.earlier (Nat.le_add_right _ _)⟩
      · exact .inr ⟨gossip, hgossip, record, hrecord, hid, hshows.earlier (Nat.le_add_right _ _)⟩
    exact fun m m' hm hm' => h.agreed m m' (hshown m hm) (hshown m' hm')

/-- **One active replica.**  In every run of refreshes, ticks of the clock and exchanged records in
which a replica only refreshes while no lease of another runs anywhere or its own record shows one,
no two replicas take themselves for the active one, in any state. -/
theorem haRuns_exclusive {ops : List (HaOp ι)} {s : HaState ι} (hstart : HaSound rules group s)
    (hmeets : Machine.Meets (HaOp.step policy rules group iso) (KnowsLease rules group) ops s) :
    Machine.Always (HaOp.step policy rules group iso)
      (fun t => ∀ i j, ConsidersActive rules group t i → ConsidersActive rules group t j → i = j)
      ops s := by
  have hstep : ∀ (op : HaOp ι) (t : HaState ι), HaSound rules group t →
      KnowsLease rules group op t → HaSound rules group (op.step policy rules group iso t) := by
    intro op t ht hknows
    cases op with
    | tick micros => exact ht.tick
    | refresh i call => exact ht.refresh hknows
    | publish i locked exportedAt committee signature => exact ht.publish
    | deliver i message sourceUrl => exact ht.deliver
  exact (Machine.always_of_invariant hstep hmeets hstart).imp
    fun t ht i j hi hj => ht.exclusive hi hj

end Group

/-! Two replicas that have just been set up and have not exchanged a record. -/

/-- `isoformat` in the first hundred microseconds. -/
def sampleIso (t : Nat) : String :=
  "1970-01-01T00:00:00.0000" ++ (if t < 10 then "0" else "") ++ toString t ++ "+00:00"

/-- `fromisoformat` of these texts. -/
def sampleLeaseRules : RegistryRules where
  fromIso s := some ⟨true, Nat.ofDigitChars 10 ((s.toList.drop 20).take 6) 0⟩
  resolvePeerUrl _ _ := .ok none

def sampleGroup : HaGroup sampleHost Bool where
  validatorId := "c4"
  nodeId b := if b then "m" else "n"
  validatorId_normal := by decide
  nodeId_injective := by decide
  nodeId_strip := by decide
  nodeId_ne := by decide

/-- The treasury's bond, as both replicas know it. -/
def sampleConfig : SyncArgs where
  validatorId := "c4"
  walletId := .str "t"
  address := "c4"
  state := .bonded
  bondedAtomic := 1000000000000
  staticIpConfirmed := true

def sampleRefresh : RefreshCall where
  ready := true
  config := sampleConfig
  leaseMicros := 9

/-- A registry with the validator's record, set up in high availability, without a lease. -/
def sampleReplica : Replica where
  role := .passive
  autoFailover := true
  registry := ((syncRegistryRecord sampleHost (sampleIso 1) { sampleConfig with
    haEnabled := .bool true }) []).toOption.getD []

def sampleReplicas : HaState Bool where
  clock := 5
  replica _ := sampleReplica
  sent := []

/-- The moves of the two replicas. -/
abbrev sampleMove : HaOp Bool → HaState Bool → HaState Bool :=
  HaOp.step samplePolicy sampleLeaseRules sampleGroup sampleIso

/-- Both replicas take the lease, and both take themselves for the active one. -/
theorem haRuns_both : ¬ Machine.Always sampleMove
      (fun t => ∀ i j, ConsidersActive sampleLeaseRules sampleGroup t i →
        ConsidersActive sampleLeaseRules sampleGroup t j → i = j)
      [.refresh true sampleRefresh, .refresh false sampleRefresh] sampleReplicas := by
  rintro ⟨-, -, h⟩
  have hactive : ∀ i, ConsidersActive sampleLeaseRules sampleGroup
      (sampleMove (.refresh false sampleRefresh) (sampleMove (.refresh true sampleRefresh)
        sampleReplicas)) i := by
    intro i
    cases i <;> exact ⟨rfl, _, rfl, rfl, rfl⟩
  exact absurd (h true false (hactive true) (hactive false)) (by decide)

theorem not_shows_sampleReplicas {m : String} :
    ¬ sampleReplicas.Shows sampleLeaseRules sampleGroup m := by
  rintro (⟨i, record, hrecord, hshows⟩ | ⟨gossip, hgossip, -⟩)
  · cases hrecord
    exact absurd hshows.truthy (by decide)
  · exact absurd hgossip not_mem_nil

theorem sampleReplicas_sound : HaSound sampleLeaseRules sampleGroup sampleReplicas where
  enrolled := by
    intro _
    show Enrolled sampleHost "c4" sampleReplica.registry
    exact ⟨by decide, by decide, _, rfl, rfl, rfl⟩
  spelled gossip hgossip := absurd hgossip not_mem_nil
  agreed m m' hm := absurd hm not_shows_sampleReplicas

/-- The first replica takes the lease and exports it. -/
def sampleLeased : HaState Bool :=
  sampleMove (.publish true [("c4", 1000000000000)] (sampleIso 5) .null none)
    (sampleMove (.refresh true sampleRefresh) sampleReplicas)

/-- What arrives at the second one. -/
def sampleArrived : RegistryFile :=
  (mergeValidators sampleHost sampleLeaseRules (sampleIso 5) "u"
    ((sampleLeased.replica true).registry.map fun record => .obj (registryFields record))
    sampleReplica.registry).2

theorem sampleLeased_delivered : sampleMove (.deliver false 0 "u") sampleLeased =
    sampleLeased.put false { sampleReplica with registry := sampleArrived } := by
  have hread : readValidatorSet sampleHost samplePolicy sampleLeaseRules "u"
      (Gossip.payload sampleHost samplePolicy ⟨(sampleLeased.replica true).registry, sampleIso 5,
        .null, none⟩) = .ok ((sampleLeased.replica true).registry.map fun record =>
          .obj (registryFields record), [], []) := by
    rw [readValidatorSet, checkValidatorSetPayload, Gossip.payload, Option.map_none,
      Option.toList_none, append_nil, validatePeerPayloadNetwork_added (by simp [List.lookup_cons])]
    rfl
  show sampleLeased.put false { sampleReplica with registry := (mergeRemoteValidatorSet _ _ _ _ _
    (Gossip.payload sampleHost samplePolicy ⟨(sampleLeased.replica true).registry, sampleIso 5,
        .null, none⟩) _).2 } = _
  rw [mergeRemoteValidatorSet, hread]
  rfl

/-- The first replica takes the lease and exports it; the second one stays passive while the lease
runs and takes over when it has ended. -/
def sampleHandover : List (HaOp Bool) :=
  [.refresh true sampleRefresh, .publish true [("c4", 1000000000000)] (sampleIso 5) .null none,
    .deliver false 0 "u", .refresh false sampleRefresh, .tick 20, .refresh false sampleRefresh]

/-- The second replica after its first refresh, when the clock has moved on. -/
def sampleWaiting : HaState Bool :=
  sampleMove (.tick 20) (sampleMove (.refresh false sampleRefresh)
    (sampleLeased.put false { sampleReplica with registry := sampleArrived }))

theorem not_shows_sampleWaiting {m : String} :
    ¬ sampleWaiting.Shows sampleLeaseRules sampleGroup m := by
  have hended : ∀ {record : RegistryRecord}, record.activeReplicaLeaseUntil = .str (sampleIso 14) →
      ¬ ShowsLease sampleLeaseRules sampleHost 25 record m := by
    rintro record huntil ⟨-, -, -, lease, hlease, hrunning⟩
    rw [huntil] at hlease
    cases hlease
    exact absurd hrunning (by decide)
  rintro (⟨i, record, hrecord, hshows⟩ | ⟨gossip, hgossip, record, hrecord, -, hshows⟩)
  · refine hended ?_ hshows
    cases i <;> cases hrecord <;> rfl
  · refine hended ?_ hshows
    obtain rfl := mem_singleton.mp hgossip
    obtain rfl := mem_singleton.mp hrecord
    rfl

theorem haRuns_exclusive_handover :
    Machine.Always sampleMove (fun t => ∀ i j, ConsidersActive sampleLeaseRules sampleGroup t i →
        ConsidersActive sampleLeaseRules sampleGroup t j → i = j) sampleHandover sampleReplicas ∧
      (sampleWaiting.replica false).role = .passive ∧
      ((sampleMove (.refresh false sampleRefresh) sampleWaiting).replica false).role = .active := by
  have hlease : KnowsLease sampleLeaseRules sampleGroup (.refresh false sampleRefresh)
      (sampleMove (.deliver false 0 "u") sampleLeased) := by
    rw [sampleLeased_delivered]
    exact fun m _ _ => ⟨_, "m", rfl, ⟨rfl, by decide, rfl, _, rfl, by decide⟩, by decide⟩
  have hended : KnowsLease sampleLeaseRules sampleGroup (.refresh false sampleRefresh)
      (sampleMove (.tick 20) (sampleMove (.refresh false sampleRefresh)
        (sampleMove (.deliver false 0 "u") sampleLeased))) := by
    rw [sampleLeased_delivered]
    exact fun m hm => absurd hm not_shows_sampleWaiting
  refine ⟨haRuns_exclusive sampleReplicas_sound ?_, rfl, rfl⟩
  exact ⟨fun m hm => absurd hm not_shows_sampleReplicas, trivial, trivial, hlease, trivial, hended,
    trivial⟩

end CaiNetwork
