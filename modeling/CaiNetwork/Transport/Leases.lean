/-
CaiNetwork/Transport/Leases.lean

Runtimes that share the batches of a session: claims, heartbeats, completions, failures and the
reconciliation of timeouts, in any order and at any times.

`Settles` says once what an operation may do to a batch: a closed batch keeps its status, and no
batch becomes processed unless the operation is a completion of it.  A completion goes through only
where its runtime holds a lease that has not run out (`owner_holds`), and over a run a batch is
completed at most once (`leaseRuns_exclusive`).
-/

import CaiNetwork.Machine
import CaiNetwork.Transport.Session

namespace CaiNetwork

open List Action

variable {sessionId batchId runtime : String} {now : Int} {call : RuntimeCall}

/-! ### Moves of batches -/

/-- What an operation may do to a batch, in the session of the given id. -/
structure BatchMove where
  rel : String → Batch → Batch → Prop
  ident : ∀ {i b c}, rel i b c → c.batchId = b.batchId
  refl : ∀ i b, rel i b b
  trans : ∀ {i b c d}, rel i b c → rel i c d → rel i b d

/-- Every batch of the session moves. -/
structure TransportSession.Moves (m : BatchMove) (r t : TransportSession) : Prop where
  ident : t.sessionId = r.sessionId
  batches : List.Forall₂ (m.rel r.sessionId) r.batchRecords t.batchRecords

/-- Every session of the store moves. -/
def TransportStore.Moves (m : BatchMove) (s t : TransportStore) : Prop :=
  List.Forall₂ (TransportSession.Moves m) s.sessions t.sessions

section Moves

variable {α : Type} {m : BatchMove} {r t u : TransportSession} {s s' s'' : TransportStore}
  {b : Batch} {nodeId : String}

theorem TransportSession.Moves.of_batches (hid : t.sessionId = r.sessionId)
    (h : t.batchRecords = r.batchRecords) : r.Moves m t := by
  refine ⟨hid, ?_⟩
  rw [h]
  exact forall₂_same.mpr fun b _ => m.refl _ b

theorem TransportSession.Moves.refl (r : TransportSession) : r.Moves m r := .of_batches rfl rfl

theorem TransportSession.Moves.trans (h : r.Moves m t) (h' : t.Moves m u) : r.Moves m u where
  ident := h'.ident.trans h.ident
  batches := by
    have hrest := h'.batches
    rw [h.ident] at hrest
    exact moves_trans (R := m.rel r.sessionId) m.trans h.batches hrest

theorem TransportStore.Moves.of_sessions (h : s'.sessions = s.sessions) : s.Moves m s' := by
  show List.Forall₂ _ s.sessions s'.sessions
  rw [h]
  exact forall₂_same.mpr fun r _ => .refl r

theorem TransportStore.Moves.refl (s : TransportStore) : s.Moves m s := .of_sessions rfl

theorem TransportStore.Moves.trans (h : s.Moves m s') (h' : s'.Moves m s'') : s.Moves m s'' :=
  moves_trans (R := TransportSession.Moves m) (fun hab hbc => hab.trans hbc) h h'

theorem TransportStore.batch_eq_some : s.batch? sessionId batchId = some b ↔
      ∃ r, s.session? sessionId = some r ∧ r.batch? batchId = some b :=
  Option.bind_eq_some_iff

theorem TransportStore.session_ident (h : s.session? sessionId = some r) :
    r.sessionId = sessionId := by
  simpa using find?_some h

theorem TransportSession.batch_ident (h : r.batch? batchId = some b) :
    strip b.batchId = batchId := by
  simpa using find?_some h

/-- The batch two ids stand for moves with the store. -/
theorem TransportStore.Moves.batch (h : s.Moves m s') (hb : s.batch? sessionId batchId = some b) :
    ∃ c, s'.batch? sessionId batchId = some c ∧ m.rel sessionId b c := by
  obtain ⟨r, hr, hrb⟩ := batch_eq_some.mp hb
  obtain ⟨t, ht, hrt⟩ : ∃ t, s'.session? sessionId = some t ∧ r.Moves m t := by
    refine find_moves (fun {a b} hab => ?_) h hr
    rw [hab.ident]
  obtain ⟨c, hc, hbc⟩ : ∃ c, t.batch? batchId = some c ∧ m.rel r.sessionId b c := by
    refine find_moves (fun {a c} hac => ?_) hrt.batches hrb
    rw [m.ident hac]
  rw [session_ident hr] at hbc
  exact ⟨c, batch_eq_some.mpr ⟨t, ht, hc⟩, hbc⟩

theorem moves_inSessionOr {missing : PyError} {x : Action TransportSession PyError α}
    (hx : ∀ r, s.session? (strip sessionId) = some r → r.Moves m (x r).2) :
    s.Moves m (inSessionOr missing sessionId x s).2 :=
  first_moves .refl hx

theorem moves_inBatch {x : Action Batch PyError α}
    (hx : ∀ b, r.batch? batchId = some b → m.rel r.sessionId b (x b).2) :
    r.Moves m (inBatch batchId x r).2 :=
  ⟨rfl, first_moves (m.refl _) hx⟩

/-- The action writes only fields of the session itself. -/
def KeepsBatches (x : Action TransportSession PyError α) : Prop :=
  ∀ r, (x r).2.sessionId = r.sessionId ∧ (x r).2.batchRecords = r.batchRecords

theorem moves_bind {β : Type} {x : Action TransportSession PyError α}
    {f : α → Action TransportSession PyError β} (hx : r.Moves m (x r).2)
    (hf : ∀ a, KeepsBatches (f a)) : r.Moves m ((x >>= f) r).2 := by
  refine bind_outcome (P := fun o => r.Moves m o.2) (fun _ _ => hx) fun a _ => ?_
  obtain ⟨hid, hbatches⟩ := hf a (x r).2
  exact hx.trans (.of_batches hid hbatches)

/-! ### The operations move batches -/

theorem refuseCompleted_same {message : String} : (refuseCompleted message r).2 = r := by
  unfold refuseCompleted
  split <;> rfl

theorem requireSessionParticipant_same : (requireSessionParticipant nodeId r).2 = r := by
  unfold requireSessionParticipant
  split_ifs <;> rfl

theorem requireMarkingNode_same (nodeId : String) : (requireMarkingNode nodeId r).2 = r := by
  unfold requireMarkingNode
  split
  · rfl
  · exact requireSessionParticipant_same

theorem requireBatchId_ok {value : String} (h : requireBatchId value = .ok batchId) :
    batchId = strip value := by
  unfold requireBatchId requireSafeTransportFileId at h
  split at h
  · cases h
    rfl
  · cases h

/-- A batch of an open session is worked on, as claims and heartbeats do. -/
theorem moves_work {message : String} {x : String → Action Batch PyError α}
    {f : α → Action TransportSession PyError TransportSession}
    (hx : ∀ r b node, s.session? (strip sessionId) = some r → r.batch? (strip batchId) = some b →
      m.rel r.sessionId b (x node b).2) (hf : ∀ a, KeepsBatches (f a)) :
    s.Moves m ((do
      let batchId ← Action.lift (requireBatchId batchId)
      inSession sessionId do
        refuseCompleted message
        let node ← requireSessionParticipant nodeId
        let a ← inBatch batchId (x node)
        f a : Action TransportStore PyError TransportSession) s).2 := by
  refine moves_lift (.refl s) fun id hid => ?_
  rw [requireBatchId_ok hid]
  refine moves_inSessionOr fun r hr => ?_
  refine moves_read (.refl r) refuseCompleted_same fun _ _ => ?_
  refine moves_read (.refl r) requireSessionParticipant_same fun node _ => ?_
  exact moves_bind (moves_inBatch fun b hb => hx r b node hr hb) hf

theorem claim_moves {lease : Option Int} (hclaim : ∀ r b node,
      s.session? (strip call.sessionId) = some r → r.batch? (strip call.batchId) = some b →
      m.rel r.sessionId b (claimBatch node call.runtime lease now b).2) :
    s.Moves m (claimCaiOwnedTransportBatch call lease now s).2 :=
  moves_work hclaim fun _ _ => ⟨rfl, rfl⟩

theorem heartbeat_moves {lease : Option Int}
    (hbeat : ∀ i node b, m.rel i b (heartbeatBatch node call.runtime lease now b).2) :
    s.Moves m (heartbeatCaiOwnedTransportBatch call lease now s).2 :=
  moves_work (fun r b node _ _ => hbeat r.sessionId node b) fun _ _ => ⟨rfl, rfl⟩

theorem reconcile_moves {receivedTimeout maxAttempts : Option Int}
    (hreconcile : ∀ i b, m.rel i b (reconcileBatch (coerceBatchClaimTimeout receivedTimeout)
      (coerceMaxAttempts maxAttempts) now b).2) :
    s.Moves m
      (reconcileCaiOwnedTransportSessionTimeouts sessionId receivedTimeout maxAttempts now
        s).2 := by
  refine moves_inSessionOr fun r _ => ?_
  have hbatches : List.Forall₂ (m.rel r.sessionId) r.batchRecords
      ((r.batchRecords.map (reconcileBatch (coerceBatchClaimTimeout receivedTimeout)
        (coerceMaxAttempts maxAttempts) now)).map Prod.snd) := by
    rw [map_map, forall₂_map_right_iff]
    exact forall₂_same.mpr fun b _ => hreconcile r.sessionId b
  unfold reconcileSession
  split
  · exact .refl r
  dsimp only
  split
  · exact ⟨rfl, hbatches⟩
  split
  · exact ⟨rfl, hbatches⟩
  · exact .refl r

end Moves

/-! ### What a step may do to a batch -/

/-- A closed batch keeps its status, and only a batch that is `done` becomes processed. -/
structure Batch.Settles (done : String → Prop) (b c : Batch) : Prop where
  ident : c.batchId = b.batchId
  closed : b.status.isClosed = true → c.status = b.status
  finished : c.status = .processed → b.status = .processed ∨ done (strip b.batchId)

section Settles

variable {done : String → Prop} {b c d : Batch}

theorem Batch.Settles.of_status (hid : c.batchId = b.batchId) (h : c.status = b.status) :
    b.Settles done c :=
  ⟨hid, fun _ => h, fun hc => .inl (h ▸ hc)⟩

/-- A batch that was open may become anything but processed. -/
theorem Batch.Settles.of_open (hid : c.batchId = b.batchId) (hopen : b.status.isClosed = false)
    (hc : c.status ≠ .processed) : b.Settles done c := by
  refine ⟨hid, fun hclosed => ?_, fun h => absurd h hc⟩
  rw [hopen] at hclosed
  cases hclosed

theorem Batch.Settles.refl (b : Batch) : b.Settles done b := .of_status rfl rfl

theorem Batch.Settles.trans (h : b.Settles done c) (h' : c.Settles done d) : b.Settles done d where
  ident := h'.ident.trans h.ident
  closed hb := by
    have hc := h.closed hb
    rw [h'.closed (hc ▸ hb), hc]
  finished hd := by
    rcases h'.finished hd with hc | hdone
    · exact h.finished hc
    · rw [h.ident] at hdone
      exact .inr hdone

end Settles

/-- The batches settle, those of `done` by a completion. -/
def settling (done : String → String → Prop) : BatchMove where
  rel i := Batch.Settles (done i)
  ident := Batch.Settles.ident
  refl _ := .refl
  trans := .trans

/-- Every batch of the session settles. -/
abbrev TransportSession.Settles (done : String → String → Prop) (r t : TransportSession) : Prop :=
  r.Moves (settling done) t

/-- Every session of the store settles. -/
abbrev TransportStore.Settles (done : String → String → Prop) (s t : TransportStore) : Prop :=
  s.Moves (settling done) t

/-! ### The operations settle -/

section Operations

variable {α : Type} {done : String → String → Prop} {s : TransportStore} {r : TransportSession}

theorem TransportStore.Settles.imp {done' : String → String → Prop} {s' : TransportStore}
    (h : s.Settles done s')
    (himp : ∀ sessionId batchId, done sessionId batchId → done' sessionId batchId) :
    s.Settles done' s' := by
  refine List.Forall₂.imp (fun r t hrt => ⟨hrt.ident, ?_⟩) h
  refine List.Forall₂.imp (fun b c hbc => ⟨hbc.ident, hbc.closed, fun hc => ?_⟩) hrt.batches
  exact (hbc.finished hc).imp_right (himp _ _)

variable {error : String} {retryable : Bool} {maxAttempts : Int}

theorem claimBatch_settles {done : String → Prop} {node : String} {lease : Option Int} (b : Batch) :
    b.Settles done (claimBatch node runtime lease now b).2 := by
  unfold claimBatch
  split
  · exact .refl b
  split
  · split
    -- the runtime's own lease is renewed
    · exact .of_status rfl rfl
    · exact .refl b
  split
  · exact .refl b
  · rename_i hopen
    refine .of_open rfl (by simpa using hopen) ?_
    show BatchStatus.processing ≠ .processed
    simp

theorem heartbeatBatch_settles {done : String → Prop} {node : String} {lease : Option Int}
    (b : Batch) : b.Settles done (heartbeatBatch node runtime lease now b).2 := by
  unfold heartbeatBatch
  split_ifs
  all_goals first
    | exact .refl b
    | exact .of_status rfl rfl

section Next

variable {R : TransportStore → TransportStore → Prop} (hrefl : ∀ s, R s s)
  (htrans : ∀ {a b c}, R a b → R b c → R a c) {node nodeId : String} {runtimeId : Option String}
  {lease : Option Int}
include hrefl htrans

theorem claimItem_within
    (hclaim : ∀ call, Action.Within R (claimCaiOwnedTransportBatch call lease now))
    (item : String × Batch) : Action.Within R (claimItem node runtimeId lease now item) := by
  refine .ite (fun _ => .pure hrefl _) fun _ => ?_
  refine .bind htrans (fun s => ?_) fun record => .pure hrefl _
  have hs := hclaim ⟨strip item.1, strip item.2.batchId, node, runtimeId⟩ s
  unfold unlessTaken
  split
  · rename_i hrun
    rwa [hrun] at hs
  · rename_i hrun
    rw [hrun] at hs
    split <;> exact hs

/-- What every claim does to the store, the claim of the next batch does. -/
theorem claimNext_within
    (hclaim : ∀ call, Action.Within R (claimCaiOwnedTransportBatch call lease now))
    {status sessionId : Option String} : Action.Within R
      (claimNextCaiOwnedTransportBatch nodeId status sessionId runtimeId lease now) := by
  have hitems : ∀ items, Action.Within R
      (Action.firstSome (claimItem (strip nodeId) runtimeId lease now) items) :=
    .firstSome hrefl htrans (claimItem_within hrefl htrans hclaim)
  unfold claimNextCaiOwnedTransportBatch
  refine .ite (fun _ => .throw hrefl _) fun _ => ?_
  refine .get_bind fun s => ?_
  refine Action.Within.bind (R := R) htrans (hitems _) (fun taken => ?_) s
  split
  · exact .pure hrefl _
  · exact .get_bind fun s => hitems _ s
  · exact .pure hrefl _

end Next

/-! ### The holder of a lease -/

/-- The runtime holds a lease on the batch that has not run out. -/
def Holds (store : TransportStore) (sessionId batchId runtime : String) (now : Int) : Prop :=
  ∃ batch, store.batch? sessionId batchId = some batch ∧ batch.status = .processing ∧
    batch.runtime = runtime ∧ ∃ expires, batch.leaseExpiresAt = some expires ∧ now < expires

theorem Batch.lease_of_unexpired {b : Batch} (h : b.leaseExpired now = false) :
    ∃ expires, b.leaseExpiresAt = some expires ∧ now < expires := by
  unfold Batch.leaseExpired at h
  split at h
  · cases h
  · rename_i expires hexpires
    exact ⟨expires, hexpires, by simpa using h⟩

theorem requireLeaseHolder_same : (requireLeaseHolder node runtime now b).2 = b := by
  unfold requireLeaseHolder
  split_ifs <;> rfl

theorem requireLeaseHolder_holds {node : String} {b : Batch} {u : PUnit}
    (h : (requireLeaseHolder node runtime now b).1 = .ok u) :
    b.status = .processing ∧ b.runtime = runtime ∧ b.leaseExpired now = false := by
  unfold requireLeaseHolder at h
  split_ifs at h with hsink hstatus hruntime hlease
  · exact ⟨not_not.mp hstatus, not_not.mp hruntime, by simpa using hlease⟩

theorem inBatch_returns {x : Action Batch PyError α} {a : α} (h : (inBatch batchId x r).1 = .ok a) :
    ∃ b, r.batch? batchId = some b ∧ (x b).1 = .ok a :=
  first_returns h

theorem inSessionOr_returns {missing : PyError} {x : Action TransportSession PyError α} {a : α}
    (h : (inSessionOr missing sessionId x s).1 = .ok a) :
    ∃ r, s.session? (strip sessionId) = some r ∧ (x r).1 = .ok a :=
  first_returns h

theorem requireOwnerInSession_same : (requireOwnerInSession call now r).2 = r := by
  have hread : Action.Within (fun r t : TransportSession => t = r)
      (requireOwnerInSession call now) := by
    refine .bind (fun h h' => h'.trans h) (fun r => requireSessionParticipant_same) fun node => ?_
    refine .bind (fun h h' => h'.trans h) (fun r => rfl) fun batchId r => ?_
    show { r with batchRecords := _ } = r
    rw [first_same fun b _ => requireLeaseHolder_same]
  exact hread r

/-- The owner check reads. -/
theorem owner_same : (requireBatchCompletionOwner call now s).2 = s := by
  unfold requireBatchCompletionOwner
  split
  · rfl
  show { s with sessions := _ } = s
  rw [first_same fun r _ => requireOwnerInSession_same]

theorem requireOwnerInSession_holds {u : PUnit} (h : (requireOwnerInSession call now r).1 = .ok u) :
    ∃ b, r.batch? (strip call.batchId) = some b ∧ b.status = .processing ∧
      b.runtime = call.runtime ∧ b.leaseExpired now = false := by
  unfold requireOwnerInSession at h
  obtain ⟨node, -, h⟩ := read_returns requireSessionParticipant_same h
  obtain ⟨batchId, hid, h⟩ := lift_returns h
  obtain ⟨b, hb, h⟩ := inBatch_returns h
  rw [requireBatchId_ok hid] at hb
  exact ⟨b, hb, requireLeaseHolder_holds h⟩

theorem sourceBatch_same : (sourceBatch call s).2 = s := by
  unfold sourceBatch
  split <;> rfl

theorem fail_moves {m : BatchMove} {error : Option String} {maxAttempts : Option Int}
    (hfail : ∀ u r b node, (requireBatchCompletionOwner call now s).1 = .ok u →
      s.session? (strip call.sessionId) = some r → r.batch? (strip call.batchId) = some b →
      m.rel r.sessionId b (failBatch node (workItemError error) retryable
        (coerceMaxAttempts maxAttempts) now b).2) :
    s.Moves m (failCaiOwnedTransportWorkItem call error retryable maxAttempts now s).2 := by
  refine moves_read (.refl s) owner_same fun u howner => ?_
  refine moves_lift (.refl s) fun id hid => moves_inSessionOr fun r hr => ?_
  rw [requireBatchId_ok hid]
  unfold failInSession
  refine moves_read (.refl r) requireSessionParticipant_same fun node _ => ?_
  exact moves_bind (moves_inBatch fun b hb => hfail u r b node howner hr hb) fun _ _ => ⟨rfl, rfl⟩

/-- **A call with a runtime id passes the owner check only where that runtime holds the lease.** -/
theorem owner_holds {u : PUnit} (hruntime : call.runtime ≠ "")
    (h : (requireBatchCompletionOwner call now s).1 = .ok u) :
    Holds s (strip call.sessionId) (strip call.batchId) call.runtime now := by
  unfold requireBatchCompletionOwner at h
  rw [if_neg hruntime] at h
  obtain ⟨r, hr, h⟩ := inSessionOr_returns h
  obtain ⟨b, hb, hstatus, hrun, hlease⟩ := requireOwnerInSession_holds h
  exact ⟨b, TransportStore.batch_eq_some.mpr ⟨r, hr, hb⟩, hstatus, hrun,
    Batch.lease_of_unexpired hlease⟩

/-! ### Completing and giving up -/

/-- The batch is closed: processed, delivered, failed or timed out. -/
def Closed (store : TransportStore) (sessionId batchId : String) : Prop :=
  ∃ batch, store.batch? sessionId batchId = some batch ∧ batch.status.isClosed = true

theorem Holds.open (h : Holds s sessionId batchId runtime now) {b : Batch}
    (hb : s.batch? sessionId batchId = some b) : b.status.isClosed = false := by
  obtain ⟨b', hb', hstatus, -⟩ := h
  rw [hb] at hb'
  cases hb'
  rw [hstatus]
  rfl

theorem Holds.not_closed
    (h : Holds s sessionId batchId runtime now) : ¬Closed s sessionId batchId := by
  rintro ⟨b, hb, hclosed⟩
  rw [h.open hb] at hclosed
  cases hclosed

/-- The one batch a completion is about. -/
def Only (sessionId batchId : String) (sessionId' batchId' : String) : Prop :=
  sessionId' = sessionId ∧ batchId' = batchId

/-- A status change raises and leaves the batch, or the batch gets the status. -/
theorem markBatch_cases (node : String) (status : BatchStatus)
    (details : Except PyError Fields) (now : Int) (b : Batch) :
    (∃ e, markBatch node status details now b = (.error e, b)) ∨
      ∃ c : Batch, markBatch node status details now b = (.ok ⟨⟩, c) ∧ c.batchId = b.batchId ∧
        c.status = status := by
  unfold markBatch
  split
  · exact .inl ⟨_, rfl⟩
  · split
    · exact .inl ⟨_, rfl⟩
    · exact .inr ⟨_, rfl, rfl, rfl⟩

/-- What a status change may leave of its session. -/
def MarkOutcome (batchId : String) (status : BatchStatus) (r : TransportSession)
    (o : Except PyError TransportSession × TransportSession) : Prop :=
  ((∃ e, o.1 = .error e) ∧ o.2 = r) ∨
    (∃ t, o.1 = .ok t) ∧ r.Settles (Only r.sessionId batchId) o.2 ∧
      ∃ c, o.2.batch? batchId = some c ∧ c.status = status

theorem markInSession_outcome (nodeId : String) (status : BatchStatus)
    (details : Except PyError Fields) (now : Int)
    (hopen : ∀ b, r.batch? batchId = some b → b.status.isClosed = false) :
    MarkOutcome batchId status r (markInSession batchId nodeId status details now r) := by
  unfold markInSession
  refine after_read refuseCompleted_same (fun e => .inl ⟨⟨e, rfl⟩, rfl⟩) fun _ _ => ?_
  refine after_read (requireMarkingNode_same _) (fun e => .inl ⟨⟨e, rfl⟩, rfl⟩)
    fun node _ => ?_
  refine bind_outcome (fun e h => ?_) fun u h => ?_
  · refine .inl ⟨⟨e, rfl⟩, ?_⟩
    have hclean : Action.Clean (markBatch node status details now) := by
      intro b e' h'
      rcases markBatch_cases node status details now b with ⟨e'', hb⟩ | ⟨c, hb, -⟩
      · rw [hb]
      · rw [hb] at h'
        cases h'
    show { r with batchRecords := _ } = r
    rw [hclean.first r.batchRecords e h]
  · obtain ⟨b, hb, hx⟩ := inBatch_returns h
    rcases markBatch_cases node status details now b with ⟨e, hmark⟩ | ⟨c, hmark, hid, hstatus⟩
    · rw [hmark] at hx
      cases hx
    have hbid := TransportSession.batch_ident hb
    have hc : (markBatch node status details now b).2 = c := congrArg Prod.snd hmark
    refine .inr ⟨⟨_, rfl⟩, ?_, c, ?_, hstatus⟩
    · refine TransportSession.Moves.trans (moves_inBatch fun b' hb' => ?_) (.of_batches rfl rfl)
      rw [hb] at hb'
      cases hb'
      rw [hc]
      refine ⟨hid, fun hclosed => ?_, fun _ => .inr ⟨rfl, hbid⟩⟩
      rw [hopen b hb] at hclosed
      cases hclosed
    · rw [← hc]
      refine find_first hb ?_
      rw [hc, hid]
      exact decide_eq_true hbid

/-- What a completion may leave of the store. -/
def CompletionOutcome (sessionId batchId : String) (s : TransportStore)
    (o : Except PyError TransportSession × TransportStore) : Prop :=
  ((∃ e, o.1 = .error e) ∧ o.2.sessions = s.sessions) ∨
    (∃ t, o.1 = .ok t) ∧ s.Settles (Only sessionId batchId) o.2 ∧ Closed o.2 sessionId batchId

theorem markProcessedStatus_outcome
    {details : Except PyError Fields}
    (hopen : ∀ b, s.batch? (strip sessionId) (strip batchId) = some b → b.status.isClosed = false) :
    CompletionOutcome (strip sessionId) (strip batchId) s
      (markCaiOwnedTransportBatchStatus sessionId batchId "processed" nodeId details now s) := by
  unfold markCaiOwnedTransportBatchStatus
  refine after_lift (fun e => .inl ⟨⟨e, rfl⟩, rfl⟩) fun id hid => ?_
  rw [requireBatchId_ok hid]
  show CompletionOutcome _ _ s (inSession sessionId
    (markInSession (strip batchId) nodeId .processed details now) s)
  cases hr : s.session? (strip sessionId) with
  | none =>
    have hmissing : Action.first (fun record => record.sessionId = strip sessionId)
        (sessionNotFound (strip sessionId))
        (markInSession (strip batchId) nodeId .processed details now) s.sessions =
        (.error (sessionNotFound (strip sessionId)), s.sessions) :=
      first_missing hr
    exact .inl ⟨⟨_, congrArg Prod.fst hmissing⟩, congrArg Prod.snd hmissing⟩
  | some r =>
    have hrid := TransportStore.session_ident hr
    have houtcome : (inSession sessionId
        (markInSession (strip batchId) nodeId .processed details now) s).1 =
        (markInSession (strip batchId) nodeId .processed details now r).1 :=
      first_outcome hr
    have hmark := markInSession_outcome nodeId .processed details now
      fun b hb => hopen b (TransportStore.batch_eq_some.mpr ⟨r, hr, hb⟩)
    rcases hmark with ⟨⟨e, he⟩, hsame⟩ | ⟨⟨t, ht⟩, hsettles, c, hc, hstatus⟩
    · refine .inl ⟨⟨e, houtcome.trans he⟩, first_same fun r' hr' => ?_⟩
      cases hr.symm.trans hr'
      exact hsame
    · rw [hrid] at hsettles
      refine .inr ⟨⟨t, houtcome.trans ht⟩, moves_inSessionOr fun r' hr' => ?_, c, ?_, ?_⟩
      · cases hr.symm.trans hr'
        exact hsettles
      · refine TransportStore.batch_eq_some.mpr ⟨_, find_first hr ?_, hc⟩
        rw [hsettles.ident]
        exact decide_eq_true hrid
      · rw [hstatus]
        rfl

theorem storePayload_sessions {suffix : String} {payload : Bytes} :
    (storePayload sessionId batchId suffix payload s).2.sessions = s.sessions := by
  have hkeeps : Action.Keeps (·.sessions) (storePayload sessionId batchId suffix payload) := by
    refine .bind (fun h h' => h'.trans h) (fun _ => rfl) fun _ => ?_
    exact .bind (fun h h' => h'.trans h) (fun _ => rfl) fun _ _ => rfl
  exact hkeeps s

theorem storeOutputPayload_sessions (call : RuntimeCall) (output : Option Bytes) :
    (storeOutputPayload call output s).2.sessions = s.sessions := by
  cases output with
  | none => rfl
  | some payload => exact storePayload_sessions

theorem TransportStore.batch_of_sessions {s' : TransportStore} (h : s'.sessions = s.sessions) :
    s'.batch? sessionId batchId = s.batch? sessionId batchId := by
  unfold TransportStore.batch? TransportStore.session?
  rw [h]

/-- **A completion goes through only where its runtime holds the lease.** -/
theorem markProcessed_holds {rules : TransportRules} {output : Option Bytes} {request : Fields}
    {t : TransportSession} (hruntime : call.runtime ≠ "")
    (h : (markProcessed rules call output request now s).1 = .ok t) :
    Holds s (strip call.sessionId) (strip call.batchId) call.runtime now := by
  unfold markProcessed at h
  obtain ⟨u, howner, -⟩ := read_returns owner_same h
  exact owner_holds hruntime howner

theorem CompletionOutcome.of_sessions {s' : TransportStore}
    {o : Except PyError TransportSession × TransportStore} (hs : s'.sessions = s.sessions)
    (h : CompletionOutcome sessionId batchId s' o) : CompletionOutcome sessionId batchId s o := by
  rcases h with ⟨he, hsame⟩ | ⟨ht, hsettles, hclosed⟩
  · exact .inl ⟨he, hsame.trans hs⟩
  · exact .inr ⟨ht, (TransportStore.Moves.of_sessions hs).trans hsettles, hclosed⟩

/-- A completion by a runtime raises before any session is written, or closes its batch. -/
theorem markProcessed_outcome (rules : TransportRules)
    (output : Option Bytes) (request : Fields) (now : Int) (hruntime : call.runtime ≠ "") :
    CompletionOutcome (strip call.sessionId) (strip call.batchId) s
      (markProcessed rules call output request now s) := by
  unfold markProcessed
  refine after_read owner_same (fun e => .inl ⟨⟨e, rfl⟩, rfl⟩) fun u howner => ?_
  have hholds := owner_holds hruntime howner
  refine after_read sourceBatch_same (fun e => .inl ⟨⟨e, rfl⟩, rfl⟩) fun batch _ => ?_
  have hstored := storeOutputPayload_sessions (s := s) call output
  refine bind_outcome (fun e _ => .inl ⟨⟨e, rfl⟩, hstored⟩) fun _ _ => ?_
  refine after_lift (fun e => .inl ⟨⟨e, rfl⟩, hstored⟩) fun chain _ => ?_
  refine .of_sessions hstored (markProcessedStatus_outcome fun b hb => ?_)
  rw [TransportStore.batch_of_sessions hstored] at hb
  exact hholds.open hb

/-- The receipt is read after the batch is marked. -/
theorem complete_state {rules : TransportRules} {output : Option Bytes} {request : Fields} :
    (completeCaiOwnedTransportBatchProcessing rules call output request now s).2 =
      (markProcessed rules call output request now s).2 := by
  unfold completeCaiOwnedTransportBatchProcessing
  generalize markProcessed rules call output request now = marking
  refine bind_outcome (P := fun o => o.2 = (marking s).2) (fun _ _ => rfl) fun record _ => ?_
  cases (rules.receiptsFromBatches record).find? fun receipt =>
    strip receipt.nodeId = strip call.nodeId with
  | none => rfl
  | some receipt => rfl

theorem failBatch_settles {done : String → Prop} {b : Batch} (hopen : b.status.isClosed = false) :
    b.Settles done (failBatch node error retryable maxAttempts now b).2 := by
  unfold failBatch
  split
  · exact .refl b
  dsimp only
  split
  · exact .of_open rfl hopen (by simp)
  · exact .of_open rfl hopen (by simp [Batch.clearRuntimeClaim])

theorem fail_settles (error : Option String) (retryable : Bool)
    (maxAttempts : Option Int) (now : Int) (hruntime : call.runtime ≠ "") :
    s.Settles done (failCaiOwnedTransportWorkItem call error retryable maxAttempts now s).2 := by
  refine fail_moves fun u r b node howner hr hb => failBatch_settles ?_
  exact (owner_holds hruntime howner).open (TransportStore.batch_eq_some.mpr ⟨r, hr, hb⟩)

theorem reconcileBatch_settles {done : String → Prop} {timeout : Int} (b : Batch) :
    b.Settles done (reconcileBatch timeout maxAttempts now b).2 := by
  unfold reconcileBatch
  split
  · rename_i h
    exact .of_open rfl (by rw [h.1]; rfl) (by simp [Batch.timeOut])
  split
  · rename_i h
    split
    · exact .of_open rfl (by rw [h.1]; rfl) (by simp [Batch.clearRuntimeClaim])
    · exact .of_open rfl (by rw [h.1]; rfl) (by simp [Batch.timeOut])
  · exact .refl b

end Operations

/-! ### Refused claims -/

section Refused

variable {s : TransportStore}

/-- Every claim of the batch raises, whoever makes it and when. -/
def Refused (store : TransportStore) (sessionId batchId : String) : Prop :=
  ∀ (call : RuntimeCall) (lease : Option Int) (now : Int), strip call.sessionId = sessionId →
    strip call.batchId = batchId →
      ∃ e, (claimCaiOwnedTransportBatch call lease now store).1 = .error e

theorem claimBatch_closed {node : String} {lease : Option Int} {b : Batch}
    {fresh : Bool} (hclosed : b.status.isClosed = true) :
    (claimBatch node runtime lease now b).1 ≠ .ok fresh := by
  unfold claimBatch
  split
  · simp
  split
  · rename_i h
    rw [h.1] at hclosed
    cases hclosed
  · simp

theorem Closed.refused (h : Closed s sessionId batchId) : Refused s sessionId batchId := by
  rintro call lease now rfl rfl
  obtain ⟨b, hb, hclosed⟩ := h
  obtain ⟨r, hr, hrb⟩ := TransportStore.batch_eq_some.mp hb
  rcases hclaim : (claimCaiOwnedTransportBatch call lease now s).1 with e | t
  · exact ⟨e, rfl⟩
  -- a claim that returns has found this batch open
  exfalso
  unfold claimCaiOwnedTransportBatch at hclaim
  obtain ⟨id, hid, hrun⟩ := lift_returns hclaim
  obtain ⟨r', hr', hrun⟩ := inSessionOr_returns hrun
  cases hr.symm.trans hr'
  obtain ⟨-, -, hrun⟩ := read_returns refuseCompleted_same hrun
  obtain ⟨node, -, hrun⟩ := read_returns requireSessionParticipant_same hrun
  obtain ⟨fresh, r₁, hbatch, -⟩ := bind_returns hrun
  obtain ⟨b', hb', hfresh⟩ := inBatch_returns (congrArg Prod.fst hbatch)
  rw [requireBatchId_ok hid, hrb] at hb'
  cases hb'
  exact claimBatch_closed hclosed hfresh

end Refused

/-! ### Runs -/

/-- The operations of the runtimes and of the coordinator's reconciliation, each at its time. -/
inductive LeaseOp
  | claim (call : RuntimeCall) (lease : Option Int) (now : Int)
  | claimNext (nodeId : String) (status sessionId runtimeId : Option String) (lease : Option Int)
      (now : Int)
  | heartbeat (call : RuntimeCall) (lease : Option Int) (now : Int)
  | complete (call : RuntimeCall) (output : Option Bytes) (request : Fields)
      (now : Int)
  | fail (call : RuntimeCall) (error : Option String) (retryable : Bool)
      (maxAttempts : Option Int) (now : Int)
  | reconcile (sessionId : String) (receivedTimeout maxAttempts : Option Int) (now : Int)

namespace LeaseOp

/-- The runtime names itself; an id of blanks is no id for the program. -/
def HasRuntime : LeaseOp → Prop
  | claim call _ _ | heartbeat call _ _ | complete call _ _ _ | fail call _ _ _ _ =>
    call.runtime ≠ ""
  | claimNext _ _ _ runtimeId _ _ => strip (runtimeId.getD "") ≠ ""
  | reconcile _ _ _ _ => True

/-- The store after the operation. -/
def apply (rules : TransportRules) (s : TransportStore) : LeaseOp → TransportStore
  | claim call lease now => (claimCaiOwnedTransportBatch call lease now s).2
  | claimNext nodeId status sessionId runtimeId lease now =>
    (claimNextCaiOwnedTransportBatch nodeId status sessionId runtimeId lease now s).2
  | heartbeat call lease now => (heartbeatCaiOwnedTransportBatch call lease now s).2
  | complete call output request now =>
    (completeCaiOwnedTransportBatchProcessing rules call output request now s).2
  | fail call error retryable maxAttempts now =>
    (failCaiOwnedTransportWorkItem call error retryable maxAttempts now s).2
  | reconcile sessionId receivedTimeout maxAttempts now =>
    (reconcileCaiOwnedTransportSessionTimeouts sessionId receivedTimeout maxAttempts now s).2

end LeaseOp

/-- A batch that was marked as processed, by whom and when. -/
structure Completion where
  sessionId : String
  batchId : String
  runtime : String
  now : Int

def Completion.batch (c : Completion) : String × String := (c.sessionId, c.batchId)

/-- The completion an operation makes, if it makes one. -/
def LeaseOp.completion? (rules : TransportRules) (s : TransportStore) : LeaseOp → Option Completion
  | complete call output request now =>
    match (markProcessed rules call output request now s).1 with
    | .ok _ => some ⟨strip call.sessionId, strip call.batchId, call.runtime, now⟩
    | .error _ => none
  | _ => none

/-- The store and, as a history variable, the completions made so far. -/
structure LeaseState where
  store : TransportStore
  completions : List Completion

def LeaseOp.step (rules : TransportRules) (op : LeaseOp) (s : LeaseState) : LeaseState where
  store := op.apply rules s.store
  completions := (op.completion? rules s.store).toList ++ s.completions

section Runs

variable (rules : TransportRules)

/-- The batches an operation completes. -/
def LeaseOp.Completes (s : TransportStore) (op : LeaseOp) (sessionId batchId : String) : Prop :=
  ∃ c, op.completion? rules s = some c ∧ c.sessionId = sessionId ∧ c.batchId = batchId

/-- **What one operation does**: every batch settles, and the one it completes is held by its
runtime before and closed afterwards. -/
theorem LeaseOp.step_spec (op : LeaseOp) (s : TransportStore) (hruntime : op.HasRuntime) :
    s.Settles (op.Completes rules s) (op.apply rules s) ∧ ∀ c, op.completion? rules s = some c →
        Holds s c.sessionId c.batchId c.runtime c.now ∧
          Closed (op.apply rules s) c.sessionId c.batchId := by
  cases op with
  | claim call lease now =>
    exact ⟨claim_moves fun _ b _ _ _ => claimBatch_settles b, fun c hc => by cases hc⟩
  | claimNext nodeId status sessionId runtimeId lease now =>
    exact ⟨claimNext_within .refl .trans
      (fun _ _ => claim_moves fun _ b _ _ _ => claimBatch_settles b) s, fun c hc => by cases hc⟩
  | heartbeat call lease now =>
    exact ⟨heartbeat_moves fun _ _ => heartbeatBatch_settles, fun c hc => by cases hc⟩
  | fail call error retryable maxAttempts now =>
    exact ⟨fail_settles _ _ _ _ hruntime, fun c hc => by cases hc⟩
  | reconcile sessionId receivedTimeout maxAttempts now =>
    exact ⟨reconcile_moves fun _ => reconcileBatch_settles, fun c hc => by cases hc⟩
  | complete call output request now =>
    simp only [LeaseOp.completion?, LeaseOp.apply, complete_state]
    rcases markProcessed_outcome (s := s) rules output request now hruntime with
      ⟨⟨e, he⟩, hsame⟩ | ⟨⟨t, ht⟩, hsettles, hclosed⟩
    · rw [he]
      exact ⟨.of_sessions hsame, fun c hc => by cases hc⟩
    · have hholds := markProcessed_holds hruntime ht
      rw [ht]
      refine ⟨?_, fun c hc => ?_⟩
      · refine hsettles.imp ?_
        rintro sessionId batchId ⟨rfl, rfl⟩
        refine ⟨⟨strip call.sessionId, strip call.batchId, call.runtime, now⟩, ?_, rfl, rfl⟩
        simp only [LeaseOp.completion?, ht]
      · cases hc
        exact ⟨hholds, hclosed⟩

/-- No batch was completed twice, and those that were are closed. -/
structure LeaseState.Inv (s : LeaseState) : Prop where
  once : (s.completions.map Completion.batch).Nodup
  closed : ∀ c ∈ s.completions, Closed s.store c.sessionId c.batchId

theorem TransportStore.Settles.isClosed {done : String → String → Prop} {s t : TransportStore}
    (h : s.Settles done t) (hclosed : Closed s sessionId batchId) : Closed t sessionId batchId := by
  obtain ⟨b, hb, hstatus⟩ := hclosed
  obtain ⟨c, hc, hbc⟩ := h.batch hb
  refine ⟨c, hc, ?_⟩
  rw [hbc.closed hstatus]
  exact hstatus

theorem LeaseState.Inv.step {s : LeaseState} (h : s.Inv) (op : LeaseOp)
    (hruntime : op.HasRuntime) : (op.step rules s).Inv := by
  obtain ⟨hsettles, hcompletion⟩ := op.step_spec rules s.store hruntime
  have hold : ∀ c ∈ s.completions, Closed (op.apply rules s.store) c.sessionId c.batchId :=
    fun c hc => hsettles.isClosed (h.closed c hc)
  unfold LeaseOp.step
  cases hc : op.completion? rules s.store with
  | none => exact ⟨h.once, hold⟩
  | some c =>
    obtain ⟨hholds, hclosed⟩ := hcompletion c hc
    refine ⟨?_, ?_⟩
    · show ((c :: s.completions).map Completion.batch).Nodup
      rw [map_cons, nodup_cons]
      refine ⟨fun hmem => ?_, h.once⟩
      -- an earlier completion would have closed the batch that is held now
      obtain ⟨c', hc', hbatch⟩ := mem_map.mp hmem
      have hclosed' := h.closed c' hc'
      obtain ⟨hsession, hid⟩ : c'.sessionId = c.sessionId ∧ c'.batchId = c.batchId :=
        Prod.mk.injEq .. ▸ hbatch
      rw [hsession, hid] at hclosed'
      exact hholds.not_closed hclosed'
    · intro c' hc'
      rcases mem_cons.mp hc' with rfl | hc'
      · exact hclosed
      · exact hold c' hc'

/-- What a step completes is held by its runtime, and nothing else becomes processed. -/
def CompletesByHolder (op : LeaseOp) (s t : LeaseState) : Prop :=
  (∀ c, op.completion? rules s.store = some c →
      Holds s.store c.sessionId c.batchId c.runtime c.now) ∧
    ∀ sessionId batchId b b', s.store.batch? sessionId batchId = some b →
      t.store.batch? sessionId batchId = some b' → b'.status = .processed →
        b.status = .processed ∨ op.Completes rules s.store sessionId batchId

theorem LeaseOp.step_completes (op : LeaseOp) (s : LeaseState) (hruntime : op.HasRuntime) :
    CompletesByHolder rules op s (op.step rules s) := by
  obtain ⟨hsettles, hcompletion⟩ := op.step_spec rules s.store hruntime
  refine ⟨fun c hc => (hcompletion c hc).1, fun sessionId batchId b b' hb hb' hstatus => ?_⟩
  obtain ⟨c, hc, hbc⟩ := hsettles.batch hb
  cases hb'.symm.trans hc
  rcases hbc.finished hstatus with hdone | hdone
  · exact .inl hdone
  · obtain ⟨r, -, hrb⟩ := TransportStore.batch_eq_some.mp hb
    rw [TransportSession.batch_ident hrb] at hdone
    exact .inr hdone

/-- **Leases exclude each other.**  In every run of claims, heartbeats, completions, failures and
reconciliations by runtimes with ids, at any times: no batch is completed twice; a completion is
made by the runtime that holds a lease that has not run out, and no other operation makes a batch
processed; and a batch that is processed, delivered, failed or timed out keeps that status and
every claim of it is refused. -/
theorem leaseRuns_exclusive (ops : List LeaseOp) (store : TransportStore)
    (hruntime : ∀ op ∈ ops, op.HasRuntime) :
    Machine.Always (LeaseOp.step rules) (fun s => (s.completions.map Completion.batch).Nodup) ops
        ⟨store, []⟩ ∧
      Machine.EachStep (LeaseOp.step rules) (CompletesByHolder rules) ops ⟨store, []⟩ ∧
      ∀ sessionId batchId b, store.batch? sessionId batchId = some b → b.status.isClosed = true →
        Machine.Always (LeaseOp.step rules)
          (fun s => (∃ c, s.store.batch? sessionId batchId = some c ∧ c.status = b.status) ∧
            Refused s.store sessionId batchId) ops ⟨store, []⟩ := by
  have hmeets : ∀ s : LeaseState,
      Machine.Meets (LeaseOp.step rules) (fun op _ => op.HasRuntime) ops s :=
    fun s => Machine.meets_of_forall hruntime
  have hstart : LeaseState.Inv ⟨store, []⟩ := ⟨nodup_nil, fun c hc => by cases hc⟩
  have hstep : ∀ (op : LeaseOp) (s : LeaseState), s.Inv → op.HasRuntime → (op.step rules s).Inv :=
    fun op s hs hop => hs.step rules op hop
  refine ⟨?_, ?_, ?_⟩
  · exact (Machine.always_of_invariant hstep (hmeets _) hstart).imp fun s hs => hs.once
  · exact Machine.eachStep_of_invariant hstep (fun op s _ hop => op.step_completes rules s hop)
      (hmeets _) hstart
  · intro sessionId batchId b hb hclosed
    have halways : Machine.Always (LeaseOp.step rules)
        (fun s => ∃ c, s.store.batch? sessionId batchId = some c ∧ c.status = b.status) ops
        ⟨store, []⟩ := by
      refine Machine.always_of_invariant ?_ (hmeets _) ⟨b, hb, rfl⟩
      rintro op s ⟨c, hc, hstatus⟩ hop
      obtain ⟨d, hd, hcd⟩ := (op.step_spec rules s.store hop).1.batch hc
      refine ⟨d, hd, ?_⟩
      rw [hcd.closed (by rw [hstatus]; exact hclosed), hstatus]
    refine halways.imp fun s hs => ⟨hs, ?_⟩
    obtain ⟨c, hc, hstatus⟩ := hs
    exact Closed.refused ⟨c, hc, by rw [hstatus]; exact hclosed⟩

end Runs

section Sample

/-- Rules that ask for nothing. -/
def sampleRules : TransportRules where
  hashChain _ _ _ _ := .ok []
  completedFields _ _ := .ok []
  receiptsFromBatches _ := []
  cleanReceipt _ := .ok []
  openEnvelope _ _ := .ok []
  embeddedReceipts _ := .ok []
  buildProof _ _ := .ok []
  executionAudit _ _ _ := .ok (.ok [])
  proofChecks _ _ := .ok none
  noticeCoverage _ _ := .ok none
  parseDatetime _ := none

/-- A session with one batch that waits for a runtime. -/
def sampleTransport : TransportStore where
  sessions :=
    [{ sessionId := "caiot_1"
       participantNodeIds := ["n"]
       status := .created
       batchRecords := [{ batchId := "caibatch_1", status := .received, sinkNodeId := "n" }] }]

def sampleCall (runtime : String) : RuntimeCall := ⟨"caiot_1", "caibatch_1", "n", some runtime⟩

/-- Two runtimes claim the batch, the first completes it, twice. -/
def sampleLeaseOps : List LeaseOp :=
  [.claim (sampleCall "r") none 0, .claim (sampleCall "q") none 1,
    .complete (sampleCall "r") none [] 2, .complete (sampleCall "r") none [] 3]

theorem leaseRuns_exclusive_twice :
    ((Machine.run (LeaseOp.step sampleRules) sampleLeaseOps ⟨sampleTransport, []⟩).completions.map
        fun c => (c.batch, c.runtime, c.now)) = [(("caiot_1", "caibatch_1"), "r", 2)] ∧
      Machine.Always (LeaseOp.step sampleRules)
        (fun s => (s.completions.map Completion.batch).Nodup) sampleLeaseOps
        ⟨sampleTransport, []⟩ := by
  refine ⟨by decide, (leaseRuns_exclusive sampleRules sampleLeaseOps sampleTransport ?_).1⟩
  have hr : (sampleCall "r").runtime ≠ "" := by decide
  have hq : (sampleCall "q").runtime ≠ "" := by decide
  intro op hop
  simp only [sampleLeaseOps, mem_cons, not_mem_nil, or_false] at hop
  rcases hop with rfl | rfl | rfl | rfl
  · exact hr
  · exact hq
  · exact hr
  · exact hr

end Sample

end CaiNetwork
