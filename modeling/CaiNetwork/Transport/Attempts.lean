/-
CaiNetwork/Transport/Attempts.lean

How often a batch is handed to a runtime.

A claim counts the attempt; a failed work item and the reconciliation of timeouts compare the count
with the limit before they let the batch wait for a runtime once more (`Batch.Bounded`).  When a
lease runs out, a claim takes the batch over without the comparison (`batchAttempts_exceeded`).
Where no claim meets such a batch with its attempts used up, no batch is handed out more often than
the limit (`batchAttempts_bounded`).
-/

import CaiNetwork.Transport.Leases

namespace CaiNetwork

open Action

variable (mine : String → Prop) (node runtime : String) (lease : Option Int) (now : Int)

/-! ### What a step may do to the count -/

/-- At most `limit` attempts were made, and fewer while the batch waits for a runtime. -/
structure Batch.Bounded (limit : Int) (b : Batch) : Prop where
  made : b.attemptCount ≤ limit
  waiting : b.status.isClosed = false → b.status ≠ .processing → b.attemptCount < limit

/-- The count does not fall, and where the batch is the one that is followed it stays bounded. -/
structure Batch.Attempts (limit : Int) (followed : String → Prop) (b c : Batch) : Prop where
  ident : c.batchId = b.batchId
  count : b.attemptCount ≤ c.attemptCount
  bounded : followed (strip b.batchId) → b.Bounded limit → c.Bounded limit

section Batches

variable {limit : Int} {followed : String → Prop} {b c d : Batch}

/-- The count stays; a batch that is let wait has attempts left. -/
theorem Batch.Attempts.of_count (hid : c.batchId = b.batchId)
    (hcount : c.attemptCount = b.attemptCount)
    (hwaiting : c.status.isClosed = false → c.status ≠ .processing →
      (b.status.isClosed = false ∧ b.status ≠ .processing) ∨ b.attemptCount < limit) :
    b.Attempts limit followed c := by
  refine ⟨hid, hcount.ge, fun _ hb => ⟨hcount ▸ hb.made, fun hopen hidle => ?_⟩⟩
  rw [hcount]
  rcases hwaiting hopen hidle with ⟨hopen', hidle'⟩ | hless
  · exact hb.waiting hopen' hidle'
  · exact hless

theorem Batch.Attempts.of_status (hid : c.batchId = b.batchId)
    (hcount : c.attemptCount = b.attemptCount) (hstatus : c.status = b.status) :
    b.Attempts limit followed c := by
  refine .of_count hid hcount fun hopen hidle => ?_
  rw [hstatus] at hopen hidle
  exact .inl ⟨hopen, hidle⟩

/-- A batch is closed. -/
theorem Batch.Attempts.of_closed (hid : c.batchId = b.batchId)
    (hcount : c.attemptCount = b.attemptCount) (hclosed : c.status.isClosed = true) :
    b.Attempts limit followed c := by
  refine .of_count hid hcount fun hopen _ => ?_
  rw [hclosed] at hopen
  cases hopen

theorem Batch.Attempts.refl (b : Batch) : b.Attempts limit followed b := .of_status rfl rfl rfl

theorem Batch.Attempts.trans (h : b.Attempts limit followed c) (h' : c.Attempts limit followed d) :
    b.Attempts limit followed d where
  ident := h'.ident.trans h.ident
  count := h.count.trans h'.count
  bounded hfollowed hb := h'.bounded (by rwa [h.ident]) (h.bounded hfollowed hb)

end Batches

/-- The counts do not fall, and the followed batches stay bounded. -/
def counting (limit : Int) (followed : String → String → Prop) : BatchMove where
  rel i := Batch.Attempts limit (followed i)
  ident := Batch.Attempts.ident
  refl _ := .refl
  trans := .trans

/-! ### The operations -/

/-- The claim takes nobody's batch away from its lease: it is not in process, or its lease has run
out. -/
def Batch.Free (b : Batch) : Prop :=
  ¬(b.status = .processing ∧ b.leaseExpired now = false)

instance (now : Int) (b : Batch) : Decidable (b.Free now) :=
  inferInstanceAs (Decidable (¬_))

/-- A batch whose lease has run out has attempts left. -/
def Batch.Spare (limit now : Int) (b : Batch) : Prop :=
  b.status = .processing → b.leaseExpired now = true → b.attemptCount < limit

section Operations

variable {α : Type} {limit : Int} {followed : String → String → Prop} {s : TransportStore}
  {r : TransportSession}

/-- A free batch that is not closed is handed out, and the attempt is counted. -/
theorem claimBatch_free {node runtime : String} {lease : Option Int} {now : Int} {b : Batch}
    {fresh : Bool} (h : (claimBatch node runtime lease now b).1 = .ok fresh) (hfree : b.Free now) :
    (claimBatch node runtime lease now b).2.attemptCount = b.attemptCount + 1 := by
  unfold claimBatch at h ⊢
  rw [if_neg hfree] at h ⊢
  split at h
  · cases h
  split at h
  · cases h
  · rename_i hsink hopen
    rw [if_neg hsink, if_neg hopen]
    rfl

theorem claimBatch_attempts
    {now : Int} {b : Batch} (hspare : mine (strip b.batchId) → b.Spare limit now) :
    b.Attempts limit mine (claimBatch node runtime lease now b).2 := by
  unfold claimBatch
  split
  · exact .refl b
  split
  · split
    · exact .of_status rfl rfl rfl
    · exact .refl b
  split
  · exact .refl b
  · rename_i hfree hopen
    refine ⟨rfl, Int.le_add_one le_rfl, fun hmine hb => ⟨?_, fun _ hidle => absurd rfl hidle⟩⟩
    -- the batch waits and has attempts left, or its lease has run out
    show b.attemptCount + 1 ≤ limit
    by_cases hstatus : b.status = .processing
    · have hlease : b.leaseExpired now = true := by
        rw [← Bool.not_eq_false]
        exact fun hlease => hfree ⟨hstatus, hlease⟩
      exact hspare hmine hstatus hlease
    · exact hb.waiting (by simpa using hopen) hstatus

/-- Where the followed batch is claimed, it has attempts left. -/
def TransportStore.Spare (s : TransportStore) (limit : Int) (followed : String → String → Prop)
    (sessionId batchId : String) (now : Int) : Prop :=
  followed sessionId batchId → ∀ b, s.batch? sessionId batchId = some b → b.Spare limit now

theorem claim_attempts {call : RuntimeCall} {lease : Option Int} {now : Int}
    (hspare : s.Spare limit followed (strip call.sessionId) (strip call.batchId) now) :
    s.Moves (counting limit followed) (claimCaiOwnedTransportBatch call lease now s).2 := by
  refine claim_moves fun r b node hr hb => claimBatch_attempts _ _ _ _ fun hfollowed => ?_
  rw [TransportStore.session_ident hr, TransportSession.batch_ident hb] at hfollowed
  exact hspare hfollowed b (TransportStore.batch_eq_some.mpr ⟨r, hr, hb⟩)

theorem heartbeatBatch_attempts (b : Batch) :
    b.Attempts limit mine (heartbeatBatch node runtime lease now b).2 := by
  unfold heartbeatBatch
  split_ifs
  all_goals first
    | exact .refl b
    | exact .of_status rfl rfl rfl

/-- A batch that is marked as closed has made the attempts it had made. -/
theorem markBatch_attempts {status : BatchStatus}
    (hclosed : status.isClosed = true) (details : Except PyError Fields) (now : Int)
    (b : Batch) : b.Attempts limit mine (markBatch node status details now b).2 := by
  unfold markBatch
  split
  · exact .refl b
  split
  · exact .refl b
  · exact .of_closed rfl rfl hclosed

theorem markProcessedStatus_attempts {sessionId batchId nodeId : String}
    {details : Except PyError Fields} {now : Int} : s.Moves (counting limit followed)
      (markCaiOwnedTransportBatchStatus sessionId batchId "processed" nodeId details now s).2 := by
  unfold markCaiOwnedTransportBatchStatus
  refine moves_lift (.refl s) fun id _ => ?_
  show s.Moves _ (inSession sessionId (markInSession id nodeId .processed details now) s).2
  refine moves_inSessionOr fun r _ => ?_
  unfold markInSession
  refine moves_read (.refl r) refuseCompleted_same fun _ _ => ?_
  refine moves_read (.refl r) (requireMarkingNode_same _) fun node _ => ?_
  exact moves_bind (moves_inBatch fun b _ => markBatch_attempts _ _ rfl _ _ b) fun _ _ => ⟨rfl, rfl⟩

theorem complete_attempts {rules : TransportRules} {call : RuntimeCall}
    {output : Option Bytes} {request : Fields} {now : Int} : s.Moves (counting limit followed)
      (completeCaiOwnedTransportBatchProcessing rules call output request now s).2 := by
  rw [complete_state]
  unfold markProcessed
  refine moves_read (.refl s) owner_same fun _ _ => ?_
  refine moves_read (.refl s) sourceBatch_same fun _ _ => ?_
  have hstored : s.Moves (counting limit followed) (storeOutputPayload call output s).2 :=
    .of_sessions (storeOutputPayload_sessions call output)
  refine bind_outcome (P := fun o => s.Moves _ o.2) (fun _ _ => hstored) fun _ _ => ?_
  refine after_lift (P := fun o => s.Moves _ o.2) (fun _ => hstored) fun chain _ => ?_
  exact hstored.trans markProcessedStatus_attempts

/-- A failed batch waits once more only where it has attempts left. -/
theorem failBatch_attempts (error : String) (retryable : Bool) (now : Int) (b : Batch) :
    b.Attempts limit mine (failBatch node error retryable limit now b).2 := by
  unfold failBatch
  split
  · exact .refl b
  dsimp only
  split
  · exact .of_closed rfl rfl rfl
  · rename_i hretry
    refine .of_count rfl rfl fun _ _ => .inr ?_
    rw [not_or, not_le] at hretry
    exact hretry.2

/-- So does a batch whose lease has run out, when the timeouts are reconciled. -/
theorem reconcileBatch_attempts (timeout now : Int) (b : Batch) :
    b.Attempts limit mine (reconcileBatch timeout limit now b).2 := by
  unfold reconcileBatch
  split
  · exact .of_closed rfl rfl rfl
  split
  · split
    · rename_i hless
      exact .of_count rfl rfl fun _ _ => .inr (lt_of_le_of_lt (le_max_right 0 _) hless)
    · exact .of_closed rfl rfl rfl
  · exact .refl b

/-! ### Claims that return -/

theorem claimBatch_clean : Action.Clean (claimBatch node runtime lease now) := by
  intro b e h
  unfold claimBatch at h ⊢
  split_ifs at h ⊢ <;> rfl

theorem claimBatch_ident {b : Batch} :
    (claimBatch node runtime lease now b).2.batchId = b.batchId :=
  (@claimBatch_settles _ _ (fun _ => True) _ _ b).ident

/-- What a claim may leave of its session: nothing was written, or the batch has been handed to the
runtime, and the attempt is counted unless the runtime renewed its own lease. -/
def SessionClaimOutcome (batchId : String) (now : Int) (r : TransportSession)
    (o : Except PyError TransportSession × TransportSession) : Prop :=
  ((∃ e, o.1 = .error e) ∧ o.2 = r) ∨
    ∃ b c, o.1 = .ok o.2 ∧ o.2.sessionId = r.sessionId ∧ r.batch? batchId = some b ∧
      o.2.batch? batchId = some c ∧ (b.Free now → c.attemptCount = b.attemptCount + 1)

/-- The same, of the store. -/
def ClaimOutcome (sessionId batchId : String) (now : Int) (s : TransportStore)
    (o : Except PyError TransportSession × TransportStore) : Prop :=
  ((∃ e, o.1 = .error e) ∧ o.2 = s) ∨
    ∃ t b c, o.1 = .ok t ∧ t.sessionId = sessionId ∧ t.batch? batchId = some c ∧
      s.batch? sessionId batchId = some b ∧ o.2.batch? sessionId batchId = some c ∧
      (b.Free now → c.attemptCount = b.attemptCount + 1)

/-- The batch of a claim, and the fields of its session that are written afterwards. -/
theorem claimInBatch_outcome {node runtime : String} {lease : Option Int} {now : Int}
    {f : Bool → Action TransportSession PyError TransportSession}
    (hf : ∀ fresh t, ∃ u, f fresh t = (.ok u, u) ∧ u.sessionId = t.sessionId ∧
      u.batchRecords = t.batchRecords) :
    SessionClaimOutcome batchId now r
      ((inBatch batchId (claimBatch node runtime lease now) >>= f) r) := by
  refine bind_outcome (fun e h => .inl ⟨⟨e, rfl⟩, ?_⟩) fun fresh h => ?_
  · show { r with batchRecords := _ } = r
    rw [(claimBatch_clean node runtime lease now).first r.batchRecords e h]
  · obtain ⟨b, hb, hclaim⟩ := inBatch_returns h
    obtain ⟨u, hu, hid, hbatches⟩ :=
      hf fresh (inBatch batchId (claimBatch node runtime lease now) r).2
    rw [hu]
    refine .inr ⟨b, (claimBatch node runtime lease now b).2, rfl, hid, hb, ?_,
      claimBatch_free hclaim⟩
    unfold TransportSession.batch?
    rw [hbatches]
    refine find_first hb ?_
    rw [claimBatch_ident]
    exact decide_eq_true (TransportSession.batch_ident hb)

theorem claim_outcome (call : RuntimeCall) (lease : Option Int) (now : Int) :
    ClaimOutcome (strip call.sessionId) (strip call.batchId) now s
      (claimCaiOwnedTransportBatch call lease now s) := by
  unfold claimCaiOwnedTransportBatch
  refine after_lift (fun e => .inl ⟨⟨e, rfl⟩, rfl⟩) fun id hid => ?_
  rw [requireBatchId_ok hid]
  unfold inSession
  generalize hbody : (do
    refuseCompleted "Cannot claim batches on a completed session."
    let node ← requireSessionParticipant call.nodeId
    let fresh ← inBatch (strip call.batchId) (claimBatch node call.runtime lease now)
    modify fun record =>
      { record with
        status := if fresh then record.status.started else record.status
        updatedAt := some now }
    get : Action TransportSession PyError TransportSession) = body
  have hsession : ∀ r, SessionClaimOutcome (strip call.batchId) now r (body r) := by
    intro r
    rw [← hbody]
    refine after_read refuseCompleted_same (fun e => .inl ⟨⟨e, rfl⟩, rfl⟩) fun _ _ => ?_
    refine after_read requireSessionParticipant_same (fun e => .inl ⟨⟨e, rfl⟩, rfl⟩)
      fun node _ => ?_
    exact claimInBatch_outcome fun fresh t => ⟨_, rfl, rfl, rfl⟩
  cases hr : s.session? (strip call.sessionId) with
  | none =>
    have hmissing : Action.first (fun record => record.sessionId = strip call.sessionId)
        (sessionNotFound (strip call.sessionId)) body s.sessions =
        (.error (sessionNotFound (strip call.sessionId)), s.sessions) :=
      first_missing hr
    refine .inl ⟨⟨_, congrArg Prod.fst hmissing⟩, ?_⟩
    show { s with sessions := _ } = s
    rw [hmissing]
  | some r =>
    have hrid := TransportStore.session_ident hr
    have houtcome : (inSessionOr (sessionNotFound (strip call.sessionId)) call.sessionId body s).1 =
        (body r).1 := first_outcome hr
    rcases hsession r with ⟨⟨e, he⟩, hsame⟩ | ⟨b, c, ht, htid, hb, hc, hcount⟩
    · refine .inl ⟨⟨e, houtcome.trans he⟩, ?_⟩
      show { s with sessions := _ } = s
      rw [first_same fun r' hr' => by cases hr.symm.trans hr'; exact hsame]
    · rw [hrid] at htid
      refine .inr ⟨_, b, c, houtcome.trans ht, htid, hc,
        TransportStore.batch_eq_some.mpr ⟨r, hr, hb⟩, ?_, hcount⟩
      exact TransportStore.batch_eq_some.mpr ⟨_, find_first hr (decide_eq_true htid), hc⟩

/-- `claim_next` hands out what one claim of a waiting batch hands out, or leaves the store. -/
def ClaimNextOutcome (s : TransportStore)
    (o : Except PyError (Option (TransportSession × Batch)) × TransportStore) : Prop :=
  ((∀ item, o.1 ≠ .ok (some item)) ∧ o.2 = s) ∨
    ∃ call t b, o.1 = .ok (some (t, b)) ∧
      claimCaiOwnedTransportBatch call lease now s = (.ok t, o.2) ∧
      t.batch? (strip call.batchId) = some b

theorem claimItem_outcome (runtimeId : Option String) (lease : Option Int)
    (now : Int) (item : String × Batch) :
    ClaimNextOutcome lease now s (claimItem node runtimeId lease now item s) := by
  unfold claimItem
  split
  · exact .inl ⟨fun _ h => (by cases h), rfl⟩
  have hclaim := claim_outcome (s := s)
    ⟨strip item.1, strip item.2.batchId, node, runtimeId⟩ lease now
  generalize hcall : (⟨strip item.1, strip item.2.batchId, node, runtimeId⟩ : RuntimeCall) = call
    at hclaim ⊢
  have hid : strip call.batchId = strip item.2.batchId := by
    rw [← hcall]
    exact strip_strip
  rcases hrun : claimCaiOwnedTransportBatch call lease now s with ⟨e | t, after⟩
  · rw [hrun] at hclaim
    have hsame : after = s := by
      rcases hclaim with ⟨-, hsame⟩ | ⟨t, b, c, ht, -⟩
      · exact hsame
      · cases ht
    by_cases htaken : saysAlreadyProcessing e = true
    · have hnone : unlessTaken (claimCaiOwnedTransportBatch call lease now) s =
          (.ok none, after) := by
        simp only [unlessTaken, hrun, if_pos htaken]
      rw [bind_of_ok hnone]
      exact .inl ⟨fun _ h => (by cases h), hsame⟩
    · have herror : unlessTaken (claimCaiOwnedTransportBatch call lease now) s =
          (.error e, after) := by
        simp only [unlessTaken, hrun, if_neg htaken]
      rw [bind_of_error herror]
      exact .inl ⟨fun _ h => (by cases h), hsame⟩
  · rw [hrun] at hclaim
    rcases hclaim with ⟨⟨e, he⟩, -⟩ | ⟨t', b, c, ht, -, hc, -⟩
    · cases he
    cases ht
    rw [hid] at hc
    have hsome : unlessTaken (claimCaiOwnedTransportBatch call lease now) s =
        (.ok (some t), after) := by
      simp only [unlessTaken, hrun]
    rw [bind_of_ok hsome]
    refine .inr ⟨call, t, c, ?_, hrun, by rw [hid, hc]⟩
    show Except.ok ((t.batch? (strip item.2.batchId)).map (t, ·)) = _
    rw [hc]
    rfl

theorem claimItems_outcome (runtimeId : Option String) (lease : Option Int)
    (now : Int) (items : List (String × Batch)) : ClaimNextOutcome lease now s
      (Action.firstSome (claimItem node runtimeId lease now) items s) := by
  induction items with
  | nil => exact .inl ⟨fun _ h => (by cases h), rfl⟩
  | cons item items ih =>
    unfold Action.firstSome
    have hitem := claimItem_outcome (s := s) node runtimeId lease now item
    refine bind_outcome (fun e he => ?_) fun taken htaken => ?_
    · rcases hitem with ⟨-, hsame⟩ | ⟨call, t, b, hsome, -⟩
      · exact .inl ⟨fun _ h => (by cases h), hsame⟩
      · cases he.symm.trans hsome
    · cases taken with
      | none =>
        -- the item was passed over, and the rest starts from the same store
        rcases hitem with ⟨-, hsame⟩ | ⟨call, t, b, hsome, -⟩
        · rw [hsame]
          exact ih
        · cases htaken.symm.trans hsome
      | some found =>
        rcases hitem with ⟨hnone, -⟩ | ⟨call, t, b, hsome, hclaim, hb⟩
        · exact absurd htaken (hnone found)
        · cases htaken.symm.trans hsome
          exact .inr ⟨call, t, b, rfl, hclaim, hb⟩

theorem claimNext_outcome (nodeId : String) (status sessionId runtimeId : Option String)
    (lease : Option Int) (now : Int) : ClaimNextOutcome lease now s
      (claimNextCaiOwnedTransportBatch nodeId status sessionId runtimeId lease now s) := by
  unfold claimNextCaiOwnedTransportBatch
  split
  · exact .inl ⟨fun _ h => (by cases h), rfl⟩
  refine after_read (x := get) rfl (fun e => .inl ⟨fun _ h => (by cases h), rfl⟩)
    fun store hstore => ?_
  dsimp only
  generalize status.map (fun text => BatchStatus.ofText (strip text)) = wanted
  generalize (batchInbox (strip nodeId) wanted _ store).filter _ = items
  have hfirst := claimItems_outcome (s := s) (strip nodeId) runtimeId lease now items
  refine bind_outcome (fun e he => ?_) fun taken htaken => ?_
  · rcases hfirst with ⟨-, hsame⟩ | ⟨call, t, b, hsome, -⟩
    · exact .inl ⟨fun _ h => (by cases h), hsame⟩
    · cases he.symm.trans hsome
  · rcases hfirst with ⟨hnone, hsame⟩ | ⟨call, t, b, hsome, hclaim, hb⟩
    · cases taken with
      | some found => exact absurd htaken (hnone found)
      | none =>
        rw [hsame]
        -- only after `received` batches those follow whose lease has run out
        rcases wanted with - | status
        · exact .inl ⟨fun _ h => (by cases h), rfl⟩
        · cases status
          case received => exact claimItems_outcome _ _ _ _ _
          all_goals exact .inl ⟨fun _ h => (by cases h), rfl⟩
    · cases htaken.symm.trans hsome
      exact .inr ⟨call, t, b, rfl, hclaim, hb⟩

end Operations

/-! ### Runs -/

/-- A claim that returned: of which batch, and when. -/
structure Handover where
  sessionId : String
  batchId : String
  now : Int

def Handover.batch (h : Handover) : String × String := (h.sessionId, h.batchId)

namespace LeaseOp

/-- The batch the operation gives to a runtime. -/
def claimed? (s : TransportStore) : LeaseOp → Option Handover
  | claim call lease now =>
    match (claimCaiOwnedTransportBatch call lease now s).1 with
    | .ok _ => some ⟨strip call.sessionId, strip call.batchId, now⟩
    | .error _ => none
  | claimNext nodeId status sessionId runtimeId lease now =>
    match (claimNextCaiOwnedTransportBatch nodeId status sessionId runtimeId lease now s).1 with
    | .ok (some (record, batch)) => some ⟨record.sessionId, strip batch.batchId, now⟩
    | _ => none
  | _ => none

/-- The batch the operation hands out; a runtime that renews its own lease is handed nothing. -/
def handover? (s : TransportStore) (op : LeaseOp) : Option Handover :=
  (op.claimed? s).filter fun h =>
    (s.batch? h.sessionId h.batchId).all fun batch => batch.Free h.now

/-- The caller passes this value of `max_attempts`, where it passes one. -/
def UsesLimit (limit : Option Int) : LeaseOp → Prop
  | fail _ _ _ maxAttempts _ | reconcile _ _ maxAttempts _ => maxAttempts = limit
  | _ => True

/-- A claim of the batch, and a claim of whatever comes next, finds attempts left where the
lease of the batch has run out. -/
def FindsSpare (limit : Int) (sessionId batchId : String) (s : TransportStore) : LeaseOp → Prop
  | claim call _ now =>
    s.Spare limit (Only sessionId batchId) (strip call.sessionId) (strip call.batchId) now
  | claimNext _ _ _ _ _ now => s.Spare limit (Only sessionId batchId) sessionId batchId now
  | _ => True

end LeaseOp

/-- The store and, as a history variable, the hand-overs so far. -/
structure HandoverState where
  store : TransportStore
  handovers : List Handover

def LeaseOp.handStep (rules : TransportRules) (op : LeaseOp) (s : HandoverState) :
    HandoverState where
  store := op.apply rules s.store
  handovers := (op.handover? s.store).toList ++ s.handovers

/-- How often the batch was handed to a runtime. -/
def HandoverState.times (s : HandoverState) (sessionId batchId : String) : Nat :=
  (s.handovers.map Handover.batch).count (sessionId, batchId)

section Runs

variable (rules : TransportRules) {maxAttempts : Option Int} {sessionId batchId : String}
  {s : TransportStore}

theorem LeaseOp.apply_attempts (op : LeaseOp) (huses : op.UsesLimit maxAttempts)
    (hspare : op.FindsSpare (coerceMaxAttempts maxAttempts) sessionId batchId s) :
    s.Moves (counting (coerceMaxAttempts maxAttempts) (Only sessionId batchId))
      (op.apply rules s) := by
  cases op with
  | claim call lease now => exact claim_attempts hspare
  | claimNext nodeId status session runtimeId lease now =>
    show s.Moves _ (claimNextCaiOwnedTransportBatch nodeId status session runtimeId lease now s).2
    rcases claimNext_outcome (s := s) nodeId status session runtimeId lease now with
      ⟨-, hsame⟩ | ⟨call, t, b, -, hclaim, -⟩
    · rw [hsame]
      exact .refl s
    · have hstate := congrArg Prod.snd hclaim
      rw [← hstate]
      refine claim_attempts fun honly => ?_
      obtain ⟨hsession, hbatch⟩ := honly
      rw [hsession, hbatch]
      exact hspare ⟨rfl, rfl⟩
  | heartbeat call lease now => exact heartbeat_moves fun _ _ => heartbeatBatch_attempts _ _ _ _ _
  | complete call output request now => exact complete_attempts
  | fail call error retryable max now =>
    cases huses
    exact fail_moves fun _ _ b _ _ _ _ => failBatch_attempts _ _ _ _ _ b
  | reconcile session receivedTimeout max now =>
    cases huses
    exact reconcile_moves fun _ => reconcileBatch_attempts _ _ _

/-- A claim that returned found its batch, and the batch is there afterwards. -/
theorem claim_counts {call : RuntimeCall} {lease : Option Int} {now : Int} {t : TransportSession}
    (h : (claimCaiOwnedTransportBatch call lease now s).1 = .ok t) :
    t.sessionId = strip call.sessionId ∧
      ∃ b c, s.batch? (strip call.sessionId) (strip call.batchId) = some b ∧
        (claimCaiOwnedTransportBatch call lease now s).2.batch? (strip call.sessionId)
          (strip call.batchId) = some c ∧
        (b.Free now → c.attemptCount = b.attemptCount + 1) := by
  rcases claim_outcome (s := s) call lease now with
    ⟨⟨e, he⟩, -⟩ | ⟨t', b, c, ht, hid, -, hb, hc, hcount⟩
  · cases h.symm.trans he
  · cases h.symm.trans ht
    exact ⟨hid, b, c, hb, hc, hcount⟩

theorem LeaseOp.claimed_counts {op : LeaseOp} {h : Handover} (hclaimed : op.claimed? s = some h) :
    ∃ b c, s.batch? h.sessionId h.batchId = some b ∧
      (op.apply rules s).batch? h.sessionId h.batchId = some c ∧
      (b.Free h.now → c.attemptCount = b.attemptCount + 1) := by
  unfold LeaseOp.claimed? at hclaimed
  split at hclaimed
  · rename_i call lease now
    split at hclaimed
    · rename_i t ht
      cases hclaimed
      exact (claim_counts ht).2
    · cases hclaimed
  · rename_i nodeId status session runtimeId lease now
    split at hclaimed
    · rename_i record batch hnext
      cases hclaimed
      rcases claimNext_outcome (s := s) nodeId status session runtimeId lease now with
        ⟨hnone, -⟩ | ⟨call, t, b, hsome, hclaim, hb⟩
      · exact absurd hnext (hnone _)
      · cases hnext.symm.trans hsome
        obtain ⟨hid, hcounts⟩ := claim_counts (congrArg Prod.fst hclaim)
        rw [congrArg Prod.snd hclaim] at hcounts
        rw [hid, TransportSession.batch_ident hb]
        exact hcounts
    · cases hclaimed
  · cases hclaimed

/-- Every hand-over is counted. -/
theorem LeaseOp.handover_counts {op : LeaseOp} {h : Handover} (hhand : op.handover? s = some h) :
    ∃ b c, s.batch? h.sessionId h.batchId = some b ∧
      (op.apply rules s).batch? h.sessionId h.batchId = some c ∧
      c.attemptCount = b.attemptCount + 1 := by
  obtain ⟨hclaimed, hfree⟩ := Option.filter_eq_some_iff.mp hhand
  obtain ⟨b, c, hb, hc, hcount⟩ := LeaseOp.claimed_counts rules hclaimed
  rw [hb] at hfree
  exact ⟨b, c, hb, hc, hcount (by simpa using hfree)⟩

/-- The batch is bounded and has counted every hand-over. -/
def HandoverState.Counted (limit : Int) (sessionId batchId : String) (s : HandoverState) : Prop :=
  ∃ b, s.store.batch? sessionId batchId = some b ∧ b.Bounded limit ∧
    s.times sessionId batchId ≤ b.attemptCount

theorem HandoverState.Counted.step {s : HandoverState}
    (h : s.Counted (coerceMaxAttempts maxAttempts) sessionId batchId) {op : LeaseOp}
    (huses : op.UsesLimit maxAttempts)
    (hspare : op.FindsSpare (coerceMaxAttempts maxAttempts) sessionId batchId s.store) :
    (op.handStep rules s).Counted (coerceMaxAttempts maxAttempts) sessionId batchId := by
  obtain ⟨b, hb, hbounded, htimes⟩ := h
  obtain ⟨c, hc, hbc⟩ := (op.apply_attempts rules huses hspare).batch hb
  obtain ⟨r, -, hrb⟩ := TransportStore.batch_eq_some.mp hb
  refine ⟨c, hc, hbc.bounded ⟨rfl, TransportSession.batch_ident hrb⟩ hbounded, ?_⟩
  unfold HandoverState.times LeaseOp.handStep
  cases hhand : op.handover? s.store with
  | none => exact htimes.trans hbc.count
  | some h =>
    rw [Option.toList_some, List.singleton_append, List.map_cons, List.count_cons]
    split
    · rename_i hsame
      -- the batch itself was handed out
      obtain ⟨hsession, hbatch⟩ : h.sessionId = sessionId ∧ h.batchId = batchId := by
        simpa [Handover.batch] using hsame
      obtain ⟨b', c', hb', hc', hcount⟩ := LeaseOp.handover_counts rules hhand
      rw [hsession, hbatch] at hb' hc'
      cases hb.symm.trans hb'
      cases hc.symm.trans hc'
      rw [hcount, Int.natCast_add]
      exact Int.add_le_add_right htimes 1
    · exact htimes.trans hbc.count

theorem one_le_coerceMaxAttempts (maxAttempts : Option Int) :
    1 ≤ coerceMaxAttempts maxAttempts := by
  cases maxAttempts with
  | none => decide
  | some n => exact le_max_left 1 n

/-- **Attempts are bounded where leases that ran out are reconciled first.**  In every run in which
all callers pass the same `max_attempts`, and in which no claim meets the batch with its lease run
out and its attempts used up, the batch is handed to a runtime at most that many times. -/
theorem batchAttempts_bounded (ops : List LeaseOp) (store : TransportStore) {b : Batch}
    (hb : store.batch? sessionId batchId = some b) (hnew : b.attemptCount = 0)
    (huses : ∀ op ∈ ops, op.UsesLimit maxAttempts) (hspare : Machine.Meets (LeaseOp.handStep rules)
      (fun op s => op.FindsSpare (coerceMaxAttempts maxAttempts) sessionId batchId s.store) ops
      ⟨store, []⟩) :
    Machine.Always (LeaseOp.handStep rules)
      (fun s => s.times sessionId batchId ≤ coerceMaxAttempts maxAttempts) ops ⟨store, []⟩ := by
  have hlimit := one_le_coerceMaxAttempts maxAttempts
  have hstart : HandoverState.Counted (coerceMaxAttempts maxAttempts) sessionId batchId
      ⟨store, []⟩ := by
    refine ⟨b, hb, ⟨?_, fun _ _ => ?_⟩, ?_⟩
    · omega
    · omega
    · rw [hnew]
      rfl
  have hmeets := (Machine.meets_of_forall huses).and hspare
  have hstep := Machine.always_of_invariant
    (fun op s (hs : s.Counted (coerceMaxAttempts maxAttempts) sessionId batchId) hop =>
      hs.step rules hop.1 hop.2) hmeets hstart
  refine hstep.imp fun s hs => ?_
  obtain ⟨c, -, hbounded, htimes⟩ := hs
  exact htimes.trans hbounded.made

/-- One attempt is allowed and used; the timeouts are reconciled before the next claim. -/
def sampleReconciledOps : List LeaseOp :=
  [.claim (sampleCall "r") (some 10) 0, .reconcile "caiot_1" none (some 1) 20,
    .claim (sampleCall "q") none 30]

theorem batchAttempts_bounded_reconciled : Machine.Always (LeaseOp.handStep sampleRules)
      (fun s => s.times "caiot_1" "caibatch_1" ≤ coerceMaxAttempts (some 1)) sampleReconciledOps
      ⟨sampleTransport, []⟩ := by
  refine batchAttempts_bounded sampleRules sampleReconciledOps sampleTransport rfl rfl ?_ ?_
  · intro op hop
    simp only [sampleReconciledOps, List.mem_cons, List.not_mem_nil, or_false] at hop
    rcases hop with rfl | rfl | rfl
    · trivial
    · rfl
    · trivial
  · refine ⟨fun _ b hb hstatus => ?_, trivial, fun _ b hb hstatus => ?_, trivial⟩
    · cases hb
      cases hstatus
    · cases hb
      cases hstatus

/-- **Without the reconciliation a claim hands the batch out once more**: one attempt is allowed,
and the batch is handed to two runtimes. -/
theorem batchAttempts_exceeded : ∃ s, s = Machine.run (LeaseOp.handStep sampleRules)
        [.claim (sampleCall "r") (some 10) 0, .claim (sampleCall "q") none 20]
        ⟨sampleTransport, []⟩ ∧
      (sampleTransport.batch? "caiot_1" "caibatch_1").map Batch.attemptCount = some 0 ∧
      ¬s.times "caiot_1" "caibatch_1" ≤ coerceMaxAttempts (some 1) := by
  refine ⟨_, rfl, rfl, ?_⟩
  decide

end Runs

end CaiNetwork
