/-
CaiNetwork/Election/Messages.lean

Elections (`election.py`): what a node proposes, and which proposal wins a round.

Messages are compared by seniority, by the number of commands seen and by the proposed master
(`ElectionMessage.lt`).  The clock of the proposed session is not compared, so two messages may
tie, and `max` takes the one that comes first.  All nodes elect the same session, in whatever
order they receive the messages, exactly when the greatest messages of the round propose
sessions of one clock (`election_agreement_iff`).
-/

import Mathlib.Data.Prod.Lex
import Mathlib.Data.String.Basic
import CaiNetwork.Events.Router

namespace CaiNetwork.Cluster

open List

/-! ### Taking the maximum of a list -/

section Max

variable {α : Type}

/-- Python's `max`: the first of the elements that no other exceeds. -/
def pyMax (lt : α → α → Bool) : List α → Option α
  | [] => none
  | a :: l => some (l.foldl (fun best x => if lt best x then x else best) a)

variable {lt : α → α → Bool} {β : Type} [LinearOrder β] {key : α → β}

theorem foldl_max_spec (hkey : ∀ a b, lt a b = true ↔ key a < key b) (l : List α) (a : α) :
    l.foldl (fun best x => if lt best x then x else best) a ∈ a :: l ∧
      ∀ x ∈ a :: l, key x ≤ key (l.foldl (fun best x => if lt best x then x else best) a) := by
  induction l generalizing a with
  | nil => simp
  | cons b l ih =>
    rw [foldl_cons]
    obtain ⟨hmem, hle⟩ := ih (if lt a b then b else a)
    have hfirst := hle _ mem_cons_self
    by_cases hlt : lt a b = true
    · -- the second element takes over, and exceeds the first
      rw [if_pos hlt] at hmem hle hfirst ⊢
      refine ⟨mem_cons_of_mem _ hmem, forall_mem_cons.mpr ⟨?_, hle⟩⟩
      exact ((hkey a b).mp hlt).le.trans hfirst
    · rw [if_neg hlt] at hmem hle hfirst ⊢
      have hba : key b ≤ key a := not_lt.mp fun h => hlt ((hkey a b).mpr h)
      constructor
      · rcases mem_cons.mp hmem with heq | hl
        · rw [heq]
          exact mem_cons_self
        · exact mem_cons_of_mem _ (mem_cons_of_mem _ hl)
      · refine forall_mem_cons.mpr ⟨hfirst, forall_mem_cons.mpr ⟨hba.trans hfirst, ?_⟩⟩
        exact fun x hx => hle x (mem_cons_of_mem _ hx)

/-- The maximum is an element that no other exceeds. -/
theorem pyMax_spec (hkey : ∀ a b, lt a b = true ↔ key a < key b) {l : List α} {m : α}
    (h : pyMax lt l = some m) : m ∈ l ∧ ∀ x ∈ l, lt m x = false := by
  cases l with
  | nil => cases h
  | cons a l =>
    obtain ⟨hmem, hle⟩ := foldl_max_spec hkey l a
    cases h
    refine ⟨hmem, fun x hx => ?_⟩
    rw [Bool.eq_false_iff]
    intro hlt
    exact absurd (hle x hx) (not_le.mpr ((hkey _ x).mp hlt))

/-- An element that no other exceeds is the maximum when it comes first. -/
theorem pyMax_cons {l : List α} {a : α} (h : ∀ x ∈ l, lt a x = false) :
    pyMax lt (a :: l) = some a := by
  rw [pyMax]
  congr 1
  induction l with
  | nil => rfl
  | cons b l ih =>
    rw [forall_mem_cons] at h
    rw [foldl_cons, h.1]
    exact ih h.2

end Max

/-! ### Messages -/

/-- `ElectionMessage`. -/
structure ElectionMessage where
  clock : Int
  seniority : Int
  proposedSession : SessionId
  commandsSeen : Int
deriving DecidableEq

/-- `ElectionMessage.__lt__`. -/
def ElectionMessage.lt (a b : ElectionMessage) : Bool :=
  if a.clock ≠ b.clock then a.clock < b.clock
  else if a.seniority ≠ b.seniority then a.seniority < b.seniority
  else if a.commandsSeen ≠ b.commandsSeen then a.commandsSeen < b.commandsSeen
  else a.proposedSession.masterNodeId < b.proposedSession.masterNodeId

/-- What messages are compared by. -/
def ElectionMessage.key (m : ElectionMessage) : Int ×ₗ Int ×ₗ Int ×ₗ String :=
  toLex (m.clock, toLex (m.seniority, toLex (m.commandsSeen, m.proposedSession.masterNodeId)))

theorem ElectionMessage.lt_iff (a b : ElectionMessage) : a.lt b = true ↔ a.key < b.key := by
  simp only [ElectionMessage.lt, ElectionMessage.key, Prod.Lex.toLex_lt_toLex]
  by_cases hclock : a.clock = b.clock
  · by_cases hseniority : a.seniority = b.seniority
    · by_cases hcommands : a.commandsSeen = b.commandsSeen
      · simp [hclock, hseniority, hcommands]
      · simp [hclock, hseniority, hcommands]
    · simp [hclock, hseniority]
  · simp [hclock]

/-- `ElectionResult`. -/
structure ElectionResult where
  sessionId : SessionId
  wonClock : Int
  isNewMaster : Bool
deriving DecidableEq

/-- What `Election` knows when it takes part in a round; the last two fields are the settings
of the node's environment. -/
structure ElectionNode where
  nodeId : NodeId
  seniority : Int
  commandsSeen : Int
  connectedPeers : List NodeId
  pendingDisconnects : List NodeId
  workerExecutionEnabled : Bool
  currentSession : SessionId
  workerMasterReclaimEnabled : Bool
  workerMasterSeniorityBonus : Int
deriving DecidableEq

namespace ElectionNode

/-- The node that is proposed when the current master is not kept. -/
def fallbackMasterId (n : ElectionNode) : NodeId :=
  if n.seniority < 0 then ((n.connectedPeers.mergeSort (· ≤ ·)).head?).getD n.nodeId
  else n.nodeId

/-- Whether the session that the node is in is proposed again. -/
def keepCurrentMaster (n : ElectionNode) : Bool :=
  let currentMasterId := n.currentSession.masterNodeId
  let preferLocalExecutionMaster :=
    n.workerMasterReclaimEnabled && n.workerExecutionEnabled && currentMasterId ≠ n.nodeId
  let nonCandidateSelfMasterShouldYield :=
    n.seniority < 0 && currentMasterId = n.nodeId && n.connectedPeers ≠ []
  !preferLocalExecutionMaster && !nonCandidateSelfMasterShouldYield &&
    (currentMasterId = n.nodeId || currentMasterId ∈ n.connectedPeers ||
      currentMasterId ∈ n.pendingDisconnects)

/-- `_election_status`. -/
def electionStatus (n : ElectionNode) (clock : Int) : ElectionMessage where
  clock
  seniority :=
    if 0 ≤ n.seniority ∧ n.workerExecutionEnabled then n.seniority + n.workerMasterSeniorityBonus
    else n.seniority
  proposedSession :=
    if n.keepCurrentMaster then n.currentSession
    else { masterNodeId := n.fallbackMasterId, electionClock := clock }
  commandsSeen := n.commandsSeen

/-- The end of `_campaign`, with `elect`: the node after a round in which these candidates were
collected, and the result it reports. -/
def concludeCampaign (n : ElectionNode) (candidates : List ElectionMessage) :
    Option (ElectionNode × ElectionResult) := do
  let elected ← pyMax ElectionMessage.lt candidates
  let seniority :=
    if n.nodeId = elected.proposedSession.masterNodeId ∧ 0 ≤ n.seniority then
      max n.seniority candidates.length
    else n.seniority
  pure ({ n with
      seniority
      currentSession := elected.proposedSession },
    { sessionId := elected.proposedSession
      wonClock := elected.clock
      isNewMaster := elected.proposedSession ≠ n.currentSession })

/-- The session a node is in after a round. -/
def electedSession (n : ElectionNode) (candidates : List ElectionMessage) : Option SessionId :=
  (n.concludeCampaign candidates).map (fun outcome => outcome.1.currentSession)

theorem electedSession_eq {n : ElectionNode} {candidates : List ElectionMessage} :
    n.electedSession candidates =
      (pyMax ElectionMessage.lt candidates).map ElectionMessage.proposedSession := by
  unfold electedSession concludeCampaign
  cases pyMax ElectionMessage.lt candidates <;> rfl

end ElectionNode

/-! ### Agreement -/

/-- The messages of a round, one from every node. -/
def roundMessages (nodes : List ElectionNode) (clock : Int) : List ElectionMessage :=
  nodes.map (fun n => n.electionStatus clock)

/-- No message of the round exceeds this one. -/
def Unexceeded (messages : List ElectionMessage) (m : ElectionMessage) : Prop :=
  m ∈ messages ∧ ∀ x ∈ messages, m.lt x = false

/-- The lists in which exactly these messages have arrived, in some order and some of them
repeatedly. -/
def Arrived (messages received : List ElectionMessage) : Prop :=
  ∀ m, m ∈ received ↔ m ∈ messages

/-- The winner of a list is a message of the round that none exceeds. -/
theorem unexceeded_of_pyMax {messages received : List ElectionMessage} {m : ElectionMessage}
    (harrived : Arrived messages received) (h : pyMax ElectionMessage.lt received = some m) :
    Unexceeded messages m := by
  obtain ⟨hmem, hmax⟩ := pyMax_spec ElectionMessage.lt_iff h
  exact ⟨(harrived m).mp hmem, fun x hx => hmax x ((harrived x).mpr hx)⟩

/-- Messages that do not exceed each other propose the same master. -/
theorem masterNodeId_eq_of_unexceeded {messages : List ElectionMessage} {m m' : ElectionMessage}
    (h : Unexceeded messages m) (h' : Unexceeded messages m') :
    m.proposedSession.masterNodeId = m'.proposedSession.masterNodeId := by
  have hle : m'.key ≤ m.key := by
    rw [← not_lt, ← ElectionMessage.lt_iff, h.2 m' h'.1]
    exact Bool.false_ne_true
  have hge : m.key ≤ m'.key := by
    rw [← not_lt, ← ElectionMessage.lt_iff, h'.2 m h.1]
    exact Bool.false_ne_true
  have hkey : m.key = m'.key := le_antisymm hge hle
  simp only [ElectionMessage.key, EmbeddingLike.apply_eq_iff_eq, Prod.mk.injEq] at hkey
  exact hkey.2.2.2

/-- **Agreement**: the nodes that receive all messages of a round elect the same session in
whatever order and however often they receive them, exactly when the messages that no other
exceeds propose sessions of one clock. -/
theorem election_agreement_iff (nodes : List ElectionNode) (clock : Int) :
    (∀ (n n' : ElectionNode) (received received' : List ElectionMessage),
      Arrived (roundMessages nodes clock) received → Arrived (roundMessages nodes clock) received' →
      n.electedSession received = n'.electedSession received') ↔
    ∀ m m', Unexceeded (roundMessages nodes clock) m → Unexceeded (roundMessages nodes clock) m' →
      m.proposedSession.electionClock = m'.proposedSession.electionClock := by
  constructor
  · intro hagree m m' hm hm'
    -- two lists of the same messages, each headed by one of the two
    have harrived : ∀ {x : ElectionMessage}, x ∈ roundMessages nodes clock →
        Arrived (roundMessages nodes clock) (x :: roundMessages nodes clock) := by
      intro x hx y
      rw [mem_cons]
      exact ⟨fun h => h.elim (fun heq => heq ▸ hx) id, .inr⟩
    obtain ⟨n, -, -⟩ := mem_map.mp hm.1
    have hsame := hagree n n _ _ (harrived hm.1) (harrived hm'.1)
    rw [ElectionNode.electedSession_eq, ElectionNode.electedSession_eq, pyMax_cons hm.2,
      pyMax_cons hm'.2] at hsame
    rw [Option.some.inj hsame]
  · intro hclock n n' received received' hreceived hreceived'
    rw [ElectionNode.electedSession_eq, ElectionNode.electedSession_eq]
    cases received with
    | nil =>
      -- no messages at all
      cases received' with
      | nil => rfl
      | cons x l =>
        have hx := (hreceived x).mpr ((hreceived' x).mp mem_cons_self)
        cases hx
    | cons x l =>
      cases received' with
      | nil =>
        have hx := (hreceived' x).mpr ((hreceived x).mp mem_cons_self)
        cases hx
      | cons x' l' =>
        have hm := unexceeded_of_pyMax hreceived (rfl : pyMax ElectionMessage.lt (x :: l) = _)
        have hm' := unexceeded_of_pyMax hreceived' (rfl : pyMax ElectionMessage.lt (x' :: l') = _)
        have hmaster := masterNodeId_eq_of_unexceeded hm hm'
        have helection := hclock _ _ hm hm'
        rw [pyMax, pyMax, Option.map_some, Option.map_some]
        generalize (l.foldl _ x).proposedSession = session at hmaster helection ⊢
        generalize (l'.foldl _ x').proposedSession = session' at hmaster helection ⊢
        obtain ⟨master, electionClock⟩ := session
        obtain ⟨master', electionClock'⟩ := session'
        cases hmaster
        cases helection
        rfl

/-- A node that has seen no commands, is connected to `m` and remembers a session of it. -/
def sampleElector (nodeId : NodeId) (electionClock : Int) : ElectionNode where
  nodeId
  seniority := 0
  commandsSeen := 0
  connectedPeers := ["m"]
  pendingDisconnects := []
  workerExecutionEnabled := false
  currentSession := { masterNodeId := "m", electionClock }
  workerMasterReclaimEnabled := false
  workerMasterSeniorityBonus := 1000

/-- Two nodes that remember different sessions of the same master: each of them hears its own
message first and elects its own session. -/
theorem election_split : ¬∀ (n n' : ElectionNode) (received received' : List ElectionMessage),
      Arrived (roundMessages [sampleElector "a" 1, sampleElector "b" 2] 5) received →
      Arrived (roundMessages [sampleElector "a" 1, sampleElector "b" 2] 5) received' →
      n.electedSession received = n'.electedSession received' := by
  intro hagree
  have hsame := hagree (sampleElector "a" 1) (sampleElector "b" 2)
    (roundMessages [sampleElector "a" 1, sampleElector "b" 2] 5)
    (roundMessages [sampleElector "b" 2, sampleElector "a" 1] 5)
    (fun m => Iff.rfl) (fun m => by simp [roundMessages, or_comm])
  revert hsame
  decide

end CaiNetwork.Cluster
