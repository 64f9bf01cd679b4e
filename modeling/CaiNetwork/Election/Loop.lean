/-
CaiNetwork/Election/Loop.lean

The loop that handles election results (`main.py`, `_elect_loop`): which components a node
shuts down and creates again.

A result whose session differs from that of the node's event router makes the node replace the
router and everything around it but not the master, which is created only when there is none and
shut down only when another node is elected.  A node that is elected again under a new session
therefore keeps a master of the old one.  `electLoop_coupled_iff` says when the master and the
router stay together.
-/

import CaiNetwork.Machine
import CaiNetwork.Election.Messages

namespace CaiNetwork.Cluster

/-! ### The node -/

/-- An event router of the node. -/
structure RouterRef where
  id : ℕ
  sessionId : SessionId
deriving DecidableEq

/-- The master of the node: its session, and the router that its `event_sender` enters. -/
structure MasterRef where
  sessionId : SessionId
  eventSender : ℕ
deriving DecidableEq

/-- The API of the node: the router it listens to, and what it was last told of the election. -/
structure ApiRef where
  eventReceiver : ℕ
  resultClock : Int
  masterNodeId : NodeId
deriving DecidableEq

/-- `Node`: its components, each with the router it is connected to, and the routers that were
shut down. -/
structure ElectedNode where
  nodeId : NodeId
  eventRouter : RouterRef
  shutDown : List ℕ := []
  master : Option MasterRef
  peerEventSender : ℕ
  downloadCoordinator : Option ℕ
  worker : Option ℕ
  infoPublisher : Option ℕ
  api : Option ApiRef
deriving DecidableEq

/-- What `Node.create` is asked for. -/
structure NodeArgs where
  noDownloads : Bool
  noWorker : Bool
  spawnApi : Bool
deriving DecidableEq

/-- `Node.create`: every node starts with a master. -/
def ElectedNode.create (nodeId : NodeId) (bootClock : Int) (args : NodeArgs) : ElectedNode where
  nodeId
  eventRouter := { id := 0, sessionId := { masterNodeId := nodeId, electionClock := bootClock } }
  master := some
    { sessionId := { masterNodeId := nodeId, electionClock := bootClock }, eventSender := 0 }
  peerEventSender := 0
  downloadCoordinator := if args.noDownloads then none else some 0
  worker := if args.noWorker then none else some 0
  infoPublisher := if args.noWorker then some 0 else none
  api := if args.spawnApi then
      some { eventReceiver := 0, resultClock := 0, masterNodeId := nodeId }
    else none

/-! ### Handling a result -/

/-- A result that the loop receives, with the results that arrive while it waits for the
session to settle; it waits when the debounce is positive. -/
structure ResultArrival where
  first : ElectionResult
  debounced : Bool
  later : List ElectionResult
deriving DecidableEq

/-- `_stabilize_election_result`. -/
def ResultArrival.stabilize (arrival : ResultArrival) (currentSessionId : SessionId) :
    ElectionResult :=
  if !arrival.debounced || arrival.first.sessionId = currentSessionId then arrival.first
  else arrival.later.getLastD arrival.first

namespace ElectedNode

/-- The result that the loop handles. -/
def handled (n : ElectedNode) (arrival : ResultArrival) : ElectionResult :=
  arrival.stabilize n.eventRouter.sessionId

/-- The first part of a session transition: a new router takes the place of the old one. -/
def replaceRouter (n : ElectedNode) (session : SessionId) : ElectedNode :=
  let id := n.eventRouter.id + 1
  { n with
    eventRouter := { id, sessionId := session }
    shutDown := n.shutDown ++ [n.eventRouter.id]
    peerEventSender := id }

/-- The four branches on the master. -/
def updateMaster (n : ElectedNode) (session : SessionId) : ElectedNode :=
  if session.masterNodeId = n.nodeId then
    match n.master with
    | some _ => n
    | none => { n with
        master := some { sessionId := session, eventSender := n.eventRouter.id } }
  else { n with
    master := none }

/-- The second part of a session transition: what is connected to the router is created
again. -/
def reconnect (n : ElectedNode) (result : ElectionResult) : ElectedNode :=
  { n with
    downloadCoordinator := n.downloadCoordinator.map (fun _ => n.eventRouter.id)
    worker := n.worker.map (fun _ => n.eventRouter.id)
    infoPublisher :=
      if n.worker.isSome then n.infoPublisher else n.infoPublisher.map (fun _ => n.eventRouter.id)
    api := n.api.map (fun _ =>
      { eventReceiver := n.eventRouter.id
        resultClock := result.wonClock
        masterNodeId := result.sessionId.masterNodeId }) }

/-- `api.unpause`. -/
def unpause (n : ElectedNode) (result : ElectionResult) : ElectedNode :=
  { n with
    api := n.api.map (fun api => { api with
      resultClock := result.wonClock
      masterNodeId := result.sessionId.masterNodeId }) }

/-- One round of `_elect_loop`. -/
def electLoop (arrival : ResultArrival) (n : ElectedNode) : ElectedNode :=
  let result := n.handled arrival
  if result.sessionId ≠ n.eventRouter.sessionId then
    ((n.replaceRouter result.sessionId).updateMaster result.sessionId).reconnect result
  else (n.updateMaster result.sessionId).unpause result

/-! ### Coupling -/

/-- The master runs under the session of the current router and sends into it. -/
def MasterCoupled (n : ElectedNode) : Prop :=
  ∀ m, n.master = some m →
    m.sessionId = n.eventRouter.sessionId ∧ m.eventSender = n.eventRouter.id

/-- What is asked after a result was handled. -/
def Coupled (result : ElectionResult) (n : ElectedNode) : Prop :=
  (n.master.isSome = true ↔ result.sessionId.masterNodeId = n.nodeId) ∧ n.MasterCoupled ∧
    n.eventRouter.id ∉ n.shutDown

/-- The condition on a result: a node that runs a master is not named again under another
session. -/
def NotRenewed (arrival : ResultArrival) (n : ElectedNode) : Prop :=
  n.master.isSome = true → (n.handled arrival).sessionId.masterNodeId = n.nodeId →
    (n.handled arrival).sessionId = n.eventRouter.sessionId

/-- The invariant of the loop. -/
structure Inv (n : ElectedNode) : Prop where
  coupled : n.MasterCoupled
  older : ∀ id ∈ n.shutDown, id < n.eventRouter.id

variable {n : ElectedNode} {arrival : ResultArrival} {result : ElectionResult}
  {session : SessionId}

@[simp] theorem reconnect_nodeId : (n.reconnect result).nodeId = n.nodeId := rfl
@[simp] theorem reconnect_master : (n.reconnect result).master = n.master := rfl
@[simp] theorem reconnect_eventRouter : (n.reconnect result).eventRouter = n.eventRouter := rfl
@[simp] theorem reconnect_shutDown : (n.reconnect result).shutDown = n.shutDown := rfl
@[simp] theorem unpause_nodeId : (n.unpause result).nodeId = n.nodeId := rfl
@[simp] theorem unpause_master : (n.unpause result).master = n.master := rfl
@[simp] theorem unpause_eventRouter : (n.unpause result).eventRouter = n.eventRouter := rfl
@[simp] theorem unpause_shutDown : (n.unpause result).shutDown = n.shutDown := rfl

@[simp] theorem updateMaster_nodeId : (n.updateMaster session).nodeId = n.nodeId := by
  unfold updateMaster
  split
  · split <;> rfl
  · rfl

@[simp] theorem updateMaster_eventRouter :
    (n.updateMaster session).eventRouter = n.eventRouter := by
  unfold updateMaster
  split
  · split <;> rfl
  · rfl

@[simp] theorem updateMaster_shutDown : (n.updateMaster session).shutDown = n.shutDown := by
  unfold updateMaster
  split
  · split <;> rfl
  · rfl

/-- The master after the four branches. -/
theorem updateMaster_master : (n.updateMaster session).master =
    if session.masterNodeId = n.nodeId then
      n.master.or (some { sessionId := session, eventSender := n.eventRouter.id })
    else none := by
  unfold updateMaster
  split
  · rcases hmaster : n.master with - | m
    · rfl
    · exact hmaster
  · rfl

/-- The node runs a master exactly when it is named, whatever happened before. -/
theorem updateMaster_isSome :
    (n.updateMaster session).master.isSome = true ↔ session.masterNodeId = n.nodeId := by
  rw [updateMaster_master]
  by_cases h : session.masterNodeId = n.nodeId
  · rcases n.master with - | m <;> simp [h]
  · simp [h]

/-- A round with a session transition. -/
theorem electLoop_of_ne (h : (n.handled arrival).sessionId ≠ n.eventRouter.sessionId) :
    n.electLoop arrival = ((n.replaceRouter (n.handled arrival).sessionId).updateMaster
      (n.handled arrival).sessionId).reconnect (n.handled arrival) :=
  if_pos h

/-- A round without one. -/
theorem electLoop_of_eq (h : (n.handled arrival).sessionId = n.eventRouter.sessionId) :
    n.electLoop arrival =
      (n.updateMaster (n.handled arrival).sessionId).unpause (n.handled arrival) :=
  if_neg (not_not.mpr h)

/-- The branches on the master couple it to the router, unless there was one before that was
not. -/
theorem updateMaster_coupled (hrouter : n.eventRouter.sessionId = session)
    (hold : session.masterNodeId = n.nodeId → n.MasterCoupled) :
    (n.updateMaster session).MasterCoupled := by
  intro m hm
  rw [updateMaster_eventRouter]
  rw [updateMaster_master] at hm
  split at hm
  next hnamed =>
    rcases hmaster : n.master with - | old
    · rw [hmaster] at hm
      cases hm
      exact ⟨hrouter.symm, rfl⟩
    · rw [hmaster] at hm
      cases hm
      exact hold hnamed m hmaster
  next => cases hm

theorem Inv.notMem_shutDown (h : n.Inv) : n.eventRouter.id ∉ n.shutDown :=
  fun hmem => lt_irrefl _ (h.older _ hmem)

/-- A result that does not renew the session of a running master leaves the node coupled. -/
theorem Inv.electLoop (h : n.Inv) (hok : n.NotRenewed arrival) : (n.electLoop arrival).Inv := by
  by_cases hsession : (n.handled arrival).sessionId = n.eventRouter.sessionId
  · rw [electLoop_of_eq hsession]
    refine ⟨?_, by simpa using h.older⟩
    have hcoupled := updateMaster_coupled (n := n) hsession.symm fun _ => h.coupled
    exact hcoupled
  · rw [electLoop_of_ne hsession]
    constructor
    · have hcoupled := updateMaster_coupled
        (n := n.replaceRouter (n.handled arrival).sessionId) rfl ?_
      · exact hcoupled
      · -- a running master would have been renewed
        intro hnamed m hm
        have hsome : n.master.isSome = true := Option.isSome_of_mem hm
        exact absurd (hok hsome hnamed) hsession
    · simp only [reconnect_shutDown, updateMaster_shutDown, reconnect_eventRouter,
        updateMaster_eventRouter]
      intro id hid
      rcases List.mem_append.mp hid with hold | hlast
      · exact Nat.lt_succ_of_lt (h.older id hold)
      · rw [List.mem_singleton.mp hlast]
        exact Nat.lt_succ_self _

/-- The node runs a master after a round exactly when the result names it. -/
theorem electLoop_isSome : (n.electLoop arrival).master.isSome = true ↔
      (n.handled arrival).sessionId.masterNodeId = (n.electLoop arrival).nodeId := by
  by_cases hsession : (n.handled arrival).sessionId = n.eventRouter.sessionId
  · rw [electLoop_of_eq hsession, unpause_master, updateMaster_isSome, unpause_nodeId,
      updateMaster_nodeId]
  · rw [electLoop_of_ne hsession, reconnect_master, updateMaster_isSome, reconnect_nodeId,
      updateMaster_nodeId]

/-- **One round**: it leaves the node coupled exactly when it does not renew the session of a
running master. -/
theorem Inv.coupled_iff (h : n.Inv) :
    Coupled (n.handled arrival) (n.electLoop arrival) ↔ n.NotRenewed arrival := by
  constructor
  · intro hcoupled hsome hnamed
    by_contra hsession
    -- the old master stays, and the router is of another session
    obtain ⟨m, hm⟩ := Option.isSome_iff_exists.mp hsome
    have hkept : (n.electLoop arrival).master = some m := by
      rw [electLoop_of_ne hsession, reconnect_master, updateMaster_master]
      have hnode : (n.replaceRouter (n.handled arrival).sessionId).nodeId = n.nodeId := rfl
      have hmaster : (n.replaceRouter (n.handled arrival).sessionId).master = n.master := rfl
      rw [if_pos (hnamed.trans hnode.symm), hmaster, hm]
      rfl
    have hrouter : (n.electLoop arrival).eventRouter.sessionId = (n.handled arrival).sessionId := by
      rw [electLoop_of_ne hsession, reconnect_eventRouter, updateMaster_eventRouter]
      rfl
    have hnew := (hcoupled.2.1 m hkept).1
    have hold := (h.coupled m hm).1
    exact hsession (hrouter.symm.trans (hnew.symm.trans hold))
  · intro hok
    have hinv := h.electLoop hok
    exact ⟨electLoop_isSome, hinv.coupled, hinv.notMem_shutDown⟩

theorem Inv.create (nodeId : NodeId) (bootClock : Int) (args : NodeArgs) :
    (ElectedNode.create nodeId bootClock args).Inv where
  coupled m hm := by
    cases hm
    exact ⟨rfl, rfl⟩
  older := List.forall_mem_nil _

end ElectedNode

/-- **The election loop**: over every sequence of results, a node that was just created runs,
after each result, a master exactly when the result names it, of the session of its current
router and sending into that router, which is not shut down, exactly when no result names the
node under a new session while it runs a master. -/
theorem electLoop_coupled_iff (nodeId : NodeId) (bootClock : Int) (args : NodeArgs)
    (arrivals : List ResultArrival) : Machine.EachStep ElectedNode.electLoop
        (fun arrival before after => ElectedNode.Coupled (before.handled arrival) after)
        arrivals (ElectedNode.create nodeId bootClock args) ↔
      Machine.Meets ElectedNode.electLoop (fun arrival n => n.NotRenewed arrival) arrivals
        (ElectedNode.create nodeId bootClock args) :=
  Machine.eachStep_iff_meets (fun _ _ hinv hok => hinv.electLoop hok)
    (fun _ _ hinv => hinv.coupled_iff) (ElectedNode.Inv.create nodeId bootClock args)

/-- A node that boots with session 10 is elected again, under session 11. -/
def sampleRenewal : ResultArrival where
  first :=
    { sessionId := { masterNodeId := "a", electionClock := 11 }
      wonClock := 11
      isNewMaster := true }
  debounced := false
  later := []

/-- Its master stays that of session 10 and sends into the router that was shut down. -/
theorem electLoop_renewed : ¬Machine.EachStep ElectedNode.electLoop
      (fun arrival before after => ElectedNode.Coupled (before.handled arrival) after)
      [sampleRenewal]
      (ElectedNode.create "a" 10
        { noDownloads := false, noWorker := false, spawnApi := true }) := by
  intro heach
  have hmaster : ((ElectedNode.create "a" 10
      { noDownloads := false, noWorker := false, spawnApi := true }).electLoop
        sampleRenewal).master =
      some { sessionId := { masterNodeId := "a", electionClock := 10 }, eventSender := 0 } := by
    decide
  have hcoupled := heach.1.2.1 _ hmaster
  revert hcoupled
  decide

end CaiNetwork.Cluster
