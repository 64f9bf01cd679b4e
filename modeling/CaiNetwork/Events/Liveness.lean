/-
CaiNetwork/Events/Liveness.lean

How the master removes instances (`main.py`, `placement.py`).

The delete command cancels the tasks of the instance that it removes; the liveness pass, which
removes the instances of nodes that are gone, does not (`livenessPass_uncancelled`).  The events of
a removal are indexed in their order, with other events between them; a `Planner` keeps what has
arrived of every removal (`plannerRuns_cancel`).  What the master reads of the texts of instances
and tasks is a parameter, `Reading`.
-/

import CaiNetwork.Events.Replication

namespace CaiNetwork.Cluster

open List

/-! ### The liveness pass -/

/-- What the master reads of values that events carry as texts. -/
structure Reading where
  /-- `instance.shard_assignments.node_to_runner`. -/
  nodeToRunner : Dump → Dict String
  /-- `task.instance_id`. -/
  instanceId : Dump → String
  /-- `task.task_id`. -/
  taskId : Dump → String

abbrev Dict.keys {V : Type} (d : Dict V) : List String := d.map Prod.fst

/-- The nodes that a map of overlay peers names. -/
def overlayNames (d : Dict (List NodeId)) : List NodeId := d.keys ++ d.flatMap Prod.snd

/-- The nodes of `_live_node_ids` other than the master itself. -/
def State.heardOf (s : State) : List NodeId :=
  s.lastSeen.keys ++ s.nodeIdentities.keys ++ s.nodeMemory.keys ++ s.nodeNetwork.keys ++
    s.nodeDisk.keys ++ overlayNames s.overlayPeers

/-- `_live_node_ids`. -/
def State.liveNodeIds (s : State) (self : NodeId) : List NodeId := self :: s.heardOf

/-- `_direct_overlay_peer_ids`. -/
def State.directOverlayPeerIds (s : State) (self : NodeId) : List NodeId :=
  (s.overlayPeers.lookup self).getD [] ++
    (s.overlayPeers.filter fun entry => self ∈ entry.2).map Prod.fst

variable (process : Process) (reading : Reading) (self : NodeId)

/-- The instances that the liveness pass removes. -/
def brokenInstances (s : State) : List String :=
  (s.instances.filter fun entry => (reading.nodeToRunner entry.2.details).any fun runner =>
    runner.1 ∉ s.liveNodeIds self).map Prod.fst

/-- The nodes that the liveness pass times out at a time; a date without an offset ends it. -/
def timeouts (now : Int) (direct : List NodeId) : Dict Instant → List NodeId
  | [] => []
  | (nodeId, seen) :: rest =>
    if nodeId = self then timeouts now direct rest
    else if seen.aware then
      if now - seen.micros ≤ 30000000 ∨ nodeId ∈ direct then timeouts now direct rest
      else nodeId :: timeouts now direct rest
    else []

/-- The events of `_plan_once`; while the first ones are sent the state may become `later`. -/
def planOnce (s later : State) (now : Int) : List EventBody :=
  (brokenInstances reading self s).map .instanceDeleted ++
    (timeouts self now (later.directOverlayPeerIds self) later.lastSeen).map .nodeTimedOut

/-! ### The delete command -/

def Task.Active (task : Task) : Prop := task.taskStatus = .pending ∨ task.taskStatus = .running

instance (task : Task) : Decidable task.Active := inferInstanceAs (Decidable (_ ∨ _))

/-- `get_transition_events`. -/
def getTransitionEvents (current target : Dict Instance) (tasks : Dict Task) : List EventBody :=
  (target.filter fun entry => entry.1 ∉ current.keys).map (fun entry => .instanceCreated entry.2) ++
    (current.filter fun entry => entry.1 ∉ target.keys).flatMap fun entry =>
      (tasks.filter fun task => reading.instanceId task.2.details = entry.1 ∧ task.2.Active).map
        (fun task => .taskStatusUpdated (reading.taskId task.2.details) .cancelled) ++
          [.instanceDeleted entry.1]

/-- `delete_instance`; an instance that is not there is an error. -/
def deleteInstance (instanceId : String) (current : Dict Instance) : Option (Dict Instance) :=
  if instanceId ∈ current.keys then some (current.without instanceId) else none

/-- How instances are removed. -/
inductive Removal where
  | deleteCommand (instanceId : String)
  | livenessPass (later : State) (now : Int)

def Removal.events (s : State) : Removal → List EventBody
  | .deleteCommand instanceId => (deleteInstance instanceId s.instances).elim [] fun target =>
      getTransitionEvents reading s.instances target s.tasks
  | .livenessPass later now => planOnce reading self s later now

/-- The liveness pass finds no active task on the instances that it removes, and the active tasks of
the instance of a delete command are stored under their own ids. -/
def Removal.Idle (s : State) (removal : Removal) : Prop :=
  ∀ taskId task, s.tasks.lookup taskId = some task → task.Active →
    match removal with
    | .deleteCommand instanceId =>
      reading.instanceId task.details = instanceId → reading.taskId task.details = taskId
    | .livenessPass _ _ => reading.instanceId task.details ∉ brokenInstances reading self s

/-! ### Runs -/

/-- A removal that the master has decided on: the state at that time, the events of its batch that
were indexed, each with the state after it, and those on their way. -/
structure Decision where
  removal : Removal
  decidedIn : State
  indexed : List (EventBody × State) := []
  sent : List EventBody

/-- The master with the removals it has decided on. -/
structure Planner where
  state : State := {}
  decisions : List Decision := []

inductive PlannerOp where
  | remove (removal : Removal)
  /-- The next event of a batch reaches `_event_processor`. -/
  | index (batch : Nat)
  /-- An event of another origin does, or one of another command. -/
  | other (event : Event)

/-- An event that cannot be applied ends the event processor. -/
def PlannerOp.after (op : PlannerOp) (p : Planner) : Planner :=
  match op with
  | remove removal =>
    { p with
      decisions := p.decisions ++ [⟨removal, p.state, [], removal.events reading self p.state⟩] }
  | index batch =>
    match p.decisions[batch]? with
    | some ⟨removal, decidedIn, indexed, body :: sent⟩ =>
      (eventApply process ⟨"", body⟩ p.state).elim p fun state =>
        ⟨state, p.decisions.set batch ⟨removal, decidedIn, indexed ++ [(body, state)], sent⟩⟩
    | _ => p
  | other event => (eventApply process event p.state).elim p fun state => { p with state }

def PlannerOp.Idle (op : PlannerOp) (p : Planner) : Prop :=
  match op with
  | remove removal => removal.Idle reading self p.state
  | _ => True

def State.statusOf (s : State) (taskId : String) : Option TaskStatus :=
  (s.tasks.lookup taskId).map Task.taskStatus

/-- When the deletion of an instance is indexed, the batch has cancelled the tasks that were active
on it when the removal was decided, as far as they are still there. -/
def Decision.Cancels (d : Decision) : Prop :=
  ∀ taskId task, d.decidedIn.tasks.lookup taskId = some task → task.Active →
    (∃ s, (.instanceDeleted (reading.instanceId task.details), s) ∈ d.indexed) →
      ∃ s, (.taskStatusUpdated taskId .cancelled, s) ∈ d.indexed ∧
        ∀ status ∈ s.statusOf taskId, status = .cancelled

/-! ### Cancelled tasks -/

section Cancelled

variable {process reading self} {s s' : State} {p : Planner} {d : Decision}

/-- What is known of a decision: its events are indexed in order, and each led to the state after
it. -/
structure Decision.Sound (process : Process) (reading : Reading) (self : NodeId) (d : Decision) :
    Prop where
  idle : d.removal.Idle reading self d.decidedIn
  batch : d.indexed.map Prod.fst ++ d.sent = d.removal.events reading self d.decidedIn
  applied : ∀ e ∈ d.indexed, ∃ s, eventApply process ⟨"", e.1⟩ s = some e.2

theorem statusOf_of_cancelled {taskId : String}
    (h : eventApply process ⟨"", .taskStatusUpdated taskId .cancelled⟩ s = some s') :
    ∀ status ∈ s'.statusOf taskId, status = .cancelled := by
  cases h
  rw [applyTaskStatusUpdated]
  cases htask : s.tasks.lookup taskId with
  | none => simp [State.statusOf, htask]
  | some task =>
    show ∀ status ∈ ((s.tasks.set taskId _).lookup taskId).map _, _
    rw [Dict.set, Table.lookup_eq_find, Table.find_upsert, if_pos rfl]
    rintro _ ⟨⟩
    rfl

/-- The cancellations of a delete command come before the deletion. -/
theorem cancelled_of_deleted {instanceId id : String} {indexed sent : List EventBody}
    (hbatch : indexed ++ sent = (Removal.deleteCommand instanceId).events reading self s)
    (hdeleted : .instanceDeleted id ∈ indexed) : id = instanceId ∧
      ∀ task ∈ s.tasks, reading.instanceId task.2.details = instanceId → task.2.Active →
        .taskStatusUpdated (reading.taskId task.2.details) .cancelled ∈ indexed := by
  rw [Removal.events, deleteInstance] at hbatch
  split at hbatch
  · -- only the entries of the instance are missing in the target
    have hcreated : ((s.instances.without instanceId).filter fun entry =>
        entry.1 ∉ s.instances.keys) = [] := by
      simp only [filter_eq_nil_iff, decide_eq_true_eq, not_not]
      exact fun entry hentry => mem_map_of_mem (mem_filter.mp hentry).1
    have hgone : ∀ entry ∈ s.instances.filter fun entry =>
        entry.1 ∉ Dict.keys (s.instances.without instanceId), entry.1 = instanceId := by
      intro entry hentry
      obtain ⟨hmem, hnone⟩ := mem_filter.mp hentry
      by_contra hne
      exact of_decide_eq_true hnone (mem_map_of_mem (mem_filter.mpr ⟨hmem, decide_eq_true hne⟩))
    rw [Option.elim_some, getTransitionEvents, hcreated, map_nil, nil_append] at hbatch
    generalize s.instances.filter _ = gone at hbatch hgone
    cases gone with
    | nil =>
      rw [flatMap_nil, append_eq_nil_iff] at hbatch
      rw [hbatch.1] at hdeleted
      cases hdeleted
    | cons entry gone =>
      obtain rfl := hgone entry mem_cons_self
      have hid : id = entry.1 := by
        have hmem := hbatch ▸ mem_append_left sent hdeleted
        obtain ⟨other, hother, hbody⟩ := mem_flatMap.mp hmem
        rw [← hgone other hother]
        simpa using hbody
      refine ⟨hid, fun task htask hinstance hactive => ?_⟩
      have hcancel : .taskStatusUpdated (reading.taskId task.2.details) .cancelled ∈
          (s.tasks.filter fun task => reading.instanceId task.2.details = entry.1 ∧
            task.2.Active).map (fun task =>
              EventBody.taskStatusUpdated (reading.taskId task.2.details) .cancelled) :=
        mem_map.mpr ⟨task, mem_filter.mpr ⟨htask, by simpa using ⟨hinstance, hactive⟩⟩, rfl⟩
      rw [flatMap_cons, append_assoc] at hbatch
      rcases append_eq_append_iff.mp hbatch with ⟨rest, hrest, -⟩ | ⟨rest, hrest, -⟩
      · -- the deletion is none of the cancellations
        have hmem := hrest ▸ mem_append_left rest hdeleted
        obtain ⟨_, -, hbody⟩ := mem_map.mp hmem
        cases hbody
      · exact hrest ▸ mem_append_left rest hcancel
  · rw [Option.elim_none, append_eq_nil_iff] at hbatch
    rw [hbatch.1] at hdeleted
    cases hdeleted

theorem Decision.Sound.cancels (h : d.Sound process reading self) : d.Cancels reading := by
  obtain ⟨hidle, hbatch, happlied⟩ := h
  rintro taskId task htask hactive ⟨after, hdeleted⟩
  have hmem : _ ∈ d.indexed.map Prod.fst := mem_map_of_mem hdeleted
  have hidle := hidle taskId task htask hactive
  cases hremoval : d.removal with
  | deleteCommand instanceId =>
    rw [hremoval] at hidle hbatch
    obtain ⟨hid, hcancelled⟩ := cancelled_of_deleted hbatch hmem
    obtain ⟨⟨_, s'⟩, hindexed, rfl⟩ := mem_map.mp
      (hcancelled _ (Table.mem_of_lookup htask) hid hactive)
    obtain ⟨s, hs⟩ := happlied _ hindexed
    rw [hidle hid] at hindexed hs
    exact ⟨s', hindexed, statusOf_of_cancelled hs⟩
  | livenessPass later now =>
    rw [hremoval] at hidle hbatch
    have hbody := hbatch ▸ mem_append_left d.sent hmem
    rcases mem_append.mp hbody with hbody | hbody
    · obtain ⟨id, hbroken, heq⟩ := mem_map.mp hbody
      cases heq
      exact absurd hbroken hidle
    · obtain ⟨_, -, heq⟩ := mem_map.mp hbody
      cases heq

theorem PlannerOp.sound_after (op : PlannerOp) (h : ∀ d ∈ p.decisions, d.Sound process reading self)
    (hop : op.Idle reading self p) :
    ∀ d ∈ (op.after process reading self p).decisions, d.Sound process reading self := by
  cases op with
  | remove removal =>
    rw [PlannerOp.after, forall_mem_append]
    exact ⟨h, forall_mem_singleton.mpr ⟨hop, rfl, forall_mem_nil _⟩⟩
  | index batch =>
    simp only [PlannerOp.after]
    split
    next removal decidedIn indexed body sent hd =>
      obtain ⟨hidle, hbatch, happlied⟩ := h _ (mem_of_getElem? hd)
      cases happly : eventApply process ⟨"", body⟩ p.state with
      | none => exact h
      | some state =>
        intro d hd
        rcases mem_or_eq_of_mem_set hd with hd | rfl
        · exact h d hd
        · refine ⟨hidle, ?_, forall_mem_append.mpr ⟨happlied, forall_mem_singleton.mpr ⟨_, happly⟩⟩⟩
          rw [← hbatch]
          simp
    next => exact h
  | other event =>
    rw [PlannerOp.after]
    cases eventApply process event p.state with
    | none => exact h
    | some state => exact h

/-- **Removals cancel the tasks of the instances.**  In every run of the master, from any state, in
which the liveness passes find no active task on the instances they remove and the tasks of deleted
instances are stored under their own ids: whenever the deletion of an instance is indexed, its batch
has cancelled the tasks that were active on the instance when it was decided. -/
theorem plannerRuns_cancel {ops : List PlannerOp} (hstart : p.decisions = [])
    (hops : Machine.Meets (PlannerOp.after process reading self)
      (PlannerOp.Idle reading self) ops p) :
    Machine.Always (PlannerOp.after process reading self)
      (fun p => ∀ d ∈ p.decisions, d.Cancels reading) ops p := by
  have hsound : ∀ d ∈ p.decisions, d.Sound process reading self := by simp [hstart]
  exact (Machine.always_of_invariant (fun op _ h hop => op.sound_after h hop) hops hsound).imp
    fun p h d hd => (h d hd).cancels

/-- A task `t` on an instance `i` whose node is unknown to the master. -/
def sampleReading : Reading := ⟨fun _ => [("n", "r")], fun _ => "i", fun _ => "t"⟩

/-- The instance and its task are created and the instance is removed. -/
def sampleRemoval (removal : Removal) : List PlannerOp :=
  [.other ⟨"", .instanceCreated ⟨"i", ""⟩⟩, .other ⟨"", .taskCreated "t" { details := "" }⟩,
    .remove removal, .index 0, .index 0]

theorem plannerRuns_cancel_command :
    Machine.Always (PlannerOp.after sampleProcess sampleReading "m")
      (fun p => ∀ d ∈ p.decisions, d.Cancels sampleReading)
      (sampleRemoval (.deleteCommand "i")) {} := by
  refine plannerRuns_cancel rfl
    ⟨trivial, trivial, fun taskId task htask _ _ => ?_, trivial, trivial, trivial⟩
  have htask : (taskId, task) ∈ [("t", ({ details := "" } : Task))] := Table.mem_of_lookup htask
  cases mem_singleton.mp htask
  rfl

/-- A master whose only instance uses a node that it never heard of deletes the instance and leaves
its task pending. -/
theorem livenessPass_uncancelled :
    let p := Machine.run (PlannerOp.after sampleProcess sampleReading "m")
      (sampleRemoval (.livenessPass {} 0)) {}
    p.state.instances = [] ∧ p.state.statusOf "t" = some .pending ∧
      ∃ d ∈ p.decisions, ¬d.Cancels sampleReading := by
  refine ⟨rfl, rfl, _, mem_cons_self, fun h => ?_⟩
  obtain ⟨s, hs, -⟩ := h "t" _ rfl (.inl rfl) ⟨_, mem_cons_self⟩
  cases mem_singleton.mp hs

end Cancelled

end CaiNetwork.Cluster
