/-
CaiNetwork/Events/Replication.lean

Replication: the master indexes events, writes them to its log and broadcasts them; every
other node applies what its router releases (`master/main.py`, `worker/main.py`).

The master applies an event to its own state first and stamps it afterwards with its own time
(`Master.indexEvent`); it is the stamped event that is logged and sent.  The order in which a
process runs over a set enters the state as well.

In every run in which each time that the master writes reads as the instant it replaces, and the
two processes run over sets in the same order, the state of a worker that has applied `k` events
is the master's state right after it indexed `k` events (`replication_runs`).
-/

import CaiNetwork.Machine
import CaiNetwork.Events.Router

namespace CaiNetwork.Cluster

open List

/-! ### The master -/

/-- `str(datetime.now(tz=timezone.utc))`, as the master reads it when it gives an event its
index. -/
abbrev Clock := ℕ → Event → String

/-- `event.when = str(datetime.now(tz=timezone.utc))`, for events that have a time. -/
def restamp (time : String) (event : Event) : Event :=
  match event.body with
  | .nodeGatheredInfo nodeId _ info =>
    { event with
      body := .nodeGatheredInfo nodeId time info }
  | _ => event

/-- `isinstance(event, TracesCollected)`. -/
def Event.isTracesCollected (event : Event) : Bool :=
  match event.body with
  | .tracesCollected _ _ _ => true
  | _ => false

/-- `Master`; `outbox` has everything it has broadcast, and `history` the states it went
through, the first before any event. -/
structure Master where
  nodeId : NodeId
  sessionId : SessionId
  state : State := {}
  multiBuffer : MultiSourceBuffer String Event := {}
  eventLog : List Event := []
  outbox : List GlobalForwarderEvent := []
  history : List State := [{}]
  crashed : Bool := false
deriving DecidableEq

namespace Master

/-- The message of `_send_event`. -/
def forward (m : Master) (idx : ℕ) (event : Event) : GlobalForwarderEvent where
  originIdx := idx
  origin := m.nodeId
  session := m.sessionId
  event

/-- The inner loop of `_event_processor`, for one event. -/
def indexEvent (process : Process) (clock : Clock) (m : Master) (event : Event) : Master :=
  if m.crashed || event.isTracesCollected then m
  else
    let idx := m.eventLog.length
    match apply process m.state { idx, event } with
    | none => { m with
        crashed := true }
    | some state =>
      let stamped := restamp (clock idx event) event
      { m with
        state
        eventLog := m.eventLog ++ [stamped]
        outbox := m.outbox ++ [m.forward idx stamped]
        history := m.history ++ [state] }

/-- One round of `_event_processor`. -/
def receive (process : Process) (clock : Clock) (m : Master) (event : LocalForwarderEvent) :
    Master :=
  if m.crashed || event.session.masterNodeId ≠ m.sessionId.masterNodeId then m
  else
    match m.multiBuffer.ingest event.originIdx event.event event.origin with
    | none => { m with
        crashed := true }
    | some buffer => buffer.drain.1.foldl (indexEvent process clock) { m with
        multiBuffer := buffer.drain.2 }

/-- `RequestEventLog` in `_command_processor`. -/
def requestEventLog (m : Master) (sinceIdx batchSize : ℕ) : Master :=
  { m with
    outbox := m.outbox ++ ((m.eventLog.zipIdx.drop sinceIdx).take batchSize).map
      (fun entry => m.forward entry.2 entry.1) }

end Master

/-! ### The cluster -/

/-- A worker, and how many events it has applied; `crashed` once `apply` has raised. -/
structure Worker where
  state : State := {}
  applied : ℕ := 0
  crashed : Bool := false
deriving DecidableEq

/-- One round of `_event_applier`, on what the router has released. -/
def Worker.applyNext (process : Process) (released : List (ℕ × Event)) (w : Worker) : Worker :=
  if w.crashed then w
  else
    match released[w.applied]? with
    | none => w
    | some (idx, event) =>
      match apply process w.state { idx, event } with
      | none => { w with
          crashed := true }
      | some state => { w with
          state
          applied := w.applied + 1 }

/-- A master, and a node that follows it. -/
structure Replica where
  master : Master
  router : EventRouter
  worker : Worker := {}
deriving DecidableEq

/-- What happens in a cluster: a local event reaches the master, a part of the log is asked
for, a message that was broadcast reaches the router, or the worker takes the next event. -/
inductive ReplicaOp where
  | localEvent (event : LocalForwarderEvent)
  | requestEventLog (sinceIdx batchSize : ℕ)
  | deliver (n : ℕ)
  | applyNext
deriving DecidableEq

/-- One operation; the process of the worker differs from that of the master in the order in
which it runs over sets. -/
def Replica.step (process : Process) (workerOrder : List NodeId → List NodeId) (clock : Clock) :
    ReplicaOp → Replica → Replica
  | .localEvent event, c => { c with
      master := c.master.receive process clock event }
  | .requestEventLog sinceIdx batchSize, c => { c with
      master := c.master.requestEventLog sinceIdx batchSize }
  | .deliver n, c =>
    match c.master.outbox[n]? with
    | none => c
    | some message => { c with
        router := c.router.receive message }
  | .applyNext, c => { c with
      worker := c.worker.applyNext { process with
        setOrder := workerOrder } c.router.released }

/-- A master and a node that start under the given sessions. -/
def Replica.start (masterSession routerSession : SessionId) : Replica where
  master := { nodeId := masterSession.masterNodeId, sessionId := masterSession }
  router := { sessionId := routerSession }

/-- The worker's state is the master's after as many events. -/
def Replica.Replicated (c : Replica) : Prop :=
  c.master.history[c.worker.applied]? = some c.worker.state

/-! ### Stamping -/

/-- Whatever time the master writes into the event reads as the same instant as the time it
has. -/
def TimeKept (process : Process) (clock : Clock) (event : Event) : Prop :=
  ∀ idx nodeId when_ info, event.body = .nodeGatheredInfo nodeId when_ info →
    process.fromisoformat (clock idx event) = process.fromisoformat when_

theorem apply_restamp {process : Process} {clock : Clock} {event : Event}
    (h : TimeKept process clock event) {idx : ℕ} {state : State} :
    apply process state { idx, event := restamp (clock idx event) event } =
      apply process state { idx, event } := by
  unfold restamp
  split
  next nodeId when_ info hbody =>
    have htime := h idx nodeId when_ info hbody
    simp only [apply, eventApply, applyNodeGatheredInfo, hbody, htime]
  next => rfl

/-! ### What the master sends -/

/-- The log and the history only grow. -/
structure Master.Extends (m m' : Master) : Prop where
  sessionId_eq : m'.sessionId = m.sessionId
  eventLog : m.eventLog <+: m'.eventLog
  history : m.history <+: m'.history

/-- What the master has sent is what it has logged, under its session. -/
def Master.SendsLog (m : Master) : Prop :=
  ∀ message ∈ m.outbox,
    m.eventLog[message.originIdx]? = some message.event ∧ message.session = m.sessionId

theorem getElem?_extended {α : Type} {l l' : List α} {i : ℕ} {a : α} (h : l <+: l')
    (hi : l[i]? = some a) : l'[i]? = some a := by
  obtain ⟨rest, rfl⟩ := h
  rw [getElem?_append_left (List.getElem?_eq_some_iff.mp hi).1, hi]

namespace Master

variable {process : Process} {clock : Clock} {m : Master}

theorem Extends.refl (m : Master) : m.Extends m := ⟨rfl, prefix_rfl, prefix_rfl⟩

theorem Extends.trans {m m' m'' : Master} (h : m.Extends m') (h' : m'.Extends m'') :
    m.Extends m'' where
  sessionId_eq := h'.sessionId_eq.trans h.sessionId_eq
  eventLog := h.eventLog.trans h'.eventLog
  history := h.history.trans h'.history

theorem extends_indexEvent (process : Process) (clock : Clock) (m : Master) (event : Event) :
    m.Extends (m.indexEvent process clock event) := by
  unfold indexEvent
  split
  next => exact Extends.refl m
  dsimp only
  split
  next => exact ⟨rfl, prefix_rfl, prefix_rfl⟩
  next => exact ⟨rfl, prefix_append _ _, prefix_append _ _⟩

theorem SendsLog.indexEvent (h : m.SendsLog) (event : Event) :
    (m.indexEvent process clock event).SendsLog := by
  unfold Master.indexEvent
  split
  next => exact h
  dsimp only
  split
  next => exact h
  next =>
    intro message hmessage
    rcases mem_append.mp hmessage with hold | hnew
    · obtain ⟨hlogged, hsession⟩ := h message hold
      exact ⟨getElem?_extended (prefix_append _ _) hlogged, hsession⟩
    · rw [mem_singleton.mp hnew]
      exact ⟨getElem?_concat_length, rfl⟩

/-- Both along a list of events. -/
theorem SendsLog.indexEvents (events : List Event) (h : m.SendsLog) :
    (events.foldl (Master.indexEvent process clock) m).SendsLog ∧
      m.Extends (events.foldl (Master.indexEvent process clock) m) := by
  induction events generalizing m with
  | nil => exact ⟨h, Extends.refl m⟩
  | cons event events ih =>
    obtain ⟨hsends, hextends⟩ := ih (h.indexEvent event)
    exact ⟨hsends, (extends_indexEvent process clock m event).trans hextends⟩

theorem SendsLog.receive (h : m.SendsLog) (event : LocalForwarderEvent) :
    (m.receive process clock event).SendsLog ∧ m.Extends (m.receive process clock event) := by
  unfold Master.receive
  split
  next => exact ⟨h, Extends.refl m⟩
  split
  next => exact ⟨h, rfl, prefix_rfl, prefix_rfl⟩
  next buffer _ =>
    have hrest : ({ m with
        multiBuffer := buffer.drain.2 } : Master).SendsLog := h
    obtain ⟨hsends, hextends⟩ := hrest.indexEvents buffer.drain.1
    exact ⟨hsends, hextends.sessionId_eq, hextends.eventLog, hextends.history⟩

theorem SendsLog.requestEventLog (h : m.SendsLog) (sinceIdx batchSize : ℕ) :
    (m.requestEventLog sinceIdx batchSize).SendsLog := by
  intro message hmessage
  rcases mem_append.mp hmessage with hold | hnew
  · exact h message hold
  · obtain ⟨⟨event, idx⟩, hentry, rfl⟩ := mem_map.mp hnew
    have hmem : (event, idx) ∈ m.eventLog.zipIdx := mem_of_mem_drop (mem_of_mem_take hentry)
    exact ⟨mk_mem_zipIdx_iff_getElem?.mp hmem, rfl⟩

end Master

/-! ### What the master keeps -/

/-- The log explains the history: applying the `k`-th logged event to the `k`-th state gives
the next one. -/
structure Master.Logged (process : Process) (clock : Clock) (m : Master) : Prop where
  length_eq : m.history.length = m.eventLog.length + 1
  first : m.history[0]? = some ({} : State)
  current : m.history[m.eventLog.length]? = some m.state
  replays : ∀ {k event}, m.eventLog[k]? = some event → ∃ before after,
    m.history[k]? = some before ∧ m.history[k + 1]? = some after ∧
      apply process before { idx := k, event } = some after
  waiting : m.multiBuffer.All (TimeKept process clock)

namespace Master

variable {process : Process} {clock : Clock} {m : Master}

theorem Logged.crash (h : m.Logged process clock) : ({ m with
      crashed := true } : Master).Logged process clock :=
  ⟨h.length_eq, h.first, h.current, h.replays, h.waiting⟩

/-- Indexing one event: it is applied as it came, and logged stamped. -/
theorem Logged.indexEvent (h : m.Logged process clock) {event : Event}
    (hkept : TimeKept process clock event) :
    (m.indexEvent process clock event).Logged process clock := by
  unfold Master.indexEvent
  split
  next => exact h
  dsimp only
  rcases happly : apply process m.state { idx := m.eventLog.length, event } with - | state
  · exact h.crash
  have hkeeps : ∀ {k : ℕ} {s : State}, m.history[k]? = some s →
      (m.history ++ [state])[k]? = some s := getElem?_extended (prefix_append _ _)
  have hlast : (m.history ++ [state])[m.eventLog.length + 1]? = some state := by
    rw [← h.length_eq, getElem?_concat_length]
  refine ⟨?_, ?_, ?_, ?_, h.waiting⟩
  · rw [length_append, length_append, h.length_eq]
    rfl
  · exact hkeeps h.first
  · rw [length_append]
    exact hlast
  · intro k e hk
    rw [getElem?_append] at hk
    split at hk
    next =>
      obtain ⟨before, after, hbefore, hafter, happly'⟩ := h.replays hk
      exact ⟨before, after, hkeeps hbefore, hkeeps hafter, happly'⟩
    next hge =>
      -- the new entry: stamping it does not change what it does to the state
      obtain ⟨hpos, he⟩ := List.getElem?_eq_some_iff.mp hk
      have hk' : k = m.eventLog.length := by
        rw [length_singleton] at hpos
        omega
      subst hk'
      rw [getElem_singleton] at he
      refine ⟨m.state, state, hkeeps h.current, hlast, ?_⟩
      rw [← he, apply_restamp hkept]
      exact happly

theorem Logged.indexEvents (events : List Event) (h : m.Logged process clock)
    (hkept : ∀ event ∈ events, TimeKept process clock event) :
    (events.foldl (Master.indexEvent process clock) m).Logged process clock := by
  induction events generalizing m with
  | nil => exact h
  | cons event events ih =>
    rw [forall_mem_cons] at hkept
    exact ih (h.indexEvent hkept.1) hkept.2

theorem Logged.receive (h : m.Logged process clock) {event : LocalForwarderEvent}
    (hkept : TimeKept process clock event.event) :
    (m.receive process clock event).Logged process clock := by
  unfold Master.receive
  split
  next => exact h
  split
  next => exact h.crash
  next buffer hbuffer =>
    obtain ⟨hdrained, hwaiting⟩ := (h.waiting.ingest hkept hbuffer).drain
    have hrest : ({ m with
        multiBuffer := buffer.drain.2 } : Master).Logged process clock :=
      ⟨h.length_eq, h.first, h.current, h.replays, hwaiting⟩
    exact hrest.indexEvents _ hdrained

end Master

/-! ### Runs -/

/-- The invariant of a run: the router follows the master's log, and the worker is where the
master was. -/
structure Replica.Inv (process : Process) (clock : Clock) (c : Replica) : Prop where
  logged : c.master.Logged process clock
  sends : c.master.SendsLog
  follows : ∃ received, c.router.Follows (fun i e => c.master.eventLog[i]? = some e) received
  replicated : c.Replicated

variable {process : Process} {workerOrder : List NodeId → List NodeId} {clock : Clock}

/-- The master moves on; nothing else changes. -/
theorem Replica.Inv.master {c : Replica} (h : c.Inv process clock) {m : Master}
    (hlogged : m.Logged process clock) (hsends : m.SendsLog) (hextends : c.master.Extends m) :
    ({ c with
      master := m } : Replica).Inv process clock := by
  obtain ⟨received, hfollows⟩ := h.follows
  exact
    { logged := hlogged
      sends := hsends
      follows := ⟨received, hfollows.mono (getElem?_extended hextends.eventLog)⟩
      replicated := getElem?_extended hextends.history h.replicated }

theorem Replica.Inv.deliver {c : Replica} (h : c.Inv process clock)
    {message : GlobalForwarderEvent} (hsent : message ∈ c.master.outbox) : ({ c with
      router := c.router.receive message } : Replica).Inv process clock := by
  obtain ⟨received, hfollows⟩ := h.follows
  have hone : ∀ {i : ℕ} {e e' : Event}, c.master.eventLog[i]? = some e →
      c.master.eventLog[i]? = some e' → e = e' :=
    fun he he' => Option.some.inj (he.symm.trans he')
  exact
    { logged := h.logged
      sends := h.sends
      follows := ⟨_, hfollows.receive hone fun _ => (h.sends message hsent).1⟩
      replicated := h.replicated }

/-- The worker takes the next event of the log, from the state the master had. -/
theorem Replica.Inv.applyNext {c : Replica} (h : c.Inv process clock) : ({ c with
      worker := c.worker.applyNext process c.router.released } : Replica).Inv process clock := by
  refine ⟨h.logged, h.sends, h.follows, ?_⟩
  unfold Worker.applyNext
  split
  next => exact h.replicated
  split
  next => exact h.replicated
  next idx event hreleased =>
    obtain ⟨received, hfollows⟩ := h.follows
    obtain ⟨rfl, hlog⟩ := hfollows.sends hreleased
    obtain ⟨before, after, hbefore, hafter, happly⟩ := h.logged.replays hlog
    have hstate : before = c.worker.state := Option.some.inj (hbefore.symm.trans h.replicated)
    rw [← hstate, happly]
    exact hafter

theorem Replica.Inv.start (process : Process) (clock : Clock)
    (masterSession routerSession : SessionId) :
    (Replica.start masterSession routerSession).Inv process clock where
  logged :=
    { length_eq := rfl
      first := rfl
      current := rfl
      replays := fun hk => by cases hk
      waiting := forall_mem_nil _ }
  sends := forall_mem_nil _
  follows := ⟨_, EventRouter.Follows.start _ routerSession⟩
  replicated := rfl

/-- The condition on an operation: the master's clock keeps the time of the event. -/
def ReplicaOp.Timely (process : Process) (clock : Clock) : ReplicaOp → Prop
  | .localEvent event => TimeKept process clock event.event
  | _ => True

theorem Replica.Inv.step (horder : workerOrder = process.setOrder) (op : ReplicaOp) (c : Replica)
    (h : c.Inv process clock) (hop : op.Timely process clock) :
    (Replica.step process workerOrder clock op c).Inv process clock := by
  cases op with
  | localEvent event =>
    obtain ⟨hsends, hextends⟩ := h.sends.receive event
    exact h.master (h.logged.receive hop) hsends hextends
  | requestEventLog sinceIdx batchSize =>
    exact h.master ⟨h.logged.length_eq, h.logged.first, h.logged.current, h.logged.replays,
      h.logged.waiting⟩ (h.sends.requestEventLog sinceIdx batchSize)
      ⟨rfl, prefix_rfl, prefix_rfl⟩
  | deliver n =>
    rw [Replica.step]
    rcases hmessage : c.master.outbox[n]? with - | message
    · exact h
    · exact h.deliver (mem_of_getElem? hmessage)
  | applyNext =>
    subst horder
    exact h.applyNext

/-- **Replication**: in every run in which the clock of the master keeps the time of each event
that reaches it, a worker whose process runs over sets as the master's does is, after `k`
events, in the state the master was in right after it indexed `k` events. -/
theorem replication_runs (process : Process) (workerOrder : List NodeId → List NodeId)
    (clock : Clock) (masterSession routerSession : SessionId) (ops : List ReplicaOp)
    (horder : workerOrder = process.setOrder)
    (hops : Machine.Meets (Replica.step process workerOrder clock)
      (fun op _ => op.Timely process clock) ops (Replica.start masterSession routerSession)) :
    Machine.Always (Replica.step process workerOrder clock) Replica.Replicated ops
      (Replica.start masterSession routerSession) :=
  (Machine.always_of_invariant (Replica.Inv.step horder) hops
    (Replica.Inv.start process clock masterSession routerSession)).imp fun _ hinv => hinv.replicated

/-! ### A master whose clock has moved on -/

/-- A process that reads two times. -/
def sampleProcess : Process where
  fromisoformat time :=
    if time = "2026-01-01 00:00:00+00:00" then some { micros := 1767225600000000, aware := true }
    else if time = "2026-01-01 00:00:05+00:00" then
      some { micros := 1767225605000000, aware := true }
    else none
  ipAddress _ := none
  simpleCycles _ _ := []
  setOrder := id

def sampleSession : SessionId := { masterNodeId := "m", electionClock := 1 }

/-- The worker `w` reports its name. -/
def sampleGathered (originIdx : ℕ) (eventId : String) : LocalForwarderEvent where
  originIdx
  origin := "s"
  session := sampleSession
  event :=
    { eventId
      body := .nodeGatheredInfo "w" "2026-01-01 00:00:00+00:00" (.miscData "box") }

/-- The master indexes the event, the router of the worker receives it, the worker applies
it. -/
def sampleReplicaOps : List ReplicaOp :=
  [.localEvent (sampleGathered 0 "e"), .deliver 0, .applyNext]

/-- The router receives the second of two events first. -/
theorem replication_runs_timely :
    Machine.Always (Replica.step sampleProcess id (fun _ _ => "2026-01-01 00:00:00+00:00"))
      Replica.Replicated
      [.localEvent (sampleGathered 0 "e"), .localEvent (sampleGathered 1 "f"), .deliver 1,
        .applyNext, .deliver 0, .applyNext, .applyNext]
      (Replica.start sampleSession sampleSession) := by
  have htimely (originIdx : ℕ) (eventId : String) :
      (ReplicaOp.localEvent (sampleGathered originIdx eventId)).Timely sampleProcess
        (fun _ _ => "2026-01-01 00:00:00+00:00") := by
    intro idx nodeId when_ info hbody
    cases hbody
    rfl
  exact replication_runs sampleProcess id _ sampleSession sampleSession _ rfl
    ⟨htimely 0 "e", htimely 1 "f", trivial, trivial, trivial, trivial, trivial, trivial⟩

/-- Five seconds later the worker has another time for itself than the master. -/
theorem replication_stale :
    ¬Machine.Always (Replica.step sampleProcess id (fun _ _ => "2026-01-01 00:00:05+00:00"))
      Replica.Replicated sampleReplicaOps (Replica.start sampleSession sampleSession) := by
  intro halways
  have hlast : (Machine.run (Replica.step sampleProcess id fun _ _ => "2026-01-01 00:00:05+00:00")
    sampleReplicaOps (Replica.start sampleSession sampleSession)).Replicated := halways.2.2.2
  unfold Replica.Replicated at hlast
  revert hlast
  decide

end CaiNetwork.Cluster
