/-
CaiNetwork/Events/Incarnations.lean

Many masters: what a router releases while nodes are elected, demoted, restarted and promoted
again.

Every `Master` is an incarnation with a log of its own.  A router tells logs apart by the node
alone (`EventRouter.accepts`): a late message of one incarnation fills an index of the next, whose
own event is then dropped (`incarnations_mixed`).  Where sessions are never used twice and a router
takes in messages of its own session only, it releases a prefix of the log of one incarnation
(`incarnations_apart`).
-/

import CaiNetwork.Events.Replication

namespace CaiNetwork.Cluster

open List

/-! ### Histories -/

/-- A router, with the events it took in and dropped because their index was used. -/
structure RouterLog where
  router : EventRouter
  dropped : List (ℕ × Event) := []
deriving DecidableEq

/-- `EventRouter.receive`, with what it drops. -/
def RouterLog.receive (l : RouterLog) (message : GlobalForwarderEvent) : RouterLog where
  router := l.router.receive message
  dropped :=
    if l.router.accepts message ∧ message.originIdx < l.router.buf.nextIdxToRelease then
      l.dropped ++ [(message.originIdx, message.event)]
    else l.dropped

/-- All masters that were ever started, and all routers. -/
structure Network where
  masters : List Master := []
  routers : List RouterLog := []
deriving DecidableEq

/-- What happens: a node is promoted or boots as master under a session, a master stops, a
local event reaches a master, a part of its log is asked for, a node creates a router for a
session, or a message that a master broadcast, however long ago, reaches a router. -/
inductive NetworkOp where
  | startMaster (session : SessionId)
  | stopMaster (k : ℕ)
  | localEvent (k : ℕ) (event : LocalForwarderEvent)
  | requestEventLog (k sinceIdx batchSize : ℕ)
  | startRouter (session : SessionId)
  | deliver (k n r : ℕ)
deriving DecidableEq

namespace Network

/-- The `n`-th message of the `k`-th master. -/
def message (w : Network) (k n : ℕ) : Option GlobalForwarderEvent := do
  let m ← w.masters[k]?
  m.outbox[n]?

/-- One operation. -/
def step (process : Process) (clock : Clock) : NetworkOp → Network → Network
  | .startMaster session, w => { w with
      masters := w.masters ++ [{ nodeId := session.masterNodeId, sessionId := session }] }
  | .stopMaster k, w => { w with
      masters := w.masters.modify k (fun m => { m with
        crashed := true }) }
  | .localEvent k event, w => { w with
      masters := w.masters.modify k (fun m => m.receive process clock event) }
  | .requestEventLog k sinceIdx batchSize, w => { w with
      masters := w.masters.modify k (fun m => m.requestEventLog sinceIdx batchSize) }
  | .startRouter session, w => { w with
      routers := w.routers ++ [{ router := { sessionId := session } }] }
  | .deliver k n r, w =>
    match w.message k n with
    | none => w
    | some message => { w with
        routers := w.routers.modify r (fun l => l.receive message) }

/-- What is asked of a router: it runs, has released a prefix of the log of one incarnation,
and has dropped nothing but what it had released. -/
def FollowsOneLog (w : Network) (l : RouterLog) : Prop :=
  l.router.crashed = false ∧
    (l.router.released = [] ∨ ∃ m ∈ w.masters, l.router.released.map Prod.snd <+: m.eventLog) ∧
    ∀ entry ∈ l.dropped, entry ∈ l.router.released

/-- Every router follows one log. -/
def LogsApart (w : Network) : Prop := ∀ l ∈ w.routers, w.FollowsOneLog l

/-- The condition on an operation: a master starts under a session that is new, and what a
router takes in carries its own session. -/
def Separated (op : NetworkOp) (w : Network) : Prop :=
  match op with
  | .startMaster session => session ∉ w.masters.map Master.sessionId
  | .deliver k n r => ∀ message, w.message k n = some message → ∀ l, w.routers[r]? = some l →
      l.router.accepts message = true → message.session = l.router.sessionId
  | _ => True

/-! ### The invariant -/

/-- The master of a session sends this event under this index. -/
def Sends (w : Network) (session : SessionId) (i : ℕ) (e : Event) : Prop :=
  ∃ m ∈ w.masters, m.sessionId = session ∧ m.eventLog[i]? = some e

/-- The invariant of a run. -/
structure Inv (w : Network) : Prop where
  nodup : (w.masters.map Master.sessionId).Nodup
  sendsLog : ∀ m ∈ w.masters, m.SendsLog
  follows : ∀ l ∈ w.routers, ∃ received,
    l.router.Follows (w.Sends l.router.sessionId) received
  dropped : ∀ l ∈ w.routers, ∀ entry ∈ l.dropped, entry ∈ l.router.released

variable {w : Network}

/-- One session, one master, one event per index. -/
theorem Inv.sends_unique (h : w.Inv) {session : SessionId} {i : ℕ} {e e' : Event}
    (he : w.Sends session i e) (he' : w.Sends session i e') : e = e' := by
  obtain ⟨m, hm, hsession, hget⟩ := he
  obtain ⟨m', hm', hsession', hget'⟩ := he'
  have hsame : m = m' := inj_on_of_nodup_map h.nodup hm hm' (hsession.trans hsession'.symm)
  subst hsame
  exact Option.some.inj (hget.symm.trans hget')

/-- **One log**: a router that follows the masters of its session has released a prefix of the
log of one of them. -/
theorem Inv.followsOneLog (h : w.Inv) {l : RouterLog} (hl : l ∈ w.routers) : w.FollowsOneLog l := by
  obtain ⟨received, hfollows⟩ := h.follows l hl
  refine ⟨hfollows.alive, ?_, h.dropped l hl⟩
  rcases hreleased : l.router.released with - | ⟨⟨k, e⟩, rest⟩
  · exact .inl rfl
  · right
    have hfirst : l.router.released[0]? = some (k, e) := by rw [hreleased]; rfl
    obtain ⟨m, hm, hsession, -⟩ := (hfollows.sends hfirst).2
    refine ⟨m, hm, ?_⟩
    rw [← hreleased, prefix_iff_getElem?]
    intro i hi
    rw [length_map] at hi
    have hget : l.router.released[i]? = some l.router.released[i] := getElem?_eq_getElem hi
    -- the incarnation that sent the `i`-th event is the one that sent the first
    obtain ⟨m', hm', hsession', hlog⟩ := (hfollows.sends hget).2
    have hsame : m' = m := inj_on_of_nodup_map h.nodup hm' hm (hsession'.trans hsession.symm)
    subst hsame
    rw [getElem_map]
    exact hlog

/-! ### The masters move -/

theorem mem_modify {α : Type} {l : List α} {k : ℕ} {f : α → α} {a : α}
    (h : a ∈ l.modify k f) : a ∈ l ∨ ∃ b ∈ l, a = f b := by
  obtain ⟨i, hi⟩ := mem_iff_getElem?.mp h
  rw [getElem?_modify] at hi
  obtain ⟨b, hget, hb⟩ := Option.map_eq_some_iff.mp hi
  have hmem : b ∈ l := mem_of_getElem? hget
  by_cases hk : k = i
  · rw [if_pos hk] at hb
    exact .inr ⟨b, hmem, hb.symm⟩
  · rw [if_neg hk] at hb
    exact .inl (hb ▸ hmem)

theorem exists_mem_modify {α : Type} {l : List α} {k : ℕ} {f : α → α} {a : α} (h : a ∈ l) :
    ∃ b ∈ l.modify k f, b = a ∨ b = f a := by
  obtain ⟨i, hi⟩ := mem_iff_getElem?.mp h
  refine ⟨if k = i then f a else a, ?_, ?_⟩
  · apply mem_of_getElem? (i := i)
    rw [getElem?_modify, hi]
    by_cases hk : k = i
    · simp [hk]
    · simp [hk]
  · by_cases hk : k = i
    · exact .inr (if_pos hk)
    · exact .inl (if_neg hk)

/-- What the masters of a session send does not change when masters are added or go on. -/
theorem Inv.mono (h : w.Inv) {masters : List Master}
    (hnodup : (masters.map Master.sessionId).Nodup) (hsends : ∀ m ∈ masters, m.SendsLog)
    (hextends : ∀ m ∈ w.masters, ∃ m' ∈ masters, m.Extends m') : ({ w with
      masters } : Network).Inv where
  nodup := hnodup
  sendsLog := hsends
  follows l hl := by
    obtain ⟨received, hfollows⟩ := h.follows l hl
    refine ⟨received, hfollows.mono ?_⟩
    rintro i e ⟨m, hm, hsession, hget⟩
    obtain ⟨m', hm', hext⟩ := hextends m hm
    exact ⟨m', hm', hext.sessionId_eq.trans hsession, getElem?_extended hext.eventLog hget⟩
  dropped := h.dropped

/-- One master goes on, under its session and with a longer log. -/
theorem Inv.modifyMaster (h : w.Inv) {k : ℕ} {f : Master → Master}
    (hf : ∀ m : Master, m.SendsLog → (f m).SendsLog ∧ m.Extends (f m)) : ({ w with
      masters := w.masters.modify k f } : Network).Inv := by
  apply h.mono
  · have hsame : (w.masters.modify k f).map Master.sessionId = w.masters.map Master.sessionId := by
      apply ext_getElem?
      intro i
      rw [getElem?_map, getElem?_map, getElem?_modify, Option.map_eq_map, Option.map_map]
      apply Option.map_congr
      intro m hm
      have hext := (hf m (h.sendsLog m (mem_of_getElem? hm))).2
      by_cases hk : k = i
      · simp [hk, hext.sessionId_eq]
      · simp [hk]
    rw [hsame]
    exact h.nodup
  · intro m hm
    rcases mem_modify hm with hold | ⟨m', hm', rfl⟩
    · exact h.sendsLog m hold
    · exact (hf m' (h.sendsLog m' hm')).1
  · intro m hm
    obtain ⟨m', hm', rfl | rfl⟩ := exists_mem_modify (k := k) (f := f) hm
    · exact ⟨m', hm', Master.Extends.refl m'⟩
    · exact ⟨f m, hm', (hf m (h.sendsLog m hm)).2⟩

theorem Inv.startMaster (h : w.Inv) {session : SessionId}
    (hnew : session ∉ w.masters.map Master.sessionId) : ({ w with
      masters := w.masters ++ [{ nodeId := session.masterNodeId, sessionId := session }] } :
        Network).Inv := by
  apply h.mono
  · rw [map_append, nodup_append]
    refine ⟨h.nodup, nodup_singleton _, ?_⟩
    rintro s hs s' hs' rfl
    have hsession : s = session := mem_singleton.mp hs'
    exact hnew (hsession ▸ hs)
  · intro m hm
    rcases mem_append.mp hm with hold | hfresh
    · exact h.sendsLog m hold
    · rw [mem_singleton.mp hfresh]
      exact forall_mem_nil _
  · intro m hm
    exact ⟨m, mem_append_left _ hm, Master.Extends.refl m⟩

/-! ### The routers move -/

theorem Inv.startRouter (h : w.Inv) {session : SessionId} : ({ w with
      routers := w.routers ++ [{ router := { sessionId := session } }] } : Network).Inv where
  nodup := h.nodup
  sendsLog := h.sendsLog
  follows l hl := by
    rcases mem_append.mp hl with hold | hnew
    · exact h.follows l hold
    · rw [mem_singleton.mp hnew]
      exact ⟨_, EventRouter.Follows.start _ session⟩
  dropped l hl := by
    rcases mem_append.mp hl with hold | hnew
    · exact h.dropped l hold
    · rw [mem_singleton.mp hnew]
      exact forall_mem_nil _

theorem released_receive_extends (r : EventRouter) (message : GlobalForwarderEvent) :
    r.released <+: (r.receive message).released := by
  unfold EventRouter.receive
  split
  next => exact prefix_rfl
  split
  next => exact prefix_rfl
  next => exact prefix_append _ _

/-- A router that receives a message of its session goes on following it, and drops only what
it has released. -/
theorem Inv.receive (h : w.Inv) {l : RouterLog} (hl : l ∈ w.routers)
    {message : GlobalForwarderEvent} (hsent : l.router.accepts message = true →
      w.Sends l.router.sessionId message.originIdx message.event) :
    (∃ received, (l.receive message).router.Follows
        (w.Sends (l.receive message).router.sessionId) received) ∧
      ∀ entry ∈ (l.receive message).dropped, entry ∈ (l.receive message).router.released := by
  obtain ⟨received, hfollows⟩ := h.follows l hl
  have hreleased := released_receive_extends l.router message
  constructor
  · rw [RouterLog.receive, EventRouter.receive_sessionId]
    exact ⟨_, hfollows.receive h.sends_unique hsent⟩
  · intro entry hentry
    rw [RouterLog.receive] at hentry
    split at hentry
    next hdrop =>
      rcases mem_append.mp hentry with hold | hnew
      · exact hreleased.subset (h.dropped l hl entry hold)
      · rw [mem_singleton.mp hnew]
        -- the index was used by the same event of the same log
        have hget := hfollows.resequences.released_of_lt h.sends_unique (hsent hdrop.1) hdrop.2
        rw [getElem?_map] at hget
        obtain ⟨⟨k, e⟩, hentry', he⟩ := Option.map_eq_some_iff.mp hget
        obtain ⟨rfl, -⟩ := hfollows.sends hentry'
        cases he
        exact hreleased.subset (mem_of_getElem? hentry')
    next => exact hreleased.subset (h.dropped l hl entry hentry)

theorem Inv.deliver (h : w.Inv) {k n r : ℕ} {message : GlobalForwarderEvent}
    (hmessage : w.message k n = some message)
    (hsession : ∀ l, w.routers[r]? = some l → l.router.accepts message = true →
      message.session = l.router.sessionId) :
    ({ w with
      routers := w.routers.modify r (fun l => l.receive message) } : Network).Inv := by
  obtain ⟨m, hm, hn⟩ := Option.bind_eq_some_iff.mp hmessage
  have hmem : m ∈ w.masters := mem_of_getElem? hm
  obtain ⟨hlogged, hunder⟩ := h.sendsLog m hmem message (mem_of_getElem? hn)
  have hkeeps : ∀ l' ∈ w.routers.modify r (fun l => l.receive message),
      (∃ received, l'.router.Follows (w.Sends l'.router.sessionId) received) ∧
        ∀ entry ∈ l'.dropped, entry ∈ l'.router.released := by
    intro l' hl'
    obtain ⟨i, hi⟩ := mem_iff_getElem?.mp hl'
    rw [getElem?_modify] at hi
    obtain ⟨l, hl, rfl⟩ := Option.map_eq_some_iff.mp hi
    have hold : l ∈ w.routers := mem_of_getElem? hl
    by_cases hr : r = i
    · subst hr
      rw [if_pos rfl]
      apply h.receive hold
      intro haccepts
      exact ⟨m, hmem, hunder.symm.trans (hsession l hl haccepts), hlogged⟩
    · rw [if_neg hr]
      exact ⟨h.follows l hold, h.dropped l hold⟩
  exact
    { nodup := h.nodup
      sendsLog := h.sendsLog
      follows := fun l' hl' => (hkeeps l' hl').1
      dropped := fun l' hl' => (hkeeps l' hl').2 }

/-! ### Runs -/

theorem Inv.step (process : Process) (clock : Clock) (op : NetworkOp) (w : Network) (h : w.Inv)
    (hop : w.Separated op) : (Network.step process clock op w).Inv := by
  cases op with
  | startMaster session => exact h.startMaster hop
  | stopMaster k =>
    exact h.modifyMaster fun m hm => ⟨hm, rfl, prefix_rfl, prefix_rfl⟩
  | localEvent k event => exact h.modifyMaster fun m hm => hm.receive event
  | requestEventLog k sinceIdx batchSize =>
    exact h.modifyMaster fun m hm =>
      ⟨hm.requestEventLog sinceIdx batchSize, rfl, prefix_rfl, prefix_rfl⟩
  | startRouter session => exact h.startRouter
  | deliver k n r =>
    rw [Network.step]
    rcases hmessage : w.message k n with - | message
    · exact h
    · exact h.deliver hmessage (hop message hmessage)

end Network

/-- **Logs apart**: in every history in which masters start under sessions that are new and
routers take in messages of their own session only, whatever the order and repetition of the
deliveries, every router releases a prefix of the log of one incarnation and suppresses
nothing else. -/
theorem incarnations_apart (process : Process) (clock : Clock) (ops : List NetworkOp)
    (hops : Machine.Meets (Network.step process clock) Network.Separated ops {}) :
    Machine.Always (Network.step process clock) Network.LogsApart ops {} := by
  have hstart : ({} : Network).Inv :=
    ⟨nodup_nil, forall_mem_nil _, forall_mem_nil _, forall_mem_nil _⟩
  exact (Machine.always_of_invariant (Network.Inv.step process clock) hops hstart).imp
    fun _ hinv l hl => hinv.followsOneLog hl

/-! ### A node that is promoted twice -/

/-- A local event of the node `m`, for its master of the given session. -/
def sampleLocal (electionClock : Int) (originIdx : ℕ) (eventId : String) :
    LocalForwarderEvent where
  originIdx
  origin := "s"
  session := { masterNodeId := "m", electionClock }
  event := { eventId, body := .testEvent }

/-- `m` is master, is demoted, and is promoted again; another node has created its router for
the second session. -/
def samplePromotions : List NetworkOp :=
  [.startMaster { masterNodeId := "m", electionClock := 1 }, .localEvent 0 (sampleLocal 1 0 "a0"),
    .stopMaster 0, .startMaster { masterNodeId := "m", electionClock := 3 },
    .startRouter { masterNodeId := "m", electionClock := 3 },
    .localEvent 1 (sampleLocal 3 0 "b0"), .localEvent 1 (sampleLocal 3 1 "b1")]

/-- The state after the promotions. -/
def samplePromoted : Network :=
  Machine.run (Network.step sampleProcess fun _ _ => "") samplePromotions {}

theorem incarnations_apart_promoted : samplePromotions.length = 7 ∧
      Machine.Always (Network.step sampleProcess fun _ _ => "") Network.LogsApart
        (samplePromotions ++ [.deliver 1 0 0]) {} := by
  refine ⟨rfl, incarnations_apart sampleProcess _ _ ?_⟩
  refine ⟨not_mem_nil, trivial, trivial, ?_, trivial, trivial, trivial, ?_, trivial⟩
  · show _ ∉ _
    decide
  · intro message hmessage l hl _
    have hsent : (samplePromoted.message 1 0).map (·.session) =
        some { masterNodeId := "m", electionClock := 3 } := by decide
    have hrouter : samplePromoted.routers[0]?.map (·.router.sessionId) =
        some { masterNodeId := "m", electionClock := 3 } := by decide
    have hmessage' : samplePromoted.message 1 0 = some message := hmessage
    have hl' : samplePromoted.routers[0]? = some l := hl
    rw [hmessage', Option.map_some] at hsent
    rw [hl', Option.map_some] at hrouter
    exact (Option.some.inj hsent).trans (Option.some.inj hrouter).symm

/-- The late message of the first incarnation takes the place of the first event of the second,
which is suppressed; the second event of the second incarnation follows it. -/
theorem incarnations_mixed :
    ¬Machine.Always (Network.step sampleProcess fun _ _ => "") Network.LogsApart
      (samplePromotions ++ [.deliver 0 0 0, .deliver 1 0 0, .deliver 1 1 0]) {} := by
  intro halways
  have hlast : (Machine.run (Network.step sampleProcess fun _ _ => "")
      [.deliver 0 0 0, .deliver 1 0 0, .deliver 1 1 0] samplePromoted).LogsApart :=
    halways.2.2.2.2.2.2.2.2.2.2
  unfold Network.LogsApart Network.FollowsOneLog at hlast
  revert hlast
  decide

end CaiNetwork.Cluster
