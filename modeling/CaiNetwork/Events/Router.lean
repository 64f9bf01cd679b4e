/-
CaiNetwork/Events/Router.lean

The event router (`event_router.py`): what a node makes of the global events that reach it.

A router belongs to one session.  It takes an event in when the master of the event's session
is the master of its own and the event comes from that master; the clock of the session is not
compared.  `EventRouter.Follows` is the invariant of a router whose source sends `e` as its
`i`-th event when `Sends i e`: what it has released is numbered from zero and resequenced.
-/

import CaiNetwork.Events.Buffer
import CaiNetwork.Events.State

namespace CaiNetwork.Cluster

open List

/-- `SessionId`. -/
structure SessionId where
  masterNodeId : NodeId
  electionClock : Int
deriving DecidableEq

/-- `GlobalForwarderEvent`. -/
structure GlobalForwarderEvent where
  originIdx : ℕ
  origin : NodeId
  session : SessionId
  event : Event
deriving DecidableEq

/-- `LocalForwarderEvent`. -/
structure LocalForwarderEvent where
  originIdx : ℕ
  origin : String
  session : SessionId
  event : Event
deriving DecidableEq

/-- `EventRouter`, with what it has released; `crashed` once an assertion has ended its task. -/
structure EventRouter where
  sessionId : SessionId
  buf : OrderedBuffer Event := {}
  outForDelivery : List (String × LocalForwarderEvent) := []
  released : List (ℕ × Event) := []
  crashed : Bool := false
deriving DecidableEq

namespace EventRouter

/-- The two tests at the head of `_run_ext_in`. -/
def accepts (r : EventRouter) (event : GlobalForwarderEvent) : Bool :=
  event.session.masterNodeId = r.sessionId.masterNodeId &&
    event.origin = r.sessionId.masterNodeId

/-- One round of `_run_ext_in`. -/
def receive (r : EventRouter) (event : GlobalForwarderEvent) : EventRouter :=
  if r.crashed || !r.accepts event then r
  else
    match r.buf.ingest event.originIdx event.event with
    | none => { r with
        crashed := true }
    | some buf =>
      let drained := buf.drainIndexed
      { r with
        buf := drained.2
        outForDelivery := r.outForDelivery.filter (fun entry => entry.1 ≠ event.event.eventId)
        released := r.released ++ drained.1 }

/-- The invariant of a router. -/
structure Follows (Sends : ℕ → Event → Prop) (received : ℕ → Prop) (r : EventRouter) : Prop where
  alive : r.crashed = false
  numbered : r.released.map Prod.fst = List.range r.released.length
  resequences : Resequences Sends received (r.released.map Prod.snd) r.buf

namespace Follows

variable {Sends : ℕ → Event → Prop} {received : ℕ → Prop} {r : EventRouter}

theorem start (Sends : ℕ → Event → Prop) (sessionId : SessionId) :
    Follows Sends (fun _ => False) { sessionId } where
  alive := rfl
  numbered := rfl
  resequences := Resequences.empty

theorem mono (h : r.Follows Sends received) {Sends' : ℕ → Event → Prop}
    (hsends : ∀ {i e}, Sends i e → Sends' i e) : r.Follows Sends' received where
  alive := h.alive
  numbered := h.numbered
  resequences := h.resequences.mono hsends

/-- The events that have been released are the first ones that were sent. -/
theorem sends (h : r.Follows Sends received) {i k : ℕ} {e : Event}
    (hget : r.released[i]? = some (k, e)) : k = i ∧ Sends i e := by
  constructor
  · have hk : (r.released.map Prod.fst)[i]? = some k := by rw [getElem?_map, hget]; rfl
    have hi : i < r.released.length := (List.getElem?_eq_some_iff.mp hget).1
    rw [h.numbered, getElem?_range hi] at hk
    exact (Option.some.inj hk).symm
  · apply h.resequences.released_sent
    rw [getElem?_map, hget]
    rfl

/-- **Taking an event in**: the router goes on following its source. -/
theorem receive (h : r.Follows Sends received)
    (hone : ∀ {i e e'}, Sends i e → Sends i e' → e = e') {event : GlobalForwarderEvent}
    (hsent : r.accepts event = true → Sends event.originIdx event.event) :
    (r.receive event).Follows Sends
      (fun i => received i ∨ (r.accepts event = true ∧ i = event.originIdx)) := by
  unfold EventRouter.receive
  rcases haccepts : r.accepts event with - | -
  · rw [h.alive]
    refine ⟨h.alive, h.numbered, h.resequences.congr_received fun i => ?_⟩
    simp
  · obtain ⟨buf, hbuf, hres⟩ := h.resequences.ingest hone (hsent haccepts)
    simp only [h.alive, hbuf, Bool.not_true, Bool.or_self, Bool.false_eq_true, ite_false]
    refine ⟨rfl, ?_, ?_⟩
    · have hnext : buf.nextIdxToRelease = r.released.length := by
        rw [← hres.length_eq, length_map]
      rw [map_append, h.numbered, OrderedBuffer.drainIndexed,
        OrderedBuffer.map_fst_release, hnext, length_append, range_eq_range', range_eq_range']
      have hsplit := @range'_append_1 0 r.released.length (buf.release buf.store.length).1.length
      rwa [Nat.zero_add] at hsplit
    · rw [map_append]
      apply hres.drain.congr_received
      intro i
      simp

end Follows

theorem receive_sessionId (r : EventRouter) (event : GlobalForwarderEvent) :
    (r.receive event).sessionId = r.sessionId := by
  unfold receive
  split
  · rfl
  · split <;> rfl

end EventRouter

end CaiNetwork.Cluster
