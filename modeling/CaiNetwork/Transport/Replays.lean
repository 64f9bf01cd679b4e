/-
CaiNetwork/Transport/Replays.lean

Checks with a replay cache, one after the other, and clean-ups between them.

The key of an entry is computed from the texts of the signature record, the verification from the
bytes they decode to, and one signature has many texts (`replay_reencoded`).  Where every payload
carries the texts that encoding gives, the key is a function of the body and the bytes
(`payloadReplayKey_eq`), and no payload is accepted again before its entry expires
(`replays_refused`).
-/

import CaiNetwork.Base64
import CaiNetwork.Machine
import CaiNetwork.Transport.Signatures

namespace CaiNetwork

open List

/-! ### Base64 text -/

/-- The text is the one that encoding gives for what it decodes to. -/
def CanonicalBase64 (text : String) : Prop :=
  (decodeBytes text).map encodeBytes = some text

instance (text : String) : Decidable (CanonicalBase64 text) :=
  inferInstanceAs (Decidable (_ = _))

/-- Such a text is determined by what it decodes to. -/
theorem CanonicalBase64.eq {s t : String} (hs : CanonicalBase64 s) (ht : CanonicalBase64 t)
    (h : decodeBytes s = decodeBytes t) : s = t := by
  unfold CanonicalBase64 at hs ht
  rw [h, ht] at hs
  exact (Option.some.inj hs).symm

/-! ### Payloads with the same signature -/

section Payloads

variable (host : Host)

/-- The text of a field of a payload's signature. -/
def signatureText (kvs : Fields) (key : String) : String :=
  fieldText host (Json.getD kvs "signature").fields key

/-- The second payload has the body of the first and is signed by the same signature under the same
key, in whatever texts. -/
structure Reencodes (p q : Fields) : Prop where
  body : (peerPayloadSigningBody p).canonical = (peerPayloadSigningBody q).canonical
  key : decodeBytes (signatureText host p "public_key_b64") =
    decodeBytes (signatureText host q "public_key_b64")
  signature : decodeBytes (signatureText host p "signature_b64") =
    decodeBytes (signatureText host q "signature_b64")

/-- The scheme is the given text, and key and signature are written as encoding writes them. -/
structure CanonicalFields (scheme : String) (kvs : Fields) : Prop where
  scheme : Json.getD (Json.getD kvs "signature").fields "scheme" = .str scheme
  key : CanonicalBase64 (signatureText host kvs "public_key_b64")
  signature : CanonicalBase64 (signatureText host kvs "signature_b64")

variable {host} {p q : Fields}

theorem Reencodes.texts {scheme : String} (h : Reencodes host p q)
    (hp : CanonicalFields host scheme p) (hq : CanonicalFields host scheme q) :
    signatureText host p "public_key_b64" = signatureText host q "public_key_b64" ∧
      signatureText host p "signature_b64" = signatureText host q "signature_b64" :=
  ⟨hp.key.eq hq.key h.key, hp.signature.eq hq.signature h.signature⟩

/-- The text of what a key is the hash of depends on the body only through its canonical text. -/
theorem dumps_replayPayload {signature signature' : Fields}
    (hbody : (peerPayloadSigningBody p).canonical = (peerPayloadSigningBody q).canonical)
    (hscheme : Json.getD signature "scheme" = Json.getD signature' "scheme")
    (hkey : fieldText host signature "public_key_b64" = fieldText host signature' "public_key_b64")
    (hsignature : fieldText host signature "signature_b64" =
      fieldText host signature' "signature_b64") :
    (replayPayload host p signature).dumps = (replayPayload host q signature').dumps := by
  have hsorted := Json.canonical_injective hbody
  unfold Json.dumps Json.canonical replayPayload
  rw [hscheme, hkey, hsignature]
  simp only [Json.sortKeys, Json.sortFields, hsorted]

/-- **The key of a payload with canonical fields is determined by body, key and signature.** -/
theorem payloadReplayKey_eq {scheme key : String} (h : Reencodes host p q)
    (hp : CanonicalFields host scheme p) (hq : CanonicalFields host scheme q)
    (hkey : payloadReplayKey host p = some key) : payloadReplayKey host q = some key := by
  obtain ⟨htext, hsigned⟩ := h.texts hp hq
  have hscheme := hp.scheme.trans hq.scheme.symm
  unfold payloadReplayKey at hkey ⊢
  unfold signatureText at htext hsigned
  cases hsp : Json.getD p "signature" with
  | obj signature =>
    rw [hsp] at hkey htext hsigned hscheme
    cases hsq : Json.getD q "signature" with
    | obj signature' =>
      rw [hsq] at htext hsigned hscheme
      change Json.getD signature "scheme" = Json.getD signature' "scheme" at hscheme
      change fieldText host signature "public_key_b64" = fieldText host signature' "public_key_b64"
        at htext
      change fieldText host signature "signature_b64" = fieldText host signature' "signature_b64"
        at hsigned
      dsimp only at hkey ⊢
      rw [← htext, ← hsigned, ← dumps_replayPayload h.body hscheme htext hsigned]
      exact hkey
    | _ =>
      -- without a signature record there is no scheme
      have hnone := hq.scheme
      rw [hsq] at hnone
      cases hnone
  | _ =>
    rw [hsp] at hkey
    cases hkey

end Payloads

/-! ### Runs -/

/-- A payload that was accepted, and when its entry expires. -/
structure AcceptedPayload where
  kvs : Fields
  expiresAt : Int

/-- The cache, the clock and, as a history variable, what was accepted. -/
structure ReplayState where
  cache : List ReplayRecord
  clock : Int
  accepted : List AcceptedPayload

/-- A check with the replay cache on, or a clean-up, after some time. -/
inductive ReplayOp
  | validate (check : SignatureCheck) (payload : Json) (retention : Option Int) (elapsed : Nat)
  | cleanup (retention : Option Int) (elapsed : Nat)

namespace ReplayOp

def elapsed : ReplayOp → Nat
  | validate _ _ _ elapsed | cleanup _ elapsed => elapsed

def retention : ReplayOp → Option Int
  | validate _ _ retention _ | cleanup retention _ => retention

/-- Payloads are presented in canonical texts, all under one scheme. -/
def Canonical (host : Host) (scheme : String) : ReplayOp → Prop
  | validate _ payload _ _ => CanonicalFields host scheme payload.fields
  | cleanup _ _ => True

variable (host : Host) (policy : WalletPolicy)

/-- The outcome of a check, and the cache after the operation. -/
def apply (op : ReplayOp) (s : ReplayState) : Except String PUnit × List ReplayRecord :=
  let now := s.clock + op.elapsed
  match op with
  | validate check payload retention _ =>
    validatePayloadSignature host policy check true retention now payload s.cache
  | cleanup retention _ => (.ok ⟨⟩, (cleanupReplayCache retention now s.cache).2)

/-- What the operation accepts. -/
def accepts (op : ReplayOp) (s : ReplayState) : List AcceptedPayload :=
  match op, (op.apply host policy s).1 with
  | validate _ payload retention elapsed, .ok _ =>
    [⟨payload.fields, s.clock + elapsed + replayRetention retention⟩]
  | _, _ => []

def step (op : ReplayOp) (s : ReplayState) : ReplayState where
  cache := (op.apply host policy s).2
  clock := s.clock + op.elapsed
  accepted := op.accepts host policy s ++ s.accepted

end ReplayOp

/-- The step accepts no payload with the signature of an accepted one whose entry has not expired,
and it drops no entry that has not expired. -/
def RefusesReplays (host : Host) (policy : WalletPolicy) (op : ReplayOp) (s t : ReplayState) :
    Prop :=
  (∀ earlier ∈ s.accepted, t.clock < earlier.expiresAt →
    ∀ later ∈ op.accepts host policy s, ¬Reencodes host earlier.kvs later.kvs) ∧
    ∀ record ∈ s.cache, record.expired t.clock (replayRetention op.retention) = false →
      record ∈ t.cache

/-- What was accepted has canonical fields and, until it expires, an entry. -/
def ReplayState.Guarded (host : Host) (scheme : String) (s : ReplayState) : Prop :=
  ∀ earlier ∈ s.accepted, CanonicalFields host scheme earlier.kvs ∧
    ∃ key, payloadReplayKey host earlier.kvs = some key ∧
      (s.clock < earlier.expiresAt →
        ∃ record ∈ s.cache, record.expiresAt = some earlier.expiresAt ∧ record.replayKey = key)

section Runs

variable {host : Host} {policy : WalletPolicy} {scheme : String} {s : ReplayState}

theorem mem_validatePayloadSignature {check : SignatureCheck} {retention : Option Int} {now : Int}
    {payload : Json} {cache : List ReplayRecord} {record : ReplayRecord} (hmem : record ∈ cache)
    (hfresh : record.expired now (replayRetention retention) = false) :
    record ∈ (validatePayloadSignature host policy check true retention now payload cache).2 := by
  unfold validatePayloadSignature
  split
  · rename_i kvs
    cases payloadSignatureError host policy check kvs with
    | some error => exact hmem
    | none => exact mem_recordPayloadReplay hmem hfresh
  · exact hmem

/-- No operation drops an entry that has not expired. -/
theorem ReplayOp.mem_apply (op : ReplayOp) {record : ReplayRecord} (hmem : record ∈ s.cache)
    (hfresh : record.expired (s.clock + op.elapsed) (replayRetention op.retention) = false) :
    record ∈ (op.apply host policy s).2 := by
  cases op with
  | validate check payload retention elapsed => exact mem_validatePayloadSignature hmem hfresh
  | cleanup retention elapsed => exact mem_cleanup.mpr ⟨hmem, hfresh⟩

/-- What is accepted was recorded. -/
theorem ReplayOp.recorded_of_accepts {op : ReplayOp} {later : AcceptedPayload}
    (h : later ∈ op.accepts host policy s) :
    ∃ check payload retention elapsed, op = .validate check payload retention elapsed ∧
      later = ⟨payload.fields, s.clock + elapsed + replayRetention retention⟩ ∧
      ∃ u, (recordPayloadReplay host check.payloadName payload.fields retention
        (s.clock + elapsed) s.cache) = (.ok u, (op.apply host policy s).2) := by
  unfold ReplayOp.accepts at h
  split at h
  · rename_i check payload retention elapsed u hok
    refine ⟨check, payload, retention, elapsed, rfl, mem_singleton.mp h, ?_⟩
    change (validatePayloadSignature host policy check true retention (s.clock + elapsed) payload
      s.cache).1 = .ok u at hok
    show ∃ u, recordPayloadReplay host check.payloadName payload.fields retention
      (s.clock + elapsed) s.cache = (.ok u, (validatePayloadSignature host policy check true
        retention (s.clock + elapsed) payload s.cache).2)
    obtain ⟨kvs, rfl, hnone⟩ := payloadSignatureError_of_accepted hok
    have hrecord : validatePayloadSignature host policy check true retention (s.clock + elapsed)
        (.obj kvs) s.cache =
        recordPayloadReplay host check.payloadName kvs retention (s.clock + elapsed) s.cache := by
      unfold validatePayloadSignature
      simp only [hnone, if_true]
    rw [hrecord] at hok ⊢
    exact ⟨u, Prod.ext hok rfl⟩
  · cases h

theorem ReplayState.Guarded.step (h : s.Guarded host scheme) {op : ReplayOp}
    (hop : op.Canonical host scheme) : (op.step host policy s).Guarded host scheme := by
  intro earlier hearlier
  rcases mem_append.mp hearlier with hnew | hold
  · obtain ⟨check, payload, retention, elapsed, rfl, rfl, u, hrecord⟩ :=
      ReplayOp.recorded_of_accepts hnew
    obtain ⟨key, hkey, -, hmem⟩ := recordPayloadReplay_ok (congrArg Prod.fst hrecord)
    rw [congrArg Prod.snd hrecord] at hmem
    exact ⟨hop, key, hkey, fun _ => ⟨_, hmem, rfl, rfl⟩⟩
  · obtain ⟨hcanonical, key, hkey, hentry⟩ := h earlier hold
    refine ⟨hcanonical, key, hkey, fun hclock => ?_⟩
    change s.clock + op.elapsed < earlier.expiresAt at hclock
    obtain ⟨record, hmem, hexpires, hrecord⟩ := hentry (by omega)
    refine ⟨record, ?_, hexpires, hrecord⟩
    exact op.mem_apply hmem (ReplayRecord.expired_of_expiresAt hexpires hclock)

theorem ReplayState.Guarded.refuses (h : s.Guarded host scheme) {op : ReplayOp}
    (hop : op.Canonical host scheme) : RefusesReplays host policy op s (op.step host policy s) := by
  refine ⟨fun earlier hearlier hclock later hlater hsame => ?_, fun record hmem hfresh =>
    op.mem_apply hmem hfresh⟩
  obtain ⟨hcanonical, key, hkey, hentry⟩ := h earlier hearlier
  obtain ⟨check, payload, retention, elapsed, rfl, rfl, u, hrecord⟩ :=
    ReplayOp.recorded_of_accepts hlater
  change s.clock + elapsed < earlier.expiresAt at hclock
  -- the entry of the earlier payload is there and has the key of the later one
  obtain ⟨record, hmem, hexpires, hsameKey⟩ := hentry (by omega)
  obtain ⟨key', hkey', hnew, -⟩ := recordPayloadReplay_ok (congrArg Prod.fst hrecord)
  cases hkey'.symm.trans (payloadReplayKey_eq hsame hcanonical hop hkey)
  exact hnew record hmem (ReplayRecord.expired_of_expiresAt hexpires hclock) hsameKey

end Runs

/-- **Replays are refused where payloads are written canonically.**  In every run of checks with the
replay cache on and of clean-ups, from any cache and at any times: where every payload carries its
key and signature as encoding writes them, under one scheme, no payload with the body, key and
signature of an accepted one is accepted before the entry expires; and no step drops an entry that
has not expired. -/
theorem replays_refused (host : Host) (policy : WalletPolicy) (scheme : String)
    (ops : List ReplayOp) (cache : List ReplayRecord) (clock : Int)
    (hcanonical : ∀ op ∈ ops, op.Canonical host scheme) :
    Machine.EachStep (ReplayOp.step host policy) (RefusesReplays host policy) ops
      ⟨cache, clock, []⟩ := by
  have hstart : ReplayState.Guarded host scheme ⟨cache, clock, []⟩ := by
    intro earlier hearlier
    cases hearlier
  have hstep : ∀ (op : ReplayOp) (s : ReplayState), s.Guarded host scheme →
      op.Canonical host scheme → (op.step host policy s).Guarded host scheme :=
    fun _ _ hs hop => hs.step hop
  exact Machine.eachStep_of_invariant hstep (fun _ _ hs hop => hs.refuses hop)
    (Machine.meets_of_forall hcanonical) hstart

section Sample

/-- A check that asks for a signature. -/
def sampleSigned : SignatureCheck where
  payloadName := "batch"
  requireSignature := some true

theorem replays_refused_canonical :
    Machine.EachStep (ReplayOp.step sampleHost samplePolicy)
      (RefusesReplays sampleHost samplePolicy)
      [.validate sampleSigned (.obj (sampleTransportPayload "AAAA")) none 0,
        .validate sampleSigned (.obj (sampleTransportPayload "AAAA")) none 1, .cleanup none 1]
      ⟨[], 0, []⟩ := by
  have hfields : CanonicalFields sampleHost peerPayloadSignatureSchemeEd25519
      (sampleTransportPayload "AAAA") := ⟨rfl, by decide, by decide⟩
  refine replays_refused sampleHost samplePolicy peerPayloadSignatureSchemeEd25519 _ _ _ ?_
  intro op hop
  simp only [mem_cons, not_mem_nil, or_false] at hop
  rcases hop with rfl | rfl | rfl
  · exact hfields
  · exact hfields
  · trivial

/-- A payload is presented, and then the same payload with a blank in the text of its signature. -/
def sampleReplayOps : List ReplayOp :=
  [.validate sampleSigned (.obj (sampleTransportPayload "AAAA")) none 0,
    .validate sampleSigned (.obj (sampleTransportPayload "AA AA")) none 1]

/-- **A signature written differently is accepted again.** -/
theorem replay_reencoded : ¬Machine.EachStep (ReplayOp.step sampleHost samplePolicy)
      (RefusesReplays sampleHost samplePolicy) sampleReplayOps ⟨[], 0, []⟩ := by
  rintro ⟨-, ⟨hrefuses, -⟩, -⟩
  have hfirst : (ReplayOp.apply sampleHost samplePolicy
      (.validate sampleSigned (.obj (sampleTransportPayload "AAAA")) none 0) ⟨[], 0, []⟩).1 =
        .ok ⟨⟩ := by
    decide +kernel
  have hsecond : (ReplayOp.apply sampleHost samplePolicy
      (.validate sampleSigned (.obj (sampleTransportPayload "AA AA")) none 1)
      (ReplayOp.step sampleHost samplePolicy
        (.validate sampleSigned (.obj (sampleTransportPayload "AAAA")) none 0) ⟨[], 0, []⟩)).1 =
          .ok ⟨⟩ := by
    decide +kernel
  refine hrefuses ⟨sampleTransportPayload "AAAA", 86400000000⟩ ?_ (by decide)
    ⟨sampleTransportPayload "AA AA", 86400000001⟩ ?_ ⟨rfl, by decide, by decide⟩
  · refine mem_append_left _ ?_
    unfold ReplayOp.accepts
    rw [hfirst]
    exact mem_singleton.mpr rfl
  · unfold ReplayOp.accepts
    rw [hsecond]
    exact mem_singleton.mpr rfl

end Sample

end CaiNetwork
