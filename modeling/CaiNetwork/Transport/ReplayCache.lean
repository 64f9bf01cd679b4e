/-
CaiNetwork/Transport/ReplayCache.lean

The cache of signed payloads that were seen (`cai_owned_transport_storage.py`).

An entry is kept under the hash of the payload's body and of three texts of its signature record,
until its time of expiry (`mem_cleanup`, `mem_recordPayloadReplay`).  The hashed text is
`json.dumps` with its default escapes; `canonical` is the text without them, in bytes.
-/

import CaiNetwork.Action
import CaiNetwork.PeerPayload

namespace CaiNetwork

open List

/-! ### ASCII text -/

namespace Json

/-- `\uXXXX`. -/
def unicodeEscape (n : Nat) : List Char :=
  ['\\', 'u', Sha256.hexDigit (n / 4096 % 16), Sha256.hexDigit (n / 256 % 16),
    Sha256.hexDigit (n / 16 % 16), Sha256.hexDigit (n % 16)]

/-- A code point; those above the sixteen-bit range are a pair of surrogates. -/
def escapeCodePoint (n : Nat) : List Char :=
  if n < 0x10000 then unicodeEscape n
  else unicodeEscape (0xd800 + (n - 0x10000) / 0x400) ++
    unicodeEscape (0xdc00 + (n - 0x10000) % 0x400)

/-- Escapes what is not printable ASCII in a text of UTF-8 bytes; `pending` bytes of the code point
`code` are still to come. -/
def escapeNonAscii : List Char → (pending code : Nat) → List Char
  | [], _, _ => []
  | c :: cs, 0, _ =>
    if c.toNat < 0x7f then c :: escapeNonAscii cs 0 0
    else if c.toNat = 0x7f then unicodeEscape 0x7f ++ escapeNonAscii cs 0 0
    else if c.toNat < 0xe0 then escapeNonAscii cs 1 (c.toNat % 0x20)
    else if c.toNat < 0xf0 then escapeNonAscii cs 2 (c.toNat % 0x10)
    else escapeNonAscii cs 3 (c.toNat % 8)
  | c :: cs, 1, code => escapeCodePoint (code * 64 + c.toNat % 64) ++ escapeNonAscii cs 0 0
  | c :: cs, pending + 2, code => escapeNonAscii cs (pending + 1) (code * 64 + c.toNat % 64)

/-- `json.dumps(v, sort_keys=True, separators=(",", ":"))`. -/
def dumps (v : Json) : List Char := escapeNonAscii (canonical v) 0 0

example : dumps (.str "aé😀") = "\"a\\u00e9\\ud83d\\ude00\"".toList := by decide

theorem escapeNonAscii_append {cs : List Char} (ds : List Char) (h : ∀ c ∈ cs, c.toNat < 0x7f) :
    escapeNonAscii (cs ++ ds) 0 0 = cs ++ escapeNonAscii ds 0 0 := by
  induction cs with
  | nil => rfl
  | cons c cs ih =>
    rw [cons_append, escapeNonAscii, if_pos (h c mem_cons_self),
      ih fun d hd => h d (mem_cons_of_mem c hd), cons_append]

end Json

/-- A text of bytes can be read back from them. -/
theorem map_toBytes {cs : List Char} (h : ∀ c ∈ cs, c.toNat < 256) :
    (toBytes cs).map (fun b => Char.ofNat b.toNat) = cs := by
  rw [toBytes, map_map]
  refine (map_congr_left fun c hc => ?_).trans (map_id cs)
  show Char.ofNat (UInt8.ofNat c.toNat).toNat = c
  rw [UInt8.toNat_ofNat', Nat.mod_eq_of_lt (h c hc), Char.ofNat_toNat]

/-! ### Entries -/

/-- An entry of the cache file; a time that is missing or cannot be parsed is `none`. -/
structure ReplayRecord where
  replayKey : String
  seenAt : Option Int
  expiresAt : Option Int
  details : Fields := []

/-- `_cai_owned_transport_replay_record_expired`. -/
def ReplayRecord.expired (record : ReplayRecord) (now retention : Int) : Bool :=
  match record.expiresAt, record.seenAt with
  | some expires, _ => expires ≤ now
  | none, some seen => seen + retention ≤ now
  | none, none => false

/-- `CAI_OWNED_TRANSPORT_REPLAY_CACHE_RETENTION_SECONDS`. -/
def defaultReplayRetention : Int := 24 * 60 * 60 * 1000000

/-- The retention of a call. -/
def replayRetention (retention : Option Int) : Int :=
  match retention with
  | none => defaultReplayRetention
  | some micros => max 0 micros

/-- The entries that have not expired. -/
def unexpired (cache : List ReplayRecord) (now retention : Int) : List ReplayRecord :=
  cache.filter fun record => !record.expired now retention

/-- `cleanup_cai_owned_transport_replay_cache`: the number of dropped entries, and the cache. -/
def cleanupReplayCache (retention : Option Int) (now : Int) (cache : List ReplayRecord) :
    Nat × List ReplayRecord :=
  let kept := unexpired cache now (replayRetention retention)
  (cache.length - kept.length, kept)

/-! ### Keys -/

section Keys

variable (host : Host)

/-- What a key is the hash of. -/
def replayPayload (kvs signature : Fields) : Json :=
  .obj [("body", peerPayloadSigningBody kvs),
    ("signature", .obj [("scheme", Json.getD signature "scheme"),
      ("public_key_b64", .str (fieldText host signature "public_key_b64")),
      ("signature_b64", .str (fieldText host signature "signature_b64"))])]

/-- `cai_owned_transport_payload_replay_key`. -/
def payloadReplayKey (kvs : Fields) : Option String :=
  match Json.getD kvs "signature" with
  | .obj signature =>
    if fieldText host signature "signature_b64" = "" ∨
        fieldText host signature "public_key_b64" = "" then none
    else some (String.ofList (Sha256.hexdigest (toBytes (replayPayload host kvs signature).dumps)))
  | _ => none

/-- `str(v or "").strip() or None`. -/
def textOrNull (text : String) : Json := if text = "" then .null else .str text

/-- The entry of a payload. -/
def replayRecord (payloadName replayKey : String) (kvs : Fields)
    (now retention : Int) : ReplayRecord where
  replayKey := replayKey
  seenAt := some now
  expiresAt := some (now + retention)
  details :=
    [("payloadName", .str payloadName),
      ("signerNodeId", textOrNull (fieldText host kvs "signerNodeId")),
      ("publicKeyAddress", textOrNull
        (host.lower (fieldText host (Json.getD kvs "signature").fields "public_key_address"))),
      ("sessionId", textOrNull (fieldText host kvs "sessionId")),
      ("batchId", textOrNull (fieldText host kvs "batchId")),
      ("createdAt", textOrNull (fieldText host kvs "createdAt"))]

/-- `record_cai_owned_transport_payload_replay`: the error of a payload that is refused. -/
def recordPayloadReplay (payloadName : String) (kvs : Fields)
    (retention : Option Int) (now : Int) : Action (List ReplayRecord) String PUnit := fun cache =>
  match payloadReplayKey host kvs with
  | none => (.error s!"{payloadName} payload signature is required for replay cache", cache)
  | some key =>
    let records := unexpired cache now (replayRetention retention)
    if records.any fun record => record.replayKey = key then
      (.error s!"{payloadName} payload signature replay detected", cache)
    else
      (.ok ⟨⟩, records ++ [replayRecord host payloadName key kvs now (replayRetention retention)])

end Keys

/-! ### Laws -/

section Laws

variable {host : Host} {record : ReplayRecord} {cache : List ReplayRecord} {now : Int}
  {retention : Option Int} {payloadName : String} {kvs : Fields}

theorem mem_unexpired {retention : Int} : record ∈ unexpired cache now retention ↔
      record ∈ cache ∧ record.expired now retention = false := by
  rw [unexpired, mem_filter, Bool.not_eq_true']

/-- An entry with a time of expiry expires then, whatever the retention of the call. -/
theorem ReplayRecord.expired_of_expiresAt {expires : Int} (h : record.expiresAt = some expires)
    (hnow : now < expires) {retention : Int} : record.expired now retention = false := by
  unfold ReplayRecord.expired
  rw [h]
  exact decide_eq_false (not_le.mpr hnow)

/-- **A clean-up keeps what has not expired.** -/
theorem mem_cleanup : record ∈ (cleanupReplayCache retention now cache).2 ↔
      record ∈ cache ∧ record.expired now (replayRetention retention) = false :=
  mem_unexpired

/-- **So does recording a payload.** -/
theorem mem_recordPayloadReplay (hmem : record ∈ cache)
    (hfresh : record.expired now (replayRetention retention) = false) :
    record ∈ (recordPayloadReplay host payloadName kvs retention now cache).2 := by
  unfold recordPayloadReplay
  split
  · exact hmem
  dsimp only
  split
  · exact hmem
  · exact mem_append_left _ (mem_unexpired.mpr ⟨hmem, hfresh⟩)

/-- A payload is recorded only where no entry that has not expired has its key, and then it has an
entry. -/
theorem recordPayloadReplay_ok {u : PUnit}
    (h : (recordPayloadReplay host payloadName kvs retention now cache).1 = .ok u) :
    ∃ key, payloadReplayKey host kvs = some key ∧
      (∀ record ∈ cache, record.expired now (replayRetention retention) = false →
        record.replayKey ≠ key) ∧
      replayRecord host payloadName key kvs now (replayRetention retention) ∈
        (recordPayloadReplay host payloadName kvs retention now cache).2 := by
  unfold recordPayloadReplay at h ⊢
  cases hkey : payloadReplayKey host kvs with
  | none =>
    rw [hkey] at h
    cases h
  | some key =>
    rw [hkey] at h
    dsimp only at h ⊢
    split at h
    · cases h
    · rename_i hnew
      rw [if_neg hnew]
      refine ⟨key, rfl, fun record hmem hfresh hsame => hnew ?_, mem_append_right _ (by simp)⟩
      exact any_eq_true.mpr ⟨record, mem_unexpired.mpr ⟨hmem, hfresh⟩, decide_eq_true hsame⟩

end Laws

end CaiNetwork
