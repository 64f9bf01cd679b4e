/-
CaiNetwork/Transport/Frames.lean

The metadata of tensor frames that batches carry (`validate_cai_owned_transport_frame_metadata` and
`validate_cai_owned_llm_handoff_metadata`).

A check passes, refuses with a message, or raises what it does not catch (`Refusal`).  The two
checks and the two ranges of each share their parts: `checkRange`, `checkDimensions`,
`checkObjects`, `checkHashes`.
-/

import CaiNetwork.PeerPayload

namespace CaiNetwork.Transport

open Json (getD)

/-! ### Checks -/

/-- Why a check does not pass. -/
inductive Refusal
  | refused (message : String)
  | raised (error : PyError)
deriving DecidableEq

def isNull : Json → Bool
  | .null => true
  | _ => false

/-- `return False, message` under the condition. -/
def refuseIf (p : Prop) [Decidable p] (message : String) : Except Refusal Unit :=
  if p then .error (.refused message) else .ok ⟨⟩

/-- `except ValueError as exc: return False, str(exc)`. -/
def refuseValueError {α : Type} : Except PyError α → Except Refusal α
  | .ok a => .ok a
  | .error (.valueError message) => .error (.refused message)
  | .error e => .error (.raised e)

theorem refuseIf_ok {p : Prop} [Decidable p] {message : String} {u : Unit} :
    refuseIf p message = .ok u ↔ ¬p := raiseUnless_eq_ok

theorem refuseValueError_ok {α : Type} {x : Except PyError α} {a : α} :
    refuseValueError x = .ok a ↔ x = .ok a := by
  unfold refuseValueError
  split
  · simp
  · simp
  · simp

section Values

variable (host : Host)

/-- `int(v or 0)` under `except (TypeError, ValueError): return False, message`. -/
def intOrZero (v : Json) (message : String) : Except Refusal Int :=
  match tryInt host (v.pyOr (.int 0)) with
  | .ok (some n) => .ok n
  | .ok none => .error (.refused message)
  | .error e => .error (.raised e)

/-- `optional_int`; an `OverflowError` is not caught. -/
def optionalInt (v : Json) : Except PyError (Option Int) :=
  match v with
  | .null => .ok none
  | v => tryInt host v

/-- `normalize_sha256_hex`. -/
def normalizeSha256Hex (v : Json) (fieldName : String) : Except PyError String :=
  let clean := host.lower (strip (host.strOrEmpty v))
  if clean.toList.length = 64 ∧ clean.toList.all (· ∈ Sha256.hexAlphabet) then .ok clean
  else .error (.valueError s!"CAI-owned transport {fieldName} must be sha256 hex.")

/-- The text is not empty and ASCII. -/
def isAsciiText (text : String) : Bool := text ≠ "" && text.toList.all (·.toNat < 128)

/-- A pair of optional bounds: integers, not negative, in order. -/
def checkRange (kvs : Fields) (startField endField message : String) :
    Except Refusal (Option Int × Option Int) := do
  let start ← (optionalInt host (getD kvs startField)).mapError .raised
  let stop ← (optionalInt host (getD kvs endField)).mapError .raised
  refuseIf (isNull (getD kvs startField) = false ∧ start = none) message
  refuseIf (isNull (getD kvs endField) = false ∧ stop = none) message
  refuseIf (start.any (· < 0) = true) message
  refuseIf (stop.any (· < 0) = true) message
  refuseIf (start.any (fun s => stop.any (· < s)) = true) message
  return (start, stop)

/-- The dimensions of a shape: integers, none below the bound. -/
def checkDimensions (least : Int) (message : String) : List Json → Except Refusal Unit
  | [] => .ok ⟨⟩
  | item :: items =>
    match tryInt host item with
    | .ok (some n) =>
      if n < least then .error (.refused message) else checkDimensions least message items
    | .ok none => .error (.refused message)
    | .error e => .error (.raised e)

/-- Optional hashes. -/
def checkHashes (kvs : Fields) : List String → Except Refusal Unit
  | [] => .ok ⟨⟩
  | field :: fields => do
    if isNull (getD kvs field) = false then
      let _ ← refuseValueError (normalizeSha256Hex host (getD kvs field) field)
    checkHashes kvs fields

/-- Optional objects. -/
def checkObjects (kvs : Fields) (label : String) : List String → Except Refusal Unit
  | [] => .ok ⟨⟩
  | field :: fields =>
    match getD kvs field with
    | .null | .obj _ => checkObjects kvs label fields
    | _ => .error (.refused s!"{label} {field} is invalid.")

/-! ### Handoffs -/

/-- `CAI_OWNED_LLM_HANDOFF_ABI`. -/
def llmHandoffAbi : String := "cai-llm-shard-handoff-v1"

/-- `CAI_OWNED_LLM_HANDOFF_TENSOR_ENCODINGS`. -/
def llmHandoffTensorEncodings : List String :=
  ["raw-le", "ggml-tensor-v1", "safetensors-fragment-v1"]

/-- A range of a handoff, which has to agree with the frame's where both are given. -/
def checkHandoffRange (handoff frame : Fields) (startField endField label : String) :
    Except Refusal Unit := do
  let (start, stop) ← checkRange host handoff startField endField
    s!"CAI-owned LLM handoff {label} is invalid."
  let frameStart ← (optionalInt host (getD frame startField)).mapError .raised
  let frameStop ← (optionalInt host (getD frame endField)).mapError .raised
  refuseIf (frameStart.any (fun f => start.any (· ≠ f)) = true)
    s!"CAI-owned LLM handoff {label} does not match frame."
  refuseIf (frameStop.any (fun f => stop.any (· ≠ f)) = true)
    s!"CAI-owned LLM handoff {label} does not match frame."

/-- The tensor of a handoff. -/
def checkHandoffTensor (tensor frame : Fields) : Except Refusal Unit := do
  refuseIf (isAsciiText (fieldText host tensor "dtype") = false)
    "CAI-owned LLM handoff tensor dtype is invalid."
  refuseIf (fieldText host tensor "encoding" ∉ llmHandoffTensorEncodings)
    "CAI-owned LLM handoff tensor encoding is unsupported."
  match getD tensor "shape" with
  | .arr (item :: items) =>
    checkDimensions host 1 "CAI-owned LLM handoff tensor shape is invalid." (item :: items)
  | _ => .error (.refused "CAI-owned LLM handoff tensor shape is invalid.")
  if isNull (getD tensor "sha256Hex") = false then
    let hash ← refuseValueError
      (normalizeSha256Hex host (getD tensor "sha256Hex") "tensor.sha256Hex")
    let framePayloadHash := host.lower (fieldText host frame "payloadSha256Hex")
    refuseIf (framePayloadHash ≠ "" ∧ hash ≠ framePayloadHash)
      "CAI-owned LLM handoff tensor hash does not match frame payload."

/-- `validate_cai_owned_llm_handoff_metadata`, for a frame and its model. -/
def validateLlmHandoffMetadata (frame : Fields) (expectedModelId : String)
    (handoff : Json) : Except Refusal Unit :=
  match handoff with
  | .obj kvs => do
    let version ← intOrZero host (getD kvs "schemaVersion")
      "CAI-owned LLM handoff schema is invalid."
    refuseIf (version ≠ 1) "CAI-owned LLM handoff schema is unsupported."
    refuseIf (fieldText host kvs "abi" ≠ llmHandoffAbi) "CAI-owned LLM handoff ABI is unsupported."
    refuseIf (isAsciiText (fieldText host kvs "backend") = false)
      "CAI-owned LLM handoff backend is invalid."
    refuseIf ((getD kvs "requiresPatchedBackend").truthy = false)
      "CAI-owned LLM handoff must require a patched backend."
    let model := fieldText host kvs "modelId"
    refuseIf (model = "") "CAI-owned LLM handoff model id is missing."
    refuseIf (strip expectedModelId ≠ "" ∧ model ≠ strip expectedModelId)
      "CAI-owned LLM handoff model id does not match."
    checkHashes host kvs ["modelSha256Hex", "tokenizerConfigHash"]
    checkHandoffRange host kvs frame "layerStart" "layerEnd" "layer range"
    checkHandoffRange host kvs frame "tokenStart" "tokenEnd" "token window"
    match getD kvs "tensor" with
    | .obj tensor => checkHandoffTensor host tensor frame
    | _ => .error (.refused "CAI-owned LLM handoff tensor is missing.")
    checkObjects kvs "CAI-owned LLM handoff" ["kvCache", "decodeState", "extraMetadata"]
  | _ => .error (.refused "CAI-owned LLM handoff metadata is missing.")

/-! ### Frames -/

/-- `CAI_OWNED_TRANSPORT_FRAME_KINDS`. -/
def frameKinds : List String := ["activation", "decode", "kv_cache", "logits", "bytes_test"]

/-- The optional type and shape of a frame. -/
def checkFrameShape (kvs : Fields) : Except Refusal Unit := do
  refuseIf (isNull (getD kvs "dtype") = false ∧
    isAsciiText (fieldText host kvs "dtype") = false) "CAI-owned transport frame dtype is invalid."
  match getD kvs "shape" with
  | .null => .ok ⟨⟩
  | .arr items => checkDimensions host 0 "CAI-owned transport frame shape is invalid." items
  | _ => .error (.refused "CAI-owned transport frame shape is invalid.")

/-- `validate_cai_owned_transport_frame_metadata`. -/
def validateFrameMetadata (expectedModelId : Option String) (requireLlmHandoff : Bool)
    (kvs : Fields) : Except Refusal Unit := do
  let version ← intOrZero host (getD kvs "frameSchemaVersion")
    "CAI-owned transport frame schema is invalid."
  refuseIf (version ≠ 1) "CAI-owned transport frame schema is unsupported."
  refuseIf (fieldText host kvs "frameKind" ∉ frameKinds)
    "CAI-owned transport frame kind is unsupported."
  let model := fieldText host kvs "modelId"
  refuseIf (model = "") "CAI-owned transport frame model id is missing."
  let expected := strip (expectedModelId.getD "")
  refuseIf (expected ≠ "" ∧ model ≠ expected) "CAI-owned transport frame model id does not match."
  checkHashes host kvs ["tokenizerConfigHash", "payloadSha256Hex"]
  let _ ← checkRange host kvs "layerStart" "layerEnd"
    "CAI-owned transport frame layer range is invalid."
  let _ ← checkRange host kvs "tokenStart" "tokenEnd"
    "CAI-owned transport frame token window is invalid."
  checkFrameShape host kvs
  checkObjects kvs "CAI-owned transport frame"
    ["kvCacheMetadata", "activationMetadata", "extraMetadata"]
  if isNull (getD kvs "llmHandoff") = false ∨ requireLlmHandoff then
    validateLlmHandoffMetadata host kvs model (getD kvs "llmHandoff")

end Values

end CaiNetwork.Transport
