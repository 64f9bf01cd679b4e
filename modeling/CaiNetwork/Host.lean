/-
CaiNetwork/Host.lean

What the modelled programs take from Python and from their process.

Computed here: `str.strip`, truth values, `str(...)` and `int(...)` of JSON values, base64
decoding as `binascii.a2b_base64` does it, hashes of canonical text, and `normalize_address`.
`int(...)` of a text has no limit on the digits.

Left as fields of `Host`: lower-casing, the texts of containers, the truncation of floats, the two
signature schemes, and the environment of the process.  Where a proof needs a law of such a field,
the law is a field too, and it is the documented one.

`normalizeAddress` is not idempotent, since it removes one `cai_` only
(`normalizeAddress_eq_self`).
-/

import CaiNetwork.Json
import Mathlib.Data.List.DropRight
import Mathlib.Data.Rat.Floor

namespace CaiNetwork

open List

/-! ### Errors -/

/-- The exceptions the modelled code raises or lets through. -/
inductive PyError
  | valueError (message : String)
  | typeError
  | keyError (key : String)
  | attributeError
  | overflowError
  /-- `ConflictingAttestationError`, a `ValueError` of its own class. -/
  | conflictingAttestation (attestationId : String)
deriving DecidableEq

/-- A sequenced computation succeeds exactly when its steps do. -/
theorem bind_eq_ok {ε α β : Type} {x : Except ε α} {f : α → Except ε β} {b : β} :
    (x >>= f) = .ok b ↔ ∃ a, x = .ok a ∧ f a = .ok b := by
  cases x <;> simp [bind, Except.bind]

theorem ok_bind {α β : Type} (a : α) (f : α → Except PyError β) :
    ((Except.ok a : Except PyError α) >>= f) = f a := rfl

theorem mapError_eq_ok {ε ε' α : Type} {x : Except ε α} {f : ε → ε'} {a : α} :
    x.mapError f = .ok a ↔ x = .ok a := by
  cases x <;> simp [Except.mapError]

theorem raiseUnless_eq_ok {ε : Type} {p : Prop} [Decidable p] {e : ε} {u v : Unit} :
    (if p then Except.error e else .ok v) = .ok u ↔ ¬p := by
  by_cases h : p <;> simp [h]

theorem pure_eq_ok {α : Type} {a b : α} : (pure a : Except PyError α) = .ok b ↔ a = b := by
  simp [pure, Except.pure]

theorem mapM_ok {α β : Type} {f : α → Except PyError β} {g : α → β} {xs : List α}
    (h : ∀ x ∈ xs, f x = .ok (g x)) : xs.mapM f = .ok (xs.map g) := by
  induction xs with
  | nil => rfl
  | cons x xs ih =>
    rw [mapM_cons, h x mem_cons_self, ok_bind, ih fun y hy => h y (mem_cons_of_mem x hy), ok_bind]
    rfl

/-! ### Strings -/

/-- The code points `str.isspace` accepts. -/
def isSpace (c : Char) : Bool :=
  (9 ≤ c.toNat && c.toNat ≤ 0xd) || (0x1c ≤ c.toNat && c.toNat ≤ 0x20) || c.toNat = 0x85 ||
    c.toNat = 0xa0 || c.toNat = 0x1680 || (0x2000 ≤ c.toNat && c.toNat ≤ 0x200a) ||
    c.toNat = 0x2028 || c.toNat = 0x2029 || c.toNat = 0x202f || c.toNat = 0x205f ||
    c.toNat = 0x3000

/-- `s.strip()`. -/
def strip (s : String) : String :=
  String.ofList (((s.toList.dropWhile isSpace).reverse.dropWhile isSpace).reverse)

/-- `s.startswith(p)`. -/
def startsWith (p s : String) : Bool := p.toList.isPrefixOf s.toList

/-- The bytes of a canonical text. -/
def toBytes (cs : List Char) : Bytes := cs.map (fun c => UInt8.ofNat c.toNat)

/-- `hashlib.sha256(_canonical(payload).encode("utf-8")).hexdigest()`. -/
def canonicalHash (payload : Json) : String :=
  String.ofList (Sha256.hexdigest (toBytes (Json.canonical payload)))

/-- `s[:n]`. -/
def takeString (n : Nat) (s : String) : String := String.ofList (s.toList.take n)

theorem strip_eq_self {s : String} (h : ∀ c ∈ s.toList, isSpace c = false) : strip s = s := by
  have hdrop : ∀ l : List Char, (∀ c ∈ l, isSpace c = false) → l.dropWhile isSpace = l := by
    intro l hl
    cases l with
    | nil => rfl
    | cons c l => rw [dropWhile_cons, hl c mem_cons_self]; rfl
  rw [strip, hdrop _ h, hdrop _ (fun c hc => h c (mem_reverse.mp hc)), reverse_reverse,
    String.ofList_toList]

/-- Dropping blanks at the end uncovers none at the start. -/
theorem dropWhile_rdropWhile {α : Type} (p : α → Bool) (l : List α) :
    ((l.dropWhile p).rdropWhile p).dropWhile p = (l.dropWhile p).rdropWhile p := by
  have hstart := rdropWhile_prefix p (l.dropWhile p)
  rw [dropWhile_eq_self_iff]
  intro hl
  have hzero := dropWhile_get_zero_not p l (hl.trans_le hstart.length_le)
  rw [get_eq_getElem] at hzero
  rwa [hstart.getElem hl]

variable {payload : Json}

/-- A stripped text has no blanks left. -/
theorem strip_strip {s : String} : strip (strip s) = strip s := by
  have hstrip : ∀ t, strip t = String.ofList ((t.toList.dropWhile isSpace).rdropWhile isSpace) :=
    fun _ => rfl
  rw [hstrip (strip s), hstrip s, String.toList_ofList, dropWhile_rdropWhile, rdropWhile_idempotent]

theorem mem_hexAlphabet_of_mem_canonicalHash {payload : Json} {c : Char}
    (h : c ∈ (canonicalHash payload).toList) : c ∈ Sha256.hexAlphabet := by
  rw [canonicalHash, String.toList_ofList] at h
  exact Sha256.mem_hexAlphabet_of_mem_hexdigest h

theorem strip_canonicalHash : strip (canonicalHash payload) = canonicalHash payload := by
  have hspace : ∀ c ∈ Sha256.hexAlphabet, isSpace c = false := by decide
  exact strip_eq_self (fun c hc => hspace c (mem_hexAlphabet_of_mem_canonicalHash hc))

theorem canonicalHash_ne_empty : canonicalHash payload ≠ "" := by
  intro h
  have hlen : (canonicalHash payload).toList.length = 64 := by
    rw [canonicalHash, String.toList_ofList, Sha256.length_hexdigest]
  rw [h] at hlen
  cases hlen

theorem strip_empty : strip "" = "" := rfl

/-! ### Integers -/

/-- The zeros of the decimal digits beyond ASCII (Unicode 15.1); nine digits follow each. -/
def decimalZeros : List Nat :=
  [0x660, 0x6f0, 0x7c0, 0x966, 0x9e6, 0xa66, 0xae6, 0xb66, 0xbe6, 0xc66, 0xce6, 0xd66, 0xde6,
    0xe50, 0xed0, 0xf20, 0x1040, 0x1090, 0x17e0, 0x1810, 0x1946, 0x19d0, 0x1a80, 0x1a90, 0x1b50,
    0x1bb0, 0x1c40, 0x1c50, 0xa620, 0xa8d0, 0xa900, 0xa9d0, 0xa9f0, 0xaa50, 0xabf0, 0xff10,
    0x104a0, 0x10d30, 0x11066, 0x110f0, 0x11136, 0x111d0, 0x112f0, 0x11450, 0x114d0, 0x11650,
    0x116c0, 0x11730, 0x118e0, 0x11950, 0x11c50, 0x11d50, 0x11da0, 0x11f50, 0x16a60, 0x16ac0,
    0x16b50, 0x1d7ce, 0x1d7d8, 0x1d7e2, 0x1d7ec, 0x1d7f6, 0x1e140, 0x1e2f0, 0x1e4f0, 0x1e950,
    0x1fbf0]

/-- The ASCII character that `int` takes a character for. -/
def asciiChar (c : Char) : Char :=
  if c.toNat < 127 then c
  else if isSpace c then ' '
  else
    match decimalZeros.find? fun first => first ≤ c.toNat && c.toNat < first + 10 with
    | some first => Char.ofNat (48 + (c.toNat - first))
    | none => '?'

/-- The blanks that `int` skips, among the ASCII characters. -/
def isBlank (c : Char) : Bool := c = ' ' || (9 ≤ c.toNat && c.toNat ≤ 13)

/-- Digits, with single underscores between them; the flag is whether a digit stands before. -/
def groupedDigits : Bool → List Char → Bool
  | afterDigit, [] => afterDigit
  | afterDigit, c :: cs =>
    if c.isDigit then groupedDigits true cs else c = '_' && afterDigit && groupedDigits false cs

/-- The number that the digits among the characters write. -/
def digitsValue (cs : List Char) : Nat := Nat.ofDigitChars 10 (cs.filter Char.isDigit) 0

/-- `int` of digits without a sign. -/
def intOfGroups (cs : List Char) : Option Int :=
  if groupedDigits false cs then some (digitsValue cs) else none

/-- `int` of ASCII characters. -/
def intOfAscii (cs : List Char) : Option Int :=
  match (cs.dropWhile isBlank).rdropWhile isBlank with
  | '-' :: digits => (intOfGroups digits).map fun n => -n
  | '+' :: digits => intOfGroups digits
  | digits => intOfGroups digits

/-- `int` of a string; nothing stands for the `ValueError`. -/
def intOfString (s : String) : Option Int := intOfAscii (s.toList.map asciiChar)

example : intOfString " -1_0" = some (-10) ∧ intOfString "٣" = some 3 ∧ intOfString "1__0" = none ∧
    intOfString "" = none := by
  decide

/-- `int` of a fraction. -/
def truncate (r : Rat) : Int := r.num.tdiv r.den

theorem truncate_of_nonneg {r : Rat} (h : 0 ≤ r) : truncate r = ⌊r⌋ := by
  rw [truncate, Int.tdiv_eq_ediv_of_nonneg (Rat.num_nonneg.mpr h), Rat.floor_def']

/-! ### Base64 -/

/-- The value of a base64 digit. -/
def base64Value (c : Char) : Option Nat :=
  if c.isUpper then some (c.toNat - 65)
  else if c.isLower then some (c.toNat - 97 + 26)
  else if c.isDigit then some (c.toNat - 48 + 52)
  else if c = '+' then some 62
  else if c = '/' then some 63
  else none

/-- The loop of `binascii.a2b_base64`: characters outside the alphabet are skipped, and a pad
that completes a group of four ends the data.  `quad` counts the digits of the open group and
`left` holds its unused bits. -/
def a2bBase64 : List Char → (quad left pads : Nat) → Bytes → Option Bytes
  | [], quad, _, _, out => if quad = 0 then some out.reverse else none
  | c :: cs, quad, left, pads, out =>
    if c = '=' then
      if 2 ≤ quad then
        if 4 ≤ quad + (pads + 1) then some out.reverse else a2bBase64 cs quad left (pads + 1) out
      else a2bBase64 cs quad left pads out
    else
      match base64Value c with
      | none => a2bBase64 cs quad left pads out
      | some v =>
        match quad with
        | 0 => a2bBase64 cs 1 v 0 out
        | 1 => a2bBase64 cs 2 (v % 16) 0 (UInt8.ofNat (left * 4 + v / 16) :: out)
        | 2 => a2bBase64 cs 3 (v % 4) 0 (UInt8.ofNat (left * 16 + v / 4) :: out)
        | _ => a2bBase64 cs 0 0 0 (UInt8.ofNat (left * 64 + v) :: out)

/-- `decode_bytes`: the text must be ASCII; every failure is a `ValueError`. -/
def decodeBytes (payload : String) : Option Bytes :=
  if payload.toList.all (fun c => c.toNat < 128) then a2bBase64 payload.toList 0 0 0 [] else none

example : decodeBytes "YWJj" = some [97, 98, 99] ∧ decodeBytes "YQ==" = some [97] ∧
    decodeBytes "YWJ" = none := by
  decide

/-! ### The host -/

/-- The networks a chain can belong to. -/
inductive ChainNetwork
  | mainnet
  | testnet
deriving DecidableEq

/-- `ChainNetwork.value`. -/
def ChainNetwork.value : ChainNetwork → String
  | .mainnet => "mainnet"
  | .testnet => "testnet"

/-- What the program takes from the interpreter, from third-party packages and from its
environment. -/
structure Host where
  /-- `str.lower`. -/
  lower : String → String
  lower_of_noUpper : ∀ s : String,
    (∀ c ∈ s.toList, c.toNat < 128 ∧ c.isUpper = false) → lower s = s
  /-- `str` of a list or a dictionary. -/
  reprContainer : Json → String
  reprContainer_ne_empty : ∀ v, reprContainer v ≠ ""
  /-- `int` of a float: truncation, refused for `nan` and the infinities. -/
  intOfFloat : FloatLit → Except PyError Int
  intOfFloat_zero : ∀ lit : FloatLit, lit.text = "0.0" ∨ lit.text = "-0.0" →
    intOfFloat lit = .ok 0
  /-- `Ed25519PublicKey.verify`: public key, message, signature. -/
  ed25519Verify : Bytes → Bytes → Bytes → Bool
  /-- `ML_DSA_65.verify`: public key, message, signature. -/
  mldsa65Verify : Bytes → Bytes → Bytes → Bool
  /-- `resolve_active_chain_network()`. -/
  activeNetwork : ChainNetwork
  /-- `default_developer_treasury_wallet_id()`. -/
  developerTreasuryWalletId : String
  /-- `default_developer_treasury_address()`. -/
  developerTreasuryAddress : String
  /-- The variable `CAI_REQUIRE_SIGNED_PEER_PAYLOADS`, empty when unset. -/
  requireSignedPeerPayloads : String

namespace Json

/-- The truth value of a value. -/
def truthy : Json → Bool
  | .null => false
  | .bool b => b
  | .int n => n ≠ 0
  | .float lit => lit.text ≠ "0.0" && lit.text ≠ "-0.0"
  | .str s => s ≠ ""
  | .arr xs => !xs.isEmpty
  | .obj kvs => !kvs.isEmpty

/-- `a or b`. -/
def pyOr (a b : Json) : Json := if a.truthy then a else b

end Json

namespace Host

variable (host : Host)

/-- `str(v)`. -/
def str : Json → String
  | .null => "None"
  | .bool true => "True"
  | .bool false => "False"
  | .int n => String.ofList (Json.decimal n)
  | .float lit => lit.text
  | .str s => s
  | v => host.reprContainer v

/-- `str(v or "")`. -/
def strOrEmpty (v : Json) : String := host.str (v.pyOr (.str ""))

/-- `int(v)`. -/
def int : Json → Except PyError Int
  | .bool b => .ok (if b then 1 else 0)
  | .int n => .ok n
  | .float lit => host.intOfFloat lit
  | .str s =>
    match intOfString s with
    | some n => .ok n
    | none => .error (.valueError "invalid literal for int() with base 10")
  | _ => .error .typeError

/-- `_default_chain_id()`. -/
def defaultChainId : String := host.activeNetwork.value

/-! ### Addresses -/

/-- `normalize_address`. -/
def normalizeAddress (address : String) : String :=
  let normalized := host.lower (strip address)
  if startsWith "cai_" normalized then String.ofList (normalized.toList.drop 4) else normalized

/-- A text of lower-case ASCII characters and digits without blanks, that does not start with
the address mark, is its own normal form. -/
theorem normalizeAddress_eq_self {s : String}
    (hchars : ∀ c ∈ s.toList, c.toNat < 128 ∧ c.isUpper = false ∧ isSpace c = false)
    (hmark : startsWith "cai_" s = false) : host.normalizeAddress s = s := by
  have hstrip : strip s = s := strip_eq_self (fun c hc => (hchars c hc).2.2)
  have hlower : host.lower s = s :=
    host.lower_of_noUpper s (fun c hc => ⟨(hchars c hc).1, (hchars c hc).2.1⟩)
  rw [normalizeAddress, hstrip, hlower, hmark]
  rfl

theorem str_ne_empty_of_truthy {v : Json} (h : v.truthy = true) : host.str v ≠ "" := by
  cases v with
  | null => cases h
  | bool b => cases b <;> simp [str]
  | int n =>
    rw [str, ne_eq, String.ofList_eq_empty_iff]
    exact Json.render_ne_nil_of_opener_none (a := .int n) rfl
  | float lit =>
    rw [str]
    intro htext
    have hfloat := lit.isFloat
    rw [htext] at hfloat
    exact absurd hfloat (by decide)
  | str s => simpa [str, Json.truthy] using h
  | arr xs => exact host.reprContainer_ne_empty _
  | obj kvs => exact host.reprContainer_ne_empty _

end Host

/-! ### A host

The laws of `Host` are those of simple functions.  This host takes every signature as genuine. -/

/-- Lower-casing of the ASCII letters. -/
def lowerAscii (s : String) : String := String.ofList (s.toList.map Char.toLower)

theorem toLower_of_not_isUpper {c : Char} (h : c.isUpper = false) : c.toLower = c := by
  have hrange : ¬(65 ≤ c.val ∧ c.val ≤ 90) := by
    intro hc
    delta Char.isUpper at h
    simp_all
  delta Char.toLower
  split
  · rename_i hc
    exact absurd hc hrange
  · rfl

theorem lowerAscii_eq_self (s : String)
    (h : ∀ c ∈ s.toList, c.toNat < 128 ∧ c.isUpper = false) : lowerAscii s = s := by
  have hmap : s.toList.map Char.toLower = s.toList := by
    rw [map_congr_left (fun c hc => toLower_of_not_isUpper (h c hc).2), map_id']
  rw [lowerAscii, hmap, String.ofList_toList]

/-- A testnet host. -/
def sampleHost : Host where
  lower := lowerAscii
  lower_of_noUpper := lowerAscii_eq_self
  reprContainer _ := "[]"
  reprContainer_ne_empty _ := by decide
  intOfFloat _ := .ok 0
  intOfFloat_zero _ _ := rfl
  ed25519Verify _ _ _ := true
  mldsa65Verify _ _ _ := true
  activeNetwork := .testnet
  developerTreasuryWalletId := "t"
  developerTreasuryAddress := "c4"
  requireSignedPeerPayloads := ""

end CaiNetwork
