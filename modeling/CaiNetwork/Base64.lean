/-
CaiNetwork/Base64.lean

Base64 text of bytes, and that decoding gives the bytes back.

`a2bBase64` reads one character after the other and keeps the digits of the open group of four;
three encoded bytes leave it with no open group (`a2bBase64_group`), so the round trip
`decodeBytes (encodeBytes bytes) = some bytes` is an induction over groups.  `b64decode` is the
decoder that refuses everything but digits and the padding of the last group.
-/

import CaiNetwork.Host

namespace CaiNetwork

open List

/-- The character of six bits. -/
def base64Char (n : Nat) : Char :=
  ("ABCDEFGHIJKLMNOPQRSTUVWXYZabcdefghijklmnopqrstuvwxyz0123456789+/".toList).getD (n % 64) 'A'

/-- `base64.b64encode`. -/
def b64encode : Bytes → List Char
  | [] => []
  | [a] => [base64Char (a.toNat / 4), base64Char (a.toNat % 4 * 16), '=', '=']
  | [a, b] => [base64Char (a.toNat / 4), base64Char (a.toNat % 4 * 16 + b.toNat / 16),
      base64Char (b.toNat % 16 * 4), '=']
  | a :: b :: c :: bytes => base64Char (a.toNat / 4) ::
      base64Char (a.toNat % 4 * 16 + b.toNat / 16) ::
      base64Char (b.toNat % 16 * 4 + c.toNat / 64) :: base64Char (c.toNat % 64) :: b64encode bytes

/-- `encode_bytes`. -/
def encodeBytes (payload : Bytes) : String := String.ofList (b64encode payload)

example : encodeBytes [97, 98, 99] = "YWJj" ∧ encodeBytes [97] = "YQ==" := by decide

/-- Groups of four digits, the last of which may end in one or two pads. -/
def isStrictBase64 : List Char → Bool
  | [] => true
  | a :: b :: c :: d :: rest =>
    (base64Value a).isSome && (base64Value b).isSome &&
      if d = '=' then (c = '=' || (base64Value c).isSome) && rest.isEmpty
      else (base64Value c).isSome && (base64Value d).isSome && isStrictBase64 rest
  | _ => false

/-- `base64.b64decode(payload.encode("ascii"), validate=True)`. -/
def b64decode (payload : String) : Option Bytes :=
  if isStrictBase64 payload.toList then decodeBytes payload else none

example : b64decode "YQ==" = some [97] ∧ b64decode "Y Q==" = none ∧ b64decode "YWJj=" = none := by
  decide

/-! ### Digits -/

set_option maxRecDepth 4000 in
theorem base64Value_base64Char {n : Nat} (h : n < 64) : base64Value (base64Char n) = some n := by
  have hall : ∀ m < 64, base64Value (base64Char m) = some m := by decide
  exact hall n h

set_option maxRecDepth 4000 in
theorem base64Char_plain (n : Nat) : base64Char n ≠ '=' ∧ (base64Char n).toNat < 128 := by
  have hall : ∀ m < 64, base64Char m ≠ '=' ∧ (base64Char m).toNat < 128 := by decide
  have hmod : base64Char n = base64Char (n % 64) := by
    unfold base64Char
    rw [Nat.mod_mod]
  rw [hmod]
  exact hall _ (Nat.mod_lt n (by decide))

/-! ### The round trip -/

section RoundTrip

variable {cs : List Char} {left pads v : Nat} {out : Bytes}

variable {a b : UInt8} {bytes : Bytes}

/-- One digit. -/
theorem a2bBase64_digit (h : v < 64) {quad : Nat} :
    a2bBase64 (base64Char v :: cs) quad left pads out =
      match quad with
      | 0 => a2bBase64 cs 1 v 0 out
      | 1 => a2bBase64 cs 2 (v % 16) 0 (UInt8.ofNat (left * 4 + v / 16) :: out)
      | 2 => a2bBase64 cs 3 (v % 4) 0 (UInt8.ofNat (left * 16 + v / 4) :: out)
      | _ => a2bBase64 cs 0 0 0 (UInt8.ofNat (left * 64 + v) :: out) := by
  rcases quad with - | - | - | quad <;>
    simp only [a2bBase64, if_neg (base64Char_plain v).1, base64Value_base64Char h]

/-- The first two digits give the first byte. -/
theorem a2bBase64_first {n : Nat} (hn : n < 16) :
    a2bBase64 (base64Char (a.toNat / 4) :: base64Char (a.toNat % 4 * 16 + n) :: cs) 0 left pads
      out = a2bBase64 cs 2 n 0 (a :: out) := by
  have ha := a.toNat_lt
  rw [a2bBase64_digit (by omega), a2bBase64_digit (by omega)]
  have hleft : (a.toNat % 4 * 16 + n) % 16 = n := by omega
  have hbyte : a.toNat / 4 * 4 + (a.toNat % 4 * 16 + n) / 16 = a.toNat := by omega
  show a2bBase64 cs 2 _ 0 _ = _
  rw [hleft, hbyte, UInt8.ofNat_toNat]

/-- The third digit gives the second byte. -/
theorem a2bBase64_second {n : Nat} (hn : n < 4) :
    a2bBase64 (base64Char (b.toNat % 16 * 4 + n) :: cs) 2 (b.toNat / 16) pads out =
      a2bBase64 cs 3 n 0 (b :: out) := by
  have hb := b.toNat_lt
  rw [a2bBase64_digit (by omega)]
  have hleft : (b.toNat % 16 * 4 + n) % 4 = n := by omega
  have hbyte : b.toNat / 16 * 16 + (b.toNat % 16 * 4 + n) / 4 = b.toNat := by omega
  show a2bBase64 cs 3 _ 0 _ = _
  rw [hleft, hbyte, UInt8.ofNat_toNat]

/-- Three bytes leave no open group. -/
theorem a2bBase64_group {c : UInt8} :
    a2bBase64 (base64Char (a.toNat / 4) :: base64Char (a.toNat % 4 * 16 + b.toNat / 16) ::
      base64Char (b.toNat % 16 * 4 + c.toNat / 64) :: base64Char (c.toNat % 64) :: cs) 0 left pads
        out = a2bBase64 cs 0 0 0 (c :: b :: a :: out) := by
  have hb := b.toNat_lt
  have hc := c.toNat_lt
  rw [a2bBase64_first (by omega), a2bBase64_second (by omega), a2bBase64_digit (by omega)]
  have hbyte : c.toNat / 64 * 64 + c.toNat % 64 = c.toNat := by omega
  show a2bBase64 cs 0 0 0 _ = _
  rw [hbyte, UInt8.ofNat_toNat]

theorem a2bBase64_b64encode :
    a2bBase64 (b64encode bytes) 0 left pads out = some (out.reverse ++ bytes) := by
  induction bytes using b64encode.induct generalizing left pads out with
  | case1 => rw [b64encode, a2bBase64, if_pos rfl, append_nil]
  | case2 a =>
    rw [b64encode]
    -- two pads end the group
    rw [← Nat.add_zero (a.toNat % 4 * 16), a2bBase64_first (by decide), a2bBase64, if_pos rfl,
      if_pos (by decide), if_neg (by decide), a2bBase64, if_pos rfl,
      if_pos (by decide), if_pos (by decide), reverse_cons]
  | case3 a b =>
    rw [b64encode]
    have hb := b.toNat_lt
    rw [a2bBase64_first (by omega), ← Nat.add_zero (b.toNat % 16 * 4),
      a2bBase64_second (by decide), a2bBase64, if_pos rfl, if_pos (by decide),
      if_pos (by decide), reverse_cons, reverse_cons, append_assoc]
    rfl
  | case4 a b c bytes ih =>
    rw [b64encode, a2bBase64_group, ih]
    simp

theorem b64encode_ascii : ∀ ch ∈ b64encode bytes, ch.toNat < 128 := by
  induction bytes using b64encode.induct with
  | case1 => simp [b64encode]
  | case2 a => simp [b64encode, (base64Char_plain _).2]
  | case3 a b => simp [b64encode, (base64Char_plain _).2]
  | case4 a b c bytes ih => simpa [b64encode, (base64Char_plain _).2] using ih

/-- **Decoding gives back what was encoded.** -/
theorem decodeBytes_encodeBytes : decodeBytes (encodeBytes bytes) = some bytes := by
  have hascii : (b64encode bytes).all (fun c => decide (c.toNat < 128)) = true :=
    all_eq_true.mpr fun c hc => decide_eq_true (b64encode_ascii c hc)
  rw [decodeBytes, encodeBytes, String.toList_ofList, if_pos hascii, a2bBase64_b64encode]
  rfl

theorem base64Value_isSome {n : Nat} (h : n < 64) : (base64Value (base64Char n)).isSome = true := by
  rw [base64Value_base64Char h]
  rfl

theorem isStrictBase64_b64encode : isStrictBase64 (b64encode bytes) = true := by
  induction bytes using b64encode.induct with
  | case1 => rfl
  | case2 a =>
    have ha := a.toNat_lt
    simp [b64encode, isStrictBase64, base64Value_isSome (n := a.toNat / 4) (by omega),
      base64Value_isSome (n := a.toNat % 4 * 16) (by omega)]
  | case3 a b =>
    have ha := a.toNat_lt
    have hb := b.toNat_lt
    simp [b64encode, isStrictBase64, base64Value_isSome (n := a.toNat / 4) (by omega),
      base64Value_isSome (n := a.toNat % 4 * 16 + b.toNat / 16) (by omega),
      base64Value_isSome (n := b.toNat % 16 * 4) (by omega)]
  | case4 a b c bytes ih =>
    have ha := a.toNat_lt
    have hb := b.toNat_lt
    have hc := c.toNat_lt
    simp [b64encode, isStrictBase64, (base64Char_plain _).1, ih,
      base64Value_isSome (n := a.toNat / 4) (by omega),
      base64Value_isSome (n := a.toNat % 4 * 16 + b.toNat / 16) (by omega),
      base64Value_isSome (n := b.toNat % 16 * 4 + c.toNat / 64) (by omega),
      base64Value_isSome (n := c.toNat % 64) (by omega)]

theorem b64decode_encodeBytes : b64decode (encodeBytes bytes) = some bytes := by
  have hstrict : isStrictBase64 (encodeBytes bytes).toList = true := by
    rw [encodeBytes, String.toList_ofList]
    exact isStrictBase64_b64encode
  rw [b64decode, if_pos hstrict, decodeBytes_encodeBytes]

end RoundTrip

end CaiNetwork
