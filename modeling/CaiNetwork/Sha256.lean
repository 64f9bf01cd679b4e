/-
CaiNetwork/Sha256.lean

SHA-256 as a computable function on byte lists, and its lower-case hexadecimal digest.

The message schedule is a sliding window of sixteen words, so that every recursion is structural
and the kernel can evaluate a digest.  What is proved is the shape of the output, sixty-four
characters of the hexadecimal alphabet (`length_hexdigest`, `mem_hexAlphabet_of_mem_hexdigest`);
collision freedom is assumed where it is needed, for the texts at hand.
-/

import Mathlib.Algebra.Ring.Int.Defs
import Mathlib.Algebra.Ring.Nat
import Mathlib.Data.List.Basic

namespace CaiNetwork

/-- A string of bytes. -/
abbrev Bytes := List UInt8

namespace Sha256

/-! ### The compression function -/

/-- Round constants. -/
def roundConstants : List Nat := [
  0x428a2f98, 0x71374491, 0xb5c0fbcf, 0xe9b5dba5, 0x3956c25b, 0x59f111f1, 0x923f82a4, 0xab1c5ed5,
  0xd807aa98, 0x12835b01, 0x243185be, 0x550c7dc3, 0x72be5d74, 0x80deb1fe, 0x9bdc06a7, 0xc19bf174,
  0xe49b69c1, 0xefbe4786, 0x0fc19dc6, 0x240ca1cc, 0x2de92c6f, 0x4a7484aa, 0x5cb0a9dc, 0x76f988da,
  0x983e5152, 0xa831c66d, 0xb00327c8, 0xbf597fc7, 0xc6e00bf3, 0xd5a79147, 0x06ca6351, 0x14292967,
  0x27b70a85, 0x2e1b2138, 0x4d2c6dfc, 0x53380d13, 0x650a7354, 0x766a0abb, 0x81c2c92e, 0x92722c85,
  0xa2bfe8a1, 0xa81a664b, 0xc24b8b70, 0xc76c51a3, 0xd192e819, 0xd6990624, 0xf40e3585, 0x106aa070,
  0x19a4c116, 0x1e376c08, 0x2748774c, 0x34b0bcb5, 0x391c0cb3, 0x4ed8aa4a, 0x5b9cca4f, 0x682e6ff3,
  0x748f82ee, 0x78a5636f, 0x84c87814, 0x8cc70208, 0x90befffa, 0xa4506ceb, 0xbef9a3f7, 0xc67178f2]

/-- Rotation of a 32-bit word to the right. -/
def rotr (n x : Nat) : Nat := (x >>> n ||| x <<< (32 - n)) % 2 ^ 32

/-- The eight working words. -/
structure Words where
  a : Nat
  b : Nat
  c : Nat
  d : Nat
  e : Nat
  f : Nat
  g : Nat
  h : Nat
deriving DecidableEq

/-- The initial hash value. -/
def initial : Words :=
  ⟨0x6a09e667, 0xbb67ae85, 0x3c6ef372, 0xa54ff53a, 0x510e527f, 0x9b05688c, 0x1f83d9ab, 0x5be0cd19⟩

/-- One round; `kw` is the round constant plus the schedule word. -/
def round (s : Words) (kw : Nat) : Words :=
  let s1 := rotr 6 s.e ^^^ rotr 11 s.e ^^^ rotr 25 s.e
  let ch := (s.e &&& s.f) ^^^ ((2 ^ 32 - 1 - s.e) &&& s.g)
  let t1 := s.h + s1 + ch + kw
  let s0 := rotr 2 s.a ^^^ rotr 13 s.a ^^^ rotr 22 s.a
  let maj := (s.a &&& s.b) ^^^ (s.a &&& s.c) ^^^ (s.b &&& s.c)
  ⟨(t1 + (s0 + maj)) % 2 ^ 32, s.a, s.b, s.c, (s.d + t1) % 2 ^ 32, s.e, s.f, s.g⟩

/-- The rounds for the given constants.  The window holds the next sixteen schedule words;
each round consumes the first and computes the seventeenth. -/
def rounds : List Nat → List Nat → Words → Words
  | [], _, s => s
  | k :: ks, w, s =>
    match w with
    | [w0, w1, w2, w3, w4, w5, w6, w7, w8, w9, w10, w11, w12, w13, w14, w15] =>
      let s0 := rotr 7 w1 ^^^ rotr 18 w1 ^^^ (w1 >>> 3)
      let s1 := rotr 17 w14 ^^^ rotr 19 w14 ^^^ (w14 >>> 10)
      let w16 := (w0 + s0 + w9 + s1) % 2 ^ 32
      rounds ks [w1, w2, w3, w4, w5, w6, w7, w8, w9, w10, w11, w12, w13, w14, w15, w16]
        (round s (k + w0))
    | _ => s

/-- One block of sixteen words. -/
def compress (s : Words) (w : List Nat) : Words :=
  let t := rounds roundConstants w s
  ⟨(s.a + t.a) % 2 ^ 32, (s.b + t.b) % 2 ^ 32, (s.c + t.c) % 2 ^ 32, (s.d + t.d) % 2 ^ 32,
    (s.e + t.e) % 2 ^ 32, (s.f + t.f) % 2 ^ 32, (s.g + t.g) % 2 ^ 32, (s.h + t.h) % 2 ^ 32⟩

/-! ### Messages -/

/-- Big-endian words of a byte list. -/
def toWords : List Nat → List Nat
  | a :: b :: c :: d :: rest => (a * 2 ^ 24 + b * 2 ^ 16 + c * 2 ^ 8 + d) :: toWords rest
  | _ => []

/-- The given number of sixteen-word blocks, compressed in order. -/
def compressBlocks : Nat → List Nat → Words → Words
  | 0, _, s => s
  | n + 1, ws, s => compressBlocks n (ws.drop 16) (compress s (ws.take 16))

/-- The message with its delimiter, zeros and 64-bit length. -/
def pad (bs : List Nat) : List Nat :=
  bs ++ [0x80] ++ List.replicate ((119 - bs.length % 64) % 64) 0 ++
    (List.range 8).map (fun i => 8 * bs.length / 2 ^ (8 * (7 - i)) % 256)

/-- The final working words. -/
def digestWords (bs : Bytes) : Words :=
  let p := pad (bs.map UInt8.toNat)
  compressBlocks (p.length / 64) (toWords p) initial

/-! ### The hexadecimal digest -/

/-- The digits of `hexdigest`. -/
def hexAlphabet : List Char :=
  ['0', '1', '2', '3', '4', '5', '6', '7', '8', '9', 'a', 'b', 'c', 'd', 'e', 'f']

/-- The digit of a number below sixteen. -/
def hexDigit (n : Nat) : Char := hexAlphabet.getD (n % 16) '0'

/-- The eight digits of a 32-bit word. -/
def hexWord (w : Nat) : List Char :=
  [hexDigit (w / 2 ^ 28), hexDigit (w / 2 ^ 24), hexDigit (w / 2 ^ 20), hexDigit (w / 2 ^ 16),
    hexDigit (w / 2 ^ 12), hexDigit (w / 2 ^ 8), hexDigit (w / 2 ^ 4), hexDigit w]

/-- `hashlib.sha256(data).hexdigest()`, as characters. -/
def hexdigest (bs : Bytes) : List Char :=
  let s := digestWords bs
  hexWord s.a ++ hexWord s.b ++ hexWord s.c ++ hexWord s.d ++
    hexWord s.e ++ hexWord s.f ++ hexWord s.g ++ hexWord s.h

@[simp] theorem length_hexdigest {bs : Bytes} : (hexdigest bs).length = 64 := by
  simp [hexdigest, hexWord]

theorem hexDigit_mem (n : Nat) : hexDigit n ∈ hexAlphabet := by
  have h : ∀ i < 16, hexAlphabet.getD i '0' ∈ hexAlphabet := by decide
  exact h _ (Nat.mod_lt _ (by decide))

theorem mem_hexAlphabet_of_mem_hexdigest {bs : Bytes} {c : Char}
    (h : c ∈ hexdigest bs) : c ∈ hexAlphabet := by
  have hword : ∀ w : Nat, ∀ d ∈ hexWord w, d ∈ hexAlphabet := by
    intro w d hd
    simp only [hexWord, List.mem_cons, List.not_mem_nil, or_false] at hd
    rcases hd with rfl | rfl | rfl | rfl | rfl | rfl | rfl | rfl <;> exact hexDigit_mem _
  simp only [hexdigest, List.mem_append] at h
  obtain ((((((h | h) | h) | h) | h) | h) | h) | h := h <;> exact hword _ _ h

example : hexdigest [97, 98, 99] =
    "ba7816bf8f01cfea414140de5dae2223b00361a396177a9cb410ff61f20015ad".toList := by
  decide

end Sha256

end CaiNetwork
