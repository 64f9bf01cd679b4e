/-
CaiNetwork/Lines.lean

Texts by lines, and their UTF-8 bytes.

`splitlines` cuts a text at every line boundary of Unicode, as `str.splitlines` does; `unlines`
ends every line with a line feed.  The two are inverse on lines without a boundary inside

    splitlines (unlines ls ++ p) = ls ++ splitlines p

and a prefix of `unlines ls` is made of whole lines and a prefix of the next one
(`prefix_unlines`).  A prefix of the bytes of a text that is valid UTF-8 is the bytes of a prefix of
the text (`utf8_extract`).
-/

import Mathlib.Data.List.Infix

namespace CaiNetwork

open List

variable {line cs l : List Char} {c : Char}

/-! ### Lines -/

/-- The characters at which `str.splitlines` ends a line. -/
def isLineBreak (c : Char) : Bool :=
  (0xa ≤ c.toNat && c.toNat ≤ 0xd) || (0x1c ≤ c.toNat && c.toNat ≤ 0x1e) || c.toNat = 0x85 ||
    c.toNat = 0x2028 || c.toNat = 0x2029

/-- `splitlines` after the characters of the current line. -/
def splitlinesFrom (line : List Char) : List Char → List (List Char)
  | [] => if line = [] then [] else [line]
  | '\r' :: '\n' :: cs => line :: splitlinesFrom [] cs
  | c :: cs => if isLineBreak c then line :: splitlinesFrom [] cs
    else splitlinesFrom (line ++ [c]) cs

/-- `text.splitlines()`. -/
def splitlines (text : List Char) : List (List Char) := splitlinesFrom [] text

/-- Every line, ended by a line feed. -/
def unlines : List (List Char) → List Char
  | [] => []
  | l :: ls => l ++ '\n' :: unlines ls

@[simp] theorem unlines_nil : unlines [] = [] := rfl

variable {text m : List Char}

@[simp] theorem unlines_cons {ls : List (List Char)} :
    unlines (l :: ls) = l ++ '\n' :: unlines ls := rfl

/-- A character that is no boundary belongs to the line. -/
theorem splitlinesFrom_cons (hc : isLineBreak c = false) :
    splitlinesFrom line (c :: cs) = splitlinesFrom (line ++ [c]) cs := by
  have hr : c ≠ '\r' := by
    rintro rfl
    exact absurd hc (by decide)
  rw [splitlinesFrom]
  · rw [if_neg (by rw [hc]; simp)]
  · rintro cs' rfl
    exact absurd rfl hr

/-- A boundary other than a carriage return ends the line. -/
theorem splitlinesFrom_break (hc : isLineBreak c = true)
    (hr : c ≠ '\r') : splitlinesFrom line (c :: cs) = line :: splitlinesFrom [] cs := by
  rw [splitlinesFrom]
  · rw [if_pos hc]
  · rintro cs' rfl
    exact absurd rfl hr

theorem splitlinesFrom_append (hl : ∀ c ∈ l, isLineBreak c = false) :
    splitlinesFrom line (l ++ cs) = splitlinesFrom (line ++ l) cs := by
  induction l generalizing line with
  | nil => simp
  | cons c l ih =>
    rw [cons_append, splitlinesFrom_cons (hl c mem_cons_self),
      ih fun d hd => hl d (mem_cons_of_mem c hd), append_assoc]
    rfl

/-- A line without a boundary inside, ended by one. -/
theorem splitlines_line (hl : ∀ d ∈ l, isLineBreak d = false)
    (hc : isLineBreak c = true) (hr : c ≠ '\r') :
    splitlines (l ++ c :: cs) = l :: splitlines cs := by
  rw [splitlines, splitlinesFrom_append hl, splitlinesFrom_break hc hr]
  rfl

/-- A last line without an end. -/
theorem splitlines_last (hl : ∀ d ∈ l, isLineBreak d = false) (hne : l ≠ []) :
    splitlines l = [l] := by
  have happend : splitlinesFrom [] (l ++ []) = splitlinesFrom ([] ++ l) [] :=
    splitlinesFrom_append hl
  rw [append_nil, nil_append] at happend
  rw [splitlines, happend, splitlinesFrom, if_neg hne]

/-- **Lines come back**, and what follows them is split on its own. -/
theorem splitlines_unlines {ls : List (List Char)} (hls : ∀ l ∈ ls, ∀ c ∈ l, isLineBreak c = false)
    {p : List Char} : splitlines (unlines ls ++ p) = ls ++ splitlines p := by
  induction ls with
  | nil => rfl
  | cons l ls ih =>
    rw [unlines_cons, append_assoc, cons_append,
      splitlines_line (hls l mem_cons_self) (by decide) (by decide),
      ih fun m hm => hls m (mem_cons_of_mem l hm)]
    rfl

/-- A prefix of lines is whole lines and a prefix of the next one. -/
theorem prefix_unlines {ls : List (List Char)} {p : List Char} (h : p <+: unlines ls) :
    ∃ done rest q, ls = done ++ rest ∧ p = unlines done ++ q ∧
      (q = [] ∨ ∃ l ms, rest = l :: ms ∧ q <+: l) := by
  induction ls generalizing p with
  | nil =>
    refine ⟨[], [], p, rfl, rfl, .inl ?_⟩
    exact prefix_nil.mp h
  | cons l ls ih =>
    rcases prefix_or_prefix_of_prefix h (prefix_append l _) with hp | hp
    · exact ⟨[], l :: ls, p, rfl, rfl, .inr ⟨l, ls, rfl, hp⟩⟩
    obtain ⟨q, rfl⟩ := hp
    rw [unlines_cons, prefix_append_right_inj] at h
    -- the line is whole; what follows is empty or starts with its line feed
    cases q with
    | nil => exact ⟨[], l :: ls, l ++ [], rfl, rfl, .inr ⟨l, ls, rfl, by simp⟩⟩
    | cons c q =>
      obtain ⟨rfl, hq⟩ := cons_prefix_cons.mp h
      obtain ⟨done, rest, q', hls, hq', hlast⟩ := ih hq
      refine ⟨l :: done, rest, q', by rw [hls]; rfl, ?_, hlast⟩
      rw [hq', unlines_cons, append_assoc]
      rfl

/-! ### Bytes -/

/-- `text.encode("utf-8")`. -/
def encodeUtf8 (text : List Char) : ByteArray := (String.ofList text).toByteArray

theorem encodeUtf8_eq : encodeUtf8 text = text.utf8Encode := String.toByteArray_ofList

theorem encodeUtf8_append : encodeUtf8 (l ++ m) = encodeUtf8 l ++ encodeUtf8 m := by
  simp only [encodeUtf8_eq, utf8Encode_append]

theorem encodeUtf8_injective {m : List Char} (h : encodeUtf8 l = encodeUtf8 m) : l = m := by
  have hdecode := congrArg ByteArray.utf8Decode? h
  rw [encodeUtf8_eq, encodeUtf8_eq, utf8Decode?_utf8Encode, utf8Decode?_utf8Encode] at hdecode
  simpa using hdecode

/-- `raw_bytes.decode("utf-8")`. -/
def decodeUtf8 (bytes : ByteArray) : Option (List Char) := bytes.utf8Decode?.map Array.toList

@[simp] theorem decodeUtf8_encodeUtf8 : decodeUtf8 (encodeUtf8 text) = some text := by
  rw [decodeUtf8, encodeUtf8_eq, utf8Decode?_utf8Encode]
  rfl

theorem decodeUtf8_eq_none {bytes : ByteArray} (h : ¬bytes.IsValidUTF8) :
    decodeUtf8 bytes = none := by
  rw [← ByteArray.isSome_utf8Decode?_iff] at h
  rw [decodeUtf8, Option.map_eq_none_iff]
  exact Option.not_isSome_iff_eq_none.mp h

/-- Valid bytes at the start of a text's bytes are those of a prefix of the text. -/
theorem utf8_extract {text : List Char} {n : Nat}
    (h : ((encodeUtf8 text).extract 0 n).IsValidUTF8) :
    ∃ p, p <+: text ∧ (encodeUtf8 text).extract 0 n = encodeUtf8 p := by
  obtain ⟨p, hp⟩ := h
  refine ⟨p, ?_, by rw [hp, encodeUtf8_eq]⟩
  rw [encodeUtf8_eq] at hp
  refine isPrefix_of_utf8Encode_append_eq_utf8Encode
    (text.utf8Encode.extract n text.utf8Encode.size) ?_
  rw [← hp, ByteArray.extract_append_extract]
  simp

/-- The number of bytes of a text. -/
def utf8Length (text : List Char) : Nat := (encodeUtf8 text).size

@[simp] theorem utf8Length_nil : utf8Length [] = 0 := rfl

@[simp] theorem utf8Length_append : utf8Length (l ++ m) = utf8Length l + utf8Length m := by
  rw [utf8Length, encodeUtf8_append, ByteArray.size_append]
  rfl

@[simp] theorem utf8Length_feed : utf8Length ('\n' :: l) = 1 + utf8Length l := by
  have hfeed : utf8Length ['\n'] = 1 := rfl
  rw [← hfeed, ← utf8Length_append]
  rfl

theorem utf8Length_pos (h : l ≠ []) : 0 < utf8Length l := by
  refine Nat.pos_of_ne_zero fun hzero => h (encodeUtf8_injective ?_)
  exact ByteArray.size_eq_zero_iff.mp hzero

/-- A prefix with as many bytes is the whole text. -/
theorem eq_of_utf8Length_le {p : List Char} (hp : p <+: l) (h : utf8Length l ≤ utf8Length p) :
    p = l := by
  obtain ⟨q, rfl⟩ := hp
  rw [utf8Length_append] at h
  by_cases hq : q = []
  · rw [hq, append_nil]
  · have hpos := utf8Length_pos hq
    omega

end CaiNetwork
