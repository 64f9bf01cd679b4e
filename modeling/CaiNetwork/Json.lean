/-
CaiNetwork/Json.lean

JSON values and their canonical text: keys sorted, no blanks, only the escapes JSON forces.

An object is an association list, and a float is kept as its shortest decimal text (`FloatLit`).
`canonical` is the text under which values are hashed and signed.  It is kept as its UTF-8 bytes,
each as the character of that code (`byteChars`): all that JSON escapes is ASCII, so escaping and
encoding commute.

The text determines the value: `render_injective` for the plain rendering, and
`canonical_injective` up to the order of object keys (`sortKeys`).  A rendered value followed by a
delimiter can be split off in one way only (`render_append_inj`), by mutual induction over values,
items and fields.
-/

import Mathlib.Data.Char
import Mathlib.Data.List.Basic
import Mathlib.Data.List.Lex
import Mathlib.Data.List.Sort
import Mathlib.Data.String.Basic
import CaiNetwork.Sha256

namespace CaiNetwork

open List

variable {x y : List Char} {n : Nat} {c : Char}

/-! ### Characters of a text -/

-- What is said of the characters of a text is decided over the text, whatever is imported;
-- `Char` is also a finite type, and its instance would run over all characters there are.
instance (priority := 2000) decidableForallChar (cs : List Char) (p : Char → Prop)
    [DecidablePred p] : Decidable (∀ c ∈ cs, p c) := List.decidableBAll p cs

instance (priority := 2000) decidableExistsChar (cs : List Char) (p : Char → Prop)
    [DecidablePred p] : Decidable (∃ c ∈ cs, p c) := List.decidableBEx p cs

instance (priority := 2000) decidableMemPairs (p : String × String) (ps : List (String × String)) :
    Decidable (p ∈ ps) := instDecidableMemOfLawfulBEq p ps

/-! ### Values -/

/-- The texts `repr` gives to floats: a point or an exponent tells them from integers. -/
def isFloatText (cs : List Char) : Bool :=
  cs = "NaN".toList || cs = "Infinity".toList || cs = "-Infinity".toList ||
    (cs.all (fun c => c.isDigit || c = '.' || c = 'e' || c = '-' || c = '+') &&
      cs.any (fun c => c = '.' || c = 'e'))

/-- The text of a float. -/
structure FloatLit where
  text : String
  isFloat : isFloatText text.toList = true
deriving DecidableEq

/-- A JSON value. -/
inductive Json
  | null
  | bool (b : Bool)
  | int (n : Int)
  | float (lit : FloatLit)
  | str (s : String)
  | arr (xs : List Json)
  | obj (kvs : List (String × Json))
deriving Inhabited

variable {a b : Json}

/-- The fields of an object, in the order of the text. -/
abbrev Fields := List (String × Json)

namespace Json

/-- Values that are no object have no fields. -/
def fields : Json → Fields
  | .obj kvs => kvs
  | _ => []

/-- `d.get(k)`: a missing key reads as `null`. -/
def getD (kvs : Fields) (k : String) : Json := (kvs.lookup k).getD .null

/-! ### Text -/

/-- The UTF-8 bytes of a string, each as the character of that code. -/
def byteChars (s : String) : List Char :=
  s.toByteArray.data.toList.map (fun b => Char.ofNat b.toNat)

/-- The text of a character inside a string. -/
def escapeChar (c : Char) : List Char :=
  if c = '"' then ['\\', '"']
  else if c = '\\' then ['\\', '\\']
  else if c = '\n' then ['\\', 'n']
  else if c = '\r' then ['\\', 'r']
  else if c = '\t' then ['\\', 't']
  else if c = '\x08' then ['\\', 'b']
  else if c = '\x0c' then ['\\', 'f']
  else if c.toNat < 0x20 then
    ['\\', 'u', '0', '0', Sha256.hexDigit (c.toNat / 16), Sha256.hexDigit (c.toNat % 16)]
  else [c]

/-- Characters beyond ASCII are not escaped. -/
theorem escapeChar_of_byte {c : Char} (h : 0x80 ≤ c.toNat) : escapeChar c = [c] := by
  have hne : ∀ d : Char, d.toNat < 0x80 → c ≠ d := by
    rintro d hd rfl
    omega
  unfold escapeChar
  rw [if_neg (hne _ (by decide)), if_neg (hne _ (by decide)), if_neg (hne _ (by decide)),
    if_neg (hne _ (by decide)), if_neg (hne _ (by decide)), if_neg (hne _ (by decide)),
    if_neg (hne _ (by decide)), if_neg (by omega)]

/-- The text of a string. -/
def quote (s : String) : List Char := '"' :: ((byteChars s).flatMap escapeChar ++ ['"'])

/-- The text of an integer. -/
def decimal (n : Int) : List Char :=
  if n < 0 then '-' :: Nat.toDigits 10 n.natAbs else Nat.toDigits 10 n.natAbs

mutual

/-- The text of a value, without blanks. -/
def render : Json → List Char
  | .null => ['n', 'u', 'l', 'l']
  | .bool true => ['t', 'r', 'u', 'e']
  | .bool false => ['f', 'a', 'l', 's', 'e']
  | .int n => decimal n
  | .float lit => lit.text.toList
  | .str s => quote s
  | .arr xs => '[' :: (renderItems xs ++ [']'])
  | .obj kvs => '{' :: (renderFields kvs ++ ['}'])

/-- The items of an array, separated by commas. -/
def renderItems : List Json → List Char
  | [] => []
  | x :: xs => render x ++ renderMoreItems xs

/-- The items after the first. -/
def renderMoreItems : List Json → List Char
  | [] => []
  | x :: xs => ',' :: (render x ++ renderMoreItems xs)

/-- The fields of an object, separated by commas. -/
def renderFields : Fields → List Char
  | [] => []
  | (k, v) :: kvs => quote k ++ ':' :: (render v ++ renderMoreFields kvs)

/-- The fields after the first. -/
def renderMoreFields : Fields → List Char
  | [] => []
  | (k, v) :: kvs => ',' :: (quote k ++ ':' :: (render v ++ renderMoreFields kvs))

end

/-- Lexicographic order of texts. -/
def textLe : List Char → List Char → Bool
  | [], _ => true
  | _ :: _, [] => false
  | c :: x, d :: y => if c = d then textLe x y else decide (c.toNat < d.toNat)

theorem textLe_iff (x y : List Char) : textLe x y = true ↔ x ≤ y := by
  rw [← not_lt]
  induction x generalizing y with
  | nil => simp [textLe]
  | cons c x ih =>
    cases y with
    | nil => simp [textLe]
    | cons d y =>
      rw [textLe, cons_lt_cons_iff]
      by_cases h : c = d
      · simp [h, ih]
      · simp only [h, Ne.symm h, if_false, false_and, or_false, not_lt, decide_eq_true_iff]
        exact ⟨le_of_lt, fun hle => lt_of_le_of_ne hle fun heq => h (Char.toNat_inj.mp heq)⟩

theorem textLe_total (x y : List Char) : textLe x y = true ∨ textLe y x = true := by
  simp only [textLe_iff]
  exact le_total x y

theorem textLe_trans {z : List Char} (hxy : textLe x y = true) (hyz : textLe y z = true) :
    textLe x z = true := by
  rw [textLe_iff] at hxy hyz ⊢
  exact le_trans hxy hyz

/-- The order of strings by code points; UTF-8 keeps that order. -/
def stringLe (s t : String) : Bool := textLe (byteChars s) (byteChars t)

/-- The order of keys in canonical text. -/
def keyLe (e f : String × Json) : Prop := stringLe e.1 f.1 = true

instance : DecidableRel keyLe := fun e f => inferInstanceAs (Decidable (stringLe e.1 f.1 = true))

mutual

/-- The value with the keys of every object in it sorted. -/
def sortKeys : Json → Json
  | .null => .null
  | .bool b => .bool b
  | .int n => .int n
  | .float lit => .float lit
  | .str s => .str s
  | .arr xs => .arr (sortItems xs)
  | .obj kvs => .obj ((sortFields kvs).insertionSort keyLe)

/-- `sortKeys` of every item. -/
def sortItems : List Json → List Json
  | [] => []
  | x :: xs => sortKeys x :: sortItems xs

/-- `sortKeys` of every field's value. -/
def sortFields : Fields → Fields
  | [] => []
  | (k, v) :: kvs => (k, sortKeys v) :: sortFields kvs

end

/-- `json.dumps(v, ensure_ascii=False, sort_keys=True, separators=(",", ":"))`. -/
def canonical (v : Json) : List Char := render (sortKeys v)

/-! ### Strings can be read back -/

/-- The value of a digit of `Sha256.hexDigit`. -/
def hexValue (c : Char) : Nat := Sha256.hexAlphabet.idxOf c

/-- The first character of the inside of a string text, and what follows it; nothing at the
closing quote. -/
def readChar : List Char → Option (Char × List Char)
  | '\\' :: 'u' :: '0' :: '0' :: h :: l :: rest =>
    some (Char.ofNat (16 * hexValue h + hexValue l), rest)
  | '\\' :: 'n' :: rest => some ('\n', rest)
  | '\\' :: 'r' :: rest => some ('\r', rest)
  | '\\' :: 't' :: rest => some ('\t', rest)
  | '\\' :: 'b' :: rest => some ('\x08', rest)
  | '\\' :: 'f' :: rest => some ('\x0c', rest)
  | '\\' :: c :: rest => some (c, rest)
  | '"' :: _ => none
  | c :: rest => some (c, rest)
  | [] => none

theorem hexValue_hexDigit (h : n < 16) : hexValue (Sha256.hexDigit n) = n := by
  have hall : ∀ i < 16, hexValue (Sha256.hexDigit i) = i := by decide
  exact hall n h

variable {rest : List Char} {kvs : Fields} {k : String}

theorem readChar_escapeChar : readChar (escapeChar c ++ rest) = some (c, rest) := by
  by_cases hq : c = '"'
  · subst hq; rfl
  by_cases hb : c = '\\'
  · subst hb; rfl
  by_cases hn : c = '\n'
  · subst hn; rfl
  by_cases hr : c = '\r'
  · subst hr; rfl
  by_cases ht : c = '\t'
  · subst ht; rfl
  by_cases h8 : c = '\x08'
  · subst h8; rfl
  by_cases hc : c = '\x0c'
  · subst hc; rfl
  rw [escapeChar, if_neg hq, if_neg hb, if_neg hn, if_neg hr, if_neg ht, if_neg h8, if_neg hc]
  by_cases hlt : c.toNat < 0x20
  · rw [if_pos hlt]
    have hhi : hexValue (Sha256.hexDigit (c.toNat / 16)) = c.toNat / 16 :=
      hexValue_hexDigit (by omega)
    have hlo : hexValue (Sha256.hexDigit (c.toNat % 16)) = c.toNat % 16 :=
      hexValue_hexDigit (by omega)
    show some (Char.ofNat _, rest) = some (c, rest)
    rw [hhi, hlo, Nat.div_add_mod, Char.ofNat_toNat]
  · rw [if_neg hlt, singleton_append, readChar.eq_def]
    split <;> simp_all

theorem readChar_quote : readChar ('"' :: rest) = none := rfl

/-- A string text can be split off in one way only. -/
theorem escape_append_inj {cs ds : List Char}
    (h : cs.flatMap escapeChar ++ '"' :: x = ds.flatMap escapeChar ++ '"' :: y) :
    cs = ds ∧ x = y := by
  induction cs generalizing ds with
  | nil =>
    cases ds with
    | nil => simpa using h
    | cons d ds =>
      have hread := congrArg readChar h
      rw [flatMap_cons, append_assoc, readChar_escapeChar] at hread
      exact absurd hread (by simp [readChar_quote])
  | cons c cs ih =>
    cases ds with
    | nil =>
      have hread := congrArg readChar h
      rw [flatMap_cons, append_assoc, readChar_escapeChar] at hread
      exact absurd hread (by simp [readChar_quote])
    | cons d ds =>
      have hread := congrArg readChar h
      simp only [flatMap_cons, append_assoc, readChar_escapeChar, Option.some.injEq,
        Prod.mk.injEq] at hread
      obtain ⟨rfl, hxy⟩ := ih hread.2
      exact ⟨by rw [hread.1], hxy⟩

theorem charOf_utf8EncodeChar (h : c.toNat < 128) :
    (String.utf8EncodeChar c).map (fun b => Char.ofNat b.toNat) = [c] := by
  have hval : c.val ≤ 127 := by
    rw [UInt32.le_iff_toNat_le]
    exact Nat.le_of_lt_succ h
  have hbyte : c.val.toUInt8.toNat = c.toNat := by
    rw [UInt32.toNat_toUInt8]
    exact Nat.mod_eq_of_lt (Nat.lt_trans h (by decide))
  rw [String.utf8EncodeChar_eq_singleton (Char.utf8Size_eq_one_iff.mpr hval), map_singleton,
    hbyte, Char.ofNat_toNat]

/-- An ASCII text is its own bytes. -/
theorem byteChars_ofList {cs : List Char} (h : ∀ c ∈ cs, c.toNat < 128) :
    byteChars (String.ofList cs) = cs := by
  have hbytes : (String.ofList cs).toByteArray.data.toList = cs.flatMap String.utf8EncodeChar := by
    simp [List.utf8Encode]
  rw [byteChars, hbytes]
  clear hbytes
  induction cs with
  | nil => rfl
  | cons c cs ih =>
    rw [flatMap_cons, map_append, charOf_utf8EncodeChar (h c mem_cons_self),
      ih fun d hd => h d (mem_cons_of_mem c hd)]
    rfl

theorem byteChars_injective {s t : String} (h : byteChars s = byteChars t) : s = t := by
  have hchar : Function.Injective (fun b : UInt8 => Char.ofNat b.toNat) := by
    intro a b hab
    have hvalid : ∀ n < 256, (Char.ofNat n).toNat = n := by decide +kernel
    have hnat : a.toNat = b.toNat := by
      rw [← hvalid _ a.toNat_lt, ← hvalid _ b.toNat_lt]
      exact congrArg Char.toNat hab
    exact UInt8.toNat_inj.mp hnat
  have hlist : s.toByteArray.data.toList = t.toByteArray.data.toList :=
    map_injective_iff.mpr hchar h
  apply String.toByteArray_inj.mp
  exact ByteArray.ext (Array.toList_inj.mp hlist)

theorem quote_append_inj {s t : String} (h : quote s ++ x = quote t ++ y) : s = t ∧ x = y := by
  simp only [quote, cons_append, append_assoc, List.cons.injEq, true_and, nil_append] at h
  obtain ⟨hst, hxy⟩ := escape_append_inj h
  exact ⟨byteChars_injective hst, hxy⟩

/-! ### Numbers and words can be read back -/

/-- The characters that may follow a value inside an array or an object. -/
def isStop (c : Char) : Bool := c = ',' || c = ']' || c = '}'

/-- Text that does not continue a number or a word: it is empty or starts with a delimiter. -/
def Ends (x : List Char) : Prop := ∀ c ∈ x.head?, isStop c = true

theorem ends_cons (h : isStop c = true) : Ends (c :: x) := by
  intro d hd
  rw [head?_cons, Option.mem_some_iff] at hd
  exact hd ▸ h

/-- Two undelimited texts before delimiters agree if the whole texts do. -/
theorem plain_append_inj {l m : List Char} (hl : ∀ c ∈ l, isStop c = false)
    (hm : ∀ c ∈ m, isStop c = false) (hx : Ends x) (hy : Ends y) (h : l ++ x = m ++ y) :
    l = m ∧ x = y := by
  induction l generalizing m with
  | nil =>
    cases m with
    | nil => exact ⟨rfl, h⟩
    | cons d m =>
      have hd : isStop d = true := hx d (by rw [← nil_append x, h]; rfl)
      rw [hm d mem_cons_self] at hd
      cases hd
  | cons c l ih =>
    cases m with
    | nil =>
      have hc : isStop c = true := hy c (by rw [← nil_append y, ← h]; rfl)
      rw [hl c mem_cons_self] at hc
      cases hc
    | cons d m =>
      rw [cons_append, cons_append, List.cons.injEq] at h
      obtain ⟨rfl, hxy⟩ := ih (fun a ha => hl a (mem_cons_of_mem _ ha))
        (fun a ha => hm a (mem_cons_of_mem _ ha)) h.2
      exact ⟨by rw [h.1], hxy⟩

theorem mem_decimal {n : Int} (h : c ∈ decimal n) : c.isDigit = true ∨ c = '-' := by
  rw [decimal] at h
  split at h
  · rcases mem_cons.mp h with rfl | h
    · exact .inr rfl
    · exact .inl (Nat.isDigit_of_mem_toDigits (by decide) (by decide) h)
  · exact .inl (Nat.isDigit_of_mem_toDigits (by decide) (by decide) h)

theorem toDigits_injective {m : Nat} (h : Nat.toDigits 10 m = Nat.toDigits 10 n) : m = n := by
  rw [← @Nat.ofDigitChars_toDigits 10 m (by decide) (by decide), h,
    Nat.ofDigitChars_toDigits (by decide) (by decide)]

theorem minus_cons_ne_toDigits {l : List Char} : '-' :: l ≠ Nat.toDigits 10 n := by
  intro h
  have hmem : '-' ∈ Nat.toDigits 10 n := h ▸ mem_cons_self
  exact absurd (Nat.isDigit_of_mem_toDigits (by decide) (by decide) hmem) (by decide)

theorem decimal_injective {m n : Int} (h : decimal m = decimal n) : m = n := by
  unfold decimal at h
  split at h <;> split at h
  · have habs := toDigits_injective (List.cons.inj h).2
    omega
  · exact absurd h minus_cons_ne_toDigits
  · exact absurd h.symm minus_cons_ne_toDigits
  · have habs := toDigits_injective h
    omega

theorem decimal_ne_floatText {n : Int} {lit : FloatLit} : decimal n ≠ lit.text.toList := by
  intro h
  have hfloat := lit.isFloat
  rw [← h] at hfloat
  have hchars : ∀ c ∈ decimal n, c ≠ 'N' ∧ c ≠ 'I' ∧ c ≠ '.' ∧ c ≠ 'e' := by
    intro c hc
    rcases mem_decimal hc with hdig | rfl
    · refine ⟨?_, ?_, ?_, ?_⟩ <;> (rintro rfl; revert hdig; decide)
    · decide
  simp only [isFloatText, Bool.or_eq_true, Bool.and_eq_true, decide_eq_true_eq, any_eq_true]
    at hfloat
  rcases hfloat with ((hw | hw) | hw) | ⟨-, c, hc, hpe⟩
  · exact (hchars 'N' (by rw [hw]; decide)).1 rfl
  · exact (hchars 'I' (by rw [hw]; decide)).2.1 rfl
  · exact (hchars 'I' (by rw [hw]; decide)).2.1 rfl
  · rcases hpe with rfl | rfl
    · exact (hchars _ hc).2.2.1 rfl
    · exact (hchars _ hc).2.2.2 rfl

/-- The character that opens the text of a string, an array or an object; numbers and words
have none. -/
def opener : Json → Option Char
  | .str _ => some '"'
  | .arr _ => some '['
  | .obj _ => some '{'
  | _ => none

/-- The words of JSON. -/
def jsonWords : List (List Char) :=
  [['n', 'u', 'l', 'l'], ['t', 'r', 'u', 'e'], ['f', 'a', 'l', 's', 'e']]

/-- The characters of numbers and words. -/
def isPlain (c : Char) : Bool :=
  c.isAlphanum || c = '.' || c = '-' || c = '+'

theorem isPlain_of_mem_render (ha : opener a = none) (hc : c ∈ render a) : isPlain c = true := by
  have hword : ∀ w ∈ jsonWords, ∀ d ∈ w, isPlain d = true := by decide
  have hfloatWord : ∀ w ∈ ["NaN", "Infinity", "-Infinity"], ∀ d ∈ w.toList, isPlain d = true := by
    decide
  have hdigit : ∀ d : Char, d.isDigit = true → isPlain d = true := by
    intro d hd
    simp [isPlain, Char.isAlphanum, hd]
  cases a with
  | null => exact hword _ (by simp [jsonWords, render]) c hc
  | bool b =>
    cases b with
    | false => exact hword ['f', 'a', 'l', 's', 'e'] (by simp [jsonWords]) c hc
    | true => exact hword ['t', 'r', 'u', 'e'] (by simp [jsonWords]) c hc
  | int n =>
    rcases mem_decimal hc with h | rfl
    · exact hdigit c h
    · decide
  | float lit =>
    have hfloat := lit.isFloat
    simp only [isFloatText, Bool.or_eq_true, Bool.and_eq_true, decide_eq_true_eq,
      all_eq_true] at hfloat
    rw [render] at hc
    rcases hfloat with ((hw | hw) | hw) | ⟨hall, -⟩
    · exact hfloatWord "NaN" (by simp) _ (hw ▸ hc)
    · exact hfloatWord "Infinity" (by simp) _ (hw ▸ hc)
    · exact hfloatWord "-Infinity" (by simp) _ (hw ▸ hc)
    · rcases hall c hc with (((h | rfl) | rfl) | rfl) | rfl
      · exact hdigit c h
      all_goals decide
  | str s => cases ha
  | arr xs => cases ha
  | obj kvs => cases ha

theorem isStop_of_isPlain (h : isPlain c = true) : isStop c = false := by
  rw [Bool.eq_false_iff]
  intro hs
  simp only [isStop, Bool.or_eq_true, decide_eq_true_eq] at hs
  rcases hs with (rfl | rfl) | rfl <;> revert h <;> decide

theorem render_ne_nil_of_opener_none (ha : opener a = none) : render a ≠ [] := by
  cases a with
  | null => decide
  | bool b => cases b <;> decide
  | int n =>
    rw [render, decimal]
    split
    · exact cons_ne_nil _ _
    · exact Nat.toDigits_ne_nil
  | float lit =>
    intro h
    have hfloat := lit.isFloat
    rw [render] at h
    rw [h] at hfloat
    exact absurd hfloat (by decide)
  | str s => cases ha
  | arr xs => cases ha
  | obj kvs => cases ha

theorem scalar_injective (ha : opener a = none) (hb : opener b = none)
    (h : render a = render b) : a = b := by
  have hint : ∀ (n : Int), ∀ w ∈ jsonWords, decimal n ≠ w := by
    intro n w hw hn
    have hlead : ∀ w ∈ jsonWords, ∃ c ∈ w, c.isDigit = false ∧ c ≠ '-' := by decide
    obtain ⟨c, hc, hdig, hminus⟩ := hlead w hw
    rcases mem_decimal (hn ▸ hc) with h | h
    · rw [hdig] at h; cases h
    · exact hminus h
  have hfloat : ∀ (lit : FloatLit), ∀ w ∈ jsonWords, lit.text.toList ≠ w := by
    intro lit w hw hl
    have hnot : ∀ w ∈ jsonWords, isFloatText w = false := by decide
    have := lit.isFloat
    rw [hl, hnot w hw] at this
    cases this
  cases a with
  | null =>
    cases b with
    | null => rfl
    | bool c => cases c <;> exact absurd h (by decide)
    | int n => exact absurd h.symm (hint n _ (by simp [jsonWords, render]))
    | float lit => exact absurd h.symm (hfloat lit _ (by simp [jsonWords, render]))
    | _ => cases hb
  | bool c =>
    cases b with
    | null => cases c <;> exact absurd h (by decide)
    | bool d => cases c <;> cases d <;> first | rfl | exact absurd h (by decide)
    | int n => cases c <;> exact absurd h.symm (hint n _ (by simp [jsonWords, render]))
    | float lit => cases c <;> exact absurd h.symm (hfloat lit _ (by simp [jsonWords, render]))
    | _ => cases hb
  | int m =>
    cases b with
    | null => exact absurd h (hint m _ (by simp [jsonWords, render]))
    | bool d => cases d <;> exact absurd h (hint m _ (by simp [jsonWords, render]))
    | int n => rw [decimal_injective h]
    | float lit => exact absurd h decimal_ne_floatText
    | _ => cases hb
  | float lit =>
    cases b with
    | null => exact absurd h (hfloat lit _ (by simp [jsonWords, render]))
    | bool d => cases d <;> exact absurd h (hfloat lit _ (by simp [jsonWords, render]))
    | int n => exact absurd h.symm decimal_ne_floatText
    | float lit' =>
      obtain ⟨t, ht⟩ := lit
      obtain ⟨t', ht'⟩ := lit'
      have htext : t = t' := String.toList_inj.mp h
      subst htext
      rfl
    | _ => cases hb
  | _ => cases ha

/-! ### Values can be read back -/

/-- The first character of a text is its opener, and no opener is a plain character. -/
theorem exists_render_append (v : Json) (z : List Char) :
    ∃ c r, render v ++ z = c :: r ∧ opener v = if isPlain c then none else some c := by
  rcases ho : opener v with - | c
  · obtain ⟨c, r, hr⟩ := exists_cons_of_ne_nil (render_ne_nil_of_opener_none ho)
    have hc : isPlain c = true := isPlain_of_mem_render ho (hr ▸ mem_cons_self)
    exact ⟨c, r ++ z, by rw [hr, cons_append], by rw [if_pos hc]⟩
  · cases v with
    | str s => exact ⟨'"', _, by rw [render, quote, cons_append], ho.symm⟩
    | arr xs => exact ⟨'[', _, by rw [render, cons_append], ho.symm⟩
    | obj kvs => exact ⟨'{', _, by rw [render, cons_append], ho.symm⟩
    | _ => cases ho

theorem opener_of_render_append (h : render a ++ x = render b ++ y) : opener a = opener b := by
  obtain ⟨c, r, hc, ha⟩ := exists_render_append a x
  obtain ⟨d, r', hd, hb⟩ := exists_render_append b y
  rw [hc, hd] at h
  rw [ha, hb, (List.cons.inj h).1]

theorem scalar_append_inj (ha : opener a = none) (hx : Ends x)
    (hy : Ends y) (h : render a ++ x = render b ++ y) : a = b ∧ x = y := by
  have hb : opener b = none := (opener_of_render_append h) ▸ ha
  obtain ⟨hab, hxy⟩ := plain_append_inj
    (fun c hc => isStop_of_isPlain (isPlain_of_mem_render ha hc))
    (fun c hc => isStop_of_isPlain (isPlain_of_mem_render hb hc)) hx hy h
  exact ⟨scalar_injective ha hb hab, hxy⟩

theorem ends_renderMoreItems {xs : List Json} : Ends (renderMoreItems xs ++ ']' :: x) := by
  cases xs <;> exact ends_cons (by decide)

theorem ends_renderMoreFields : Ends (renderMoreFields kvs ++ '}' :: x) := by
  cases kvs <;> exact ends_cons (by decide)

theorem render_append_ne_bracket : render a ++ x ≠ ']' :: y := by
  intro h
  -- a value's text starts with a plain character or an opener, and `]` is neither
  obtain ⟨c, r, hc, ha⟩ := exists_render_append a x
  rw [(List.cons.inj (hc.symm.trans h)).1, if_neg (by decide)] at ha
  cases a <;> simp [opener] at ha

/-- Texts of items stay equal with the separator in front. -/
theorem renderMoreItems_of_renderItems {xs ys : List Json}
    (h : renderItems xs ++ ']' :: x = renderItems ys ++ ']' :: y) :
    renderMoreItems xs ++ ']' :: x = renderMoreItems ys ++ ']' :: y := by
  cases xs <;> cases ys <;> simp only [renderItems, nil_append, append_assoc] at h
  · exact h
  · exact absurd h.symm render_append_ne_bracket
  · exact absurd h render_append_ne_bracket
  · simp only [renderMoreItems, cons_append, append_assoc, h]

theorem renderMoreFields_of_renderFields {kvs lvs : Fields}
    (h : renderFields kvs ++ '}' :: x = renderFields lvs ++ '}' :: y) :
    renderMoreFields kvs ++ '}' :: x = renderMoreFields lvs ++ '}' :: y := by
  cases kvs <;> cases lvs <;> simp [renderFields, quote] at h
  · rw [h]
  · simp [renderMoreFields, quote, h]

mutual

/-- **A value's text, followed by a delimiter or by nothing, can be split off in one way.** -/
theorem render_append_inj : ∀ (a b : Json) {x y : List Char}, Ends x → Ends y →
    render a ++ x = render b ++ y → a = b ∧ x = y
  | .null, _, _, _, hx, hy, h => scalar_append_inj rfl hx hy h
  | .bool _, _, _, _, hx, hy, h => scalar_append_inj rfl hx hy h
  | .int _, _, _, _, hx, hy, h => scalar_append_inj rfl hx hy h
  | .float _, _, _, _, hx, hy, h => scalar_append_inj rfl hx hy h
  | .str s, b, x, y, _, _, h => by
    have ho := opener_of_render_append h
    cases b with
    | str t =>
      rw [render, render] at h
      obtain ⟨rfl, hxy⟩ := quote_append_inj h
      exact ⟨rfl, hxy⟩
    | _ => simp [opener] at ho
  | .arr xs, b, x, y, _, _, h => by
    have ho := opener_of_render_append h
    cases b with
    | arr ys =>
      simp only [render, cons_append, append_assoc, nil_append, List.cons.injEq, true_and] at h
      obtain ⟨rfl, hxy⟩ := renderMoreItems_append_inj xs ys (renderMoreItems_of_renderItems h)
      exact ⟨rfl, hxy⟩
    | _ => simp [opener] at ho
  | .obj kvs, b, x, y, _, _, h => by
    have ho := opener_of_render_append h
    cases b with
    | obj lvs =>
      simp only [render, cons_append, append_assoc, nil_append, List.cons.injEq, true_and] at h
      obtain ⟨rfl, hxy⟩ := renderMoreFields_append_inj kvs lvs (renderMoreFields_of_renderFields h)
      exact ⟨rfl, hxy⟩
    | _ => simp [opener] at ho

theorem renderMoreItems_append_inj : ∀ (xs ys : List Json) {x y : List Char},
    renderMoreItems xs ++ ']' :: x = renderMoreItems ys ++ ']' :: y → xs = ys ∧ x = y
  | [], [], x, y, h => ⟨rfl, by simpa [renderMoreItems] using h⟩
  | [], b :: ys, x, y, h => by simp [renderMoreItems] at h
  | a :: xs, [], x, y, h => by simp [renderMoreItems] at h
  | a :: xs, b :: ys, x, y, h => by
    simp only [renderMoreItems, cons_append, append_assoc, List.cons.injEq, true_and] at h
    obtain ⟨rfl, hrest⟩ := render_append_inj a b ends_renderMoreItems ends_renderMoreItems h
    obtain ⟨rfl, hxy⟩ := renderMoreItems_append_inj xs ys hrest
    exact ⟨rfl, hxy⟩

theorem renderMoreFields_append_inj : ∀ (kvs lvs : Fields) {x y : List Char},
    renderMoreFields kvs ++ '}' :: x = renderMoreFields lvs ++ '}' :: y → kvs = lvs ∧ x = y
  | [], [], x, y, h => ⟨rfl, by simpa [renderMoreFields] using h⟩
  | [], (l, w) :: lvs, x, y, h => by simp [renderMoreFields] at h
  | (k, v) :: kvs, [], x, y, h => by simp [renderMoreFields] at h
  | (k, v) :: kvs, (l, w) :: lvs, x, y, h => by
    simp only [renderMoreFields, append_assoc, cons_append, List.cons.injEq, true_and] at h
    obtain ⟨rfl, hval⟩ := quote_append_inj h
    obtain ⟨rfl, hrest⟩ := render_append_inj v w ends_renderMoreFields
      ends_renderMoreFields (List.cons.inj hval).2
    obtain ⟨rfl, hxy⟩ := renderMoreFields_append_inj kvs lvs hrest
    exact ⟨rfl, hxy⟩

end

/-- **The text determines the value.** -/
theorem render_injective (h : render a = render b) : a = b := by
  have hends : Ends [] := by
    intro c hc
    cases hc
  exact (render_append_inj a b hends hends (by rw [h])).1

/-- **The canonical text determines the value up to the order of keys.** -/
theorem canonical_injective (h : canonical a = canonical b) : sortKeys a = sortKeys b :=
  render_injective h

/-! ### Sorting keeps every look-up -/

theorem lookup_sortFields : (sortFields kvs).lookup k = (kvs.lookup k).map sortKeys := by
  induction kvs with
  | nil => rfl
  | cons e kvs ih =>
    obtain ⟨l, v⟩ := e
    rw [sortFields, lookup_cons, lookup_cons]
    cases hkl : k == l with
    | true => rfl
    | false => exact ih

theorem map_fst_sortFields : (sortFields kvs).map Prod.fst = kvs.map Prod.fst := by
  induction kvs with
  | nil => rfl
  | cons e kvs ih =>
    obtain ⟨l, v⟩ := e
    rw [sortFields, map_cons, map_cons, ih]

/-- With each key once, a look-up does not depend on the order of the fields. -/
theorem lookup_perm {β : Type} {kvs lvs : List (String × β)} (hp : kvs.Perm lvs)
    (hnd : (kvs.map Prod.fst).Nodup) : kvs.lookup k = lvs.lookup k := by
  induction hp with
  | nil => rfl
  | cons e _ ih =>
    obtain ⟨l, v⟩ := e
    rw [map_cons, nodup_cons] at hnd
    rw [lookup_cons, lookup_cons, ih hnd.2]
  | swap e f kvs =>
    obtain ⟨l, v⟩ := e
    obtain ⟨m, w⟩ := f
    have hne : m ≠ l := by
      rintro rfl
      simp at hnd
    simp only [lookup_cons]
    by_cases hl : k = l
    · subst hl
      rw [beq_self_eq_true, beq_eq_false_iff_ne.mpr hne.symm]
    · rw [beq_eq_false_iff_ne.mpr hl]
  | trans h₁ _ ih₁ ih₂ =>
    rw [ih₁ hnd, ih₂ ((h₁.map Prod.fst).nodup_iff.mp hnd)]

/-- **Two objects with one canonical text agree, field by field, up to the order of keys in
the fields.** -/
theorem lookup_of_canonical_eq {kvs lvs : Fields}
    (hk : (kvs.map Prod.fst).Nodup) (hl : (lvs.map Prod.fst).Nodup)
    (h : canonical (.obj kvs) = canonical (.obj lvs)) (k : String) :
    (kvs.lookup k).map sortKeys = (lvs.lookup k).map sortKeys := by
  have hsorted : (sortFields kvs).insertionSort keyLe = (sortFields lvs).insertionSort keyLe := by
    have heq := canonical_injective h
    rw [sortKeys, sortKeys] at heq
    exact Json.obj.inj heq
  have hsort : ∀ ms : Fields, (ms.map Prod.fst).Nodup →
      ((sortFields ms).insertionSort keyLe).lookup k = (ms.lookup k).map sortKeys := by
    intro ms hms
    have hnd : ((sortFields ms).map Prod.fst).Nodup := by rwa [map_fst_sortFields]
    rw [← lookup_perm (perm_insertionSort keyLe (sortFields ms)).symm hnd, lookup_sortFields]
  rw [← hsort kvs hk, ← hsort lvs hl, hsorted]

end Json

end CaiNetwork
