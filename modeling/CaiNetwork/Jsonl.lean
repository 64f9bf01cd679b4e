/-
CaiNetwork/Jsonl.lean

Line-delimited stores: one JSON object a line, appended by the writer of `settlement.py` and read,
with its healing, by `read_jsonl_object_file` (`local_json_store.py`).

The writer leaves everything beyond ASCII as it is, the reader cuts the text at every line boundary
of Unicode, also where one stands inside a string (`splitsLine`).  A file that was cut off is healed
by keeping the lines before the cut, unless the cut goes through a character of several bytes.
`jsonl_roundtrip_iff` says that these two are all that can go wrong.  The decoder of the interpreter
is a parameter (`JsonModule`).
-/

import CaiNetwork.Host
import CaiNetwork.Lines
import Mathlib.Data.List.TakeWhile

namespace CaiNetwork

open List

variable {texts : List String} {c : Char} {n : Nat}

/-! ### The writer -/

/-- The text of a string with `ensure_ascii=False`. -/
def quoteText (s : String) : List Char := '"' :: (s.toList.flatMap Json.escapeChar ++ ['"'])

mutual

/-- `json.dumps(value, ensure_ascii=False)`. -/
def dumps : Json → List Char
  | .null => ['n', 'u', 'l', 'l']
  | .bool true => ['t', 'r', 'u', 'e']
  | .bool false => ['f', 'a', 'l', 's', 'e']
  | .int n => Json.decimal n
  | .float lit => lit.text.toList
  | .str s => quoteText s
  | .arr xs => '[' :: (dumpsItems xs ++ [']'])
  | .obj kvs => '{' :: (dumpsFields kvs ++ ['}'])

/-- The items of an array. -/
def dumpsItems : List Json → List Char
  | [] => []
  | x :: xs => dumps x ++ dumpsMoreItems xs

/-- The items after the first. -/
def dumpsMoreItems : List Json → List Char
  | [] => []
  | x :: xs => ',' :: ' ' :: (dumps x ++ dumpsMoreItems xs)

/-- The fields of an object. -/
def dumpsFields : Fields → List Char
  | [] => []
  | (k, v) :: kvs => quoteText k ++ ':' :: ' ' :: (dumps v ++ dumpsMoreFields kvs)

/-- The fields after the first. -/
def dumpsMoreFields : Fields → List Char
  | [] => []
  | (k, v) :: kvs =>
    ',' :: ' ' :: (quoteText k ++ ':' :: ' ' :: (dumps v ++ dumpsMoreFields kvs))

end

mutual

/-- The strings of a value, keys included. -/
def Json.texts : Json → List String
  | .str s => [s]
  | .arr xs => itemTexts xs
  | .obj kvs => fieldTexts kvs
  | _ => []

def itemTexts : List Json → List String
  | [] => []
  | x :: xs => x.texts ++ itemTexts xs

def fieldTexts : Fields → List String
  | [] => []
  | (k, v) :: kvs => k :: (v.texts ++ fieldTexts kvs)

end

/-- The line boundaries that JSON does not escape. -/
def splitsLine (c : Char) : Bool := c.toNat = 0x85 || c.toNat = 0x2028 || c.toNat = 0x2029

/-- A record of a store. -/
abbrev JsonlRecord := Fields

/-- The line of a record. -/
def recordLine (record : JsonlRecord) : List Char := dumps (.obj record)

/-- A store: the bytes of the file, where there is one, and the copies kept of corrupt files. -/
structure JsonlFile where
  bytes : Option ByteArray
  backups : List ByteArray

/-- `handle.write(json.dumps(record, ensure_ascii=False) + "\n")`, in append mode. -/
def appendRecord (file : JsonlFile) (record : JsonlRecord) : JsonlFile :=
  { file with
    bytes := some (file.bytes.getD ByteArray.empty ++ encodeUtf8 (recordLine record ++ ['\n'])) }

/-- The store after the records were appended one after the other. -/
def jsonlStore (records : List JsonlRecord) : JsonlFile := records.foldl appendRecord ⟨none, []⟩

/-! ### The reader -/

/-- `json.loads` and `JSONDecoder().raw_decode`; nothing stands for the `JSONDecodeError`. -/
structure JsonModule where
  loads : List Char → Option Json
  rawDecode : List Char → Option Json

/-- `text.strip()`. -/
def stripChars (text : List Char) : List Char :=
  ((text.dropWhile isSpace).reverse.dropWhile isSpace).reverse

/-- `line.replace("\x00", "").strip()`. -/
def sanitize (line : List Char) : List Char := stripChars (line.filter (·.toNat ≠ 0))

/-- What the reader makes of one line. -/
inductive LineVerdict
  | blank
  | corrupt
  /-- A record; whether its line has to be cleaned. -/
  | item (record : JsonlRecord) (cleaned : Bool)

/-- The object of a decoded line. -/
def objectVerdict (payload : Json) (cleaned : Bool) : LineVerdict :=
  match payload with
  | .obj record => .item record cleaned
  | _ => .corrupt

/-- One line of the loop of `read_jsonl_object_file`. -/
def readLine (json : JsonModule) (line : List Char) : LineVerdict :=
  if stripChars line = [] then .blank
  else if sanitize line = [] then .corrupt
  else
    match json.loads line with
    | some payload => objectVerdict payload false
    | none =>
      match json.rawDecode (sanitize line) with
      | some payload => objectVerdict payload true
      | none => .corrupt

/-- The records of the lines, in order. -/
def lineItems (verdicts : List LineVerdict) : List JsonlRecord :=
  verdicts.filterMap fun verdict =>
    match verdict with
    | .item record _ => some record
    | _ => none

/-- `corrupted`. -/
def anyCorrupt (verdicts : List LineVerdict) : Bool :=
  verdicts.any fun verdict =>
    match verdict with
    | .blank => false
    | .corrupt => true
    | .item _ cleaned => cleaned

/-- `_heal_file_if_unchanged`, on a file nobody else has changed. -/
def healFile (file : JsonlFile) (bytes : ByteArray) (recovered : List Char) : JsonlFile where
  bytes := some (encodeUtf8 recovered)
  backups := bytes :: file.backups

/-- `read_jsonl_object_file`. -/
def readJsonlObjectFile (json : JsonModule) (healCorrupt : Bool) (file : JsonlFile) :
    List JsonlRecord × JsonlFile :=
  match file.bytes with
  | none => ([], file)
  | some bytes =>
    if bytes.isEmpty then ([], file)
    else
      match decodeUtf8 bytes with
      | none => ([], if healCorrupt then healFile file bytes [] else file)
      | some text =>
        let verdicts := (splitlines text).map (readLine json)
        (lineItems verdicts,
          if healCorrupt && anyCorrupt verdicts then
            healFile file bytes (unlines ((lineItems verdicts).map recordLine))
          else file)

/-- The file after it was cut off. -/
def truncateFile (n : Nat) (file : JsonlFile) : JsonlFile :=
  { file with
    bytes := file.bytes.map fun bytes => bytes.extract 0 n }

/-! ### The characters of a line -/

def isPrintable (c : Char) : Bool := 0x20 ≤ c.toNat && c.toNat < 0x80

/-- A character of a text made of strings: not a control character, and a line boundary only where
a string has it. -/
def TextOf (texts : List String) (c : Char) : Prop :=
  0x20 ≤ c.toNat ∧ (splitsLine c = true → ∃ s ∈ texts, c ∈ s.toList)

theorem TextOf.of_printable (h : isPrintable c = true) : TextOf texts c := by
  simp only [isPrintable, Bool.and_eq_true, decide_eq_true_eq] at h
  refine ⟨h.1, fun hc => ?_⟩
  simp only [splitsLine, Bool.or_eq_true, decide_eq_true_eq] at hc
  omega

theorem TextOf.mono {texts' : List String} (h : TextOf texts c)
    (hsub : texts ⊆ texts') : TextOf texts' c :=
  ⟨h.1, fun hc => (h.2 hc).imp fun _ hs => ⟨hsub hs.1, hs.2⟩⟩

theorem isPrintable_of_isPlain (h : Json.isPlain c = true) : isPrintable c = true := by
  delta Json.isPlain Char.isAlphanum Char.isAlpha Char.isUpper Char.isLower Char.isDigit at h
  simp only [Bool.or_eq_true, Bool.and_eq_true, decide_eq_true_eq, ge_iff_le,
    UInt32.le_iff_toNat_le] at h
  have hval : c.val.toNat = c.toNat := rfl
  rw [hval] at h
  simp only [isPrintable, Bool.and_eq_true, decide_eq_true_eq]
  rcases h with (((h | h) | h) | h) | h
  · rcases h with h | h <;> simp at h <;> omega
  · simp at h
    omega
  all_goals
    rw [h]
    decide

/-- The characters a string's character is written with. -/
theorem textOf_escapeChar {d : Char}
    (hd : splitsLine d = true → ∃ s ∈ texts, d ∈ s.toList) (hc : c ∈ Json.escapeChar d) :
    TextOf texts c := by
  have hhex : ∀ e ∈ Sha256.hexAlphabet, isPrintable e = true := by decide
  unfold Json.escapeChar at hc
  split_ifs at hc
  case neg =>
    rw [mem_singleton.mp hc]
    exact ⟨by omega, hd⟩
  all_goals
    refine .of_printable ?_
    simp only [mem_cons, not_mem_nil, or_false] at hc
  -- a pair of characters, or the escape by code that ends with two hexadecimal digits
  all_goals first
    | (rcases hc with rfl | rfl <;> decide)
    | (rcases hc with rfl | rfl | rfl | rfl | rfl | rfl
       · decide
       · decide
       · decide
       · decide
       · exact hhex _ (Sha256.hexDigit_mem _)
       · exact hhex _ (Sha256.hexDigit_mem _))

theorem escapeChar_splitsLine (h : splitsLine c = true) : Json.escapeChar c = [c] := by
  apply Json.escapeChar_of_byte
  simp only [splitsLine, Bool.or_eq_true, decide_eq_true_eq] at h
  omega

theorem textOf_quoteText {s : String} (hc : c ∈ quoteText s) : TextOf [s] c := by
  simp only [quoteText, mem_cons, mem_append, mem_flatMap, not_mem_nil, or_false] at hc
  rcases hc with rfl | ⟨d, hd, hc⟩ | rfl
  · exact .of_printable (by decide)
  · exact textOf_escapeChar (fun _ => ⟨s, mem_singleton_self s, hd⟩) hc
  · exact .of_printable (by decide)

theorem textOf_scalar {a : Json} (ha : a.opener = none) (hc : c ∈ a.render) : TextOf texts c :=
  .of_printable (isPrintable_of_isPlain (Json.isPlain_of_mem_render ha hc))

theorem dumpsItems_subset : ∀ xs : List Json, dumpsItems xs ⊆ dumpsMoreItems xs
  | [] => List.Subset.refl _
  | x :: xs => by
    rw [dumpsItems, dumpsMoreItems]
    exact subset_cons_of_subset _ (subset_cons_of_subset _ (List.Subset.refl _))

theorem dumpsFields_subset : ∀ kvs : Fields, dumpsFields kvs ⊆ dumpsMoreFields kvs
  | [] => List.Subset.refl _
  | (k, v) :: kvs => by
    rw [dumpsFields, dumpsMoreFields]
    exact subset_cons_of_subset _ (subset_cons_of_subset _ (List.Subset.refl _))

mutual

theorem textOf_dumps : ∀ (v : Json) {c : Char}, c ∈ dumps v → TextOf v.texts c
  | .null, c, hc => textOf_scalar (a := .null) rfl hc
  | .bool true, c, hc => textOf_scalar (a := .bool true) rfl hc
  | .bool false, c, hc => textOf_scalar (a := .bool false) rfl hc
  | .int n, c, hc => textOf_scalar (a := .int n) rfl hc
  | .float lit, c, hc => textOf_scalar (a := .float lit) rfl hc
  | .str s, c, hc => by
    rw [dumps] at hc
    rw [Json.texts]
    exact textOf_quoteText hc
  | .arr xs, c, hc => by
    rw [dumps, mem_cons, mem_append, mem_singleton] at hc
    rw [Json.texts]
    rcases hc with rfl | hc | rfl
    · exact .of_printable (by decide)
    · exact textOf_dumpsMoreItems xs (dumpsItems_subset xs hc)
    · exact .of_printable (by decide)
  | .obj kvs, c, hc => by
    rw [dumps, mem_cons, mem_append, mem_singleton] at hc
    rw [Json.texts]
    rcases hc with rfl | hc | rfl
    · exact .of_printable (by decide)
    · exact textOf_dumpsMoreFields kvs (dumpsFields_subset kvs hc)
    · exact .of_printable (by decide)

theorem textOf_dumpsMoreItems : ∀ (xs : List Json) {c : Char}, c ∈ dumpsMoreItems xs →
    TextOf (itemTexts xs) c
  | [], c, hc => by cases hc
  | x :: xs, c, hc => by
    rw [dumpsMoreItems, mem_cons, mem_cons, mem_append] at hc
    rw [itemTexts]
    rcases hc with rfl | rfl | hc | hc
    · exact .of_printable (by decide)
    · exact .of_printable (by decide)
    · exact (textOf_dumps x hc).mono (subset_append_left _ _)
    · exact (textOf_dumpsMoreItems xs hc).mono (subset_append_right _ _)

theorem textOf_dumpsMoreFields : ∀ (kvs : Fields) {c : Char},
    c ∈ dumpsMoreFields kvs → TextOf (fieldTexts kvs) c
  | [], c, hc => by cases hc
  | (k, v) :: kvs, c, hc => by
    rw [dumpsMoreFields, mem_cons, mem_cons, mem_append, mem_cons, mem_cons, mem_append] at hc
    rw [fieldTexts]
    rcases hc with rfl | rfl | hc | rfl | rfl | hc | hc
    · exact .of_printable (by decide)
    · exact .of_printable (by decide)
    · exact (textOf_quoteText hc).mono (by simp)
    · exact .of_printable (by decide)
    · exact .of_printable (by decide)
    · exact (textOf_dumps v hc).mono (by simp)
    · exact (textOf_dumpsMoreFields kvs hc).mono (by simp)

end

/-! A line boundary inside a string is written as it is. -/

theorem mem_quoteText {s : String} (hc : c ∈ s.toList) (h : splitsLine c = true) :
    c ∈ quoteText s := by
  refine mem_cons_of_mem _ (mem_append_left _ (mem_flatMap.mpr ⟨c, hc, ?_⟩))
  rw [escapeChar_splitsLine h]
  exact mem_singleton_self c

mutual

theorem mem_dumps (h : splitsLine c = true) :
    ∀ (v : Json) {s : String}, s ∈ v.texts → c ∈ s.toList → c ∈ dumps v
  | .str s, t, ht, hc => by
    rw [Json.texts, mem_singleton] at ht
    rw [dumps]
    exact mem_quoteText (ht ▸ hc) h
  | .arr xs, t, ht, hc => by
    rw [Json.texts] at ht
    rw [dumps]
    exact mem_cons_of_mem _ (mem_append_left _ (mem_dumpsItems h xs ht hc).1)
  | .obj kvs, t, ht, hc => by
    rw [Json.texts] at ht
    rw [dumps]
    exact mem_cons_of_mem _ (mem_append_left _ (mem_dumpsFields h kvs ht hc).1)
  | .null, t, ht, hc => by cases ht
  | .bool true, t, ht, hc => by cases ht
  | .bool false, t, ht, hc => by cases ht
  | .int n, t, ht, hc => by cases ht
  | .float lit, t, ht, hc => by cases ht

theorem mem_dumpsItems (h : splitsLine c = true) : ∀ (xs : List Json) {s : String},
    s ∈ itemTexts xs → c ∈ s.toList → c ∈ dumpsItems xs ∧ c ∈ dumpsMoreItems xs
  | [], t, ht, hc => by cases ht
  | x :: xs, t, ht, hc => by
    rw [itemTexts, mem_append] at ht
    rw [dumpsItems, dumpsMoreItems]
    rcases ht with ht | ht
    · have hx := mem_dumps h x ht hc
      simp [hx]
    · have hxs := mem_dumpsItems h xs ht hc
      simp [hxs.2]

theorem mem_dumpsFields (h : splitsLine c = true) :
    ∀ (kvs : Fields) {s : String}, s ∈ fieldTexts kvs → c ∈ s.toList →
      c ∈ dumpsFields kvs ∧ c ∈ dumpsMoreFields kvs
  | [], t, ht, hc => by cases ht
  | (k, v) :: kvs, t, ht, hc => by
    rw [fieldTexts, mem_cons, mem_append] at ht
    rw [dumpsFields, dumpsMoreFields]
    rcases ht with rfl | ht | ht
    · have hk := mem_quoteText hc h
      simp [hk]
    · have hv := mem_dumps h v ht hc
      simp [hv]
    · have hkvs := mem_dumpsFields h kvs ht hc
      simp [hkvs.2]

end

/-! ### Reading what was written -/

section Lines

variable {r : JsonlRecord} {p : List Char}

/-- No string of the record has a line boundary that JSON leaves as it is. -/
def NoBreaks (record : JsonlRecord) : Prop :=
  ∀ s ∈ fieldTexts record, ∀ c ∈ s.toList, splitsLine c = false

theorem isLineBreak_of_splitsLine (h : splitsLine c = true) : isLineBreak c = true := by
  simp only [splitsLine, isLineBreak, Bool.or_eq_true, decide_eq_true_eq] at h ⊢
  tauto

theorem splitsLine_of_isLineBreak (hlow : 0x20 ≤ c.toNat) (h : isLineBreak c = true) :
    splitsLine c = true := by
  simp only [splitsLine, isLineBreak, Bool.or_eq_true, Bool.and_eq_true, decide_eq_true_eq] at h ⊢
  omega

theorem textOf_recordLine (hc : c ∈ recordLine r) : TextOf (fieldTexts r) c := by
  have htext := textOf_dumps (.obj r) hc
  rwa [Json.texts] at htext

/-- **The boundaries of a line are those of its strings.** -/
theorem noBreaks_iff : NoBreaks r ↔ ∀ c ∈ recordLine r, isLineBreak c = false := by
  constructor
  · intro h c hc
    rw [Bool.eq_false_iff]
    intro hbreak
    obtain ⟨hlow, htext⟩ := textOf_recordLine hc
    have hsplits := splitsLine_of_isLineBreak hlow hbreak
    obtain ⟨s, hs, hcs⟩ := htext hsplits
    rw [h s hs c hcs] at hsplits
    cases hsplits
  · intro h s hs c hc
    rw [Bool.eq_false_iff]
    intro hsplits
    have hmem : c ∈ recordLine r := mem_dumps hsplits (.obj r) (by rwa [Json.texts]) hc
    have hbreak := isLineBreak_of_splitsLine hsplits
    rw [h c hmem] at hbreak
    cases hbreak

theorem recordLine_head (r : JsonlRecord) : ∃ rest, recordLine r = '{' :: rest :=
  ⟨dumpsFields r ++ ['}'], by rw [recordLine, dumps]⟩

theorem recordLine_ne_nil (r : JsonlRecord) : recordLine r ≠ [] := by
  obtain ⟨rest, hrest⟩ := recordLine_head r
  rw [hrest]
  exact cons_ne_nil _ _

/-- A text that starts with a visible character loses at most its end. -/
theorem stripChars_cons {rest : List Char} (hc : isSpace c = false) :
    stripChars (c :: rest) <+: c :: rest ∧ stripChars (c :: rest) ≠ [] := by
  have hdrop : (c :: rest).dropWhile isSpace = c :: rest := by
    rw [dropWhile_cons, hc]
    rfl
  rw [stripChars, hdrop]
  constructor
  · rw [← reverse_suffix, reverse_reverse]
    exact dropWhile_suffix _
  · intro h
    have hall := dropWhile_eq_nil_iff.mp (reverse_eq_nil_iff.mp h) c (by simp)
    rw [hc] at hall
    cases hall

/-- A piece of a line holds no zero bytes, so that cleaning it only strips it. -/
theorem sanitize_piece (hp : p <+: recordLine r) (hne : p ≠ []) :
    sanitize p <+: p ∧ sanitize p ≠ [] ∧ stripChars p ≠ [] := by
  have hfilter : p.filter (·.toNat ≠ 0) = p := by
    refine filter_eq_self.mpr fun c hc => ?_
    have hlow := (textOf_recordLine (hp.subset hc)).1
    simp only [ne_eq, decide_eq_true_eq]
    omega
  obtain ⟨rest, hrest⟩ := recordLine_head r
  cases p with
  | nil => exact absurd rfl hne
  | cons c q =>
    rw [hrest] at hp
    obtain ⟨rfl, -⟩ := cons_prefix_cons.mp hp
    have hstrip : stripChars ('{' :: q) <+: '{' :: q ∧ stripChars ('{' :: q) ≠ [] :=
      stripChars_cons (by decide)
    rw [sanitize, hfilter]
    exact ⟨hstrip.1, hstrip.2, hstrip.2⟩

/-- What the decoder makes of a record's line, and of what is left of it when its end is missing. -/
structure JsonModule.Reads (json : JsonModule) (record : JsonlRecord) : Prop where
  whole : json.loads (recordLine record) = some (.obj record)
  cut : ∀ p, p <+: recordLine record → p ≠ recordLine record →
    json.loads p = none ∧ json.rawDecode p = none

variable {json : JsonModule}

theorem readLine_record (h : json.Reads r) : readLine json (recordLine r) = .item r false := by
  obtain ⟨-, hsanitize, hstrip⟩ := sanitize_piece (prefix_refl _) (recordLine_ne_nil r)
  rw [readLine, if_neg hstrip, if_neg hsanitize, h.whole]
  rfl

theorem readLine_cut (h : json.Reads r) (hp : p <+: recordLine r) (hcut : p ≠ recordLine r)
    (hne : p ≠ []) : readLine json p = .corrupt := by
  obtain ⟨hpiece, hsanitize, hstrip⟩ := sanitize_piece hp hne
  have hshort : sanitize p ≠ recordLine r := by
    intro heq
    rw [heq] at hpiece
    exact hcut (hp.eq_of_length_le hpiece.length_le)
  rw [readLine, if_neg hstrip, if_neg hsanitize, (h.cut p hp hcut).1,
    (h.cut _ (hpiece.trans hp) hshort).2]

/-! ### Texts of records -/

/-- The text of a store. -/
def storeText (records : List JsonlRecord) : List Char := unlines (records.map recordLine)

variable {backups : List ByteArray} {records : List JsonlRecord}

theorem storeText_cons : storeText (r :: records) = recordLine r ++ '\n' :: storeText records := rfl

/-- The verdicts of the reader on a text. -/
def textVerdicts (json : JsonModule) (text : List Char) : List LineVerdict :=
  (splitlines text).map (readLine json)

/-- Whole lines are read as their records. -/
theorem textVerdicts_lines (hreads : ∀ r ∈ records, json.Reads r)
    (hbreaks : ∀ r ∈ records, NoBreaks r) (p : List Char) :
    textVerdicts json (storeText records ++ p) =
      records.map (fun r => .item r false) ++ textVerdicts json p := by
  have hlines : ∀ l ∈ records.map recordLine, ∀ c ∈ l, isLineBreak c = false := by
    intro l hl
    obtain ⟨r, hr, rfl⟩ := mem_map.mp hl
    exact noBreaks_iff.mp (hbreaks r hr)
  rw [textVerdicts, storeText, splitlines_unlines hlines, map_append, map_map]
  refine congrArg (· ++ _) (map_congr_left fun r hr => ?_)
  exact readLine_record (hreads r hr)

theorem lineItems_items (records : List JsonlRecord) (verdicts : List LineVerdict) :
    lineItems (records.map (fun r => .item r false) ++ verdicts) =
      records ++ lineItems verdicts := by
  rw [lineItems, filterMap_append, filterMap_map]
  refine congrArg (· ++ _) ?_
  exact filterMap_some

theorem anyCorrupt_items (records : List JsonlRecord) (verdicts : List LineVerdict) :
    anyCorrupt (records.map (fun r => .item r false) ++ verdicts) = anyCorrupt verdicts := by
  rw [anyCorrupt, any_append, any_map]
  have hnone : (records.any fun _ => false) = false := by simp
  exact (congrArg (· || _) hnone).trans (Bool.false_or _)

/-- The reader on the bytes of a text. -/
theorem read_text (heal : Bool) {text : List Char} :
    readJsonlObjectFile json heal ⟨some (encodeUtf8 text), backups⟩ =
      (lineItems (textVerdicts json text),
        if heal && anyCorrupt (textVerdicts json text) then
          ⟨some (encodeUtf8 (storeText (lineItems (textVerdicts json text)))),
            encodeUtf8 text :: backups⟩
        else ⟨some (encodeUtf8 text), backups⟩) := by
  unfold readJsonlObjectFile
  dsimp only
  by_cases hempty : text = []
  · have hbytes : (encodeUtf8 []).isEmpty = true := rfl
    have hnone : textVerdicts json [] = [] := rfl
    have hclean : (heal && anyCorrupt []) = false := Bool.and_false heal
    rw [hempty, if_pos hbytes, hnone, hclean]
    rfl
  · have hbytes : ¬(encodeUtf8 text).isEmpty = true := by
      have hpos := utf8Length_pos hempty
      rw [ByteArray.isEmpty, beq_iff_eq]
      rw [utf8Length] at hpos
      omega
    rw [if_neg hbytes, decodeUtf8_encodeUtf8]
    rfl

/-- The store of appended records. -/
theorem jsonlStore_cons (r : JsonlRecord) (records : List JsonlRecord) :
    jsonlStore (r :: records) = ⟨some (encodeUtf8 (storeText (r :: records))), []⟩ := by
  have happend : ∀ (rs : List JsonlRecord) (text : List Char),
      rs.foldl appendRecord ⟨some (encodeUtf8 text), []⟩ =
        ⟨some (encodeUtf8 (text ++ storeText rs)), []⟩ := by
    intro rs
    induction rs with
    | nil => intro text; simp [storeText]
    | cons r rs ih =>
      intro text
      have hstep : appendRecord ⟨some (encodeUtf8 text), []⟩ r =
          ⟨some (encodeUtf8 (text ++ (recordLine r ++ ['\n']))), []⟩ := by
        rw [encodeUtf8_append]
        rfl
      rw [foldl_cons, hstep, ih, storeText_cons]
      simp
  have hfirst : appendRecord ⟨none, []⟩ r = ⟨some (encodeUtf8 (recordLine r ++ ['\n'])), []⟩ := by
    show (⟨some (ByteArray.empty ++ _), []⟩ : JsonlFile) = _
    rw [ByteArray.empty_append]
  rw [jsonlStore, foldl_cons, hfirst, happend, storeText_cons]
  simp

/-! ### Complete records -/

/-- The records whose text lies before the cut. -/
def completeRecords : List JsonlRecord → Nat → List JsonlRecord
  | [], _ => []
  | r :: rs, n =>
    if utf8Length (recordLine r) ≤ n then
      r :: completeRecords rs (n - (utf8Length (recordLine r) + 1))
    else []

theorem completeRecords_all (h : utf8Length (storeText records) ≤ n) :
    completeRecords records n = records := by
  induction records generalizing n with
  | nil => rfl
  | cons r rs ih =>
    have hlength : utf8Length (storeText (r :: rs)) =
        utf8Length (recordLine r) + (1 + utf8Length (storeText rs)) := by
      rw [storeText_cons, utf8Length_append, utf8Length_feed]
    rw [hlength] at h
    rw [completeRecords, if_pos (by omega), ih (by omega)]

/-- Up to a cut after whole lines and a piece of the next one. -/
theorem completeRecords_cut {done rest : List JsonlRecord} {p : List Char} :
    completeRecords (done ++ rest) (utf8Length (storeText done ++ p)) =
      done ++ completeRecords rest (utf8Length p) := by
  induction done with
  | nil => rfl
  | cons r rs ih =>
    have hlength : utf8Length (storeText (r :: rs) ++ p) =
        utf8Length (recordLine r) + 1 + utf8Length (storeText rs ++ p) := by
      rw [storeText_cons, append_assoc, cons_append, utf8Length_append, utf8Length_feed]
      omega
    rw [cons_append, completeRecords, hlength, if_pos (by omega), Nat.add_sub_cancel_left, ih]
    rfl

theorem completeRecords_zero : completeRecords records 0 = [] := by
  cases records with
  | nil => rfl
  | cons r rs =>
    have hpos := utf8Length_pos (recordLine_ne_nil r)
    rw [completeRecords, if_neg (by omega)]

/-- A piece of the next line counts where it is the whole line. -/
theorem completeRecords_piece {rs : List JsonlRecord} (hp : p <+: recordLine r) :
    completeRecords (r :: rs) (utf8Length p) = if p = recordLine r then [r] else [] := by
  by_cases hwhole : p = recordLine r
  · have hsub : utf8Length (recordLine r) - (utf8Length (recordLine r) + 1) = 0 := by omega
    rw [if_pos hwhole, hwhole, completeRecords, if_pos le_rfl, hsub, completeRecords_zero]
  · rw [if_neg hwhole, completeRecords, if_neg]
    exact fun hle => hwhole (eq_of_utf8Length_le hp hle)

/-! ### Reading back, healing and cutting -/

/-- **Reading back**: records without boundaries inside strings come back and the file stays. -/
theorem read_storeText (hreads : ∀ r ∈ records, json.Reads r)
    (hbreaks : ∀ r ∈ records, NoBreaks r) :
    readJsonlObjectFile json true ⟨some (encodeUtf8 (storeText records)), backups⟩ =
      (records, ⟨some (encodeUtf8 (storeText records)), backups⟩) := by
  have hverdicts := textVerdicts_lines hreads hbreaks []
  have hnone : textVerdicts json [] = [] := rfl
  have hitems := lineItems_items records []
  have hclean := anyCorrupt_items records []
  rw [append_nil, hnone] at hverdicts
  rw [read_text, hverdicts, hitems, hclean]
  simp [lineItems, anyCorrupt]

/-- A boundary inside a string cuts its line, and what is left of the line is corrupt. -/
theorem anyCorrupt_of_breaks (hreads : ∀ r ∈ records, json.Reads r) {r : JsonlRecord}
    (hr : r ∈ records) (hbreak : ¬NoBreaks r) :
    anyCorrupt (textVerdicts json (storeText records)) = true := by
  induction records with
  | nil => cases hr
  | cons s rs ih =>
    have hs := hreads s mem_cons_self
    rw [storeText_cons]
    by_cases hsbreak : NoBreaks s
    · -- the boundary is in a later record
      have hr' : r ∈ rs := by
        rcases mem_cons.mp hr with rfl | hr'
        · exact absurd hsbreak hbreak
        · exact hr'
      have hrest := ih (fun r hr => hreads r (mem_cons_of_mem s hr)) hr'
      rw [textVerdicts, splitlines_line (noBreaks_iff.mp hsbreak) (by decide) (by decide),
        map_cons, readLine_record hs]
      exact hrest
    · rcases hfind : (recordLine s).find? isLineBreak with - | d
      · refine absurd (noBreaks_iff.mpr fun c hc => ?_) hsbreak
        simpa using find?_eq_none.mp hfind c hc
      obtain ⟨hd, p, q, hline, hp⟩ := find?_eq_some_iff_append.mp hfind
      have hpiece : p <+: recordLine s := by
        rw [hline]
        exact prefix_append p _
      have hd20 := (textOf_recordLine (r := s) (c := d) (by rw [hline]; simp)).1
      have hpne : p ≠ [] := by
        rintro rfl
        obtain ⟨rest, hrest⟩ := recordLine_head s
        rw [hline] at hrest
        cases hrest
        exact absurd hd (by decide)
      have hcut : p ≠ recordLine s := by
        intro heq
        rw [← heq] at hline
        simpa using congrArg List.length hline
      have hdr : d ≠ '\r' := by
        rintro rfl
        exact absurd hd20 (by decide)
      rw [hline, append_assoc, cons_append, textVerdicts,
        splitlines_line (fun c hc => by simpa using hp c hc) hd hdr, map_cons,
          readLine_cut hs hpiece hcut hpne]
      rfl

/-- A piece of a line at the end of a text. -/
theorem textVerdicts_piece (hr : json.Reads r) (hbreaks : NoBreaks r) (hp : p <+: recordLine r)
    (hne : p ≠ []) :
    textVerdicts json p = [if p = recordLine r then .item r false else .corrupt] := by
  have hlast : splitlines p = [p] :=
    splitlines_last (fun c hc => noBreaks_iff.mp hbreaks c (hp.subset hc)) hne
  rw [textVerdicts, hlast]
  by_cases hwhole : p = recordLine r
  · rw [if_pos hwhole, hwhole, map_singleton, readLine_record hr]
  · rw [if_neg hwhole, map_singleton, readLine_cut hr hp hwhole hne]

/-- A store that was cut off between two characters: whole lines and a piece of the next one. -/
theorem exists_cut (hvalid : ((encodeUtf8 (storeText records)).extract 0 n).IsValidUTF8) :
    ∃ done rest p, records = done ++ rest ∧
      (encodeUtf8 (storeText records)).extract 0 n = encodeUtf8 (storeText done ++ p) ∧
      (p = [] ∨ ∃ r rs, rest = r :: rs ∧ p <+: recordLine r) ∧
      completeRecords records n = done ++ completeRecords rest (utf8Length p) := by
  obtain ⟨text, htext, hbytes⟩ := utf8_extract hvalid
  obtain ⟨doneLines, restLines, p, hlines, rfl, hlast⟩ := prefix_unlines htext
  obtain ⟨done, rest, rfl, rfl, rfl⟩ := map_eq_append_iff.mp hlines
  refine ⟨done, rest, p, rfl, hbytes, ?_, ?_⟩
  · rcases hlast with hnil | ⟨l, ms, hrest, hp⟩
    · exact .inl hnil
    · obtain ⟨r, rs, rfl, rfl, -⟩ := map_eq_cons_iff.mp hrest
      exact .inr ⟨r, rs, rfl, hp⟩
  · have hsize : utf8Length (storeText done ++ p) =
        min n (utf8Length (storeText (done ++ rest))) := by
      have hlength := congrArg ByteArray.size hbytes
      rw [ByteArray.size_extract, Nat.sub_zero] at hlength
      exact hlength.symm
    rcases Nat.le_total n (utf8Length (storeText (done ++ rest))) with hle | hge
    · rw [Nat.min_eq_left hle] at hsize
      rw [← hsize, completeRecords_cut]
    · rw [Nat.min_eq_right hge] at hsize
      rw [completeRecords_all hge, ← completeRecords_cut, hsize, completeRecords_all le_rfl]

/-- **Healing a tail that was cut off between two characters** keeps the complete records. -/
theorem read_cut (hreads : ∀ r ∈ records, json.Reads r) (hbreaks : ∀ r ∈ records, NoBreaks r)
    (hvalid : ((encodeUtf8 (storeText records)).extract 0 n).IsValidUTF8)
    (backups : List ByteArray) : (readJsonlObjectFile json true
        ⟨some ((encodeUtf8 (storeText records)).extract 0 n), backups⟩).1 =
        completeRecords records n ∧
      (readJsonlObjectFile json true (readJsonlObjectFile json true
        ⟨some ((encodeUtf8 (storeText records)).extract 0 n), backups⟩).2).1 =
        completeRecords records n := by
  obtain ⟨done, rest, p, rfl, hbytes, hlast, hcomplete⟩ := exists_cut hvalid
  have hreadsDone : ∀ r ∈ done, json.Reads r := fun r hr => hreads r (mem_append_left _ hr)
  have hbreaksDone : ∀ r ∈ done, NoBreaks r := fun r hr => hbreaks r (mem_append_left _ hr)
  rw [hbytes, hcomplete, read_text, textVerdicts_lines hreadsDone hbreaksDone, lineItems_items,
    anyCorrupt_items]
  have hfirst : lineItems (textVerdicts json p) = completeRecords rest (utf8Length p) ∧
      (anyCorrupt (textVerdicts json p) = true → completeRecords rest (utf8Length p) = []) := by
    rcases hlast with rfl | ⟨r, rs, rfl, hp⟩
    · rw [utf8Length_nil, completeRecords_zero]
      exact ⟨rfl, fun _ => rfl⟩
    by_cases hne : p = []
    · rw [hne, utf8Length_nil, completeRecords_zero]
      exact ⟨rfl, fun _ => rfl⟩
    have hr := hreads r (mem_append_right _ mem_cons_self)
    have hrbreaks := hbreaks r (mem_append_right _ mem_cons_self)
    rw [completeRecords_piece hp, textVerdicts_piece hr hrbreaks hp hne]
    split
    · exact ⟨rfl, fun h => by cases h⟩
    · exact ⟨rfl, fun _ => rfl⟩
  refine ⟨congrArg (done ++ ·) hfirst.1, ?_⟩
  dsimp only
  rw [Bool.true_and]
  by_cases hcorrupt : anyCorrupt (textVerdicts json p) = true
  · -- the healed file holds the complete lines
    rw [if_pos hcorrupt, hfirst.1, hfirst.2 hcorrupt, append_nil,
      read_storeText hreadsDone hbreaksDone]
  · rw [if_neg hcorrupt, read_text, textVerdicts_lines hreadsDone hbreaksDone, lineItems_items,
      hfirst.1]

/-- A cut inside a character: nothing can be decoded, and healing drops everything. -/
theorem read_undecodable {bytes : ByteArray} (hinvalid : ¬bytes.IsValidUTF8) :
    readJsonlObjectFile json true ⟨some bytes, backups⟩ =
      ([], ⟨some (encodeUtf8 []), bytes :: backups⟩) := by
  have hbytes : ¬bytes.isEmpty = true := by
    intro hempty
    rw [ByteArray.isEmpty, beq_iff_eq, ByteArray.size_eq_zero_iff] at hempty
    exact hinvalid (hempty ▸ ⟨[], utf8Encode_nil.symm⟩)
  unfold readJsonlObjectFile
  dsimp only
  rw [if_neg hbytes, decodeUtf8_eq_none hinvalid]
  rfl

variable (json)

/-- The complete records of a store that was cut off survive the reading that heals it. -/
def PreservesComplete (records : List JsonlRecord) (n : Nat) : Prop :=
  let healed := readJsonlObjectFile json true (truncateFile n (jsonlStore records))
  completeRecords records n <+: healed.1 ∧
    completeRecords records n <+: (readJsonlObjectFile json true healed.2).1

/-- The cut goes between two characters. -/
def CutsBetween (records : List JsonlRecord) (n : Nat) : Prop :=
  ((encodeUtf8 (storeText records)).extract 0 n).IsValidUTF8

/-- **Line-delimited stores.**  For every list of records appended one after the other, and every
place where the file may be cut off: the records come back in order from an untouched file, and
the complete ones survive the healing of the tail, exactly when no string has one of the line
boundaries that JSON leaves as they are, and the cut goes between two characters or no record is
complete before it. -/
theorem jsonl_roundtrip_iff (records : List JsonlRecord) (n : Nat)
    (hreads : ∀ r ∈ records, json.Reads r) :
    (readJsonlObjectFile json true (jsonlStore records) = (records, jsonlStore records) ∧
        PreservesComplete json records n) ↔
      (∀ r ∈ records, NoBreaks r) ∧ (CutsBetween records n ∨ completeRecords records n = []) := by
  cases records with
  | nil => simp [jsonlStore, readJsonlObjectFile, PreservesComplete, completeRecords]
  | cons s rs =>
    have hstore := jsonlStore_cons s rs
    have hcut : truncateFile n (jsonlStore (s :: rs)) =
        ⟨some ((encodeUtf8 (storeText (s :: rs))).extract 0 n), []⟩ := by
      rw [hstore]
      rfl
    unfold PreservesComplete
    rw [hcut, hstore]
    constructor
    · rintro ⟨hread, -, hhealed⟩
      refine ⟨fun r hr => ?_, ?_⟩
      · by_contra hbreak
        have hcorrupt := anyCorrupt_of_breaks hreads hr hbreak
        rw [read_text, hcorrupt] at hread
        have hbackups := congrArg (fun o => o.2.backups.length) hread
        simp at hbackups
      · by_cases hvalid : CutsBetween (s :: rs) n
        · exact .inl hvalid
        · rw [read_undecodable hvalid] at hhealed
          exact .inr (prefix_nil.mp hhealed)
    · rintro ⟨hbreaks, hcutOk⟩
      refine ⟨read_storeText hreads hbreaks, ?_⟩
      by_cases hvalid : CutsBetween (s :: rs) n
      · obtain ⟨hfirst, hsecond⟩ := read_cut hreads hbreaks hvalid []
        dsimp only
        rw [hfirst, hsecond]
        exact ⟨prefix_refl _, prefix_refl _⟩
      · rw [hcutOk.resolve_left hvalid]
        exact ⟨List.nil_prefix, nil_prefix⟩

end Lines

section Sample

/-- A decoder that knows the lines of these records. -/
def sampleJson (records : List JsonlRecord) : JsonModule where
  loads text := (records.find? fun r => recordLine r = text).map .obj
  rawDecode _ := none

theorem sampleJson_reads {r : JsonlRecord} : (sampleJson [r]).Reads r where
  whole := by
    show Option.map Json.obj ([r].find? fun r' => recordLine r' = recordLine r) = _
    rw [find?_cons_of_pos (by simp)]
    rfl
  cut p hp hcut := by
    refine ⟨?_, rfl⟩
    show Option.map Json.obj ([r].find? fun r' => recordLine r' = p) = none
    rw [find?_cons_of_neg (by simpa using Ne.symm hcut)]
    rfl

def sampleLineRecord : JsonlRecord := [("a", .str "x")]

/-- Two records, and a cut inside the second. -/
theorem jsonl_roundtrip_two : (∀ r ∈ [sampleLineRecord, sampleLineRecord], NoBreaks r) ∧
      (readJsonlObjectFile (sampleJson [sampleLineRecord]) true
          (jsonlStore [sampleLineRecord, sampleLineRecord]) =
          ([sampleLineRecord, sampleLineRecord], jsonlStore [sampleLineRecord, sampleLineRecord]) ∧
        PreservesComplete (sampleJson [sampleLineRecord])
          [sampleLineRecord, sampleLineRecord] 15) := by
  have hbreaks : ∀ r ∈ [sampleLineRecord, sampleLineRecord], NoBreaks r := by
    intro r hr
    simp only [mem_cons, not_mem_nil, or_false, or_self] at hr
    subst hr
    show ∀ s ∈ ["a", "x"], ∀ c ∈ s.toList, splitsLine c = false
    decide
  have hcut : CutsBetween [sampleLineRecord, sampleLineRecord] 15 := by
    refine ⟨(storeText [sampleLineRecord, sampleLineRecord]).take 15, ?_⟩
    rw [← encodeUtf8_eq]
    decide
  refine ⟨hbreaks, (jsonl_roundtrip_iff _ _ 15 fun r hr => ?_).mpr ⟨hbreaks, .inl hcut⟩⟩
  simp only [mem_cons, not_mem_nil, or_false, or_self] at hr
  subst hr
  exact sampleJson_reads

/-- A record with a line separator in a string. -/
def sampleSeparator : JsonlRecord := [("a", .str "\u2028")]

/-- A record with a letter of two bytes. -/
def sampleAccent : JsonlRecord := [("a", .str "\u00e9")]

/-- The separator splits its record, and reading rewrites the file; a cut inside the letter loses
the complete record before it. -/
theorem jsonl_roundtrip_fails :
    readJsonlObjectFile (sampleJson [sampleSeparator]) true (jsonlStore [sampleSeparator]) ≠
        ([sampleSeparator], jsonlStore [sampleSeparator]) ∧
      completeRecords [sampleAccent, sampleAccent] 20 = [sampleAccent] ∧
      ¬PreservesComplete (sampleJson [sampleAccent]) [sampleAccent, sampleAccent] 20 := by
  have hlength : utf8Length (recordLine sampleAccent) = 11 := by decide
  have hcomplete : completeRecords [sampleAccent, sampleAccent] 20 = [sampleAccent] := by
    simp [completeRecords, hlength]
  refine ⟨?_, hcomplete, ?_⟩
  · have hcorrupt : anyCorrupt (textVerdicts (sampleJson [sampleSeparator])
        (storeText [sampleSeparator])) = true := by
      refine anyCorrupt_of_breaks (fun r hr => ?_) mem_cons_self fun hbreaks => ?_
      · rw [mem_singleton.mp hr]
        exact sampleJson_reads
      · exact absurd (hbreaks "\u2028" (by simp [sampleSeparator, fieldTexts, Json.texts]) '\u2028'
          (by decide)) (by decide)
    rw [jsonlStore_cons, read_text, hcorrupt]
    intro hread
    have hbackups := congrArg (fun o => o.2.backups.length) hread
    simp at hbackups
  · rintro ⟨-, hhealed⟩
    have hinvalid :
        ¬((encodeUtf8 (storeText [sampleAccent, sampleAccent])).extract 0 20).IsValidUTF8 := by
      intro hvalid
      obtain ⟨p, hp, hbytes⟩ := utf8_extract hvalid
      have hsize : (encodeUtf8 p).size = 20 := by
        rw [← hbytes]
        decide
      have hnone : ∀ p ∈ (storeText [sampleAccent, sampleAccent]).inits,
          (encodeUtf8 p).size ≠ 20 := by
        decide
      exact hnone p ((mem_inits p _).mpr hp) hsize
    have hcut : truncateFile 20 (jsonlStore [sampleAccent, sampleAccent]) =
        ⟨some ((encodeUtf8 (storeText [sampleAccent, sampleAccent])).extract 0 20), []⟩ := by
      rw [jsonlStore_cons]
      rfl
    rw [hcut, read_undecodable hinvalid, hcomplete] at hhealed
    cases prefix_nil.mp hhealed

end Sample

end CaiNetwork
