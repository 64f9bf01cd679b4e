/-
CaiNetwork/Transport/StageIds.lean

The number of a stage can be read off the text its id is the digest of
(`stageFingerprint_sequence`).

In the text only the session id follows the number, so the texts are compared from the end.  For
that the escaping of what is not ASCII has to be split between the fields: it works on whole code
points, and the text of a string is made of whole ones (`whole_quote`).
-/

import CaiNetwork.Transport.Dag

namespace CaiNetwork

open List

namespace Json

/-! ### Escaping in parts -/

section Whole

theorem toNat_byteChar {n : Nat} (h : n < 256) : (Char.ofNat n).toNat = n := by
  have hvalid : n.isValidChar := .inl (by omega)
  unfold Char.ofNat
  rw [dif_pos hvalid]
  rfl

/-- The text ends with a whole code point: escaping what follows starts afresh. -/
def Whole (cs : List Char) : Prop :=
  ∀ rest, escapeNonAscii (cs ++ rest) 0 0 = escapeNonAscii cs 0 0 ++ escapeNonAscii rest 0 0

theorem whole_nil : Whole [] := fun _ => rfl

theorem Whole.append {cs ds : List Char} (hcs : Whole cs) (hds : Whole ds) : Whole (cs ++ ds) := by
  intro rest
  rw [append_assoc, hcs, hds, hcs ds, append_assoc]

theorem whole_flatMap {α : Type} {f : α → List Char} {xs : List α} (h : ∀ x ∈ xs, Whole (f x)) :
    Whole (xs.flatMap f) := by
  induction xs with
  | nil => exact whole_nil
  | cons x xs ih =>
    rw [flatMap_cons]
    exact (h x mem_cons_self).append (ih fun y hy => h y (mem_cons_of_mem x hy))

theorem whole_singleton {c : Char} (h : c.toNat < 0x80) : Whole [c] := by
  intro rest
  rw [singleton_append, escapeNonAscii, escapeNonAscii]
  by_cases hplain : c.toNat < 0x7f
  · rw [if_pos hplain, if_pos hplain]
    rfl
  · have hdel : c.toNat = 0x7f := by omega
    rw [if_neg hplain, if_neg hplain, if_pos hdel, if_pos hdel, append_assoc]
    rfl

theorem whole_ascii {cs : List Char} (h : ∀ c ∈ cs, c.toNat < 0x80) : Whole cs := by
  have hflat : cs.flatMap (fun c => [c]) = cs := flatMap_singleton' cs
  rw [← hflat]
  exact whole_flatMap fun c hc => whole_singleton (h c hc)

/-- A leading byte and the bytes that continue it. -/
theorem whole_lead {c : Char} {cs : List Char} (h : 0x80 ≤ c.toNat)
    (hlength : cs.length = if c.toNat < 0xe0 then 1 else if c.toNat < 0xf0 then 2 else 3) :
    Whole (c :: cs) := by
  have hpending : ∀ (ds : List Char) (code : Nat), ds ≠ [] → ∀ rest,
      escapeNonAscii (ds ++ rest) ds.length code =
        escapeNonAscii ds ds.length code ++ escapeNonAscii rest 0 0 := by
    intro ds
    induction ds with
    | nil => exact fun _ hne => absurd rfl hne
    | cons d ds ih =>
      intro code _ rest
      cases ds with
      | nil =>
        rw [singleton_append, length_singleton, escapeNonAscii, escapeNonAscii, append_assoc]
        rfl
      | cons e ds =>
        rw [cons_append, length_cons, length_cons, escapeNonAscii, escapeNonAscii]
        exact ih _ (cons_ne_nil e ds) rest
  have hne : cs ≠ [] := by
    rintro rfl
    split at hlength
    · cases hlength
    · split at hlength <;> cases hlength
  have hplain : ¬c.toNat < 0x7f := by omega
  have hdel : ¬c.toNat = 0x7f := by omega
  intro rest
  rw [cons_append, escapeNonAscii, escapeNonAscii, if_neg hplain, if_neg hplain, if_neg hdel,
    if_neg hdel]
  split_ifs at hlength ⊢
  all_goals
    rw [← hlength]
    exact hpending cs _ hne rest

theorem whole_escapeChar {c : Char} (h : c.toNat < 0x80) : Whole (escapeChar c) := by
  apply whole_ascii
  have hall : ∀ n < 0x80, ∀ d ∈ escapeChar (Char.ofNat n), d.toNat < 0x80 := by decide
  have hc := hall c.toNat h
  rwa [Char.ofNat_toNat] at hc

variable {phase executorNodeId : String} {layerStart layerEnd : Int}

/-- The text of a code point. -/
theorem whole_utf8EncodeChar {c : Char} :
    Whole (((String.utf8EncodeChar c).map fun b => Char.ofNat b.toNat).flatMap escapeChar) := by
  have hbyte : ∀ n, n < 256 → (Char.ofNat (UInt8.ofNat n).toNat).toNat = n := by
    intro n hn
    rw [UInt8.toNat_ofNat', Nat.mod_eq_of_lt hn, toNat_byteChar hn]
  have hmany : ∀ n ns, 0xc0 ≤ n → n < 256 → (∀ m ∈ ns, 0x80 ≤ m ∧ m < 256) →
      ns.length = (if n < 0xe0 then 1 else if n < 0xf0 then 2 else 3) →
      Whole ((((n :: ns).map UInt8.ofNat).map fun b => Char.ofNat b.toNat).flatMap escapeChar) := by
    intro n ns hn hlt hns hlength
    have hself : (((n :: ns).map UInt8.ofNat).map fun b => Char.ofNat b.toNat).flatMap escapeChar =
        ((n :: ns).map UInt8.ofNat).map fun b => Char.ofNat b.toNat := by
      refine (flatMap_congr fun d hd => ?_).trans (flatMap_singleton' _)
      simp only [map_map, mem_map] at hd
      obtain ⟨m, hm, rfl⟩ := hd
      apply escapeChar_of_byte
      show 0x80 ≤ (Char.ofNat (UInt8.ofNat m).toNat).toNat
      rcases mem_cons.mp hm with rfl | hm
      · rw [hbyte m hlt]
        omega
      · rw [hbyte m (hns m hm).2]
        exact (hns m hm).1
    rw [hself]
    rw [map_cons, map_cons]
    apply whole_lead
    · rw [hbyte n hlt]
      omega
    · rw [hbyte n hlt, length_map, length_map, hlength]
  unfold String.utf8EncodeChar
  dsimp only
  split
  next hone =>
    rw [map_singleton, flatMap_singleton]
    apply whole_escapeChar
    rw [hbyte _ (by omega)]
    omega
  next =>
    split
    next htwo =>
      refine hmany _ [_] (by omega) (by omega) ?_ ?_
      · simp only [mem_singleton, forall_eq]
        omega
      · rw [if_pos (by omega)]
        rfl
    next =>
      split
      next hthree =>
        refine hmany _ [_, _] (by omega) (by omega) ?_ ?_
        · simp only [mem_cons, not_mem_nil, or_false, forall_eq_or_imp, forall_eq]
          omega
        · rw [if_neg (by omega), if_pos (by omega)]
          rfl
      next =>
        refine hmany _ [_, _, _] (by omega) (by omega) ?_ ?_
        · simp only [mem_cons, not_mem_nil, or_false, forall_eq_or_imp, forall_eq]
          omega
        · rw [if_neg (by omega), if_neg (by omega)]
          rfl

/-- The text of a string. -/
theorem whole_quote (s : String) : Whole (quote s) := by
  have hbytes : byteChars s =
      s.toList.flatMap fun c => (String.utf8EncodeChar c).map fun b => Char.ofNat b.toNat := by
    have hlist : ∀ cs, (String.ofList cs).toByteArray.data.toList =
        cs.flatMap String.utf8EncodeChar := by
      intro cs
      simp [List.utf8Encode]
    have hself := hlist s.toList
    rw [String.ofList_toList] at hself
    rw [byteChars, hself, map_flatMap]
  have hquote : Whole ['"'] := whole_singleton (by decide)
  rw [quote, hbytes, flatMap_assoc]
  exact hquote.append ((whole_flatMap fun c _ => whole_utf8EncodeChar).append hquote)

theorem plain_decimal {n : Int} {c : Char} (h : c ∈ decimal n) : c.toNat < 0x7f ∧ c ≠ ':' := by
  rcases mem_decimal h with hdigit | rfl
  · have hle : c.toNat ≤ 57 := by
      rw [Char.isDigit, Bool.and_eq_true, decide_eq_true_eq, decide_eq_true_eq] at hdigit
      exact UInt32.le_iff_toNat_le.mp hdigit.2
    refine ⟨Nat.lt_of_le_of_lt hle (by decide), ?_⟩
    rintro rfl
    exact absurd hle (by decide)
  · decide

theorem whole_decimal (n : Int) : Whole (decimal n) := by
  exact whole_ascii fun c hc => Nat.lt_trans (Json.plain_decimal hc).1 (by decide)

theorem Whole.cons {c : Char} {cs : List Char} (h : c.toNat < 0x80) (hcs : Whole cs) :
    Whole (c :: cs) :=
  (whole_singleton h).append hcs

end Whole

end Json

namespace Transport

/-! ### Fingerprints -/

section Fingerprints

open Json (quote decimal Whole escapeNonAscii)

/-- The text before the colon of the number. -/
def fingerprintFront (phase : String) (executorNodeId : String) (layerStart layerEnd : Int) :
    List Char :=
  '{' :: (quote "executorNodeId" ++ ':' :: (quote (strip executorNodeId) ++
    ',' :: (quote "layerEnd" ++ ':' :: (decimal layerEnd ++
    ',' :: (quote "layerStart" ++ ':' :: (decimal layerStart ++
    ',' :: (quote "phase" ++ ':' :: (quote (strip phase) ++
    ',' :: (quote "protocol" ++ ':' :: (quote transportProtocol ++
    ',' :: (quote "protocolVersion" ++ ':' :: (decimal 1 ++
    ',' :: quote "sequence"))))))))))))

/-- The text after the number. -/
def fingerprintBack (sessionId : String) : List Char :=
  ',' :: (quote "sessionId" ++ ':' :: (quote (strip sessionId) ++ ['}']))

theorem canonical_fingerprint {phase executorNodeId sessionId : String}
    {layerStart layerEnd sequence : Int} :
    Json.canonical (.obj [("executorNodeId", .str (strip executorNodeId)),
        ("layerEnd", .int layerEnd), ("layerStart", .int layerStart), ("phase", .str (strip phase)),
        ("protocol", .str transportProtocol), ("protocolVersion", .int 1),
        ("sequence", .int (max 0 sequence)), ("sessionId", .str (strip sessionId))]) =
      fingerprintFront phase executorNodeId layerStart layerEnd ++
        ((':' :: decimal (max 0 sequence)) ++ fingerprintBack sessionId) := by
  -- the keys of the fingerprint are written in order
  have hsorted : ∀ a b c d : String, ∀ k m n : Int,
      Json.sortKeys (.obj [("executorNodeId", .str a), ("layerEnd", .int k), ("layerStart", .int m),
        ("phase", .str b), ("protocol", .str c), ("protocolVersion", .int 1), ("sequence", .int n),
        ("sessionId", .str d)]) =
      .obj [("executorNodeId", .str a), ("layerEnd", .int k), ("layerStart", .int m),
        ("phase", .str b), ("protocol", .str c), ("protocolVersion", .int 1), ("sequence", .int n),
        ("sessionId", .str d)] :=
    fun _ _ _ _ _ _ _ => rfl
  rw [Json.canonical, hsorted]
  simp only [Json.render, Json.renderFields, Json.renderMoreFields, fingerprintFront,
    fingerprintBack, cons_append, append_assoc, append_nil]

theorem whole_fingerprintFront :
    Whole (fingerprintFront phase executorNodeId layerStart layerEnd) := by
  have hcolon : (':' : Char).toNat < 0x80 := by decide
  have hcomma : (',' : Char).toNat < 0x80 := by decide
  have hfield : ∀ {key : String} {value rest : List Char}, Whole value → Whole rest →
      Whole (quote key ++ ':' :: (value ++ ',' :: rest)) := fun hvalue hrest =>
    (Json.whole_quote _).append ((hvalue.append (hrest.cons hcomma)).cons hcolon)
  refine Whole.cons (by decide) ?_
  refine hfield (Json.whole_quote _) (hfield (Json.whole_decimal _) ?_)
  refine hfield (Json.whole_decimal _) (hfield (Json.whole_quote _) ?_)
  exact hfield (Json.whole_quote _) (hfield (Json.whole_decimal _) (Json.whole_quote _))

/-- The bytes of a fingerprint, with its number between a colon and the text of the session. -/
theorem stageFingerprint_eq (sessionId phase : String) (sequence : Int) (executorNodeId : String)
    (layerStart layerEnd : Int) :
    ∃ front, stageFingerprint sessionId phase sequence executorNodeId layerStart layerEnd =
      front ++ (58 :: toBytes (decimal (max 0 sequence))) ++
        toBytes (escapeNonAscii (fingerprintBack sessionId) 0 0) := by
  have hplain : ∀ c ∈ ':' :: decimal (max 0 sequence), c.toNat < 0x7f := by
    intro c hc
    rcases mem_cons.mp hc with rfl | hc
    · decide
    · exact (Json.plain_decimal hc).1
  refine ⟨toBytes (escapeNonAscii (fingerprintFront phase executorNodeId layerStart layerEnd) 0 0),
    ?_⟩
  rw [stageFingerprint, Json.dumps, canonical_fingerprint, whole_fingerprintFront,
    Json.escapeNonAscii_append _ hplain]
  simp only [toBytes, map_append, map_cons, append_assoc]
  rfl

/-- What follows the last mark is determined. -/
theorem eq_of_append_mark {l₁ l₂ m₁ m₂ : Bytes} {mark : UInt8} (h₁ : mark ∉ m₁)
    (h₂ : mark ∉ m₂) (h : l₁ ++ mark :: m₁ = l₂ ++ mark :: m₂) : m₁ = m₂ := by
  have hread : ∀ {l m : Bytes}, mark ∉ m →
      (l ++ mark :: m).reverse.takeWhile (· ≠ mark) = m.reverse := by
    intro l m hm
    have hall : ∀ b ∈ m.reverse, decide (b ≠ mark) = true := by
      intro b hb
      apply decide_eq_true
      rintro rfl
      exact hm (mem_reverse.mp hb)
    rw [reverse_append, reverse_cons, append_assoc, takeWhile_append_of_pos hall,
      singleton_append, takeWhile_cons_of_neg (by simp), append_nil]
  have hrev := (hread h₁).symm.trans ((congrArg (fun l => l.reverse.takeWhile (· ≠ mark)) h).trans
    (hread h₂))
  exact reverse_injective hrev

/-- The number of a stage can be read off its fingerprint. -/
theorem stageFingerprint_sequence {sessionId phase₁ phase₂ executor₁ executor₂ : String}
    {m n start₁ end₁ start₂ end₂ : Int} (hm : 0 ≤ m) (hn : 0 ≤ n)
    (h : stageFingerprint sessionId phase₁ m executor₁ start₁ end₁ =
      stageFingerprint sessionId phase₂ n executor₂ start₂ end₂) : m = n := by
  obtain ⟨front₁, h₁⟩ := stageFingerprint_eq sessionId phase₁ m executor₁ start₁ end₁
  obtain ⟨front₂, h₂⟩ := stageFingerprint_eq sessionId phase₂ n executor₂ start₂ end₂
  have hmark : ∀ k : Int, (58 : UInt8) ∉ toBytes (decimal k) := by
    intro k hmem
    obtain ⟨c, hc, hbyte⟩ := mem_map.mp hmem
    obtain ⟨hplain, hcolon⟩ := Json.plain_decimal hc
    have hnat := congrArg UInt8.toNat hbyte
    rw [UInt8.toNat_ofNat', Nat.mod_eq_of_lt (Nat.lt_trans hplain (by decide))] at hnat
    apply hcolon
    rw [← Char.ofNat_toNat c, hnat]
    rfl
  rw [h₁, h₂] at h
  have hdigits := eq_of_append_mark (hmark _) (hmark _) (append_cancel_right h)
  have hread : ∀ k : Int, (toBytes (decimal k)).map (fun b => Char.ofNat b.toNat) = decimal k :=
    fun k => map_toBytes fun c hc => Nat.lt_trans (Json.plain_decimal hc).1 (by decide)
  have hdecimal : decimal (max 0 m) = decimal (max 0 n) := by
    rw [← hread (max 0 m), ← hread (max 0 n), hdigits]
  have hmax := Json.decimal_injective hdecimal
  rwa [max_eq_right hm, max_eq_right hn] at hmax

end Fingerprints

end Transport

end CaiNetwork
