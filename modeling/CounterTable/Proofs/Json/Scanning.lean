import CounterTable.Json.Reader
import CounterTable.Proofs.Text.Numerals

/-!
# Strings and numbers in JSON

A string that is written is read as a string for the same text: its control characters come back as
the code units that they are written as. A number is read as it is written, wherever what follows
does not go on with it.

* `JsonPiece.reread`, **`JsonPiece.chars?_reread`**: what a part of a string comes back as, and that
  it stands for the same text;
* **`Json.Reader.piecesUntilQuote_flatMap`**: strings;
* `Json.Reader.Ends`, **`Json.Reader.number?_append`**: numbers;
* `Json.Reader.number?_renderInt`: integers are numbers.
-/

namespace CounterTable

open CounterTable.Text

/-! ## Strings -/

namespace JsonPiece

/-- The control characters that have an escape of two characters. -/
def shortEscapes : List Char := ['\n', '\r', '\t', '\x08', '\x0c']

/-- What a part of a string comes back as when it is written and read. -/
def reread : JsonPiece → JsonPiece
  | .unit n => .unit n
  | .char c => if c.toNat < 32 ∧ c ∉ shortEscapes then .unit c.toNat else .char c

/-- A code unit is written with four hexadecimal digits. -/
def Writable : JsonPiece → Prop
  | .unit n => n < 0x10000
  | .char _ => True

variable {m n : Nat} {c : Char} {ps : List JsonPiece}

theorem isHigh_of_lt (h : n < 0xD800) : isHigh n = false := by
  rw [isHigh, Bool.and_eq_false_iff]
  exact .inl (decide_eq_false (by omega))

theorem isLow_of_lt (h : n < 0xD800) : isLow n = false := by
  rw [isLow, Bool.and_eq_false_iff]
  exact .inl (decide_eq_false (by omega))

theorem chars?_unit (hhigh : isHigh m = false) (hlow : isLow m = false) :
    chars? (.unit m :: ps) = (chars? ps).map (Char.ofNat m :: ·) := by
  rcases ps with _ | ⟨_ | _, ps⟩ <;> simp [chars?, hhigh, hlow]

theorem chars?_unit_eq_none (hm : (isHigh m || isLow m) = true)
    (hps : ∀ n qs, ps = .unit n :: qs → isLow n = false) : chars? (.unit m :: ps) = none := by
  rcases ps with _ | ⟨_ | n, ps⟩
  · simp [chars?, hm]
  · simp [chars?, hm]
  · cases hhigh : isHigh m with
    | true => simp [chars?, hhigh, hps n ps rfl]
    | false =>
      have hlow : isLow m = true := by simpa [hhigh] using hm
      simp [chars?, hhigh, hlow]

theorem chars?_reread_char (c : Char) (ps : List JsonPiece) :
    chars? (reread (.char c) :: ps) = (chars? ps).map (c :: ·) := by
  simp only [reread]
  split
  · next h =>
    have hlt : c.toNat < 0xD800 := Nat.lt_trans h.1 (by decide)
    rw [chars?_unit (isHigh_of_lt hlt) (isLow_of_lt hlt), Char.ofNat_toNat]
  · rfl

/-- **A string that is written and read** stands for the same text. -/
theorem chars?_reread (ps : List JsonPiece) : chars? (ps.map reread) = chars? ps := by
  fun_induction chars? ps with
  | case1 => rfl
  | case2 c ps ih => rw [List.map_cons, chars?_reread_char, ih]
  | case3 m n ps hhigh hlow ih =>
    simp only [List.map_cons, reread, chars?, hhigh, hlow, if_true, ih]
  | case4 m n ps hhigh hlow =>
    simp only [List.map_cons, reread, chars?, hhigh, hlow, if_true, Bool.false_eq_true, if_false]
  | case5 m n ps hhigh hlow =>
    simp only [List.map_cons, reread, chars?, hhigh, hlow, if_true, Bool.false_eq_true, if_false]
  | case6 m n ps hhigh hlow ih =>
    rw [List.map_cons, reread, chars?_unit (Bool.eq_false_iff.mpr hhigh)
      (Bool.eq_false_iff.mpr hlow), ih]
  | case7 m ps hps hm =>
    refine chars?_unit_eq_none hm fun n qs hqs => ?_
    -- Only a control character is read as a code unit here.
    rcases ps with _ | ⟨c | k, ps⟩
    · cases hqs
    · rw [List.map_cons, List.cons.injEq, reread] at hqs
      split at hqs
      · next hc =>
        cases hqs.1
        exact isLow_of_lt (Nat.lt_trans hc.1 (by decide))
      · cases hqs.1
    · exact absurd rfl (hps k ps)
  | case8 m ps hps hm ih =>
    rw [Bool.or_eq_true, not_or] at hm
    rw [List.map_cons, reread, chars?_unit (Bool.eq_false_iff.mpr hm.1)
      (Bool.eq_false_iff.mpr hm.2), ih]

theorem chars?_map_char (cs : List Char) : chars? (cs.map .char) = some cs := by
  induction cs with
  | nil => rfl
  | cons c cs ih => rw [List.map_cons, chars?, ih]; rfl

end JsonPiece

namespace Json.Reader

theorem hexValue?_hexDigit : ∀ n < 16, hexValue? (hexDigit n) = some n := by decide

theorem unit?_hexDigits {n : Nat} (h : n < 0x10000) :
    unit? (hexDigit (n / 4096 % 16)) (hexDigit (n / 256 % 16)) (hexDigit (n / 16 % 16))
      (hexDigit (n % 16)) = some n := by
  have hdigit : ∀ m, hexValue? (hexDigit (m % 16)) = some (m % 16) :=
    fun m => hexValue?_hexDigit _ (Nat.mod_lt _ (by decide))
  simp only [unit?, hdigit, Option.bind_eq_bind, Option.bind_some, Option.pure_def,
    Option.some.injEq]
  omega

theorem piecesUntilQuote_unitText {n : Nat} (h : n < 0x10000) (cs : List Char) :
    piecesUntilQuote (unitText n ++ cs) =
      (piecesUntilQuote cs).map fun (ps, rest) => (.unit n :: ps, rest) := by
  simp only [unitText, List.cons_append, List.nil_append, piecesUntilQuote, unit?_hexDigits h]
  cases piecesUntilQuote cs <;> rfl

theorem piecesUntilQuote_char {c : Char} (hquote : c ≠ '"') (hslash : c ≠ '\\')
    (hcontrol : ¬ c.toNat < 32) (cs : List Char) :
    piecesUntilQuote (c :: cs) =
      (piecesUntilQuote cs).map fun (ps, rest) => (.char c :: ps, rest) := by
  rw [piecesUntilQuote]
  · rw [if_neg hcontrol]
    cases piecesUntilQuote cs <;> rfl
  · exact hquote
  · exact fun _ _ _ _ _ h => absurd h hslash
  · exact fun _ _ h => absurd h hslash

theorem piecesUntilQuote_escape {e c : Char} (he : escaped? e = some c) (cs : List Char) :
    piecesUntilQuote ('\\' :: e :: cs) =
      (piecesUntilQuote cs).map fun (ps, rest) => (.char c :: ps, rest) := by
  rw [piecesUntilQuote]
  · rw [he]
    cases piecesUntilQuote cs <;> rfl
  · rintro a b c d rest rfl
    cases he

theorem piecesUntilQuote_pieceText {p : JsonPiece} (hp : p.Writable) (cs : List Char) :
    piecesUntilQuote (pieceText p ++ cs) =
      (piecesUntilQuote cs).map fun (ps, rest) => (p.reread :: ps, rest) := by
  cases p with
  | unit n => exact piecesUntilQuote_unitText hp cs
  | char c =>
    simp only [pieceText]
    split
    case h_8 hquote hslash hn hr ht hb hf =>
      have hlong : c ∉ JsonPiece.shortEscapes := by
        simp only [JsonPiece.shortEscapes, List.mem_cons, List.not_mem_nil, or_false, not_or]
        exact ⟨hn, hr, ht, hb, hf⟩
      split
      · next hcontrol =>
        have hunit : (JsonPiece.char c).reread = .unit c.toNat := if_pos ⟨hcontrol, hlong⟩
        rw [hunit]
        exact piecesUntilQuote_unitText (Nat.lt_trans hcontrol (by decide)) cs
      · next hcontrol =>
        have hsame : (JsonPiece.char c).reread = .char c := if_neg fun h => hcontrol h.1
        rw [hsame]
        exact piecesUntilQuote_char hquote hslash hcontrol cs
    all_goals exact piecesUntilQuote_escape rfl cs

/-- **Strings** are read back. -/
theorem piecesUntilQuote_flatMap {ps : List JsonPiece} (hps : ∀ p ∈ ps, p.Writable)
    (rest : List Char) : piecesUntilQuote (ps.flatMap pieceText ++ '"' :: rest) =
      some (ps.map JsonPiece.reread, rest) := by
  induction ps with
  | nil => rfl
  | cons p ps ih =>
    rw [List.flatMap_cons, List.append_assoc, piecesUntilQuote_pieceText (hps p List.mem_cons_self),
      ih fun q hq => hps q (List.mem_cons_of_mem p hq)]
    rfl

/-! ## Numbers -/

/-- What begins like this does not go on with a number. -/
def Ends (rest : List Char) : Prop :=
  ∀ c ∈ rest.head?, c.isDigit = false ∧ c ≠ '.' ∧ c ≠ 'e' ∧ c ≠ 'E'

variable {cs ds text tail rest : List Char}

theorem digits?_eq (cs : List Char) : digits? cs =
    if cs.takeWhile Char.isDigit = [] then none
    else some (cs.takeWhile Char.isDigit, cs.dropWhile Char.isDigit) := by
  unfold digits?
  split
  · next h => rw [if_pos h]
  · next h => rw [if_neg h]

theorem span_append (hr : Ends rest) (cs : List Char) :
    (cs ++ rest).takeWhile Char.isDigit = cs.takeWhile Char.isDigit ∧
      (cs ++ rest).dropWhile Char.isDigit = cs.dropWhile Char.isDigit ++ rest := by
  induction cs with
  | nil =>
    cases rest with
    | nil => exact ⟨rfl, rfl⟩
    | cons c rest =>
      have hc : c.isDigit = false := (hr c rfl).1
      simp [hc]
  | cons c cs ih =>
    cases hc : c.isDigit with
    | true => simpa [hc] using ih
    | false => simp [hc]

theorem digits?_append (hr : Ends rest) (h : digits? cs = some (ds, tail)) :
    digits? (cs ++ rest) = some (ds, tail ++ rest) := by
  rw [digits?_eq] at h ⊢
  rw [(span_append hr cs).1, (span_append hr cs).2]
  split at h
  · cases h
  · next hne =>
    rw [if_neg hne]
    cases h
    rfl

theorem whole?_append (hr : Ends rest) (h : whole? cs = some (ds, tail)) :
    whole? (cs ++ rest) = some (ds, tail ++ rest) := by
  rcases cs with _ | ⟨c, cs⟩
  · cases h
  · by_cases hc : c = '0'
    · subst hc
      cases h
      rfl
    · have hdigits : ∀ cs, whole? (c :: cs) = digits? (c :: cs) := fun cs => by
        rw [whole?]
        exact fun _ he => absurd (List.cons.inj he).1 hc
      rw [hdigits] at h
      rw [List.cons_append, hdigits]
      exact digits?_append hr h

theorem fraction?_append (hr : Ends rest) (h : fraction? cs = some (ds, tail)) :
    fraction? (cs ++ rest) = some (ds, tail ++ rest) := by
  have hnone : ∀ c cs, c ≠ '.' → fraction? (c :: cs) = some ([], c :: cs) := fun c cs hc => by
    rw [fraction?]
    exact fun _ he => absurd (List.cons.inj he).1 hc
  rcases cs with _ | ⟨c, cs⟩
  · cases h
    rcases rest with _ | ⟨c, rest⟩
    · rfl
    · exact hnone c rest (hr c rfl).2.1
  · by_cases hc : c = '.'
    · subst hc
      obtain ⟨⟨ds', tail'⟩, hdigits, he⟩ := Option.map_eq_some_iff.mp h
      cases he
      rw [List.cons_append, fraction?, digits?_append hr hdigits]
      rfl
    · rw [hnone c cs hc] at h
      cases h
      exact hnone c (cs ++ rest) hc

theorem signed?_append (hr : Ends rest) (h : exponent?.signed? cs = some (ds, tail)) :
    exponent?.signed? (cs ++ rest) = some (ds, tail ++ rest) := by
  rcases cs with _ | ⟨c, cs⟩
  · cases h
  · by_cases hsign : c = '+' ∨ c = '-'
    · obtain rfl | rfl := hsign <;>
      · obtain ⟨⟨ds', tail'⟩, hdigits, he⟩ := Option.map_eq_some_iff.mp h
        cases he
        rw [List.cons_append, exponent?.signed?, digits?_append hr hdigits]
        rfl
    · rw [not_or] at hsign
      have hdigits : ∀ cs, exponent?.signed? (c :: cs) = digits? (c :: cs) := fun cs => by
        rw [exponent?.signed?]
        · exact fun _ he => absurd (List.cons.inj he).1 hsign.1
        · exact fun _ he => absurd (List.cons.inj he).1 hsign.2
      rw [hdigits] at h
      rw [List.cons_append, hdigits]
      exact digits?_append hr h

theorem exponent?_append (hr : Ends rest) (h : exponent? cs = some (ds, tail)) :
    exponent? (cs ++ rest) = some (ds, tail ++ rest) := by
  have hnone : ∀ c cs, c ≠ 'e' → c ≠ 'E' → exponent? (c :: cs) = some ([], c :: cs) :=
    fun c cs hlower hupper => by
      rw [exponent?]
      · exact fun _ he => absurd (List.cons.inj he).1 hlower
      · exact fun _ he => absurd (List.cons.inj he).1 hupper
  rcases cs with _ | ⟨c, cs⟩
  · cases h
    rcases rest with _ | ⟨c, rest⟩
    · rfl
    · exact hnone c rest (hr c rfl).2.2.1 (hr c rfl).2.2.2
  · by_cases hmark : c = 'e' ∨ c = 'E'
    · obtain rfl | rfl := hmark <;>
      · obtain ⟨⟨ds', tail'⟩, hsigned, he⟩ := Option.map_eq_some_iff.mp h
        cases he
        rw [List.cons_append, exponent?, signed?_append hr hsigned]
        rfl
    · rw [not_or] at hmark
      rw [hnone c cs hmark.1 hmark.2] at h
      cases h
      exact hnone c (cs ++ rest) hmark.1 hmark.2

theorem unsigned?_append (hr : Ends rest) (h : unsigned? cs = some (text, tail)) :
    unsigned? (cs ++ rest) = some (text, tail ++ rest) := by
  obtain ⟨⟨w, cs₁⟩, hwhole, h⟩ := Option.bind_eq_some_iff.mp h
  obtain ⟨⟨f, cs₂⟩, hfraction, h⟩ := Option.bind_eq_some_iff.mp h
  obtain ⟨⟨e, cs₃⟩, hexponent, h⟩ := Option.bind_eq_some_iff.mp h
  cases h
  simp only [unsigned?, whole?_append hr hwhole, fraction?_append hr hfraction,
    exponent?_append hr hexponent, Option.bind_eq_bind, Option.bind_some, Option.pure_def]

/-- **A number** is read as it is written. -/
theorem number?_append (hr : Ends rest) (h : number? cs = some (text, tail)) :
    number? (cs ++ rest) = some (text, tail ++ rest) := by
  rcases cs with _ | ⟨c, cs⟩
  · cases h
  · by_cases hc : c = '-'
    · subst hc
      obtain ⟨⟨text', tail'⟩, hunsigned, he⟩ := Option.map_eq_some_iff.mp h
      cases he
      rw [List.cons_append, number?, unsigned?_append hr hunsigned]
      rfl
    · have hunsigned : ∀ cs, number? (c :: cs) = unsigned? (c :: cs) := fun cs => by
        rw [number?]
        exact fun _ he => absurd (List.cons.inj he).1 hc
      rw [hunsigned] at h
      rw [List.cons_append, hunsigned]
      exact unsigned?_append hr h

theorem unsigned?_toDigits (n : Nat) :
    unsigned? (Nat.toDigits 10 n) = some (Nat.toDigits 10 n, []) := by
  have hdigits : digits? (Nat.toDigits 10 n) = some (Nat.toDigits 10 n, []) := by
    rw [digits?_eq, takeWhile_toDigits, dropWhile_toDigits, if_neg Nat.toDigits_ne_nil]
  have hwhole : whole? (Nat.toDigits 10 n) = some (Nat.toDigits 10 n, []) := by
    by_cases hzero : n = 0
    · subst hzero
      rfl
    · rw [whole?]
      · exact hdigits
      · intro rest he
        exact hzero (eq_zero_of_head?_toDigits (by rw [he]; rfl))
  simp [unsigned?, hwhole, fraction?, exponent?]

theorem number?_renderInt (n : Int) :
    number? (renderInt n).toList = some ((renderInt n).toList, []) := by
  by_cases hn : 0 ≤ n
  · rw [toList_renderInt_of_nonneg hn, number?]
    · exact unsigned?_toDigits _
    · intro rest he
      have hdigit : '-'.isDigit = true :=
        isDigit_of_mem_toDigits (n := n.toNat) (by rw [he]; exact List.mem_cons_self)
      cases hdigit
  · rw [toList_renderInt_of_neg (by omega), number?, unsigned?_toDigits]
    rfl

theorem head_of_number? (h : number? cs = some (text, tail)) :
    ∃ c rest, cs = c :: rest ∧ (c = '-' ∨ c.isDigit = true) := by
  rcases cs with _ | ⟨c, cs⟩
  · cases h
  · refine ⟨c, cs, rfl, ?_⟩
    by_cases hc : c = '-'
    · exact .inl hc
    · right
      rw [number?] at h
      · obtain ⟨⟨w, cs₁⟩, hwhole, -⟩ := Option.bind_eq_some_iff.mp h
        by_cases hzero : c = '0'
        · subst hzero
          rfl
        · rw [whole?, digits?_eq] at hwhole
          · split at hwhole
            · cases hwhole
            · next hne =>
              cases hdigit : c.isDigit with
              | true => rfl
              | false =>
                have hdigit' : ¬ c.isDigit = true := Bool.eq_false_iff.mp hdigit
                exact absurd (List.takeWhile_cons_of_neg hdigit') hne
          · exact fun _ he => absurd (List.cons.inj he).1 hzero
      · exact fun _ he => absurd (List.cons.inj he).1 hc

end Json.Reader

end CounterTable
