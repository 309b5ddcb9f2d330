import CounterTable.Name.Qualified
import CounterTable.Proofs.Text.Numerals
import CounterTable.Sql.Token

/-!
# Texts and their tokens

The tokens of a text are found from its front: each token depends on the characters that it is made
of, and on the one behind it. So the tokens of a long text are put together from the tokens of its
parts.

* `Lexer.Reads`: a text and its tokens, behind a word or not;
* `Lexer.Ends`: what may stand behind a word;
* **`Lexer.Reads.word`**, **`Lexer.Reads.quoted`**, `Lexer.Reads.blank`, `Lexer.Reads.symbol`,
  `Lexer.Reads.point`: the parts.
-/

namespace CounterTable

namespace Identifier

theorem toNat_of_isAlpha {c : Char} (h : c.isAlpha = true) :
    65 ≤ c.toNat ∧ c.toNat ≤ 90 ∨ 97 ≤ c.toNat ∧ c.toNat ≤ 122 := by
  have hcase : (decide (c.val ≥ 65 ∧ c.val ≤ 90) ||
      (decide (c.val ≥ 97) && decide (c.val ≤ 122))) = true := h
  simp only [Bool.or_eq_true, Bool.and_eq_true, decide_eq_true_eq, ge_iff_le,
    UInt32.le_iff_toNat_le] at hcase
  exact hcase

theorem toNat_of_isPlainStart {c : Char} (h : isPlainStart c = true) :
    65 ≤ c.toNat ∧ c.toNat ≤ 90 ∨ 97 ≤ c.toNat ∧ c.toNat ≤ 122 ∨ c.toNat = 95 := by
  simp only [isPlainStart, Bool.or_eq_true, beq_iff_eq] at h
  rcases h with h | rfl
  · exact (toNat_of_isAlpha h).imp_right .inl
  · exact .inr (.inr rfl)

theorem toNat_of_isPlainRest {c : Char} (h : isPlainRest c = true) :
    65 ≤ c.toNat ∧ c.toNat ≤ 90 ∨ 97 ≤ c.toNat ∧ c.toNat ≤ 122 ∨ 48 ≤ c.toNat ∧ c.toNat ≤ 57 ∨
      c.toNat = 95 ∨ c.toNat = 36 := by
  simp only [isPlainRest, Char.isAlphanum, Char.isDigit, Bool.or_eq_true, Bool.and_eq_true,
    decide_eq_true_eq, beq_iff_eq, UInt32.le_iff_toNat_le] at h
  rcases h with (((h | ⟨h₁, h₂⟩) | rfl) | rfl)
  · exact (toNat_of_isAlpha h).imp_right .inl
  · exact .inr (.inr (.inl ⟨h₁, h₂⟩))
  · exact .inr (.inr (.inr (.inl rfl)))
  · exact .inr (.inr (.inr (.inr rfl)))

end Identifier

namespace Sql.Lexer

open CounterTable.Text

/-- The tokens of a text, behind a word or not. -/
def Reads (afterWord : Bool) (cs : List Char) (ts : List Token) : Prop :=
  ∀ steps, cs.length ≤ steps → tokensWithin steps afterWord cs = some ts

variable {a : Bool} {cs rest : List Char} {ts : List Token} {c : Char}

theorem Reads.tokenize (h : Reads false cs ts) : tokenize cs = some ts := h cs.length (Nat.le_refl _)

theorem Reads.nil : Reads a [] [] := by
  intro steps _
  cases steps <;> rfl

theorem Reads.cons {t : Token} (hs : step a cs = some (some t, rest))
    (hlen : rest.length < cs.length) (h : Reads t.isWord rest ts) : Reads a cs (t :: ts) := by
  intro steps hsteps
  cases steps with
  | zero => omega
  | succ n =>
    cases cs with
    | nil => cases hs
    | cons c cs =>
      have hrest := h n (by simp only [List.length_cons] at hlen hsteps; omega)
      simp only [tokensWithin, hs, hrest, Option.map_some]

theorem Reads.blank (h : Reads false cs ts) : Reads a (' ' :: cs) ts := by
  intro steps hsteps
  cases steps with
  | zero => simp at hsteps
  | succ n =>
    have hstep : step a (' ' :: cs) = some (none, cs) := by
      unfold step
      exact if_pos (by decide)
    have hrest := h n (by simp only [List.length_cons] at hsteps; omega)
    simp only [tokensWithin, hstep, hrest]

/-! ## Words -/

/-- What may stand behind a word: nothing, or a character that is none of a word and no quote. -/
def Ends : List Char → Prop
  | [] => True
  | c :: _ => c ∈ [' ', '.', ',', '=', '(', ')']

theorem isWordStart_of_isPlainStart (h : Identifier.isPlainStart c = true) :
    isWordStart c = true := by
  have hn := Identifier.toNat_of_isPlainStart h
  have hlt : c.toNat < 0x80 := by omega
  simp only [Identifier.isPlainStart, Bool.or_eq_true] at h
  simp only [isWordStart, isLetter, if_pos hlt, Bool.or_eq_true]
  rcases h with h | h
  · exact .inl (.inl (.inl h))
  · exact .inl (.inl (.inr h))

theorem isWordRest_of_isPlainRest (h : Identifier.isPlainRest c = true) : isWordRest c = true := by
  have hn := Identifier.toNat_of_isPlainRest h
  have hlt : c.toNat < 0x80 := by omega
  simp only [Identifier.isPlainRest, Char.isAlphanum, Bool.or_eq_true] at h
  simp only [isWordRest, isLetter, if_pos hlt, Bool.or_eq_true]
  rcases h with ((h | h) | h) | h
  · exact .inl (.inl (.inl (.inl (.inl h))))
  · exact .inl (.inl (.inl (.inl (.inr h))))
  · exact .inl (.inl (.inl (.inr h)))
  · exact .inr h

theorem isDigit_of_isPlainStart (h : Identifier.isPlainStart c = true) : c.isDigit = false := by
  have hn := Identifier.toNat_of_isPlainStart h
  simp only [Char.isDigit, Bool.and_eq_false_iff, decide_eq_false_iff_not, UInt32.le_iff_toNat_le]
  change ¬ 48 ≤ c.toNat ∨ ¬ c.toNat ≤ 57
  omega

theorem isBlank_of_isPlainStart (h : Identifier.isPlainStart c = true) : isBlank c = false := by
  have hn := Identifier.toNat_of_isPlainStart h
  simp only [isBlank, Bool.or_eq_false_iff, Bool.and_eq_false_iff, decide_eq_false_iff_not,
    beq_eq_false_iff_ne]
  omega

theorem step_of_isPlainStart (hc : Identifier.isPlainStart c = true)
    (hr : ∀ d ∈ cs.head?, d ≠ '\x27' ∧ d ≠ '"' ∧ d ≠ '&') (a : Bool) :
    step a (c :: cs) = wordStep [c] cs := by
  have hn := Identifier.toNat_of_isPlainStart hc
  have hne : ∀ d : Char, (d.toNat < 65 ∨ 90 < d.toNat ∧ d.toNat < 95 ∨ d.toNat = 96 ∨
      122 < d.toNat) → c ≠ d := by
    rintro d hd rfl
    omega
  have hdigit := isDigit_of_isPlainStart hc
  have hother : step.other c cs = wordStep [c] cs := by
    have hhash : c ≠ '#' := hne '#' (by decide)
    have hat : c ≠ '@' := hne '@' (by decide)
    exact if_pos ⟨isWordStart_of_isPlainStart hc, .inl ⟨hhash, hat⟩⟩
  rw [← hother]
  have h₁ : c ≠ '\x27' := hne _ (by decide)
  have h₂ : c ≠ '"' := hne _ (by decide)
  have h₃ : c ≠ '\x60' := hne _ (by decide)
  have h₄ : c ≠ '.' := hne _ (by decide)
  have h₅ : c ≠ '?' := hne _ (by decide)
  have h₆ : c ≠ '$' := hne _ (by decide)
  have h₇ : c ≠ '-' := hne _ (by decide)
  have h₈ : c ≠ '/' := hne _ (by decide)
  have hblank : ¬ isBlank c = true := by rw [isBlank_of_isPlainStart hc]; exact Bool.false_ne_true
  have hnumber : ¬ (c.isDigit = true ∨ c = '.') := by
    rw [hdigit]
    exact not_or.mpr ⟨Bool.false_ne_true, h₄⟩
  refine (if_neg hblank).trans ((if_neg h₁).trans ((if_neg (not_or.mpr ⟨h₂, h₃⟩)).trans
    ((if_neg hnumber).trans ((if_neg h₅).trans ((if_neg h₆).trans ?_)))))
  split
  · exact absurd rfl h₇
  · exact absurd rfl h₈
  · exact absurd rfl (hr _ rfl).1
  · exact absurd rfl (hr _ rfl).2.1
  · exact absurd rfl (hr _ rfl).2.2
  · rfl

/-- **A plain word** with something behind it that ends it. -/
theorem Reads.word {w : List Char} (hw : Identifier.isPlain w = true) (hr : Ends rest)
    (h : Reads (Token.ofWord w).isWord rest ts) : Reads a (w ++ rest) (Token.ofWord w :: ts) := by
  cases w with
  | nil => cases hw
  | cons c w =>
    simp only [Identifier.isPlain, Bool.and_eq_true, List.all_eq_true] at hw
    have hall : ∀ d ∈ w, isWordRest d = true := fun d hd => isWordRest_of_isPlainRest (hw.2 d hd)
    have hend : rest.takeWhile isWordRest = [] ∧ rest.dropWhile isWordRest = rest := by
      cases rest with
      | nil => exact ⟨rfl, rfl⟩
      | cons d rest =>
        have hd : isWordRest d = false := by
          simp only [Ends, List.mem_cons, List.not_mem_nil, or_false] at hr
          rcases hr with rfl | rfl | rfl | rfl | rfl | rfl <;> decide
        simp [hd]
    have hstep : step a (c :: (w ++ rest)) = some (some (Token.ofWord (c :: w)), rest) := by
      rw [step_of_isPlainStart hw.1]
      · rw [wordStep, List.takeWhile_append_of_pos hall, List.dropWhile_append_of_pos hall, hend.1,
          hend.2, List.append_nil]
        rfl
      · intro d hd
        cases w with
        | cons e w =>
          cases hd
          have hn := Identifier.toNat_of_isPlainRest (hw.2 d List.mem_cons_self)
          refine ⟨?_, ?_, ?_⟩ <;> rintro rfl <;> simp at hn
        | nil =>
          cases rest with
          | nil => cases hd
          | cons e rest =>
            cases hd
            simp only [Ends, List.mem_cons, List.not_mem_nil, or_false] at hr
            rcases hr with rfl | rfl | rfl | rfl | rfl | rfl <;> decide
    refine .cons hstep ?_ h
    simp only [List.cons_append, List.length_cons, List.length_append]
    omega

/-! ## Texts between quotes -/

theorem untilQuote_append {q : Char} (hr : rest.head? ≠ some q) (hq : q ∉ cs) :
    untilQuote q (cs ++ q :: rest) = some (cs, rest) := by
  induction cs with
  | nil =>
    cases rest with
    | nil => exact if_pos rfl
    | cons d rest =>
      have hd : d ≠ q := fun hd => hr (congrArg some hd)
      exact (if_pos rfl).trans (if_neg hd)
  | cons c cs ih =>
    rw [List.mem_cons, not_or] at hq
    have hrest := congrArg (Option.map (Prod.map (c :: ·) id)) (ih hq.2)
    cases cs <;> exact (if_neg (Ne.symm hq.1)).trans hrest

/-- **A text between quotes** that do not occur in it, with something behind it that does not double
the last one. -/
theorem Reads.quoted {q : Char} {w : List Char} (hq : q = '"' ∨ q = '\x60') (hw : q ∉ w)
    (hr : rest.head? ≠ some q) (h : Reads true rest ts) :
    Reads a (q :: (w ++ q :: rest)) (.quoted (String.ofList w) q :: ts) := by
  have hclosed := congrArg
    (Option.map (Prod.map (fun s => some (Token.quoted (String.ofList s) q)) id))
    (untilQuote_append hr hw)
  have hstep : step a (q :: (w ++ q :: rest)) =
      some (some (.quoted (String.ofList w) q), rest) := by
    rcases hq with rfl | rfl <;> exact hclosed
  refine .cons hstep ?_ h
  simp only [List.length_cons, List.length_append]
  omega

/-! ## Symbols -/

theorem Reads.point (hdigit : c.isDigit = false) (h : Reads false (c :: rest) ts) :
    Reads true ('.' :: c :: rest) (.symbol "." :: ts) := by
  have hnum : numberStep true ('.' :: c :: rest) = symbolStep "." (c :: rest) := by
    unfold numberStep
    split
    · next heq =>
      cases heq
      rfl
    · next heq => cases heq
    · simp [hdigit]
  exact .cons hnum (by simp) h

theorem Reads.symbol (hc : c ∈ ['(', ')', ',', '=']) (hr : ∀ d ∈ rest.head?, d ∈ [' ', '?', 'u'])
    (h : Reads false rest ts) : Reads a (c :: rest) (.symbol (String.ofList [c]) :: ts) := by
  have hstep : step a (c :: rest) = symbolStep (String.ofList [c]) rest := by
    simp only [List.mem_cons, List.not_mem_nil, or_false] at hc
    cases rest with
    | nil => rcases hc with rfl | rfl | rfl | rfl <;> rfl
    | cons d rest =>
      have hd := hr d rfl
      simp only [List.mem_cons, List.not_mem_nil, or_false] at hd
      rcases hc with rfl | rfl | rfl | rfl <;> rcases hd with rfl | rfl | rfl <;> rfl
  exact .cons hstep (by simp) h

theorem Reads.placeholder (hr : ∀ d ∈ rest.head?, d = ' ') (h : Reads false rest ts) :
    Reads a ('?' :: rest) (.placeholder "?" :: ts) := by
  have htake : rest.takeWhile isNumeric = [] ∧ rest.dropWhile isNumeric = rest := by
    cases rest with
    | nil => exact ⟨rfl, rfl⟩
    | cons d rest =>
      have hd : d = ' ' := hr d rfl
      have hnum : isNumeric d = false := by rw [hd]; decide
      simp [hnum]
  have hstep : step a ('?' :: rest) = some (some (.placeholder "?"), rest) := by
    have : step a ('?' :: rest) =
        some (some (.placeholder (String.ofList ('?' :: rest.takeWhile isNumeric))),
          rest.dropWhile isNumeric) := rfl
    rw [this, htake.1, htake.2]
  exact .cons hstep (by simp) h

/-! ## Numbers -/

theorem Reads.number {ds : List Char} (hne : ds ≠ []) (hd : ∀ d ∈ ds, d.isDigit = true)
    (h : Reads false (' ' :: rest) ts) :
    Reads a (ds ++ ' ' :: rest) (.number (String.ofList ds) false :: ts) := by
  have htake : (ds ++ ' ' :: rest).takeWhile Char.isDigit = ds := by
    rw [List.takeWhile_append_of_pos hd]
    exact List.append_nil ds
  have hdrop : (ds ++ ' ' :: rest).dropWhile Char.isDigit = ' ' :: rest := by
    rw [List.dropWhile_append_of_pos hd]
    rfl
  have hpoint : ds ≠ ['.'] := by
    rintro rfl
    exact absurd (hd '.' List.mem_cons_self) (by decide)
  have hnum : numberStep a (ds ++ ' ' :: rest) =
      some (some (.number (String.ofList ds) false), ' ' :: rest) := by
    unfold numberStep
    split
    · next r heq =>
      cases ds with
      | nil => exact absurd rfl hne
      | cons d ds =>
        have hdot : d = '.' := (List.cons.inj heq).1
        exact absurd (hd '.' (hdot ▸ List.mem_cons_self)) (by decide)
    · next r heq =>
      -- The digits are not a hexadecimal literal: a digit or a blank stands behind the first one.
      cases ds with
      | nil => exact absurd rfl hne
      | cons d ds =>
        cases ds with
        | nil => cases heq
        | cons e ds =>
          have hx : e = 'x' := (List.cons.inj (List.cons.inj heq).2).1
          exact absurd (hd 'x' (hx ▸ List.mem_cons_of_mem _ List.mem_cons_self)) (by decide)
    · simp [htake, hdrop, hpoint, exponent]
  have hstep : step a (ds ++ ' ' :: rest) =
      some (some (.number (String.ofList ds) false), ' ' :: rest) := by
    cases ds with
    | nil => exact absurd rfl hne
    | cons d ds =>
      rw [← hnum]
      have hdigit := hd d List.mem_cons_self
      have hlow := toNat_of_isDigit hdigit
      have hblank : ¬ isBlank d = true := by
        rw [isBlank_of_isDigit hdigit]
        exact Bool.false_ne_true
      have h₁ : d ≠ '\x27' := by rintro rfl; simp at hlow
      have h₂ : d ≠ '"' := by rintro rfl; simp at hlow
      have h₃ : d ≠ '\x60' := by rintro rfl; simp at hlow
      exact (if_neg hblank).trans ((if_neg h₁).trans ((if_neg (not_or.mpr ⟨h₂, h₃⟩)).trans
        (if_pos (.inl hdigit))))
  refine .cons hstep ?_ h
  have hpos : 0 < ds.length := List.length_pos_iff.mpr hne
  simp only [List.length_append]
  omega

theorem Reads.minus (hc : c.isDigit = true) (h : Reads false (c :: rest) ts) :
    Reads a ('-' :: c :: rest) (.symbol "-" :: ts) := by
  have hlow := toNat_of_isDigit hc
  have hstep : step a ('-' :: c :: rest) = symbolStep "-" (c :: rest) := by
    have hof : c = Char.ofNat c.toNat := (Char.ofNat_toNat c).symm
    generalize c.toNat = n at hlow hof
    subst hof
    have : n = 48 ∨ n = 49 ∨ n = 50 ∨ n = 51 ∨ n = 52 ∨ n = 53 ∨ n = 54 ∨ n = 55 ∨ n = 56 ∨
      n = 57 := by omega
    rcases this with rfl | rfl | rfl | rfl | rfl | rfl | rfl | rfl | rfl | rfl <;> rfl
  exact .cons hstep (by simp) h

end Sql.Lexer

end CounterTable
