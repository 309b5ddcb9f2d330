import CounterTable.Proofs.Sql.Tokens
import CounterTable.Sql.Grammar.Basic

/-!
# What texts begin with

The tokens of a text are found from its front. What is known about the front of a text that has
tokens says what the first of them is, whatever stands behind it.

* `Lexes`: the tokens that a text is taken apart into;
* `Lexes.of_token`, `Lexes.of_separator`: what stands at the front, taken off;
* **`front_of_step`**: the three kinds of names at the front of a text;
* `step_bare`, `step_quoted`, `step_string`, `step_point`: such a front is found again;
* `doubled`, **`escapeQuote_eq_doubled`**: quotes in texts between quotes.
-/

namespace CounterTable.Sql

open CounterTable.Text

namespace Lexer

/-- The tokens that a text is taken apart into, behind a word or not. -/
def Lexes (a : Bool) (cs : List Char) (ts : List Token) : Prop :=
  ∃ n, tokensWithin n a cs = some ts

variable {a b : Bool} {cs rest : List Char} {ts us : List Token} {t : Token} {c : Char}

theorem tokensWithin_cons (n : Nat) (a : Bool) (c : Char) (cs : List Char) :
    tokensWithin (n + 1) a (c :: cs) = match step a (c :: cs) with
      | none => none
      | some (none, rest) => tokensWithin n false rest
      | some (some t, rest) => (tokensWithin n t.isWord rest).map (t :: ·) := by
  rcases h : step a (c :: cs) with _ | ⟨_ | t, rest⟩ <;> simp only [tokensWithin, h]

theorem tokensWithin_succ {n : Nat} (h : tokensWithin n a cs = some ts) :
    tokensWithin (n + 1) a cs = some ts := by
  induction n generalizing a cs ts with
  | zero =>
    cases cs with
    | nil => exact h
    | cons c cs => cases h
  | succ n ih =>
    cases cs with
    | nil => exact h
    | cons c cs =>
      rw [tokensWithin_cons] at h ⊢
      rcases hs : step a (c :: cs) with _ | ⟨_ | t, rest⟩ <;> rw [hs] at h
      · cases h
      · exact ih h
      · obtain ⟨us, hus, rfl⟩ := Option.map_eq_some_iff.mp h
        exact congrArg (Option.map (t :: ·)) (ih hus)

theorem Lexes.of_tokenize (h : tokenize cs = some ts) : Lexes false cs ts := ⟨cs.length, h⟩

theorem Lexes.eq_of_reads (h : Lexes a cs ts) (h' : Reads a cs us) : ts = us := by
  obtain ⟨n, hn⟩ := h
  have hmore : ∀ m, tokensWithin (n + m) a cs = some ts := by
    intro m
    induction m with
    | zero => exact hn
    | succ m ih => exact tokensWithin_succ ih
  exact Option.some.inj ((hmore cs.length).symm.trans (h' _ (Nat.le_add_left ..)))

theorem Lexes.of_token (h : Lexes a cs ts) (hs : step a cs = some (some t, rest)) :
    ∃ us, ts = t :: us ∧ Lexes t.isWord rest us := by
  obtain ⟨n, hn⟩ := h
  cases cs with
  | nil => cases hs
  | cons c cs =>
    cases n with
    | zero => cases hn
    | succ n =>
      rw [tokensWithin_cons, hs] at hn
      obtain ⟨us, hus, rfl⟩ := Option.map_eq_some_iff.mp hn
      exact ⟨us, rfl, n, hus⟩

theorem Lexes.of_separator (h : Lexes a cs ts) (hs : step a cs = some (none, rest)) :
    Lexes false rest ts := by
  obtain ⟨n, hn⟩ := h
  cases cs with
  | nil => cases hs
  | cons c cs =>
    cases n with
    | zero => cases hn
    | succ n =>
      rw [tokensWithin_cons, hs] at hn
      exact ⟨n, hn⟩

theorem step_blank (a : Bool) (cs : List Char) : step a (' ' :: cs) = some (none, cs) := by
  unfold step
  exact if_pos (by decide)

theorem Lexes.of_blank (h : Lexes a (' ' :: cs) ts) : Lexes false cs ts :=
  h.of_separator (step_blank a cs)

theorem Lexes.step_ne_none (h : Lexes a (c :: cs) ts) : step a (c :: cs) ≠ none := by
  obtain ⟨n, hn⟩ := h
  intro hs
  cases n with
  | zero => cases hn
  | succ n =>
    rw [tokensWithin_cons, hs] at hn
    cases hn

theorem Lexes.exists_cons (h : Lexes a cs (t :: ts)) :
    ∃ b cs' rest, step b cs' = some (some t, rest) ∧ Lexes t.isWord rest ts := by
  obtain ⟨n, hn⟩ := h
  induction n generalizing a cs with
  | zero => cases cs <;> cases hn
  | succ n ih =>
    cases cs with
    | nil => cases hn
    | cons c cs =>
      rw [tokensWithin_cons] at hn
      rcases hs : step a (c :: cs) with _ | ⟨_ | u, rest⟩ <;> rw [hs] at hn
      · cases hn
      · exact ih hn
      · obtain ⟨us, hus, heq⟩ := Option.map_eq_some_iff.mp hn
        cases heq
        exact ⟨_, _, _, hs, n, hus⟩

theorem step_open (a : Bool) (cs : List Char) :
    step a ('(' :: ' ' :: cs) = some (some (.symbol "("), ' ' :: cs) := rfl

/-! ## Bare words -/

/-- A character that begins a bare word, or a symbol of one sign. -/
structure Opens (c : Char) : Prop where
  start : isWordStart c = true
  not_blank : isBlank c = false
  not_digit : c.isDigit = false
  not_mark : c ≠ '\x27' ∧ c ≠ '"' ∧ c ≠ '\x60' ∧ c ≠ '.' ∧ c ≠ '?' ∧ c ≠ '$'

theorem step_of_opens (hc : Opens c)
    (hr : ∀ d ∈ cs.head?, d ≠ '\x27' ∧ d ≠ '"' ∧ d ≠ '&') (a : Bool) :
    step a (c :: cs) = step.other c cs := by
  obtain ⟨h₁, h₂, h₃, h₄, h₅, h₆⟩ := hc.not_mark
  have h₇ : c ≠ '-' := by
    rintro rfl
    exact absurd hc.start (by decide)
  have h₈ : c ≠ '/' := by
    rintro rfl
    exact absurd hc.start (by decide)
  have hblank : ¬ isBlank c = true := by rw [hc.not_blank]; exact Bool.false_ne_true
  have hnumber : ¬ (c.isDigit = true ∨ c = '.') := by
    rw [hc.not_digit]
    exact not_or.mpr ⟨Bool.false_ne_true, h₄⟩
  refine (if_neg hblank).trans ((if_neg h₁).trans ((if_neg (not_or.mpr ⟨h₂, h₃⟩)).trans
    ((if_neg hnumber).trans ((if_neg h₅).trans ((if_neg h₆).trans ?_)))))
  split
  · exact absurd rfl h₇
  · exact absurd rfl h₈
  · exact absurd rfl (hr _ rfl).1
  · exact absurd rfl (hr _ rfl).2.1
  · exact absurd rfl (hr _ rfl).2.2
  · rfl

theorem ident?_of_numberStep (h : numberStep a cs = some (some t, rest)) : t.ident? = none := by
  unfold numberStep symbolStep at h
  split at h
  · split at h
    · cases h
      rfl
    · cases h
  · cases h
    rfl
  · dsimp only at h
    split at h
    all_goals
      split at h <;> simp only [Option.some.injEq, Prod.mk.injEq] at h
      all_goals
        obtain ⟨rfl, -⟩ := h
        rfl

theorem ident?_of_stringStep {style : StringStyle} {body : Option (List Char × List Char)}
    (h : stringStep style body = some (some t, rest)) (hstyle : style ≠ .plain) :
    t.ident? = none := by
  obtain ⟨⟨s, r⟩, -, hs⟩ := Option.map_eq_some_iff.mp h
  cases hs
  cases style <;> first | rfl | exact absurd rfl hstyle

theorem ident?_of_dollarStep (h : dollarStep cs = some (some t, rest)) : t.ident? = none := by
  unfold dollarStep at h
  dsimp only at h
  split at h
  · exact ident?_of_stringStep h nofun
  · cases h
    rfl

/-- Two of the signs begin a bare word only if the word goes on, and not with the second of them. -/
def Continues (c : Char) (cs : List Char) : Prop :=
  (c ≠ '#' ∧ c ≠ '@') ∨ (cs.head?.any fun d => isWordRest d && d != '@') = true

/-- A name at the front of a text, by its kind, and the text behind it. -/
inductive Front (c : Char) (cs : List Char) : Token → List Char → Prop
  | word (hc : Opens c) (hw : Continues c cs) :
    Front c cs (.ofWord (c :: cs.takeWhile isWordRest)) (cs.dropWhile isWordRest)
  | quoted {s rest : List Char} (hc : c = '"' ∨ c = '\x60')
    (h : untilQuote c cs = some (s, rest)) : Front c cs (.quoted (String.ofList s) c) rest
  | string {s rest : List Char} (hc : c = '\x27') (h : untilQuote c cs = some (s, rest)) :
    Front c cs (.string .plain (String.ofList s)) rest

theorem front_of_other {i : Ident} (hc : isBlank c = false ∧ c.isDigit = false ∧
      c ≠ '\x27' ∧ c ≠ '"' ∧ c ≠ '\x60' ∧ c ≠ '.' ∧ c ≠ '?' ∧ c ≠ '$')
    (h : step.other c cs = some (some t, rest)) (ht : t.ident? = some i) : Front c cs t rest := by
  unfold step.other symbolStep at h
  dsimp only at h
  split at h
  · next hw =>
    cases h
    exact .word ⟨hw.1, hc.1, hc.2.1, hc.2.2⟩ hw.2
  · split at h
    · cases h
      cases ht
    · split at h <;> cases h <;> cases ht

/-- **A name at the front of a text** is of one of three kinds. -/
theorem front_of_step {i : Ident} (h : step a (c :: cs) = some (some t, rest))
    (ht : t.ident? = some i) : Front c cs t rest := by
  have hnot : ∀ {u : Token}, u.ident? = none → u ≠ t := by
    rintro _ hu rfl
    cases hu.symm.trans ht
  rw [step.eq_def] at h
  dsimp only at h
  by_cases hblank : isBlank c = true
  · rw [if_pos hblank] at h
    cases h
  rw [if_neg hblank] at h
  by_cases hquote : c = '\x27'
  · rw [if_pos hquote] at h
    obtain ⟨⟨s, r⟩, hs, heq⟩ := Option.map_eq_some_iff.mp h
    cases heq
    subst hquote
    exact .string rfl hs
  rw [if_neg hquote] at h
  by_cases hquoted : c = '"' ∨ c = '\x60'
  · rw [if_pos hquoted] at h
    obtain ⟨⟨s, r⟩, hs, heq⟩ := Option.map_eq_some_iff.mp h
    cases heq
    exact .quoted hquoted hs
  rw [if_neg hquoted] at h
  by_cases hnumber : c.isDigit = true ∨ c = '.'
  · rw [if_pos hnumber] at h
    exact absurd rfl (hnot (ident?_of_numberStep h))
  rw [if_neg hnumber] at h
  by_cases hplace : c = '?'
  · rw [if_pos hplace] at h
    cases h
    cases ht
  rw [if_neg hplace] at h
  by_cases hdollar : c = '$'
  · rw [if_pos hdollar] at h
    exact absurd rfl (hnot (ident?_of_dollarStep h))
  rw [if_neg hdollar] at h
  have hc : isBlank c = false ∧ c.isDigit = false ∧
      c ≠ '\x27' ∧ c ≠ '"' ∧ c ≠ '\x60' ∧ c ≠ '.' ∧ c ≠ '?' ∧ c ≠ '$' := by
    simp only [not_or, Bool.not_eq_true] at hblank hquoted hnumber
    exact ⟨hblank, hnumber.1, hquote, hquoted.1, hquoted.2, hnumber.2, hplace, hdollar⟩
  have hstring : ∀ {style body}, style ≠ .plain → stringStep style body ≠ some (some t, rest) :=
    fun hs he => hnot (ident?_of_stringStep he hs) rfl
  split at h
  · cases h
  · obtain ⟨_, -, heq⟩ := Option.map_eq_some_iff.mp h
    cases heq
  · split at h <;> first | exact absurd h (hstring nofun) | exact front_of_other hc h ht
  · split at h <;> first | exact absurd h (hstring nofun) | exact front_of_other hc h ht
  · split at h <;> first | exact absurd h (hstring nofun) | exact front_of_other hc h ht
  · exact front_of_other hc h ht

/-- A bare word, by its first character and the others. -/
structure IsBare (c : Char) (cs : List Char) : Prop where
  opens : Opens c
  rest : ∀ d ∈ cs, isWordRest d = true
  follows : Continues c cs

theorem Ends.not_rest (hr : Ends (c :: rest)) : isWordRest c = false := by
  simp only [Ends, List.mem_cons, List.not_mem_nil, or_false] at hr
  rcases hr with rfl | rfl | rfl | rfl | rfl | rfl <;> decide

theorem step_bare (h : IsBare c cs) (hr : Ends rest) (a : Bool) :
    step a (c :: (cs ++ rest)) = some (some (Token.ofWord (c :: cs)), rest) := by
  have hend : rest.takeWhile isWordRest = [] ∧ rest.dropWhile isWordRest = rest := by
    cases rest with
    | nil => exact ⟨rfl, rfl⟩
    | cons d rest => simp [Ends.not_rest hr]
  have hnext : ∀ d ∈ (cs ++ rest).head?, d ≠ '\x27' ∧ d ≠ '"' ∧ d ≠ '&' := by
    intro d hd
    cases cs with
    | cons e cs =>
      cases hd
      have hrest := h.rest d List.mem_cons_self
      refine ⟨?_, ?_, ?_⟩ <;> rintro rfl <;> exact absurd hrest (by decide)
    | nil =>
      cases rest with
      | nil => cases hd
      | cons e rest =>
        cases hd
        simp only [Ends, List.mem_cons, List.not_mem_nil, or_false] at hr
        rcases hr with rfl | rfl | rfl | rfl | rfl | rfl <;> decide
  have hfollows : Continues c (cs ++ rest) := by
    rcases h.follows with hc | hfollows
    · exact .inl hc
    · cases cs with
      | nil => cases hfollows
      | cons d cs => exact .inr hfollows
  rw [step_of_opens h.opens hnext]
  refine (if_pos ⟨h.opens.start, hfollows⟩).trans ?_
  rw [wordStep, List.takeWhile_append_of_pos h.rest, List.dropWhile_append_of_pos h.rest, hend.1,
    hend.2, List.append_nil]
  rfl

theorem IsBare.of_front (hc : Opens c) (hw : Continues c cs) :
    IsBare c (cs.takeWhile isWordRest) where
  opens := hc
  rest d hd := List.all_eq_true.mp List.all_takeWhile d hd
  follows := by
    refine hw.imp_right fun hw => ?_
    cases cs with
    | nil => exact hw
    | cons d cs =>
      have hd := hw
      simp only [List.head?_cons, Option.any_some, Bool.and_eq_true] at hd
      rw [List.takeWhile_cons_of_pos hd.1]
      exact hw

theorem IsBare.of_isPlain {w : List Char} (h : Identifier.isPlain (c :: w) = true) :
    IsBare c w := by
  simp only [Identifier.isPlain, Bool.and_eq_true, List.all_eq_true] at h
  have hn := Identifier.toNat_of_isPlainStart h.1
  have hne : ∀ d : Char, (d.toNat < 65 ∨ 90 < d.toNat ∧ d.toNat < 95 ∨ d.toNat = 96 ∨
      122 < d.toNat) → c ≠ d := by
    rintro d hd rfl
    omega
  exact {
    opens := ⟨isWordStart_of_isPlainStart h.1, isBlank_of_isPlainStart h.1,
      isDigit_of_isPlainStart h.1, hne _ (by decide), hne _ (by decide), hne _ (by decide),
      hne _ (by decide), hne _ (by decide), hne _ (by decide)⟩
    rest := fun d hd => isWordRest_of_isPlainRest (h.2 d hd)
    follows := .inl ⟨hne _ (by decide), hne _ (by decide)⟩ }

/-! ## Quotes -/

/-- A text with its quotes doubled. -/
def doubled (q : Char) (cs : List Char) : List Char :=
  cs.flatMap fun c => if c = q then [c, c] else [c]

variable {q : Char} {s : List Char}

@[simp] theorem doubled_nil (q : Char) : doubled q [] = [] := rfl

theorem doubled_cons_self (q : Char) (cs : List Char) :
    doubled q (q :: cs) = q :: q :: doubled q cs := by
  rw [doubled, List.flatMap_cons, if_pos rfl]
  rfl

theorem doubled_cons_of_ne (h : c ≠ q) (cs : List Char) :
    doubled q (c :: cs) = c :: doubled q cs := by
  rw [doubled, List.flatMap_cons, if_neg h]
  rfl

theorem eq_doubled_of_untilQuote (h : untilQuote q cs = some (s, rest)) :
    cs = doubled q s ++ q :: rest ∧ rest.head? ≠ some q := by
  induction cs using untilQuote.induct q generalizing s with
  | case1 => cases h
  | case2 =>
    rw [untilQuote, if_pos rfl] at h
    cases h
    exact ⟨rfl, nofun⟩
  | case3 c hc => rw [untilQuote, if_neg hc] at h; cases h
  | case4 rest' ih =>
    rw [untilQuote, if_pos rfl, if_pos rfl] at h
    obtain ⟨⟨s', r⟩, hs, heq⟩ := Option.map_eq_some_iff.mp h
    cases heq
    obtain ⟨rfl, hr⟩ := ih hs
    exact ⟨by rw [doubled_cons_self]; rfl, hr⟩
  | case5 d rest' hd =>
    rw [untilQuote, if_pos rfl, if_neg hd] at h
    cases h
    exact ⟨rfl, fun he => hd (Option.some.inj he)⟩
  | case6 c d rest' hc ih =>
    rw [untilQuote, if_neg hc] at h
    obtain ⟨⟨s', r⟩, hs, heq⟩ := Option.map_eq_some_iff.mp h
    cases heq
    obtain ⟨hcs, hr⟩ := ih hs
    exact ⟨by rw [doubled_cons_of_ne hc, hcs]; rfl, hr⟩

theorem untilQuote_doubled (h : rest.head? ≠ some q) (s : List Char) :
    untilQuote q (doubled q s ++ q :: rest) = some (s, rest) := by
  induction s with
  | nil =>
    cases rest with
    | nil => exact if_pos rfl
    | cons d rest =>
      have hd : d ≠ q := fun hd => h (congrArg some hd)
      exact (if_pos rfl).trans (if_neg hd)
  | cons c s ih =>
    by_cases hc : c = q
    · subst hc
      rw [doubled_cons_self, List.cons_append, List.cons_append, untilQuote, if_pos rfl,
        if_pos rfl, ih]
      rfl
    · rw [doubled_cons_of_ne hc, List.cons_append]
      obtain ⟨d, ds, hds⟩ : ∃ d ds, doubled q s ++ q :: rest = d :: ds :=
        List.exists_cons_of_ne_nil (by simp)
      rw [hds] at ih ⊢
      rw [untilQuote, if_neg hc, ih]
      rfl

theorem replicate_append_cons {α : Type} (k : Nat) (a : α) (l : List α) :
    List.replicate k a ++ a :: l = a :: (List.replicate k a ++ l) := by
  rw [← List.singleton_append, ← List.append_assoc, ← List.replicate_succ', List.replicate_succ,
    List.cons_append]

/-- **Quotes are escaped** by doubling them, if the escaped text is followed by a closing quote in a
text where the doubled one is. Other quotes may stand before, as far as the induction needs them. -/
theorem escapeQuote_eq_doubled {b : Bool} {k : Nat} {us vs : List Char} (hus : us.head? ≠ some q)
    (h : escapeQuote q b cs ++ q :: us = List.replicate k q ++ (doubled q cs ++ q :: vs)) :
    k = 0 ∧ escapeQuote q b cs = doubled q cs ∧ us = vs := by
  have hzero : ∀ k l, us = List.replicate k q ++ l → k = 0 ∧ us = l := by
    rintro k l rfl
    cases k with
    | zero => exact ⟨rfl, rfl⟩
    | succ k => exact absurd rfl hus
  induction b, cs using escapeQuote.induct q generalizing k with
  | case1 b =>
    have htail := (List.cons.inj (h.trans (replicate_append_cons k q vs))).2
    exact ⟨(hzero k vs htail).1, rfl, (hzero k vs htail).2⟩
  | case2 b c hc =>
    obtain ⟨rfl, hb⟩ := hc
    rw [escapeQuote, if_pos ⟨rfl, hb⟩, doubled_cons_self] at h ⊢
    simp only [List.cons_append, List.nil_append, doubled_nil, replicate_append_cons,
      List.cons.injEq, true_and] at h
    exact ⟨(hzero k vs h).1, rfl, (hzero k vs h).2⟩
  | case3 b c hc =>
    rw [escapeQuote, if_neg hc] at h ⊢
    by_cases hq : c = q
    · subst hq
      rw [doubled_cons_self] at h
      simp only [List.cons_append, List.nil_append, doubled_nil, replicate_append_cons,
        List.cons.injEq, true_and] at h
      exact absurd (congrArg List.head? h) hus
    · rw [doubled_cons_of_ne hq] at h ⊢
      cases k with
      | zero => exact ⟨rfl, rfl, (List.cons.inj (List.cons.inj h).2).2⟩
      | succ k => exact absurd (List.cons.inj h).1 hq
  | case4 d rest ih =>
    -- After a backslash a quote stands for itself, so one of the two is left over.
    rw [escapeQuote, if_pos rfl, if_pos rfl, doubled_cons_self] at h
    have htail : escapeQuote q true (d :: rest) ++ q :: us =
        List.replicate (k + 1) q ++ (doubled q (d :: rest) ++ q :: vs) := by
      simp only [List.cons_append, replicate_append_cons, List.cons.injEq, true_and] at h
      rw [h, List.replicate_succ, List.cons_append]
    exact absurd (ih htail).1 (Nat.succ_ne_zero k)
  | case5 b rest hb ih =>
    -- Two quotes stand for themselves, so two of the four are left over.
    rw [escapeQuote, if_pos rfl, if_neg hb, if_pos rfl, doubled_cons_self, doubled_cons_self] at h
    have htail : escapeQuote q false rest ++ q :: us =
        List.replicate (k + 2) q ++ (doubled q rest ++ q :: vs) := by
      simp only [List.cons_append, replicate_append_cons, List.cons.injEq, true_and] at h
      rw [h, List.replicate_succ, List.replicate_succ, List.cons_append, List.cons_append]
    exact absurd (ih htail).1 (Nat.succ_ne_zero (k + 1))
  | case6 b d rest hb hd ih =>
    rw [escapeQuote, if_pos rfl, if_neg hb, if_neg hd, doubled_cons_self] at h ⊢
    simp only [List.cons_append, replicate_append_cons, List.cons.injEq, true_and] at h
    obtain ⟨hk, he, hv⟩ := ih h
    exact ⟨hk, by rw [he], hv⟩
  | case7 b c d rest hc ih =>
    rw [escapeQuote, if_neg hc, doubled_cons_of_ne hc] at h ⊢
    cases k with
    | zero =>
      obtain ⟨-, he, hv⟩ := ih (k := 0) (List.cons.inj h).2
      exact ⟨rfl, by rw [he], hv⟩
    | succ k => exact absurd (List.cons.inj h).1 hc

/-- Where a text ends that stands between quotes does not depend on what follows, if there are no
such quotes in it. -/
theorem exists_untilQuote_append {us xs ys : List Char}
    (h : untilQuote q (us ++ xs) = some (s, rest)) (hx : q ∉ xs) (hy : ys.head? ≠ some q) :
    ∃ rest', untilQuote q (us ++ ys) = some (s, rest') := by
  obtain ⟨heq, hrest⟩ := eq_doubled_of_untilQuote h
  rw [← List.singleton_append, ← List.append_assoc] at heq
  obtain ⟨vs, rfl, rfl⟩ : ∃ vs, us = doubled q s ++ [q] ++ vs ∧ rest = vs ++ xs := by
    rcases List.append_eq_append_iff.mp heq with ⟨vs, hvs, rfl⟩ | ⟨vs, rfl, rfl⟩
    · rcases List.eq_nil_or_concat vs with rfl | ⟨ws, w, rfl⟩
      · exact ⟨[], by rw [hvs, List.append_nil, List.append_nil], rfl⟩
      · rw [List.concat_eq_append, ← List.append_assoc] at hvs
        obtain rfl : q = w := (List.append_inj' hvs rfl).2 |> List.singleton_inj.mp
        exact absurd (by simp) hx
    · exact ⟨vs, rfl, rfl⟩
  have hhead : (vs ++ ys).head? ≠ some q := by
    cases vs with
    | nil => exact hy
    | cons v vs => exact hrest
  refine ⟨vs ++ ys, ?_⟩
  rw [List.append_assoc, List.append_assoc]
  exact untilQuote_doubled hhead s

theorem step_quoted (hq : q = '"' ∨ q = '\x60') (h : untilQuote q cs = some (s, rest)) (a : Bool) :
    step a (q :: cs) = some (some (.quoted (String.ofList s) q), rest) := by
  have hmap := congrArg
    (Option.map fun p : List Char × List Char => (some (Token.quoted (String.ofList p.1) q), p.2)) h
  rcases hq with rfl | rfl <;> exact hmap

theorem step_string (h : untilQuote '\x27' cs = some (s, rest)) (a : Bool) :
    step a ('\x27' :: cs) = some (some (.string .plain (String.ofList s)), rest) :=
  congrArg (stringStep .plain) h

theorem Lexes.exists_untilQuote (h : Lexes a (q :: cs) ts) (hq : q = '"' ∨ q = '\x60') :
    ∃ s rest us, untilQuote q cs = some (s, rest) ∧ ts = .quoted (String.ofList s) q :: us := by
  cases hs : untilQuote q cs with
  | none =>
    refine absurd ?_ h.step_ne_none
    have hmap := congrArg
      (Option.map fun p : List Char × List Char => (some (Token.quoted (String.ofList p.1) q), p.2))
      hs
    rcases hq with rfl | rfl <;> exact hmap
  | some p =>
    obtain ⟨us, rfl, -⟩ := h.of_token (step_quoted hq hs a)
    exact ⟨p.1, p.2, us, rfl, rfl⟩

theorem step_bracket (a : Bool) (cs : List Char) :
    step a ('[' :: cs) = some (some (.symbol "["), cs) := by
  have hother : step.other '[' cs = some (some (.symbol "["), cs) := rfl
  have hstep : step a ('[' :: cs) = step.other '[' cs := by
    rw [step.eq_def]
    dsimp only
    rw [if_neg (by decide), if_neg (by decide), if_neg (by decide), if_neg (by decide),
      if_neg (by decide), if_neg (by decide)]
    split
    · exact absurd ‹ '[' = '-' › (by decide)
    · exact absurd ‹ '[' = '/' › (by decide)
    · rfl
    · rfl
    · rfl
    · rfl
  exact hstep.trans hother

/-! ## Points -/

theorem step_point {o : Option Token} (h : step a ('.' :: cs) = some (o, rest)) :
    (∃ text long, o = some (.number text long)) ∧ (∃ d ds, cs = d :: ds ∧ d.isDigit = true) ∨
      o = some (.symbol ".") ∧ rest = cs := by
  have hnumber : numberStep a ('.' :: cs) = some (o, rest) := h
  unfold numberStep at hnumber
  split at hnumber
  · next ds heq =>
    obtain ⟨-, rfl⟩ := List.cons.inj heq
    split at hnumber
    · cases hnumber
      exact .inr ⟨rfl, rfl⟩
    · cases hnumber
  · next heq => cases heq
  · cases cs with
    | nil =>
      cases hnumber
      exact .inr ⟨rfl, rfl⟩
    | cons d ds =>
      cases hd : d.isDigit with
      | true =>
        simp [hd] at hnumber
        exact .inl ⟨⟨_, _, hnumber.1.symm⟩, d, ds, rfl, hd⟩
      | false =>
        simp [hd, symbolStep] at hnumber
        exact .inr ⟨hnumber.1.symm, hnumber.2.symm⟩

theorem Lexes.exists_point (h : Lexes a ('.' :: c :: cs) ts) (hc : c.isDigit = false) :
    ∃ us, ts = .symbol "." :: us ∧ Lexes false (c :: cs) us := by
  cases hstep : step a ('.' :: c :: cs) with
  | none => exact absurd hstep h.step_ne_none
  | some p =>
    obtain ⟨o, rest⟩ := p
    rcases step_point hstep with ⟨-, d, ds, heq, hd⟩ | ⟨rfl, rfl⟩
    · cases heq
      rw [hc] at hd
      cases hd
    · exact h.of_token hstep

theorem Lexes.of_point (h : Lexes a ('.' :: cs) (.symbol "." :: ts)) : Lexes false cs ts := by
  cases hstep : step a ('.' :: cs) with
  | none => exact absurd hstep h.step_ne_none
  | some p =>
    obtain ⟨o, rest⟩ := p
    rcases step_point hstep with ⟨⟨text, long, rfl⟩, -⟩ | ⟨rfl, rfl⟩
    · obtain ⟨us, heq, -⟩ := h.of_token hstep
      cases heq
    · obtain ⟨us, heq, hus⟩ := h.of_token hstep
      cases heq
      exact hus

end Lexer

end CounterTable.Sql
