import CounterTable.Proofs.Sql.Fronts
import CounterTable.Proofs.Sql.Names

/-!
# Names that are read as they are written

A name that is read from a text need not be found where a statement shows it: its quotes are escaped
differently than they are read, so that what was one token can become two. Where the name of a table
is shown at the place from which it was read, each part of it is found again as it is written.

* `Ident.spelled`: the token of a name, which may be a keyword or a string;
* `Ident.Respells`: names that are found where they are shown;
* `continued`: the tokens of the further parts of a dotted name;
* **`Lexer.Names.respell`**: the parts of a dotted name that stands where it was read;
* **`Lexer.Lexes.of_renderName`**, `Grammar.objectName_continued`: the tokens of such a name.
-/

namespace CounterTable.Sql

namespace Grammar

theorem symbol?_self (text : String) (ts : List Token) :
    symbol? text (.symbol text :: ts) = some (true, ts) := if_pos rfl

theorem symbol?_of_ne {text : String} {ts : List Token} (h : ∀ us, ts ≠ .symbol text :: us) :
    symbol? text ts = some (false, ts) := by
  unfold symbol?
  split
  · next s us =>
    have hs : s ≠ text := fun hs => h us (by rw [hs])
    rw [if_neg hs]
  · rfl

end Grammar

/-! ## Names -/

/-- The token of a name that stands alone. -/
def Ident.spelled (i : Ident) : Token :=
  match i.quote with
  | none => .ofWord i.text.toList
  | some q => if q = '\x27' then .string .plain i.text else .quoted i.text q

/-- A name is read as it is written, in front of a blank or a point. -/
structure Ident.Respells (i : Ident) : Prop where
  head : ∃ c cs, i.render.toList = c :: cs ∧ c.isDigit = false
  step (a : Bool) {c : Char} (hc : c = ' ' ∨ c = '.') (rest : List Char) :
    Lexer.step a (i.render.toList ++ c :: rest) = some (some i.spelled, c :: rest)

namespace Lexer

variable {a b : Bool} {c q : Char} {cs rest s : List Char} {t : Token} {ts us : List Token}
  {i : Ident}

theorem ident?_ofWord (w : List Char) : (Token.ofWord w).ident? = some ⟨String.ofList w, none⟩ := by
  unfold Token.ofWord
  dsimp only
  split <;> rfl

theorem ident?_spelled (i : Ident) : i.spelled.ident? = some i := by
  obtain ⟨text, _ | q⟩ := i
  · rw [Ident.spelled, ident?_ofWord, String.ofList_toList]
  · unfold Ident.spelled
    dsimp only
    split
    · next hq =>
      rw [hq]
      rfl
    · rfl

theorem Ends.of_blank_or_point (hc : c = ' ' ∨ c = '.') (rest : List Char) : Ends (c :: rest) := by
  rcases hc with rfl | rfl <;> exact Ends.of_mem (by decide)

theorem IsBare.respells (h : IsBare c cs) : Ident.Respells ⟨String.ofList (c :: cs), none⟩ where
  head := ⟨c, cs, String.toList_ofList, h.opens.not_digit⟩
  step a d hd rest := by
    have hstep := step_bare h (Ends.of_blank_or_point hd rest) a
    simp only [Ident.render, Ident.spelled, String.toList_ofList]
    exact hstep

theorem kinds_of_step {cs' : List Char} (h : step a cs = some (some t, cs'))
    (ht : t.ident? = some i) :
    (∃ c w, IsBare c w ∧ i = ⟨String.ofList (c :: w), none⟩) ∨
      ∃ q, i.quote = some q ∧ (q = '"' ∨ q = '\x60' ∨ q = '\x27') := by
  cases cs with
  | nil => cases h
  | cons c cs =>
    cases front_of_step h ht with
    | word hc hw =>
      rw [ident?_ofWord] at ht
      exact .inl ⟨c, _, .of_front hc hw, (Option.some.inj ht).symm⟩
    | quoted hc _ =>
      cases ht
      exact .inr ⟨c, rfl, hc.imp_right .inl⟩
    | string hc _ =>
      cases ht
      exact .inr ⟨_, rfl, .inr (.inr rfl)⟩

theorem toList_render_of_quote (h : i.quote = some q) :
    i.render.toList = q :: (escapeQuote q false i.text.toList ++ [q]) := by
  rw [Ident.render, h]
  simp only [betweenQuotes, String.toList_ofList, List.cons_append]

theorem respells_of_quote {us : List Char} (hq : i.quote = some q)
    (hkind : q = '"' ∨ q = '\x60' ∨ q = '\x27') (hus : us.head? ≠ some q)
    (h : untilQuote q (escapeQuote q false i.text.toList ++ q :: us) = some (i.text.toList, rest)) :
    i.Respells ∧ rest = us := by
  obtain ⟨heq, hrest⟩ := eq_doubled_of_untilQuote h
  obtain ⟨-, hescape, rfl⟩ := escapeQuote_eq_doubled (k := 0) hus heq
  refine ⟨⟨⟨q, _, toList_render_of_quote hq, ?_⟩, fun a c hc rest => ?_⟩, rfl⟩
  · rcases hkind with rfl | rfl | rfl <;> decide
  · have hhead : (c :: rest).head? ≠ some q := by
      rcases hkind with rfl | rfl | rfl <;> rcases hc with rfl | rfl <;> simp
    have huntil := untilQuote_doubled hhead i.text.toList
    rw [← hescape] at huntil
    rw [toList_render_of_quote hq, List.cons_append, List.append_assoc, List.singleton_append,
      Ident.spelled, hq]
    rcases hkind with hkind | hkind | rfl
    · rw [step_quoted (.inl hkind) huntil, String.ofList_toList, hkind]
      rfl
    · rw [step_quoted (.inr hkind) huntil, String.ofList_toList, hkind]
      rfl
    · rw [step_string huntil, String.ofList_toList]
      rfl

theorem respells_of_lexes {u : Token} {d : Char} (hstep : step b rest = some (some t, s))
    (ht : t.ident? = some i) (hd : d = ' ' ∨ d = '.')
    (h : Lexes a (i.render.toList ++ d :: cs) (u :: ts))
    (hu : u.ident? = some i ∨ ∃ word text, u = .keyword word text) :
    i.Respells ∧ Lexes u.isWord (d :: cs) ts := by
  rcases kinds_of_step hstep ht with ⟨c, w, hbare, rfl⟩ | ⟨q, hq, hkind⟩
  · obtain ⟨us, heq, hus⟩ := h.of_token (hbare.respells.step a hd cs)
    cases heq
    exact ⟨hbare.respells, hus⟩
  · have hhead : (d :: cs).head? ≠ some q := by
      rcases hkind with rfl | rfl | rfl <;> rcases hd with rfl | rfl <;> simp
    rw [toList_render_of_quote hq, List.cons_append, List.append_assoc, List.singleton_append] at h
    cases huntil : untilQuote q (escapeQuote q false i.text.toList ++ q :: d :: cs) with
    | none =>
      refine absurd ?_ h.step_ne_none
      have hmap := congrArg (Option.map fun p : List Char × List Char =>
        (some (Token.quoted (String.ofList p.1) q), p.2)) huntil
      rcases hkind with rfl | rfl | rfl
      · exact hmap
      · exact hmap
      · exact congrArg (stringStep .plain) huntil
    | some p =>
      obtain ⟨v, r⟩ := p
      obtain ⟨u', hstep', hident, hword⟩ : ∃ u',
          step a (q :: (escapeQuote q false i.text.toList ++ q :: d :: cs)) = some (some u', r) ∧
            u'.ident? = some ⟨String.ofList v, some q⟩ ∧
              ∀ word text, u' ≠ .keyword word text := by
        rcases hkind with hkind | hkind | rfl
        · exact ⟨_, step_quoted (.inl hkind) huntil a, rfl, nofun⟩
        · exact ⟨_, step_quoted (.inr hkind) huntil a, rfl, nofun⟩
        · exact ⟨_, step_string huntil a, rfl, nofun⟩
      obtain ⟨us, heq, hus⟩ := h.of_token hstep'
      cases heq
      rcases hu with hu | ⟨word, text, hu⟩
      · obtain rfl : v = i.text.toList := by
          rw [← Option.some.inj (hident.symm.trans hu), String.toList_ofList]
        obtain ⟨hrespells, rfl⟩ := respells_of_quote hq hkind hhead huntil
        exact ⟨hrespells, hus⟩
      · exact absurd hu (hword word text)

theorem Lexes.exists_step (h : Lexes a cs ts) (ht : t ∈ ts) :
    ∃ b cs' rest, step b cs' = some (some t, rest) := by
  induction ts generalizing a cs with
  | nil => cases ht
  | cons u ts ih =>
    obtain ⟨b, cs', rest, hstep, htail⟩ := h.exists_cons
    rcases List.mem_cons.mp ht with rfl | ht
    · exact ⟨b, cs', rest, hstep⟩
    · exact ih htail ht

end Lexer

/-! ## Dotted names -/

/-- The further parts of a dotted name as they are shown, with tokens behind them. -/
def continued : List Ident → List Token → List Token
  | [], us => us
  | i :: rest, us => .symbol "." :: i.spelled :: continued rest us

namespace Lexer

variable {a : Bool} {cs : List Char} {t : Token} {ts us : List Token} {i : Ident} {is : List Ident}

/-- A dotted name at the front of tokens, and the tokens behind it. -/
inductive Names : List Ident → List Token → List Token → Prop
  | last {t : Token} {i : Ident} {us : List Token} (ht : t.ident? = some i) : Names [i] (t :: us) us
  | dot {t : Token} {i j : Ident} {js : List Ident} {ts us : List Token} (ht : t.ident? = some i)
    (h : Names (j :: js) ts us) : Names (i :: j :: js) (t :: .symbol "." :: ts) us

theorem names_of_objectName (h : Grammar.objectName ts = some (is, us)) : Names is ts us := by
  have hwithin : ∀ n ts is, Grammar.objectNameWithin n ts = some (is, us) → Names is ts us := by
    intro n
    induction n with
    | zero => exact nofun
    | succ n ih =>
      intro ts is h
      cases ts with
      | nil => cases h
      | cons t ts =>
        cases ht : t.ident? with
        | none => simp [Grammar.objectNameWithin, ht, -Token.ident?] at h
        | some j =>
          have hident : Grammar.ident (t :: ts) = some (j, ts) := by
            simp [ht, -Token.ident?]
          rw [Grammar.objectNameWithin, Grammar.bind_of hident] at h
          by_cases hpoint : ∃ us, ts = .symbol "." :: us
          · obtain ⟨vs, rfl⟩ := hpoint
            rw [Grammar.bind_of (Grammar.symbol?_self "." vs), if_pos rfl, Grammar.bind_apply] at h
            cases hrest : Grammar.objectNameWithin n vs with
            | none => rw [hrest] at h; cases h
            | some r =>
              obtain ⟨js, ws⟩ := r
              rw [hrest] at h
              cases h
              have hnames := ih vs js hrest
              cases js with
              | nil => cases hnames
              | cons k ks => exact .dot ht hnames
          · rw [Grammar.bind_of (Grammar.symbol?_of_ne fun us h => hpoint ⟨us, h⟩)] at h
            cases h
            exact .last ht
  exact hwithin _ _ _ h

theorem Names.exists_head (h : Names is ts us) :
    ∃ i js t vs, is = i :: js ∧ ts = t :: vs ∧ t.ident? = some i := by
  cases h with
  | last ht => exact ⟨_, _, _, _, rfl, rfl, ht⟩
  | dot ht h => exact ⟨_, _, _, _, rfl, rfl, ht⟩

/-- **The names of a text** whose dotted name is written as it is read. -/
theorem Names.respell (h : Names is ts us) (hl : Lexes a ((renderName is).toList ++ ' ' :: cs) ts) :
    ∀ i ∈ is, i.Respells := by
  induction h generalizing a with
  | @last t i us ht =>
    obtain ⟨b, cs', rest, hstep⟩ := hl.exists_step List.mem_cons_self
    have hname : renderName [i] = i.render := String.intercalate_singleton
    rw [hname] at hl
    have hrespells := (respells_of_lexes hstep ht (.inl rfl) hl (.inl ht)).1
    intro j hj
    rwa [List.mem_singleton.mp hj]
  | @dot t i j js ts us ht h ih =>
    obtain ⟨b, cs', rest, hstep⟩ := hl.exists_step List.mem_cons_self
    rw [toList_renderName_cons, List.append_assoc, List.cons_append] at hl
    obtain ⟨hrespells, htail⟩ := respells_of_lexes hstep ht (.inr rfl) hl (.inl ht)
    intro k hk
    rcases List.mem_cons.mp hk with rfl | hk
    · exact hrespells
    · exact ih htail.of_point k hk

theorem exists_toList_renderName (i : Ident) (is : List Ident) :
    ∃ cs, (renderName (i :: is)).toList = i.render.toList ++ cs := by
  cases is with
  | nil =>
    have hname : renderName [i] = i.render := String.intercalate_singleton
    exact ⟨[], by rw [hname, List.append_nil]⟩
  | cons j js => exact ⟨_, toList_renderName_cons i j js⟩

/-- **A dotted name** of parts that are read as they are written. -/
theorem Lexes.of_renderName (hi : ∀ j ∈ i :: is, j.Respells)
    (hl : Lexes a ((renderName (i :: is)).toList ++ ' ' :: cs) ts) :
    ∃ us, ts = i.spelled :: continued is us ∧ Lexes false cs us := by
  induction is generalizing a i ts with
  | nil =>
    have hname : renderName [i] = i.render := String.intercalate_singleton
    rw [hname] at hl
    obtain ⟨us, rfl, hus⟩ := hl.of_token ((hi i List.mem_cons_self).step a (.inl rfl) cs)
    exact ⟨us, rfl, hus.of_blank⟩
  | cons j js ih =>
    rw [toList_renderName_cons, List.append_assoc, List.cons_append] at hl
    obtain ⟨us, rfl, hus⟩ := hl.of_token ((hi i List.mem_cons_self).step a (.inr rfl) _)
    -- The point is a symbol of its own because no digit stands behind it.
    obtain ⟨d, ds, hd, hdigit⟩ := (hi j (by simp)).head
    obtain ⟨es, hes⟩ := exists_toList_renderName j js
    have hnext : (renderName (j :: js)).toList ++ ' ' :: cs = d :: (ds ++ es ++ ' ' :: cs) := by
      rw [hes, hd]
      simp
    rw [hnext] at hus
    obtain ⟨vs, rfl, hvs⟩ := hus.exists_point hdigit
    rw [← hnext] at hvs
    obtain ⟨ws, rfl, hws⟩ := ih (fun k hk => hi k (List.mem_cons_of_mem i hk)) hvs
    exact ⟨ws, rfl, hws⟩

theorem Lexes.ne_keywords
    (hl : Lexes a ((renderName (i :: is)).toList ++ ' ' :: '(' :: ' ' :: cs) ts)
    (ht : t.ident? = some i) (hmem : t ∈ ts) (first second text text' : String) (us : List Token) :
    ts ≠ .keyword first text :: .keyword second text' :: us := by
  rintro rfl
  obtain ⟨b, cs', rest, hstep⟩ := hl.exists_step hmem
  cases is with
  | nil =>
    have hname : renderName [i] = i.render := String.intercalate_singleton
    rw [hname] at hl
    obtain ⟨-, htail⟩ := respells_of_lexes hstep ht (.inl rfl) hl (.inr ⟨_, _, rfl⟩)
    obtain ⟨vs, heq, -⟩ := htail.of_blank.of_token (step_open _ _)
    cases heq
  | cons j js =>
    rw [toList_renderName_cons, List.append_assoc, List.cons_append] at hl
    obtain ⟨-, htail⟩ := respells_of_lexes hstep ht (.inr rfl) hl (.inr ⟨_, _, rfl⟩)
    cases hpoint : step (Token.keyword first text).isWord
        ('.' :: ((renderName (j :: js)).toList ++ ' ' :: '(' :: ' ' :: cs)) with
    | none => exact absurd hpoint htail.step_ne_none
    | some p =>
      obtain ⟨o, rest⟩ := p
      rcases step_point hpoint with ⟨⟨number, long, rfl⟩, -⟩ | ⟨rfl, -⟩
      · obtain ⟨vs, heq, -⟩ := htail.of_token hpoint
        cases heq
      · obtain ⟨vs, heq, -⟩ := htail.of_token hpoint
        cases heq

end Lexer

namespace Grammar

variable {us : List Token}

theorem ident_spelled (i : Ident) (us : List Token) : ident (i.spelled :: us) = some (i, us) := by
  rw [ident, Lexer.ident?_spelled]
  rfl

theorem objectNameWithin_continued (h : ∀ vs, us ≠ .symbol "." :: vs) (i : Ident)
    (is : List Ident) (n : Nat) (hn : is.length < n) :
    objectNameWithin n (i.spelled :: continued is us) = some (i :: is, us) := by
  induction is generalizing i n with
  | nil =>
    cases n with
    | zero => omega
    | succ n =>
      rw [continued, objectNameWithin, bind_of (ident_spelled i us), bind_of (symbol?_of_ne h)]
      rfl
  | cons j js ih =>
    cases n with
    | zero => omega
    | succ n =>
      have hrest := ih j n (by simp only [List.length_cons] at hn; omega)
      rw [continued, objectNameWithin, bind_of (ident_spelled i _), bind_of (symbol?_self "." _),
        if_pos rfl, bind_of hrest]
      rfl

theorem length_continued (is : List Ident) (us : List Token) :
    (continued is us).length = 2 * is.length + us.length := by
  induction is with
  | nil => simp [continued]
  | cons i is ih =>
    simp only [continued, List.length_cons, ih]
    omega

/-- **A dotted name** is taken with all its parts, also where these are keywords. -/
theorem objectName_continued (h : ∀ vs, us ≠ .symbol "." :: vs) (i : Ident) (is : List Ident) :
    objectName (i.spelled :: continued is us) = some (i :: is, us) := by
  refine objectNameWithin_continued h i is _ ?_
  rw [List.length_cons, length_continued]
  omega

end Grammar

end CounterTable.Sql
