import CounterTable.Sql.Grammar.Statement

/-!
# Running parsers on tokens

A parser that is run on tokens whose first ones are known takes them, and what it answers can be
computed step by step: the first part of it answers something, and the rest goes on with that.

* `onward`: a parser behind what another one has answered;
* `bind_apply` and its companions: what composed parsers do;
* `token`: the token of a name, bare or in quotes;
* **`objectName_qualified`**: a dotted name.
-/

namespace CounterTable.Sql.Grammar

variable {α β : Type}

/-- What a parser that depends on an answer does with the tokens behind it. -/
def onward (r : Option (α × List Token)) (f : α → Parser β) : Option (β × List Token) :=
  match r with
  | some (a, ts) => f a ts
  | none => none

@[congr] theorem onward_congr {r s : Option (α × List Token)} (h : r = s) (f : α → Parser β) :
    onward r f = onward s f := by rw [h]

@[simp] theorem onward_some (a : α) (ts : List Token) (f : α → Parser β) :
    onward (some (a, ts)) f = f a ts := rfl

@[simp] theorem onward_none (f : α → Parser β) : onward none f = none := rfl

@[simp ↓] theorem bind_apply (p : Parser α) (f : α → Parser β) (ts : List Token) :
    (p >>= f) ts = onward (p ts) f := by
  change (p ts).bind _ = _
  cases p ts <;> rfl

theorem bind_of {p : Parser α} {ts us : List Token} {a : α} (h : p ts = some (a, us))
    (f : α → Parser β) : (p >>= f) ts = f a us := by
  rw [bind_apply, h, onward_some]

@[simp] theorem pure_apply (a : α) (ts : List Token) : (pure a : Parser α) ts = some (a, ts) := rfl

@[simp] theorem failure_apply (ts : List Token) : (failure : Parser α) ts = none := rfl

@[simp ↓] theorem map_apply (f : α → β) (p : Parser α) (ts : List Token) :
    (f <$> p) ts = onward (p ts) fun a => pure (f a) := by
  rw [← bind_apply, map_eq_pure_bind]

@[simp ↓] theorem orElse_apply (p q : Parser α) (ts : List Token) :
    (p <|> q) ts = match p ts with
      | some r => some r
      | none => q ts := by
  change (p ts <|> q ts) = _
  cases p ts <;> rfl

@[simp] theorem get_apply (ts : List Token) : (get : Parser (List Token)) ts = some (ts, ts) := rfl

@[simp] theorem set_apply (us ts : List Token) : (set us : Parser PUnit) ts = some (⟨⟩, us) := rfl

@[simp ↓] theorem ite_run (c : Prop) [Decidable c] (p q : Parser α) (ts : List Token) :
    (if c then p else q) ts = if c then p ts else q ts := by split <;> rfl

theorem discard_apply (p : Parser α) (ts : List Token) :
    (discard p : Parser PUnit) ts = onward (p ts) fun _ => pure ⟨⟩ := by
  rw [← bind_apply]
  rfl

attribute [simp] peek next peekKeyword peekSymbol keyword? symbol? afterKeywords keywords? oneOf?
  keyword keywords symbol oneOf whenever parenthesized ident many manyWithin Token.ident?

theorem skip_of {p : Parser α} {ts us : List Token} {a : α} (h : p ts = some (a, us)) :
    skip p ts = some ((), us) := by
  rw [skip, discard_apply, h]
  rfl

theorem many_of_none {p : Parser (Option α)} {ts : List Token} (h : p ts = some (none, ts)) :
    many p ts = some ([], ts) := by
  unfold many
  cases ts.length with
  | zero => rfl
  | succ n => simp [manyWithin, h]

theorem commaSeparated_single {p : Parser α} {us ts : List Token} {a : α}
    (h : p us = some (a, ts)) (hc : symbol? "," ts = some (false, ts)) :
    commaSeparated p us = some ([a], ts) := by
  unfold commaSeparated commaSeparatedWithin
  exact (bind_of h _).trans ((bind_of hc _).trans rfl)

/-! ## Names -/

/-- A bare name. -/
def bare (text : String) : Ident := ⟨text, none⟩

/-- The token of a name: a bare word, or a text between quotes. -/
def token (i : Ident) : Token :=
  match i.quote with
  | none => .name i.text
  | some q => .quoted i.text q

section Token

variable (i : Ident) (ts : List Token)

theorem isWord_token : (token i).isWord = true := by
  rcases i with ⟨w, _ | q⟩ <;> rfl

theorem ident_token : ident (token i :: ts) = some (i, ts) := by
  rcases i with ⟨w, _ | q⟩ <;> rfl

theorem keyword?_token (word : String) :
    keyword? word (token i :: ts) = some (false, token i :: ts) := by
  rcases i with ⟨w, _ | q⟩ <;> rfl

theorem keywords?_token (word : String) (words : List String) :
    keywords? (word :: words) (token i :: ts) = some (false, token i :: ts) := by
  rcases i with ⟨w, _ | q⟩ <;> rfl

theorem peekKeyword_token (word : String) :
    peekKeyword word (token i :: ts) = some (false, token i :: ts) := by
  rcases i with ⟨w, _ | q⟩ <;> rfl

theorem symbol?_token (text : String) :
    symbol? text (token i :: ts) = some (false, token i :: ts) := by
  rcases i with ⟨w, _ | q⟩ <;> rfl

theorem peekSymbol_token (text : String) :
    peekSymbol text (token i :: ts) = some (false, token i :: ts) := by
  rcases i with ⟨w, _ | q⟩ <;> rfl

end Token

/-! ## Dotted names -/

/-- The further parts of a dotted name, with tokens behind them. -/
def qualified : List Ident → List Token → List Token
  | [], ts => ts
  | i :: rest, ts => .symbol "." :: token i :: qualified rest ts

theorem objectNameWithin_qualified {ts : List Token} (h : ∀ us, ts ≠ .symbol "." :: us) (i : Ident)
    (rest : List Ident) (n : Nat) (hn : rest.length < n) :
    objectNameWithin n (token i :: qualified rest ts) = some (i :: rest, ts) := by
  induction rest generalizing i n with
  | nil =>
    cases n with
    | zero => omega
    | succ n =>
      have hsymbol : symbol? "." ts = some (false, ts) := by
        unfold symbol?
        split
        · next s us =>
          have hs : s ≠ "." := fun hs => h us (by rw [hs])
          rw [if_neg hs]
        · rfl
      simp [objectNameWithin, qualified, ident_token, hsymbol, -ident, -symbol?]
  | cons j rest ih =>
    cases n with
    | zero => omega
    | succ n =>
      have hrest := ih j n (by simp only [List.length_cons] at hn; omega)
      simp [objectNameWithin, qualified, ident_token, hrest, -ident]

theorem length_qualified (rest : List Ident) (ts : List Token) :
    (qualified rest ts).length = 2 * rest.length + ts.length := by
  induction rest with
  | nil => simp [qualified]
  | cons i rest ih =>
    simp only [qualified, List.length_cons, ih]
    omega

/-- **A dotted name** is taken with all its parts. -/
theorem objectName_qualified {ts : List Token} (h : ∀ us, ts ≠ .symbol "." :: us) (i : Ident)
    (rest : List Ident) :
    objectName (token i :: qualified rest ts) = some (i :: rest, ts) := by
  refine objectNameWithin_qualified h i rest _ ?_
  rw [List.length_cons, length_qualified]
  omega

theorem objectName_token {ts : List Token} (h : ∀ us, ts ≠ .symbol "." :: us) (i : Ident) :
    objectName (token i :: ts) = some ([i], ts) := objectName_qualified h i []

end CounterTable.Sql.Grammar
