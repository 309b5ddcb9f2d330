import CounterTable.Proofs.Sql.Running

/-!
# Reading expressions and tables

The expressions and tables that the statements of counters are made of, as tokens. What is read
depends on the tokens behind them, which must not go on with what stands before.

* `Closes`, `ClosesTable`: what may stand behind an expression, behind a table;
* `expression_of_operand`, `expression_equation`: single values, and an equation;
* `namedTable_plain`, `namedTable_hinted`: tables, with a lock hint or without.
-/

namespace CounterTable.Sql.Grammar

variable {g : Nesting} {ts : List Token}

/-! ## Expressions -/

/-- What may stand behind an operand: it does not go on with it. -/
inductive Closes : List Token → Prop
  | nil : Closes []
  | as (text : String) (us : List Token) : Closes (.keyword "AS" text :: us)
  | where (text : String) (us : List Token) : Closes (.keyword "WHERE" text :: us)
  | close (us : List Token) : Closes (.symbol ")" :: us)
  | comma (us : List Token) : Closes (.symbol "," :: us)

theorem operand_of_plain {us : List Token} {e : Expr} (hliteral : typedLiteral us = none)
    (hplain : ∀ p, operandWith.plain g false p us = some (e, ts))
    (hcollate : keyword? "COLLATE" ts = some (false, ts)) : operand g false us = some (e, ts) := by
  simp [operand, operandWithin, operandWith, hliteral, hplain, hcollate, -keyword?]

theorem objectName_of_not_ident {t : Token} (h : t.ident? = none) (ts : List Token) :
    objectName (t :: ts) = none := by
  simp [objectName, objectNameWithin, h, -Token.ident?]

theorem Closes.keyword?_collate (h : Closes ts) : keyword? "COLLATE" ts = some (false, ts) := by
  cases h <;> rfl

/-- What may stand behind a column: it neither goes on with it nor makes it a call or a type. -/
def ClosesColumn (ts : List Token) : Prop := Closes ts ∨ ∃ us, ts = .symbol "=" :: us

namespace ClosesColumn

theorem ne_point (h : ClosesColumn ts) (us : List Token) : ts ≠ .symbol "." :: us := by
  rintro rfl
  rcases h with h | ⟨us, h⟩
  · generalize hdot : "." = text at h
    cases h <;> exact absurd hdot (by decide)
  · exact absurd (List.cons.inj h).1 (by decide)

theorem keyword?_collate (h : ClosesColumn ts) : keyword? "COLLATE" ts = some (false, ts) := by
  rcases h with h | ⟨us, rfl⟩
  · exact h.keyword?_collate
  · rfl

theorem typedLiteral (h : ClosesColumn ts) (i : Ident) : typedLiteral (token i :: ts) = none := by
  have hname := objectName_token h.ne_point i
  have hparameters : typeParameters ts = some ("", ts) := by
    rcases h with h | ⟨us, rfl⟩
    · cases h <;> rfl
    · rfl
  have hsuffixes : many arraySuffix ts = some ([], ts) := by
    refine many_of_none ?_
    rcases h with h | ⟨us, rfl⟩
    · cases h <;> rfl
    · rfl
  rcases i with ⟨w, _ | q⟩ <;> simp only [token] at hname ⊢ <;>
  simp [Grammar.typedLiteral, dataType, hname, hparameters, hsuffixes, -many]

theorem nameOrCall (h : ClosesColumn ts) (g : Nesting) (i : Ident) :
    nameOrCall g i ts = some (.column [i], ts) := by
  rcases h with h | ⟨us, rfl⟩
  · cases h <;> rfl
  · rfl

end ClosesColumn

theorem operand_token (h : ClosesColumn ts) (g : Nesting) (i : Ident) :
    operand g false (token i :: ts) = some (.column [i], ts) := by
  refine operand_of_plain (h.typedLiteral i) (fun p => ?_) h.keyword?_collate
  have hcolumn := h.nameOrCall g i
  rcases i with ⟨w, _ | q⟩ <;> exact hcolumn

theorem typedLiteral_of_not_ident {t : Token} (h : t.ident? = none) (ts : List Token) :
    typedLiteral (t :: ts) = none := by
  have hname := objectName_of_not_ident h ts
  cases t
  case name | keyword | quoted => cases h
  all_goals simp [typedLiteral, dataType, hname]

theorem operand_placeholder (h : Closes ts) (g : Nesting) :
    operand g false (.placeholder "?" :: ts) = some (.placeholder "?" (questions ts), ts) :=
  operand_of_plain (typedLiteral_of_not_ident rfl ts) (fun _ => rfl) h.keyword?_collate

theorem operand_number (h : Closes ts) (g : Nesting) (digits : String) :
    operand g false (.number digits false :: ts) = some (.number digits false, ts) :=
  operand_of_plain (typedLiteral_of_not_ident rfl ts) (fun _ => rfl) h.keyword?_collate

theorem operand_negated (h : Closes ts) {e : Expr} {us : List Token}
    (hg : g.expr false Precedence.sign us = some (e, ts)) :
    operand g false (.symbol "-" :: us) = some (.negated e, ts) := by
  refine operand_of_plain (typedLiteral_of_not_ident rfl us) (fun p => ?_) h.keyword?_collate
  have hplain : operandWith.plain g false p (.symbol "-" :: us) =
      onward (g.expr false Precedence.sign us) fun e => pure (.negated e) := by
    rw [← bind_apply]
    rfl
  rw [hplain, hg, onward_some, pure_apply]

theorem Closes.nextPrecedence (h : Closes ts) : nextPrecedence false ts = 0 := by
  cases h <;> rfl

theorem Closes.accessWithin (h : Closes ts) (g : Nesting) (n : Nat) (e : Expr) :
    accessWithin g false n e ts = some (e, ts) := by
  cases n with
  | zero => rfl
  | succ n => cases h <;> rfl

theorem expression_of_operand (h : Closes ts) {us : List Token} {e : Expr}
    (hg : operand g false us = some (e, ts)) (least : Nat) :
    expression g false least us = some (e, ts) := by
  have hprimary : primary g false us = some (e, ts) := by
    simp [primary, hg, h.accessWithin]
  simp [expression, hprimary, operationsWithin, h.nextPrecedence]

theorem symbolPrecedence_equals : symbolPrecedence "=" = 20 := by decide

theorem binarySymbol?_equals : binarySymbol? "=" = some "=" := by decide

theorem expression_equation (h : Closes ts) (i : Ident)
    (hg : g.expr false 20 (.placeholder "?" :: ts) = some (.placeholder "?" (questions ts), ts)) :
    expression g false 0 (token i :: .symbol "=" :: .placeholder "?" :: ts) =
      some (.equation (.column [i]) (.placeholder "?" (questions ts)), ts) := by
  have hleft := operand_token (.inr ⟨.placeholder "?" :: ts, rfl⟩) g i
  have haccess (n : Nat) : accessWithin g false n (.column [i])
      (.symbol "=" :: .placeholder "?" :: ts) = some (.column [i], .symbol "=" ::
        .placeholder "?" :: ts) := by
    cases n <;> rfl
  have hprimary : primary g false (token i :: .symbol "=" :: .placeholder "?" :: ts) =
      some (.column [i], .symbol "=" :: .placeholder "?" :: ts) := by
    simp [primary, hleft, haccess]
  have hprecedence : Grammar.nextPrecedence false (.symbol "=" :: .placeholder "?" :: ts) = 20 :=
    symbolPrecedence_equals
  have hoperation :
      operation g false 20 (.column [i]) (.symbol "=" :: .placeholder "?" :: ts) =
      some (.equation (.column [i]) (.placeholder "?" (questions ts)), ts) := by
    simp [operation, binarySymbol?_equals, binary, hg]
  simp [expression, hprimary, operationsWithin, hprecedence, hoperation, h.nextPrecedence]

/-- The expressions of counters are read: names, parameters and numbers, and equations between names
and parameters. -/
structure ReadsValues (g : Nesting) : Prop where
  column {ts : List Token} (i : Ident) (h : Closes ts) :
    g.expr false 0 (token i :: ts) = some (.column [i], ts)
  placeholder {ts : List Token} (h : Closes ts) :
    g.expr false 0 (.placeholder "?" :: ts) = some (.placeholder "?" (questions ts), ts)
  number {ts : List Token} (digits : String) (h : Closes ts) :
    g.expr false 0 (.number digits false :: ts) = some (.number digits false, ts)
  negated {ts : List Token} (digits : String) (h : Closes ts) :
    g.expr false 0 (.symbol "-" :: .number digits false :: ts) =
      some (.negated (.number digits false), ts)
  equation {ts : List Token} (i : Ident) (h : Closes ts) :
    g.expr false 0 (token i :: .symbol "=" :: .placeholder "?" :: ts) =
      some (.equation (.column [i]) (.placeholder "?" (questions ts)), ts)

theorem readsValues_nesting (n : Nat) : ReadsValues (nesting (n + 2)) where
  column i h := expression_of_operand h (operand_token (.inl h) _ i) 0
  placeholder h := expression_of_operand h (operand_placeholder h _) 0
  number digits h := expression_of_operand h (operand_number h _ digits) 0
  negated digits h := by
    have hnumber := expression_of_operand h (operand_number h (nesting n) digits) Precedence.sign
    exact expression_of_operand h (operand_negated h hnumber) 0
  equation i h := by
    have hplaceholder := expression_of_operand h (operand_placeholder h (nesting n)) 20
    exact expression_equation h i hplaceholder

/-! ## Tables -/

/-- What may stand behind the name of a table that is read or changed. -/
inductive ClosesTable : List Token → Prop
  | nil : ClosesTable []
  | for (text : String) (us : List Token) : ClosesTable (.keyword "FOR" text :: us)
  | set (text : String) (us : List Token) : ClosesTable (.keyword "SET" text :: us)

theorem aliasName?_keyword {word text : String} (hexcluded : word ∈ notTableAliases)
    (has : word ≠ "AS") (us : List Token) : aliasName? notTableAliases (.keyword word text :: us) =
      some (none, .keyword word text :: us) := by
  simp [aliasName?, hexcluded, has, -List.mem_cons]

theorem tableAlias_keyword {word text : String} (hexcluded : word ∈ notTableAliases)
    (has : word ≠ "AS") (us : List Token) : tableAlias (.keyword word text :: us) =
      some ("", .keyword word text :: us) :=
  bind_of (aliasName?_keyword hexcluded has us) _

theorem ClosesTable.tableAlias (h : ClosesTable ts) : tableAlias ts = some ("", ts) := by
  cases h with
  | nil => rfl
  | «for» text us | set text us => exact tableAlias_keyword (by decide) (by decide) us

theorem namedTable_plain (h : ClosesTable ts) (g : Nesting) (i : Ident) (rest : List Ident) :
    namedTable g (token i :: qualified rest ts) =
      some ({ relation := .table (i :: rest) false, text := renderName (i :: rest) }, ts) := by
  have hname : objectName (token i :: qualified rest ts) = some (i :: rest, ts) := by
    refine objectName_qualified ?_ i rest
    rintro us rfl
    cases h
  have hnamed := h.tableAlias
  cases h <;> simp [namedTable, hname, hnamed]

/-- The lock hint behind the name of a table. -/
def hinting : List Token :=
  [.keyword "WITH" "with", .symbol "(", .name "updlock", .symbol ",", .name "rowlock", .symbol ")"]

theorem namedTable_hinted (hg : ReadsValues g) (i : Ident) (rest : List Ident) :
    ∃ text, namedTable g (token i :: qualified rest hinting) =
      some ({ relation := .table (i :: rest) true, text }, []) := by
  have hdot : ∀ us, hinting ≠ .symbol "." :: us := by
    intro us h
    unfold hinting at h
    cases h
  have hname := objectName_qualified hdot i rest
  have hnamed : tableAlias hinting = some ("", hinting) :=
    tableAlias_keyword (by decide) (by decide) _
  have h₁ := hg.column (bare "updlock") (.comma [.name "rowlock", .symbol ")"])
  have h₂ := hg.column (bare "rowlock") (.close [])
  simp only [token, bare] at h₁ h₂
  unfold hinting at hname hnamed ⊢
  simp [namedTable, hname, hnamed, commaSeparated, commaSeparatedWithin, Nesting.any, h₁, h₂]

theorem factor_token (g : Nesting) (p : Parser (Factor × List String)) (i : Ident)
    (us : List Token) : factor g p (token i :: us) = namedTable g (token i :: us) := by
  rcases i with ⟨w, _ | q⟩ <;> rfl

theorem joined_of_namedTable {i : Ident} {us : List Token} {f : Factor}
    (h : ClosesTable ts) (hf : namedTable g (token i :: us) = some (f, ts)) :
    joined g (token i :: us) = some ((⟨f.relation, false⟩, f.text), ts) := by
  have hwords : joinWords ts = some (none, ts) := by cases h <;> rfl
  have hfactor (p : Parser (Factor × List String)) :
      factor g p (token i :: us) = some (f, ts) := (factor_token g p i us).trans hf
  have hwithin (n : Nat) : joinedWithin g (n + 1) (token i :: us) = some ((f, []), ts) := by
    unfold joinedWithin
    exact (bind_of (hfactor _) _).trans (bind_of (many_of_none (bind_of hwords _)) _)
  unfold joined
  refine (bind_of (p := fun ts => joinedWithin g (ts.length + 1) ts) (hwithin _) _).trans ?_
  simp [String.join]

end CounterTable.Sql.Grammar
