import CounterTable.Proofs.Sql.Reading

/-!
# Equations with any word

An equation between a word and a parameter is read as one even where the word is a keyword. What the
word is read as depends on the keyword, but nothing goes on past the equals sign: no operand begins
with it.

* `exists_of_bind`, `exists_of_map`: what composed parsers have answered;
* `Unequal`: parsers that read nothing from an equals sign on;
* `keywordType_equals`, `construct_equals`: what a keyword takes with it, namely nothing;
* **`expr_word_equals`**: the equation.
-/

namespace CounterTable.Sql.Grammar

variable {α β : Type} {g : Nesting} {ts us : List Token}

theorem exists_of_bind {p : Parser α} {f : α → Parser β} {r : β × List Token}
    (h : (p >>= f) ts = some r) : ∃ a us, p ts = some (a, us) ∧ f a us = some r := by
  rw [bind_apply] at h
  cases hp : p ts with
  | none =>
    rw [hp] at h
    cases h
  | some q =>
    rw [hp] at h
    exact ⟨q.1, q.2, rfl, h⟩

theorem exists_of_map {p : Parser α} {f : α → β} {b : β}
    (h : (f <$> p) ts = some (b, us)) : ∃ a, p ts = some (a, us) ∧ b = f a := by
  rw [map_eq_pure_bind] at h
  obtain ⟨a, us', hp, h⟩ := exists_of_bind h
  cases h
  exact ⟨a, hp, rfl⟩

/-! ## Equations -/

theorem operandWithin_equals (g : Nesting) (c : Bool) (n : Nat) (ts : List Token) :
    operandWithin g c n (.symbol "=" :: ts) = none := by
  cases n with
  | zero => rfl
  | succ n =>
    have hliteral : typedLiteral (.symbol "=" :: ts) = none := typedLiteral_of_not_ident rfl ts
    have hplain : operandWith.plain g c (operandWithin g c n) (.symbol "=" :: ts) = none := rfl
    rw [operandWithin, operandWith, bind_apply, orElse_apply, hliteral]
    dsimp only
    rw [hplain]
    rfl

theorem expression_equals (g : Nesting) (c : Bool) (least : Nat) (ts : List Token) :
    expression g c least (.symbol "=" :: ts) = none := by
  simp [expression, primary, operand, operandWithin_equals]

/-- Nothing is read that begins with an equals sign. -/
def Unequal (g : Nesting) : Prop :=
  ∀ c least ts, g.expr c least (.symbol "=" :: ts) = none

theorem unequal_nesting (n : Nat) : Unequal (nesting n) := by
  cases n with
  | zero => exact fun _ _ _ => rfl
  | succ n => exact expression_equals (nesting n)

theorem keywordType_equals (word : String) (ts : List Token) :
    ∃ o, keywordType word (.symbol "=" :: ts) = some (o, .symbol "=" :: ts) ∧
      ∀ d ∈ o, d.named = false := by
  unfold keywordType
  simp only [ite_run]
  split
  · exact ⟨_, rfl, by simp⟩
  split
  · exact ⟨_, rfl, by simp⟩
  split
  · exact ⟨_, rfl, by simp⟩
  split
  · exact ⟨_, rfl, by simp⟩
  split <;> exact ⟨_, rfl, by simp⟩

theorem construct_equals (hg : Unequal g) (word text : String) (n : Nat) (ts : List Token) :
    construct g false (operandWithin g false n) word text (.symbol "=" :: ts) = none ∨
      ∃ o, construct g false (operandWithin g false n) word text (.symbol "=" :: ts) =
        some (o, .symbol "=" :: ts) := by
  unfold construct
  split
  case h_13 =>
    left
    simp [caseExpr, Nesting.any, hg _ _ _]
  case h_26 =>
    left
    simp [intervalExpr, operandWithin_equals]
  case h_28 =>
    left
    simp [hg _ _ _]
  all_goals first
    | exact .inr ⟨_, rfl⟩
    | exact .inl rfl

theorem typedLiteral_equals (word text : String) (ts : List Token) :
    typedLiteral (.keyword word text :: .symbol "=" :: ts) = none := by
  obtain ⟨o, ho, hnamed⟩ := keywordType_equals word ts
  have hsuffixes : many arraySuffix (.symbol "=" :: ts) = some ([], .symbol "=" :: ts) :=
    many_of_none rfl
  have hname : objectName (.keyword word text :: .symbol "=" :: ts) =
      some ([⟨text, none⟩], .symbol "=" :: ts) := rfl
  cases o with
  | none => simp [typedLiteral, dataType, ho, hsuffixes, hname, typeParameters, -many]
  | some d =>
    have hd := hnamed d rfl
    simp [typedLiteral, dataType, ho, hsuffixes, hd, value, -many]

theorem plain_equals (hg : Unequal g) (word text : String) (n : Nat) {e : Expr}
    (h : operandWith.plain g false (operandWithin g false n)
      (.keyword word text :: .symbol "=" :: ts) = some (e, us)) : us = .symbol "=" :: ts := by
  have hname : nameOrCall g ⟨text, none⟩ (.symbol "=" :: ts) =
      some (.column [⟨text, none⟩], .symbol "=" :: ts) := rfl
  -- What follows the construct is only known by what it does with its answers.
  have hspecial : ∀ {f : Option Expr → Parser Expr} {e us}, (∀ e, f (some e) = pure e) →
      f none = nameOrCall g ⟨text, none⟩ →
      (construct g false (operandWithin g false n) word text >>= f) (.symbol "=" :: ts) =
        some (e, us) → us = .symbol "=" :: ts := by
    intro f e us hsome hnone h
    rcases construct_equals hg word text n ts with hc | ⟨_ | o, hc⟩
    · rw [bind_apply, hc] at h
      cases h
    · rw [bind_of hc, hnone, hname] at h
      cases h
      rfl
    · rw [bind_of hc, hsome] at h
      cases h
      rfl
  unfold operandWith.plain at h
  obtain ⟨t, ts', hnext, h⟩ := exists_of_bind h
  cases hnext
  dsimp only at h
  rw [ite_run] at h
  split at h
  · exact hspecial (fun _ => rfl) rfl h
  · rw [orElse_apply] at h
    split at h
    · next hs =>
      cases h
      exact hspecial (fun _ => rfl) rfl hs
    · rw [hname] at h
      cases h
      rfl

theorem operand_keyword_equals (hg : Unequal g) {word text : String} {e : Expr}
    (h : operand g false (.keyword word text :: .symbol "=" :: ts) = some (e, us)) :
    us = .symbol "=" :: ts := by
  unfold operand operandWithin operandWith at h
  obtain ⟨e', us', hp, h⟩ := exists_of_bind h
  rw [orElse_apply, typedLiteral_equals] at hp
  obtain rfl := plain_equals hg word text _ hp
  cases h
  rfl

theorem expression_keyword_equals (hg : Unequal g)
    (hplace : g.expr false 20 [.placeholder "?"] = some (.placeholder "?" 0, []))
    {word text : String} {e : Expr}
    (h : expression g false 0 [.keyword word text, .symbol "=", .placeholder "?"] = some (e, us)) :
    (∃ l, e = .equation l (.placeholder "?" 0)) ∧ us = [] := by
  unfold expression at h
  obtain ⟨l, ts, hprimary, h⟩ := exists_of_bind h
  unfold primary at hprimary
  obtain ⟨l', ts', hoperand, haccess⟩ := exists_of_bind hprimary
  obtain rfl := operand_keyword_equals hg hoperand
  cases haccess
  have hprecedence : nextPrecedence false [.symbol "=", .placeholder "?"] = 20 :=
    symbolPrecedence_equals
  have hoperation : operation g false 20 l [.symbol "=", .placeholder "?"] =
      some (.equation l (.placeholder "?" 0), []) := by
    simp [operation, binarySymbol?_equals, binary, hplace]
  simp [operationsWithin, hprecedence, hoperation, Closes.nil.nextPrecedence] at h
  exact ⟨⟨l, h.1.symm⟩, h.2⟩

/-- **An equation between a word and a parameter**, whatever the word is read as. -/
theorem expr_word_equals (n : Nat) (w : List Char) {e : Expr}
    (h : (nesting (n + 2)).expr false 0 [.ofWord w, .symbol "=", .placeholder "?"] =
      some (e, us)) : ∃ l, e = .equation l (.placeholder "?" 0) := by
  have hplace : (nesting (n + 1)).expr false 20 [.placeholder "?"] =
      some (.placeholder "?" 0, []) :=
    expression_of_operand .nil (operand_placeholder .nil (nesting n)) 20
  unfold Token.ofWord at h
  dsimp only at h
  split at h
  · exact (expression_keyword_equals (unequal_nesting (n + 1)) hplace h).1
  · have hname := (readsValues_nesting n).equation ⟨String.ofList w, none⟩ .nil
    cases hname.symm.trans h
    exact ⟨_, rfl⟩

end CounterTable.Sql.Grammar
