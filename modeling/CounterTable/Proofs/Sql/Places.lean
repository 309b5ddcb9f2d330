import CounterTable.Proofs.Sql.Passing

/-!
# The places of placeholders

A text is read from the front to the back. The placeholders of what was read therefore stand in the
text in the order in which an expression holds them, and all of them before what is left to read.

* `Expr.places`: where the placeholders of an expression stand;
* `Passed`: places in order, before the tokens that are left;
* `Keeps`: parsers that pass on such places and add their own;
* `Orderly`: the parsers that the others are given;
* **`Keeps.expression`**: expressions.
-/

namespace CounterTable.Sql

/-- The places of the placeholders of an expression, each as the number of those behind it. -/
def Expr.places : Expr → List Nat
  | .placeholder text behind => if text = "?" then [behind] else []
  | .nested e | .negated e => e.places
  | .equation l r => l.places ++ r.places
  | .column _ | .number .. | .literal _ | .other _ => []

/-- The places of a selection: those of its filter. -/
def Select.places (s : Select) : List Nat := s.filter.elim [] Expr.places

/-- The places of the main part of a query. -/
def Body.places : Body → List Nat
  | .select s => s.places
  | .values rows => rows.flatMap (·.flatMap Expr.places)
  | .other => []

/-- The places of a query: those of its main part. -/
def Query.places (q : Query) : List Nat := q.body.places

/-- The places of a statement: those of what is inserted, assigned or compared. -/
def Clause.places : Clause → List Nat
  | .insert _ _ source => source.elim [] Query.places
  | .query q => q.places
  | .update _ changes filter => changes.flatMap (·.2.places) ++ filter.elim [] Expr.places
  | .createTable .. | .drop .. | .other => []

namespace Grammar

variable {α β : Type}

/-- Places in the order of the text, of placeholders among all tokens; all of them before the tokens
that are left. -/
structure Passed (all : List Token) (l : List Nat) (ts : List Token) : Prop where
  suffix : ts <:+ all
  ordered : l.Pairwise (· > ·)
  placed : ∀ n ∈ l, questions ts ≤ n ∧ ∃ us, .placeholder "?" :: us <:+ all ∧ questions us = n

theorem questions_le_of_suffix {ts us : List Token} (h : us <:+ ts) :
    questions us ≤ questions ts := h.sublist.count_le _

theorem questions_question (ts : List Token) :
    questions (.placeholder "?" :: ts) = questions ts + 1 := List.count_cons_self

namespace Passed

variable {all ts us : List Token} {l k : List Nat}

theorem nil (h : ts <:+ all) : Passed all [] ts := ⟨h, .nil, fun _ hn => by cases hn⟩

theorem tail (h : Passed all l ts) (hus : us <:+ ts) : Passed all l us where
  suffix := hus.trans h.suffix
  ordered := h.ordered
  placed n hn :=
    ⟨Nat.le_trans (questions_le_of_suffix hus) (h.placed n hn).1, (h.placed n hn).2⟩

theorem sublist (h : Passed all l ts) (hk : k.Sublist l) : Passed all k ts where
  suffix := h.suffix
  ordered := h.ordered.sublist hk
  placed n hn := h.placed n (hk.subset hn)

/-- **More places** are found among the tokens that were left. -/
theorem append (h : Passed all l ts) (hk : Passed ts k us) : Passed all (l ++ k) us where
  suffix := hk.suffix.trans h.suffix
  ordered := by
    refine List.pairwise_append.mpr ⟨h.ordered, hk.ordered, fun n hn m hm => ?_⟩
    obtain ⟨-, vs, hvs, rfl⟩ := hk.placed m hm
    have hle := questions_le_of_suffix hvs
    have hn := (h.placed n hn).1
    rw [questions_question] at hle
    omega
  placed n hn := by
    rcases List.mem_append.mp hn with hn | hn
    · exact (h.tail hk.suffix).placed n hn
    · obtain ⟨hle, vs, hvs, heq⟩ := hk.placed n hn
      exact ⟨hle, vs, hvs.trans h.suffix, heq⟩

theorem question (ts : List Token) : Passed (.placeholder "?" :: ts) [questions ts] ts where
  suffix := List.suffix_cons _ _
  ordered := List.pairwise_singleton _ _
  placed n hn := by
    obtain rfl := List.mem_singleton.mp hn
    exact ⟨Nat.le_refl _, ts, List.suffix_refl _, rfl⟩

theorem lt (h : Passed all l ts) {n : Nat} (hn : n ∈ l) : n < questions all := by
  obtain ⟨-, us, hus, rfl⟩ := h.placed n hn
  have hle := questions_le_of_suffix hus
  rwa [questions_question] at hle

end Passed

/-! ## Composed parsers -/

/-- If these places are passed before the parser is run, those of its answer are passed behind it. -/
class Keeps (l : List Nat) (m : α → List Nat) (p : Parser α) : Prop where
  passed : ∀ {all ts : List Token} {a : α} {us : List Token},
    Passed all l ts → p ts = some (a, us) → Passed all (m a) us

/-- The parser does so on these tokens. -/
def KeepsOn (ts : List Token) (l : List Nat) (m : α → List Nat) (p : Parser α) : Prop :=
  ∀ all a us, Passed all l ts → p ts = some (a, us) → Passed all (m a) us

namespace KeepsOn

variable {ts us : List Token} {l : List Nat} {m : α → List Nat} {p : Parser α}

theorem of (h : Keeps l m p) : KeepsOn ts l m p := fun _ _ _ hl hp => h.passed hl hp

theorem set {f : PUnit → Parser α} (hus : us <:+ ts) (h : Keeps l m (f ⟨⟩)) :
    KeepsOn ts l m ((MonadState.set us : Parser PUnit) >>= f) := fun _ _ _ hl hrun =>
  h.passed (hl.tail hus) hrun

end KeepsOn

namespace Keeps

variable {l : List Nat} {m : α → List Nat} {n : β → List Nat} {p q : Parser α} {f : α → Parser β}

theorem passes (h : Keeps [] m p) : Passes p where
  suffix hp := (h.passed (.nil (List.suffix_refl _)) hp).suffix

theorem pure {a : α} (h : (m a).Sublist l) : Keeps l m (Pure.pure a) where
  passed hl hp := by
    cases hp
    exact hl.sublist h

theorem forget {k : List Nat} (h : Keeps k m p) (hk : k.Sublist l) : Keeps l m p where
  passed hl hp := h.passed (hl.sublist hk) hp

instance failure : Keeps l m (Alternative.failure : Parser α) where
  passed _ hp := by cases hp

theorem get {f : List Token → Parser β} (h : ∀ ts, KeepsOn ts l n (f ts)) :
    Keeps l n (MonadState.get >>= f) where
  passed hl hrun := h _ _ _ _ hl hrun

theorem peek {f : Option Token → Parser β} (h : ∀ ts : List Token, KeepsOn ts l n (f ts.head?)) :
    Keeps l n (Grammar.peek >>= f) where
  passed hl hrun := h _ _ _ _ hl hrun

theorem next {f : Token → Parser β} (h : ∀ t, (∀ text, t ≠ .placeholder text) → Keeps [] n (f t))
    (hplace : ∀ {text : String} {ts us : List Token} {b : β},
      f (.placeholder text) ts = some (b, us) → Passed (.placeholder text :: ts) (n b) us) :
    Keeps [] n (Grammar.next >>= f) where
  passed {all ts b us} hl hrun := by
    obtain ⟨t, vs, hnext, hrun⟩ := exists_of_bind hrun
    cases ts with
    | nil => cases hnext
    | cons t' ts =>
      cases hnext
      cases t with
      | placeholder text => exact hl.append (hplace hrun)
      | _ => exact (h _ (by intro _ ht; cases ht)).passed (hl.tail (List.suffix_cons _ _)) hrun

theorem andThen (hp : Keeps l m p) (h : ∀ a, Keeps (m a) n (f a)) : Keeps l n (p >>= f) where
  passed hl hrun := by
    obtain ⟨a, us, hfirst, hrest⟩ := exists_of_bind hrun
    exact (h a).passed (hp.passed hl hfirst) hrest

theorem frame (hp : Keeps [] m p) : Keeps l (fun a => l ++ m a) p where
  passed hl hrun := hl.append (hp.passed (.nil (List.suffix_refl _)) hrun)

theorem of_passes (hp : Passes p) : Keeps l (fun _ => l) p where
  passed hl hrun := hl.tail (hp.suffix hrun)

/-- What is read first adds no places. -/
instance bind [hp : Passes p] [hf : ∀ a, Keeps l n (f a)] : Keeps l n (p >>= f) :=
  andThen (of_passes hp) hf

theorem step [Passes p] (h : ∀ a, Keeps l n (f a)) : Keeps l n (p >>= f) := inferInstance

theorem keep (hp : Keeps [] m p) (h : ∀ a, Keeps (l ++ m a) n (f a)) : Keeps l n (p >>= f) :=
  andThen (frame hp) h

instance ite {c : Prop} [Decidable c] [Keeps l m p] [Keeps l m q] :
    Keeps l m (if c then p else q) := by
  split <;> infer_instance

instance orElse [hp : Keeps l m p] [hq : Keeps l m q] : Keeps l m (p <|> q) where
  passed hl h := by
    rw [orElse_apply] at h
    split at h
    · next hr =>
      cases h
      exact hp.passed hl hr
    · exact hq.passed hl h

theorem map {g : α → β} (hp : Keeps l m p) (h : ∀ a, (n (g a)).Sublist (m a)) :
    Keeps l n (g <$> p) where
  passed hl hrun := by
    obtain ⟨a, ha, rfl⟩ := exists_of_map hrun
    exact (hp.passed hl ha).sublist (h a)

instance parenthesized [hp : Keeps [] m p] : Keeps [] m (Grammar.parenthesized p) := by
  unfold Grammar.parenthesized
  exact step fun _ => keep hp fun a => step fun _ => pure (List.Sublist.refl _)

theorem commaSeparatedWithin (hp : Keeps [] m p) (n : Nat) :
    Keeps [] (·.flatMap m) (Grammar.commaSeparatedWithin p n) := by
  induction n with
  | zero =>
    unfold Grammar.commaSeparatedWithin
    infer_instance
  | succ n ih =>
    unfold Grammar.commaSeparatedWithin
    refine keep hp fun a => step fun more => ?_
    split
    · exact keep ih fun as => pure (by simp)
    · exact pure (by simp)

theorem commaSeparated (hp : Keeps [] m p) :
    Keeps [] (·.flatMap m) (Grammar.commaSeparated p) where
  passed hl h := (commaSeparatedWithin hp _).passed hl h

theorem whenever {c : Bool} (hp : Keeps [] m p) :
    Keeps [] (·.elim [] m) (Grammar.whenever c p) := by
  unfold Grammar.whenever
  split
  · exact map hp fun a => List.Sublist.refl _
  · exact pure (List.nil_sublist _)

end Keeps

/-! ## Nested expressions -/

/-- The parsers of nested expressions, queries and statements keep places. Of a statement only those
are needed that stand for a query. -/
class Orderly (g : Nesting) : Prop where
  expr : ∀ c least, Keeps [] Expr.places (g.expr c least)
  query : Keeps [] Query.places g.query
  clause : ∀ {word text : String} {ts us : List Token} {c : Clause},
    word ∈ ["INSERT", "UPDATE", "DELETE", "MERGE"] →
      g.clause (.keyword word text :: ts) = some (c, us) → us <:+ .keyword word text :: ts

section Expressions

variable {g : Nesting} [hg : Orderly g]

theorem Keeps.any (c : Bool) : Keeps [] Expr.places (g.any c) := hg.expr c 0

instance Keeps.other (l : List Nat) (text : String) :
    Keeps l Expr.places (Pure.pure (.other text)) := .pure (List.nil_sublist l)

namespace Passes

instance expr (c : Bool) (least : Nat) : Passes (g.expr c least) := (hg.expr c least).passes

instance any (c : Bool) : Passes (g.any c) := expr c 0

instance query : Passes g.query := hg.query.passes

instance value : Passes Grammar.value where
  suffix {ts a us} h := by
    unfold Grammar.value at h
    split at h <;> cases h <;> exact List.suffix_cons _ _

instance dateField : Passes Grammar.dateField := by
  unfold Grammar.dateField
  refine step fun t => ?_
  split
  · infer_instance
  · split <;> infer_instance

instance intervalField : Passes Grammar.intervalField := by
  unfold Grammar.intervalField
  refine step fun field => ?_
  split <;> infer_instance

instance orderItem : Passes (Grammar.orderItem g) := by
  unfold Grammar.orderItem
  infer_instance

instance orderItems : Passes (Grammar.orderItems g) := by
  unfold Grammar.orderItems
  infer_instance

instance qualifiedAll : Passes Grammar.argument.qualifiedAll := by
  unfold Grammar.argument.qualifiedAll
  refine step fun first => andThen (repeated (get fun ts => ?_)) inferInstance
  split
  · exact .of
  · exact .set (List.suffix_cons _ _) .of
  · exact .of

instance argument : Passes (Grammar.argument g) := by
  unfold Grammar.argument
  refine get fun ts => ?_
  split
  · exact .set (List.suffix_cons _ _) .of
  · split
    · exact .set (suffix_cons_cons _ _ _) .of
    · exact .of
  · refine .bind .of fun all => ?_
    split <;> exact .of

instance arguments : Passes (Grammar.arguments g) := by
  unfold Grammar.arguments
  refine step fun _ => step fun closed => ?_
  split
  · infer_instance
  · exact step fun _ => inferInstance

instance frameBound : Passes (Grammar.frameBound g) := by
  unfold Grammar.frameBound
  infer_instance

instance window : Passes (Grammar.window g) := by
  unfold Grammar.window
  refine @parenthesized _ _ (step fun t => ?_)
  extract_lets based
  have hbased : ∀ base, Passes (based base) := fun base => by
    unfold based
    refine step fun _ => step fun _ => step fun _ => step fun _ => step fun units => ?_
    cases units <;> infer_instance
  split <;> infer_instance

instance subquery : Passes (Grammar.subquery g) := by
  unfold Grammar.subquery
  infer_instance

instance peekQuery : Passes Grammar.peekQuery := by
  unfold Grammar.peekQuery
  infer_instance

instance caseBranch (c : Bool) : Passes (Grammar.caseBranch g c) := by
  unfold Grammar.caseBranch
  infer_instance

instance bracketed (c : Bool) : Passes (Grammar.construct.bracketed g c) := by
  unfold Grammar.construct.bracketed
  infer_instance

end Passes

/-! ## Operands -/

namespace Keeps

instance call (name : String) : Keeps [] Expr.places (Grammar.call g name) := by
  unfold Grammar.call
  refine step fun _ => step fun _ => ?_
  extract_lets within
  have hwithin : ∀ more, Keeps [] Expr.places (within more) := fun more => by
    unfold within
    refine step fun _ => step fun _ => step fun _ => step fun _ => step fun _ => step fun _ => ?_
    extract_lets windowed
    have hwindowed : ∀ nulls, Keeps [] Expr.places (windowed nulls) := fun nulls => by
      unfold windowed
      infer_instance
    infer_instance
  infer_instance

instance inParentheses (c : Bool) : Keeps [] Expr.places (Grammar.inParentheses g c) := by
  unfold Grammar.inParentheses
  refine step fun selects => ?_
  split
  · infer_instance
  · refine keep (.commaSeparated (.any c)) fun es => step fun _ => ?_
    split
    · exact pure (by simp [Expr.places])
    · infer_instance

instance caseExpr (c : Bool) : Keeps [] Expr.places (Grammar.caseExpr g c) := by
  unfold Grammar.caseExpr
  refine step fun _ => step fun _ => step fun _ => step fun _ => ?_
  infer_instance

instance castExpr (c : Bool) (word : String) :
    Keeps [] Expr.places (Grammar.castExpr g c word) := by
  unfold Grammar.castExpr
  infer_instance

instance intervalExpr {operand : Parser Expr} [Passes operand] :
    Keeps [] Expr.places (Grammar.intervalExpr operand) := by
  unfold Grammar.intervalExpr
  infer_instance

instance roundingExpr (c : Bool) (word : String) :
    Keeps [] Expr.places (Grammar.roundingExpr g c word) := by
  unfold Grammar.roundingExpr
  infer_instance

instance substringExpr (c : Bool) (word : String) :
    Keeps [] Expr.places (Grammar.substringExpr g c word) := by
  unfold Grammar.substringExpr
  infer_instance

instance trimExpr (c : Bool) : Keeps [] Expr.places (Grammar.trimExpr g c) := by
  unfold Grammar.trimExpr
  infer_instance

/-- The construct of a keyword holds no placeholders that can be reached. -/
instance construct (c : Bool) {operand : Parser Expr} [Passes operand] (word text : String) :
    Keeps [] (·.elim [] Expr.places) (Grammar.construct g c operand word text) := by
  have hnone : Keeps [] (·.elim [] Expr.places) (Pure.pure none : Parser (Option Expr)) :=
    pure (List.Sublist.refl _)
  have hliteral : ∀ t, Keeps [] (·.elim [] Expr.places)
      (Pure.pure (some (.literal t)) : Parser (Option Expr)) := fun _ => pure (List.Sublist.refl _)
  have hother : ∀ t, Keeps [] (·.elim [] Expr.places)
      (Pure.pure (some (.other t)) : Parser (Option Expr)) := fun _ => pure (List.Sublist.refl _)
  have hsome : ∀ {p : Parser Expr} [Keeps [] Expr.places p],
      Keeps [] (·.elim [] Expr.places) (some <$> p) :=
    fun {_} h => map h fun _ => List.Sublist.refl _
  unfold Grammar.construct
  split <;> infer_instance

instance nameOrCall (i : Ident) : Keeps [] Expr.places (Grammar.nameOrCall g i) := by
  unfold Grammar.nameOrCall
  have hcolumn : Keeps [] Expr.places (Pure.pure (.column [i])) := pure (List.Sublist.refl _)
  refine step fun opened => ?_
  split
  · infer_instance
  · refine step fun t => ?_
    split <;> infer_instance

instance typedLiteral : Keeps [] Expr.places Grammar.typedLiteral := by
  unfold Grammar.typedLiteral
  infer_instance

instance plain (c : Bool) {operand : Parser Expr} [Passes operand] :
    Keeps [] Expr.places (operandWith.plain g c operand) := by
  unfold operandWith.plain
  refine next (fun t ht => ?_) fun {text ts us e} h => ?_
  · split
    · next word text =>
      extract_lets special
      have hspecial : Keeps [] Expr.places special := by
        refine keep (construct c word text) fun o => ?_
        split
        · exact pure (List.Sublist.refl _)
        · exact nameOrCall _
      infer_instance
    · infer_instance
    · infer_instance
    · exact pure (List.Sublist.refl _)
    · exact absurd rfl (ht _)
    · exact pure (List.Sublist.refl _)
    · exact keep (hg.expr c _) fun e => pure (List.Sublist.refl _)
    · infer_instance
    · infer_instance
    · infer_instance
    · infer_instance
  · cases h
    rw [Expr.places]
    split
    · next htext =>
      subst htext
      exact .question ts
    · exact .nil (List.suffix_cons _ _)

instance operandWith (c : Bool) {operand : Parser Expr} [Passes operand] :
    Keeps [] Expr.places (Grammar.operandWith g c operand) := by
  unfold Grammar.operandWith
  have hoperand : Keeps [] Expr.places
      (Grammar.typedLiteral <|> operandWith.plain g c operand) := inferInstance
  refine keep hoperand fun e => step fun collated => ?_
  split
  · infer_instance
  · exact pure (List.Sublist.refl _)

instance operandWithin (c : Bool) (n : Nat) :
    Keeps [] Expr.places (Grammar.operandWithin g c n) := by
  induction n with
  | zero =>
    unfold Grammar.operandWithin
    infer_instance
  | succ n ih =>
    have hpasses : Passes (Grammar.operandWithin g c n) := ih.passes
    unfold Grammar.operandWithin
    infer_instance

instance operand (c : Bool) : Keeps [] Expr.places (Grammar.operand g c) where
  passed hl h := (operandWithin c _).passed hl h

theorem places_join (e f : Expr) : (accessWithin.join e f).places = [] := by
  unfold accessWithin.join
  split <;> rfl

instance accessWithin (c : Bool) (n : Nat) (e : Expr) :
    Keeps e.places Expr.places (Grammar.accessWithin g c n e) := by
  induction n generalizing e with
  | zero => exact pure (List.Sublist.refl _)
  | succ n ih =>
    have hend : Keeps e.places Expr.places (Pure.pure e) := pure (List.Sublist.refl _)
    have hnext : ∀ f, f.places = [] → Keeps e.places Expr.places (Grammar.accessWithin g c n f) :=
      fun f hf => (ih f).forget (by simp [hf])
    unfold Grammar.accessWithin
    refine get fun ts => ?_
    split
    · exact .of hend
    · exact .set (suffix_cons_cons _ _ _) (hnext _ (places_join _ _))
    · exact .set (List.suffix_cons _ _) (step fun f => hnext _ (places_join _ _))
    · exact .set (List.suffix_cons _ _) (step fun index => step fun _ => hnext _ rfl)
    · exact .of hend

instance primary (c : Bool) : Keeps [] Expr.places (Grammar.primary g c) := by
  unfold Grammar.primary
  exact keep (operand c) fun e => ⟨fun hl h => (accessWithin c _ e).passed hl h⟩

/-! ## Operators -/

/-- Behind an operand, equations keep both sides. -/
instance binary (c : Bool) (precedence : Nat) (left : Expr) (operator : String) :
    Keeps left.places Expr.places (Grammar.binary g c precedence left operator) := by
  unfold Grammar.binary
  refine step fun quantifier => ?_
  split
  · infer_instance
  · refine keep (hg.expr c precedence) fun right => ?_
    split
    · exact pure (List.Sublist.refl _)
    · infer_instance

instance isTest (l : List Nat) (c : Bool) (left : Expr) :
    Keeps l Expr.places (Grammar.isTest g c left) := by
  unfold Grammar.isTest
  refine step fun negated => step fun word => ?_
  split <;> infer_instance

instance membership (l : List Nat) (c : Bool) (left : Expr) :
    Keeps l Expr.places (Grammar.membership g c left) := by
  unfold Grammar.membership
  refine step fun negated => ?_
  extract_lets negation pattern
  have hpattern : ∀ word, Keeps l Expr.places (pattern word) := fun word => by
    unfold pattern
    infer_instance
  refine step fun word => ?_
  split
  · infer_instance
  · refine @bind _ _ _ _ _ _ (@Passes.parenthesized _ _ (Passes.step fun q => ?_)) _
    split <;> infer_instance
  · infer_instance
  · infer_instance
  · infer_instance

instance operation (c : Bool) (precedence : Nat) (left : Expr) :
    Keeps left.places Expr.places (Grammar.operation g c precedence left) := by
  unfold Grammar.operation
  refine step fun t => ?_
  split
  · refine step fun _ => ?_
    split
    · infer_instance
    · split <;> infer_instance
  · split
    · infer_instance
    · split <;> infer_instance
  · infer_instance

instance operationsWithin (c : Bool) (least n : Nat) (e : Expr) :
    Keeps e.places Expr.places (Grammar.operationsWithin g c least n e) := by
  induction n generalizing e with
  | zero => exact pure (List.Sublist.refl _)
  | succ n ih =>
    unfold Grammar.operationsWithin
    refine get fun ts => KeepsOn.of (step fun pointed => ?_)
    split
    · exact pure (List.Sublist.refl _)
    · exact andThen (operation c _ e) ih

/-- **Expressions** hold their placeholders in the order of the text. -/
theorem expression (c : Bool) (least : Nat) :
    Keeps [] Expr.places (Grammar.expression g c least) := by
  unfold Grammar.expression
  exact keep (primary c) fun e => ⟨fun hl h => (operationsWithin c least _ e).passed hl h⟩

end Keeps

end Expressions

end Grammar

end CounterTable.Sql
