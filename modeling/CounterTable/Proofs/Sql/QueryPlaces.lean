import CounterTable.Proofs.Sql.Places

/-!
# The places of placeholders in statements

The parts of queries and statements that are kept hold their placeholders in the order of the text,
and those that are not kept only take them away.

* `Passes.selectItem`, `Passes.sources` and the others: parts that are not looked into;
* `Keeps.selection`, `Keeps.query`: what is kept of queries;
* `Keeps.insert`, `Keeps.update`: what is kept of statements;
* **`orderly_nesting`**: at every depth.
-/

namespace CounterTable.Sql.Grammar

variable {α β : Type} {g : Nesting} [hg : Orderly g]

/-! ## What rows are read from -/

theorem Keeps.valueRows :
    Keeps [] (·.flatMap (·.flatMap Expr.places)) (Grammar.valueRows g) := by
  unfold Grammar.valueRows
  exact .commaSeparated (.step fun _ => @Keeps.parenthesized _ _ _ (.commaSeparated (.any false)))

namespace Passes

instance valueRows : Passes (Grammar.valueRows g) := Keeps.valueRows.passes

instance aliasName? (excluded : List String) : Passes (Grammar.aliasName? excluded) := by
  unfold Grammar.aliasName?
  refine step fun named => ?_
  split
  · infer_instance
  · refine step fun t => ?_
    split <;> infer_instance

instance tableAlias : Passes Grammar.tableAlias := by
  unfold Grammar.tableAlias
  refine step fun i => ?_
  split
  · infer_instance
  · refine step fun opened => ?_
    split
    · refine andThen (between (several (step fun c => step fun t => ?_))) inferInstance
      split <;> infer_instance
    · infer_instance

instance namedTable : Passes (Grammar.namedTable g) := by
  unfold Grammar.namedTable
  refine step fun name => step fun _ => step fun partitions => step fun opened => ?_
  extract_lets rest
  have hrest : ∀ args, Passes (rest args) := fun args => by
    refine step fun _ => step fun named => get fun ts => ?_
    extract_lets hinted
    split
    · exact .set (suffix_cons_cons _ _ _) .of
    · exact .of
  infer_instance

instance sided (side : String) : Passes (Grammar.joinWords.sided side) := by
  unfold Grammar.joinWords.sided
  refine step fun word => ?_
  split <;> infer_instance

instance joinWords : Passes Grammar.joinWords := by
  unfold Grammar.joinWords
  refine step fun whole => step fun crossed => ?_
  split
  · refine step fun word => ?_
    split <;> infer_instance
  · refine step fun outer => ?_
    split
    · infer_instance
    · refine step fun natural => step fun word => ?_
      extract_lets joined
      have hjoined : ∀ words, Passes (joined words) := fun words => by
        unfold joined
        split <;> infer_instance
      split <;> infer_instance

instance joinCondition : Passes (Grammar.joinCondition g) := by
  unfold Grammar.joinCondition
  infer_instance

variable {nested : Parser (Factor × List String)}

instance derived : Passes (Grammar.factor.derived g) := by
  unfold Grammar.factor.derived
  infer_instance

instance inner [Passes nested] : Passes (Grammar.factor.inner nested) := by
  unfold Grammar.factor.inner
  infer_instance

instance factor [Passes nested] : Passes (Grammar.factor g nested) := by
  unfold Grammar.factor
  refine step fun lateral => ?_
  split
  · infer_instance
  refine step fun called => ?_
  split
  · infer_instance
  refine step fun unnested => ?_
  split
  · infer_instance
  refine step fun opened => ?_
  split
  · infer_instance
  refine get fun ts => ?_
  split
  · exact .set (List.suffix_cons _ _) .of
  · exact .of

instance joinedWithin (n : Nat) : Passes (Grammar.joinedWithin g n) := by
  induction n with
  | zero =>
    unfold Grammar.joinedWithin
    infer_instance
  | succ n ih =>
    unfold Grammar.joinedWithin
    refine step fun first => andThen (repeated (step fun words => ?_)) inferInstance
    split <;> infer_instance

instance joined : Passes (Grammar.joined g) := by
  unfold Grammar.joined
  exact andThen ⟨fun h => (joinedWithin (g := g) _).suffix h⟩ inferInstance

instance sources : Passes (Grammar.sources g) := by
  unfold Grammar.sources
  infer_instance

/-! ## What is selected -/

instance names : Passes Grammar.wildcardOptions.names := by
  unfold Grammar.wildcardOptions.names
  infer_instance

instance newName : Passes Grammar.wildcardOptions.newName := by
  unfold Grammar.wildcardOptions.newName
  infer_instance

instance renames : Passes Grammar.wildcardOptions.renames := by
  unfold Grammar.wildcardOptions.renames
  infer_instance

instance wildcardOptions : Passes (Grammar.wildcardOptions g) := by
  unfold Grammar.wildcardOptions
  refine step fun _ => step fun _ => step fun _ => step fun _ => step fun _ => step fun _ => ?_
  infer_instance

instance selectItem : Passes (Grammar.selectItem g) := by
  unfold Grammar.selectItem
  refine step fun all => ?_
  split
  · infer_instance
  refine step fun qualified => ?_
  split
  · infer_instance
  refine step fun e => ?_
  split
  · infer_instance
  refine step fun shown => ?_
  split <;> infer_instance

/-! ## Parts of selections -/

instance group : Passes (Grammar.groupItem.group g) := by
  unfold Grammar.groupItem.group
  refine get fun ts => ?_
  split
  · exact .set (suffix_cons_cons _ _ _) .of
  · exact .of
  · exact .of

instance groupItem : Passes (Grammar.groupItem g) := by
  unfold Grammar.groupItem
  refine step fun sets => ?_
  split
  · infer_instance
  refine step fun word => ?_
  split
  · infer_instance
  refine get fun ts => ?_
  split
  · exact .set (suffix_cons_cons _ _ _) .of
  · exact .of

instance listPart (words : List String) : Passes (Grammar.listPart g words) := by
  unfold Grammar.listPart
  infer_instance

instance exprPart (word : String) : Passes (Grammar.exprPart g word) := by
  unfold Grammar.exprPart
  refine step fun _ => step fun e => ?_
  split <;> infer_instance

instance topPart : Passes Grammar.topPart := by
  unfold Grammar.topPart
  refine step fun t => ?_
  extract_lets rest
  have hrest : ∀ quantity, Passes (rest quantity) := fun quantity => by
    unfold rest
    infer_instance
  split <;> infer_instance

instance distinctPart : Passes (Grammar.distinctPart g) := by
  unfold Grammar.distinctPart
  refine step fun all => step fun distinct => ?_
  split
  · extract_lets only
    have honly : ∀ u, Passes (only u) := fun _ => by
      unfold only
      infer_instance
    split
    · exact step honly
    · exact honly ()
  · infer_instance

instance intoPart : Passes Grammar.intoPart := by
  unfold Grammar.intoPart
  infer_instance

instance groupPart : Passes (Grammar.groupPart g) := by
  unfold Grammar.groupPart
  refine step fun grouped => ?_
  split
  · refine step fun all => ?_
    extract_lets modified
    have hmodified : ∀ items, Passes (modified items) := fun items => by
      refine andThen (repeated (get fun ts => ?_)) inferInstance
      split
      · split
        · exact .set (suffix_cons_cons _ _ _) .of
        · exact .of
      · exact .of
    infer_instance
  · infer_instance

instance windowPart : Passes (Grammar.windowPart g) := by
  unfold Grammar.windowPart
  infer_instance

instance hierarchyPart : Passes (Grammar.hierarchyPart g) := by
  unfold Grammar.hierarchyPart
  refine step fun started => ?_
  split <;> infer_instance

/-! ## Parts of queries -/

instance combination? : Passes Grammar.combination? := by
  unfold Grammar.combination?
  refine step fun t => ?_
  split <;> infer_instance

instance combinationQuantifier : Passes Grammar.combinationQuantifier := by
  unfold Grammar.combinationQuantifier
  infer_instance

instance definition : Passes (Grammar.definition g) := by
  unfold Grammar.definition
  refine step fun name => step fun listed => ?_
  extract_lets defined
  have hdefined : ∀ columns, Passes (defined columns) := fun columns => by
    unfold defined
    infer_instance
  infer_instance

instance orderPart : Passes (Grammar.orderPart g) := by
  unfold Grammar.orderPart
  infer_instance

instance offsetPart : Passes (Grammar.offsetPart g) := by
  unfold Grammar.offsetPart
  refine step fun e => step fun unit => ?_
  split <;> infer_instance

instance limitPart : Passes (Grammar.limitPart g) := by
  unfold Grammar.limitPart
  refine step fun late => ?_
  extract_lets limited
  have hlimited : ∀ before, Passes (limited before) := fun before => by
    unfold limited
    refine step fun limit => ?_
    split
    · refine step fun all => ?_
      split
      · infer_instance
      · refine step fun e => step fun pair => ?_
        split
        · infer_instance
        · refine step fun sliced => ?_
          split <;> infer_instance
    · infer_instance
  infer_instance

instance settingsPart : Passes Grammar.settingsPart := by
  unfold Grammar.settingsPart
  infer_instance

instance fetchPart : Passes Grammar.fetchPart := by
  unfold Grammar.fetchPart
  refine step fun fetched => ?_
  split
  · refine step fun _ => step fun unit => ?_
    split <;> infer_instance
  · infer_instance

instance lock : Passes Grammar.lock := by
  unfold Grammar.lock
  infer_instance

instance locks : Passes Grammar.locks := by
  unfold Grammar.locks
  refine andThen (repeated (get fun ts => ?_)) inferInstance
  split
  · exact .of
  · exact .set (List.suffix_cons _ _) .of
  · exact .of

instance formatPart : Passes Grammar.formatPart := by
  unfold Grammar.formatPart
  infer_instance

end Passes

/-! ## Queries -/

namespace Keeps

theorem exprPart (word : String) :
    Keeps [] (fun r => r.1.elim [] Expr.places) (Grammar.exprPart g word) := by
  unfold Grammar.exprPart
  refine step fun _ => keep (.whenever (.any false)) fun e => ?_
  split <;> exact pure (List.Sublist.refl _)

theorem selection : Keeps [] (fun r => r.1.places) (Grammar.selection g) := by
  unfold Grammar.selection
  refine step fun _ => step fun early => ?_
  extract_lets selected
  have hselected : ∀ u, Keeps [] (fun r => r.1.places) (selected u) := fun _ => by
    refine step fun _ => step fun distinct => step fun _ => ?_
    extract_lets topped
    have htopped : ∀ top, Keeps [] (fun r => r.1.places) (topped top) := fun top => by
      refine step fun _ => ?_
      extract_lets listed
      have hlisted : ∀ items, Keeps [] (fun r => r.1.places) (listed items) := fun items => by
        refine step fun into => ?_
        extract_lets itemText read
        have hread : ∀ tables, Keeps [] (fun r => r.1.places) (read tables) := fun tables => by
          refine step fun laterals => step fun prewhere => keep (exprPart "WHERE") fun filter => ?_
          refine step fun groups => step fun cluster => step fun distribute => step fun _ => ?_
          extract_lets fromText head sorted
          have hsorted : ∀ sort, Keeps ([] ++ filter.1.elim [] Expr.places) (fun r => r.1.places)
              (sorted sort) := fun sort => by
            refine step fun having => step fun windows => step fun qualify => ?_
            dsimp only
            split <;> exact step fun _ => step fun _ => pure (List.Sublist.refl _)
          infer_instance
        split
        · infer_instance
        · infer_instance
      infer_instance
    infer_instance
  split
  · refine step fun _ => ?_
    split
    · exact pure (List.Sublist.refl _)
    · exact hselected ()
  · exact hselected ()

theorem singleBody : Keeps [] (fun r => r.1.places) (Grammar.singleBody g) := by
  unfold Grammar.singleBody
  have hother : ∀ text, Keeps [] (fun r => r.1.places)
      (Pure.pure (.other, text) : Parser (Body × String)) := fun _ => pure (List.Sublist.refl _)
  refine step fun _ => step fun _ => ?_
  split
  · exact keep selection fun r => pure (List.Sublist.refl _)
  · refine step fun opened => ?_
    split
    · infer_instance
    · refine step fun word => ?_
      split
      · exact keep valueRows fun rows => pure (List.Sublist.refl _)
      · infer_instance

theorem combinations {other : Nat → Parser (Body × String)} (hother : ∀ k, Passes (other k))
    (least m : Nat) (left : Body × String) :
    Keeps left.1.places (fun r => r.1.places) (Grammar.combinations other least m left) := by
  induction m generalizing left with
  | zero => exact pure (List.Sublist.refl _)
  | succ m ih =>
    unfold Grammar.combinations
    refine step fun words => ?_
    split
    · exact pure (List.Sublist.refl _)
    · split
      · exact pure (List.Sublist.refl _)
      · exact step fun _ => step fun _ => step fun right => (ih _).forget (List.nil_sublist _)

theorem bodyWithin (n least : Nat) :
    Keeps [] (fun r => r.1.places) (Grammar.bodyWithin g n least) := by
  induction n generalizing least with
  | zero =>
    unfold Grammar.bodyWithin
    infer_instance
  | succ n ih =>
    unfold Grammar.bodyWithin
    exact andThen singleBody (combinations (fun k => (ih k).passes) least n)

theorem body : Keeps [] (fun r => r.1.places) (Grammar.body g) where
  passed hl h := (bodyWithin _ 0).passed hl h

theorem query : Keeps [] Query.places (Grammar.query g) := by
  unfold Grammar.query
  have hrest : ∀ intro, Keeps [] Query.places (query.rest g intro) := fun intro => by
    unfold query.rest
    refine keep body fun b => ?_
    refine step fun _ => step fun _ => step fun _ => step fun _ => step fun _ => step fun _ => ?_
    exact pure (List.Sublist.refl _)
  refine step fun _ => step fun definitions => peek fun ts => ?_
  split
  · next word text hts =>
    split
    · next hword =>
      intro all q us hl h
      obtain ⟨c, ws, hc, h⟩ := exists_of_bind h
      cases h
      obtain ⟨vs, rfl⟩ : ∃ vs, ts = .keyword word text :: vs := List.head?_eq_some_iff.mp hts
      exact .nil ((hg.clause hword hc).trans hl.suffix)
    · exact .of (hrest _)
  · exact .of (hrest _)

end Keeps

/-! ## Statements -/

theorem Keeps.assignments : Keeps [] (·.flatMap (·.2.places)) (Grammar.assignments g) := by
  unfold Grammar.assignments Grammar.assignment
  refine .commaSeparated (.step fun opened => ?_)
  extract_lets assigned
  have hassigned : ∀ target, Keeps [] (·.2.places) (assigned target) := fun target =>
    .step fun _ => .keep (.any false) fun e => .pure (List.Sublist.refl _)
  infer_instance

namespace Passes

instance assignments : Passes (Grammar.assignments g) := Keeps.assignments.passes

instance conflictClause : Passes Grammar.conflictClause := by
  unfold Grammar.conflictClause
  infer_instance

instance returning : Passes (Grammar.returning g) := by
  unfold Grammar.returning
  infer_instance

instance onConflict : Passes (Grammar.onConflict g) := by
  unfold Grammar.onConflict
  refine step fun conflict => ?_
  split
  · refine step fun constraint => ?_
    extract_lets done
    have hdone : ∀ u, Passes (done u) := fun _ => by
      unfold done
      infer_instance
    split
    · exact hdone ()
    · exact step hdone
  · infer_instance

instance selectionFollows : Passes Grammar.insert.selectionFollows := by
  unfold Grammar.insert.selectionFollows
  refine get fun ts => ?_
  split <;> exact .of

instance insertedColumns : Passes (Grammar.insert.insertedColumns g) := by
  unfold Grammar.insert.insertedColumns
  infer_instance

instance delete : Passes (Grammar.delete g) := by
  unfold Grammar.delete
  refine step fun _ => step fun _ => step fun _ => step fun _ => ?_
  infer_instance

instance branch : Passes (Grammar.merge.branch g) := by
  unfold Grammar.merge.branch
  refine step fun _ => step fun _ => step fun _ => step fun _ => step fun _ => step fun word => ?_
  split <;> infer_instance

instance merge : Passes (Grammar.merge g) := by
  unfold Grammar.merge
  refine step fun _ => step fun _ => step fun _ => step fun _ => step fun _ => ?_
  infer_instance

end Passes

namespace Keeps

instance insert : Keeps [] Clause.places (Grammar.insert g) := by
  unfold Grammar.insert
  refine step fun _ => step fun _ => step fun _ => step fun _ => step fun _ => step fun _ =>
    step fun _ => step fun table => step fun defaults => ?_
  extract_lets inserted
  have hinserted : ∀ read, Keeps (read.2.elim [] Query.places) Clause.places (inserted read) :=
    fun read => step fun _ => step fun _ => step fun _ => pure (List.Sublist.refl _)
  split
  · exact andThen (pure (List.Sublist.refl _)) hinserted
  · refine step fun columns => keep hg.query fun q => ?_
    exact andThen (pure (List.Sublist.refl _)) hinserted

instance update : Keeps [] Clause.places (Grammar.update g) := by
  unfold Grammar.update
  refine step fun _ => step fun source => step fun early => step fun _ =>
    keep assignments fun changes => ?_
  extract_lets filtered
  have hfiltered : ∀ u, Keeps ([] ++ changes.flatMap (·.2.places)) Clause.places (filtered u) :=
    fun _ => step fun _ => keep (.whenever (.any false)) fun filter => step fun _ => step fun _ =>
      pure (List.Sublist.refl _)
  split
  · exact hfiltered ()
  · exact step hfiltered

end Keeps

/-! ## Nested statements -/

theorem suffix_of_clause {word text : String} {ts us : List Token} {c : Clause}
    (hword : word ∈ ["INSERT", "UPDATE", "DELETE", "MERGE"])
    (h : Grammar.clause g (.keyword word text :: ts) = some (c, us)) :
    us <:+ .keyword word text :: ts := by
  have hbehind : ∀ {p : Parser Clause}, Passes p → p ts = some (c, us) →
      us <:+ .keyword word text :: ts := fun hp hrun =>
    (hp.suffix hrun).trans (List.suffix_cons _ _)
  simp only [List.mem_cons, List.not_mem_nil, or_false] at hword
  rcases hword with rfl | rfl | rfl | rfl
  · exact hbehind (Keeps.insert (g := g)).passes h
  · exact hbehind (Keeps.update (g := g)).passes h
  · exact hbehind (Passes.delete (g := g)) h
  · exact hbehind (Passes.merge (g := g)) h

/-- **At every depth** expressions, queries and statements pass on places in order. -/
instance orderly_nesting (n : Nat) : Orderly (nesting n) := by
  induction n with
  | zero =>
    refine ⟨fun _ _ => Keeps.failure, Keeps.failure, fun _ h => ?_⟩
    cases h
  | succ n ih => exact ⟨Keeps.expression, Keeps.query, suffix_of_clause⟩

end CounterTable.Sql.Grammar
