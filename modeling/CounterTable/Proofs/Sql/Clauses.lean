import CounterTable.Proofs.Sql.Reading

/-!
# Reading the statements of counters

The statements that create, fill, read, advance and drop a counter table, as tokens, and what is
read from them. The name of the table may have several parts; each of them and the name of the column
is bare or stands in quotes.

* `selection_single`: one column of one table;
* **`clause_select`**, **`clause_update`**, **`clause_insert`**, **`clause_create`**,
  **`clause_drop`**: the statements;
* `statementsWithin_single`: a statement that is alone in its tokens.
-/

namespace CounterTable.Sql.Grammar

variable {g : Nesting} {i c : Ident} {ts us : List Token}

/-! ## Selections -/

theorem selectItem_aliased (hg : ReadsValues g) (hc : selectItem.isFrom (.column [c]) = false)
    (text shown word : String) (ts : List Token) :
    ∃ text', selectItem g
        (token c :: .keyword "AS" text :: .name shown :: .keyword "FROM" word :: ts) =
      some ((.aliased (.column [c]) (bare shown), text'), .keyword "FROM" word :: ts) := by
  have hcolumn := hg.column c (.as text (.name shown :: .keyword "FROM" word :: ts))
  rcases c with ⟨w, _ | q⟩ <;> simp only [token] at hcolumn ⊢ <;>
  simp [selectItem, optional?, argument.qualifiedAll, Nesting.any, hcolumn, hc, bare, aliasName?]

/-- What may stand behind the table of a selection. -/
inductive ClosesSelection : List Token → Prop
  | nil : ClosesSelection []
  | for (text : String) (us : List Token) : ClosesSelection (.keyword "FOR" text :: us)

namespace ClosesSelection

variable {w : String}

theorem keyword? (h : ClosesSelection ts) (hw : w ≠ "FOR") :
    keyword? w ts = some (false, ts) := by
  cases h with
  | nil => rfl
  | «for» text us => exact if_neg (Ne.symm hw)

theorem keywords? (h : ClosesSelection ts) (hw : w ≠ "FOR") (words : List String) :
    keywords? (w :: words) ts = some (false, ts) := by
  cases h with
  | nil => rfl
  | «for» text us =>
    have hnone : afterKeywords (w :: words) (.keyword "FOR" text :: us) = none :=
      if_neg (Ne.symm hw)
    simp only [Grammar.keywords?, hnone]

theorem exprPart (h : ClosesSelection ts) (hw : w ≠ "FOR") (g : Nesting) :
    exprPart g w ts = some ((none, ""), ts) := by
  simp [Grammar.exprPart, h.keyword? hw, -Grammar.keyword?]

theorem listPart (h : ClosesSelection ts) (hw : w ≠ "FOR") (g : Nesting) (words : List String) :
    listPart g (w :: words) ts = some ("", ts) := by
  simp [Grammar.listPart, h.keywords? hw, -Grammar.keywords?]

theorem groupPart (h : ClosesSelection ts) (g : Nesting) : groupPart g ts = some ("", ts) := by
  have hgroup := h.keywords? (w := "GROUP") (by decide) ["BY"]
  simp [Grammar.groupPart, hgroup, -Grammar.keywords?]

theorem windowPart (h : ClosesSelection ts) (g : Nesting) : windowPart g ts = some ("", ts) := by
  have hwindow := h.keyword? (w := "WINDOW") (by decide)
  simp [Grammar.windowPart, hwindow, -Grammar.keyword?]

theorem hierarchyPart (h : ClosesSelection ts) (g : Nesting) :
    hierarchyPart g ts = some ("", ts) := by
  cases h <;> simp [Grammar.hierarchyPart]

theorem laterals (h : ClosesSelection ts) {α : Type} (p : Parser α) :
    many (do whenever (← Grammar.keywords? ["LATERAL", "VIEW"]) p) ts = some ([], ts) := by
  have hlateral := h.keywords? (w := "LATERAL") (by decide) ["VIEW"]
  exact many_of_none (by simp [hlateral, -Grammar.keywords?])

theorem sources (h : ClosesSelection ts) {r : Source × String}
    (hj : joined g us = some (r, ts)) : sources g us = some ([r], ts) := by
  exact commaSeparated_single hj (by cases h <;> rfl)

theorem combination? (h : ClosesSelection ts) : combination? ts = some (none, ts) := by
  cases h <;> rfl

theorem body (h : ClosesSelection ts) {r : Body × String}
    (hs : singleBody g us = some (r, ts)) : body g us = some (r, ts) := by
  have hcombinations : ∀ other least n, combinations other least n r ts = some (r, ts) := by
    intro other least n
    cases n with
    | zero => rfl
    | succ n => exact bind_of h.combination? _
  unfold Grammar.body
  exact (bind_of hs _).trans (hcombinations _ _ _)

end ClosesSelection

theorem distinctPart_token (g : Nesting) (c : Ident) (us : List Token) :
    distinctPart g (token c :: us) = some ("", token c :: us) := by
  rcases c with ⟨w, _ | q⟩ <;> simp [distinctPart, token]

theorem intoPart_from (text : String) (us : List Token) :
    intoPart (.keyword "FROM" text :: us) = some ("", .keyword "FROM" text :: us) := by
  simp [intoPart]

theorem selection_single (h : ClosesSelection ts) {vs : List Token} {item : SelectItem}
    {f : Source} {itemText tableText select word : String}
    (hitem : selectItem g (token c :: us) =
      some ((item, itemText), .keyword "FROM" word :: token i :: vs))
    (htable : joined g (token i :: vs) = some ((f, tableText), ts)) :
    ∃ text, selection g (.keyword "SELECT" select :: token c :: us) =
      some ((⟨[item], [f], none⟩, text), ts) := by
  have hearly : keyword? "FROM" (.keyword "SELECT" select :: token c :: us) =
      some (false, .keyword "SELECT" select :: token c :: us) := rfl
  have hselect : keyword "SELECT" (.keyword "SELECT" select :: token c :: us) =
      some ((), token c :: us) := rfl
  have htop : keyword? "TOP" (token c :: us) = some (false, token c :: us) :=
    keyword?_token c us "TOP"
  have hitems : peekKeyword "FROM" (token c :: us) = some (false, token c :: us) :=
    peekKeyword_token c us "FROM"
  have hlist := commaSeparated_single hitem rfl
  have hinto := intoPart_from word (token i :: vs)
  have hfrom : keyword? "FROM" (.keyword "FROM" word :: token i :: vs) =
      some (true, token i :: vs) := rfl
  have hprewhere := h.exprPart (w := "PREWHERE") (by decide) g
  have hwhere := h.exprPart (w := "WHERE") (by decide) g
  have hcluster := h.listPart (w := "CLUSTER") (by decide) g ["BY"]
  have hdistribute := h.listPart (w := "DISTRIBUTE") (by decide) g ["BY"]
  have hsort := h.keywords? (w := "SORT") (by decide) ["BY"]
  have hhaving := h.exprPart (w := "HAVING") (by decide) g
  have hqualify := h.exprPart (w := "QUALIFY") (by decide) g
  -- The parser is followed step by step: a simplifier would go through all that is still to come
  -- at each of them.
  apply Exists.intro
  unfold selection
  refine (bind_of hearly _).trans ?_
  refine (bind_of (pure_apply none _) _).trans ?_
  refine (bind_of hselect _).trans ?_
  refine (bind_of (distinctPart_token g c us) _).trans ?_
  refine (bind_of htop _).trans ?_
  refine (congrFun (if_neg Bool.false_ne_true) _).trans ?_
  refine (bind_of (pure_apply "" _) _).trans ?_
  refine (bind_of hitems _).trans ?_
  refine (congrFun (if_neg Bool.false_ne_true) _).trans ?_
  refine (bind_of hlist _).trans ?_
  refine (bind_of hinto _).trans ?_
  refine (bind_of hfrom _).trans ?_
  refine (congrFun (if_pos rfl) _).trans ?_
  refine (bind_of (h.sources htable) _).trans ?_
  refine (bind_of (h.laterals _) _).trans ?_
  refine (bind_of hprewhere _).trans ?_
  refine (bind_of hwhere _).trans ?_
  refine (bind_of (h.groupPart g) _).trans ?_
  refine (bind_of hcluster _).trans ?_
  refine (bind_of hdistribute _).trans ?_
  refine (bind_of hsort _).trans ?_
  refine (congrFun (if_neg Bool.false_ne_true) _).trans ?_
  refine (bind_of (pure_apply "" _) _).trans ?_
  refine (bind_of hhaving _).trans ?_
  refine (bind_of (h.windowPart g) _).trans ?_
  refine (bind_of hqualify _).trans ?_
  refine (bind_of (h.windowPart g) _).trans ?_
  refine (bind_of (h.hierarchyPart g) _).trans ?_
  rfl

/-! ## Queries -/

theorem singleBody_select {text : String} {r : Select × String}
    (h : selection g (.keyword "SELECT" text :: us) = some (r, ts)) :
    singleBody g (.keyword "SELECT" text :: us) = some ((.select r.1, r.2), ts) := by
  have hselect : peekKeyword "SELECT" (.keyword "SELECT" text :: us) =
      some (true, .keyword "SELECT" text :: us) := rfl
  have hfrom : peekKeyword "FROM" (.keyword "SELECT" text :: us) =
      some (false, .keyword "SELECT" text :: us) := rfl
  unfold singleBody
  refine (bind_of hselect _).trans ?_
  refine (bind_of hfrom _).trans ?_
  refine (congrFun (if_pos rfl) _).trans ?_
  exact bind_of h _

theorem query_rest_nil {b : Body} {text : String} (h : body g us = some ((b, text), []))
    (intro : String) :
    ∃ text', query.rest g intro us = some (⟨b, false, text'⟩, []) := by
  apply Exists.intro
  unfold query.rest
  refine (bind_of h _).trans ?_
  rfl

theorem query_rest_locking {b : Body} {text for_ update : String}
    (h : body g us = some ((b, text), [.keyword "FOR" for_, .keyword "UPDATE" update]))
    (intro : String) :
    ∃ text', query.rest g intro us = some (⟨b, true, text'⟩, []) := by
  apply Exists.intro
  unfold query.rest
  refine (bind_of h _).trans ?_
  rfl

/-! ## Insertions -/

theorem valueRows_single (g : Nesting) {e : Expr}
    (h : g.expr false 0 us = some (e, [.symbol ")"])) :
    valueRows g (.symbol "(" :: us) = some ([[e]], []) := by
  have hvalues : commaSeparated (g.any false) us = some ([e], [.symbol ")"]) :=
    commaSeparated_single h rfl
  refine commaSeparated_single ?_ rfl
  simp [hvalues]

theorem query_values (g : Nesting) {e : Expr} (word : String)
    (h : g.expr false 0 us = some (e, [.symbol ")"])) :
    ∃ text, query g (.keyword "VALUES" word :: .symbol "(" :: us) =
      some (⟨.values [[e]], false, text⟩, []) := by
  have hsingle : singleBody g (.keyword "VALUES" word :: .symbol "(" :: us) =
      some ((.values [[e]], renderRows [[e]]), []) := by
    have hselect : peekKeyword "SELECT" (.keyword "VALUES" word :: .symbol "(" :: us) =
        some (false, .keyword "VALUES" word :: .symbol "(" :: us) := rfl
    have hfrom : peekKeyword "FROM" (.keyword "VALUES" word :: .symbol "(" :: us) =
        some (false, .keyword "VALUES" word :: .symbol "(" :: us) := rfl
    have hopen : symbol? "(" (.keyword "VALUES" word :: .symbol "(" :: us) =
        some (false, .keyword "VALUES" word :: .symbol "(" :: us) := rfl
    have hvalues : oneOf? ["VALUES", "VALUE"] (.keyword "VALUES" word :: .symbol "(" :: us) =
        some (some "VALUES", .symbol "(" :: us) := rfl
    unfold singleBody
    refine (bind_of hselect _).trans ?_
    refine (bind_of hfrom _).trans ?_
    refine (congrFun (if_neg Bool.false_ne_true) _).trans ?_
    refine (bind_of hopen _).trans ?_
    refine (congrFun (if_neg Bool.false_ne_true) _).trans ?_
    refine (bind_of hvalues _).trans ?_
    exact bind_of (valueRows_single g h) _
  exact query_rest_nil (ClosesSelection.nil.body hsingle) ""

theorem insert_values (rest : List Ident) (into : String) {values : String} {q : Query}
    (hq : g.query (.keyword "VALUES" values :: us) = some (q, [])) :
    insert g (.keyword "INTO" into :: token i :: qualified rest (.keyword "VALUES" values :: us)) =
      some (.insert (i :: rest) [] (some q), []) := by
  have hname : objectName (token i :: qualified rest (.keyword "VALUES" values :: us)) =
      some (i :: rest, .keyword "VALUES" values :: us) :=
    objectName_qualified (fun _ h => by cases h) i rest
  generalize qualified rest (.keyword "VALUES" values :: us) = vs at hname
  have hconflict : conflictClause (.keyword "INTO" into :: token i :: vs) =
      some ((), .keyword "INTO" into :: token i :: vs) := rfl
  have hpriority : oneOf? ["LOW_PRIORITY", "DELAYED", "HIGH_PRIORITY"]
      (.keyword "INTO" into :: token i :: vs) =
        some (none, .keyword "INTO" into :: token i :: vs) := rfl
  have hignore : keyword? "IGNORE" (.keyword "INTO" into :: token i :: vs) =
      some (false, .keyword "INTO" into :: token i :: vs) := rfl
  have hoverwrite : keyword? "OVERWRITE" (.keyword "INTO" into :: token i :: vs) =
      some (false, .keyword "INTO" into :: token i :: vs) := rfl
  have hinto : keyword? "INTO" (.keyword "INTO" into :: token i :: vs) =
      some (true, token i :: vs) := rfl
  have hlocal : keyword? "LOCAL" (token i :: vs) = some (false, token i :: vs) :=
    keyword?_token i vs "LOCAL"
  have htable : keyword? "TABLE" (token i :: vs) = some (false, token i :: vs) :=
    keyword?_token i vs "TABLE"
  have hdefault : keywords? ["DEFAULT", "VALUES"] (.keyword "VALUES" values :: us) =
      some (false, .keyword "VALUES" values :: us) := rfl
  have hcolumns : insert.insertedColumns g (.keyword "VALUES" values :: us) =
      some ([], .keyword "VALUES" values :: us) := rfl
  unfold insert
  refine (bind_of hconflict _).trans ?_
  refine (bind_of (skip_of hpriority) _).trans ?_
  refine (bind_of (skip_of hignore) _).trans ?_
  refine (bind_of (skip_of hoverwrite) _).trans ?_
  refine (bind_of (skip_of hinto) _).trans ?_
  refine (bind_of (skip_of hlocal) _).trans ?_
  refine (bind_of (skip_of htable) _).trans ?_
  refine (bind_of hname _).trans ?_
  refine (bind_of hdefault _).trans ?_
  refine (congrFun (if_neg Bool.false_ne_true) _).trans ?_
  refine (bind_of hcolumns _).trans ?_
  refine (bind_of hq _).trans ?_
  rfl

/-! ## Updates -/

/-- The assignment and the filter of an update. -/
def assigning (c : Ident) (set where_ : String) : List Token :=
  .keyword "SET" set :: token c :: .symbol "=" :: .placeholder "?" :: .keyword "WHERE" where_ ::
    token c :: .symbol "=" :: [.placeholder "?"]

theorem assignments_single (hg : ReadsValues g) (h : Closes ts)
    (hc : symbol? "," ts = some (false, ts)) (c : Ident) :
    assignments g (token c :: .symbol "=" :: .placeholder "?" :: ts) =
      some ([(.column [c], .placeholder "?" (questions ts))], ts) := by
  have hopen : peekSymbol "(" (token c :: .symbol "=" :: .placeholder "?" :: ts) =
      some (false, token c :: .symbol "=" :: .placeholder "?" :: ts) :=
    peekSymbol_token c _ "("
  have hname : objectName (token c :: .symbol "=" :: .placeholder "?" :: ts) =
      some ([c], .symbol "=" :: .placeholder "?" :: ts) :=
    objectName_token (fun us h => absurd (List.cons.inj h).1 (by decide)) c
  have htarget : (Target.column <$> objectName) (token c :: .symbol "=" :: .placeholder "?" :: ts) =
      some (.column [c], .symbol "=" :: .placeholder "?" :: ts) := by
    rw [map_apply, hname]
    rfl
  have hequals : symbol "=" (.symbol "=" :: .placeholder "?" :: ts) =
      some ((), .placeholder "?" :: ts) := rfl
  have hvalue : g.any false (.placeholder "?" :: ts) = some (.placeholder "?" (questions ts), ts) :=
    hg.placeholder h
  refine commaSeparated_single ?_ hc
  unfold assignment
  refine (bind_of hopen _).trans ?_
  refine (congrFun (if_neg Bool.false_ne_true) _).trans ?_
  refine (bind_of htarget _).trans ?_
  refine (bind_of hequals _).trans ?_
  exact bind_of hvalue _

theorem update_single (hg : ReadsValues g) (i c : Ident) (rest : List Ident)
    (set where_ : String) :
    update g (token i :: qualified rest (assigning c set where_)) =
      some (.update (.table (i :: rest) false)
        [(.column [c], .placeholder "?" 1)]
        (some (.equation (.column [c]) (.placeholder "?" 0))), []) := by
  have hclose : ClosesTable (assigning c set where_) := .set set _
  have hjoined : joined g (token i :: qualified rest (assigning c set where_)) =
      some ((⟨.table (i :: rest) false, false⟩,
        renderName (i :: rest)), assigning c set where_) :=
    joined_of_namedTable hclose (namedTable_plain hclose g i rest)
  have hconflict : conflictClause (token i :: qualified rest (assigning c set where_)) =
      some ((), token i :: qualified rest (assigning c set where_)) := by
    rcases i with ⟨w, _ | q⟩ <;> rfl
  have hfrom : phrase? ["FROM"] (sources g) (assigning c set where_) =
      some (false, assigning c set where_) := rfl
  have hset : keyword "SET" (assigning c set where_) = some ((), token c :: .symbol "=" ::
      .placeholder "?" :: .keyword "WHERE" where_ :: token c :: .symbol "=" ::
        [.placeholder "?"]) := rfl
  have hassign := assignments_single hg
    (.where where_ (token c :: .symbol "=" :: [.placeholder "?"])) rfl c
  have hbehind : questions (.keyword "WHERE" where_ :: token c :: .symbol "=" ::
      [.placeholder "?"]) = 1 := by
    rcases c with ⟨w, _ | q⟩ <;> rfl
  rw [hbehind] at hassign
  have hlate : phraseMaybe ["FROM"] (sources g) (.keyword "WHERE" where_ :: token c ::
      .symbol "=" :: [.placeholder "?"]) =
    some ((), .keyword "WHERE" where_ :: token c :: .symbol "=" :: [.placeholder "?"]) := rfl
  have hwhere : keyword? "WHERE" (.keyword "WHERE" where_ :: token c :: .symbol "=" ::
      [.placeholder "?"]) = some (true, token c :: .symbol "=" :: [.placeholder "?"]) := rfl
  have hfilter : (some <$> g.any false) (token c :: .symbol "=" :: [.placeholder "?"]) =
      some (some (.equation (.column [c]) (.placeholder "?" 0)), []) := by
    rw [map_apply, Nesting.any, hg.equation c .nil]
    rfl
  unfold update
  refine (bind_of hconflict _).trans ?_
  refine (bind_of hjoined _).trans ?_
  refine (bind_of hfrom _).trans ?_
  refine (bind_of hset _).trans ?_
  refine (bind_of hassign _).trans ?_
  refine (congrFun (if_neg Bool.false_ne_true) _).trans ?_
  refine (bind_of hlate _).trans ?_
  refine (bind_of hwhere _).trans ?_
  refine (bind_of hfilter _).trans ?_
  rfl

/-! ## Definitions -/

/-- A column of eight bytes, with the parentheses around it. -/
def defining (c : Ident) (word type : String) : List Token :=
  .symbol "(" :: token c :: .keyword word type :: [.symbol ")"]

theorem columnDefinition_long {word : String} (hw : word ∈ ["BIGINT", "INT8"]) (g : Nesting)
    (c : Ident) (type : String) :
    columnDefinition g (token c :: .keyword word type :: [.symbol ")"]) =
      some (c, [.symbol ")"]) := by
  simp only [List.mem_cons, List.not_mem_nil, or_false] at hw
  rcases hw with rfl | rfl <;> rcases c with ⟨w, _ | q⟩ <;> rfl

theorem tableColumns_single {word : String} (hw : word ∈ ["BIGINT", "INT8"]) (g : Nesting)
    (c : Ident) (type : String) : tableColumns g (defining c word type) = some ([c], []) := by
  have hopen : symbol? "(" (defining c word type) =
      some (true, token c :: .keyword word type :: [.symbol ")"]) := rfl
  have hclose : symbol? ")" (token c :: .keyword word type :: [.symbol ")"]) =
      some (false, token c :: .keyword word type :: [.symbol ")"]) := symbol?_token c _ ")"
  have hconstraint : tableConstraint g (token c :: .keyword word type :: [.symbol ")"]) =
      some (false, token c :: .keyword word type :: [.symbol ")"]) := by
    rcases c with ⟨w, _ | q⟩ <;> rfl
  have hpeek : peek (token c :: .keyword word type :: [.symbol ")"]) =
      some (some (token c), token c :: .keyword word type :: [.symbol ")"]) := rfl
  have hcolumn : ((fun c => [c]) <$> columnDefinition g)
      (token c :: .keyword word type :: [.symbol ")"]) = some ([c], [.symbol ")"]) := by
    rw [map_apply, columnDefinition_long hw]
    rfl
  unfold tableColumns
  refine (bind_of hopen _).trans ?_
  refine (congrFun (if_pos rfl) _).trans ?_
  refine (bind_of hclose _).trans ?_
  refine (congrFun (if_neg Bool.false_ne_true) _).trans ?_
  unfold tablePartsWithin
  refine (bind_of hconstraint _).trans ?_
  refine (congrFun (if_neg Bool.false_ne_true) _).trans ?_
  refine (bind_of hpeek _).trans ?_
  refine (congrFun (if_pos (isWord_token c)) _).trans ?_
  refine (bind_of hcolumn _).trans ?_
  rfl

theorem createTable_single {word : String} (hw : word ∈ ["BIGINT", "INT8"]) (g : Nesting)
    (i c : Ident) (type : String) (rest : List Ident) :
    createTable g (token i :: qualified rest (defining c word type)) =
      some (.createTable (i :: rest) [c] false, []) := by
  have hdot : ∀ us, defining c word type ≠ .symbol "." :: us :=
    fun us h => absurd (Token.symbol.inj (List.cons.inj h).1) (by decide)
  have hname := objectName_qualified hdot i rest
  generalize qualified rest (defining c word type) = vs at hname
  have hexists : keywords? ["IF", "NOT", "EXISTS"] (token i :: vs) = some (false, token i :: vs) :=
    keywords?_token i vs "IF" ["NOT", "EXISTS"]
  have hcluster : phraseMaybe ["ON", "CLUSTER"] ident (defining c word type) =
      some ((), defining c word type) := rfl
  have hlike : keyword? "LIKE" (defining c word type) = some (false, defining c word type) := rfl
  have hilike : keyword? "ILIKE" (defining c word type) = some (false, defining c word type) := rfl
  have hclone : phraseMaybe ["CLONE"] objectName (defining c word type) =
      some ((), defining c word type) := rfl
  have hoptions : tableOptions g [] = some ((), []) := rfl
  unfold createTable
  refine (bind_of hexists _).trans ?_
  refine (bind_of hname _).trans ?_
  refine (bind_of hcluster _).trans ?_
  refine (bind_of hlike _).trans ?_
  refine (bind_of hilike _).trans ?_
  refine (bind_of (skip_of (pure_apply none _)) _).trans ?_
  refine (bind_of hclone _).trans ?_
  refine (bind_of (tableColumns_single hw g c type) _).trans ?_
  refine (bind_of hoptions _).trans ?_
  rfl

theorem create_single {word : String} (hw : word ∈ ["BIGINT", "INT8"]) (g : Nesting)
    (i c : Ident) (table type : String) (rest : List Ident) :
    create g (.keyword "TABLE" table :: token i :: qualified rest (defining c word type)) =
      some (.createTable (i :: rest) [c] false, []) := by
  have hsingle := createTable_single hw g i c type rest
  generalize token i :: qualified rest (defining c word type) = vs at hsingle
  have hreplaced : keywords? ["OR", "REPLACE"] (.keyword "TABLE" table :: vs) =
      some (false, .keyword "TABLE" table :: vs) := rfl
  have halter : keywords? ["OR", "ALTER"] (.keyword "TABLE" table :: vs) =
      some (false, .keyword "TABLE" table :: vs) := rfl
  have hlocal : keyword? "LOCAL" (.keyword "TABLE" table :: vs) =
      some (false, .keyword "TABLE" table :: vs) := rfl
  have hglobal : keyword? "GLOBAL" (.keyword "TABLE" table :: vs) =
      some (false, .keyword "TABLE" table :: vs) := rfl
  have htransient : keyword? "TRANSIENT" (.keyword "TABLE" table :: vs) =
      some (false, .keyword "TABLE" table :: vs) := rfl
  have htemporary : oneOf? ["TEMP", "TEMPORARY"] (.keyword "TABLE" table :: vs) =
      some (none, .keyword "TABLE" table :: vs) := rfl
  have htable : keyword? "TABLE" (.keyword "TABLE" table :: vs) = some (true, vs) := rfl
  unfold create
  refine (bind_of hreplaced _).trans ?_
  refine (bind_of (skip_of halter) _).trans ?_
  refine (bind_of (skip_of hlocal) _).trans ?_
  refine (bind_of (skip_of hglobal) _).trans ?_
  refine (bind_of (skip_of htransient) _).trans ?_
  refine (bind_of (skip_of htemporary) _).trans ?_
  refine (bind_of htable _).trans ?_
  exact (congrFun (if_pos rfl) _).trans hsingle

/-! ## Drops -/

/-- What stands before the name of a table that is dropped, and whether the table may be missing. -/
inductive Sparing : List Token → Bool → Prop
  | never : Sparing [] false
  | missing : Sparing [.keyword "IF" "if", .keyword "EXISTS" "exists"] true

/-- What stands behind the name of a table that is dropped. -/
inductive ClosesDrop : List Token → Prop
  | nil : ClosesDrop []
  | cascade : ClosesDrop [.keyword "CASCADE" "cascade"]

theorem oneOf_keyword {words : List String} {word text : String} (h : word ∈ words) :
    oneOf words (.keyword word text :: us) = some (word, us) := by
  simp [h]

theorem drop_single {start end_ : List Token} {ifExists : Bool} (hs : Sparing start ifExists)
    (he : ClosesDrop end_) (i : Ident) (table : String) (rest : List Ident) :
    drop (.keyword "TABLE" table :: (start ++ token i :: qualified rest end_)) =
      some (.drop true [i :: rest] ifExists, []) := by
  have hdot : ∀ us, end_ ≠ .symbol "." :: us := by
    rintro us rfl
    cases he
  have hcomma : symbol? "," end_ = some (false, end_) := by cases he <;> rfl
  have hnames := commaSeparated_single (objectName_qualified hdot i rest) hcomma
  generalize hvs : token i :: qualified rest end_ = vs at hnames
  have htemporary : keyword? "TEMPORARY" (.keyword "TABLE" table :: (start ++ vs)) =
      some (false, .keyword "TABLE" table :: (start ++ vs)) := rfl
  have hview : keywords? ["MATERIALIZED", "VIEW"] (.keyword "TABLE" table :: (start ++ vs)) =
      some (false, .keyword "TABLE" table :: (start ++ vs)) := rfl
  have hexists : keywords? ["IF", "EXISTS"] (start ++ vs) = some (ifExists, vs) := by
    cases hs with
    | never =>
      rw [← hvs]
      exact keywords?_token i _ "IF" ["EXISTS"]
    | missing => rfl
  unfold drop
  refine (bind_of (skip_of htemporary) _).trans ?_
  refine (bind_of hview _).trans ?_
  refine (congrFun (if_neg Bool.false_ne_true) _).trans ?_
  refine (bind_of (oneOf_keyword (by decide)) _).trans ?_
  refine (bind_of hexists _).trans ?_
  refine (congrFun (if_neg (by decide)) _).trans ?_
  refine (congrFun (if_neg (by decide)) _).trans ?_
  refine (congrFun (if_neg (by decide)) _).trans ?_
  refine (bind_of hnames _).trans ?_
  cases he <;> rfl

/-! ## Statements -/

/-- How a selection ends, behind the name of its table: what stands there, whether that hints at a
lock, and whether it asks for one. -/
inductive Locking : List Token → Bool → Bool → Prop
  | none : Locking [] false false
  | clause : Locking [.keyword "FOR" "for", .keyword "UPDATE" "update"] false true
  | hint : Locking hinting true false

/-- A selection of one column. -/
def selecting (i c : Ident) (rest : List Ident) (end_ : List Token) : List Token :=
  .keyword "SELECT" "select" :: token c :: .keyword "AS" "as" :: .name "id_val" ::
    .keyword "FROM" "from" :: token i :: qualified rest end_

theorem query_select {end_ : List Token} {hinted locks : Bool} (h : Locking end_ hinted locks)
    (hg : ReadsValues g) (i : Ident) (hc : selectItem.isFrom (.column [c]) = false)
    (rest : List Ident) :
    ∃ text, query g (selecting i c rest end_) = some (⟨.select
      ⟨[.aliased (.column [c]) (bare "id_val")],
        [⟨.table (i :: rest) hinted, false⟩], none⟩, locks, text⟩, []) := by
  obtain ⟨itemText, hitem⟩ := selectItem_aliased hg hc "as" "id_val" "from"
    (token i :: qualified rest end_)
  cases h with
  | none =>
    have htable := joined_of_namedTable .nil (namedTable_plain .nil g i rest)
    obtain ⟨text, hselection⟩ := selection_single .nil hitem htable
    exact query_rest_nil (ClosesSelection.nil.body (singleBody_select hselection)) ""
  | clause =>
    have hends : ClosesTable [.keyword "FOR" "for", .keyword "UPDATE" "update"] := .for ..
    have hcloses : ClosesSelection [.keyword "FOR" "for", .keyword "UPDATE" "update"] := .for ..
    have htable := joined_of_namedTable hends (namedTable_plain hends g i rest)
    obtain ⟨text, hselection⟩ := selection_single hcloses hitem htable
    exact query_rest_locking (hcloses.body (singleBody_select hselection)) ""
  | hint =>
    obtain ⟨tableText, hnamed⟩ := namedTable_hinted hg i rest
    have htable := joined_of_namedTable .nil hnamed
    obtain ⟨text, hselection⟩ := selection_single .nil hitem htable
    exact query_rest_nil (ClosesSelection.nil.body (singleBody_select hselection)) ""

theorem statementsWithin_single {word text : String} {s : Clause}
    (h : (nesting depthLimit).clause (.keyword word text :: us) = some (s, [])) (n : Nat) :
    statementsWithin (n + 1) (.keyword word text :: us) = some ([s], []) := by
  have hmany : many (do if ← symbol? ";" then return some () else return none)
      (.keyword word text :: us) = some ([], .keyword word text :: us) := many_of_none rfl
  have hpeek : peek (.keyword word text :: us) =
      some (some (.keyword word text), .keyword word text :: us) := rfl
  unfold statementsWithin
  refine (bind_of (skip_of hmany) _).trans ?_
  refine (bind_of hpeek _).trans ?_
  refine (bind_of h _).trans ?_
  rfl

theorem clause_select {end_ : List Token} {hinted locks : Bool} (h : Locking end_ hinted locks)
    (n : Nat) (i : Ident) (hc : selectItem.isFrom (.column [c]) = false)
    (rest : List Ident) :
    ∃ text, (nesting (n + 4)).clause (selecting i c rest end_) = some (.query ⟨.select
      ⟨[.aliased (.column [c]) (bare "id_val")],
        [⟨.table (i :: rest) hinted, false⟩], none⟩, locks, text⟩, []) := by
  obtain ⟨text, hquery⟩ := query_select h (readsValues_nesting n) i hc rest
  have hnested : (nesting (n + 3)).query (selecting i c rest end_) = some (_, []) := hquery
  refine ⟨text, ?_⟩
  change (Clause.query <$> (nesting (n + 3)).query) (selecting i c rest end_) = _
  rw [map_apply, hnested]
  rfl

theorem clause_update (n : Nat) (i c : Ident) (rest : List Ident) :
    (nesting (n + 4)).clause (.keyword "UPDATE" "update" :: token i ::
        qualified rest (assigning c "set" "where")) =
      some (.update (.table (i :: rest) false)
        [(.column [c], .placeholder "?" 1)]
        (some (.equation (.column [c]) (.placeholder "?" 0))), []) :=
  update_single (readsValues_nesting (n + 1)) i c rest "set" "where"

theorem clause_insert {e : Expr} (n : Nat) (i : Ident) (rest : List Ident)
    (h : (nesting (n + 2)).expr false 0 us = some (e, [.symbol ")"])) :
    ∃ text, (nesting (n + 4)).clause (.keyword "INSERT" "insert" :: .keyword "INTO" "into" ::
        token i :: qualified rest (.keyword "VALUES" "values" :: .symbol "(" :: us)) =
      some (.insert (i :: rest) [] (some ⟨.values [[e]], false, text⟩), []) := by
  obtain ⟨text, hquery⟩ := query_values (nesting (n + 2)) "values" h
  have hnested : (nesting (n + 3)).query (.keyword "VALUES" "values" :: .symbol "(" :: us) =
      some (⟨.values [[e]], false, text⟩, []) := hquery
  exact ⟨text, insert_values rest "into" hnested⟩

theorem clause_create {word : String} (hw : word ∈ ["BIGINT", "INT8"]) (n : Nat)
    (i c : Ident) (type : String) (rest : List Ident) :
    (nesting (n + 4)).clause (.keyword "CREATE" "create" :: .keyword "TABLE" "table" :: token i ::
        qualified rest (defining c word type)) =
      some (.createTable (i :: rest) [c] false, []) :=
  create_single hw _ i c "table" type rest

theorem clause_drop {start end_ : List Token} {ifExists : Bool} (hs : Sparing start ifExists)
    (he : ClosesDrop end_) (n : Nat) (i : Ident) (rest : List Ident) :
    (nesting (n + 4)).clause (.keyword "DROP" "drop" :: .keyword "TABLE" "table" ::
        (start ++ token i :: qualified rest end_)) =
      some (.drop true [i :: rest] ifExists, []) :=
  drop_single hs he i "table" rest

end CounterTable.Sql.Grammar
