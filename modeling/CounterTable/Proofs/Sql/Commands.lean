import CounterTable.Proofs.Sql.Clauses
import CounterTable.Proofs.Sql.Equations
import CounterTable.Proofs.Sql.Respelling

/-!
# Statements about a table of any name

What the statements of a counter are read as if the name of the table is found where it is shown.
The parts of the name may be keywords, some of which mean something where the name stands: then the
statement is not read at all.

* `createTable_eq_some`, `tableColumns_head`: a new table, and its first column;
* `insert_eq_some`, **`insert_spelled`**: an insertion;
* `Changing`: what stands behind a table whose rows are changed;
* **`update_spelled`**: an update, with its assignments and its filter.
-/

namespace CounterTable.Sql.Grammar

variable {α : Type} {g : Nesting} {ts us vs : List Token} {t : Token} {i : Ident} {is : List Ident}

/-! ## Names in the place of keywords -/

theorem spelled_ne_symbol (i : Ident) (text : String) : i.spelled ≠ .symbol text := by
  intro h
  have hident := Lexer.ident?_spelled i
  rw [h] at hident
  cases hident

theorem keyword?_spelled (i : Ident) (word : String) (ts : List Token) :
    keyword? word (i.spelled :: ts) = some (true, ts) ∨
      keyword? word (i.spelled :: ts) = some (false, i.spelled :: ts) := by
  cases h : i.spelled with
  | keyword w text =>
    by_cases hw : w = word
    · exact .inl (if_pos hw)
    · exact .inr (if_neg hw)
  | _ => exact .inr rfl

theorem objectName_point (ts : List Token) : objectName (.symbol "." :: ts) = none :=
  objectName_of_not_ident rfl ts

/-! ## Definitions -/

theorem exists_of_afterKeywords {word : String} {words : List String} {ts us : List Token}
    (h : afterKeywords (word :: words) ts = some us) :
    ∃ text vs, ts = .keyword word text :: vs ∧ afterKeywords words vs = some us := by
  cases ts with
  | nil => cases h
  | cons t ts =>
    cases t with
    | keyword w text =>
      by_cases hw : w = word
      · subst hw
        exact ⟨text, ts, rfl, (if_pos rfl).symm.trans h⟩
      · cases (if_neg hw).symm.trans h
    | _ => cases h

theorem afterKeywords_subset {words : List String} {ts us : List Token}
    (h : afterKeywords words ts = some us) : us ⊆ ts := by
  induction words generalizing ts with
  | nil =>
    cases h
    exact List.Subset.refl _
  | cons word words ih =>
    obtain ⟨text, vs, rfl, hvs⟩ := exists_of_afterKeywords h
    exact List.subset_cons_of_subset _ (ih hvs)

theorem eq_or_eq_cons_of_keywords? {first second : String} {words : List String} {b : Bool}
    {ts us : List Token} (h : keywords? (first :: second :: words) ts = some (b, us)) :
    us = ts ∨ us ⊆ ts ∧ ∃ x y zs, ts = .keyword first x :: .keyword second y :: zs := by
  unfold keywords? at h
  split at h
  · next rest hrest =>
    cases h
    refine .inr ⟨afterKeywords_subset hrest, ?_⟩
    obtain ⟨x, vs, rfl, hvs⟩ := exists_of_afterKeywords hrest
    obtain ⟨y, zs, rfl, -⟩ := exists_of_afterKeywords hvs
    exact ⟨x, y, zs, rfl⟩
  · cases h
    exact .inl rfl

theorem createTable_eq_some {c : Clause} (h : createTable g ts = some (c, us)) :
    ∃ spared vs name ws columns, keywords? ["IF", "NOT", "EXISTS"] ts = some (spared, vs) ∧
      objectName vs = some (name, ws) ∧ c = .createTable name columns spared ∧
        ∀ xs, ws = .symbol "(" :: xs → ∃ ys, tableColumns g ws = some (columns, ys) := by
  unfold createTable at h
  obtain ⟨spared, vs, hspared, h⟩ := exists_of_bind h
  obtain ⟨name, ws, hname, h⟩ := exists_of_bind h
  obtain ⟨⟨⟩, ws₁, hcluster, h⟩ := exists_of_bind h
  obtain ⟨like, ws₂, hlike, h⟩ := exists_of_bind h
  obtain ⟨ilike, ws₃, hilike, h⟩ := exists_of_bind h
  obtain ⟨⟨⟩, ws₄, hcopied, h⟩ := exists_of_bind h
  obtain ⟨⟨⟩, ws₅, hclone, h⟩ := exists_of_bind h
  obtain ⟨columns, ys, hcolumns, h⟩ := exists_of_bind h
  obtain ⟨⟨⟩, ys₁, -, h⟩ := exists_of_bind h
  obtain ⟨as, ys₂, -, h⟩ := exists_of_bind h
  have hc : c = .createTable name columns spared := by
    cases as with
    | false =>
      cases h
      rfl
    | true =>
      obtain ⟨⟨⟩, ys₃, -, h⟩ := exists_of_bind h
      cases h
      rfl
  refine ⟨spared, vs, name, ws, columns, hspared, hname, hc, ?_⟩
  rintro xs rfl
  cases hcluster
  cases hlike
  cases hilike
  cases hcopied
  cases hclone
  exact ⟨ys, hcolumns⟩

theorem tableColumns_head {columns : List Ident} (ht : t.ident? = some i)
    (hword : ∀ word text, t ≠ .keyword word text)
    (h : tableColumns g (.symbol "(" :: t :: ts) = some (columns, us)) :
    columns.head? = some i := by
  have hkeyword : ∀ word, keyword? word (t :: ts) = some (false, t :: ts) := by
    intro word
    cases t <;> first | rfl | exact absurd rfl (hword _ _)
  have honeOf : ∀ words, oneOf? words (t :: ts) = some (none, t :: ts) := by
    intro word
    cases t <;> first | rfl | exact absurd rfl (hword _ _)
  have hclose : symbol? ")" (t :: ts) = some (false, t :: ts) := by
    cases t <;> first | rfl | cases ht
  have hconstraint : tableConstraint g (t :: ts) = some (false, t :: ts) := by
    simp [tableConstraint, hkeyword, honeOf, -keyword?, -oneOf?]
  have hident : ident (t :: ts) = some (i, ts) := by
    rw [ident, ht]
    rfl
  unfold tableColumns at h
  rw [bind_of (symbol?_self "(" _), if_pos rfl, bind_of hclose, if_neg Bool.false_ne_true] at h
  unfold tablePartsWithin at h
  replace h := (bind_of hconstraint _).symm.trans h
  dsimp only at h
  rw [if_neg Bool.false_ne_true] at h
  obtain ⟨o, ws, hpeek, h⟩ := exists_of_bind h
  cases hpeek
  dsimp only [List.head?_cons] at h
  rw [ite_run] at h
  split at h
  case isFalse => cases h
  obtain ⟨first, vs, hfirst, h⟩ := exists_of_bind h
  have hhead : first = [i] := by
    rw [map_apply] at hfirst
    unfold columnDefinition at hfirst
    rw [bind_of hident] at hfirst
    cases htype :
        (skip dataType >>= fun _ => columnOptions g >>= fun _ => pure i : Parser Ident) ts with
    | none =>
      rw [htype] at hfirst
      cases hfirst
    | some r =>
      rw [htype] at hfirst
      cases hfirst
      obtain ⟨⟨⟩, ws, -, htype⟩ := exists_of_bind htype
      obtain ⟨⟨⟩, ws, -, htype⟩ := exists_of_bind htype
      cases htype
      rfl
  subst hhead
  obtain ⟨comma, ws, -, h⟩ := exists_of_bind h
  cases comma with
  | true =>
    obtain ⟨others, ws', -, h⟩ := exists_of_bind h
    cases h
    rfl
  | false =>
    obtain ⟨⟨⟩, ws', -, h⟩ := exists_of_bind h
    cases h
    rfl

theorem tableColumns_bracket (g : Nesting) (ts : List Token) :
    tableColumns g (.symbol "(" :: .symbol "[" :: ts) = none := rfl

/-! ## Insertions -/

/-- What an insertion is read from: the name of its table behind the words that are passed over, and
the columns and the query behind that. -/
theorem insert_eq_some {into : String} {c : Clause} {b b' : Bool} {xs ys : List Token}
    (hlocal : keyword? "LOCAL" ts = some (b, xs)) (htable : keyword? "TABLE" xs = some (b', ys))
    (h : insert g (.keyword "INTO" into :: ts) = some (c, us)) :
    ∃ name zs, objectName ys = some (name, zs) ∧
      ∀ ws, keywords? ["DEFAULT", "VALUES"] zs = some (false, ws) →
        ∃ columns ws' q vs, insert.insertedColumns g ws = some (columns, ws') ∧
          g.query ws' = some (q, vs) ∧ c = .insert name columns (some q) := by
  have hconflict : conflictClause (.keyword "INTO" into :: ts) =
      some ((), .keyword "INTO" into :: ts) := rfl
  have hpriority : oneOf? ["LOW_PRIORITY", "DELAYED", "HIGH_PRIORITY"]
      (.keyword "INTO" into :: ts) = some (none, .keyword "INTO" into :: ts) := rfl
  have hignore : keyword? "IGNORE" (.keyword "INTO" into :: ts) =
      some (false, .keyword "INTO" into :: ts) := rfl
  have hoverwrite : keyword? "OVERWRITE" (.keyword "INTO" into :: ts) =
      some (false, .keyword "INTO" into :: ts) := rfl
  have hinto : keyword? "INTO" (.keyword "INTO" into :: ts) = some (true, ts) := rfl
  unfold insert at h
  replace h := (bind_of hconflict _).symm.trans h
  replace h := (bind_of (skip_of hpriority) _).symm.trans h
  replace h := (bind_of (skip_of hignore) _).symm.trans h
  replace h := (bind_of (skip_of hoverwrite) _).symm.trans h
  replace h := (bind_of (skip_of hinto) _).symm.trans h
  replace h := (bind_of (skip_of hlocal) _).symm.trans h
  replace h := (bind_of (skip_of htable) _).symm.trans h
  obtain ⟨name, zs, hname, h⟩ := exists_of_bind h
  refine ⟨name, zs, hname, fun ws hdefault => ?_⟩
  replace h := (bind_of hdefault _).symm.trans h
  replace h := (congrFun (if_neg Bool.false_ne_true) _).symm.trans h
  obtain ⟨columns, ws', hcolumns, h⟩ := exists_of_bind h
  obtain ⟨q, vs, hquery, h⟩ := exists_of_bind h
  refine ⟨columns, ws', q, vs, hcolumns, hquery, ?_⟩
  replace h := (bind_of (pure_apply (columns, some q) vs) _).symm.trans h
  obtain ⟨⟨⟩, ts₁, -, h⟩ := exists_of_bind h
  obtain ⟨⟨⟩, ts₂, -, h⟩ := exists_of_bind h
  obtain ⟨⟨⟩, ts₃, -, h⟩ := exists_of_bind h
  cases h
  rfl

theorem exists_of_spelled (i : Ident) (h : keyword? "TABLE" ts = some (false, ts)) :
    ∃ b xs b' ys, keyword? "LOCAL" (i.spelled :: ts) = some (b, xs) ∧
      keyword? "TABLE" xs = some (b', ys) ∧ (ys = i.spelled :: ts ∨ ys = ts) := by
  rcases keyword?_spelled i "LOCAL" ts with hlocal | hlocal
  · exact ⟨_, _, _, _, hlocal, h, .inr rfl⟩
  · rcases keyword?_spelled i "TABLE" ts with htable | htable
    · exact ⟨_, _, _, _, hlocal, htable, .inr rfl⟩
    · exact ⟨_, _, _, _, hlocal, htable, .inl rfl⟩

theorem insertedColumns_of_not_ident (ht : t.ident? = none) (us : List Token) :
    insert.insertedColumns g (.symbol "(" :: t :: us) = none := by
  have hselection : insert.selectionFollows (.symbol "(" :: t :: us) =
      some (false, .symbol "(" :: t :: us) := by
    cases t <;> first | rfl | cases ht
  have hident : ident (t :: us) = none := by
    rw [ident, ht]
    rfl
  have hlisted : listedColumns (.symbol "(" :: t :: us) = none := by
    simp [listedColumns, columnList, commaSeparated, commaSeparatedWithin, hident, -ident]
  refine (bind_of hselection _).trans ((congrFun (if_neg Bool.false_ne_true) _).trans ?_)
  rw [bind_apply, hlisted]
  rfl

/-- **An insertion into a table of any name**: a name that begins with a word that may stand before
it is not read. -/
theorem insert_spelled (into : String) {values : String} {q : Query}
    (hq : g.query (.keyword "VALUES" values :: .symbol "(" :: t :: us) = some (q, []))
    (ht : t.ident? = none) {c : Clause}
    (h : insert g (.keyword "INTO" into :: i.spelled :: continued is
      (.keyword "VALUES" values :: .symbol "(" :: t :: us)) = some (c, ts)) :
    c = .insert (i :: is) [] (some q) := by
  have htable : keyword? "TABLE" (continued is (.keyword "VALUES" values :: .symbol "(" :: t :: us)) =
      some (false, continued is (.keyword "VALUES" values :: .symbol "(" :: t :: us)) := by
    cases is <;> rfl
  obtain ⟨b, xs, b', ys, hlocal, htable, hys⟩ := exists_of_spelled i htable
  obtain ⟨name, zs, hname, h⟩ := insert_eq_some hlocal htable h
  rcases hys with rfl | rfl
  · rw [objectName_continued (by simp)] at hname
    cases hname
    obtain ⟨columns, ws, q', vs, hcolumns, hquery, rfl⟩ := h _ rfl
    cases hcolumns
    cases hq.symm.trans hquery
    rfl
  · -- What is left of the name is none, and the values are none of its columns.
    cases is with
    | cons j js =>
      rw [continued, objectName_point] at hname
      cases hname
    | nil =>
      have hvalues : objectName (.keyword "VALUES" values :: .symbol "(" :: t :: us) =
          some ([⟨values, none⟩], .symbol "(" :: t :: us) := rfl
      rw [continued, hvalues] at hname
      cases hname
      obtain ⟨columns, ws, q', vs, hcolumns, -⟩ := h _ rfl
      rw [insertedColumns_of_not_ident ht] at hcolumns
      cases hcolumns

/-! ## Updates -/

/-- What stands behind a table whose rows are changed. -/
structure Changing (us : List Token) : Prop where
  exists_eq : ∃ set t vs, us = .keyword "SET" set :: t :: vs ∧ t.ident?.isSome

theorem Changing.ne_point (h : Changing us) (vs : List Token) : us ≠ .symbol "." :: vs := by
  obtain ⟨set, t, ws, rfl, -⟩ := h.exists_eq
  simp

theorem parenthesized_continued (h : Changing us) (is : List Ident) (p : Parser α) :
    parenthesized p (continued is us) = none := by
  obtain ⟨set, t, vs, rfl, -⟩ := h.exists_eq
  cases is <;> rfl

theorem lateral_continued (h : Changing us) (is : List Ident) {β : Type}
    (f : List Ident → String → Parser β) :
    (objectName >>= fun name => arguments g >>= fun args => f name args) (continued is us) =
      none := by
  obtain ⟨set, t, vs, rfl, ht⟩ := h.exists_eq
  cases is with
  | cons j js => exact (bind_apply _ _ _).trans (by rw [continued, objectName_point]; rfl)
  | nil =>
    have hname : objectName (.keyword "SET" set :: t :: vs) = some ([⟨set, none⟩], t :: vs) := by
      cases t <;> first | rfl | cases ht
    have harguments : arguments g (t :: vs) = none := by
      cases t <;> first | rfl | cases ht
    rw [continued, bind_of hname, bind_apply, harguments]
    rfl

/-- **A table of any name**: a name whose first word opens something else is not read. -/
theorem factor_spelled (h : Changing us) {p : Parser (Factor × List String)} {f : Factor}
    (hf : factor g p (i.spelled :: continued is us) = some (f, ts)) :
    namedTable g (i.spelled :: continued is us) = some (f, ts) := by
  obtain ⟨t, vs, htail, ht⟩ : ∃ t vs, continued is us = t :: vs ∧ t ≠ .symbol "(" := by
    obtain ⟨set, t, vs, rfl, -⟩ := h.exists_eq
    cases is with
    | nil => exact ⟨_, _, rfl, nofun⟩
    | cons j js => exact ⟨_, _, rfl, by simp⟩
  unfold factor at hf
  rcases keyword?_spelled i "LATERAL" (continued is us) with hword | hword
  · replace hf := (bind_of hword _).symm.trans hf
    replace hf := (congrFun (if_pos rfl) _).symm.trans hf
    have hopen : peekSymbol "(" (continued is us) = some (false, continued is us) := by
      rw [htail]
      simp [ht]
    replace hf := (bind_of hopen _).symm.trans hf
    replace hf := (congrFun (if_neg Bool.false_ne_true) _).symm.trans hf
    rw [lateral_continued h] at hf
    cases hf
  replace hf := (bind_of hword _).symm.trans hf
  replace hf := (congrFun (if_neg Bool.false_ne_true) _).symm.trans hf
  rcases keyword?_spelled i "TABLE" (continued is us) with hword | hword
  · replace hf := (bind_of hword _).symm.trans hf
    replace hf := (congrFun (if_pos rfl) _).symm.trans hf
    rw [bind_apply, parenthesized_continued h] at hf
    cases hf
  replace hf := (bind_of hword _).symm.trans hf
  replace hf := (congrFun (if_neg Bool.false_ne_true) _).symm.trans hf
  rcases keyword?_spelled i "UNNEST" (continued is us) with hword | hword
  · replace hf := (bind_of hword _).symm.trans hf
    replace hf := (congrFun (if_pos rfl) _).symm.trans hf
    rw [bind_apply, parenthesized_continued h] at hf
    cases hf
  replace hf := (bind_of hword _).symm.trans hf
  replace hf := (congrFun (if_neg Bool.false_ne_true) _).symm.trans hf
  have hopen : symbol? "(" (i.spelled :: continued is us) =
      some (false, i.spelled :: continued is us) :=
    symbol?_of_ne fun vs heq => spelled_ne_symbol i "(" (List.cons.inj heq).1
  replace hf := (bind_of hopen _).symm.trans hf
  replace hf := (congrFun (if_neg Bool.false_ne_true) _).symm.trans hf
  replace hf := (bind_of (get_apply _) _).symm.trans hf
  rw [htail] at hf ⊢
  refine (congrFun ?_ _).symm.trans hf
  split
  · next heq => exact absurd (List.cons.inj (List.cons.inj heq).2).1 ht
  · rfl

theorem namedTable_continued (h : Changing us) (i : Ident) (is : List Ident) :
    namedTable g (i.spelled :: continued is us) =
      some ({ relation := .table (i :: is) false, text := renderName (i :: is) }, us) := by
  have hname := objectName_continued h.ne_point i is
  obtain ⟨set, t, vs, rfl, -⟩ := h.exists_eq
  simp [namedTable, hname, tableAlias, aliasName?, notTableAliases]

theorem joined_spelled (h : Changing us) {r : Source × String}
    (hr : joined g (i.spelled :: continued is us) = some (r, ts)) :
    r.1.relation = .table (i :: is) false ∧ ts = us := by
  have hwords : joinWords us = some (none, us) := by
    obtain ⟨set, t, vs, rfl, -⟩ := h.exists_eq
    rfl
  unfold joined at hr
  obtain ⟨⟨first, joins⟩, vs, hwithin, hr⟩ := exists_of_bind hr
  unfold joinedWithin at hwithin
  obtain ⟨f, ws, hfactor, hwithin⟩ := exists_of_bind hwithin
  have hnamed := factor_spelled h hfactor
  rw [namedTable_continued h] at hnamed
  cases hnamed
  replace hwithin := (bind_of (many_of_none (bind_of hwords _)) _).symm.trans hwithin
  cases hwithin
  cases hr
  exact ⟨rfl, rfl⟩

theorem assignments_eq_cons (ht : t ≠ .symbol "(") {changes : List (Target × Expr)}
    (h : assignments g (t :: us) = some (changes, ts)) :
    ∃ name e rest vs, changes = (.column name, e) :: rest ∧
      objectName (t :: us) = some (name, vs) := by
  have hopen : peekSymbol "(" (t :: us) = some (false, t :: us) := by simp [ht]
  unfold assignments commaSeparated commaSeparatedWithin at h
  obtain ⟨⟨target, e⟩, ws, hfirst, h⟩ := exists_of_bind h
  unfold assignment at hfirst
  replace hfirst := (bind_of hopen _).symm.trans hfirst
  replace hfirst := (congrFun (if_neg Bool.false_ne_true) _).symm.trans hfirst
  obtain ⟨target', vs, htarget, hfirst⟩ := exists_of_bind hfirst
  obtain ⟨name, hname, rfl⟩ := exists_of_map htarget
  obtain rfl : target = .column name := by
    obtain ⟨⟨⟩, xs, -, hfirst⟩ := exists_of_bind hfirst
    obtain ⟨e', xs', -, hfirst⟩ := exists_of_bind hfirst
    cases hfirst
    rfl
  obtain ⟨comma, xs, -, h⟩ := exists_of_bind h
  cases comma with
  | true =>
    obtain ⟨rest, xs', -, h⟩ := exists_of_bind h
    cases h
    exact ⟨name, e, rest, vs, rfl, hname⟩
  | false =>
    cases h
    exact ⟨name, e, [], vs, rfl, hname⟩

theorem assignments_of_ident (hg : ReadsValues g) (h : Closes ts)
    (hc : symbol? "," ts = some (false, ts)) (ht : t.ident? = some i) :
    assignments g (t :: .symbol "=" :: .placeholder "?" :: ts) =
      some ([(.column [i], .placeholder "?" (questions ts))], ts) := by
  have hopen : peekSymbol "(" (t :: .symbol "=" :: .placeholder "?" :: ts) =
      some (false, t :: .symbol "=" :: .placeholder "?" :: ts) := by
    cases t <;> first | rfl | cases ht
  have hident : ident (t :: .symbol "=" :: .placeholder "?" :: ts) =
      some (i, .symbol "=" :: .placeholder "?" :: ts) := by
    rw [ident, ht]
    rfl
  have hname : objectName (t :: .symbol "=" :: .placeholder "?" :: ts) =
      some ([i], .symbol "=" :: .placeholder "?" :: ts) := bind_of hident _
  have htarget : (Target.column <$> objectName) (t :: .symbol "=" :: .placeholder "?" :: ts) =
      some (.column [i], .symbol "=" :: .placeholder "?" :: ts) := by
    rw [map_apply, hname]
    rfl
  have hequals : symbol "=" (.symbol "=" :: .placeholder "?" :: ts) =
      some ((), .placeholder "?" :: ts) := rfl
  have hvalue : g.any false (.placeholder "?" :: ts) = some (.placeholder "?" (questions ts), ts) :=
    hg.placeholder h
  refine commaSeparated_single ?_ hc
  unfold assignment
  refine (bind_of hopen _).trans ?_
  refine (congrFun (if_neg Bool.false_ne_true) _).trans ?_
  refine (bind_of htarget _).trans ?_
  refine (bind_of hequals _).trans ?_
  exact bind_of hvalue _

theorem conflictClause_spelled (h : Changing us) {r : Unit × List Token}
    (hr : conflictClause (i.spelled :: continued is us) = some r) :
    r = ((), i.spelled :: continued is us) := by
  have hnone : skip (oneOf ["REPLACE", "ROLLBACK", "ABORT", "FAIL", "IGNORE"]) (continued is us) =
      none := by
    obtain ⟨set, t, vs, rfl, -⟩ := h.exists_eq
    cases is <;> rfl
  have hwords : keywords? ["OR"] (i.spelled :: continued is us) = some (true, continued is us) ∨
      keywords? ["OR"] (i.spelled :: continued is us) =
        some (false, i.spelled :: continued is us) := by
    cases hi : i.spelled with
    | keyword w text =>
      by_cases hw : w = "OR"
      · left
        simp [hw]
      · right
        simp [hw]
    | _ => exact .inr rfl
  unfold conflictClause phraseMaybe at hr
  rw [discard_apply, phrase?] at hr
  rcases hwords with hwords | hwords
  · rw [bind_of hwords, if_pos rfl, bind_apply, hnone] at hr
    cases hr
  · rw [bind_of hwords, if_neg Bool.false_ne_true] at hr
    cases hr
    rfl

/-- **An update of a table of any name**, with its assignments and its filter. -/
theorem update_spelled {set : String} (ht : t.ident?.isSome) {c : Clause}
    (h : update g (i.spelled :: continued is (.keyword "SET" set :: t :: us)) = some (c, ts)) :
    ∃ changes filter ws, c = .update (.table (i :: is) false) changes filter ∧
      assignments g (t :: us) = some (changes, ws) ∧
        ∀ text xs, ws = .keyword "WHERE" text :: xs →
          ∃ e ys, filter = some e ∧ g.any false xs = some (e, ys) := by
  have hus : Changing (.keyword "SET" set :: t :: us) := ⟨set, t, us, rfl, ht⟩
  have hfrom : phrase? ["FROM"] (sources g) (.keyword "SET" set :: t :: us) =
      some (false, .keyword "SET" set :: t :: us) := rfl
  have hset : keyword "SET" (.keyword "SET" set :: t :: us) = some ((), t :: us) := rfl
  unfold update at h
  obtain ⟨⟨⟩, vs, hconflict, h⟩ := exists_of_bind h
  cases conflictClause_spelled hus hconflict
  obtain ⟨⟨source, text⟩, vs, hjoined, h⟩ := exists_of_bind h
  obtain ⟨hrelation, rfl⟩ := joined_spelled hus hjoined
  replace h := (bind_of hfrom _).symm.trans h
  replace h := (bind_of hset _).symm.trans h
  obtain ⟨changes, ws, hchanges, h⟩ := exists_of_bind h
  replace h := (congrFun (if_neg Bool.false_ne_true) _).symm.trans h
  obtain ⟨⟨⟩, ws₁, hlate, h⟩ := exists_of_bind h
  obtain ⟨filtered, ws₂, hwhere, h⟩ := exists_of_bind h
  obtain ⟨filter, ws₃, hfilter, h⟩ := exists_of_bind h
  obtain ⟨⟨⟩, ws₄, -, h⟩ := exists_of_bind h
  obtain ⟨⟨⟩, ws₅, -, h⟩ := exists_of_bind h
  cases h
  refine ⟨changes, filter, ws, by rw [← hrelation], hchanges, ?_⟩
  rintro text xs rfl
  cases hlate
  cases hwhere
  obtain ⟨e, he, hsome⟩ := exists_of_map hfilter
  exact ⟨e, ws₃, hsome, he⟩

end CounterTable.Sql.Grammar
