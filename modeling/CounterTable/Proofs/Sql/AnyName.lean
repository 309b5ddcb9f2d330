import CounterTable.Proofs.Sql.Commands
import CounterTable.Proofs.Sql.Counters
import CounterTable.Proofs.Sql.Parameters
import CounterTable.Sql.QueryResult

/-!
# The statements of counters with any names

A table may have any name in any quotes, and its column as well. What the statements of its counter
are read as then depends on the names, and some of them are not read. But where the table was
created under its name, the others of the statements are about it: one value is inserted, and it is
replaced if the column that is assigned is that of the table.

* `Statement.exists_clause`: the statement that is alone in a text;
* `Counter.createTable_of_ofText`: the statement that creates the table;
* `Counter.insert_of_ofText`: the one that fills it;
* `Counter.update_of_isPlain`, `Counter.update_of_quoted`: the one that replaces the value;
* `Statement.Replaces`, **`Counter.statements_of_created`**: all of them, after the first.
-/

namespace CounterTable

open CounterTable.Sql CounterTable.Text

namespace Sql.Lexer

variable {a : Bool} {q : Char} {cs rest : List Char} {ts : List Token} {w : String}

theorem Lexes.of_keyword (h : Lexes a (w.toList ++ ' ' :: rest) ts) (word : String)
    (hw : (w, word) ∈ spelling) :
    ∃ us, ts = .keyword word w :: us ∧ Lexes false rest us := by
  obtain ⟨hplain, hword⟩ := ofWord_spelling _ hw
  cases hcs : w.toList with
  | nil =>
    rw [hcs] at hplain
    cases hplain
  | cons c cs =>
    rw [hcs] at hplain
    have hstep := step_bare (.of_isPlain hplain) (Ends.of_blank_or_point (.inl rfl) rest) a
    rw [hcs] at h hword
    rw [hword] at hstep
    obtain ⟨us, rfl, hus⟩ := h.of_token hstep
    exact ⟨us, rfl, hus.of_blank⟩

end Sql.Lexer

namespace Statement

open Grammar

theorem exists_clause {text : String} {s : Statement} (h : ofText text = .ok s) :
    ∃ ts, Lexer.Lexes false text.toList ts ∧ ∀ word w us, ts = .keyword word w :: us →
      ∃ c vs n, (Grammar.nesting Grammar.depthLimit).clause ts = some (c, vs) ∧
        (ofClause c).run 0 = .ok (s, n) := by
  obtain ⟨c, n, hc, hrun⟩ := ofText_eq_ok_iff.mp h
  obtain ⟨ts, rest, hts, hwithin⟩ := exists_of_statements hc
  refine ⟨ts, .of_tokenize hts, ?_⟩
  rintro word w us rfl
  obtain ⟨vs, ws, hskip, hclause⟩ := exists_of_statementsWithin hwithin
  have hmany : many (do if ← symbol? ";" then return some () else return none)
      (.keyword word w :: us) = some ([], .keyword word w :: us) := many_of_none rfl
  cases (skip_of hmany).symm.trans hskip
  exact ⟨c, ws, n, hclause, hrun⟩

theorem ofClause_update (table : List Ident) (c : Ident) (l : Expr) (n m : Nat) :
    ((ofClause (.update (.table table false) [(.column [c], .placeholder "?" n)]
        (some (.equation l (.placeholder "?" m))))).run 0).map Prod.fst =
      (column l).map fun y => .update (renderName table) [(c.render, .param 1)]
        (some ⟨y, .param 2⟩) := by
  simp only [ofClause, List.mapM_cons, List.mapM_nil]
  cases hl : column l <;> simp [assignment, optionalFilter, filter, hl] <;> rfl

end Statement

namespace Counter

/-! ## Tables -/

/-- What a statement that creates a table can be: the name that is shown may be read as another one.
If it is not, it is found again where it is shown. -/
theorem createTable_of_ofText {table column type : String} {s : Statement}
    (h : Statement.ofText s!"create table {table} ( {column} {type} )" = .ok s) :
    ∃ name columns spared, s = .createTable (renderName name) (columns.map Ident.text) spared ∧
      (renderName name = table → ∃ i is ts us, name = i :: is ∧ (∀ j ∈ i :: is, j.Respells) ∧
        Lexer.Lexes false (' ' :: (column.toList ++ ' ' :: (type.toList ++ [' ', ')']))) ts ∧
          Grammar.tableColumns (Grammar.nesting 49) (.symbol "(" :: ts) = some (columns, us)) := by
  have htext : (s!"create table {table} ( {column} {type} )").toList =
      "create".toList ++ ' ' :: ("table".toList ++ ' ' :: (table.toList ++
        ' ' :: '(' :: ' ' :: (column.toList ++ ' ' :: (type.toList ++ [' ', ')'])))) := by
    simp only [String.toList_append, toString, List.append_assoc]
    rfl
  obtain ⟨ts, hts, hclause⟩ := Statement.exists_clause h
  rw [htext] at hts
  obtain ⟨us, rfl, hus⟩ := hts.of_keyword "CREATE" (by decide)
  obtain ⟨vs, rfl, hvs⟩ := hus.of_keyword "TABLE" (by decide)
  obtain ⟨c, rest, n, hc, hrun⟩ := hclause _ _ _ rfl
  have hcreate : Grammar.createTable (Grammar.nesting 49) vs = some (c, rest) := hc
  obtain ⟨spared, ws, name, behind, columns, hspared, hname, rfl, hcolumns⟩ :=
    Grammar.createTable_eq_some hcreate
  cases hrun
  refine ⟨name, columns, spared, rfl, ?_⟩
  rintro rfl
  have hnames := Lexer.names_of_objectName hname
  obtain ⟨i, is, t, ts, rfl, rfl, ht⟩ := hnames.exists_head
  obtain rfl : t :: ts = vs := by
    rcases Grammar.eq_or_eq_cons_of_keywords? hspared with heq | ⟨hmem, x, y, zs, heq⟩
    · exact heq
    · exact absurd heq (hvs.ne_keywords ht (hmem List.mem_cons_self) _ _ _ _ _)
  have hrespell := hnames.respell hvs
  obtain ⟨us, heq, hus⟩ := hvs.of_renderName hrespell
  obtain ⟨xs, rfl, hxs⟩ := hus.of_token (Lexer.step_open _ _)
  rw [heq, Grammar.objectName_continued (by simp)] at hname
  cases hname
  obtain ⟨ys, hys⟩ := hcolumns xs rfl
  exact ⟨i, is, xs, ys, rfl, hrespell, hxs, hys⟩

theorem head_columns_of_quoted {g : Nesting} {q : Char} {cs : List Char} {ts us : List Token}
    {columns : List Ident} (hq : q = '"' ∨ q = '\x60') (hts : Lexer.Lexes false (' ' :: q :: cs) ts)
    (h : Grammar.tableColumns g (.symbol "(" :: ts) = some (columns, us)) :
    ∃ s rest, Lexer.untilQuote q cs = some (s, rest) ∧
      columns.head? = some ⟨String.ofList s, some q⟩ := by
  obtain ⟨s, rest, vs, hs, rfl⟩ := hts.of_blank.exists_untilQuote hq
  exact ⟨s, rest, hs, Grammar.tableColumns_head rfl (fun _ _ h => by cases h) h⟩

theorem not_tableColumns_of_bracket {g : Nesting} {cs : List Char} {ts us : List Token}
    {columns : List Ident} (hts : Lexer.Lexes false (' ' :: '[' :: cs) ts) :
    Grammar.tableColumns g (.symbol "(" :: ts) ≠ some (columns, us) := by
  obtain ⟨vs, rfl, -⟩ := hts.of_blank.of_token (Lexer.step_bracket false cs)
  rw [Grammar.tableColumns_bracket]
  exact nofun

/-! ## Rows -/

variable {i : Ident} {is : List Ident} {s : Statement} {c : Counter}

theorem insert_of_ofText (hi : ∀ j ∈ i :: is, j.Respells) (htable : renderName (i :: is) = c.table)
    (h : Statement.ofText c.seedStatement = .ok s) :
    s = .insert c.table [[.literal c.initial]] := by
  obtain ⟨t, vs, e, hvalue, ht, he, hoperand⟩ := exists_reads_word c.initial
  obtain ⟨ts, hts, hclause⟩ := Statement.exists_clause h
  rw [toList_seedStatement, ← htable] at hts
  obtain ⟨us, rfl, hus⟩ := hts.of_keyword "INSERT" (by decide)
  obtain ⟨us₁, rfl, hus₁⟩ := hus.of_keyword "INTO" (by decide)
  obtain ⟨us₂, rfl, hus₂⟩ := hus₁.of_renderName hi
  obtain ⟨us₃, rfl, hus₃⟩ := hus₂.of_keyword "VALUES" (by decide)
  obtain ⟨us₄, rfl, hus₄⟩ := hus₃.of_token (Lexer.step_open _ _)
  obtain rfl := hus₄.of_blank.eq_of_reads hvalue
  obtain ⟨text, hquery⟩ := Grammar.query_values (Grammar.nesting 48) "values" he
  obtain ⟨clause, rest, n, hc, hrun⟩ := hclause _ _ _ rfl
  have hinsert := Grammar.insert_spelled (g := Grammar.nesting 49) "into" hquery ht hc
  subst hinsert
  have hmap := Statement.ofClause_insert (i :: is) [] e text
  rw [hrun, hoperand] at hmap
  split at hmap
  · cases hmap
  · cases hmap
    rw [htable]

/-! ## Updates -/

theorem update_of_ofText (hi : ∀ j ∈ i :: is, j.Respells) {column : String}
    (h : Statement.ofText (updateStatement (renderName (i :: is)) column) = .ok s) :
    ∃ ts, Lexer.Lexes false (column.toList ++ '=' :: ' ' :: '?' :: ' ' :: ("where".toList ++
        ' ' :: (column.toList ++ ['=', '?']))) ts ∧
      ∀ t us, ts = t :: us → t.ident?.isSome → ∃ changes filter n ws,
        (Statement.ofClause (.update (.table (i :: is) false) changes filter)).run 0 = .ok (s, n) ∧
          Grammar.assignments (Grammar.nesting 49) (t :: us) = some (changes, ws) ∧
            ∀ text xs, ws = .keyword "WHERE" text :: xs →
              ∃ e ys, filter = some e ∧ (Grammar.nesting 49).any false xs = some (e, ys) := by
  obtain ⟨ts, hts, hclause⟩ := Statement.exists_clause h
  rw [toList_updateStatement] at hts
  obtain ⟨us, rfl, hus⟩ := hts.of_keyword "UPDATE" (by decide)
  obtain ⟨us₁, rfl, hus₁⟩ := hus.of_renderName hi
  obtain ⟨us₂, rfl, hus₂⟩ := hus₁.of_keyword "SET" (by decide)
  refine ⟨us₂, hus₂, ?_⟩
  rintro t us rfl ht
  obtain ⟨clause, rest, n, hc, hrun⟩ := hclause _ _ _ rfl
  obtain ⟨changes, filter, ws, rfl, hchanges, hfilter⟩ :=
    Grammar.update_spelled (g := Grammar.nesting 49) ht hc
  exact ⟨changes, filter, n, ws, hrun, hchanges, hfilter⟩

/-- **The statement that replaces the value** of a column that is shown without quotes: the column
that it compares depends on what its name means elsewhere. -/
theorem update_of_isPlain (hi : ∀ j ∈ i :: is, j.Respells) {column : String}
    (hcolumn : Identifier.isPlain column.toList = true)
    (h : Statement.ofText (updateStatement (renderName (i :: is)) column) = .ok s) :
    ∃ y, s = .update (renderName (i :: is)) [(column, .param 1)] (some ⟨y, .param 2⟩) := by
  obtain ⟨ts, hts, hupdate⟩ := update_of_ofText hi h
  have hends : ∀ cs, Lexer.Ends ('=' :: cs) := fun _ => Lexer.Ends.of_mem (by decide)
  have hreads : Lexer.Reads false (column.toList ++ '=' :: ' ' :: '?' :: ' ' :: ("where".toList ++
      ' ' :: (column.toList ++ ['=', '?']))) (.ofWord column.toList :: .symbol "=" ::
        .placeholder "?" :: .keyword "WHERE" "where" :: .ofWord column.toList :: .symbol "=" ::
          [.placeholder "?"]) := by
    refine .word hcolumn (hends _) (.symbol (by decide) (by simp) (.blank (.placeholder (by simp)
      (.blank ?_))))
    refine .keyword_blank (by decide) (.word hcolumn (hends _) ?_)
    exact .equals_placeholder (by simp) .nil
  have hident := Lexer.ident?_ofWord column.toList
  rw [String.ofList_toList] at hident
  obtain ⟨changes, filter, n, ws, hrun, hchanges, hfilter⟩ :=
    hupdate _ _ (hts.eq_of_reads hreads) (by rw [hident]; rfl)
  rw [Grammar.assignments_of_ident (Grammar.readsValues_nesting 47) (.where _ _) rfl hident]
    at hchanges
  cases hchanges
  obtain ⟨e, ys, rfl, he⟩ := hfilter _ _ rfl
  obtain ⟨l, rfl⟩ := Grammar.expr_word_equals 47 _ he
  have hclause := congrArg (Except.map Prod.fst) hrun
  rw [Statement.ofClause_update] at hclause
  cases hl : Statement.column l with
  | error err =>
    rw [hl] at hclause
    cases hclause
  | ok y =>
    rw [hl] at hclause
    cases hclause
    exact ⟨y, rfl⟩

/-- **The statement that replaces the value** of a column that is shown between quotes: the quotes
are kept in the name of the column that it assigns. -/
theorem update_of_quoted (hi : ∀ j ∈ i :: is, j.Respells) {column : String} {q : Char}
    {cs : List Char} (hcolumn : column.toList = q :: cs) (hq : q = '"' ∨ q = '\x60')
    (h : Statement.ofText (updateStatement (renderName (i :: is)) column) = .ok s) :
    ∃ behind w rest o others filter, Lexer.untilQuote q (cs ++ '=' :: behind) = some (w, rest) ∧
      s = .update (renderName (i :: is)) ((betweenQuotes q (String.ofList w), o) :: others)
        filter := by
  obtain ⟨ts, hts, hupdate⟩ := update_of_ofText hi h
  rw [hcolumn] at hts
  obtain ⟨w, rest, us, hw, rfl⟩ := hts.exists_untilQuote hq
  obtain ⟨changes, filter, n, ws, hrun, hchanges, -⟩ := hupdate _ _ rfl rfl
  obtain ⟨name, e, others, vs, rfl, hname⟩ :=
    Grammar.assignments_eq_cons (fun h => by cases h) hchanges
  obtain ⟨j, js, t, ts', rfl, heq, ht⟩ := (Lexer.names_of_objectName hname).exists_head
  cases heq
  cases ht
  obtain ⟨assigned, k, hassigned, hrun⟩ := Statement.exists_of_run_bind hrun
  obtain ⟨condition, k', -, hrun⟩ := Statement.exists_of_run_bind hrun
  cases hrun
  rw [List.mapM_cons] at hassigned
  obtain ⟨first, m, hfirst, hassigned⟩ := Statement.exists_of_run_bind hassigned
  obtain ⟨others', m', -, hassigned⟩ := Statement.exists_of_run_bind hassigned
  cases hassigned
  unfold Statement.assignment at hfirst
  obtain ⟨x, m₁, hx, hfirst⟩ := Statement.exists_of_run_bind hfirst
  obtain ⟨o, m₂, -, hfirst⟩ := Statement.exists_of_run_bind hfirst
  cases hfirst
  cases js with
  | cons j js => cases hx
  | nil =>
    cases hx
    exact ⟨_, w, rest, o, others', condition, hw, rfl⟩

/-! ## A table and what is done to it -/

end Counter

theorem Sql.length_le_escapeQuote (q : Char) (b : Bool) (cs : List Char) :
    cs.length ≤ (escapeQuote q b cs).length := by
  induction b, cs using escapeQuote.induct q with
  | case1 => exact Nat.le_refl _
  | case2 b c hc => simp [escapeQuote, hc]
  | case3 b c hc =>
    rw [escapeQuote, if_neg hc]
  | case4 d rest ih => simpa [escapeQuote] using ih
  | case5 b rest hb ih => simpa [escapeQuote, hb] using ih
  | case6 b d rest hb hd ih =>
    simp only [escapeQuote, hb, hd, List.length_cons] at ih ⊢
    simp
    omega
  | case7 b c d rest hc ih => simpa [escapeQuote, hc] using ih

theorem Sql.sameName_betweenQuotes (q : Char) (w : String) :
    sameName w (betweenQuotes q w) = false := by
  have hlength := length_le_escapeQuote q false w.toList
  simp only [sameName, beq_eq_false_iff_ne, lower, betweenQuotes, String.toList_ofList]
  intro heq
  have h := congrArg List.length heq
  simp only [List.length_map, List.length_cons, List.length_append, List.length_nil] at h
  omega

/-- The statement replaces the value of the row, if the column that it assigns is that of the
table. -/
def Statement.Replaces (table column : String) (s : Statement) : Prop :=
  ∃ x value others filter, s = .update table ((x, value) :: others) filter ∧
    (sameName column x = true →
      value = .param 1 ∧ others = [] ∧ ∃ y, filter = some ⟨y, .param 2⟩)

namespace Counter

/-- **The statements of a counter whose table was created**: where its name is that of the created
table, one value is inserted into it, and its column is assigned if any. -/
theorem statements_of_created {d : Dialect} (hd : d ∈ Dialect.all) {column : Identifier}
    (hplain : column.quoted = false → Identifier.isPlain column.text.toList = true)
    {c : Counter} (hcolumn : c.column = column.render d)
    (hupdate : c.updateText = updateStatement c.table c.column) {s : Statement}
    (h : Statement.ofText s!"{d.createTable} {c.table} ( {c.column} {d.typeName .long} )" = .ok s) :
    ∃ name columns spared, s = .createTable name columns spared ∧
      (name = c.table →
        (∀ s', Statement.ofText c.seedStatement = .ok s' →
          s' = .insert c.table [[.literal c.initial]]) ∧
        ∀ x, columns = [x] → ∀ s', Statement.ofText c.updateText = .ok s' →
          s'.Replaces c.table x) := by
  obtain ⟨name, columns, spared, rfl, hname⟩ := createTable_of_ofText h
  refine ⟨_, _, _, rfl, fun htable => ?_⟩
  obtain ⟨i, is, ts, us, rfl, hi, hts, hcolumns⟩ := hname htable
  refine ⟨fun s' hs' => insert_of_ofText hi htable hs', fun x hx s' hs' => ?_⟩
  rw [hupdate, ← htable] at hs'
  rw [← htable]
  cases hquoted : column.quoted with
  | false =>
    have htext : c.column = column.text := by
      rw [hcolumn, Identifier.render, hquoted]
      rfl
    obtain ⟨y, rfl⟩ := update_of_isPlain hi (htext ▸ hplain hquoted) hs'
    exact ⟨_, _, _, _, rfl, fun _ => ⟨rfl, rfl, y, rfl⟩⟩
  | true =>
    have htext : c.column.toList = d.openQuote :: (column.text.toList ++ [d.closeQuote]) := by
      rw [hcolumn, Identifier.render, hquoted]
      simp [toString]
    rw [htext] at hts
    by_cases hbracket : d.openQuote = '['
    · rw [hbracket] at hts
      exact absurd hcolumns (not_tableColumns_of_bracket hts)
    · have hquotes : d.QuotesNames := by
        simp only [Dialect.all, List.mem_cons, List.not_mem_nil, or_false] at hd
        refine Dialect.quotesNames_of_mem ?_
        rcases hd with rfl | rfl | rfl | rfl
        · exact .head _
        · exact .tail _ (.head _)
        · exact .tail _ (.tail _ (.head _))
        · exact absurd rfl hbracket
      obtain ⟨hclose, hq⟩ := hquotes
      rw [hclose] at hts htext
      obtain ⟨w, rest, hw, hhead⟩ := head_columns_of_quoted hq hts hcolumns
      obtain ⟨behind, w', rest', o, others, filter, hw', rfl⟩ := update_of_quoted hi htext hq hs'
      -- The same text stands between the quotes, whatever follows them.
      have hnot : d.openQuote ∉ ' ' :: ((d.typeName .long).toList ++ [' ', ')']) := by
        rcases (Dialect.usual_of_mem hd).long with hlong | hlong <;> rw [hlong] <;>
          rcases hq with hq | hq <;> rw [hq] <;> decide
      have hequals : ('=' :: behind).head? ≠ some d.openQuote := by
        rcases hq with hq | hq <;> rw [hq] <;> simp
      obtain ⟨rest'', hw''⟩ := Lexer.exists_untilQuote_append hw hnot hequals
      cases hw''.symm.trans hw'
      have hx' : x = String.ofList w := by
        cases columns with
        | nil => cases hhead
        | cons j js =>
          cases hhead
          exact (List.cons.inj hx).1.symm
      refine ⟨_, _, _, _, rfl, fun hsame => ?_⟩
      rw [hx', sameName_betweenQuotes] at hsame
      cases hsame

end Counter

end CounterTable
