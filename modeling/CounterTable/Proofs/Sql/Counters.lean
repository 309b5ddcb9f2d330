import CounterTable.Allocation.Counter
import CounterTable.Proofs.Sql.Clauses
import CounterTable.Proofs.Sql.Names
import CounterTable.Proofs.Text.Numerals
import CounterTable.Sql.Statement

/-!
# The statements of counters

The texts that a counter is made of are read as the statements they are meant to be, if its table
and its column have legible names, whatever the values are. Plain names are legible in every dialect.

* `Dialect.Usual`, `Dialect.Drops`: how dialects write the statements;
* `Counter.ofText_select_of_reads`, `Counter.ofText_updateStatement`,
  `Counter.ofText_createStatement`: the statements over legible names;
* **`Counter.ofText_select`**, **`Counter.ofText_update`**: the statements of an allocation;
* **`Counter.ofText_create`**, **`Counter.ofText_seed`**, **`Counter.ofText_drop`**: the statements
  that create the table, fill it and drop it;
* **`Counter.statements_understood`**: all of them together, with quoted names.
-/

namespace CounterTable

open CounterTable.Sql CounterTable.Text

/-! ## Words -/

namespace Sql.Lexer

variable {a : Bool} {rest : List Char} {ts : List Token} {w : String}

/-- The keywords in the statements of counters, as they are written and as they are known. -/
def spelling : List (String × String) :=
  [("select", "SELECT"), ("as", "AS"), ("from", "FROM"), ("for", "FOR"), ("update", "UPDATE"),
    ("with", "WITH"), ("set", "SET"), ("where", "WHERE"), ("insert", "INSERT"), ("into", "INTO"),
    ("values", "VALUES"), ("create", "CREATE"), ("table", "TABLE"), ("bigint", "BIGINT"),
    ("int8", "INT8"), ("drop", "DROP"), ("if", "IF"), ("exists", "EXISTS"), ("cascade", "CASCADE")]

theorem ofWord_spelling : ∀ p ∈ spelling,
    Identifier.isPlain p.1.toList = true ∧ Token.ofWord p.1.toList = .keyword p.2 p.1 := by
  decide +kernel

theorem Reads.keyword {word : String} (hw : (w, word) ∈ spelling) (hr : Ends rest)
    (h : Reads true rest ts) : Reads a (w.toList ++ rest) (.keyword word w :: ts) := by
  obtain ⟨hplain, hword⟩ := ofWord_spelling _ hw
  rw [← hword]
  exact .word hplain hr (hword ▸ h)

theorem Reads.keyword_blank {word : String} (hw : (w, word) ∈ spelling) (h : Reads false rest ts) :
    Reads a (w.toList ++ ' ' :: rest) (.keyword word w :: ts) :=
  .keyword hw (Ends.of_mem (by decide)) (.blank h)

theorem Reads.equals_placeholder (hr : ∀ d ∈ rest.head?, d = ' ') (h : Reads false rest ts) :
    Reads a ('=' :: '?' :: rest) (.symbol "=" :: .placeholder "?" :: ts) :=
  .symbol (by decide) (by simp) (.placeholder hr h)

end Sql.Lexer

/-! ## Dialects -/

namespace Dialect

/-- How dialects write the statements of counters: the row that is read is locked by a clause, by a
hint, or not at all, and a column of eight bytes has one of two types. -/
structure Usual (d : Dialect) : Prop where
  locking : d.lockHint .write = "" ∧ (d.forUpdate = "" ∨ d.forUpdate = " for update") ∨
    d.lockHint .write = " with (updlock, rowlock)" ∧ d.forUpdate = ""
  long : d.typeName .long = "bigint" ∨ d.typeName .long = "int8"

/-- How dialects drop tables: a table that is missing may be passed over, and what depends on the
table may be dropped as well. -/
def Drops (d : Dialect) : Prop :=
  d.dropTable ∈
    [("drop table ", ""), ("drop table if exists ", ""), ("drop table if exists ", " cascade")]

/-- The dialect without its locks. -/
def lockless (d : Dialect) : Dialect := { d with forUpdate := "", lockHint := fun _ => "" }

variable {d : Dialect}

theorem usual_of_mem (h : d ∈ all) : d.Usual := by
  simp only [all, List.mem_cons, List.not_mem_nil, or_false] at h
  rcases h with rfl | rfl | rfl | rfl
  · exact ⟨.inl ⟨rfl, .inr rfl⟩, .inl rfl⟩
  · exact ⟨.inl ⟨rfl, .inr rfl⟩, .inr rfl⟩
  · exact ⟨.inl ⟨rfl, .inr rfl⟩, .inl rfl⟩
  · exact ⟨.inr ⟨rfl, rfl⟩, .inl rfl⟩

theorem drops_of_mem (h : d ∈ all) : d.Drops := by
  simp only [all, List.mem_cons, List.not_mem_nil, or_false] at h
  rcases h with rfl | rfl | rfl | rfl <;> simp [Drops, generic, postgresql, mysql, sqlserver]

theorem Drops.reads (h : d.Drops) : ∃ start end_ ifExists, Grammar.Sparing start ifExists ∧
    Grammar.ClosesDrop end_ ∧ Lexer.Ends d.dropTable.2.toList ∧
      Lexer.Reads true d.dropTable.2.toList end_ ∧
        ∀ {rest ts}, Lexer.Reads false rest ts → Lexer.Reads false (d.dropTable.1.toList ++ rest)
          (.keyword "DROP" "drop" :: .keyword "TABLE" "table" :: (start ++ ts)) := by
  have hplain : ∀ {rest ts}, Lexer.Reads false rest ts →
      Lexer.Reads false ("drop table ".toList ++ rest)
        (.keyword "DROP" "drop" :: .keyword "TABLE" "table" :: ts) := fun {rest ts} h => by
    have htext : "drop table ".toList ++ rest =
        "drop".toList ++ ' ' :: ("table".toList ++ ' ' :: rest) := by simp
    rw [htext]
    exact .keyword_blank (by decide) (.keyword_blank (by decide) h)
  have hsparing : ∀ {rest ts}, Lexer.Reads false rest ts →
      Lexer.Reads false ("drop table if exists ".toList ++ rest)
        (.keyword "DROP" "drop" :: .keyword "TABLE" "table" ::
          ([.keyword "IF" "if", .keyword "EXISTS" "exists"] ++ ts)) := fun {rest ts} h => by
    have htext : "drop table if exists ".toList ++ rest =
        "drop table ".toList ++ ("if".toList ++ ' ' :: ("exists".toList ++ ' ' :: rest)) := by simp
    rw [htext]
    exact hplain (.keyword_blank (by decide) (.keyword_blank (by decide) h))
  simp only [Drops, List.mem_cons, List.not_mem_nil, or_false] at h
  rcases h with h | h | h <;> rw [h]
  · exact ⟨_, _, _, .never, .nil, trivial, .nil, hplain⟩
  · exact ⟨_, _, _, .missing, .nil, trivial, .nil, hsparing⟩
  · have htext : " cascade".toList = ' ' :: ("cascade".toList ++ []) := by decide +kernel
    have hends : Lexer.Ends (' ' :: ("cascade".toList ++ [])) := Lexer.Ends.of_mem (by decide)
    refine ⟨_, _, _, .missing, .cascade, htext ▸ hends, ?_, hsparing⟩
    dsimp only
    rw [htext]
    exact .blank (.keyword (by decide) trivial .nil)

theorem Usual.lockless (h : d.Usual) : d.lockless.Usual := ⟨.inl ⟨rfl, .inl rfl⟩, h.long⟩

theorem Usual.reads_lock (h : d.Usual) : ∃ end_ hinted locks, Grammar.Locking end_ hinted locks ∧
    Lexer.Ends (d.lockHint .write ++ d.forUpdate).toList ∧
      Lexer.Reads true (d.lockHint .write ++ d.forUpdate).toList end_ ∧
        ((locks || hinted) = false → d.lockHint .write ++ d.forUpdate = "") := by
  have hnil : Lexer.Ends [] := trivial
  rcases h.locking with ⟨hhint, hfor | hfor⟩ | ⟨hhint, hfor⟩
  · rw [hhint, hfor]
    exact ⟨_, _, _, .none, trivial, .nil, fun _ => rfl⟩
  · have htext : ("" ++ " for update").toList = ' ' :: ("for".toList ++ ' ' ::
        ("update".toList ++ [])) := by decide +kernel
    rw [hhint, hfor, htext]
    exact ⟨_, _, _, .clause, Lexer.Ends.of_mem (by decide),
      .blank (.keyword_blank (by decide) (.keyword (by decide) hnil .nil)), nofun⟩
  · have htext : (" with (updlock, rowlock)" ++ "").toList = ' ' :: ("with".toList ++ ' ' ::
        '(' :: ("updlock".toList ++ ',' :: ' ' :: ("rowlock".toList ++ [')']))) := by
      decide +kernel
    have hupdlock : IsName "updlock" := ⟨by decide, by decide +kernel⟩
    have hrowlock : IsName "rowlock" := ⟨by decide, by decide +kernel⟩
    have hclose : Lexer.Reads true [')'] [.symbol ")"] := .symbol (by decide) (by simp) .nil
    have hcomma : Lexer.Reads true (',' :: ' ' :: ("rowlock".toList ++ [')']))
        (.symbol "," :: .name "rowlock" :: [.symbol ")"]) :=
      .symbol (by decide) (by simp)
        (.blank (.name hrowlock (Lexer.Ends.of_mem (by decide)) hclose))
    rw [hhint, hfor, htext]
    refine ⟨_, _, _, .hint, Lexer.Ends.of_mem (by decide), ?_, nofun⟩
    refine .blank (.keyword_blank (by decide) (.symbol (by decide) (by simp) ?_))
    exact .name hupdlock (Lexer.Ends.of_mem (by decide)) hcomma

end Dialect

/-! ## Statements -/

namespace Statement

theorem ofText_eq {text word spelled : String} {ts : List Token} {c : Clause}
    (hr : Lexer.Reads false text.toList (.keyword word spelled :: ts))
    (hc : (Grammar.nesting Grammar.depthLimit).clause (.keyword word spelled :: ts) =
      some (c, [])) : ofText text = ((ofClause c).run 0).map Prod.fst := by
  have hstatements : Grammar.statements text.toList = some [c] := by
    rw [Grammar.statements, hr.tokenize]
    exact congrArg (Option.bind · _) (Grammar.statementsWithin_single hc _)
  rw [ofText, hstatements]

theorem ofClause_insert (table columns : List Ident) (e : Expr) (text : String) :
    ((ofClause (.insert table columns (some ⟨.values [[e]], false, text⟩))).run 0).map Prod.fst =
      ((operand e).run 0).map fun r => .insert (renderName table) [[r.1]] := by
  cases h : (operand e).run 0 with
  | error e =>
    simp only [ofClause, insertion, List.mapM_cons, List.mapM_nil, bind_pure_comp, StateT.run_map,
      map_pure, Functor.map_map, h]
    rfl
  | ok r =>
    simp only [ofClause, insertion, List.mapM_cons, List.mapM_nil, bind_pure_comp, StateT.run_map,
      map_pure, Functor.map_map, h]
    rfl

end Statement

namespace Counter

variable {d : Dialect} {name : QualifiedName} {column : Identifier}

theorem toList_selectStatement (d : Dialect) (table column : String) :
    (selectStatement d table column).toList =
      "select".toList ++ ' ' :: (column.toList ++ ' ' :: ("as".toList ++ ' ' ::
        ("id_val".toList ++ ' ' :: ("from".toList ++ ' ' ::
          (table.toList ++ (d.lockHint .write ++ d.forUpdate).toList))))) := by
  unfold selectStatement Dialect.withLockHint
  simp only [String.toList_append, toString, List.append_assoc]
  rfl

theorem toList_updateStatement (table column : String) :
    (updateStatement table column).toList =
      "update".toList ++ ' ' :: (table.toList ++ ' ' :: ("set".toList ++ ' ' :: (column.toList ++
        '=' :: ' ' :: '?' :: ' ' :: ("where".toList ++
          ' ' :: (column.toList ++ ['=', '?']))))) := by
  unfold updateStatement
  simp only [String.toList_append, toString, List.append_assoc]
  rfl

theorem toList_insertText (table value : String) :
    (s!"insert into {table} values ( {value} )").toList =
      "insert".toList ++ ' ' :: ("into".toList ++ ' ' :: (table.toList ++ ' ' ::
        ("values".toList ++ ' ' :: '(' :: ' ' :: (value.toList ++ [' ', ')'])))) := by
  simp only [String.toList_append, toString, List.append_assoc]
  rfl

theorem toList_seedStatement (c : Counter) : c.seedStatement.toList =
    "insert".toList ++ ' ' :: ("into".toList ++ ' ' :: (c.table.toList ++ ' ' ::
      ("values".toList ++ ' ' :: '(' :: ' ' ::
        ((renderInt c.initial.toInt).toList ++ [' ', ')'])))) :=
  toList_insertText c.table (renderInt c.initial.toInt)

theorem ofText_select_of_reads {end_ : List Token} {hinted locks : Bool}
    (hlocking : Grammar.Locking end_ hinted locks)
    (hends : Lexer.Ends (d.lockHint .write ++ d.forUpdate).toList)
    (hlock : Lexer.Reads true (d.lockHint .write ++ d.forUpdate).toList end_) {e : Dialect}
    (hname : name.Legible e) (hcolumn : column.Legible e) :
    Statement.ofText (selectStatement d (name.render e) (column.render e)) =
      .ok (.select (name.render e) [.column column.text (some "id_val")] none
        (locks || hinted)) := by
  obtain ⟨i, is, hparts, htable⟩ := hname.idents
  have hid : IsName "id_val" := ⟨by decide, by decide +kernel⟩
  have hreads : Lexer.Reads false (selectStatement d (name.render e) (column.render e)).toList
      (Grammar.selecting i (column.ident e) is end_) := by
    rw [toList_selectStatement, ← hcolumn.render_ident, ← htable]
    refine .keyword_blank (by decide) (.ident_blank hcolumn.ident ?_)
    refine .keyword_blank (by decide) (.name hid (Lexer.Ends.of_mem (by decide)) (.blank ?_))
    exact .keyword_blank (by decide) (.qualified hparts hends hlock)
  obtain ⟨text, hclause⟩ :=
    Grammar.clause_select hlocking 46 i hcolumn.ident.isFrom_eq_false is
  refine (Statement.ofText_eq hreads hclause).trans ?_
  rw [← htable]
  rfl

theorem ofText_select_locked (hd : d.Usual) (hl : d.lockHint .write ++ d.forUpdate ≠ "")
    {e : Dialect} (hname : name.Legible e) (hcolumn : column.Legible e) :
    Statement.ofText (selectStatement d (name.render e) (column.render e)) =
      .ok (.select (name.render e) [.column column.text (some "id_val")] none true) := by
  obtain ⟨end_, hinted, locks, hlocking, hends, hlock, hnone⟩ := hd.reads_lock
  have htrue : (locks || hinted) = true := by
    cases h : locks || hinted with
    | true => rfl
    | false => exact absurd (hnone h) hl
  rw [ofText_select_of_reads hlocking hends hlock hname hcolumn, htrue]

/-- **The statement that reads the row.** -/
theorem ofText_select (hd : d.Usual) (hname : name.Plain) (hcolumn : column.Plain) (e : Dialect) :
    ∃ forUpdate, Statement.ofText (selectStatement d (name.render e) (column.render e)) =
      .ok (.select (name.render e) [.column column.text (some "id_val")] none forUpdate) := by
  obtain ⟨end_, hinted, locks, hlocking, hends, hlock, -⟩ := hd.reads_lock
  exact ⟨_, ofText_select_of_reads hlocking hends hlock (hname.legible e) (hcolumn.legible e)⟩

/-- **The statement that reads the row and locks it**, in a dialect that has locks. -/
theorem ofText_select_locking (hd : d.Usual) (hl : d.lockHint .write ++ d.forUpdate ≠ "")
    (hname : name.Plain) (hcolumn : column.Plain) (e : Dialect) :
    Statement.ofText (selectStatement d (name.render e) (column.render e)) =
      .ok (.select (name.render e) [.column column.text (some "id_val")] none true) :=
  ofText_select_locked hd hl (hname.legible e) (hcolumn.legible e)

/-- The statement that replaces the value that was read. The column that it assigns keeps the quotes
that it is written in, the column that it compares does not. -/
theorem ofText_updateStatement (hname : name.Legible d) (hcolumn : column.Legible d) :
    Statement.ofText (updateStatement (name.render d) (column.render d)) =
      .ok (.update (name.render d) [(column.render d, .param 1)]
        (some ⟨column.text, .param 2⟩)) := by
  obtain ⟨i, is, hparts, htable⟩ := hname.idents
  have hreads : Lexer.Reads false (updateStatement (name.render d) (column.render d)).toList
      (.keyword "UPDATE" "update" :: Grammar.token i ::
        Grammar.qualified is (Grammar.assigning (column.ident d) "set" "where")) := by
    rw [toList_updateStatement, ← hcolumn.render_ident, ← htable]
    have hends : ∀ cs, Lexer.Ends ('=' :: cs) := fun _ => Lexer.Ends.of_mem (by decide)
    refine .keyword_blank (by decide) ?_
    refine .qualified hparts (Lexer.Ends.of_mem (by decide)) (.blank ?_)
    refine .keyword_blank (by decide) (.ident hcolumn.ident (hends _) ?_)
    refine .symbol (by decide) (by simp) (.blank (.placeholder (by simp) (.blank ?_)))
    refine .keyword_blank (by decide) (.ident hcolumn.ident (hends _) ?_)
    exact .equals_placeholder (by simp) .nil
  refine (Statement.ofText_eq hreads (Grammar.clause_update 46 i (column.ident d) is)).trans ?_
  rw [← htable, ← hcolumn.render_ident]
  rfl

/-- **The statement that replaces the value that was read.** -/
theorem ofText_update (hname : name.Plain) (hcolumn : column.Plain) (d : Dialect) :
    Statement.ofText (updateStatement (name.render d) (column.render d)) =
      .ok (.update (name.render d) [(column.text, .param 1)] (some ⟨column.text, .param 2⟩)) := by
  rw [ofText_updateStatement (hname.legible d) (hcolumn.legible d), hcolumn.render d]

theorem ofText_createStatement (hd : d.Usual) {e : Dialect} (hname : name.Legible e)
    (hcolumn : column.Legible e) :
    Statement.ofText s!"{d.createTable} {name.render e} ( {column.render e} {d.typeName .long} )" =
      .ok (.createTable (name.render e) [column.text] false) := by
  obtain ⟨i, is, hparts, htable⟩ := hname.idents
  obtain ⟨word, hlong, hword⟩ : ∃ word, (d.typeName .long, word) ∈ Lexer.spelling ∧
      word ∈ ["BIGINT", "INT8"] := by
    rcases hd.long with h | h
    · rw [h]
      exact ⟨"BIGINT", by decide, by decide⟩
    · rw [h]
      exact ⟨"INT8", by decide, by decide⟩
  have htext :
      (s!"{d.createTable} {name.render e} ( {column.render e} {d.typeName .long} )").toList =
      "create".toList ++ ' ' :: ("table".toList ++ ' ' :: ((renderName (i :: is)).toList ++
        ' ' :: '(' :: ' ' :: ((column.ident e).render.toList ++ ' ' ::
          ((d.typeName .long).toList ++ ' ' :: [')'])))) := by
    rw [hcolumn.render_ident, htable]
    simp only [Dialect.createTable, String.toList_append, toString, List.append_assoc]
    rfl
  have hreads : Lexer.Reads false
      (s!"{d.createTable} {name.render e} ( {column.render e} {d.typeName .long} )").toList
      (.keyword "CREATE" "create" :: .keyword "TABLE" "table" :: Grammar.token i ::
        Grammar.qualified is (Grammar.defining (column.ident e) word (d.typeName .long))) := by
    rw [htext]
    refine .keyword_blank (by decide) (.keyword_blank (by decide) ?_)
    refine .qualified hparts (Lexer.Ends.of_mem (by decide)) (.blank ?_)
    refine .symbol (by decide) (by simp) (.blank (.ident_blank hcolumn.ident ?_))
    exact .keyword_blank hlong (.symbol (by decide) (by simp) .nil)
  refine (Statement.ofText_eq hreads
    (Grammar.clause_create hword 46 i (column.ident e) (d.typeName .long) is)).trans ?_
  rw [← htable]
  rfl

/-- **The statement that creates the table**, if its names are plain. -/
theorem ofText_create (hd : d.Usual) (hname : name.Plain) (hcolumn : column.Plain)
    (e : Dialect) :
    Statement.ofText s!"{d.createTable} {name.render e} ( {column.render e} {d.typeName .long} )" =
      .ok (.createTable (name.render e) [column.text] false) :=
  ofText_createStatement hd (hname.legible e) (hcolumn.legible e)

/-- **The statement that drops the table.** -/
theorem ofText_drop (hd : d.Drops) {e : Dialect} (hname : name.Legible e) :
    ∃ ifExists, Statement.ofText (d.dropTableText (name.render e)) =
      .ok (.dropTable (name.render e) ifExists) := by
  obtain ⟨i, is, hparts, htable⟩ := hname.idents
  obtain ⟨start, end_, ifExists, hstart, hend, hends, htail, hhead⟩ := hd.reads
  have htext : (d.dropTableText (name.render e)).toList =
      d.dropTable.1.toList ++ ((renderName (i :: is)).toList ++ d.dropTable.2.toList) := by
    rw [htable]
    simp only [Dialect.dropTableText, String.toList_append, List.append_assoc]
  have hreads : Lexer.Reads false (d.dropTableText (name.render e)).toList
      (.keyword "DROP" "drop" :: .keyword "TABLE" "table" ::
        (start ++ Grammar.token i :: Grammar.qualified is end_)) := by
    rw [htext]
    exact hhead (.qualified hparts hends htail)
  refine ⟨ifExists, ?_⟩
  refine (Statement.ofText_eq hreads (Grammar.clause_drop hstart hend 46 i is)).trans ?_
  rw [← htable]
  rfl

theorem ofText_insert {ts : List Token} {e : Expr} (hname : name.Legible d) {value : String}
    (hvalue : Lexer.Reads false (value.toList ++ [' ', ')']) ts)
    (he : (Grammar.nesting 48).expr false 0 ts = some (e, [.symbol ")"])) :
    Statement.ofText s!"insert into {name.render d} values ( {value} )" =
      ((Statement.operand e).run 0).map fun r => .insert (name.render d) [[r.1]] := by
  obtain ⟨i, is, hparts, htable⟩ := hname.idents
  have hreads : Lexer.Reads false (s!"insert into {name.render d} values ( {value} )").toList
      (.keyword "INSERT" "insert" :: .keyword "INTO" "into" :: Grammar.token i ::
        Grammar.qualified is (.keyword "VALUES" "values" :: .symbol "(" :: ts)) := by
    rw [toList_insertText, ← htable]
    refine .keyword_blank (by decide) (.keyword_blank (by decide) ?_)
    refine .qualified hparts (Lexer.Ends.of_mem (by decide)) (.blank ?_)
    exact .keyword_blank (by decide) (.symbol (by decide) (by simp) (.blank hvalue))
  obtain ⟨text, hclause⟩ := Grammar.clause_insert 46 i is he
  rw [Statement.ofText_eq hreads hclause, Statement.ofClause_insert, htable]

theorem word?_neg_eq_none_iff (w : Int64) : word? (-w.toInt) = none ↔ w = Int64.minValue := by
  have hleast : Int64.minValue.toInt = -2 ^ 63 := rfl
  have hgreatest : Int64.maxValue.toInt = 2 ^ 63 - 1 := rfl
  have hmin := Int64.le_toInt w
  have hmax := Int64.toInt_le w
  rw [word?, ← Int64.toInt_inj]
  split
  · next h => exact iff_of_false (Option.some_ne_none _) (by omega)
  · next h => exact iff_of_true rfl (by omega)

/-- A word between parentheses is read as an operand, unless its digits spell no word: those of the
least word are read before its sign. -/
theorem exists_reads_word (w : Int64) : ∃ t ts e,
    Lexer.Reads false ((renderInt w.toInt).toList ++ [' ', ')']) (t :: ts) ∧ t.ident? = none ∧
      (Grammar.nesting 48).expr false 0 (t :: ts) = some (e, [.symbol ")"]) ∧
        (Statement.operand e).run 0 =
          if w = Int64.minValue then
            .error (.parse s!"not an integer literal: {renderInt (-w.toInt)}")
          else .ok (.literal w, 0) := by
  have hvalues := Grammar.readsValues_nesting 46
  have hclose : Lexer.Reads false [' ', ')'] [.symbol ")"] :=
    .blank (.symbol (by decide) (by simp) .nil)
  by_cases hn : 0 ≤ w.toInt
  · have hreads := Lexer.Reads.number (a := false) Nat.toDigits_ne_nil
      (fun d hd => isDigit_of_mem_toDigits (n := w.toInt.toNat) hd) hclose
    rw [← toList_renderInt_of_nonneg hn] at hreads
    have hne : w ≠ Int64.minValue := fun h => by
      rw [h] at hn
      exact absurd hn (by decide)
    refine ⟨_, _, _, hreads, rfl, hvalues.number _ (.close []), ?_⟩
    rw [if_neg hne]
    simp only [Statement.operand, String.toList_ofList, readWord?_renderInt w]
    rfl
  · have hdigits := toList_renderInt_of_neg (n := w.toInt) (by omega)
    cases hds : Nat.toDigits 10 (-w.toInt).toNat with
    | nil => exact absurd hds Nat.toDigits_ne_nil
    | cons e ds =>
      have hall : ∀ d ∈ e :: ds, d.isDigit = true := fun d hd => isDigit_of_mem_toDigits (hds ▸ hd)
      have hreads := Lexer.Reads.minus (a := false) (hall e List.mem_cons_self)
        (.number (List.cons_ne_nil e ds) hall hclose)
      have htext : (renderInt w.toInt).toList ++ [' ', ')'] = '-' :: e :: (ds ++ [' ', ')']) := by
        rw [hdigits, hds]
        rfl
      refine ⟨_, _, _, htext ▸ hreads, rfl, hvalues.negated _ (.close []), ?_⟩
      -- The digits alone spell the value with its sign changed, unless they spell no word.
      have hmagnitude : readWord? (e :: ds) = word? (-w.toInt) := by
        rw [← hds, readWord?, readInt?_toDigits, Option.bind_some, Int.toNat_of_nonneg (by omega)]
      cases hw : word? (-w.toInt) with
      | none =>
        have hwritten : renderInt (-w.toInt) = String.ofList (e :: ds) := by
          rw [← hds, ← toList_renderInt_of_nonneg (by omega), String.ofList_toList]
        rw [if_pos ((word?_neg_eq_none_iff _).mp hw), hwritten]
        simp only [Statement.operand, String.toList_ofList, hmagnitude, hw]
        rfl
      | some v =>
        have hnegate : Statement.negate (.literal v) = .ok (.literal w) := by
          rw [Statement.negate, toInt_word hw, Int.neg_neg, word?_toInt]
        have hne : w ≠ Int64.minValue := fun h => by
          rw [(word?_neg_eq_none_iff _).mpr h] at hw
          cases hw
        rw [if_neg hne]
        simp only [Statement.operand, String.toList_ofList, hmagnitude, hw]
        change (Statement.negate (.literal v)).bind _ = _
        rw [hnegate]
        rfl

theorem ofText_seedStatement {c : Counter} (hname : name.Plain) (htable : c.table = name.render d) :
    Statement.ofText c.seedStatement =
      if c.initial = Int64.minValue then
        .error (.parse s!"not an integer literal: {renderInt (-c.initial.toInt)}")
      else .ok (.insert c.table [[.literal c.initial]]) := by
  have hseed : c.seedStatement =
      s!"insert into {name.render d} values ( {renderInt c.initial.toInt} )" :=
    congrArg (fun table => s!"insert into {table} values ( {renderInt c.initial.toInt} )") htable
  obtain ⟨t, ts, e, hreads, -, he, hoperand⟩ := exists_reads_word c.initial
  rw [hseed, htable, ofText_insert (hname.legible d) hreads he, hoperand]
  split <;> rfl

/-- **The statement that fills the table**, if it is understood: the least word is not. -/
theorem ofText_seed {c : Counter} (hname : name.Plain) (htable : c.table = name.render d)
    {s : Statement} (h : Statement.ofText c.seedStatement = .ok s) :
    s = .insert c.table [[.literal c.initial]] := by
  rw [ofText_seedStatement hname htable] at h
  split at h
  · cases h
  · exact (Except.ok.inj h).symm

/-- **The statement that fills the table** is understood, for every value but the least word. -/
theorem ofText_seed_of_lt {c : Counter} (hname : name.Plain) (htable : c.table = name.render d)
    (h : Int64.minValue < c.initial) :
    Statement.ofText c.seedStatement = .ok (.insert c.table [[.literal c.initial]]) := by
  rw [ofText_seedStatement hname htable, if_neg fun he => ?_]
  rw [he] at h
  exact absurd h (by decide)

/-- **The statements of a counter are understood**, in the dialects that put names between quotes of
one kind: the new table has the column of the counter, the selection reads it and locks the row, and
the update compares it. What the update assigns is the column as it was written, which is the same
column exactly if it stands in no quotes. -/
theorem statements_understood {d : Dialect} (hd : d ∈ [.generic, .postgresql, .mysql])
    {name : QualifiedName}
    (hname : ∀ i ∈ name.parts, i.Plain ∨ i.quoted = true ∧ d.openQuote ∉ i.text.toList)
    {column : Identifier}
    (hcolumn : column.Plain ∨ column.quoted = true ∧ d.openQuote ∉ column.text.toList)
    {initial increment : Int64} {type : NumberType} {c : Counter}
    (hc : define d name column initial increment type = .ok c) :
    (∃ create, c.createScript d = [create, c.seedStatement] ∧
      Statement.ofText create = .ok (.createTable (name.render d) [column.text] false)) ∧
    Statement.ofText c.selectText =
      .ok (.select (name.render d) [.column column.text (some "id_val")] none true) ∧
    Statement.ofText c.updateText =
      .ok (.update (name.render d) [(column.render d, .param 1)]
        (some ⟨column.text, .param 2⟩)) ∧
    (column.render d = column.text ↔ column.quoted = false) := by
  have hquotes := Dialect.quotesNames_of_mem hd
  have husual : d.Usual := by
    refine Dialect.usual_of_mem ?_
    simp only [List.mem_cons, List.not_mem_nil, or_false] at hd
    rcases hd with rfl | rfl | rfl <;> simp [Dialect.all]
  have hlocks : d.lockHint .write ++ d.forUpdate ≠ "" := by
    simp only [List.mem_cons, List.not_mem_nil, or_false] at hd
    rcases hd with rfl | rfl | rfl <;> decide
  have hlegible (i : Identifier)
      (h : i.Plain ∨ i.quoted = true ∧ d.openQuote ∉ i.text.toList) : i.Legible d := by
    rcases h with h | ⟨hquoted, htext⟩
    · exact h.legible d
    · exact Identifier.legible_of_quoted hquotes hquoted htext
  have htable : name.Legible d := fun i hi => hlegible i (hname i hi)
  have hvalue := hlegible column hcolumn
  unfold define at hc
  split at hc
  · cases hc
  · split at hc
    · cases hc
    · cases hc
      exact ⟨⟨_, rfl, ofText_createStatement husual htable hvalue⟩,
        ofText_select_locked husual hlocks htable hvalue, ofText_updateStatement htable hvalue,
        Identifier.render_eq_text_iff⟩

theorem statements_understood_quoted :
    ∃ c, define .mysql ⟨none, some ⟨"app", false⟩, ⟨"my seq", true⟩⟩ ⟨"next val", true⟩ 1 1 .long =
        .ok c ∧
      (∃ create, c.createScript .mysql = [create, c.seedStatement] ∧
        Statement.ofText create = .ok (.createTable "app.\x60my seq\x60" ["next val"] false)) ∧
      Statement.ofText c.selectText =
        .ok (.select "app.\x60my seq\x60" [.column "next val" (some "id_val")] none true) ∧
      Statement.ofText c.updateText =
        .ok (.update "app.\x60my seq\x60" [("\x60next val\x60", .param 1)]
          (some ⟨"next val", .param 2⟩)) := by
  have hdefine : define .mysql ⟨none, some ⟨"app", false⟩, ⟨"my seq", true⟩⟩ ⟨"next val", true⟩
      1 1 .long = .ok _ := (if_neg (by decide)).trans (if_neg (by decide))
  have hname : ∀ i ∈ (⟨none, some ⟨"app", false⟩, ⟨"my seq", true⟩⟩ : QualifiedName).parts,
      i.Plain ∨ i.quoted = true ∧ Dialect.mysql.openQuote ∉ i.text.toList := by
    intro i hi
    simp only [QualifiedName.parts, Option.toList_none, Option.toList_some, List.nil_append,
      List.cons_append, List.mem_cons, List.not_mem_nil, or_false] at hi
    rcases hi with rfl | rfl
    · exact .inl ⟨rfl, by decide, by decide +kernel⟩
    · exact .inr ⟨rfl, by decide⟩
  have hrender : QualifiedName.render .mysql ⟨none, some ⟨"app", false⟩, ⟨"my seq", true⟩⟩ =
        "app.\x60my seq\x60" ∧
      Identifier.render .mysql ⟨"next val", true⟩ = "\x60next val\x60" := by decide +kernel
  obtain ⟨hcreate, hselect, hupdate, -⟩ :=
    statements_understood (by simp) hname (.inr ⟨rfl, by decide⟩) hdefine
  refine ⟨_, hdefine, ?_⟩
  rw [← hrender.1, ← hrender.2]
  exact ⟨hcreate, hselect, hupdate⟩

/-- A quoted column is assigned under another name than it is created and read under. -/
theorem quoted_assigned_otherwise :
    ∃ c, define .generic ⟨none, none, ⟨"t", false⟩⟩ ⟨"v", true⟩ 1 1 .long = .ok c ∧
      Statement.ofText c.selectText =
        .ok (.select "t" [.column "v" (some "id_val")] none true) ∧
      Statement.ofText c.updateText =
        .ok (.update "t" [("\"v\"", .param 1)] (some ⟨"v", .param 2⟩)) ∧
      Statement.ofText c.updateText ≠
        .ok (.update "t" [("v", .param 1)] (some ⟨"v", .param 2⟩)) := by
  have hdefine : define .generic ⟨none, none, ⟨"t", false⟩⟩ ⟨"v", true⟩ 1 1 .long = .ok _ :=
    (if_neg (by decide)).trans (if_neg (by decide))
  obtain ⟨hselect, hupdate⟩ : Statement.ofText (selectStatement .generic "t" "\"v\"") =
        .ok (.select "t" [.column "v" (some "id_val")] none true) ∧
      Statement.ofText (updateStatement "t" "\"v\"") =
        .ok (.update "t" [("\"v\"", .param 1)] (some ⟨"v", .param 2⟩)) := by decide +kernel
  refine ⟨_, hdefine, hselect, hupdate, fun h => ?_⟩
  have hsame := hupdate.symm.trans h
  simp at hsame

end Counter

end CounterTable
