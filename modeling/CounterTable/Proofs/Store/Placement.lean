import CounterTable.Proofs.Sql.Parameters
import CounterTable.Proofs.Store.Failures
import Mathlib.Data.List.Nodup

/-!
# Insertions that list columns

An insertion may list the columns of its table before the values. The list is read, but nothing is
done with it: the values of a row stand in the columns of the table one after another, as if there
were no list. So they stand in the listed columns if the list has the order of the table, and
otherwise only if the same value happens to be given for columns that are confused.

* `Table.Lists`: the positions of the listed columns in the table;
* `Row.Follows`, `Row.follows_self_iff`: a row with its values at given positions;
* `Turn.exists_of_insert`, `Statement.exists_of_insertion`: insertions that succeed;
* **`Database.insert_listed`**: the rows of an insertion that lists all columns.
-/

namespace CounterTable

open CounterTable.Sql

/-! ## Rows and lists of columns -/

/-- A list has all columns of a table, each once; these are their positions in the table. -/
structure Table.Lists (t : Table) (columns : List Ident) (positions : List Nat) : Prop where
  named : List.Forall₂ (fun column i => ∃ x, t.columns[i]? = some x ∧ sameName x column.text)
    columns positions
  once : positions.Perm (List.range t.columns.length)

/-- A row has the values at these positions, one by one. -/
def Row.Follows (row : Row) (positions : List Nat) (values : List Int64) : Prop :=
  List.Forall₂ (fun i value => row[i]? = some value) positions values

namespace Row

variable {row : Row} {positions : List Nat}

/-- A row that has its values one after another has them at other positions as well exactly if it
has the same value at both. -/
theorem follows_self_iff (h : positions.length = row.length) :
    row.Follows positions row ↔ ∀ k i : Nat, positions[k]? = some i → row[i]? = row[k]? := by
  rw [Follows, List.forall₂_iff_get]
  refine ⟨fun hrow k i hk => ?_, fun hrow => ⟨h, fun k hk hk' => ?_⟩⟩
  · obtain ⟨hlt, hi⟩ := List.getElem?_eq_some_iff.mp hk
    have hat := hrow.2 k hlt (h ▸ hlt)
    rw [List.get_eq_getElem, List.get_eq_getElem, hi] at hat
    rw [hat, List.getElem?_eq_getElem]
  · have hat := hrow k _ (List.getElem?_eq_getElem hk)
    rwa [List.getElem?_eq_getElem hk'] at hat

theorem follows_range (row : Row) : row.Follows (List.range row.length) row := by
  refine (follows_self_iff List.length_range).mpr fun k i hk => ?_
  obtain ⟨hlt, hi⟩ := List.getElem?_eq_some_iff.mp hk
  rw [← hi, List.getElem_range]

theorem eq_range_of_follows (hnodup : row.Nodup) (h : positions.length = row.length)
    (hrow : row.Follows positions row) : positions = List.range row.length := by
  refine List.ext_getElem (h.trans List.length_range.symm) fun k hk hk' => ?_
  have hlt : k < row.length := h ▸ hk
  have hat := (follows_self_iff h).mp hrow k _ (List.getElem?_eq_getElem hk)
  rw [List.getElem?_eq_getElem hlt] at hat
  obtain ⟨hlt', hsame⟩ := List.getElem?_eq_some_iff.mp hat
  rw [List.getElem_range]
  exact (List.Nodup.getElem_inj_iff hnodup).mp hsame

end Row

/-! ## Insertions that succeed -/

theorem Table.mapM_of_newRows {t : Table} {name : String} {b : Bindings}
    {rows : List (List Operand)} {new : List Row} (h : t.newRows name b rows = .ok new) :
    rows.mapM (·.mapM b.resolve) = .ok new := by
  induction rows generalizing new with
  | nil => exact h
  | cons row rows ih =>
    rw [newRows, List.mapM_cons] at h
    obtain ⟨first, hfirst, h⟩ := exists_of_bind_eq_ok h
    obtain ⟨rest, hrest, h⟩ := exists_of_bind_eq_ok h
    split at hfirst
    · rw [List.mapM_cons, hfirst, ih hrest]
      exact h
    · cases hfirst

theorem Turn.exists_of_insert {id : Nat} {b : Bindings} {name : String}
    {rows : List (List Operand)} {t : Turn} {r : Reply}
    (h : (insert id b name rows t).1 = .ok r) :
    ∃ table new, t.storage.get? name = some table ∧ table.newRows name b rows = .ok new ∧
      r = .count new.length ∧
      Written id name table (table.rows ++ new) t (insert id b name rows t).2 := by
  obtain ⟨e, hc⟩ | ⟨table, hg, hf, -⟩ := claim_cases id name t
  · simp only [insert, hc] at h
    cases h
  · have hinsert : insert id b name rows t = _ := insert_of_free hg hf
    cases hn : table.newRows name b rows with
    | error e =>
      rw [hinsert, hn] at h
      cases h
    | ok new =>
      rw [hn] at hinsert
      rw [hinsert] at h ⊢
      cases h
      exact ⟨table, new, hg, hn, rfl, written_setRows hg _⟩

/-- The operands in the rows of an insertion. -/
def Statement.operandRows (values : List (List Expr)) : Recognition (List (List Operand)) :=
  values.mapM (·.mapM operand)

/-- What is understood as an insertion keeps the name of the table and the rows, and not the
columns. -/
theorem Statement.exists_of_insertion {sql : String} {name columns : List Ident} {q : Query}
    {values : List (List Expr)} {s : Statement}
    (hread : Grammar.statements sql.toList = some [.insert name columns (some q)])
    (hvalues : q.body = .values values) (hs : ofText sql = .ok s) :
    ∃ operands n, (operandRows values).run 0 = .ok (operands, n) ∧
      s = .insert (renderName name) operands := by
  obtain ⟨c, m, hc, hrun⟩ := ofText_eq_ok_iff.mp hs
  cases hc.symm.trans hread
  simp only [ofClause, insertion, hvalues] at hrun
  obtain ⟨operands, n, hoperands, hrun⟩ := exists_of_run_bind hrun
  cases hrun
  exact ⟨operands, _, hoperands, rfl⟩

namespace Database

variable {db : Database} {id : Nat} {b : Bindings} {s : Statement}

/-- **An insertion that lists the columns** puts the values of each row into the columns of the
table from the first to the last. Let the list have all columns of the table, in any order. Then a
value stands in the column that it is listed for exactly if it equals the value that is given where
that column stands in the table. So all of them do if the list has the order of the table; where
the values of a row are different, they do in no other order. -/
theorem insert_listed {sql : String} {name columns : List Ident} {q : Query}
    {values : List (List Expr)} {r : Reply}
    (hread : Grammar.statements sql.toList = some [.insert name columns (some q)])
    (hvalues : q.body = .values values) (hs : Statement.ofText sql = .ok s)
    (hr : (run id b s db).1 = .ok r) :
    ∃ operands n, ∃ given : List Row, ∃ t t',
      (Statement.operandRows values).run 0 = .ok (operands, n) ∧
      operands.mapM (·.mapM b.resolve) = .ok given ∧ r = .count given.length ∧
      db.storage.get? (renderName name) = some t ∧
      (run id b s db).2.storage.get? (renderName name) = some t' ∧
      t'.columns = t.columns ∧ t'.rows = t.rows ++ given ∧
      ∀ positions, t.Lists columns positions → ∀ row ∈ given,
        row.length = positions.length ∧
        (row.Follows positions row ↔ ∀ k i : Nat, positions[k]? = some i → row[i]? = row[k]?) ∧
        (positions = List.range t.columns.length → row.Follows positions row) ∧
        (row.Nodup → row.Follows positions row → positions = List.range t.columns.length) := by
  obtain ⟨operands, n, hoperands, rfl⟩ := Statement.exists_of_insertion hread hvalues hs
  cases hl : db.links.get? id with
  | none =>
    simp only [run, hl] at hr
    cases hr
  | some link =>
    rw [run_eq hl, withTurn_eq] at hr ⊢
    obtain ⟨t, given, hg, hn, rfl, hw⟩ := Turn.exists_of_insert hr
    refine ⟨operands, n, given, t, _, hoperands, Table.mapM_of_newRows hn, rfl, hg,
      (hw.get? _).trans (if_pos rfl), Turn.claimed_columns .., rfl,
      fun positions hlist row hrow => ?_⟩
    have hwidth : row.length = t.columns.length := Table.fits_newRows hn row hrow
    have hlength : positions.length = row.length := by
      rw [hlist.once.length_eq, List.length_range, hwidth]
    rw [← hwidth]
    refine ⟨hlength.symm, Row.follows_self_iff hlength, ?_,
      fun hnodup => Row.eq_range_of_follows hnodup hlength⟩
    rintro rfl
    exact row.follows_range

/-- A database with an empty table of two columns, and a connection. -/
def paired : Database where
  storage := { tables := [("t", ⟨["a", "b"], [], none, none⟩)] }
  links := [(1, ⟨none, some ⟨"create table t (a bigint, b bigint)",
    .createTable "t" ["a", "b"] false, []⟩⟩)]
  opened := 1

theorem paired_reachable : Reachable paired := by
  have hc : Statement.ofText "create table t (a bigint, b bigint)" =
      .ok (.createTable "t" ["a", "b"] false) := by decide +kernel
  have h := (Reachable.new.after .connect).after
    (.call 1 (.prepare "create table t (a bigint, b bigint)"))
  rw [after_prepare rfl hc] at h
  exact h.after (.call 1 .update)

/-- The columns are listed in the order of the table, and one of the values is bound. -/
theorem insert_listed_ordered :
    let columns : List Ident := [⟨"A", none⟩, ⟨"b", none⟩]
    let after := (run 1 [(1, .integer 5)] (.insert "t" [[.param 1, .literal 7]]) paired).2
    Statement.ofText "insert into t (A, b) values (?, 7)" =
        .ok (.insert "t" [[.param 1, .literal 7]]) ∧
      Table.Lists ⟨["a", "b"], [], none, none⟩ columns [0, 1] ∧
      ∃ t' row, after.storage.get? "t" = some t' ∧ t'.rows = [row] ∧ row = [5, 7] ∧
        row.Follows [0, 1] row := by
  intro columns after
  have hread : Grammar.statements "insert into t (A, b) values (?, 7)".toList =
      some [.insert [⟨"t", none⟩] columns
        (some ⟨.values [[.placeholder "?" 0, .number "7" false]], false, "VALUES (?, 7)"⟩)] := by
    decide +kernel
  have hs : Statement.ofText "insert into t (A, b) values (?, 7)" =
      .ok (.insert "t" [[.param 1, .literal 7]]) := by
    rw [Statement.ofText_of_statements hread]
    decide +kernel
  have hlist : Table.Lists ⟨["a", "b"], [], none, none⟩ columns [0, 1] :=
    ⟨.cons ⟨"a", rfl, by decide⟩ (.cons ⟨"b", rfl, by decide⟩ .nil), by decide⟩
  have hr : (run 1 [(1, .integer 5)] (.insert "t" [[.param 1, .literal 7]]) paired).1 =
      .ok (.count 1) := by decide +kernel
  obtain ⟨operands, n, given, t, t', -, -, -, hg, hg', -, hrows, hgiven⟩ :=
    insert_listed hread rfl hs hr
  cases hg
  have hafter : after.storage.get? "t" = some ⟨["a", "b"], [[5, 7]], none, none⟩ := by
    decide +kernel
  cases hafter.symm.trans hg'
  obtain rfl : [[5, 7]] = given := hrows
  exact ⟨hs, hlist, _, _, hafter, rfl, rfl,
    ((hgiven [0, 1] hlist [5, 7] List.mem_cons_self).2.2.1 rfl)⟩

/-- The columns are listed in the other order, and the values are confused. -/
theorem insert_confuses_columns :
    let sql := "insert into t (b, a) values (1, 2)"
    let columns : List Ident := [⟨"b", none⟩, ⟨"a", none⟩]
    let s : Statement := .insert "t" [[.literal 1, .literal 2]]
    Reachable paired ∧
      (∃ q, Grammar.statements sql.toList = some [.insert [⟨"t", none⟩] columns (some q)] ∧
        q.body = .values [[.number "1" false, .number "2" false]]) ∧
      Statement.ofText sql = .ok s ∧
      Table.Lists ⟨["a", "b"], [], none, none⟩ columns [1, 0] ∧
      paired.storage.get? "t" = some ⟨["a", "b"], [], none, none⟩ ∧
      (run 1 [] s paired).1 = .ok (.count 1) ∧
      (run 1 [] s paired).2.storage.get? "t" = some ⟨["a", "b"], [[1, 2]], none, none⟩ ∧
      ¬ Row.Follows [1, 2] [1, 0] [1, 2] := by
  intro sql columns s
  have hread : Grammar.statements sql.toList = some [.insert [⟨"t", none⟩] columns
      (some ⟨.values [[.number "1" false, .number "2" false]], false, "VALUES (1, 2)"⟩)] := by
    decide +kernel
  have hs : Statement.ofText sql = .ok s := by
    rw [Statement.ofText_of_statements hread]
    decide +kernel
  have hlist : Table.Lists ⟨["a", "b"], [], none, none⟩ columns [1, 0] :=
    ⟨.cons ⟨"b", rfl, by decide⟩ (.cons ⟨"a", rfl, by decide⟩ .nil), by decide⟩
  refine ⟨paired_reachable, ⟨_, hread, rfl⟩, hs, hlist, rfl, by decide +kernel, by decide +kernel,
    fun h => ?_⟩
  cases Row.eq_range_of_follows (by decide) rfl h

end Database

end CounterTable
