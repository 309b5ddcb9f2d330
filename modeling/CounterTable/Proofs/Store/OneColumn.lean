import CounterTable.Proofs.Store.Rows

/-!
# Tables of one column

The rows of a table of one column are a list of values. A selection of the column answers them, and
an update that replaces one value by another does so wherever the value occurs.

* `Table.select_column`, `Table.changes_column`, `Table.condition_column`: a single column of any
  table;
* `rowsOf`: the rows with these values;
* `Table.firstValue_of_select`: what a selection of the column answers;
* `replaced`, `Table.run_update`: the values after an update.
-/

namespace CounterTable

/-- The rows of one cell each with these values. -/
def rowsOf (ns : List Int64) : List Row := ns.map fun n => [n]

/-- The values with one of them replaced wherever it occurs. -/
def replaced (v w : Int64) (ns : List Int64) : List Int64 := ns.map fun n => if n = v then w else n

/-- The first value of a column. -/
def first? (ns : List Int64) : Option Int := ns.head?.map Int64.toInt

theorem mem_replaced {v w m : Int64} {ns : List Int64} (h : m ∈ replaced v w ns) :
    m = w ∨ m ∈ ns ∧ m ≠ v := by
  obtain ⟨n, hn, rfl⟩ := List.mem_map.mp h
  split
  · exact .inl rfl
  · next hv => exact .inr ⟨hn, hv⟩

namespace Table

variable {t : Table} {b : Bindings} {name column : String} {ns : List Int64}

theorem columnIndex_eq_zero (h : t.columns.length = 1) {i : Nat}
    (hi : t.columnIndex column = .ok i) : i = 0 := by
  have := columnIndex_lt hi
  omega

theorem select_column (t : Table) (id : Nat) (column : String) (shown : Option String)
    (b : Bindings) : t.select id [.column column shown] none b =
      (t.columnIndex column).map fun i =>
        ⟨[shown.getD column], (t.visibleRows id).map fun row => [.integer (row.getD i 0)]⟩ := by
  have hall : (t.visibleRows id).filter (Row.meets · none) = t.visibleRows id :=
    List.filter_eq_self.mpr fun _ _ => rfl
  cases hi : t.columnIndex column with
  | error e => simp [select, selected, hi, bind, Except.bind, Except.map]
  | ok i =>
    simp [select, selected, hi, condition, hall, bind, Except.bind, pure, Except.pure, Except.map]

theorem changes_column {w : Int64} {o : Operand} (hw : b.resolve o = .ok w) :
    t.changes b [(column, o)] = (t.columnIndex column).map fun i => [(i, w)] := by
  cases hi : t.columnIndex column <;>
    simp [changes, hi, hw, bind, Except.bind, pure, Except.pure, Except.map]

theorem condition_column {v : Int64} {o : Operand} (hv : b.resolve o = .ok v) :
    t.condition b (some ⟨column, o⟩) = (t.columnIndex column).map fun i => some (i, v) := by
  cases hi : t.columnIndex column <;>
    simp [condition, hi, hv, bind, Except.bind, pure, Except.pure, Except.map]

/-- **A selection of the column** answers the values that the connection sees. -/
theorem firstValue_of_select (h : t.columns.length = 1) {id : Nat}
    (hv : t.visibleRows id = rowsOf ns) {shown : Option String} {q : QueryResult}
    (hq : t.select id [.column column shown] none b = .ok q) :
    q.firstValue? = ns.head?.map .integer := by
  rw [select_column, hv] at hq
  cases hi : t.columnIndex column with
  | error e =>
    rw [hi] at hq
    cases hq
  | ok i =>
    rw [hi, columnIndex_eq_zero h hi] at hq
    cases hq
    cases ns <;> rfl

theorem changes_single (h : t.columns.length = 1) {w : Int64} {o : Operand}
    (hw : b.resolve o = .ok w) {cs : List (Nat × Int64)}
    (hc : t.changes b [(column, o)] = .ok cs) : cs = [(0, w)] := by
  rw [changes_column hw] at hc
  cases hi : t.columnIndex column with
  | error e =>
    rw [hi] at hc
    cases hc
  | ok i =>
    rw [hi, columnIndex_eq_zero h hi] at hc
    exact (Except.ok.inj hc).symm

theorem condition_single (h : t.columns.length = 1) {v : Int64} {o : Operand}
    (hv : b.resolve o = .ok v) {c : Condition} (hc : t.condition b (some ⟨column, o⟩) = .ok c) :
    c = some (0, v) := by
  rw [condition_column hv] at hc
  cases hi : t.columnIndex column with
  | error e =>
    rw [hi] at hc
    cases hc
  | ok i =>
    rw [hi, columnIndex_eq_zero h hi] at hc
    exact (Except.ok.inj hc).symm

theorem changed_rowsOf (hr : t.rows = rowsOf ns) (v w : Int64) :
    t.changed [(0, w)] (some (0, v)) = rowsOf (replaced v w ns) := by
  rw [changed, hr, rowsOf, rowsOf, replaced, List.map_map, List.map_map]
  refine List.map_congr_left fun n _ => ?_
  by_cases hn : n = v <;> simp [Row.meets, Row.assign, hn]

/-- **An update of the column** replaces a value wherever it occurs. -/
theorem run_update (h : t.columns.length = 1) (hr : t.rows = rowsOf ns) {v w : Int64}
    {o o' : Operand} (hw : b.resolve o = .ok w) (hv : b.resolve o' = .ok v) {column' : String}
    {r : Reply} {rows : List Row}
    (hx : t.run b (.update name [(column, o)] (some ⟨column', o'⟩)) = .ok (r, rows)) :
    r = .count (ns.count v) ∧ rows = rowsOf (replaced v w ns) := by
  simp only [run] at hx
  split at hx
  · cases hx
  · cases hx
  · next cs c hcs hc =>
    cases changes_single h hw hcs
    cases condition_single h hv hc
    cases hx
    refine ⟨?_, changed_rowsOf hr v w⟩
    rw [hr, rowsOf, List.countP_map, List.count]
    refine congrArg Reply.count (List.countP_congr fun n _ => ?_)
    simp [Row.meets]

end Table

end CounterTable
