import CounterTable.Proofs.Sql.Parameters
import CounterTable.Proofs.Store.Locks
import CounterTable.Proofs.Store.Widths
import Mathlib.Data.List.ReduceOption

/-!
# Accesses in range

Executing a statement looks up cells by their positions in rows, and bound values by the positions
of parameters. The strict execution does the same, but breaks off where a position is out of range.
It never does in a reachable database, because rows are as wide as their tables.

* `Strict`: computations that break off;
* `Row.meets?`, `Row.assign?`, `Row.cells?`, `Bindings.resolve?`: the accesses;
* `Turn.execute?`: the strict execution of a statement;
* **`Turn.Rectangular.execute?_eq`**: it comes to what the execution comes to;
* **`Database.Reachable.accesses_in_range`**: so it does in a reachable database.
-/

namespace CounterTable

/-! ## Computations that break off -/

/-- A computation that may fail, and that breaks off where a position is out of range. -/
abbrev Strict (α : Type) : Type := ExceptT Error Option α

namespace Strict

variable {α β : Type}

/-- What may fail, but looks nothing up. -/
def ofExcept (x : Except Error α) : Strict α := ExceptT.mk (some x)

/-- What is looked up, and cannot fail otherwise. -/
def look (x : Option α) : Strict α := ExceptT.mk (x.map .ok)

/-- The computation does not break off, and comes to this. -/
def ComesTo (x : Strict α) (y : Except Error α) : Prop := x.run = some y

theorem ComesTo.ofExcept (x : Except Error α) : (Strict.ofExcept x).ComesTo x := rfl

theorem ComesTo.pure (a : α) : (Pure.pure a : Strict α).ComesTo (.ok a) := rfl

theorem ComesTo.bind {x : Strict α} {y : Except Error α} {f : α → Strict β}
    {g : α → Except Error β} (hx : x.ComesTo y) (hf : ∀ a, y = .ok a → (f a).ComesTo (g a)) :
    (x >>= f).ComesTo (y >>= g) := by
  unfold ComesTo at hx ⊢
  rw [ExceptT.run_bind, hx]
  cases y with
  | error e => rfl
  | ok a => exact hf a rfl

theorem ComesTo.mapM {f : α → Strict β} {g : α → Except Error β} {l : List α}
    (h : ∀ a ∈ l, (f a).ComesTo (g a)) : (l.mapM f).ComesTo (l.mapM g) := by
  induction l with
  | nil => exact .pure []
  | cons a l ih =>
    rw [List.mapM_cons, List.mapM_cons]
    have hrest := ih fun b hb => h b (List.mem_cons_of_mem a hb)
    exact (h a List.mem_cons_self).bind fun b _ => hrest.bind fun bs _ => .pure (b :: bs)

end Strict

theorem mapM_eq_some_map {α β : Type} {f : α → Option β} {g : α → β} {l : List α}
    (h : ∀ a ∈ l, f a = some (g a)) : l.mapM f = some (l.map g) := by
  induction l with
  | nil => rfl
  | cons a l ih =>
    rw [List.mapM_cons, h a List.mem_cons_self, ih fun b hb => h b (List.mem_cons_of_mem a hb)]
    rfl

/-! ## Rows -/

namespace Row

/-- Whether a row meets a condition, if it has the cell of the condition. -/
def meets? (row : Row) : Condition → Option Bool
  | none => some true
  | some (i, v) => row[i]?.map (· == v)

/-- A row with some cells changed, one after another, if it has these cells. -/
def assign? (row : Row) (changes : List (Nat × Int64)) : Option Row :=
  changes.foldlM (fun row (i, v) => row[i]?.map fun _ => row.set i v) row

/-- The row after an update, if it has the cells of the update. -/
def changed? (row : Row) (changes : List (Nat × Int64)) (condition : Condition) : Option Row := do
  if ← row.meets? condition then row.assign? changes else return row

/-- The cells at some positions, if the row has them. -/
def cells? (row : Row) (positions : List Nat) : Option (List Value) :=
  positions.mapM fun i => row[i]?.map .integer

variable {row : Row} {changes : List (Nat × Int64)} {condition : Condition}

theorem meets?_eq (h : ∀ p ∈ condition, p.1 < row.length) :
    row.meets? condition = some (row.meets condition) := by
  cases condition with
  | none => rfl
  | some p =>
    obtain ⟨i, v⟩ := p
    have hi : i < row.length := h _ rfl
    simp [meets?, meets, List.getElem?_eq_getElem hi]

theorem assign?_eq (h : ∀ p ∈ changes, p.1 < row.length) :
    row.assign? changes = some (row.assign changes) := by
  induction changes generalizing row with
  | nil => rfl
  | cons p changes ih =>
    obtain ⟨i, v⟩ := p
    have hi : i < row.length := h _ List.mem_cons_self
    have hrest : ∀ q ∈ changes, q.1 < (row.set i v).length := fun q hq => by
      rw [List.length_set]
      exact h q (List.mem_cons_of_mem _ hq)
    have hstep := ih hrest
    simp only [assign?, assign, List.foldlM_cons, List.getElem?_eq_getElem hi, Option.map_some,
      List.foldl_cons] at hstep ⊢
    exact hstep

theorem changed?_eq (hc : ∀ p ∈ condition, p.1 < row.length)
    (h : ∀ p ∈ changes, p.1 < row.length) : row.changed? changes condition =
      some (if row.meets condition then row.assign changes else row) := by
  rw [changed?, meets?_eq hc]
  cases row.meets condition with
  | true => exact assign?_eq h
  | false => rfl

theorem cells?_eq {positions : List Nat} (h : ∀ i ∈ positions, i < row.length) :
    row.cells? positions = some (positions.map fun i => .integer (row.getD i 0)) := by
  refine mapM_eq_some_map fun i hi => ?_
  rw [List.getD_eq_getElem?_getD, List.getElem?_eq_getElem (h i hi)]
  rfl

end Row

/-! ## Operands -/

/-- The value of an operand; a parameter has to have a position. -/
def Bindings.resolve? (b : Bindings) : Operand → Strict Int64
  | .param 0 => .look none
  | o => .ofExcept (b.resolve o)

theorem Operand.Placed.resolve? {o : Operand} (h : o.Placed) (b : Bindings) :
    (b.resolve? o).ComesTo (b.resolve o) := by
  cases o with
  | literal v => rfl
  | param position =>
    cases position with
    | zero => exact absurd h (Nat.not_succ_le_zero 0)
    | succ n => rfl

/-! ## Tables -/

namespace Table

/-- The condition that a filter sets, by strict access. -/
def condition? (t : Table) (b : Bindings) : Option Filter → Strict Condition
  | none => return none
  | some f => do
    let i ← .ofExcept (t.columnIndex f.column)
    return some (i, ← b.resolve? f.value)

/-- The cells that assignments change, by strict access. -/
def changes? (t : Table) (b : Bindings) (assignments : List (String × Operand)) :
    Strict (List (Nat × Int64)) :=
  assignments.mapM fun (column, value) => do
    let i ← .ofExcept (t.columnIndex column)
    return (i, ← b.resolve? value)

/-- The rows that a connection selects, by strict access. -/
def select? (t : Table) (reader : Nat) (items : List Projection) (filter : Option Filter)
    (b : Bindings) : Strict QueryResult := do
  let columns ← .ofExcept (t.selected items)
  let condition ← t.condition? b filter
  let rows ← .look ((t.visibleRows reader).mapM fun row => do
    if ← row.meets? condition then some <$> row.cells? (columns.map (·.2)) else return none)
  return { columns := columns.map (·.1), rows := rows.reduceOption }

/-- Whether some row that a connection sees meets a condition, by strict access. -/
def meetsAny? (t : Table) (reader : Nat) (condition : Condition) : Option Bool :=
  ((t.visibleRows reader).mapM (Row.meets? · condition)).map (·.contains true)

/-- How many rows an update changes, and the rows after it, by strict access. -/
def updated? (t : Table) (changes : List (Nat × Int64)) (condition : Condition) :
    Option (Nat × List Row) := do
  let met ← t.rows.mapM (Row.meets? · condition)
  return (met.count true, ← t.rows.mapM (Row.changed? · changes condition))

/-- The rows of an insertion, by strict access. -/
def newRows? (t : Table) (name : String) (b : Bindings) (rows : List (List Operand)) :
    Strict (List Row) :=
  rows.mapM fun row =>
    if row.length = t.columns.length then row.mapM b.resolve?
    else .ofExcept (.error (.unsupported
      s!"{name} has {t.columns.length} columns but {row.length} values were given"))

variable {t : Table} {b : Bindings}

theorem condition_lt {filter : Option Filter} {c : Condition}
    (h : t.condition b filter = .ok c) : ∀ p ∈ c, p.1 < t.columns.length := by
  cases filter with
  | none =>
    cases h
    exact nofun
  | some f =>
    obtain ⟨i, hi, h⟩ := exists_of_bind_eq_ok h
    obtain ⟨v, -, h⟩ := exists_of_bind_eq_ok h
    cases h
    rintro p ⟨⟩
    exact columnIndex_lt hi

theorem changes_lt {assignments : List (String × Operand)} {changes : List (Nat × Int64)}
    (h : t.changes b assignments = .ok changes) : ∀ p ∈ changes, p.1 < t.columns.length := by
  intro p hp
  obtain ⟨a, -, ha⟩ := exists_of_mapM h hp
  obtain ⟨i, hi, ha⟩ := exists_of_bind_eq_ok ha
  obtain ⟨v, -, ha⟩ := exists_of_bind_eq_ok ha
  cases ha
  exact columnIndex_lt hi

theorem selected_lt {items : List Projection} {columns : List (String × Nat)}
    (h : t.selected items = .ok columns) : ∀ p ∈ columns, p.2 < t.columns.length := by
  obtain ⟨parts, hparts, h⟩ := exists_of_bind_eq_ok h
  cases h
  intro p hp
  obtain ⟨part, hpart, hp⟩ := List.mem_flatten.mp hp
  obtain ⟨item, -, hitem⟩ := exists_of_mapM hparts hpart
  cases item with
  | all =>
    cases hitem
    exact List.snd_lt_of_mem_zipIdx hp
  | column name shown =>
    obtain ⟨i, hi, hitem⟩ := exists_of_bind_eq_ok hitem
    cases hitem
    cases List.mem_singleton.mp hp
    exact columnIndex_lt hi

theorem Rectangular.visibleRows (h : t.Rectangular) (reader : Nat) :
    t.Fits (t.visibleRows reader) := by
  unfold Table.visibleRows
  split
  · next saved owner hs ho =>
    split
    · exact h.rows
    · exact h.saved saved hs
  · exact h.rows

theorem condition?_comesTo {filter : Option Filter} (h : Filter.Placed filter) (t : Table)
    (b : Bindings) : (t.condition? b filter).ComesTo (t.condition b filter) := by
  cases filter with
  | none => exact .pure none
  | some f =>
    refine .bind (.ofExcept _) fun i _ => .bind ((h f rfl).resolve? b) fun v _ => ?_
    exact .pure (some (i, v))

theorem changes?_comesTo {assignments : List (String × Operand)}
    (h : ∀ a ∈ assignments, a.2.Placed) (t : Table) (b : Bindings) :
    (t.changes? b assignments).ComesTo (t.changes b assignments) := by
  refine .mapM fun a ha => .bind (.ofExcept _) fun i _ => .bind ((h a ha).resolve? b) fun v _ => ?_
  exact .pure (i, v)

theorem newRows?_comesTo {rows : List (List Operand)} (h : ∀ row ∈ rows, ∀ o ∈ row, o.Placed)
    (t : Table) (name : String) (b : Bindings) :
    (t.newRows? name b rows).ComesTo (t.newRows name b rows) := by
  refine .mapM fun row hrow => ?_
  split
  · exact .mapM fun o ho => (h row hrow o ho).resolve? b
  · exact .ofExcept _

theorem reduceOption_selected (rows : List Row) (p : Row → Bool) (f : Row → List Value) :
    (rows.map fun row => if p row then some (f row) else none).reduceOption =
      (rows.filter p).map f := by
  induction rows with
  | nil => rfl
  | cons row rows ih => cases hp : p row <;> simp [hp, ih]

/-- **A selection** of rows that are as wide as the table looks up no cell that is not there. -/
theorem Rectangular.select?_comesTo (h : t.Rectangular) {filter : Option Filter}
    (hf : Filter.Placed filter) (reader : Nat) (items : List Projection) (b : Bindings) :
    (t.select? reader items filter b).ComesTo (t.select reader items filter b) := by
  refine .bind (.ofExcept _) fun columns hcolumns => ?_
  refine .bind (condition?_comesTo hf t b) fun condition hcondition => ?_
  have hcells : ∀ row ∈ t.visibleRows reader,
      (do if ← row.meets? condition then some <$> row.cells? (columns.map (·.2)) else return none) =
        some (if row.meets condition then
          some ((columns.map (·.2)).map fun i => .integer (row.getD i 0)) else none) := by
    intro row hrow
    have hlength := h.visibleRows reader row hrow
    have hpositions : ∀ i ∈ columns.map (·.2), i < row.length := by
      intro i hi
      obtain ⟨p, hp, rfl⟩ := List.mem_map.mp hi
      exact hlength ▸ selected_lt hcolumns p hp
    rw [Row.meets?_eq fun p hp => hlength ▸ condition_lt hcondition p hp, Row.cells?_eq hpositions]
    cases row.meets condition <;> rfl
  rw [mapM_eq_some_map hcells]
  refine congrArg (fun rows => some (Except.ok (QueryResult.mk (columns.map (·.1)) rows))) ?_
  rw [reduceOption_selected]
  exact List.map_congr_left fun row _ => List.map_map

/-- It does break off at a row without cells. -/
example : (select? ⟨["v"], [[]], none, none⟩ 1 [.all] none []).run = none := rfl

theorem Fits.meets?_eq {rows : List Row} (h : t.Fits rows) {condition : Condition}
    (hc : ∀ p ∈ condition, p.1 < t.columns.length) :
    rows.mapM (Row.meets? · condition) = some (rows.map (Row.meets · condition)) :=
  mapM_eq_some_map fun row hrow => Row.meets?_eq fun p hp => h row hrow ▸ hc p hp

theorem Rectangular.meetsAny?_eq (h : t.Rectangular) (reader : Nat) {condition : Condition}
    (hc : ∀ p ∈ condition, p.1 < t.columns.length) : t.meetsAny? reader condition =
      some ((t.visibleRows reader).any (Row.meets · condition)) := by
  rw [meetsAny?, (h.visibleRows reader).meets?_eq hc, Option.map_some, List.contains_eq_any_beq,
    List.any_map]
  exact congrArg some (List.any_congr rfl fun row => Bool.true_beq _)

theorem Rectangular.updated?_eq (h : t.Rectangular) {changes : List (Nat × Int64)}
    (ha : ∀ p ∈ changes, p.1 < t.columns.length) {condition : Condition}
    (hc : ∀ p ∈ condition, p.1 < t.columns.length) : t.updated? changes condition =
      some (t.rows.countP (Row.meets · condition), t.changed changes condition) := by
  have hrows : t.rows.mapM (Row.changed? · changes condition) =
      some (t.changed changes condition) :=
    mapM_eq_some_map fun row hrow =>
      Row.changed?_eq (fun p hp => h.rows row hrow ▸ hc p hp) fun p hp => h.rows row hrow ▸ ha p hp
  have hcount : (t.rows.map (Row.meets · condition)).count true =
      t.rows.countP (Row.meets · condition) := by
    rw [List.count, List.countP_map]
    exact List.countP_congr fun row _ => by simp
  rw [updated?, h.rows.meets?_eq hc, hrows, ← hcount]
  rfl

end Table

/-! ## Statements -/

namespace Turn

section Definitions

variable (id : Nat) (b : Bindings) (name : String)

/-- Reads a table by strict access. -/
def select? (items : List Projection) (filter : Option Filter) (forUpdate : Bool) (t : Turn) :
    Option (Except Error Reply × Turn) :=
  match if forUpdate then claim id name t else (.ok (), t) with
  | (.error e, t) => some (.error e, t)
  | (.ok _, t) =>
    match t.storage.table name with
    | .error e => some (.error e, t)
    | .ok table => (table.select? id items filter b).run.map fun r => (r.map .rows, t)

/-- Inserts rows into a table by strict access. -/
def insert? (rows : List (List Operand)) (t : Turn) : Option (Except Error Reply × Turn) :=
  match claim id name t with
  | (.error e, t) => some (.error e, t)
  | (.ok _, t) =>
    match t.storage.table name with
    | .error e => some (.error e, t)
    | .ok table => do
      match ← (table.newRows? name b rows).run with
      | .error e => return (.error e, t)
      | .ok new =>
        return (.ok (.count new.length),
          { t with storage := t.storage.put name { table with rows := table.rows ++ new } })

/-- Changes rows of a table by strict access. -/
def update? (assignments : List (String × Operand)) (filter : Option Filter) (t : Turn) :
    Option (Except Error Reply × Turn) :=
  match t.storage.acquire name id false with
  | .error e => some (.error e, t)
  | .ok _ =>
    match t.storage.table name with
    | .error e => some (.error e, t)
    | .ok table => do
      match ← (table.changes? b assignments).run with
      | .error e => return (.error e, t)
      | .ok changes =>
        match ← (table.condition? b filter).run with
        | .error e => return (.error e, t)
        | .ok condition =>
          if ← table.meetsAny? id condition then
            match claim id name t with
            | (.error e, t) => return (.error e, t)
            | (.ok _, t) =>
              match t.storage.table name with
              | .error e => return (.error e, t)
              | .ok table =>
                let (count, rows) ← table.updated? changes condition
                return (.ok (.count count),
                  { t with storage := t.storage.put name { table with rows } })
          else return (.ok (.count 0), t)

/-- Executes a statement by strict access. -/
def execute? : Statement → Turn → Option (Except Error Reply × Turn)
  | .createTable name columns ifNotExists, t => some (createTable name columns ifNotExists t)
  | .dropTable name ifExists, t => some (dropTable id name ifExists t)
  | .insert name rows, t => insert? id b name rows t
  | .select name items filter forUpdate, t => select? id b name items filter forUpdate t
  | .update name assignments filter, t => update? id b name assignments filter t

end Definitions

variable {t : Turn} {id : Nat} {name : String} {table : Table}

theorem Rectangular.of_table (h : t.Rectangular) (ht : t.storage.table name = .ok table) :
    table.Rectangular := by
  cases hg : t.storage.get? name with
  | none =>
    rw [Storage.table_of_get?_none hg] at ht
    cases ht
  | some u =>
    rw [Storage.table_of_get? hg] at ht
    cases ht
    exact h.tables name table hg

theorem Rectangular.claim (h : t.Rectangular) (id : Nat) (name : String) :
    (claim id name t).2.Rectangular := by
  rcases claim_cases id name t with ⟨e, hc⟩ | ⟨table, hg, -, hc⟩
  · rw [hc]
    exact h
  · rw [hc]
    exact h.moves (W := fun _ => False) (hold_moves hg)

theorem Rectangular.select?_eq (h : t.Rectangular) {filter : Option Filter}
    (hf : Filter.Placed filter) (id : Nat) (b : Bindings) (name : String) (items : List Projection)
    (forUpdate : Bool) : select? id b name items filter forUpdate t =
      some (select id b name items filter forUpdate t) := by
  have hclaim : (if forUpdate then Turn.claim id name t else (.ok (), t)).2.Rectangular := by
    cases forUpdate with
    | true => exact h.claim id name
    | false => exact h
  unfold select? select
  rcases hc : (if forUpdate then Turn.claim id name t else (.ok (), t)) with ⟨e | u, t'⟩
  · rfl
  · rw [hc] at hclaim
    dsimp only
    cases ht : t'.storage.table name with
    | error e => rfl
    | ok table =>
      have hselect := (hclaim.of_table ht).select?_comesTo hf id items b
      dsimp only
      rw [hselect]
      rfl

theorem insert?_eq {rows : List (List Operand)} (hr : ∀ row ∈ rows, ∀ o ∈ row, o.Placed)
    (id : Nat) (b : Bindings) (name : String) (t : Turn) :
    insert? id b name rows t = some (insert id b name rows t) := by
  unfold insert? insert
  rcases Turn.claim id name t with ⟨e | u, t'⟩
  · rfl
  · dsimp only
    cases t'.storage.table name with
    | error e => rfl
    | ok table =>
      have hnew := Table.newRows?_comesTo hr table name b
      dsimp only
      rw [hnew]
      cases table.newRows name b rows <;> rfl

theorem Rectangular.update?_eq (h : t.Rectangular) {assignments : List (String × Operand)}
    (ha : ∀ a ∈ assignments, a.2.Placed) {filter : Option Filter} (hf : Filter.Placed filter)
    (id : Nat) (b : Bindings) (name : String) : update? id b name assignments filter t =
      some (update id b name assignments filter t) := by
  unfold update? update
  cases t.storage.acquire name id false with
  | error e => rfl
  | ok _ =>
    dsimp only
    cases ht : t.storage.table name with
    | error e => rfl
    | ok table =>
      have hchanges := Table.changes?_comesTo ha table b
      have hcondition := Table.condition?_comesTo hf table b
      have hrect := h.of_table ht
      dsimp only
      rw [hchanges, hcondition]
      cases hc : table.changes b assignments with
      | error e => rfl
      | ok changes =>
        cases hd : table.condition b filter with
        | error e => rfl
        | ok condition =>
          have hcondition := Table.condition_lt hd
          have hchanges := Table.changes_lt hc
          simp only [Option.bind_eq_bind, Option.bind_some, hrect.meetsAny?_eq id hcondition]
          split
          · rcases claim_cases id name t with ⟨e, hclaim⟩ | ⟨u, hu, -, hclaim⟩
            · rw [hclaim]
              rfl
            · obtain rfl : u = table :=
                Except.ok.inj ((Storage.table_of_get? hu).symm.trans ht)
              -- The claim keeps the columns and the rows, so the positions are still in range.
              have hclaimed : (t.claimed id u).Rectangular :=
                Rectangular.of_table (by simpa only [hclaim] using h.claim id name)
                  (Storage.table_of_get? (get?_hold_self hu))
              rw [← claimed_columns t id u] at hcondition hchanges
              simp only [hclaim, Storage.table_of_get? (get?_hold_self hu),
                hclaimed.updated?_eq hchanges hcondition, Option.bind_some]
              rfl
          · rfl

/-- **The execution of a statement** whose parameters have positions looks up no cell and no bound
value out of range, if rows are as wide as their tables. -/
theorem Rectangular.execute?_eq (h : t.Rectangular) {s : Statement} (hs : s.Placed) (id : Nat)
    (b : Bindings) : execute? id b s t = some (execute id b s t) := by
  cases s with
  | createTable name columns ifNotExists => rfl
  | dropTable name ifExists => rfl
  | insert name rows => exact insert?_eq hs id b name t
  | select name items filter forUpdate => exact h.select?_eq hs id b name items forUpdate
  | update name assignments filter => exact h.update?_eq hs.1 hs.2 id b name

theorem width_of_select {reader : Nat} {items : List Projection} {filter : Option Filter}
    {b : Bindings} {q : QueryResult} (h : table.select reader items filter b = .ok q) :
    ∀ row ∈ q.rows, row.length = q.columns.length := by
  obtain ⟨columns, -, h⟩ := exists_of_bind_eq_ok h
  obtain ⟨condition, -, h⟩ := exists_of_bind_eq_ok h
  cases h
  intro row hrow
  obtain ⟨r, -, rfl⟩ := List.mem_map.mp hrow
  rw [List.length_map, List.length_map]

/-- **The rows of every answer** have a cell for each of its columns. -/
theorem width_of_execute {s : Statement} {b : Bindings} {q : QueryResult}
    (h : (execute id b s t).1 = .ok (.rows q)) : ∀ row ∈ q.rows, row.length = q.columns.length := by
  have hs := (isRows_of_execute h).mp ⟨q, rfl⟩
  cases s with
  | select name items filter forUpdate =>
    obtain ⟨table, result, hresult, ⟨⟩⟩ := exists_of_select h
    exact width_of_select hresult
  | createTable | dropTable | insert | update => cases hs

end Turn

namespace Database

variable {db : Database}

/-- **In a reachable database** rows are as wide as their tables, and the statement of every text
that is understood, with whatever bound values and on whatever connection, is executed without any
access out of range; the rows it answers are as wide as the answer has columns. -/
theorem Reachable.accesses_in_range (h : Reachable db) :
    db.Rectangular ∧
      ∀ sql s, Statement.ofText sql = .ok s → ∀ id b,
        Turn.execute? id b s ⟨db.storage, db.transaction? id⟩ =
            some (Turn.execute id b s ⟨db.storage, db.transaction? id⟩) ∧
          ∀ q, (Turn.execute id b s ⟨db.storage, db.transaction? id⟩).1 = .ok (.rows q) →
            ∀ row ∈ q.rows, row.length = q.columns.length := by
  refine ⟨h.rectangular, fun sql s hs id b => ⟨?_, fun q hq => Turn.width_of_execute hq⟩⟩
  have ht : Turn.Rectangular ⟨db.storage, db.transaction? id⟩ :=
    ⟨h.rectangular.tables, h.rectangular.kept id⟩
  exact ht.execute?_eq (Statement.placed_of_ofText hs) id b

/-- A statement with two parameters, executed on a table that is locked. -/
theorem accesses_in_range_inserting :
    inserting.Rectangular ∧
      (Turn.execute? 1 [(1, .integer 9), (2, .integer 5)]
          (.update "t" [("v", .param 1)] (some ⟨"v", .param 2⟩))
          ⟨inserting.storage, inserting.transaction? 1⟩).map (·.1) = some (.ok (.count 1)) := by
  have hs : Statement.ofText "update t set v = ? where v = ?" =
      .ok (.update "t" [("v", .param 1)] (some ⟨"v", .param 2⟩)) := by
    decide +kernel
  obtain ⟨hrect, hall⟩ := Reachable.accesses_in_range inserting_reachable
  refine ⟨hrect, ?_⟩
  rw [(hall _ _ hs 1 [(1, .integer 9), (2, .integer 5)]).1]
  rfl

end Database

end CounterTable
