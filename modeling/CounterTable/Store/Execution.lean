import CounterTable.Allocation.Work
import CounterTable.Sql.Statement
import CounterTable.Store.Table

/-!
# Executing statements

A statement runs on the storage for one connection. In a transaction it holds the lock of each
table that it writes, or reads for update, and it notes how to take back what it creates and drops.
Outside a transaction it only needs the lock to be free.

* `Transaction`: what a transaction holds and can take back;
* `Bindings.resolve`: the value of an operand;
* `Turn`, `Turn.execute`: a statement of one connection;
* `Turn.finish`: the end of a transaction.
-/

namespace CounterTable

/-- The values bound to parameters, by position. -/
abbrev Bindings : Type := Keyed Nat Value

/-- The value of an operand: parameters have to be bound to integers. -/
def Bindings.resolve (b : Bindings) : Operand → Except Error Int64
  | .literal v => .ok v
  | .param position =>
    match b.get? position with
    | none => .error (.unsupported s!"parameter {position} is not bound")
    | some value =>
      match value.word? with
      | some w => .ok w
      | none => .error (.typeMismatch
          s!"parameter {position} must be an integer, got {value.typeName}")

/-- The locked tables, and how to take back the changes of the schema, the latest first. -/
structure Transaction where
  locked : List String := []
  undo : List Undo := []
deriving DecidableEq, Repr, Inhabited

/-- What a statement answers. -/
inductive Reply where
  | rows (result : QueryResult)
  | count (n : Nat)
deriving DecidableEq, Repr

/-- A cell that has to hold a value, by the position of its column; none is always met. -/
abbrev Condition : Type := Option (Nat × Int64)

/-- Whether a row meets a condition. -/
def Row.meets (row : Row) : Condition → Bool
  | none => true
  | some (i, v) => row[i]? == some v

/-- A row with some cells changed, one after another. -/
def Row.assign (row : Row) (changes : List (Nat × Int64)) : Row :=
  changes.foldl (fun row (i, v) => row.set i v) row

namespace Table

/-- The condition that a filter sets. -/
def condition (t : Table) (b : Bindings) : Option Filter → Except Error Condition
  | none => .ok none
  | some f => do
    let i ← t.columnIndex f.column
    return some (i, ← b.resolve f.value)

/-- The cells that assignments change. -/
def changes (t : Table) (b : Bindings) (assignments : List (String × Operand)) :
    Except Error (List (Nat × Int64)) :=
  assignments.mapM fun (column, value) => do
    let i ← t.columnIndex column
    return (i, ← b.resolve value)

/-- The name and the position of each selected column. -/
def selected (t : Table) (items : List Projection) : Except Error (List (String × Nat)) := do
  let parts ← items.mapM fun item =>
    match item with
    | .all => .ok t.columns.zipIdx
    | .column name shown => do return [(shown.getD name, ← t.columnIndex name)]
  return parts.flatten

/-- The rows that a connection selects. -/
def select (t : Table) (reader : Nat) (items : List Projection) (filter : Option Filter)
    (b : Bindings) : Except Error QueryResult := do
  let columns ← t.selected items
  let condition ← t.condition b filter
  return {
    columns := columns.map (·.1)
    rows := ((t.visibleRows reader).filter (Row.meets · condition)).map fun row =>
      columns.map fun (_, i) => .integer (row.getD i 0) }

/-- The rows of an insertion, each as wide as the table. -/
def newRows (t : Table) (name : String) (b : Bindings) (rows : List (List Operand)) :
    Except Error (List Row) :=
  rows.mapM fun row =>
    if row.length = t.columns.length then row.mapM b.resolve
    else .error (.unsupported
      s!"{name} has {t.columns.length} columns but {row.length} values were given")

end Table

/-- What the statements of one connection work on: the storage, and the transaction that the
connection is in. -/
structure Turn where
  storage : Storage
  transaction : Option Transaction
deriving Repr

namespace Turn

/-- Needs the lock of a table: it is held in a transaction, and has to be free outside of one. -/
def claim (id : Nat) (name : String) : Action Turn Unit := fun t =>
  match t.storage.acquire name id t.transaction.isSome with
  | .error e => (.error e, t)
  | .ok (taken, storage) =>
    (.ok (), {
      storage
      transaction :=
        if taken then t.transaction.map fun x => { x with locked := name :: x.locked }
        else t.transaction })

/-- Notes how to take a change back, in a transaction. -/
def note (t : Turn) (u : Undo) : Turn :=
  { t with transaction := t.transaction.map fun x => { x with undo := u :: x.undo } }

/-- Reads a table; reading for update needs its lock. -/
def select (id : Nat) (b : Bindings) (name : String) (items : List Projection)
    (filter : Option Filter) (forUpdate : Bool) : Action Turn Reply := fun t =>
  match if forUpdate then claim id name t else (.ok (), t) with
  | (.error e, t) => (.error e, t)
  | (.ok _, t) =>
    match t.storage.table name with
    | .error e => (.error e, t)
    | .ok table => ((table.select id items filter b).map .rows, t)

/-- Inserts rows into a table. -/
def insert (id : Nat) (b : Bindings) (name : String) (rows : List (List Operand)) :
    Action Turn Reply := fun t =>
  match claim id name t with
  | (.error e, t) => (.error e, t)
  | (.ok _, t) =>
    match t.storage.table name with
    | .error e => (.error e, t)
    | .ok table =>
      match table.newRows name b rows with
      | .error e => (.error e, t)
      | .ok new =>
        (.ok (.count new.length),
          { t with storage := t.storage.put name { table with rows := table.rows ++ new } })

/-- Changes rows of a table. No row of it may be locked by another connection, but the lock is taken
only if some row is to be changed. -/
def update (id : Nat) (b : Bindings) (name : String) (assignments : List (String × Operand))
    (filter : Option Filter) : Action Turn Reply := fun t =>
  match t.storage.acquire name id false with
  | .error e => (.error e, t)
  | .ok _ =>
    match t.storage.table name with
    | .error e => (.error e, t)
    | .ok table =>
      match table.changes b assignments, table.condition b filter with
      | .error e, _ => (.error e, t)
      | .ok _, .error e => (.error e, t)
      | .ok changes, .ok condition =>
        if (table.visibleRows id).any (Row.meets · condition) then
          match claim id name t with
          | (.error e, t) => (.error e, t)
          | (.ok _, t) =>
            match t.storage.table name with
            | .error e => (.error e, t)
            | .ok table =>
              let rows := table.rows.map fun row =>
                if Row.meets row condition then Row.assign row changes else row
              (.ok (.count (table.rows.countP (Row.meets · condition))),
                { t with storage := t.storage.put name { table with rows } })
        else (.ok (.count 0), t)

/-- Creates a table. -/
def createTable (name : String) (columns : List String) (ifNotExists : Bool) :
    Action Turn Reply := fun t =>
  if t.storage.contains name && ifNotExists then (.ok (.count 0), t)
  else
    match t.storage.create name columns with
    | .error e => (.error e, t)
    | .ok storage => (.ok (.count 0), { t with storage }.note (.created name))

/-- Drops a table. -/
def dropTable (id : Nat) (name : String) (ifExists : Bool) : Action Turn Reply := fun t =>
  if t.storage.contains name then
    match claim id name t with
    | (.error e, t) => (.error e, t)
    | (.ok _, t) =>
      match t.storage.drop name with
      | .error e => (.error e, t)
      | .ok (table, storage) => (.ok (.count 0), { t with storage }.note (.dropped name table))
  else if ifExists then (.ok (.count 0), t)
  else (.error (.tableNotFound name), t)

/-- Executes a statement of the connection `id`. -/
def execute (id : Nat) (b : Bindings) : Statement → Action Turn Reply
  | .createTable name columns ifNotExists => createTable name columns ifNotExists
  | .dropTable name ifExists => dropTable id name ifExists
  | .insert name rows => insert id b name rows
  | .select name items filter forUpdate => select id b name items filter forUpdate
  | .update name assignments filter => update id b name assignments filter

/-- Ends the transaction of the connection `id` and gives its locks back; its changes are kept or
undone, those of the schema before those of the rows. -/
def finish (id : Nat) (keep : Bool) : Action Turn Unit := fun t =>
  match t.transaction with
  | none => (.error (.transaction "no active transaction"), t)
  | some x =>
    let storage := if keep then t.storage else x.undo.foldl Storage.undo t.storage
    (.ok (), {
      storage := x.locked.foldl (fun s name => s.release id keep name) storage
      transaction := none })

end Turn

end CounterTable
