import CounterTable.Allocation.Connection
import CounterTable.Store.Execution

/-!
# The database in memory

A database holds tables of integers, and a link for each open connection. Connections have numbers,
counted from 1 in the order they were opened.

* `Database.connect`, `Database.disconnect`: opening and closing a connection; closing it rolls its
  transaction back;
* `Database.connection`: an open connection as a `Connection`;
* `Database.columnValues`, `Database.committed`: the rows as a new connection sees them.
-/

namespace CounterTable

/-- A prepared statement with the values bound to its parameters. -/
structure Prepared where
  sql : String
  statement : Statement
  bindings : Bindings := []

/-- What belongs to one open connection: its transaction, and its prepared statement. -/
structure Link where
  transaction : Option Transaction := none
  prepared : Option Prepared := none

/-- A database in memory. -/
structure Database where
  storage : Storage := {}
  links : Keyed Nat Link := []
  /-- How many connections have been opened. Numbers tell connections apart, so none is used twice: a
  64-bit word, which would start over, has to be filled by opened connections first. -/
  opened : Nat := 0

namespace Database

/-- Opens a connection, and answers its number. -/
def connect (db : Database) : Nat × Database :=
  (db.opened + 1,
    { db with links := db.links.set (db.opened + 1) {}, opened := db.opened + 1 })

/-- Whether a connection is in a transaction. -/
def inTransaction (id : Nat) (db : Database) : Bool :=
  (db.links.get? id).any (·.transaction.isSome)

/-- The failure of calls on a connection that is not open. -/
def closed (id : Nat) : Error := .connection s!"connection {id} is closed"

/-- Does something on the storage within the transaction of a link. -/
def withTurn {α : Type} (id : Nat) (link : Link) (act : Action Turn α) : Action Database α :=
  fun db =>
    let (r, t) := act ⟨db.storage, link.transaction⟩
    (r, { db with
      storage := t.storage
      links := db.links.set id { link with transaction := t.transaction } })

/-- Ends the transaction of a connection. -/
def finish (id : Nat) (keep : Bool) : Action Database Unit := fun db =>
  match db.links.get? id with
  | some link => withTurn id link (Turn.finish id keep) db
  | none => (.error (.transaction "no active transaction"), db)

/-- Closes a connection, and rolls back the transaction it is in. -/
def disconnect (id : Nat) (db : Database) : Database :=
  let db := if db.inTransaction id then (finish id false db).2 else db
  { db with links := db.links.erase id }

/-- Begins a transaction. -/
def begin (id : Nat) : Action Database Unit := fun db =>
  match db.links.get? id with
  | none => (.error (closed id), db)
  | some link =>
    match link.transaction with
    | some _ => (.error (.transaction "transaction already in progress"), db)
    | none => (.ok (), { db with links := db.links.set id { link with transaction := some {} } })

/-- Rolls back the transaction of a connection, if it is in one. -/
def rollback (id : Nat) : Action Database Unit := fun db =>
  if db.inTransaction id then finish id false db else (.ok (), db)

/-- Prepares a statement. -/
def prepare (id : Nat) (sql : String) : Action Database Unit := fun db =>
  match db.links.get? id with
  | none => (.error (closed id), db)
  | some link =>
    match Statement.ofText sql with
    | .error e => (.error e, db)
    | .ok statement =>
      let link := { link with prepared := some ⟨sql, statement, []⟩ }
      (.ok (), { db with links := db.links.set id link })

/-- The prepared statement of a connection, with its link. -/
def prepared? (db : Database) (id : Nat) : Except Error (Link × Prepared) :=
  match db.links.get? id with
  | none => .error (closed id)
  | some link =>
    match link.prepared with
    | none => .error (.connection s!"connection {id} has no prepared statement")
    | some p => .ok (link, p)

/-- Binds a parameter of the prepared statement. -/
def bind (id position : Nat) (value : Value) : Action Database Unit := fun db =>
  match db.prepared? id with
  | .error e => (.error e, db)
  | .ok (link, p) =>
    if position = 0 then (.error (.unsupported "parameter positions start at 1"), db)
    else
      let p := { p with bindings := p.bindings.set position value }
      (.ok (), { db with links := db.links.set id { link with prepared := some p } })

/-- Executes the prepared statement for its rows. -/
def query (id : Nat) : Action Database QueryResult := fun db =>
  match db.prepared? id with
  | .error e => (.error e, db)
  | .ok (link, p) =>
    match withTurn id link (Turn.execute id p.bindings p.statement) db with
    | (.error e, db) => (.error e, db)
    | (.ok (.rows result), db) => (.ok result, db)
    | (.ok (.count _), db) =>
      (.error (.unsupported s!"statement does not return rows: {p.sql}"), db)

/-- Executes the prepared statement for the number of rows it changes. -/
def update (id : Nat) : Action Database Nat := fun db =>
  match db.prepared? id with
  | .error e => (.error e, db)
  | .ok (link, p) =>
    if p.statement.returnsRows then
      (.error (.unsupported s!"query passed to execute_update: {p.sql}"), db)
    else
      match withTurn id link (Turn.execute id p.bindings p.statement) db with
      | (.error e, db) => (.error e, db)
      | (.ok (.count n), db) => (.ok n, db)
      | (.ok (.rows result), db) => (.ok result.rowCount, db)

/-- An open connection. -/
def connection (id : Nat) : Connection Database where
  inTransaction := inTransaction id
  call
    | .begin => begin id
    | .commit => finish id true
    | .rollback => rollback id
    | .prepare sql => prepare id sql
    | .bind position value => bind id position value
    | .query => query id
    | .update => update id

/-- Whether there is a table of a name. -/
def tableExists (db : Database) (name : String) : Bool := db.storage.contains name

/-- The values in the first column of a table, as a new connection sees them. -/
def columnValues (db : Database) (name : String) : Except Error (List Int64) :=
  (db.storage.table name).map fun t => (t.visibleRows 0).filterMap List.head?

/-- The values in the first column of each table, by the sorted names of the tables. -/
def committed (db : Database) : List (String × List Int64) :=
  db.storage.names.map fun name => (name, (db.columnValues name).toOption.getD [])

end Database

end CounterTable
