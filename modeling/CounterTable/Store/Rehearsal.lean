import CounterTable.Allocation.Backend
import CounterTable.Store.Database

/-!
# Rehearsed races

A race between allocations can be rehearsed: after each successful query of a rehearsed connection,
a statement that waits for its turn runs on a connection of its own. The texts that rehearsed
connections prepare are recorded.

* `Rehearsal`: a database with the record and the waiting statements;
* `Rehearsal.connection`, `Rehearsal.quiet`, `Rehearsal.backend`: connections that are rehearsed, or
  left alone;
* `Database.backend`: the connections of a database by itself.
-/

namespace CounterTable

/-- The connections of a database in memory. -/
def Database.backend : Backend Database where
  connect := Database.connect
  connection := Database.connection
  disconnect := Database.disconnect

/-- A database, the texts that rehearsed connections have prepared, and the statements that wait
for a query. -/
structure Rehearsal where
  database : Database := {}
  prepared : List String := []
  waiting : List String := []

namespace Rehearsal

/-- Executes a statement on a connection of its own. -/
def interfere (sql : String) : Action Rehearsal Unit := fun r =>
  let (id, database) := r.database.connect
  let (result, database) := (Database.connection id).execute sql database
  (result.map fun _ => (), { r with database := database.disconnect id })

/-- A call on the database. -/
def onDatabase {α : Type} (act : Action Database α) : Action Rehearsal α := fun r =>
  let (result, database) := act r.database
  (result, { r with database })

/-- A query, and the first waiting statement after it. A failure of that statement is a failure of
the query. -/
def query (id : Nat) : Action Rehearsal QueryResult := fun r =>
  match onDatabase (Database.query id) r with
  | (.error e, r) => (.error e, r)
  | (.ok result, r) =>
    match r.waiting with
    | [] => (.ok result, r)
    | sql :: waiting =>
      match interfere sql { r with waiting } with
      | (.error e, r) => (.error e, r)
      | (.ok _, r) => (.ok result, r)

/-- A rehearsed connection. -/
def connection (id : Nat) : Connection Rehearsal where
  inTransaction r := r.database.inTransaction id
  call
    | .prepare sql => fun r =>
      onDatabase (Database.prepare id sql) { r with prepared := r.prepared ++ [sql] }
    | .query => query id
    | c => onDatabase ((Database.connection id).call c)

/-- A connection that is left alone. -/
def quiet (id : Nat) : Connection Rehearsal where
  inTransaction r := r.database.inTransaction id
  call c := onDatabase ((Database.connection id).call c)

/-- Opens a connection. -/
def connect (r : Rehearsal) : Nat × Rehearsal :=
  let (id, database) := r.database.connect
  (id, { r with database })

/-- Closes a connection. -/
def disconnect (id : Nat) (r : Rehearsal) : Rehearsal :=
  { r with database := r.database.disconnect id }

/-- Rehearsed connections, or connections that are left alone. -/
def backend (rehearsed : Bool) : Backend Rehearsal where
  connect := connect
  connection := if rehearsed then connection else quiet
  disconnect := disconnect

end Rehearsal

end CounterTable
