import CounterTable.Allocation.Work
import CounterTable.Sql.QueryResult

/-!
# Connections

What a counter asks of a database. A connection answers calls one at a time; at most one statement
is prepared on it, and binding and executing refer to that statement.

* `Call`, `Call.Answer`: the calls, and what each answers;
* `Connection`: anything that answers calls on some state;
* `Connection.execute`, `Connection.query`, `Connection.executeAll`: statements without parameters;
* `Connection.recorded`: a connection that keeps the list of its calls.
-/

namespace CounterTable

/-- The calls on a connection. -/
inductive Call where
  | begin
  | commit
  | rollback
  /-- Prepares a statement, which replaces the one prepared before. -/
  | prepare (sql : String)
  /-- Binds a parameter; positions count from 1. -/
  | bind (position : Nat) (value : Value)
  /-- Executes the prepared statement for its rows. -/
  | query
  /-- Executes the prepared statement for the number of rows it changed. -/
  | update
deriving DecidableEq, Repr

/-- What a successful call answers. -/
abbrev Call.Answer : Call → Type
  | .query => QueryResult
  | .update => Nat
  | _ => Unit

/-- Anything that answers calls on some state. -/
structure Connection (σ : Type) where
  inTransaction : σ → Bool
  call : (c : Call) → Action σ c.Answer

namespace Connection

variable {σ : Type} (conn : Connection σ)

/-- Executes a statement without parameters. -/
def execute (sql : String) : Action σ Nat :=
  (conn.call (.prepare sql)).andThen fun _ => conn.call .update

/-- Executes a query without parameters. -/
def query (sql : String) : Action σ QueryResult :=
  (conn.call (.prepare sql)).andThen fun _ => conn.call .query

/-- Executes statements one after another, up to the first that fails. -/
def executeAll : List String → Action σ Unit
  | [] => .succeed ()
  | sql :: rest => (conn.execute sql).andThen fun _ => executeAll rest

/-- The connection with the list of its calls beside its state, the latest call last. -/
def recorded : Connection (σ × List Call) where
  inTransaction s := conn.inTransaction s.1
  call c := fun (s, calls) =>
    let (r, s) := conn.call c s
    (r, (s, calls ++ [c]))

end Connection

/-- The text of a call in a trace. -/
def Call.display : Call → String
  | .begin => "begin"
  | .commit => "commit"
  | .rollback => "rollback"
  | .prepare sql => s!"prepare {sql}"
  | .bind position value => s!"bind {position} {value.display}"
  | .query => "query"
  | .update => "update"

end CounterTable
