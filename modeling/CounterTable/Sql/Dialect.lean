import CounterTable.Number.NumberType

/-!
# Dialects

What vendors write differently: quotes around names, type names, how a read locks the row, and how
a table is dropped.

* `Dialect`: the five things that differ, as data;
* `Dialect.generic`, `Dialect.postgresql`, `Dialect.mysql`, `Dialect.sqlserver`;
* `Dialect.ofText`: the dialect of a name or alias.
-/

namespace CounterTable

/-- What a read of a row announces about the writes that follow. -/
inductive LockMode where
  | none
  | read
  | write
deriving DecidableEq, Repr

/-- How a vendor writes what a counter table needs. -/
structure Dialect where
  name : String
  openQuote : Char
  closeQuote : Char
  typeName : NumberType → String
  /-- The clause at the end of a locking read, with the space before it. -/
  forUpdate : String
  /-- The hint behind the name of a table that is read, with the space before it. -/
  lockHint : LockMode → String
  /-- What stands before and behind the name of a table in the statement that drops it. -/
  dropTable : String × String

namespace Dialect

/-- Double quotes, standard type names and `for update`. -/
def generic : Dialect where
  name := "generic"
  openQuote := '"'
  closeQuote := '"'
  typeName
    | .short => "smallint"
    | .integer => "integer"
    | .long => "bigint"
  forUpdate := " for update"
  lockHint _ := ""
  dropTable := ("drop table ", "")

/-- Types named by their bytes, and tables dropped with all that depends on them. -/
def postgresql : Dialect :=
  { generic with
    name := "postgresql"
    typeName := fun
      | .short => "int2"
      | .integer => "int4"
      | .long => "int8"
    dropTable := ("drop table if exists ", " cascade") }

/-- Backquotes around names. -/
def mysql : Dialect :=
  { generic with
    name := "mysql"
    openQuote := '\x60'
    closeQuote := '\x60'
    dropTable := ("drop table if exists ", "") }

/-- Brackets, and a lock hint at the table instead of a clause at the end. -/
def sqlserver : Dialect :=
  { generic with
    name := "sqlserver"
    openQuote := '['
    closeQuote := ']'
    typeName := fun
      | .short => "smallint"
      | .integer => "int"
      | .long => "bigint"
    forUpdate := ""
    lockHint := fun
      | .none => ""
      | .read => " with (holdlock, rowlock)"
      | .write => " with (updlock, rowlock)" }

/-- The dialects. -/
def all : List Dialect := [generic, postgresql, mysql, sqlserver]

/-- The dialect that a name or one of its aliases stands for. -/
def ofName? (name : String) : Option Dialect :=
  if name = "generic" then some generic
  else if name ∈ ["postgres", "postgresql"] then some postgresql
  else if name ∈ ["mysql", "mariadb"] then some mysql
  else if name ∈ ["sqlserver", "mssql"] then some sqlserver
  else none

/-- Finds a dialect by its name in any case, with blanks around it. -/
def ofText (text : String) : Except Error Dialect :=
  match ofName? (String.ofList (Text.lower (Text.trim text.toList))) with
  | some d => .ok d
  | none => .error (.configuration s!"Unknown dialect '{text}'")

/-- The start of a statement that creates a table. -/
def createTable (_ : Dialect) : String := "create table"

/-- The statement that drops a table. -/
def dropTableText (d : Dialect) (table : String) : String :=
  d.dropTable.1 ++ table ++ d.dropTable.2

/-- The name of a table that is read, with its lock hint. -/
def withLockHint (d : Dialect) (mode : LockMode) (table : String) : String :=
  table ++ d.lockHint mode

theorem ofName?_name {d : Dialect} (h : d ∈ all) : ofName? d.name = some d := by
  simp only [all, List.mem_cons, List.not_mem_nil, or_false] at h
  rcases h with rfl | rfl | rfl | rfl <;> rfl

end Dialect

end CounterTable
