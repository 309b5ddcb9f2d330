import CounterTable.Allocation.Retry
import CounterTable.Name.Qualified
import CounterTable.Number.Integral

/-!
# Counters

A counter is a table of one row and one column. An allocation reads the row and advances it by a
fixed step, which other allocations notice because the update names the value that was read.

* `Counter`: the settings and the texts of the statements;
* `Counter.define`: the counter of a table, in a dialect;
* `Counter.step`: how far an allocation advances the row;
* `Counter.createScript`, `Counter.dropScript`: the statements that create, fill and drop the table.
-/

namespace CounterTable

open CounterTable.Text

/-- A counter table and the statements that use it. -/
structure Counter where
  name : QualifiedName
  /-- The name of the table as statements write it. -/
  table : String
  /-- The name of the value column as statements write it. -/
  column : String
  initial : Int64
  increment : Int64
  numberType : NumberType
  selectText : String
  updateText : String
  retry : RetryPolicy := .unbounded
  /-- Whether an allocation advances the row by the whole increment, or by one. -/
  appliesIncrement : Bool := false
deriving DecidableEq, Repr

namespace Counter

/-- The statement that reads the row and locks it as far as the dialect can. -/
def selectStatement (d : Dialect) (table column : String) : String :=
  s!"select {column} as id_val from {d.withLockHint .write table}{d.forUpdate}"

/-- The statement that replaces the value that was read. -/
def updateStatement (table column : String) : String :=
  s!"update {table} set {column}= ? where {column}=?"

/-- The counter of a table, in a dialect. -/
def define (d : Dialect) (name : QualifiedName) (column : Identifier) (initial increment : Int64)
    (numberType : NumberType) : Except Error Counter :=
  if increment < 1 then
    .error (.configuration s!"increment size must be positive, got {renderInt increment.toInt}")
  else if ¬ numberType.Contains initial.toInt then
    .error (.configuration
      s!"initial value {renderInt initial.toInt} does not fit in a {numberType.name}")
  else
    let table := name.render d
    let column := column.render d
    .ok
      { name, table, column, initial, increment, numberType
        selectText := selectStatement d table column
        updateText := updateStatement table column }

/-- How far an allocation advances the row. -/
def step (c : Counter) : Int := if c.appliesIncrement then c.increment.toInt else 1

/-- The statement that fills the table. -/
def seedStatement (c : Counter) : String :=
  s!"insert into {c.table} values ( {renderInt c.initial.toInt} )"

/-- The statements that create the table and fill it. -/
def createScript (c : Counter) (d : Dialect) : List String :=
  [s!"{d.createTable} {c.table} ( {c.column} {d.typeName .long} )", c.seedStatement]

/-- The statement that drops the table. -/
def dropScript (c : Counter) (d : Dialect) : List String := [d.dropTableText c.table]

end Counter

end CounterTable
