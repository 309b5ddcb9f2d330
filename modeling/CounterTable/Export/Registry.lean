import CounterTable.Allocation.Counter

/-!
# The schema to export

Counters register the tables that they need. The export creates every registered table and then
runs the commands that fill them.

* `Registry`: the tables, in the order of their names, and the commands;
* `Registry.register`: adds the table of a counter, once;
* `Registry.createScript`, `Registry.dropScript`: the export in a dialect.
-/

namespace CounterTable

/-- A column of an exported table, by its name as statements write it. -/
structure ExportColumn where
  name : String
  type : NumberType
deriving DecidableEq, Repr

/-- A table to export. -/
structure ExportTable where
  name : QualifiedName
  columns : List ExportColumn := []
deriving DecidableEq, Repr

namespace ExportTable

/-- Adds a column, unless there is one of its name. -/
def addColumn (t : ExportTable) (c : ExportColumn) : ExportTable :=
  if t.columns.any (·.name == c.name) then t else { t with columns := t.columns ++ [c] }

/-- The statement that creates the table. -/
def createText (d : Dialect) (t : ExportTable) : String :=
  let columns := t.columns.map fun c => s!"{c.name} {d.typeName c.type}"
  let columnText := ", ".intercalate columns
  s!"{d.createTable} {t.name.render d} ( {columnText} )"

/-- The statement that drops the table. -/
def dropText (d : Dialect) (t : ExportTable) : String := d.dropTableText (t.name.render d)

end ExportTable

/-- The tables to export, in the order of their names, and the commands that fill them. -/
structure Registry where
  tables : List ExportTable := []
  initCommands : List String := []
deriving DecidableEq, Repr, Inhabited

namespace Registry

/-- The table of a name. -/
def locate? (r : Registry) (name : QualifiedName) : Option ExportTable :=
  r.tables.find? (·.name == name)

/-- Puts a table in its place among others. -/
def place (t : ExportTable) : List ExportTable → List ExportTable
  | [] => [t]
  | u :: us =>
    match compare t.name u.name with
    | .lt => t :: u :: us
    | .eq => t :: us
    | .gt => u :: place t us

/-- Adds a table, in place of the one of its name. -/
def put (r : Registry) (t : ExportTable) : Registry := { r with tables := place t r.tables }

/-- The table of a name, empty if there is none yet. -/
def table (r : Registry) (name : QualifiedName) : ExportTable := (r.locate? name).getD { name }

/-- Adds a column to the table of a name, which is created if there is none. -/
def addColumn (r : Registry) (name : QualifiedName) (c : ExportColumn) : Registry :=
  r.put ((r.table name).addColumn c)

/-- Adds a command that is run after all tables exist. -/
def addInitCommand (r : Registry) (sql : String) : Registry :=
  { r with initCommands := r.initCommands ++ [sql] }

/-- Adds the table of a counter and the command that fills it, unless there is a table of its
name. -/
def register (r : Registry) (c : Counter) : Registry :=
  match r.locate? c.name with
  | some _ => r
  | none => (r.addColumn c.name ⟨c.column, .long⟩).addInitCommand c.seedStatement

/-- The tables with the given qualifiers. -/
def tablesIn (r : Registry) (catalog schema : Option Identifier) : List ExportTable :=
  r.tables.filter fun t => t.name.catalog == catalog && t.name.schema == schema

/-- The statements that create all tables and fill them. -/
def createScript (r : Registry) (d : Dialect) : List String :=
  r.tables.map (ExportTable.createText d) ++ r.initCommands

/-- The statements that drop all tables, the last one first. -/
def dropScript (r : Registry) (d : Dialect) : List String :=
  (r.tables.map (ExportTable.dropText d)).reverse

end Registry

end CounterTable
