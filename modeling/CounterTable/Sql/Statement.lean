import CounterTable.Error
import CounterTable.Sql.Grammar.Statement
import CounterTable.Text.Numeral

/-!
# Statements

The statements that the store can run. Only what a counter and the export of a schema need is
understood: tables of integers are created and dropped, rows are inserted, and one table is read or
changed where a column equals a value.

* `Operand`, `Filter`, `Projection`, `Statement`: the statements;
* `Statement.ofClause`: the statement that was read, or why it cannot be run;
* `Statement.ofText`: the one statement of a text.
-/

namespace CounterTable

open CounterTable.Sql CounterTable.Text

/-- A value in a statement. -/
inductive Operand where
  | literal (value : Int64)
  /-- A parameter by its position; positions count from 1. -/
  | param (position : Nat)
deriving DecidableEq, Repr

/-- A column that has to equal a value. -/
structure Filter where
  column : String
  value : Operand
deriving DecidableEq, Repr

/-- What is selected of each row. -/
inductive Projection where
  | all
  | column (name : String) (shown : Option String)
deriving DecidableEq, Repr

/-- The statements that the store can run. -/
inductive Statement where
  | createTable (table : String) (columns : List String) (ifNotExists : Bool)
  | dropTable (table : String) (ifExists : Bool)
  | insert (table : String) (rows : List (List Operand))
  | select (table : String) (projection : List Projection) (filter : Option Filter)
      (forUpdate : Bool)
  | update (table : String) (assignments : List (String × Operand)) (filter : Option Filter)
deriving DecidableEq, Repr

namespace Statement

/-- Whether executing a statement answers rows. -/
def returnsRows : Statement → Bool
  | select .. => true
  | _ => false

/-- Gives meaning to what was read; the state is the number of the parameters without a position so
far. -/
abbrev Recognition (α : Type) : Type := StateT Nat (Except Error) α

/-- The parameter that a placeholder stands for: the next one, or the one of its position. -/
def placeholder (text : String) : Recognition Operand := fun count =>
  match text.toList with
  | ['?'] => .ok (.param (count + 1), count + 1)
  | '$' :: position =>
    match readNat? position with
    | some n =>
      if 1 ≤ n ∧ n < UInt64.size then .ok (.param n, count)
      else .error (.parse s!"bad placeholder {text}")
    | none => .error (.parse s!"bad placeholder {text}")
  | _ => .error (.unsupported s!"placeholder style {text}")

/-- A value with its sign changed. -/
def negate : Operand → Except Error Operand
  | .literal v =>
    match word? (-v.toInt) with
    | some w => .ok (.literal w)
    | none => .error (.parse s!"cannot negate {renderInt v.toInt}")
  | .param _ => .error (.unsupported "negated parameters")

/-- The value that an expression stands for. -/
def operand : Expr → Recognition Operand
  | .nested e => operand e
  | .negated e => do
    let v ← operand e
    negate v
  | .number text _ =>
    match readWord? text.toList with
    | some w => return .literal w
    | none => throw (.parse s!"not an integer literal: {text}")
  | .placeholder text _ => placeholder text
  | .literal text => throw (.unsupported s!"only integer values are supported, got {text}")
  | e => throw (.unsupported s!"unsupported value expression {e.render}")

/-- The name of the column that an expression stands for. -/
def column (e : Expr) : Except Error String :=
  match e with
  | .column parts =>
    match parts.getLast? with
    | some i => .ok i.text
    | none => .error (.parse "empty column reference")
  | e => .error (.unsupported s!"expected a column reference, got {e.render}")

/-- The filter that an expression stands for. -/
def filter : Expr → Recognition Filter
  | .nested e => filter e
  | .equation l r => do
    let column ← column l
    return ⟨column, ← operand r⟩
  | e => throw (.unsupported s!"only `column = value` filters are supported, got {e.render}")

/-- The filter of a statement that may have none. -/
def optionalFilter : Option Expr → Recognition (Option Filter)
  | none => return none
  | some e => some <$> filter e

/-- What is selected. -/
def projection : SelectItem → Except Error Projection
  | .all => .ok .all
  | .expr e => (column e).map (.column · none)
  | .aliased e i => (column e).map (.column · (some i.text))
  | .other => .error (.unsupported "unsupported select item")

/-- The selection that a query stands for. Hints in parentheses behind the table lock it as `for
update` does. -/
def selection (q : Query) : Recognition Statement := do
  match q.body with
  | .select s =>
    match s.sources with
    | [⟨relation, false⟩] =>
      match relation with
      | .table name hinted =>
        let projection ← s.items.mapM (fun item => projection item)
        let filter ← optionalFilter s.filter
        return .select (renderName name) projection filter (q.locks || hinted)
      | .other => throw (.unsupported "SELECT needs a plain table reference")
    | _ => throw (.unsupported "SELECT must read exactly one table")
  | _ => throw (.unsupported "only plain SELECT is supported")

/-- The insertion of the rows of a query. -/
def insertion (table : List Ident) (source : Option Query) : Recognition Statement := do
  match source with
  | none => throw (.unsupported "INSERT needs a VALUES clause")
  | some q =>
    match q.body with
    | .values rows => return .insert (renderName table) (← rows.mapM (·.mapM operand))
    | _ => throw (.unsupported "only INSERT ... VALUES is supported")

/-- The name of an assigned column, as it was written. -/
def assigned : Target → Except Error String
  | .column [name] => .ok name.render
  | .column _ => .error (.unsupported "qualified column names are not supported")
  | .tuple => .error (.unsupported "only simple column assignments are supported")

/-- One assignment. -/
def assignment (a : Target × Expr) : Recognition (String × Operand) := do
  let column ← assigned a.1
  return (column, ← operand a.2)

/-- The statement that was read, or why it cannot be run. -/
def ofClause : Clause → Recognition Statement
  | .createTable table columns ifNotExists =>
    return .createTable (renderName table) (columns.map (·.text)) ifNotExists
  | .drop true [name] ifExists => return .dropTable (renderName name) ifExists
  | .drop _ _ _ => throw (.unsupported "only single-table DROP TABLE is supported")
  | .insert table _ source => insertion table source
  | .query q => selection q
  | .update (.table name _) assignments condition => do
    let assignments ← assignments.mapM assignment
    return .update (renderName name) assignments (← optionalFilter condition)
  | .update .other _ _ => throw (.unsupported "UPDATE needs a plain table reference")
  | .other => throw (.unsupported "statement not supported by the memory backend")

/-- The one statement of a text. -/
def ofText (text : String) : Except Error Statement :=
  match Grammar.statements text.toList with
  | none => .error (.parse "sql parser error")
  | some [c] => ((ofClause c).run 0).map (·.1)
  | some cs => .error (.unsupported s!"expected exactly one statement, got {cs.length}")

end Statement

end CounterTable
