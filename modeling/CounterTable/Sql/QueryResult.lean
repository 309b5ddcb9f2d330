import CounterTable.Number.Value

/-!
# Query results

The rows that a query answers, under the names of their columns.
-/

namespace CounterTable

open CounterTable.Text

/-- Two names that differ at most in the case of ASCII letters. -/
def sameName (a b : String) : Bool := lower a.toList == lower b.toList

/-- The rows of a query. -/
structure QueryResult where
  columns : List String
  rows : List (List Value)
deriving DecidableEq, Repr, Inhabited

namespace QueryResult

/-- The result without columns and rows. -/
def empty : QueryResult := ⟨[], []⟩

/-- The number of the rows. -/
def rowCount (q : QueryResult) : Nat := q.rows.length

/-- Whether there are no rows. -/
def isEmpty (q : QueryResult) : Bool := q.rows.isEmpty

/-- The first cell of the first row. -/
def firstValue? (q : QueryResult) : Option Value := q.rows.head?.bind List.head?

/-- The position of the first column of a name, in any case. -/
def columnIndex? (q : QueryResult) (name : String) : Option Nat :=
  q.columns.findIdx? (sameName · name)

end QueryResult

end CounterTable
