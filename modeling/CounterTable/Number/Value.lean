import CounterTable.Number.Decimal
import CounterTable.Text.Blank

/-!
# Values of columns

A value as it comes back from a query or is bound to a statement.

* `Value.word?`: the 64-bit integer that a value is read as, if it is one;
* `Value.typeName`, `Value.display`: how a value is shown in messages.
-/

namespace CounterTable

open CounterTable.Text CounterTable.Number

/-- A column value. -/
inductive Value where
  | null
  | integer (n : Int64)
  | float (x : Binary64)
  | text (s : String)
deriving DecidableEq, Repr, Inhabited

namespace Value

/-- The name of the type of a value. -/
def typeName : Value → String
  | null => "NULL"
  | integer _ => "INTEGER"
  | float _ => "FLOAT"
  | text _ => "TEXT"

/-- The bounds between which a double without a fraction is read as a word. The upper one is the
double nearest to the greatest word, which is one more than it. -/
def floatBounds : Int × Int := (-9223372036854775808, 9223372036854775808)

/-- The word nearest to an integer. -/
def clamp (n : Int) : Int64 :=
  if n < Int64.minValue.toInt then Int64.minValue
  else if Int64.maxValue.toInt < n then Int64.maxValue
  else Int64.ofInt n

/-- The word that a value is read as: an integer is itself, a double without a fraction is the
integer it equals, and a text is the number it spells between blanks. -/
def word? : Value → Option Int64
  | null => none
  | integer n => some n
  | float x =>
    match x.decode.integer? with
    | some n => if floatBounds.1 ≤ n ∧ n ≤ floatBounds.2 then some (clamp n) else none
    | none => none
  | text s => readWord? (trim s.toList)

/-- A value as messages show it: a text between apostrophes, all else bare. -/
def display : Value → String
  | null => "NULL"
  | integer n => renderInt n.toInt
  | float x => x.text
  | text s => s!"'{s}'"

end Value

end CounterTable
