import CounterTable.Number.NumberType
import CounterTable.Number.Value

/-!
# Integral values

An integer within the range of its number type. Arithmetic is exact: a result outside the range is
an overflow, and nothing ever wraps.

* `Integral.make`, `Integral.ofValue`: from an integer, from a column value;
* `Integral.add`, `Integral.subtract`, `Integral.multiply`, `Integral.increment`.
-/

namespace CounterTable

open CounterTable.Text

/-- An integer within the range of its number type. -/
structure Integral where
  type : NumberType
  val : Int
  inRange : type.Contains val
deriving DecidableEq, Repr

namespace Integral

instance : Inhabited Integral := ⟨⟨.long, 0, by decide⟩⟩

@[ext] theorem ext {a b : Integral} (ht : a.type = b.type) (hv : a.val = b.val) : a = b := by
  cases a; cases b; simp_all

/-- The integer as a value of the type, if it lies in the range. -/
def ofInt? (type : NumberType) (n : Int) : Option Integral :=
  if h : type.Contains n then some ⟨type, n, h⟩ else none

/-- The integer as a value of the type. -/
def make (type : NumberType) (n : Int) : Except Error Integral :=
  match ofInt? type n with
  | some a => .ok a
  | none => .error (.overflow s!"{renderInt n} does not fit in a {type.name}")

/-- A column value as a value of the type. -/
def ofValue (value : Value) (type : NumberType) : Except Error Integral :=
  match value.word? with
  | some n => make type n.toInt
  | none => .error (.typeMismatch
      s!"Expected an integral value, got {value.display} ({value.typeName})")

/-- The word that the value is. -/
def word (a : Integral) : Int64 := Int64.ofInt a.val

/-- The value as it is bound to a statement. -/
def toValue (a : Integral) : Value := .integer a.word

/-- The result of an operation as a value of the same type; the failure shows the operation. -/
def checked (a : Integral) (operator : String) (operand result : Int) : Except Error Integral :=
  match ofInt? a.type result with
  | some b => .ok b
  | none => .error (.overflow
      s!"{renderInt a.val} {operator} {renderInt operand} leaves the {a.type.name} range")

/-- The sum with an integer. -/
def add (a : Integral) (n : Int) : Except Error Integral := a.checked "+" n (a.val + n)

/-- The difference from an integer. -/
def subtract (a : Integral) (n : Int) : Except Error Integral := a.checked "-" n (a.val - n)

/-- The product with an integer. -/
def multiply (a : Integral) (n : Int) : Except Error Integral := a.checked "*" n (a.val * n)

/-- The next integer. -/
def increment (a : Integral) : Except Error Integral := a.add 1

/-- The value as messages show it. -/
def display (a : Integral) : String := renderInt a.val

theorem ofInt?_eq_some_iff {type : NumberType} {n : Int} {a : Integral} :
    ofInt? type n = some a ↔ a.type = type ∧ a.val = n := by
  unfold ofInt?
  split
  · constructor
    · rintro ⟨⟩; exact ⟨rfl, rfl⟩
    · rintro ⟨rfl, rfl⟩; rfl
  · next h =>
    constructor
    · rintro ⟨⟩
    · rintro ⟨rfl, rfl⟩; exact absurd a.inRange h

theorem toInt_word (a : Integral) : a.word.toInt = a.val := by
  have h : -9223372036854775808 ≤ a.val ∧ a.val ≤ 9223372036854775807 := a.inRange.long
  exact Int64.toInt_ofInt_of_le h.1 (by omega)

end Integral

end CounterTable
