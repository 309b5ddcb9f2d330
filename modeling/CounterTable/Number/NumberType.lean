import CounterTable.Error
import CounterTable.Text.Blank

/-!
# Number types

The value column of a counter table has one of three widths, which bound the values of the counter.

* `NumberType.min`, `NumberType.max`, `NumberType.Contains`: the range;
* `NumberType.name`, `NumberType.ofText`: the name, and the names that are read;
* **`NumberType.ofName?_name`**: a type is read back from its name.
-/

namespace CounterTable

/-- The width of the value column. -/
inductive NumberType where
  | short
  | integer
  | long
deriving DecidableEq, Repr, Inhabited

namespace NumberType

/-- The least value, as for two's complement words of 16, 32 and 64 bits. -/
def min : NumberType → Int
  | short => -32768
  | integer => -2147483648
  | long => -9223372036854775808

/-- The greatest value, as for two's complement words of 16, 32 and 64 bits. -/
def max : NumberType → Int
  | short => 32767
  | integer => 2147483647
  | long => 9223372036854775807

/-- The values of the type. -/
def Contains (t : NumberType) (n : Int) : Prop := t.min ≤ n ∧ n ≤ t.max

instance (t : NumberType) (n : Int) : Decidable (t.Contains n) :=
  inferInstanceAs (Decidable (_ ∧ _))

/-- The name that a type is shown by. -/
def name : NumberType → String
  | short => "short"
  | integer => "integer"
  | long => "long"

/-- The type that a name or one of its aliases stands for. -/
def ofName? (name : String) : Option NumberType :=
  if name ∈ ["short", "i16", "smallint"] then some short
  else if name ∈ ["integer", "int", "i32"] then some integer
  else if name ∈ ["long", "i64", "bigint"] then some long
  else none

/-- Reads a type from its name in any case, with blanks around it. -/
def ofText (text : String) : Except Error NumberType :=
  let name := String.ofList (Text.lower (Text.trim text.toList))
  match ofName? name with
  | some t => .ok t
  | none => .error (.configuration s!"Unknown number type '{name}'")

theorem ofName?_name (t : NumberType) : ofName? t.name = some t := by
  cases t <;> decide

theorem Contains.long {t : NumberType} {n : Int} (h : t.Contains n) :
    NumberType.long.Contains n := by
  cases t <;> simp_all [Contains, min, max] <;> omega

end NumberType

end CounterTable
