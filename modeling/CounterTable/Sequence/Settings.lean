import CounterTable.Allocation.Retry
import CounterTable.Blocks.Optimizer
import CounterTable.Json.Reader
import CounterTable.Keyed
import CounterTable.Name.Qualified

/-!
# Settings of a generator

The settings of a generator are built in code, read from JSON, or read from a flat map of
properties. Settings that are left out have their defaults.

* `Settings`: the settings;
* `Settings.validate`: whether they make sense together;
* `Settings.qualifiedName`, `Settings.columnName`, `Settings.optimizerKind`: what they amount to;
* `Settings.ofProperties`: settings from properties.
-/

namespace CounterTable

open CounterTable.Text

/-- The settings of a generator. -/
structure Settings where
  /-- The name of the table, possibly qualified. -/
  tableName : String := "id_sequence"
  /-- The catalog of a table whose name has no schema. -/
  catalog : Option String := none
  /-- The schema of a table whose name has none. -/
  schema : Option String := none
  valueColumn : String := "next_val"
  /-- The value that the table is filled with. -/
  initialValue : Int64 := 1
  /-- How many identifiers make a block. -/
  incrementSize : Int64 := 1
  numberType : NumberType := .long
  /-- The block policy; it follows from the increment if it is not set. -/
  optimizer : Option OptimizerKind := none
  retry : RetryPolicy := .unbounded
deriving DecidableEq, Repr, Inhabited

namespace Settings

/-- The name of the table: the other settings qualify a name without a schema. -/
def qualifiedName (s : Settings) : Except Error QualifiedName := do
  let name ← QualifiedName.ofText s.tableName
  if name.schema.isSome then return name
  else
    let catalog ← s.catalog.mapM Identifier.ofText
    let schema ← s.schema.mapM Identifier.ofText
    return { catalog, schema, object := name.object }

/-- The name of the value column. -/
def columnName (s : Settings) : Except Error Identifier := Identifier.ofText s.valueColumn

/-- The block policy. -/
def optimizerKind (s : Settings) : OptimizerKind :=
  s.optimizer.getD (.defaultFor s.incrementSize.toInt)

/-- Whether the settings make sense together. -/
def validate (s : Settings) : Except Error Unit := do
  if s.incrementSize < 1 then
    throw (.configuration
      s!"increment_size must be at least 1, got {renderInt s.incrementSize.toInt}")
  unless s.numberType.Contains s.initialValue.toInt do
    throw (.configuration
      s!"initial_value {renderInt s.initialValue.toInt} does not fit in a {s.numberType.name}")
  s.retry.validate
  let _ ← s.qualifiedName
  let _ ← s.columnName

/-- The settings themselves, if they make sense together. -/
def validated (s : Settings) : Except Error Settings := s.validate.map fun _ => s

/-- The integer that a property spells between blanks. -/
def readNumber (key raw : String) : Except Error Int64 :=
  match readWord? (trim raw.toList) with
  | some n => .ok n
  | none => .error (.configuration s!"{key} must be an integer, got '{raw}'")

/-- A bound on retries that a property spells. -/
def readRetries (key raw : String) : Except Error RetryPolicy := do
  let n ← readNumber key raw
  if 0 ≤ n.toInt ∧ n.toInt < UInt32.size then return .bounded (UInt32.ofNat n.toInt.toNat)
  else throw (.configuration s!"{key} out of range: {raw}")

/-- Settings from properties; properties of other names are ignored. -/
def ofProperties (properties : Keyed String String) : Except Error Settings := do
  let text (key default : String) : String := (properties.get? key).getD default
  let read {α : Type} (key : String) (default : α) (parse : String → Except Error α) :
      Except Error α :=
    match properties.get? key with
    | some raw => parse raw
    | none => .ok default
  let d : Settings := {}
  let initialValue ← read "initial_value" d.initialValue (readNumber "initial_value")
  let incrementSize ← read "increment_size" d.incrementSize (readNumber "increment_size")
  let numberType ← read "number_type" d.numberType NumberType.ofText
  let optimizer ← read "optimizer" d.optimizer (fun raw => some <$> OptimizerKind.ofText raw)
  let retry ← read "max_retries" d.retry (readRetries "max_retries")
  validated {
    tableName := text "table_name" (text "sequence_name" d.tableName)
    catalog := properties.get? "catalog"
    schema := properties.get? "schema"
    valueColumn := text "value_column" d.valueColumn
    initialValue, incrementSize, numberType, optimizer, retry }

end Settings

end CounterTable
