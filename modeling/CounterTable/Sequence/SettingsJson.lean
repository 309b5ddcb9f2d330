import CounterTable.Sequence.Settings

/-!
# Settings in JSON

Settings are an object with a member for each setting, in any order, or an array of the settings in
their fixed order. Missing ones have their defaults; members of other names are skipped, but no
setting may stand twice. A word that names a choice may also be the key of an object whose only
value is null. The retry policy is an object tagged by its kind, or an array that begins with it.

* `Settings.toJson`: the settings as a value;
* `Settings.ofJson?`: the settings that a value stands for;
* `Settings.ofJsonText`: valid settings from a text.
-/

namespace CounterTable

open CounterTable.Text

/-- The word that names a choice. -/
def Json.choice? : Json → Option String
  | .object [(key, .null)] => (JsonPiece.chars? key).map String.ofList
  | j => j.string?

/-- The members of an object by name; none if a name is no text. -/
def Json.members? (members : List (List JsonPiece × Json)) : Option (List (String × Json)) :=
  members.mapM fun (key, j) => (JsonPiece.chars? key).map fun cs => (String.ofList cs, j)

/-- A setting that may be null. -/
def Json.optional? {α : Type} (read : Json → Option α) : Json → Option (Option α)
  | .null => some none
  | j => (read j).map some

namespace OptimizerKind

/-- The kind of a name. -/
def ofJson? (j : Json) : Option OptimizerKind :=
  j.choice?.bind fun word => [plain, hilo, pooled].find? (·.name == word)

/-- A kind by its name. -/
def toJson (k : OptimizerKind) : Json := .ofString k.name

end OptimizerKind

namespace NumberType

/-- The type of a name or an alias. -/
def ofJson? (j : Json) : Option NumberType := j.choice?.bind ofName?

/-- A type by its name. -/
def toJson (t : NumberType) : Json := .ofString t.name

end NumberType

namespace RetryPolicy

/-- A bound on attempts. -/
def bound? (j : Json) : Option RetryPolicy := do
  let n ← j.integer?
  if 0 ≤ n ∧ n < UInt32.size then return .bounded (UInt32.ofNat n.toNat) else none

/-- The policy that an object tagged by its kind or an array stands for. All of it has to be
sound, also what it does not need. -/
def ofJson? (j : Json) : Option RetryPolicy :=
  if j.sound then
    match j with
    | .object members => do
      let members ← Json.members? members
      match members.filter (·.1 == "kind") with
      | [(_, kind)] =>
        match kind.string? with
        | some "unbounded" => return .unbounded
        | some "bounded" =>
          match members.filter (·.1 == "max_attempts") with
          | [(_, n)] => bound? n
          | _ => none
        | _ => none
      | _ => none
    | .array [kind] => if kind.string? = some "unbounded" then some .unbounded else none
    | .array [kind, n] => if kind.string? = some "bounded" then bound? n else none
    | _ => none
  else none

/-- An object tagged by the kind of the policy. -/
def toJson : RetryPolicy → Json
  | unbounded => .object [member "kind" (.ofString "unbounded")]
  | bounded n =>
    .object [member "kind" (.ofString "bounded"), member "max_attempts" (.ofInt n.toNat)]
where
  /-- A member of an object. -/
  member (key : String) (j : Json) : List JsonPiece × Json := (key.toList.map .char, j)

end RetryPolicy

namespace Settings

/-- The names of the settings, in their fixed order. -/
def fieldNames : List String :=
  ["table_name", "catalog", "schema", "value_column", "initial_value", "increment_size",
    "number_type", "optimizer", "retry"]

/-- Changes the setting of a name; other names change nothing. -/
def setField (s : Settings) (name : String) (j : Json) : Option Settings :=
  match name with
  | "table_name" => j.string?.map fun tableName => { s with tableName }
  | "catalog" => (Json.optional? Json.string? j).map fun catalog => { s with catalog }
  | "schema" => (Json.optional? Json.string? j).map fun schema => { s with schema }
  | "value_column" => j.string?.map fun valueColumn => { s with valueColumn }
  | "initial_value" => j.word?.map fun initialValue => { s with initialValue }
  | "increment_size" => j.word?.map fun incrementSize => { s with incrementSize }
  | "number_type" => (NumberType.ofJson? j).map fun numberType => { s with numberType }
  | "optimizer" =>
    (Json.optional? OptimizerKind.ofJson? j).map fun optimizer => { s with optimizer }
  | "retry" => (RetryPolicy.ofJson? j).map fun retry => { s with retry }
  | _ => some s

/-- Changes settings one after another. -/
def setFields (fields : List (String × Json)) : Option Settings :=
  fields.foldlM (fun s (name, j) => s.setField name j) {}

/-- The settings that a value stands for. -/
def ofJson? : Json → Option Settings
  | .object members => do
    let members ← Json.members? members
    if ((members.map (·.1)).filter (· ∈ fieldNames)).Nodup then setFields members else none
  | .array items =>
    if items.length ≤ fieldNames.length then setFields (fieldNames.zip items) else none
  | _ => none

/-- The settings as a value. -/
def toJson (s : Settings) : Json :=
  .object ((fieldNames.map fun name => name.toList.map .char).zip
    [.ofString s.tableName, .ofOption s.catalog, .ofOption s.schema, .ofString s.valueColumn,
      .ofInt s.initialValue.toInt, .ofInt s.incrementSize.toInt, s.numberType.toJson,
      (match s.optimizer with | some k => k.toJson | none => .null), s.retry.toJson])

/-- The settings as a text. -/
def toJsonText (s : Settings) : String := s.toJson.render

/-- Settings from a text, if they make sense together. -/
def ofJsonText (text : String) : Except Error Settings :=
  match (Json.ofText? text).bind ofJson? with
  | some s => s.validated
  | none => .error (.configuration "invalid generator config")

end Settings

end CounterTable
