import CounterTable.Sql.Expr

/-!
# Data types

Types of columns and casts. They are kept as their canonical text; a type that is not known is a
name, possibly with modifiers in parentheses.
-/

namespace CounterTable.Sql.Grammar

/-- A data type: its canonical text, and whether it is only a name. -/
structure DataType where
  text : String
  named : Bool := false

/-- A type parameter: a number, a word or a string. -/
def typeParameter : Parser String := do
  match ← next with
  | .number text _ => return text
  | .string .plain text => return betweenQuotes '\x27' text
  | t => match t.ident? with
    | some i => return i.render
    | none => failure

/-- Optional parameters of a type, as they follow its name. -/
def typeParameters : Parser String := do
  if ← peekSymbol "(" then
    let ps ← parenthesized (commaSeparated typeParameter)
    return "(" ++ ",".intercalate ps ++ ")"
  else return ""

/-- A number in parentheses, if one follows. -/
def typeLength : Parser String := do
  if ← symbol? "(" then
    match ← next with
    | .number text _ =>
      symbol ")"
      return "(" ++ text ++ ")"
    | _ => failure
  else return ""

/-- A length of characters in parentheses, if one follows; it may name its unit. -/
def characterLength : Parser String := do
  if ← symbol? "(" then
    let length ← do
      match ← next with
      | .number text _ => pure text
      | .keyword "MAX" _ => pure "MAX"
      | _ => failure
    let unit ← oneOf? ["CHARACTERS", "OCTETS"]
    symbol ")"
    return "(" ++ length ++ (match unit with | some u => " " ++ u | none => "") ++ ")"
  else return ""

/-- One or two numbers in parentheses, if they follow. -/
def typePrecision : Parser String := do
  if ← symbol? "(" then
    let ps ← commaSeparated typeParameter
    symbol ")"
    if ps.length ≤ 2 then return "(" ++ ",".intercalate ps ++ ")" else failure
  else return ""

/-- Whether an integer type has a sign. -/
def signSuffix : Parser String := do
  match ← oneOf? ["UNSIGNED", "SIGNED"] with
  | some "UNSIGNED" => return " UNSIGNED"
  | _ => return ""

/-- Whether a time knows its zone. -/
def zoneSuffix : Parser String := do
  if ← keywords? ["WITH", "TIME", "ZONE"] then return " WITH TIME ZONE"
  else if ← keywords? ["WITHOUT", "TIME", "ZONE"] then return " WITHOUT TIME ZONE"
  else return ""

/-- Integer types. -/
def integerTypes : List String :=
  ["TINYINT", "INT2", "SMALLINT", "MEDIUMINT", "INT", "INT4", "INT8", "INTEGER", "BIGINT"]

/-- Types of text and bytes with an optional length. -/
def lengthTypes : List String :=
  ["VARCHAR", "NVARCHAR", "CLOB", "BINARY", "VARBINARY", "BLOB", "BYTES"]

/-- Types of numbers with an optional precision and scale. -/
def decimalTypes : List String := ["NUMERIC", "DECIMAL", "DEC", "BIGNUMERIC", "BIGDECIMAL"]

/-- Types without parameters. -/
def simpleTypes : List String :=
  ["BOOLEAN", "BOOL", "FLOAT4", "FLOAT8", "FLOAT32", "FLOAT64", "DATE", "INTERVAL", "JSON",
    "JSONB", "UUID", "TEXT", "TINYTEXT", "MEDIUMTEXT", "LONGTEXT", "TINYBLOB", "MEDIUMBLOB",
    "LONGBLOB", "BYTEA", "REGCLASS", "HUGEINT", "UHUGEINT"]

/-- The type that a keyword begins; none if it begins a name. -/
def keywordType (word : String) : Parser (Option DataType) := do
  if word ∈ integerTypes then
    return some { text := word ++ (← typeLength) ++ (← signSuffix) }
  else if word ∈ lengthTypes then return some { text := word ++ (← characterLength) }
  else if word ∈ decimalTypes then
    return some { text := word ++ (← typePrecision) ++ (← signSuffix) }
  else if word ∈ simpleTypes then return some { text := word }
  else match word with
    | "CHARACTER" | "CHAR" =>
      let more ←
        if ← keyword? "VARYING" then pure " VARYING"
        else if ← keywords? ["LARGE", "OBJECT"] then pure " LARGE OBJECT"
        else pure ""
      return some { text := word ++ more ++ (← characterLength) }
    | "FLOAT" => return some { text := word ++ (← typePrecision) ++ (← signSuffix) }
    | "REAL" => return some { text := word ++ (← signSuffix) }
    | "DOUBLE" =>
      if ← keyword? "PRECISION" then return some { text := "DOUBLE PRECISION" ++ (← signSuffix) }
      else return some { text := word ++ (← typePrecision) ++ (← signSuffix) }
    | "DATETIME" => return some { text := word ++ (← typeLength) }
    | "TIMESTAMP" | "TIME" => return some { text := word ++ (← typeLength) ++ (← zoneSuffix) }
    | "TIMESTAMPTZ" | "TIMETZ" | "STRING" => return some { text := word ++ (← typeLength) }
    | "BIT" =>
      let more := if ← keyword? "VARYING" then " VARYING" else ""
      return some { text := word ++ more ++ (← typeLength) }
    | _ => return none

/-- Empty brackets, or brackets with a size, behind the type of the elements. -/
def arraySuffix : Parser (Option String) := do
  if ← symbol? "[" then
    match ← next with
    | .symbol "]" => return some "[]"
    | .number text _ =>
      symbol "]"
      return some ("[" ++ text ++ "]")
    | _ => failure
  else return none

/-- A data type. -/
def dataType : Parser DataType := do
  let known ← do
    match ← peek with
    | some (.keyword word _) =>
      let saved ← get
      let _ ← next
      match ← keywordType word with
      | some t => pure (some t)
      | none =>
        set saved
        pure none
    | _ => pure none
  let t ← match known with
    | some t => pure t
    | none => do
      match ← peek with
      | some (.string _ _) => failure
      | _ =>
        let name ← objectName
        pure { text := renderName name ++ (← typeParameters), named := true }
  let suffixes ← many arraySuffix
  if suffixes.isEmpty then return t
  else return { text := t.text ++ String.join suffixes }

end CounterTable.Sql.Grammar
