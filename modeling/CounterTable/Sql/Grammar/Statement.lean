import CounterTable.Sql.Grammar.Definition

/-!
# Reading statements

A text holds statements with semicolons between them. Expressions, queries and statements hold one
another, at most fifty deep.

* `insert`, `update`: the statements that change rows;
* `clause`: a statement of any kind;
* `nesting`: the parsers of all three kinds at a depth;
* `statements`: the statements of a text.
-/

namespace CounterTable.Sql.Grammar

/-- An assignment to a column. -/
def assignment (g : Nesting) : Parser (Target × Expr) := do
  let target ←
    if ← peekSymbol "(" then
      skip (parenthesized (commaSeparated objectName))
      pure Target.tuple
    else Target.column <$> objectName
  symbol "="
  return (target, ← g.any false)

/-- Assignments to columns. -/
def assignments (g : Nesting) : Parser (List (Target × Expr)) := commaSeparated (assignment g)

/-- What becomes of a row that breaks a constraint, behind the verb. -/
def conflictClause : Parser Unit :=
  phraseMaybe ["OR"] (oneOf ["REPLACE", "ROLLBACK", "ABORT", "FAIL", "IGNORE"])

/-- What is answered for each row, if it is asked for. -/
def returning (g : Nesting) : Parser Unit :=
  phraseMaybe ["RETURNING"] (commaSeparated (selectItem g))

/-- What an insertion does with rows that exist, behind `ON`. -/
def onConflict (g : Nesting) : Parser Unit := do
  if ← keyword? "CONFLICT" then
    unless ← phrase? ["ON", "CONSTRAINT"] objectName do optionalColumns
    keyword "DO"
    unless ← keyword? "NOTHING" do
      keywords ["UPDATE", "SET"]
      skip (assignments g)
      phraseMaybe ["WHERE"] (g.any false)
  else
    keywords ["DUPLICATE", "KEY", "UPDATE"]
    skip (assignments g)

/-- An insertion, behind `INSERT` or `REPLACE`. -/
def insert (g : Nesting) : Parser Clause := do
  conflictClause
  skip (oneOf? ["LOW_PRIORITY", "DELAYED", "HIGH_PRIORITY"])
  skip (keyword? "IGNORE")
  skip (keyword? "OVERWRITE")
  skip (keyword? "INTO")
  skip (keyword? "LOCAL")
  skip (keyword? "TABLE")
  let table ← objectName
  let (columns, source) ←
    if ← keywords? ["DEFAULT", "VALUES"] then pure ([], none)
    else
      let columns ← insertedColumns
      let source ← g.query
      pure (columns, some source)
  phraseMaybe ["AS"] (do
    skip objectName
    optionalColumns)
  phraseMaybe ["ON"] (onConflict g)
  returning g
  return .insert table columns source
where
  /-- The columns that are listed, unless a query follows at once. -/
  insertedColumns : Parser (List Ident) := do
    if ← selectionFollows then return []
    else
      let columns ← listedColumns
      phraseMaybe ["PARTITION"] (parenthesized (commaSeparated (g.any false)))
      return columns
  /-- Whether a query in parentheses comes next. -/
  selectionFollows : Parser Bool := do
    match ← get with
    | .symbol "(" :: .keyword word _ :: _ => return word ∈ ["SELECT", "WITH"]
    | _ => return false

/-- An update, behind `UPDATE`. -/
def update (g : Nesting) : Parser Clause := do
  conflictClause
  let (source, _) ← joined g
  let early ← phrase? ["FROM"] (sources g)
  keyword "SET"
  let changes ← assignments g
  unless early do phraseMaybe ["FROM"] (sources g)
  let filter ← whenever (← keyword? "WHERE") (g.any false)
  returning g
  phraseMaybe ["LIMIT"] (g.any false)
  return .update source.relation changes filter

/-- A deletion, behind `DELETE`. -/
def delete (g : Nesting) : Parser Clause := do
  skip (keyword? "FROM")
  skip (sources g)
  phraseMaybe ["USING"] (sources g)
  phraseMaybe ["WHERE"] (g.any false)
  returning g
  phraseMaybe ["ORDER", "BY"] (orderItems g)
  phraseMaybe ["LIMIT"] (g.any false)
  return .other

/-- A merge, behind `MERGE`. -/
def merge (g : Nesting) : Parser Clause := do
  skip (keyword? "INTO")
  skip (namedTable g)
  keyword "USING"
  skip (joined g)
  keyword "ON"
  skip (g.any false)
  skip (many do
    if ← keyword? "WHEN" then
      branch
      return some ()
    else return none)
  return .other
where
  /-- What becomes of some of the rows. -/
  branch : Parser Unit := do
    skip (keyword? "NOT")
    keyword "MATCHED"
    phraseMaybe ["BY"] (oneOf ["SOURCE", "TARGET"])
    phraseMaybe ["AND"] (g.any false)
    keyword "THEN"
    match ← oneOf ["UPDATE", "INSERT", "DELETE"] with
    | "UPDATE" =>
      keyword "SET"
      skip (assignments g)
    | "INSERT" =>
      optionalColumns
      if ← keyword? "ROW" then return ()
      else
        keyword "VALUES"
        skip (valueRows g)
    | _ => return ()

/-- Modes of a transaction. -/
def transactionModes : Parser Unit := discard (many do
  if ← keywords? ["ISOLATION", "LEVEL"] then
    unless (← keywords? ["READ", "UNCOMMITTED"]) || (← keywords? ["READ", "COMMITTED"]) ||
        (← keywords? ["REPEATABLE", "READ"]) do
      skip (oneOf ["SERIALIZABLE", "SNAPSHOT"])
    skip (symbol? ",")
    return some ()
  else if (← keywords? ["READ", "ONLY"]) || (← keywords? ["READ", "WRITE"]) then
    skip (symbol? ",")
    return some ()
  else return none)

/-- What may follow the end of a transaction. -/
def chain : Parser Unit := do
  skip (oneOf? ["TRANSACTION", "WORK"])
  if ← keyword? "AND" then
    skip (keyword? "NO")
    keyword "CHAIN"

/-- What begins and ends transactions, behind its first word. -/
def transaction (word : String) : Parser Clause := do
  match word with
  | "START" =>
    keyword "TRANSACTION"
    transactionModes
  | "BEGIN" =>
    skip (oneOf? ["DEFERRED", "IMMEDIATE", "EXCLUSIVE"])
    skip (oneOf? ["TRANSACTION", "WORK"])
    transactionModes
  | "ROLLBACK" =>
    chain
    if ← keyword? "TO" then
      skip (keyword? "SAVEPOINT")
      skip ident
  | "SAVEPOINT" => skip ident
  | "RELEASE" =>
    skip (keyword? "SAVEPOINT")
    skip ident
  | _ => chain
  return .other

/-- A change of a setting, behind `SET`. -/
def setting (g : Nesting) : Parser Clause := do
  skip (oneOf? ["SESSION", "LOCAL", "GLOBAL"])
  if ← keywords? ["TIME", "ZONE"] then
    skip (symbol? "=")
    skip (g.any false)
  else if ← keyword? "ROLE" then skip ident
  else if ← keyword? "NAMES" then
    skip ident
    phraseMaybe ["COLLATE"] literalString
  else if ← keyword? "TRANSACTION" then
    phraseMaybe ["SNAPSHOT"] value
    transactionModes
  else skip (commaSeparated do
    skip (oneOf? ["SESSION", "LOCAL", "GLOBAL"])
    if ← peekSymbol "(" then
      skip (parenthesized (commaSeparated objectName))
    else skip objectName
    unless ← symbol? "=" do keyword "TO"
    skip (g.any false))
  return .other

/-- A question about a statement or a table, behind its first word. -/
def explanation (g : Nesting) : Parser Clause := do
  unless ← keywords? ["QUERY", "PLAN"] do
    skip (keyword? "ANALYZE")
    skip (keyword? "VERBOSE")
    phraseMaybe ["FORMAT"] ident
  let again ← do
    match ← peek with
    | some (.keyword word _) => pure (decide (word ∈ ["EXPLAIN", "DESCRIBE", "DESC"]))
    | _ => pure false
  match ← optional? g.clause with
  | some _ => if again then failure else return .other
  | none =>
    skip (oneOf? ["EXTENDED", "FORMATTED"])
    skip objectName
    return .other

/-- The removal of all rows, behind `TRUNCATE`. -/
def truncate (g : Nesting) : Parser Clause := do
  skip (keyword? "TABLE")
  skip (keyword? "ONLY")
  skip (commaSeparated objectName)
  phraseMaybe ["PARTITION"] (parenthesized (commaSeparated (g.any false)))
  unless ← keywords? ["RESTART", "IDENTITY"] do skip (keywords? ["CONTINUE", "IDENTITY"])
  skip (oneOf? ["CASCADE", "RESTRICT"])
  return .other

/-- The giving or the taking of rights, behind its first word; `last` stands before those who have
them. -/
def rights (last : String) : Parser Clause := do
  skip (commaSeparated do
    skip ident
    skip (keyword? "PRIVILEGES")
    optionalColumns)
  if ← keyword? "ON" then
    skip (oneOf? ["TABLE", "SCHEMA", "SEQUENCE", "DATABASE", "VIEW"])
    skip (commaSeparated objectName)
  keyword last
  skip (commaSeparated objectName)
  skip (keywords? ["WITH", "GRANT", "OPTION"])
  phraseMaybe ["GRANTED", "BY"] ident
  skip (oneOf? ["CASCADE", "RESTRICT"])
  return .other

/-- A statement that is only read, behind its first word. -/
def command (g : Nesting) (word : String) : Parser Clause := do
  match word with
  | "SHOW" => set ([] : List Token)
  | "USE" =>
    skip (oneOf? ["DATABASE", "SCHEMA", "CATALOG", "WAREHOUSE", "ROLE"])
    skip objectName
  | "CALL" =>
    skip objectName
    if ← peekSymbol "(" then skip (arguments g)
  | "ANALYZE" =>
    skip (keyword? "TABLE")
    skip objectName
    optionalColumns
  | "VACUUM" =>
    skip (keyword? "FULL")
    skip (optional? objectName)
  | "PRAGMA" =>
    skip objectName
    if ← symbol? "(" then
      skip value
      symbol ")"
    else if ← symbol? "=" then
      skip (symbol? "-")
      skip value
  | "COMMENT" =>
    keyword "ON"
    skip (oneOf ["TABLE", "COLUMN", "VIEW", "INDEX", "SCHEMA", "DATABASE", "ROLE", "SEQUENCE",
      "TYPE", "USER", "DOMAIN", "EXTENSION", "FUNCTION", "PROCEDURE"])
    skip objectName
    keyword "IS"
    unless ← keyword? "NULL" do literalString
  | "DEALLOCATE" =>
    skip (keyword? "PREPARE")
    skip ident
  | "EXECUTE" | "EXEC" =>
    skip objectName
    if ← peekSymbol "(" then skip (arguments g)
    else if ← keyword? "USING" then skip (commaSeparated (g.any false))
  | "PREPARE" =>
    skip ident
    if ← peekSymbol "(" then skip (parenthesized (commaSeparated dataType))
    keyword "AS"
    skip g.clause
  | "COPY" => copy
  | "FLUSH" => flush
  | "OPTIMIZE" =>
    keyword "TABLE"
    skip objectName
  | "LOAD" => skip ident
  | "PRINT" => skip (g.any false)
  | "RETURN" => skip (optional? (g.any false))
  | "DECLARE" => cursor
  | "FETCH" => fetch
  | "CLOSE" => skip ident
  | "RENAME" =>
    keyword "TABLE"
    skip (commaSeparated do
      skip objectName
      keyword "TO"
      skip objectName)
  | "DISCARD" => skip (oneOf ["ALL", "PLANS", "SEQUENCES", "TEMP", "TEMPORARY"])
  | "KILL" =>
    skip (oneOf? ["CONNECTION", "QUERY", "MUTATION"])
    skip value
  | "LISTEN" | "UNLISTEN" => unless ← symbol? "*" do skip ident
  | "NOTIFY" =>
    skip ident
    if ← symbol? "," then literalString
  | "ASSERT" =>
    skip (g.any false)
    phraseMaybe ["AS"] (g.any false)
  | _ => failure
  return .other
where
  /-- Rows from or to a file, behind `COPY`; rows from the statement's own text end it. -/
  copy : Parser Unit := do
    let queried ← peekSymbol "("
    if queried then skip (parenthesized g.query)
    else
      skip objectName
      optionalColumns
    let direction ← oneOf ["FROM", "TO"]
    if queried && direction == "FROM" then failure
    let target ← oneOf? ["STDIN", "STDOUT", "PROGRAM"]
    if target.isNone || target == some "PROGRAM" then literalString
    skip (keyword? "WITH")
    if ← peekSymbol "(" then
      skip (parenthesized (commaSeparated do
        skip ident
        skip (optional? ident)))
    if target == some "STDIN" then
      symbol ";"
      set ([] : List Token)
  /-- What is written out, behind `FLUSH`. -/
  flush : Parser Unit := do
    skip (oneOf? ["NO_WRITE_TO_BINLOG", "LOCAL"])
    match ← oneOf ["BINARY", "ENGINE", "ERROR", "GENERAL", "SLOW", "RELAY", "LOGS", "HOSTS", "STATUS",
        "PRIVILEGES", "OPTIMIZER_COSTS", "USER_RESOURCES", "TABLES"] with
    | "BINARY" | "ENGINE" | "ERROR" | "GENERAL" | "SLOW" => keyword "LOGS"
    | "RELAY" =>
      keyword "LOGS"
      phraseMaybe ["FOR", "CHANNEL"] objectName
    | "TABLES" =>
      unless (← peekKeyword "WITH") || (← peekKeyword "FOR") do
        skip (optional? (commaSeparated objectName))
      skip (keywords? ["WITH", "READ", "LOCK"])
      skip (keywords? ["FOR", "EXPORT"])
    | _ => return ()
  /-- A cursor over a query, behind `DECLARE`. -/
  cursor : Parser Unit := do
    skip ident
    skip (keyword? "BINARY")
    skip (oneOf? ["INSENSITIVE", "ASENSITIVE"])
    unless ← keyword? "SCROLL" do skip (keywords? ["NO", "SCROLL"])
    keyword "CURSOR"
    if (← oneOf? ["WITH", "WITHOUT"]).isSome then keyword "HOLD"
    keyword "FOR"
    skip g.query
  /-- Rows of a cursor, behind `FETCH`. -/
  fetch : Parser Unit := do
    match ← oneOf? ["NEXT", "PRIOR", "FIRST", "LAST", "ABSOLUTE", "RELATIVE", "FORWARD", "BACKWARD",
        "ALL"] with
    | some word =>
      if word ∈ ["ABSOLUTE", "RELATIVE"] then skip value
      else if word ∈ ["FORWARD", "BACKWARD"] then
        unless ← keyword? "ALL" do skip value
    | none => skip value
    skip (oneOf ["FROM", "IN"])
    skip ident
    phraseMaybe ["INTO"] objectName

/-- A statement. -/
def clause (g : Nesting) : Parser Clause := do
  match ← peek with
  | some (.symbol "(") => .query <$> g.query
  | some (.keyword word _) =>
    if word ∈ ["SELECT", "WITH", "VALUES", "FROM"] then .query <$> g.query
    else
      let _ ← next
      match word with
      | "CREATE" => create g
      | "DROP" => drop
      | "ALTER" => alter g
      | "INSERT" | "REPLACE" => insert g
      | "UPDATE" => update g
      | "DELETE" => delete g
      | "MERGE" => merge g
      | "TRUNCATE" => truncate g
      | "SET" => setting g
      | "EXPLAIN" | "DESCRIBE" | "DESC" => explanation g
      | "START" | "BEGIN" | "END" | "COMMIT" | "ROLLBACK" | "SAVEPOINT" | "RELEASE" =>
        transaction word
      | "GRANT" => rights "TO"
      | "REVOKE" => rights "FROM"
      | _ => command g word
  | _ => failure

/-- The parsers of expressions, queries and statements, at most so deep in one another. -/
def nesting : Nat → Nesting
  | 0 => ⟨fun _ _ => failure, failure, failure⟩
  | n + 1 => ⟨expression (nesting n), query (nesting n), clause (nesting n)⟩

/-- How deep expressions, queries and statements may stand in one another. -/
def depthLimit : Nat := 50

/-- At most so many statements, with semicolons between them; an `END` behind a statement ends the
text. -/
def statementsWithin : Nat → Parser (List Clause)
  | 0 => failure
  | n + 1 => do
    skip (many do if ← symbol? ";" then return some () else return none)
    match ← peek with
    | none => return []
    | some _ =>
      let first ← (nesting depthLimit).clause
      match ← peek with
      | none => return [first]
      | some (.symbol ";") => return first :: (← statementsWithin n)
      | some (.keyword "END" _) =>
        set ([] : List Token)
        return [first]
      | some _ => failure

/-- The statements of a text; none if it is no sequence of statements. -/
def statements (text : List Char) : Option (List Clause) := do
  let tokens ← tokenize text
  let (clauses, _) ← statementsWithin (tokens.length + 1) tokens
  return clauses

end CounterTable.Sql.Grammar
