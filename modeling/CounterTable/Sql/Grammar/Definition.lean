import CounterTable.Sql.Grammar.Selection

/-!
# Reading definitions

Statements that create, change and drop tables and other objects. Of a new table the names of its
columns are kept, of dropped objects their names; types, constraints and options are only read.

* `columnDefinition`, `tableConstraint`: the parts of a table;
* `createTable`, `create`: what follows `CREATE`;
* `drop`: what follows `DROP`;
* `alter`: what follows `ALTER`.
-/

namespace CounterTable.Sql.Grammar

/-- Something that is read and not kept. -/
def skip {α : Type} (p : Parser α) : Parser Unit := discard p

/-- A phrase and what follows it, if the phrase comes next; says whether it did. -/
def phrase? {α : Type} (words : List String) (p : Parser α) : Parser Bool := do
  if ← keywords? words then
    skip p
    return true
  else return false

/-- A phrase and what follows it, if the phrase comes next. -/
def phraseMaybe {α : Type} (words : List String) (p : Parser α) : Parser Unit :=
  discard (phrase? words p)

/-- Phrases one after another, each with what follows it, in any order and number. -/
def phrases (ps : List (List String × Parser Unit)) : Parser Unit :=
  discard (many (tryEach ps))
where
  /-- The first phrase that comes next. -/
  tryEach : List (List String × Parser Unit) → Parser (Option Unit)
    | [] => return none
    | (words, p) :: rest => do
      if ← phrase? words p then return some () else tryEach rest

/-- A literal string. -/
def literalString : Parser Unit := do
  match ← next with
  | .string _ _ => return ()
  | .quoted _ '"' => return ()
  | _ => failure

/-- A name, if any word comes next. -/
def optionalIdent : Parser Unit := do
  match ← peek with
  | some t => if t.isWord then skip next
  | none => return ()

/-- The columns in parentheses, if they follow. -/
def listedColumns : Parser (List Ident) := do
  if ← peekSymbol "(" then columnList else return []

/-- Columns in parentheses, if they follow. -/
def optionalColumns : Parser Unit := skip listedColumns

/-- Settings in parentheses, each a name and an expression. -/
def settings (g : Nesting) : Parser Unit := do
  symbol "("
  unless ← symbol? ")" do
    skip (commaSeparated do
      skip ident
      symbol "="
      skip (g.any false))
    symbol ")"

/-- What happens to rows whose parent changes. -/
def referentialAction : Parser Unit := do
  match ← oneOf ["RESTRICT", "CASCADE", "SET", "NO"] with
  | "SET" => skip (oneOf ["NULL", "DEFAULT"])
  | "NO" => keyword "ACTION"
  | _ => return ()

/-- When a constraint is checked. -/
def constraintTimes : Parser Unit := phrases [
  (["NOT", "DEFERRABLE"], pure ()),
  (["NOT", "ENFORCED"], pure ()),
  (["DEFERRABLE"], pure ()),
  (["ENFORCED"], pure ()),
  (["INITIALLY", "DEFERRED"], pure ()),
  (["INITIALLY", "IMMEDIATE"], pure ())]

/-- The parent of a column, behind `REFERENCES`. -/
def reference : Parser Unit := do
  skip objectName
  optionalColumns
  phrases [
    (["MATCH"], skip (oneOf ["FULL", "PARTIAL", "SIMPLE"])),
    (["ON", "DELETE"], referentialAction),
    (["ON", "UPDATE"], referentialAction)]
  constraintTimes

/-- The first and the next number of a column that counts by itself, if they are given. -/
def identityNumbers (g : Nesting) : Parser Unit := do
  if ← symbol? "(" then
    skip (g.any false)
    symbol ","
    skip (g.any false)
    symbol ")"

/-- Options of a sequence. -/
def sequenceOptions (g : Nesting) : Parser Unit := phrases [
  (["INCREMENT", "BY"], skip (g.any false)),
  (["INCREMENT"], skip (g.any false)),
  (["MINVALUE"], skip (g.any false)),
  (["NO", "MINVALUE"], pure ()),
  (["MAXVALUE"], skip (g.any false)),
  (["NO", "MAXVALUE"], pure ()),
  (["START", "WITH"], skip (g.any false)),
  (["START"], skip (g.any false)),
  (["CACHE"], skip (g.any false)),
  (["NO", "CYCLE"], pure ()),
  (["CYCLE"], pure ())]

/-- How a column is computed, behind `GENERATED`. -/
def generated (g : Nesting) : Parser Unit := do
  if (← keywords? ["ALWAYS", "AS", "IDENTITY"]) || (← keywords? ["BY", "DEFAULT", "AS", "IDENTITY"])
  then
    if ← symbol? "(" then
      sequenceOptions g
      symbol ")"
  else
    keywords ["ALWAYS", "AS"]
    skip (parenthesized (g.any false))
    skip (oneOf? ["STORED", "VIRTUAL"])

/-- One option of a column, if one follows. -/
def columnOption (g : Nesting) : Parser Bool :=
  firstOf [
    (["CHARACTER", "SET"], skip objectName),
    (["COLLATE"], skip objectName),
    (["NOT", "NULL"], pure ()),
    (["COMMENT"], literalString),
    (["NULL"], pure ()),
    (["DEFAULT"], skip (g.any true)),
    (["MATERIALIZED"], skip (g.any true)),
    (["ALIAS"], skip (g.any true)),
    (["PRIMARY", "KEY"], constraintTimes),
    (["UNIQUE"], constraintTimes),
    (["REFERENCES"], reference),
    (["CHECK"], skip (parenthesized (g.any false))),
    (["AUTO_INCREMENT"], pure ()),
    (["AUTOINCREMENT"], identityNumbers g),
    (["ASC"], pure ()),
    (["DESC"], pure ()),
    (["ON", "UPDATE"], skip (g.any true)),
    (["GENERATED"], generated g),
    (["OPTIONS"], settings g),
    (["AS"], do
      skip (parenthesized (g.any false))
      skip (oneOf? ["STORED", "VIRTUAL"])),
    (["IDENTITY"], identityNumbers g),
    (["ON", "CONFLICT"], skip (oneOf ["ROLLBACK", "ABORT", "FAIL", "IGNORE", "REPLACE"])),
    (["SRID"], skip (g.any true)),
    (["INVISIBLE"], pure ())]
where
  /-- The first phrase that comes next, with what follows it. -/
  firstOf : List (List String × Parser Unit) → Parser Bool
    | [] => return false
    | (words, p) :: rest => do
      if ← phrase? words p then return true else firstOf rest

/-- Options of a column; a named one has to follow its name. -/
def columnOptions (g : Nesting) : Parser Unit := discard (many do
  if ← keyword? "CONSTRAINT" then
    skip ident
    if ← columnOption g then return some () else failure
  else if ← columnOption g then return some ()
  else return none)

/-- A column: its name, its type and its options. -/
def columnDefinition (g : Nesting) : Parser Ident := do
  let name ← ident
  skip dataType
  columnOptions g
  return name

/-- An indexed expression: an order, and possibly a class of operators. -/
def indexItem (g : Nesting) : Parser Unit := do
  skip (g.any false)
  match ← peek with
  | some (.name _) => skip objectName
  | _ => pure ()
  skip (oneOf? ["ASC", "DESC"])
  phraseMaybe ["NULLS"] (oneOf ["FIRST", "LAST"])

/-- Indexed expressions in parentheses. -/
def indexItems (g : Nesting) : Parser Unit := skip (parenthesized (commaSeparated (indexItem g)))

/-- The kind of an index, if it is given. -/
def indexMethod : Parser Unit := phraseMaybe ["USING"] ident

/-- What may follow the columns of an index. -/
def indexOptions : Parser Unit := phrases [
  (["USING"], skip ident),
  (["COMMENT"], literalString)]

/-- A constraint of a table, if one follows. The words that begin one cannot be bare names of
columns. -/
def tableConstraint (g : Nesting) : Parser Bool := do
  let named ← keyword? "CONSTRAINT"
  if named then skip ident
  match ← oneOf? ["UNIQUE", "PRIMARY", "FOREIGN", "CHECK"] with
  | some "UNIQUE" =>
    skip (oneOf? ["KEY", "INDEX"])
    if ← keyword? "NULLS" then
      skip (keyword? "NOT")
      keyword "DISTINCT"
    keyColumns
  | some "PRIMARY" =>
    keyword "KEY"
    keyColumns
  | some "FOREIGN" =>
    keyword "KEY"
    optionalIdent
    skip columnList
    keyword "REFERENCES"
    reference
    return true
  | some _ =>
    skip (parenthesized (g.any false))
    phraseMaybe ["NOT", "ENFORCED"] (pure ())
    phraseMaybe ["ENFORCED"] (pure ())
    return true
  | none =>
    if named then failure
    match ← oneOf? ["INDEX", "KEY", "FULLTEXT", "SPATIAL"] with
    | none => return false
    | some word =>
      if word ∈ ["FULLTEXT", "SPATIAL"] then skip (oneOf? ["INDEX", "KEY"])
      if !(← peekKeyword "USING") then optionalIdent
      indexMethod
      indexItems g
      indexOptions
      return true
where
  /-- The columns of a key, with its name before them. -/
  keyColumns : Parser Bool := do
    if !(← peekKeyword "USING") then optionalIdent
    indexMethod
    indexItems g
    indexOptions
    constraintTimes
    return true

/-- At most so many columns and constraints, up to the closing parenthesis: the columns. -/
def tablePartsWithin (g : Nesting) : Nat → Parser (List Ident)
  | 0 => failure
  | n + 1 => do
    let columns ←
      if ← tableConstraint g then pure []
      else
        match ← peek with
        | some t => if t.isWord then (fun c => [c]) <$> columnDefinition g else failure
        | none => failure
    if ← symbol? "," then return columns ++ (← tablePartsWithin g n)
    else
      symbol ")"
      return columns

/-- The columns of a new table, none if no parenthesis follows. -/
def tableColumns (g : Nesting) : Parser (List Ident) := do
  if ← symbol? "(" then
    if ← symbol? ")" then return []
    else fun ts => tablePartsWithin g (ts.length + 1) ts
  else return []

/-- A value of an option: a literal or a name. -/
def optionValue : Parser Unit := do
  skip (symbol? "=")
  match ← optional? value with
  | some _ => return ()
  | none => skip ident

/-- Options of a new table that stand one after another, possibly with commas. -/
def plainOptions : Parser Unit := discard (many do
  if ← tryEach plain then
    skip (symbol? ",")
    return some ()
  else return none)
where
  /-- The first option that comes next. -/
  tryEach : List (List String × Parser Unit) → Parser Bool
    | [] => return false
    | (words, p) :: rest => do
      if ← phrase? words p then return true else tryEach rest
  /-- The options. -/
  plain : List (List String × Parser Unit) := [
    (["START", "TRANSACTION"], pure ()),
    (["COMMENT"], do
      skip (symbol? "=")
      match ← next with
      | .string .plain _ => return ()
      | _ => failure),
    (["ENGINE"], do
      skip (symbol? "=")
      match ← next with
      | .name _ | .keyword _ _ | .quoted _ _ => optionalColumns
      | _ => failure),
    (["TABLESPACE"], do
      skip (symbol? "=")
      skip ident),
    (["DEFAULT", "CHARSET"], optionValue), (["CHARSET"], optionValue),
    (["DEFAULT", "CHARACTER", "SET"], optionValue), (["CHARACTER", "SET"], optionValue),
    (["DEFAULT", "COLLATE"], optionValue), (["COLLATE"], optionValue),
    (["DATA", "DIRECTORY"], optionValue), (["INDEX", "DIRECTORY"], optionValue),
    (["KEY_BLOCK_SIZE"], optionValue), (["ROW_FORMAT"], optionValue),
    (["PACK_KEYS"], optionValue), (["STATS_AUTO_RECALC"], optionValue),
    (["STATS_PERSISTENT"], optionValue), (["STATS_SAMPLE_PAGES"], optionValue),
    (["DELAY_KEY_WRITE"], optionValue), (["COMPRESSION"], optionValue),
    (["ENCRYPTION"], optionValue), (["MAX_ROWS"], optionValue), (["MIN_ROWS"], optionValue),
    (["AUTOEXTEND_SIZE"], optionValue), (["AVG_ROW_LENGTH"], optionValue),
    (["CHECKSUM"], optionValue), (["CONNECTION"], optionValue),
    (["ENGINE_ATTRIBUTE"], optionValue), (["PASSWORD"], optionValue),
    (["SECONDARY_ENGINE_ATTRIBUTE"], optionValue), (["INSERT_METHOD"], optionValue),
    (["AUTO_INCREMENT"], optionValue)]

/-- Storage of a new table. -/
def storageOptions (g : Nesting) : Parser Unit := do
  phraseMaybe ["PARTITIONED", "BY"] (parenthesized (commaSeparated do
    skip ident
    skip (optional? dataType)))
  phraseMaybe ["CLUSTERED", "BY"] (do
    skip columnList
    phraseMaybe ["SORTED", "BY"] (indexItems g)
    keyword "INTO"
    skip value
    keyword "BUCKETS")
  phrases [
    (["STORED", "AS"], skip ident),
    (["LOCATION"], literalString)]

/-- What follows the columns of a new table, up to a query. -/
def tableOptions (g : Nesting) : Parser Unit := do
  phraseMaybe ["WITHOUT", "ROWID"] (pure ())
  storageOptions g
  phraseMaybe ["INHERITS"] (parenthesized (commaSeparated objectName))
  let listed ← phrase? ["WITH"] (settings g)
  phraseMaybe ["TBLPROPERTIES"] (settings g)
  phraseMaybe ["PARTITION", "BY"] (g.any false)
  phraseMaybe ["CLUSTER", "BY"] (commaSeparated (g.any false))
  let more ← phrase? ["OPTIONS"] (settings g)
  unless listed || more do plainOptions
  phraseMaybe ["PRIMARY", "KEY"] (g.any false)
  phraseMaybe ["ORDER", "BY"] (do
    if ← symbol? "(" then
      unless ← symbol? ")" do
        skip (commaSeparated (g.any false))
        symbol ")"
    else skip (g.any false))
  phraseMaybe ["ON", "COMMIT"] (do
    unless (← keywords? ["DELETE", "ROWS"]) || (← keywords? ["PRESERVE", "ROWS"]) do
      keyword "DROP")
  phraseMaybe ["STRICT"] (pure ())

/-- A new table, behind `CREATE TABLE`. -/
def createTable (g : Nesting) : Parser Clause := do
  let ifNotExists ← keywords? ["IF", "NOT", "EXISTS"]
  let name ← objectName
  phraseMaybe ["ON", "CLUSTER"] ident
  skip (whenever ((← keyword? "LIKE") || (← keyword? "ILIKE")) objectName)
  phraseMaybe ["CLONE"] objectName
  let columns ← tableColumns g
  tableOptions g
  if ← keyword? "AS" then skip g.query
  return .createTable name columns ifNotExists

/-- A new view, behind `CREATE`. -/
def createView (g : Nesting) : Parser Clause := do
  skip (keyword? "SECURE")
  skip (keyword? "MATERIALIZED")
  keyword "VIEW"
  phraseMaybe ["IF", "NOT", "EXISTS"] (pure ())
  skip objectName
  if ← peekSymbol "(" then
    skip (parenthesized (commaSeparated do
      skip ident
      phraseMaybe ["COMMENT"] literalString))
  phraseMaybe ["WITH"] (settings g)
  phraseMaybe ["CLUSTER", "BY"] columnList
  phraseMaybe ["OPTIONS"] (settings g)
  phraseMaybe ["TO"] objectName
  phraseMaybe ["COMMENT"] (do
    symbol "="
    literalString)
  keyword "AS"
  skip g.query
  phraseMaybe ["WITH", "NO", "SCHEMA", "BINDING"] (pure ())
  return .other

/-- A new index, behind `CREATE [UNIQUE] INDEX`. -/
def createIndex (g : Nesting) : Parser Clause := do
  skip (keyword? "CONCURRENTLY")
  let ifNotExists ← keywords? ["IF", "NOT", "EXISTS"]
  if ifNotExists || !(← keyword? "ON") then
    skip objectName
    keyword "ON"
  skip objectName
  indexMethod
  indexItems g
  phraseMaybe ["INCLUDE"] columnList
  phraseMaybe ["NULLS", "DISTINCT"] (pure ())
  phraseMaybe ["NULLS", "NOT", "DISTINCT"] (pure ())
  phraseMaybe ["WITH"] (parenthesized (commaSeparated (g.any false)))
  phraseMaybe ["WHERE"] (g.any false)
  return .other

/-- Other new objects, behind `CREATE` and the kind of the object. -/
def createOther (g : Nesting) (kind : String) : Parser Clause := do
  phraseMaybe ["IF", "NOT", "EXISTS"] (pure ())
  match kind with
  | "SCHEMA" =>
    unless ← phrase? ["AUTHORIZATION"] ident do
      skip objectName
      phraseMaybe ["AUTHORIZATION"] ident
    phraseMaybe ["DEFAULT", "COLLATE"] (g.any false)
    phraseMaybe ["WITH"] (settings g)
    phraseMaybe ["OPTIONS"] (settings g)
    phraseMaybe ["CLONE"] objectName
  | "DATABASE" =>
    skip objectName
    phrases [
      (["LOCATION"], literalString),
      (["MANAGEDLOCATION"], literalString)]
    phraseMaybe ["CLONE"] objectName
  | "SEQUENCE" =>
    skip objectName
    phraseMaybe ["AS"] dataType
    sequenceOptions g
    phraseMaybe ["OWNED", "BY"] objectName
  | "ROLE" =>
    skip (commaSeparated objectName)
    skip (keyword? "WITH")
    phrases (["LOGIN", "NOLOGIN", "INHERIT", "NOINHERIT", "BYPASSRLS", "NOBYPASSRLS", "SUPERUSER",
        "NOSUPERUSER", "CREATEDB", "NOCREATEDB", "CREATEROLE", "NOCREATEROLE", "REPLICATION",
        "NOREPLICATION"].map (fun w => ([w], pure ())) ++
      [(["PASSWORD"], skip (g.any false)), (["CONNECTION", "LIMIT"], skip (g.any false)),
        (["VALID", "UNTIL"], skip (g.any false)), (["IN", "ROLE"], skip (commaSeparated ident)),
        (["ROLE"], skip (commaSeparated ident)), (["ADMIN"], skip (commaSeparated ident))])
  | "TYPE" =>
    skip objectName
    keyword "AS"
    if ← keyword? "ENUM" then skip (parenthesized (commaSeparated ident))
    else
      symbol "("
      unless ← symbol? ")" do
        skip (commaSeparated do
          skip ident
          skip dataType
          phraseMaybe ["COLLATE"] objectName)
        symbol ")"
  | "DOMAIN" =>
    skip objectName
    keyword "AS"
    skip dataType
    phraseMaybe ["COLLATE"] ident
    phraseMaybe ["DEFAULT"] (g.any true)
    skip (many do
      if ← tableConstraint g then return some () else return none)
  | "EXTENSION" =>
    skip ident
    if ← keyword? "WITH" then
      phraseMaybe ["SCHEMA"] ident
      phraseMaybe ["VERSION"] ident
      skip (keyword? "CASCADE")
  | _ => failure
  return .other

/-- What follows `CREATE`. -/
def create (g : Nesting) : Parser Clause := do
  let replaced ← keywords? ["OR", "REPLACE"]
  skip (keywords? ["OR", "ALTER"])
  skip (keyword? "LOCAL")
  skip (keyword? "GLOBAL")
  skip (keyword? "TRANSIENT")
  skip (oneOf? ["TEMP", "TEMPORARY"])
  if ← keyword? "TABLE" then createTable g
  else if ← keywords? ["EXTERNAL", "TABLE"] then createTable g
  else if (← peekKeyword "MATERIALIZED") || (← peekKeyword "VIEW") || (← peekKeyword "SECURE") then
    createView g
  else if replaced then failure
  else if ← keyword? "INDEX" then createIndex g
  else if ← keywords? ["UNIQUE", "INDEX"] then createIndex g
  else
    let kind ← oneOf ["SCHEMA", "DATABASE", "SEQUENCE", "ROLE", "TYPE", "DOMAIN", "EXTENSION"]
    createOther g kind

/-- What follows `DROP`. -/
def drop : Parser Clause := do
  skip (keyword? "TEMPORARY")
  let kind ← do
    if ← keywords? ["MATERIALIZED", "VIEW"] then pure "VIEW"
    else oneOf ["TABLE", "VIEW", "INDEX", "ROLE", "SCHEMA", "DATABASE", "SEQUENCE", "STAGE", "TYPE",
      "USER", "STREAM", "FUNCTION", "PROCEDURE", "TRIGGER", "DOMAIN", "EXTENSION", "POLICY",
      "CONNECTOR"]
  let ifExists ← keywords? ["IF", "EXISTS"]
  if kind ∈ ["FUNCTION", "PROCEDURE"] then
    skip (commaSeparated do
      skip objectName
      if ← symbol? "(" then
        unless ← symbol? ")" do
          skip (commaSeparated do
            skip (oneOf? ["IN", "OUT", "INOUT"])
            skip dataType)
          symbol ")")
    skip (oneOf? ["CASCADE", "RESTRICT"])
    return .other
  else if kind ∈ ["TRIGGER", "POLICY"] then
    skip objectName
    if kind = "POLICY" then
      keyword "ON"
      skip objectName
    else phraseMaybe ["ON"] objectName
    skip (oneOf? ["CASCADE", "RESTRICT"])
    return .other
  else if kind ∈ ["DOMAIN", "EXTENSION", "CONNECTOR"] then
    if kind = "EXTENSION" then skip (commaSeparated ident) else skip objectName
    skip (oneOf? ["CASCADE", "RESTRICT"])
    return .other
  else
    let names ← commaSeparated objectName
    let cascade ← keyword? "CASCADE"
    let restrict ← keyword? "RESTRICT"
    let purge ← keyword? "PURGE"
    if cascade && restrict || kind == "ROLE" && (cascade || restrict || purge) then failure
    phraseMaybe ["ON"] objectName
    return .drop (kind == "TABLE") names ifExists

/-- One change of a table. -/
def tableChange (g : Nesting) : Parser Unit := do
  match ← oneOf ["ADD", "DROP", "RENAME", "ALTER", "MODIFY", "CHANGE", "ENABLE", "DISABLE", "OWNER",
      "SET", "VALIDATE"] with
  | "ADD" =>
    unless ← tableConstraint g do
      skip (keyword? "COLUMN")
      phraseMaybe ["IF", "NOT", "EXISTS"] (pure ())
      skip (columnDefinition g)
      columnPlace
  | "DROP" =>
    if ← keywords? ["PRIMARY", "KEY"] then return ()
    else
      skip (keywords? ["FOREIGN", "KEY"])
      skip (oneOf? ["COLUMN", "CONSTRAINT", "INDEX"])
      phraseMaybe ["IF", "EXISTS"] (pure ())
      skip (commaSeparated ident)
      skip (oneOf? ["CASCADE", "RESTRICT"])
  | "RENAME" =>
    if (← keyword? "TO") || (← keyword? "AS") then skip objectName
    else
      skip (oneOf? ["COLUMN", "CONSTRAINT"])
      skip ident
      keyword "TO"
      skip ident
  | "ALTER" =>
    skip (keyword? "COLUMN")
    skip ident
    columnChange
  | "MODIFY" =>
    skip (keyword? "COLUMN")
    skip (columnDefinition g)
    columnPlace
  | "CHANGE" =>
    skip (keyword? "COLUMN")
    skip ident
    skip (columnDefinition g)
    columnPlace
  | "OWNER" =>
    keyword "TO"
    skip ident
  | "SET" => settings g
  | "VALIDATE" =>
    keyword "CONSTRAINT"
    skip ident
  | _ =>
    if ← keywords? ["ROW", "LEVEL", "SECURITY"] then return ()
    else
      skip (oneOf? ["ALWAYS", "REPLICA"])
      skip (oneOf ["TRIGGER", "RULE"])
      skip ident
where
  /-- Where a new column stands. -/
  columnPlace : Parser Unit := do
    unless ← keyword? "FIRST" do phraseMaybe ["AFTER"] ident
  /-- A change of one column. -/
  columnChange : Parser Unit := do
    if (← keywords? ["SET", "NOT", "NULL"]) || (← keywords? ["DROP", "NOT", "NULL"]) ||
        (← keywords? ["DROP", "DEFAULT"]) then return ()
    else if ← phrase? ["SET", "DEFAULT"] (g.any false) then return ()
    else if (← keywords? ["SET", "DATA", "TYPE"]) || (← keyword? "TYPE") then
      skip dataType
      phraseMaybe ["USING"] (g.any false)
    else
      keywords ["ADD", "GENERATED"]
      generated g

/-- What follows `ALTER`. -/
def alter (g : Nesting) : Parser Clause := do
  match ← oneOf ["TABLE", "INDEX", "VIEW", "SCHEMA", "TYPE", "ROLE", "USER"] with
  | "TABLE" =>
    phraseMaybe ["IF", "EXISTS"] (pure ())
    skip (keyword? "ONLY")
    skip objectName
    phraseMaybe ["ON", "CLUSTER"] ident
    skip (commaSeparated (tableChange g))
  | "VIEW" =>
    skip objectName
    optionalColumns
    phraseMaybe ["WITH"] (settings g)
    keyword "AS"
    skip g.query
  | "SCHEMA" =>
    phraseMaybe ["IF", "EXISTS"] (pure ())
    skip objectName
    unless ← phrase? ["RENAME", "TO"] objectName do
      keywords ["OWNER", "TO"]
      skip ident
  | _ =>
    skip objectName
    keywords ["RENAME", "TO"]
    skip objectName
  return .other

end CounterTable.Sql.Grammar
