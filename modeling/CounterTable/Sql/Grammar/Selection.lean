import CounterTable.Sql.Grammar.Expression

/-!
# Reading queries

A query is a main part (a selection, rows of values, or a combination of queries) with definitions
before it and an order, limits and locks behind it. Besides the parts that are looked into, a query
is kept as its canonical text.

* `factor`, `sources`: what is read from;
* `selection`: a selection;
* `query`: a query.
-/

namespace CounterTable.Sql.Grammar

/-- Words that end a table and are no alias of it. -/
def notTableAliases : List String :=
  ["WITH", "EXPLAIN", "ANALYZE", "SELECT", "WHERE", "GROUP", "SORT", "HAVING", "WINDOW", "ORDER",
    "PIVOT", "UNPIVOT", "TOP", "LATERAL", "VIEW", "LIMIT", "OFFSET", "FETCH", "UNION", "EXCEPT",
    "INTERSECT", "MINUS", "ON", "JOIN", "INNER", "CROSS", "FULL", "LEFT", "RIGHT", "NATURAL",
    "USING", "CLUSTER", "DISTRIBUTE", "GLOBAL", "ANTI", "SEMI", "RETURNING", "ASOF",
    "MATCH_CONDITION", "OUTER", "SET", "QUALIFY", "END", "FOR", "PARTITION", "PREWHERE",
    "SETTINGS", "FORMAT", "START", "CONNECT", "MATCH_RECOGNIZE", "SAMPLE", "TABLESAMPLE", "FROM",
    "OPEN"]

/-- Words that end a selected expression and are no alias of it. -/
def notColumnAliases : List String :=
  ["WITH", "EXPLAIN", "ANALYZE", "SELECT", "WHERE", "GROUP", "SORT", "HAVING", "ORDER", "TOP",
    "LATERAL", "VIEW", "LIMIT", "OFFSET", "FETCH", "UNION", "EXCEPT", "EXCLUDE", "INTERSECT",
    "MINUS", "CLUSTER", "DISTRIBUTE", "RETURNING", "FROM", "INTO", "END"]

/-- An alias, if one follows: any name behind `AS`, and else a name that is not excluded. -/
def aliasName? (excluded : List String) : Parser (Option Ident) := do
  if ← keyword? "AS" then return some (← ident)
  else
    match ← peek with
    | some (.keyword word _) => whenever (!excluded.contains word) ident
    | some t => whenever t.ident?.isSome ident
    | none => return none

/-- An alias of a table, possibly with names for its columns, as it follows the table. -/
def tableAlias : Parser String := do
  match ← aliasName? notTableAliases with
  | none => return ""
  | some i =>
    if ← peekSymbol "(" then
      let columns ← parenthesized (commaSeparated do
        let c ← ident
        match ← optional? dataType with
        | some t => return c.render ++ " " ++ t.text
        | none => return c.render)
      return " AS " ++ i.render ++ " (" ++ renderList columns ++ ")"
    else return " AS " ++ i.render

/-- Something that rows are read from, with its canonical text. -/
structure Factor where
  relation : Relation
  text : String
  /-- Whether it is a join in parentheses. -/
  nestedJoin : Bool := false
  aliased : Bool := false

/-- Rows of values between parentheses. -/
def valueRows (g : Nesting) : Parser (List (List Expr)) := commaSeparated do
  let _ ← keyword? "ROW"
  parenthesized (commaSeparated (g.any false))

/-- The canonical text of rows of values. -/
def renderRows (rows : List (List Expr)) : String :=
  "VALUES " ++ renderList (rows.map fun row => "(" ++ renderList (row.map Expr.render) ++ ")")

/-- A named table with what may follow its name: arguments, an alias, hints. -/
def namedTable (g : Nesting) : Parser Factor := do
  let name ← objectName
  let partitions ← whenever (← keyword? "PARTITION") columnList
  let args ← if ← peekSymbol "(" then arguments g else pure ""
  let ordinality := if ← keywords? ["WITH", "ORDINALITY"] then " WITH ORDINALITY" else ""
  let named ← tableAlias
  let hints ← do
    match ← get with
    | .keyword "WITH" _ :: .symbol "(" :: rest =>
      set rest
      let hs ← commaSeparated (g.any false)
      symbol ")"
      pure (some (renderList (hs.map Expr.render)))
    | _ => pure none
  return {
    relation := .table name hints.isSome
    text := renderName name ++
      (match partitions with
        | some ps => " PARTITION (" ++ renderList (ps.map Ident.render) ++ ")"
        | none => "") ++ args ++ ordinality ++ named ++
      (match hints with | some hs => " WITH (" ++ hs ++ ")" | none => "")
    aliased := named != "" }

/-- How a table is joined to those before it: the words, and whether a condition may follow. -/
def joinWords : Parser (Option (String × Bool)) := do
  let whole := if ← keyword? "GLOBAL" then "GLOBAL " else ""
  if ← keyword? "CROSS" then
    match ← oneOf ["JOIN", "APPLY"] with
    | "JOIN" => return some (whole ++ "CROSS JOIN", false)
    | _ => return some (whole ++ "CROSS APPLY", false)
  else if ← keyword? "OUTER" then
    keyword "APPLY"
    return some (whole ++ "OUTER APPLY", false)
  else
    let natural ← keyword? "NATURAL"
    let words : Option String ← do
      match ← oneOf? ["JOIN", "INNER", "LEFT", "RIGHT", "FULL", "ANTI", "SEMI",
          "STRAIGHT_JOIN"] with
      | none => pure none
      | some "JOIN" => pure (some "JOIN")
      | some "STRAIGHT_JOIN" => pure (some "STRAIGHT_JOIN")
      | some "FULL" =>
        let _ ← keyword? "OUTER"
        keyword "JOIN"
        pure (some "FULL JOIN")
      | some "LEFT" => some <$> sided "LEFT"
      | some "RIGHT" => some <$> sided "RIGHT"
      | some word =>
        keyword "JOIN"
        pure (some (word ++ " JOIN"))
    match words with
    | none => if natural || whole != "" then failure else return none
    | some w => return some (whole ++ (if natural then "NATURAL " else "") ++ w, !natural)
where
  /-- A join that keeps one side. -/
  sided (side : String) : Parser String := do
    match ← oneOf? ["OUTER", "SEMI", "ANTI"] with
    | some word =>
      keyword "JOIN"
      return side ++ " " ++ word ++ " JOIN"
    | none =>
      keyword "JOIN"
      return side ++ " JOIN"

/-- The condition of a join, if one follows. -/
def joinCondition (g : Nesting) : Parser String := do
  if ← keyword? "ON" then return " ON " ++ (← g.any false).render
  else if ← keyword? "USING" then
    return " USING(" ++ renderList ((← parenthesized (commaSeparated objectName)).map renderName) ++
      ")"
  else return ""

/-- One thing that rows are read from; what stands in parentheses is read by `nested`. -/
def factor (g : Nesting) (nested : Parser (Factor × List String)) : Parser Factor := do
  if ← keyword? "LATERAL" then
    if ← peekSymbol "(" then
      let q ← subquery g
      return { relation := .other, text := "LATERAL (" ++ q ++ ")" ++ (← tableAlias) }
    else
      let name ← objectName
      let args ← arguments g
      return { relation := .other
               text := "LATERAL " ++ renderName name ++ args ++ (← tableAlias) }
  else if ← keyword? "TABLE" then
    let e ← parenthesized (g.any false)
    return { relation := .other, text := "TABLE(" ++ e.render ++ ")" ++ (← tableAlias) }
  else if ← keyword? "UNNEST" then
    let es ← parenthesized (commaSeparated (g.any false))
    let ordinality := if ← keywords? ["WITH", "ORDINALITY"] then " WITH ORDINALITY" else ""
    return { relation := .other
             text := "UNNEST(" ++ renderList (es.map Expr.render) ++ ")" ++ ordinality ++
               (← tableAlias) }
  else if ← symbol? "(" then derived <|> inner
  else
    match ← get with
    | .keyword "VALUES" _ :: .symbol "(" :: rest =>
      set (Token.symbol "(" :: rest)
      let rows ← valueRows g
      return { relation := .other, text := "(" ++ renderRows rows ++ ")" ++ (← tableAlias) }
    | _ => namedTable g
where
  /-- A query, behind its opening parenthesis. -/
  derived : Parser Factor := do
    let q ← g.query
    symbol ")"
    let named ← tableAlias
    return { relation := .other, text := "(" ++ q.text ++ ")" ++ named, aliased := named != "" }
  /-- A join or a lone table, behind an opening parenthesis; the parentheses around a lone table
  mean nothing. -/
  inner : Parser Factor := do
    let (first, joins) ← nested
    symbol ")"
    let named ← tableAlias
    if !joins.isEmpty || first.nestedJoin then
      return { relation := .other, nestedJoin := true
               text := "(" ++ first.text ++ String.join joins ++ ")" ++ named }
    else if named != "" && first.aliased then failure
    else return { first with text := first.text ++ named, aliased := first.aliased || named != "" }

/-- Something that rows are read from, at most so many parentheses deep, together with what is
joined to it: the canonical text, and the number of joins. -/
def joinedWithin (g : Nesting) : Nat → Parser (Factor × List String)
  | 0 => failure
  | n + 1 => do
    let first ← factor g (joinedWithin g n)
    let joins ← many do
      match ← joinWords with
      | none => return none
      | some (words, conditional) =>
        let next ← factor g (joinedWithin g n)
        let condition ← if conditional then joinCondition g else pure ""
        return some (" " ++ words ++ " " ++ next.text ++ condition)
    return (first, joins)

/-- One thing that rows are read from, with what is joined to it. -/
def joined (g : Nesting) : Parser (Source × String) := do
  let (first, joins) ← fun ts => joinedWithin g (ts.length + 1) ts
  return (⟨first.relation, !joins.isEmpty⟩, first.text ++ String.join joins)

/-- What rows are read from. -/
def sources (g : Nesting) : Parser (List (Source × String)) := commaSeparated (joined g)

/-- Columns that a selection of all columns leaves out or renames. -/
def wildcardOptions (g : Nesting) : Parser String := do
  let pattern ← whenever (← keyword? "ILIKE") value
  let exclude ← whenever (← keyword? "EXCLUDE") names
  let except ← whenever (← keyword? "EXCEPT") names
  let replace ← whenever (← keyword? "REPLACE") (parenthesized (commaSeparated do
    let e ← g.any false
    let _ ← keyword? "AS"
    return e.render ++ " AS " ++ (← ident).render))
  let rename ← whenever (← keyword? "RENAME") renames
  return (match pattern with | some e => " ILIKE " ++ e.render | none => "") ++
    (match exclude with | some ns => " EXCLUDE " ++ ns | none => "") ++
    (match except with | some ns => " EXCEPT " ++ ns | none => "") ++
    (match replace with | some rs => " REPLACE (" ++ renderList rs ++ ")" | none => "") ++
    (match rename with | some rs => " RENAME " ++ rs | none => "")
where
  /-- One name, or several in parentheses. -/
  names : Parser String := do
    if ← peekSymbol "(" then return "(" ++ renderList ((← columnList).map Ident.render) ++ ")"
    else return (← ident).render
  /-- One new name. -/
  newName : Parser String := do
    let old ← ident
    keyword "AS"
    return old.render ++ " AS " ++ (← ident).render
  /-- One new name, or several in parentheses. -/
  renames : Parser String := do
    if ← peekSymbol "(" then
      return "(" ++ renderList (← parenthesized (commaSeparated newName)) ++ ")"
    else newName

/-- One selected thing, with its canonical text. -/
def selectItem (g : Nesting) : Parser (SelectItem × String) := do
  if ← symbol? "*" then return (.all, "*" ++ (← wildcardOptions g))
  else
    match ← optional? argument.qualifiedAll with
    | some text => return (.other, text ++ (← wildcardOptions g))
    | none =>
      let e ← g.any false
      if isFrom e then failure
      else
        match ← aliasName? notColumnAliases with
        | some i => return (.aliased e i, e.render ++ " AS " ++ i.render)
        | none => return (.expr e, e.render)
where
  /-- The word that begins the next part is no column. -/
  isFrom : Expr → Bool
    | .column [i] => i.quote.isNone && Text.lower i.text.toList == "from".toList
    | _ => false

/-- Groups of rows: expressions, or sets of them. -/
def groupItem (g : Nesting) : Parser String := do
  if ← keywords? ["GROUPING", "SETS"] then
    return "GROUPING SETS (" ++ renderList (← parenthesized (commaSeparated group)) ++ ")"
  else
    match ← oneOf? ["CUBE", "ROLLUP"] with
    | some word => return word ++ " (" ++ renderList (← parenthesized (commaSeparated group)) ++ ")"
    | none =>
      match ← get with
      | .symbol "(" :: .symbol ")" :: rest =>
        set rest
        return "()"
      | _ => return (← g.any false).render
where
  /-- A set of expressions. -/
  group : Parser String := do
    match ← get with
    | .symbol "(" :: .symbol ")" :: rest =>
      set rest
      return "()"
    | .symbol "(" :: _ =>
      return "(" ++
        renderList ((← parenthesized (commaSeparated (g.any false))).map Expr.render) ++ ")"
    | _ => return (← g.any false).render

/-- The part of a query that begins with a phrase and holds expressions. -/
def listPart (g : Nesting) (words : List String) : Parser String := do
  if ← keywords? words then
    let es ← commaSeparated (g.any false)
    return " " ++ " ".intercalate words ++ " " ++ renderList (es.map Expr.render)
  else return ""

/-- The part of a query that begins with a word and holds one expression. -/
def exprPart (g : Nesting) (word : String) : Parser (Option Expr × String) := do
  match ← whenever (← keyword? word) (g.any false) with
  | some e => return (some e, " " ++ word ++ " " ++ e.render)
  | none => return (none, "")

/-- How many rows are selected, behind `TOP`. -/
def topPart : Parser String := do
  let quantity ← do
    match ← next with
    | .number text _ => pure text
    | .symbol "(" => do
      let e ← value
      symbol ")"
      pure ("(" ++ e.render ++ ")")
    | _ => failure
  let percent := if ← keyword? "PERCENT" then " PERCENT" else ""
  let ties := if ← keywords? ["WITH", "TIES"] then " WITH TIES" else ""
  return " TOP " ++ quantity ++ percent ++ ties

/-- Whether equal rows are selected once. -/
def distinctPart (g : Nesting) : Parser String := do
  let all ← keyword? "ALL"
  if ← keyword? "DISTINCT" then
    if all then failure
    if ← keyword? "ON" then
      symbol "("
      if ← symbol? ")" then return " DISTINCT ON ()"
      let es ← commaSeparated (g.any false)
      symbol ")"
      return " DISTINCT ON (" ++ renderList (es.map Expr.render) ++ ")"
    else return " DISTINCT"
  else return ""

/-- Where the selected rows go. -/
def intoPart : Parser String := do
  if ← keyword? "INTO" then
    let kind := match ← oneOf? ["TEMPORARY", "TEMP"] with
      | some w => w ++ " "
      | none => ""
    let unlogged := if ← keyword? "UNLOGGED" then "UNLOGGED " else ""
    let table := if ← keyword? "TABLE" then "TABLE " else ""
    return " INTO " ++ kind ++ unlogged ++ table ++ renderName (← objectName)
  else return ""

/-- Groups, and their modifiers. -/
def groupPart (g : Nesting) : Parser String := do
  if ← keywords? ["GROUP", "BY"] then
    let items ← if ← keyword? "ALL" then pure "ALL" else renderList <$> commaSeparated (groupItem g)
    let modifiers ← many do
      match ← get with
      | .keyword "WITH" _ :: .keyword word _ :: rest =>
        if word ∈ ["ROLLUP", "CUBE", "TOTALS"] then
          set rest
          return some (" WITH " ++ word)
        else return none
      | _ => return none
    return " GROUP BY " ++ items ++ String.join modifiers
  else return ""

/-- Named windows. -/
def windowPart (g : Nesting) : Parser String := do
  if ← keyword? "WINDOW" then
    let ws ← commaSeparated do
      let name ← ident
      keyword "AS"
      if ← peekSymbol "(" then return name.render ++ " AS (" ++ (← window g) ++ ")"
      else return name.render ++ " AS " ++ (← ident).render
    return " WINDOW " ++ renderList ws
  else return ""

/-- A hierarchy of rows. -/
def hierarchyPart (g : Nesting) : Parser String := do
  if ← keywords? ["START", "WITH"] then
    let start ← g.any false
    keywords ["CONNECT", "BY"]
    let es ← commaSeparated (g.any false)
    return " START WITH " ++ start.render ++ " CONNECT BY " ++ renderList (es.map Expr.render)
  else if ← keywords? ["CONNECT", "BY"] then
    let es ← commaSeparated (g.any false)
    keywords ["START", "WITH"]
    let start ← g.any false
    return " START WITH " ++ start.render ++ " CONNECT BY " ++ renderList (es.map Expr.render)
  else if (← peekKeyword "START") || (← peekKeyword "CONNECT") then failure
  else return ""

/-- A selection, with its canonical text. -/
def selection (g : Nesting) : Parser (Select × String) := do
  let early ← whenever (← keyword? "FROM") (sources g)
  match early with
  | some tables =>
    if !(← peekKeyword "SELECT") then
      return (⟨[], tables.map (·.1), none⟩, "FROM " ++ renderList (tables.map (·.2)))
  | none => pure ()
  keyword "SELECT"
  let distinct ← distinctPart g
  let top ← if ← keyword? "TOP" then topPart else pure ""
  let items ← if ← peekKeyword "FROM" then pure [] else commaSeparated (selectItem g)
  let into ← intoPart
  let tables ← do
    match early with
    | some tables => pure tables
    | none => if ← keyword? "FROM" then sources g else pure []
  let laterals ← many do
    whenever (← keywords? ["LATERAL", "VIEW"]) do
      let outer := if ← keyword? "OUTER" then " OUTER" else ""
      let e ← g.any false
      let name ← objectName
      let aliases ← whenever (← keyword? "AS") (commaSeparated ident)
      return " LATERAL VIEW" ++ outer ++ " " ++ e.render ++ " " ++ renderName name ++
        (match aliases with | some as => " AS " ++ renderList (as.map Ident.render) | none => "")
  let (_, prewhere) ← exprPart g "PREWHERE"
  let (filter, filterText) ← exprPart g "WHERE"
  let groups ← groupPart g
  let cluster ← listPart g ["CLUSTER", "BY"]
  let distribute ← listPart g ["DISTRIBUTE", "BY"]
  let sort ← if ← keywords? ["SORT", "BY"] then (" SORT BY " ++ ·) <$> orderItems g else pure ""
  let (_, having) ← exprPart g "HAVING"
  let windows ← windowPart g
  let (_, qualify) ← exprPart g "QUALIFY"
  let windows' ← if windows = "" then windowPart g else pure ""
  let hierarchy ← hierarchyPart g
  let fromText := "FROM " ++ renderList (tables.map (·.2))
  let itemText := if items.isEmpty then "" else " " ++ renderList (items.map (·.2))
  let head := match early with
    | some _ => fromText ++ " SELECT" ++ distinct ++ top ++ itemText ++ into
    | none => "SELECT" ++ distinct ++ top ++ itemText ++ into ++
        (if tables.isEmpty then "" else " " ++ fromText)
  return (⟨items.map (·.1), tables.map (·.1), filter⟩,
    head ++ String.join laterals ++ prewhere ++ filterText ++ groups ++ cluster ++ distribute ++
      sort ++ having ++ windows ++ qualify ++ windows' ++ hierarchy)

/-- How two queries are combined: the words, and how tightly they bind. -/
def combination? : Parser (Option (String × Nat)) := do
  match ← peek with
  | some (.keyword "UNION" _) => return some ("UNION", 10)
  | some (.keyword "EXCEPT" _) => return some ("EXCEPT", 10)
  | some (.keyword "MINUS" _) => return some ("MINUS", 10)
  | some (.keyword "INTERSECT" _) => return some ("INTERSECT", 20)
  | _ => return none

/-- Which of the combined rows are kept. -/
def combinationQuantifier : Parser String := do
  let quantifier := match ← oneOf? ["ALL", "DISTINCT"] with
    | some w => " " ++ w
    | none => ""
  if ← keywords? ["BY", "NAME"] then return quantifier ++ " BY NAME" else return quantifier

/-- A main part without combinations. -/
def singleBody (g : Nesting) : Parser (Body × String) := do
  if (← peekKeyword "SELECT") || (← peekKeyword "FROM") then
    let (s, text) ← selection g
    return (.select s, text)
  else if ← symbol? "(" then
    let q ← g.query
    symbol ")"
    return (.other, "(" ++ q.text ++ ")")
  else
    match ← oneOf? ["VALUES", "VALUE"] with
    | some _ =>
      let rows ← valueRows g
      return (.values rows, renderRows rows)
    | none =>
      keyword "TABLE"
      let name ← objectName
      return (.other, "TABLE " ++ renderName name)

/-- At most so many combinations behind a main part that bind more tightly than `least`; the other
main part of each is read by `other`. -/
def combinations (other : Nat → Parser (Body × String)) (least : Nat) :
    Nat → Body × String → Parser (Body × String)
  | 0, left => pure left
  | m + 1, left => do
    match ← combination? with
    | none => return left
    | some (words, precedence) =>
      if precedence ≤ least then return left
      else
        let _ ← next
        let quantifier ← combinationQuantifier
        let right ← other precedence
        combinations other least m
          (.other, left.2 ++ " " ++ words ++ quantifier ++ " " ++ right.2)

/-- The main part of a query, with at most so many combinations. -/
def bodyWithin (g : Nesting) : Nat → Nat → Parser (Body × String)
  | 0, _ => failure
  | n + 1, least => do
    let first ← singleBody g
    combinations (bodyWithin g n) least n first

/-- The main part of a query. -/
def body (g : Nesting) : Parser (Body × String) := fun ts => bodyWithin g (ts.length + 1) 0 ts

/-- A query that is given a name, with its canonical text. -/
def definition (g : Nesting) : Parser String := do
  let name ← ident
  let columns ← if ← peekSymbol "(" then
      let cs ← columnList
      pure (" (" ++ renderList (cs.map Ident.render) ++ ")")
    else pure ""
  keyword "AS"
  let q ← subquery g
  let source ← whenever (← keyword? "FROM") ident
  return name.render ++ columns ++ " AS (" ++ q ++ ")" ++
    (match source with | some i => " FROM " ++ i.render | none => "")

/-- The order of a query. -/
def orderPart (g : Nesting) : Parser String := do
  if ← keywords? ["ORDER", "BY"] then
    if ← keyword? "ALL" then return " ORDER BY ALL"
    else return " ORDER BY " ++ (← orderItems g)
  else return ""

/-- Where a query begins to answer rows. -/
def offsetPart (g : Nesting) : Parser String := do
  let e ← g.any false
  match ← oneOf? ["ROW", "ROWS"] with
  | some w => return " OFFSET " ++ e.render ++ " " ++ w
  | none => return " OFFSET " ++ e.render

/-- How many rows a query answers. -/
def limitPart (g : Nesting) : Parser String := do
  let before ← if ← keyword? "OFFSET" then offsetPart g else pure ""
  if ← keyword? "LIMIT" then
    if ← keyword? "ALL" then
      let after ← if before = "" && (← keyword? "OFFSET") then offsetPart g else pure ""
      return before ++ after
    else
      let e ← g.any false
      if before = "" && (← symbol? ",") then
        return " LIMIT " ++ e.render ++ ", " ++ (← g.any false).render
      else
        let byText ← if ← keyword? "BY" then
            let es ← commaSeparated (g.any false)
            pure (" BY " ++ renderList (es.map Expr.render))
          else pure ""
        let after ← if before = "" && (← keyword? "OFFSET") then offsetPart g else pure ""
        return " LIMIT " ++ e.render ++ before ++ after ++ byText
  else return before

/-- Settings of a query. -/
def settingsPart : Parser String := do
  if ← keyword? "SETTINGS" then
    let items ← commaSeparated do
      let name ← ident
      symbol "="
      return name.render ++ " = " ++ (← value).render
    return " SETTINGS " ++ renderList items
  else return ""

/-- The first rows of a query. -/
def fetchPart : Parser String := do
  if ← keyword? "FETCH" then
    let _ ← oneOf ["FIRST", "NEXT"]
    let amount ← do
      match ← oneOf? ["ROW", "ROWS"] with
      | some _ => pure ""
      | none =>
        let e ← value
        let percent := if ← keyword? "PERCENT" then " PERCENT" else ""
        let _ ← oneOf ["ROW", "ROWS"]
        pure (" " ++ e.render ++ percent)
    if ← keyword? "ONLY" then return " FETCH FIRST" ++ amount ++ " ROWS ONLY"
    else
      keywords ["WITH", "TIES"]
      return " FETCH FIRST" ++ amount ++ " ROWS WITH TIES"
  else return ""

/-- A lock on what is read, behind `FOR`. -/
def lock : Parser String := do
  let strength ← oneOf ["UPDATE", "SHARE"]
  let table ← whenever (← keyword? "OF") objectName
  let wait ←
    if ← keyword? "NOWAIT" then pure " NOWAIT"
    else if ← keywords? ["SKIP", "LOCKED"] then pure " SKIP LOCKED"
    else pure ""
  return " FOR " ++ strength ++
    (match table with | some t => " OF " ++ renderName t | none => "") ++ wait

/-- Locks on what is read, up to a `FOR` of another kind, and the text of that. -/
def locks : Parser (List String × String) := do
  let ls ← many do
    match ← get with
    | .keyword "FOR" _ :: .keyword "BROWSE" _ :: _ => return none
    | .keyword "FOR" _ :: rest =>
      set rest
      return some (← lock)
    | _ => return none
  if ← keywords? ["FOR", "BROWSE"] then return (ls, " FOR BROWSE") else return (ls, "")

/-- The format that a query is answered in. -/
def formatPart : Parser String := do
  if ← keyword? "FORMAT" then
    if ← keyword? "NULL" then return " FORMAT NULL" else return " FORMAT " ++ (← ident).render
  else return ""

/-- A query. -/
def query (g : Nesting) : Parser Query := do
  let definitions ← whenever (← keyword? "WITH") do
    let recursive := if ← keyword? "RECURSIVE" then "RECURSIVE " else ""
    return "WITH " ++ recursive ++ renderList (← commaSeparated (definition g)) ++ " "
  let intro := definitions.getD ""
  match ← peek with
  | some (.keyword word _) =>
    if word ∈ ["INSERT", "UPDATE", "DELETE", "MERGE"] then
      let _ ← g.clause
      return ⟨.other, false, intro⟩
    else rest intro
  | _ => rest intro
where
  /-- The query behind its definitions. -/
  rest (intro : String) : Parser Query := do
    let (b, text) ← body g
    let order ← orderPart g
    let limit ← limitPart g
    let settings ← settingsPart
    let fetch ← fetchPart
    let (ls, forText) ← locks
    let format ← formatPart
    return ⟨b, !ls.isEmpty,
      intro ++ text ++ order ++ limit ++ settings ++ fetch ++ String.join ls ++ forText ++ format⟩

end CounterTable.Sql.Grammar
