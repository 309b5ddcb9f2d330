import CounterTable.Sql.Grammar.DataType
import CounterTable.Sql.Grammar.Operator

/-!
# Reading expressions

An expression is an operand followed by operators, each with the operands that it needs. An operand
is a literal, a name, a call, a signed operand, something in parentheses, or a construct that a
keyword opens; a keyword that opens nothing is a name like any other.

* `operand`: an operand;
* `operation`: one operator behind an operand;
* `expression`: both together.
-/

namespace CounterTable.Sql.Grammar

/-- The canonical text of a string literal. -/
def stringText (style : StringStyle) (text : String) : String :=
  match style with
  | .plain => betweenQuotes '\x27' text
  | .national => "N" ++ "'" ++ text ++ "'"
  | .hexadecimal => "X" ++ "'" ++ text ++ "'"
  | .escaped => "E" ++ "'" ++ String.ofList (text.toList.flatMap escapeChar) ++ "'"
  | .unicode => "U&" ++ "'" ++ text ++ "'"
  | .lettered letter quote => String.ofList (letter :: quote :: text.toList ++ [quote])
  | .dollar tag => "$" ++ tag ++ "$" ++ text ++ "$" ++ tag ++ "$"
where
  escapeChar (c : Char) : List Char :=
    match c with
    | '\x27' => ['\\', '\x27']
    | '\\' => ['\\', '\\']
    | '\n' => ['\\', 'n']
    | '\t' => ['\\', 't']
    | '\r' => ['\\', 'r']
    | c => [c]

/-- A literal or a placeholder. -/
def value : Parser Expr
  | .number text long :: ts => some (.number text long, ts)
  | .placeholder text :: ts => some (.placeholder text (questions ts), ts)
  | .string style text :: ts => some (.literal (stringText style text), ts)
  | .quoted text '"' :: ts => some (.literal (betweenQuotes '"' text), ts)
  | .keyword "TRUE" _ :: ts => some (.literal "true", ts)
  | .keyword "FALSE" _ :: ts => some (.literal "false", ts)
  | .keyword "NULL" _ :: ts => some (.literal "NULL", ts)
  | _ => none

/-- The fields of dates and times. -/
def dateFields : List String :=
  ["YEAR", "YEARS", "MONTH", "MONTHS", "WEEK", "WEEKS", "DAY", "DAYS", "HOUR", "HOURS", "MINUTE",
    "MINUTES", "SECOND", "SECONDS", "CENTURY", "DECADE", "DOW", "DOY", "EPOCH", "ISODOW",
    "ISOYEAR", "JULIAN", "MICROSECOND", "MICROSECONDS", "MILLENIUM", "MILLENNIUM", "MILLISECOND",
    "MILLISECONDS", "NANOSECOND", "NANOSECONDS", "QUARTER", "TIMEZONE", "TIMEZONE_HOUR",
    "TIMEZONE_MINUTE", "TIME", "DATE"]

/-- A field of a date or time. -/
def dateField : Parser String := do
  match ← next with
  | .keyword word text => if word ∈ dateFields then return word else return text
  | t => match t.ident? with
    | some i => return i.render
    | none => failure

/-- An optional field behind an interval. -/
def intervalField : Parser String := do
  match ← oneOf? dateFields with
  | none => return ""
  | some field =>
    let precision ← typePrecision
    if ← keyword? "TO" then
      let last ← oneOf dateFields
      return " " ++ field ++ precision.replace "(" " (" ++ " TO " ++ last
    else return " " ++ field ++ precision.replace "(" " ("

/-- How rows are ordered by an expression. -/
def orderItem (g : Nesting) : Parser String := do
  let e ← g.any false
  let direction := match ← oneOf? ["ASC", "DESC"] with
    | some d => " " ++ d
    | none => ""
  let nulls ←
    if ← keywords? ["NULLS", "FIRST"] then pure " NULLS FIRST"
    else if ← keywords? ["NULLS", "LAST"] then pure " NULLS LAST"
    else pure ""
  return e.render ++ direction ++ nulls

/-- An order of rows. -/
def orderItems (g : Nesting) : Parser String := renderList <$> commaSeparated (orderItem g)

/-- An argument of a call. -/
def argument (g : Nesting) : Parser String := do
  match ← get with
  | .symbol "*" :: rest =>
    set rest
    return "*"
  | t :: .symbol "=>" :: rest =>
    match t.ident? with
    | some i =>
      set rest
      return i.render ++ " => " ++ (← g.any false).render
    | none => failure
  | _ =>
    match ← optional? qualifiedAll with
    | some text => return text
    | none => return (← g.any false).render
where
  /-- All columns of a table. -/
  qualifiedAll : Parser String := do
    let first ← ident
    let parts ← many do
      match ← get with
      | .symbol "." :: .symbol "*" :: _ => return none
      | .symbol "." :: rest =>
        set rest
        return some (← ident)
      | _ => failure
    symbol "."
    symbol "*"
    return renderName (first :: parts) ++ ".*"

/-- The arguments of a call, between its parentheses. -/
def arguments (g : Nesting) : Parser String := do
  symbol "("
  if ← symbol? ")" then return "()"
  let duplicates := match ← oneOf? ["DISTINCT", "ALL"] with
    | some d => d ++ " "
    | none => ""
  let args ← commaSeparated (argument g)
  let order ← whenever (← keywords? ["ORDER", "BY"]) (orderItems g)
  let limit ← whenever (← keyword? "LIMIT") (g.any false)
  let separator ← whenever (← keyword? "SEPARATOR") value
  symbol ")"
  return "(" ++ duplicates ++ renderList args ++
    (match order with | some o => " ORDER BY " ++ o | none => "") ++
    (match limit with | some e => " LIMIT " ++ e.render | none => "") ++
    (match separator with | some e => " SEPARATOR " ++ e.render | none => "") ++ ")"

/-- One end of the frame of a window. -/
def frameBound (g : Nesting) : Parser String := do
  if ← keywords? ["CURRENT", "ROW"] then return "CURRENT ROW"
  else
    let amount ←
      if ← keyword? "UNBOUNDED" then pure "UNBOUNDED" else Expr.render <$> g.any false
    return amount ++ " " ++ (← oneOf ["PRECEDING", "FOLLOWING"])

/-- The window of a call, between its parentheses. -/
def window (g : Nesting) : Parser String := parenthesized do
  let base ← do
    match ← peek with
    | some (.name text) =>
      let _ ← next
      pure [text]
    | some (.quoted text q) =>
      let _ ← next
      pure [betweenQuotes q text]
    | _ => pure []
  let partitions ← whenever (← keywords? ["PARTITION", "BY"]) (commaSeparated (g.any false))
  let order ← whenever (← keywords? ["ORDER", "BY"]) (orderItems g)
  let frame ← do
    match ← oneOf? ["ROWS", "RANGE", "GROUPS"] with
    | none => pure []
    | some units =>
      if ← keyword? "BETWEEN" then
        let first ← frameBound g
        keyword "AND"
        pure [units ++ " BETWEEN " ++ first ++ " AND " ++ (← frameBound g)]
      else pure [units ++ " " ++ (← frameBound g)]
  return " ".intercalate (base ++
    (match partitions with
      | some es => ["PARTITION BY " ++ renderList (es.map Expr.render)]
      | none => []) ++
    (match order with | some o => ["ORDER BY " ++ o] | none => []) ++ frame)

/-- A call of the function of this name. -/
def call (g : Nesting) (name : String) : Parser Expr := do
  let args ← arguments g
  let more ← if ← peekSymbol "(" then arguments g else pure ""
  let within ← whenever (← keywords? ["WITHIN", "GROUP"])
    (parenthesized do keywords ["ORDER", "BY"]; orderItems g)
  let filter ← whenever (← keyword? "FILTER")
    (parenthesized do keyword "WHERE"; g.any false)
  let nulls ←
    if ← keywords? ["RESPECT", "NULLS"] then pure " RESPECT NULLS"
    else if ← keywords? ["IGNORE", "NULLS"] then pure " IGNORE NULLS"
    else pure ""
  let windowText ← whenever (← keyword? "OVER") do
    if ← peekSymbol "(" then return "(" ++ (← window g) ++ ")"
    else return (← ident).render
  return .other (name ++ args ++ more ++
    (match within with | some o => " WITHIN GROUP (ORDER BY " ++ o ++ ")" | none => "") ++
    (match filter with | some e => " FILTER (WHERE " ++ e.render ++ ")" | none => "") ++ nulls ++
    (match windowText with | some w => " OVER " ++ w | none => ""))

/-- A query in parentheses. -/
def subquery (g : Nesting) : Parser String := parenthesized (Query.text <$> g.query)

/-- Whether a query comes next. -/
def peekQuery : Parser Bool := return (← peekKeyword "SELECT") || (← peekKeyword "WITH")

/-- What stands behind an opening parenthesis: a query, an expression, or several expressions. -/
def inParentheses (g : Nesting) (inColumn : Bool) : Parser Expr := do
  if ← peekQuery then
    let q ← g.query
    symbol ")"
    return .other ("(" ++ q.text ++ ")")
  else
    let es ← commaSeparated (g.any inColumn)
    symbol ")"
    match es with
    | [e] => return .nested e
    | es => return .other ("(" ++ renderList (es.map Expr.render) ++ ")")

/-- The branches of a `CASE` behind the first `WHEN`. -/
def caseBranch (g : Nesting) (inColumn : Bool) : Parser String := do
  let condition ← g.any inColumn
  keyword "THEN"
  let result ← g.any inColumn
  return "WHEN " ++ condition.render ++ " THEN " ++ result.render

/-- A choice, behind `CASE`. -/
def caseExpr (g : Nesting) (inColumn : Bool) : Parser Expr := do
  let operand ← whenever (!(← peekKeyword "WHEN")) (g.any inColumn)
  keyword "WHEN"
  let first ← caseBranch g inColumn
  let rest ← many do whenever (← keyword? "WHEN") (caseBranch g inColumn)
  let otherwise ← whenever (← keyword? "ELSE") (g.any inColumn)
  keyword "END"
  return .other ("CASE " ++ (match operand with | some e => e.render ++ " " | none => "") ++
    " ".intercalate (first :: rest) ++
    (match otherwise with | some e => " ELSE " ++ e.render | none => "") ++ " END")

/-- A conversion, behind the keyword that opens it. -/
def castExpr (g : Nesting) (inColumn : Bool) (word : String) : Parser Expr := parenthesized do
  let e ← g.any inColumn
  keyword "AS"
  let t ← dataType
  return .other (word ++ "(" ++ e.render ++ " AS " ++ t.text ++ ")")

/-- An interval, behind its keyword: an operand and a field. -/
def intervalExpr (operand : Parser Expr) : Parser Expr := do
  let e ← operand
  return .other ("INTERVAL " ++ e.render ++ (← intervalField))

/-- A rounding, behind the keyword that opens it. -/
def roundingExpr (g : Nesting) (inColumn : Bool) (word : String) : Parser Expr := parenthesized do
  let e ← g.any inColumn
  if ← keyword? "TO" then return .other (word ++ "(" ++ e.render ++ " TO " ++ (← dateField) ++ ")")
  else if ← symbol? "," then
    return .other (word ++ "(" ++ e.render ++ ", " ++ (← value).render ++ ")")
  else return .other (word ++ "(" ++ e.render ++ ")")

/-- A part of a text, behind the keyword that opens it. -/
def substringExpr (g : Nesting) (inColumn : Bool) (word : String) : Parser Expr := parenthesized do
  let e ← g.any inColumn
  let comma ← symbol? ","
  let first ← whenever (comma || (← keyword? "FROM")) (g.any inColumn)
  let comma' ← symbol? ","
  let length ← whenever (comma' || (← keyword? "FOR")) (g.any inColumn)
  let before (w : String) := if comma then ", " else " " ++ w ++ " "
  return .other (word ++ "(" ++ e.render ++
    (match first with | some e => before "FROM" ++ e.render | none => "") ++
    (match length with | some e => before "FOR" ++ e.render | none => "") ++ ")")

/-- A text without what surrounds it, behind `TRIM`. -/
def trimExpr (g : Nesting) (inColumn : Bool) : Parser Expr := parenthesized do
  let side := match ← oneOf? ["BOTH", "LEADING", "TRAILING"] with
    | some s => s ++ " "
    | none => ""
  let e ← g.any inColumn
  if ← keyword? "FROM" then
    return .other ("TRIM(" ++ side ++ e.render ++ " FROM " ++ (← g.any inColumn).render ++ ")")
  else if ← symbol? "," then
    let es ← commaSeparated (g.any inColumn)
    return .other ("TRIM(" ++ side ++ e.render ++ ", " ++ renderList (es.map Expr.render) ++ ")")
  else return .other ("TRIM(" ++ side ++ e.render ++ ")")

/-- The construct that a keyword opens, behind the keyword; none if it opens nothing. -/
def construct (g : Nesting) (inColumn : Bool) (operand : Parser Expr) (word text : String) :
    Parser (Option Expr) := do
  match word with
  | "TRUE" => return some (.literal "true")
  | "FALSE" => return some (.literal "false")
  | "NULL" => return some (.literal "NULL")
  | "CURRENT_CATALOG" | "CURRENT_USER" | "SESSION_USER" | "USER" => return some (.other text)
  | "CURRENT_TIMESTAMP" | "CURRENT_TIME" | "CURRENT_DATE" | "LOCALTIME" | "LOCALTIMESTAMP" =>
    if ← peekSymbol "(" then return some (.other (text ++ (← arguments g)))
    else return some (.other text)
  | "CASE" => some <$> caseExpr g inColumn
  | "CAST" | "TRY_CAST" | "SAFE_CAST" => some <$> castExpr g inColumn word
  | "EXISTS" => return some (.other ("EXISTS (" ++ (← subquery g) ++ ")"))
  | "EXTRACT" => parenthesized do
    let field ← dateField
    if ← keyword? "FROM" then
      return some (.other ("EXTRACT(" ++ field ++ " FROM " ++ (← g.any inColumn).render ++ ")"))
    else
      symbol ","
      return some (.other ("EXTRACT(" ++ field ++ ", " ++ (← g.any inColumn).render ++ ")"))
  | "CEIL" | "FLOOR" => some <$> roundingExpr g inColumn word
  | "POSITION" =>
    if ← peekSymbol "(" then
      let position : Parser Expr := parenthesized do
        let e ← g.expr inColumn Precedence.between
        keyword "IN"
        return .other ("POSITION(" ++ e.render ++ " IN " ++ (← g.any inColumn).render ++ ")")
      some <$> (position <|> call g text)
    else return none
  | "SUBSTR" | "SUBSTRING" => some <$> substringExpr g inColumn word
  | "OVERLAY" => parenthesized do
    let e ← g.any inColumn
    keyword "PLACING"
    let new ← g.any inColumn
    keyword "FROM"
    let start ← g.any inColumn
    let length ← whenever (← keyword? "FOR") (g.any inColumn)
    return some (.other ("OVERLAY(" ++ e.render ++ " PLACING " ++ new.render ++ " FROM " ++
      start.render ++ (match length with | some e => " FOR " ++ e.render | none => "") ++ ")"))
  | "TRIM" => some <$> trimExpr g inColumn
  | "INTERVAL" => some <$> intervalExpr operand
  | "ARRAY" =>
    if ← peekSymbol "[" then return some (.other ("ARRAY" ++ (← bracketed)))
    else if ← peekSymbol "(" then return some (.other (text ++ "(" ++ (← subquery g) ++ ")"))
    else return none
  | "NOT" =>
    if ← keyword? "EXISTS" then return some (.other ("NOT EXISTS (" ++ (← subquery g) ++ ")"))
    else return some (.other ("NOT " ++ (← g.expr inColumn Precedence.not).render))
  | "STRUCT" =>
    let es ← parenthesized (commaSeparated (g.any inColumn))
    return some (.other ("STRUCT(" ++ renderList (es.map Expr.render) ++ ")"))
  | _ => return none
where
  /-- The elements of an array between brackets. -/
  bracketed : Parser String := do
    symbol "["
    if ← symbol? "]" then return "[]"
    let es ← commaSeparated (g.any inColumn)
    symbol "]"
    return "[" ++ renderList (es.map Expr.render) ++ "]"

/-- The keywords that are never names at the start of an expression. -/
def reservedInExpressions : List String := ["EXISTS", "INTERVAL", "STRUCT", "TRIM"]

/-- A name or a call. -/
def nameOrCall (g : Nesting) (i : Ident) : Parser Expr := do
  if ← peekSymbol "(" then call g i.render
  else
    match ← peek with
    | some (.string .plain text) =>
      if i.text.startsWith "_" ∧ i.quote = none then
        let _ ← next
        return .other (i.text ++ " " ++ betweenQuotes '\x27' text)
      else return .column [i]
    | _ => return .column [i]

/-- A literal behind the name of its type, as in `DATE '2020-01-01'`; an interval is none. -/
def typedLiteral : Parser Expr := do
  if ← peekKeyword "INTERVAL" then failure
  let t ← dataType
  if t.named then failure
  else return .other (t.text ++ " " ++ (← value).render)

/-- An operand whose nested operands are read by `operand`. -/
def operandWith (g : Nesting) (inColumn : Bool) (operand : Parser Expr) : Parser Expr := do
  let e ← typedLiteral <|> plain
  if !inColumn && (← keyword? "COLLATE") then
    return .other (e.render ++ " COLLATE " ++ renderName (← objectName))
  else return e
where
  plain : Parser Expr := do
    match ← next with
    | .keyword word text =>
      let special : Parser Expr := do
        match ← construct g inColumn operand word text with
        | some e => return e
        | none => nameOrCall g ⟨text, none⟩
      if word ∈ reservedInExpressions then special else special <|> nameOrCall g ⟨text, none⟩
    | .name text => nameOrCall g ⟨text, none⟩
    | .quoted text q => nameOrCall g ⟨text, some q⟩
    | .number text long => return .number text long
    | .placeholder text => return .placeholder text (questions (← get))
    | .string style text => return .literal (stringText style text)
    | .symbol "-" => return .negated (← g.expr inColumn Precedence.sign)
    | .symbol "+" => return .other ("+" ++ (← g.expr inColumn Precedence.sign).render)
    | .symbol "(" => inParentheses g inColumn
    | .symbol "[" =>
      if ← symbol? "]" then return .other "[]"
      else
        let es ← commaSeparated (g.any inColumn)
        symbol "]"
        return .other ("[" ++ renderList (es.map Expr.render) ++ "]")
    | _ => failure

/-- An operand that holds at most so many intervals in one another. -/
def operandWithin (g : Nesting) (inColumn : Bool) : Nat → Parser Expr
  | 0 => failure
  | n + 1 => operandWith g inColumn (operandWithin g inColumn n)

/-- An operand. -/
def operand (g : Nesting) (inColumn : Bool) : Parser Expr := fun ts =>
  operandWithin g inColumn (ts.length + 1) ts

/-- What an operand followed by a point or by brackets is, and then again, at most so often. -/
def accessWithin (g : Nesting) (inColumn : Bool) : Nat → Expr → Parser Expr
  | 0, e => pure e
  | n + 1, e => do
    match ← get with
    | .symbol "." :: .symbol "*" :: _ => return e
    | .symbol "." :: .string .plain text :: rest =>
      set rest
      accessWithin g inColumn n (join e (.column [⟨text, some '\x27'⟩]))
    | .symbol "." :: rest =>
      set rest
      accessWithin g inColumn n (join e (← g.expr inColumn Precedence.point))
    | .symbol "[" :: rest =>
      set rest
      let index ← g.any inColumn
      symbol "]"
      accessWithin g inColumn n (.other (e.render ++ "[" ++ index.render ++ "]"))
    | _ => return e
where
  /-- Two operands with a point between them; two columns make a column. -/
  join : Expr → Expr → Expr
    | .column ps, .column qs => .column (ps ++ qs)
    | e, f => .other (e.render ++ "." ++ f.render)

/-- An operand with what is reached through it. -/
def primary (g : Nesting) (inColumn : Bool) : Parser Expr := do
  let e ← operand g inColumn
  fun ts => accessWithin g inColumn (ts.length + 1) e ts

/-- An operator between two operands. -/
def binary (g : Nesting) (inColumn : Bool) (precedence : Nat) (left : Expr) (operator : String) :
    Parser Expr := do
  match ← oneOf? ["ANY", "ALL", "SOME"] with
  | some quantifier =>
    symbol "("
    if ← peekQuery then
      let q ← g.query
      symbol ")"
      return .other (left.render ++ " " ++ operator ++ " " ++ quantifier ++ "(" ++ q.text ++ ")")
    else
      let right ← g.expr inColumn precedence
      symbol ")"
      return .other
        (left.render ++ " " ++ operator ++ " " ++ quantifier ++ "(" ++ right.render ++ ")")
  | none =>
    let right ← g.expr inColumn precedence
    if operator = "=" then return .equation left right
    else return .other (left.render ++ " " ++ operator ++ " " ++ right.render)

/-- What follows `IS`. -/
def isTest (g : Nesting) (inColumn : Bool) (left : Expr) : Parser Expr := do
  let negation := if ← keyword? "NOT" then "NOT " else ""
  match ← oneOf? ["NULL", "TRUE", "FALSE", "UNKNOWN", "DISTINCT"] with
  | some "DISTINCT" =>
    keyword "FROM"
    return .other
      (left.render ++ " IS " ++ negation ++ "DISTINCT FROM " ++ (← g.any inColumn).render)
  | some word => return .other (left.render ++ " IS " ++ negation ++ word)
  | none => failure

/-- What follows an operand that is tested against a set, an interval or a pattern. -/
def membership (g : Nesting) (inColumn : Bool) (left : Expr) : Parser Expr := do
  let negation := if ← keyword? "NOT" then "NOT " else ""
  let pattern (word : String) : Parser Expr := do
    let any := if ← keyword? "ANY" then "ANY " else ""
    let e ← g.expr inColumn Precedence.like
    let escape ← whenever (← keyword? "ESCAPE") value
    return .other (left.render ++ " " ++ negation ++ word ++ " " ++ any ++ e.render ++
      (match escape with | some e => " ESCAPE " ++ e.render | none => ""))
  match ← oneOf ["NULL", "IN", "BETWEEN", "LIKE", "ILIKE", "SIMILAR", "RLIKE", "REGEXP"] with
  | "NULL" =>
    if negation = "" ∨ inColumn then failure else return .other (left.render ++ " IS NOT NULL")
  | "IN" =>
    let set ← parenthesized do
      match ← optional? g.query with
      | some q => return q.text
      | none => return renderList ((← commaSeparated (g.any inColumn)).map Expr.render)
    return .other (left.render ++ " " ++ negation ++ "IN (" ++ set ++ ")")
  | "BETWEEN" =>
    let low ← g.expr inColumn Precedence.between
    keyword "AND"
    let high ← g.expr inColumn Precedence.between
    return .other
      (left.render ++ " " ++ negation ++ "BETWEEN " ++ low.render ++ " AND " ++ high.render)
  | "SIMILAR" =>
    keyword "TO"
    pattern "SIMILAR TO"
  | word => pattern word

/-- One operator behind an operand. -/
def operation (g : Nesting) (inColumn : Bool) (precedence : Nat) (left : Expr) : Parser Expr := do
  match ← peek with
  | some (.symbol text) =>
    let _ ← next
    match binarySymbol? text with
    | some operator => binary g inColumn precedence left operator
    | none => match text with
      | "::" => return .other (left.render ++ "::" ++ (← dataType).text)
      | _ => failure
  | some (.keyword word _) =>
    if word ∈ ["AND", "OR", "XOR", "OVERLAPS"] then
      let _ ← next
      binary g inColumn precedence left word
    else match word with
      | "IS" =>
        let _ ← next
        isTest g inColumn left
      | "AT" =>
        keywords ["AT", "TIME", "ZONE"]
        return .other
          (left.render ++ " AT TIME ZONE " ++ (← g.expr inColumn precedence).render)
      | "DIV" => failure
      | _ => membership g inColumn left
  | _ => failure

/-- At most so many operators behind an operand, as long as they bind tightly enough. -/
def operationsWithin (g : Nesting) (inColumn : Bool) (least : Nat) : Nat → Expr → Parser Expr
  | 0, e => pure e
  | n + 1, e => do
    let precedence := nextPrecedence inColumn (← get)
    if precedence ≤ least ∨ (← peekSymbol ".") then return e
    else operationsWithin g inColumn least n (← operation g inColumn precedence e)

/-- An operand with all operators behind it that bind more tightly than `least`. -/
def expression (g : Nesting) (inColumn : Bool) (least : Nat) : Parser Expr := do
  let e ← primary g inColumn
  fun ts => operationsWithin g inColumn least (ts.length + 1) e ts

end CounterTable.Sql.Grammar
