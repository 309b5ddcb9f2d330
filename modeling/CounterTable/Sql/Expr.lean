import CounterTable.Sql.Grammar.Basic

/-!
# Expressions and statements as they are read

Only some shapes are ever looked into: columns, integers, placeholders, signs, parentheses and
equations. Every other expression is kept as its canonical text, which is what messages show:
keywords in upper case, single spaces around operators, names as they were written.

* `Expr`, `Expr.render`: expressions;
* `Query`, `Select`, `Relation`: queries;
* `Clause`: statements as they are read, before it is known whether the store can run them.
-/

namespace CounterTable.Sql

/-- An expression. -/
inductive Expr where
  /-- A column, with its qualifiers before it. -/
  | column (parts : List Ident)
  | number (text : String) (long : Bool)
  /-- A placeholder, and how many of those without a position stand behind it in the text. -/
  | placeholder (text : String) (behind : Nat)
  /-- Any other literal, as its text. -/
  | literal (text : String)
  /-- An expression between parentheses. -/
  | nested (e : Expr)
  | negated (e : Expr)
  | equation (left right : Expr)
  /-- Any other expression, as its text. -/
  | other (text : String)
deriving DecidableEq, Repr, Inhabited

/-- The canonical text of an expression. -/
def Expr.render : Expr → String
  | column parts => renderName parts
  | number text long => if long then text ++ "L" else text
  | placeholder text _ | literal text | other text => text
  | nested e => "(" ++ e.render ++ ")"
  | negated e => "-" ++ e.render
  | equation l r => l.render ++ " = " ++ r.render

/-- What a query selects. -/
inductive SelectItem where
  | all
  | expr (e : Expr)
  | aliased (e : Expr) (shown : Ident)
  | other
deriving DecidableEq, Repr

/-- What rows are read from. -/
inductive Relation where
  /-- A table; `hinted` if hints in parentheses follow its name. -/
  | table (name : List Ident) (hinted : Bool)
  | other
deriving DecidableEq, Repr

/-- What rows are read from, and whether anything is joined to it. -/
structure Source where
  relation : Relation
  joined : Bool
deriving DecidableEq, Repr

/-- A selection. -/
structure Select where
  items : List SelectItem
  sources : List Source
  filter : Option Expr
deriving DecidableEq, Repr

/-- The main part of a query. -/
inductive Body where
  | select (s : Select)
  | values (rows : List (List Expr))
  | other
deriving DecidableEq, Repr

/-- A query: its main part, whether it locks what it reads, and its canonical text. -/
structure Query where
  body : Body
  locks : Bool
  text : String
deriving DecidableEq, Repr

/-- What an assignment changes. -/
inductive Target where
  | column (name : List Ident)
  | tuple
deriving DecidableEq, Repr

/-- A statement as it is read. -/
inductive Clause where
  | createTable (table : List Ident) (columns : List Ident) (ifNotExists : Bool)
  | drop (isTable : Bool) (names : List (List Ident)) (ifExists : Bool)
  /-- An insertion, with the columns that are listed behind the name of the table. -/
  | insert (table columns : List Ident) (source : Option Query)
  | query (q : Query)
  | update (relation : Relation) (assignments : List (Target × Expr)) (filter : Option Expr)
  | other
deriving DecidableEq, Repr

/-- The parsers that need one another, at a bounded depth of nesting. `expr` takes the precedence
that an operator has to exceed; the flag says whether a column is being defined, where `NOT NULL`
ends an expression. -/
structure Nesting where
  expr : Bool → Nat → Parser Expr
  query : Parser (Query)
  clause : Parser Clause

/-- A whole expression. -/
def Nesting.any (g : Nesting) (inColumn : Bool) : Parser Expr := g.expr inColumn 0

end CounterTable.Sql
