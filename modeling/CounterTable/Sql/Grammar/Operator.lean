import CounterTable.Sql.Expr

/-!
# Precedence of operators

How tightly an operator binds its operands, from 5 for `OR` to 100 for the point of a dotted name.
What binds no tighter than 0 ends an expression.
-/

namespace CounterTable.Sql.Grammar

namespace Precedence

/-- A negated condition. -/
def not : Nat := 15

/-- A pattern. -/
def like : Nat := 19

/-- An interval or a set. -/
def between : Nat := 20

/-- The operand of a sign. -/
def sign : Nat := 40

/-- The point of a dotted name. -/
def point : Nat := 100

end Precedence

/-- What follows `NOT` behind an operand decides how tightly it binds. -/
def negatedPrecedence (inColumn : Bool) : List Token → Nat
  | .keyword word _ :: _ =>
    if word ∈ ["IN", "BETWEEN"] then Precedence.between
    else if word ∈ ["LIKE", "ILIKE", "RLIKE", "REGEXP", "SIMILAR"] then Precedence.like
    else if word = "NULL" ∧ ¬ inColumn then 17
    else 0
  | _ => 0

/-- The precedence of a keyword behind an operand, with the tokens after it. -/
def keywordPrecedence (inColumn : Bool) (word : String) (rest : List Token) : Nat :=
  match word with
  | "OR" => 5
  | "AND" => 10
  | "NOT" => negatedPrecedence inColumn rest
  | "IS" => 17
  | "LIKE" | "ILIKE" | "RLIKE" | "REGEXP" | "SIMILAR" => Precedence.like
  | "IN" | "BETWEEN" | "OVERLAPS" => Precedence.between
  | "XOR" => 24
  | "DIV" => 40
  | "AT" => if (afterKeywords ["TIME", "ZONE"] rest).isSome then 41 else 0
  | _ => 0

/-- The symbols that compare, at the precedence of an equation. -/
def comparisons : List String :=
  [":=", "=", "==", "<", "<=", "<>", "!=", ">", ">=", "~", "~*", "!~", "!~*", "~~", "~~*", "!~~",
    "!~~*", "<=>"]

/-- The symbols that reach into structured values. -/
def accessors : List String :=
  ["->", "->>", "#>", "#>>", "@>", "<@", "#-", "@?", "@@"]

/-- The precedence of a symbol behind an operand. -/
def symbolPrecedence (text : String) : Nat :=
  if text ∈ comparisons then 20
  else if text ∈ accessors then 16
  else match text with
    | "|" => 21
    | "^" | "#" | ">>" | "<<" => 22
    | "&" => 23
    | "+" | "-" => 30
    | "*" | "/" | "//" | "%" | "||" => 40
    | "::" | "!" | "[" | "&&" | "^@" => 50
    | "." => Precedence.point
    | _ => 0

/-- The precedence of what follows an operand. -/
def nextPrecedence (inColumn : Bool) : List Token → Nat
  | .keyword word _ :: rest => keywordPrecedence inColumn word rest
  | .symbol text :: _ => symbolPrecedence text
  | _ => 0

/-- The symbols that stand between two operands, as canonical texts write them. -/
def binarySymbol? (text : String) : Option String :=
  if text = "!=" then some "<>"
  else if text ∈ ["==", "="] then some "="
  else if text ∈ comparisons ∨ text ∈ accessors then some text
  else if text ∈ ["|", "^", ">>", "<<", "&", "+", "-", "*", "/", "//", "%", "||"] then some text
  else none

end CounterTable.Sql.Grammar
