import CounterTable.Sql.Token

/-!
# Reading tokens

Parsers take tokens from the front of a list and fail without a reason: a text that is not a
statement is reported as such, whatever is wrong with it.

* `Parser`: the parsers, which can be tried one after another;
* `keyword?`, `symbol?`: a token that may be missing; `keyword`, `symbol`: one that may not;
* `commaSeparated`: one or more things between commas;
* `Ident`, `ident`, `objectName`: names.
-/

namespace CounterTable.Sql

open CounterTable.Text

/-- Takes tokens from the front of a list. -/
abbrev Parser (α : Type) : Type := StateT (List Token) Option α

namespace Grammar

/-- The next token. -/
def peek : Parser (Option Token) := fun ts => some (ts.head?, ts)

/-- The next token, taken. -/
def next : Parser Token
  | [] => none
  | t :: ts => some (t, ts)

/-- Whether a keyword comes next. -/
def peekKeyword (word : String) : Parser Bool := fun ts =>
  match ts with
  | .keyword w _ :: _ => some (w == word, ts)
  | _ => some (false, ts)

/-- Whether a symbol comes next. -/
def peekSymbol (text : String) : Parser Bool := fun ts => some (ts.head? == some (.symbol text), ts)

/-- Takes a keyword if it comes next, and says whether it did. -/
def keyword? (word : String) : Parser Bool := fun ts =>
  match ts with
  | .keyword w _ :: rest => if w = word then some (true, rest) else some (false, ts)
  | _ => some (false, ts)

/-- Takes a symbol if it comes next, and says whether it did. -/
def symbol? (text : String) : Parser Bool := fun ts =>
  match ts with
  | .symbol s :: rest => if s = text then some (true, rest) else some (false, ts)
  | _ => some (false, ts)

/-- The tokens after a phrase of keywords. -/
def afterKeywords : List String → List Token → Option (List Token)
  | [], ts => some ts
  | word :: words, .keyword w _ :: ts => if w = word then afterKeywords words ts else none
  | _ :: _, _ => none

/-- Takes a phrase of keywords if all of it comes next, and says whether it did. -/
def keywords? (words : List String) : Parser Bool := fun ts =>
  match afterKeywords words ts with
  | some rest => some (true, rest)
  | none => some (false, ts)

/-- Takes one of several keywords if one comes next, and says which. -/
def oneOf? (words : List String) : Parser (Option String) := fun ts =>
  match ts with
  | .keyword w _ :: rest => if w ∈ words then some (some w, rest) else some (none, ts)
  | _ => some (none, ts)

/-- Takes a keyword, which has to come next. -/
def keyword (word : String) : Parser Unit := do
  unless ← keyword? word do failure

/-- Takes a phrase of keywords, all of which has to come next. -/
def keywords (words : List String) : Parser Unit := do
  unless ← keywords? words do failure

/-- Takes a symbol, which has to come next. -/
def symbol (text : String) : Parser Unit := do
  unless ← symbol? text do failure

/-- Takes one of several keywords, one of which has to come next, and says which. -/
def oneOf (words : List String) : Parser String := do
  match ← oneOf? words with
  | some w => return w
  | none => failure

variable {α : Type}

/-- The parser, or nothing if it fails. -/
def optional? (p : Parser α) : Parser (Option α) := fun ts =>
  match p ts with
  | some (a, rest) => some (some a, rest)
  | none => some (none, ts)

/-- The parser if the condition holds. -/
def whenever (condition : Bool) (p : Parser α) : Parser (Option α) :=
  if condition then some <$> p else pure none

/-- At most so many things between commas, at least one. -/
def commaSeparatedWithin (p : Parser α) : Nat → Parser (List α)
  | 0 => failure
  | n + 1 => do
    let a ← p
    if ← symbol? "," then return a :: (← commaSeparatedWithin p n) else return [a]

/-- One or more things between commas; each of them takes a token. -/
def commaSeparated (p : Parser α) : Parser (List α) := fun ts =>
  commaSeparatedWithin p (ts.length + 1) ts

/-- Something between parentheses. -/
def parenthesized (p : Parser α) : Parser α := do
  symbol "("
  let a ← p
  symbol ")"
  return a

/-- At most so many things one after another, until one is missing. -/
def manyWithin (p : Parser (Option α)) : Nat → Parser (List α)
  | 0 => pure []
  | n + 1 => do
    match ← p with
    | some a => return a :: (← manyWithin p n)
    | none => return []

/-- Things one after another, until one is missing; each of them takes a token. -/
def many (p : Parser (Option α)) : Parser (List α) := fun ts => manyWithin p ts.length ts

end Grammar

/-- A name, with the quote that it was written in. -/
structure Ident where
  text : String
  quote : Option Char
deriving DecidableEq, Repr, Inhabited

/-- A text as it stands between quotes: a quote in it is doubled, unless it is already or a
backslash stands before it. -/
def escapeQuote (quote : Char) : Bool → List Char → List Char
  | _, [] => []
  | afterBackslash, [c] => if c = quote ∧ ¬ afterBackslash then [c, c] else [c]
  | afterBackslash, c :: d :: rest =>
    if c = quote then
      if afterBackslash then c :: escapeQuote quote true (d :: rest)
      else if d = quote then c :: d :: escapeQuote quote false rest
      else c :: c :: escapeQuote quote false (d :: rest)
    else c :: escapeQuote quote (c == '\\') (d :: rest)

/-- A text between quotes. -/
def betweenQuotes (quote : Char) (text : String) : String :=
  String.ofList (quote :: escapeQuote quote false text.toList ++ [quote])

/-- A name as it was written. -/
def Ident.render (i : Ident) : String :=
  match i.quote with
  | none => i.text
  | some q => betweenQuotes q i.text

/-- A dotted name as it was written. -/
def renderName (parts : List Ident) : String := ".".intercalate (parts.map Ident.render)

/-- Things between commas. -/
def renderList (items : List String) : String := ", ".intercalate items

namespace Token

/-- The name that a token is: any word, keywords among them, or a plain string. -/
def ident? : Token → Option Ident
  | name text | keyword _ text => some ⟨text, none⟩
  | quoted text q => some ⟨text, some q⟩
  | string .plain text => some ⟨text, some '\x27'⟩
  | _ => none

end Token

namespace Grammar

/-- A name of one part. -/
def ident : Parser Ident
  | [] => none
  | t :: ts => t.ident?.map fun i => (i, ts)

/-- A name of at most so many parts. -/
def objectNameWithin : Nat → Parser (List Ident)
  | 0 => failure
  | n + 1 => do
    let i ← ident
    if ← symbol? "." then return i :: (← objectNameWithin n) else return [i]

/-- A dotted name. -/
def objectName : Parser (List Ident) := fun ts => objectNameWithin (ts.length + 1) ts

/-- Names between commas in parentheses. -/
def columnList : Parser (List Ident) := parenthesized (commaSeparated ident)

end Grammar

end CounterTable.Sql
