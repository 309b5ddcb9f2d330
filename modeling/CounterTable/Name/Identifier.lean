import CounterTable.Sql.Dialect

/-!
# Identifiers

The name of one object: a plain word, or any text between quotes.

* `Identifier.ofText`: reads `name`, `"name"`, `` `name` `` or `[name]`;
* `Identifier.render`: the identifier in a statement of a dialect;
* `Identifier.display`: the identifier in messages, always in double quotes if it is quoted.
-/

namespace CounterTable

open CounterTable.Text

/-- The name of one object. -/
structure Identifier where
  text : String
  quoted : Bool
deriving DecidableEq, Repr, Inhabited

namespace Identifier

/-- Plain identifiers begin with a letter or an underscore. -/
def isPlainStart (c : Char) : Bool := c.isAlpha || c == '_'

/-- Plain identifiers go on with letters, digits, underscores and dollar signs. -/
def isPlainRest (c : Char) : Bool := c.isAlphanum || c == '_' || c == '$'

/-- Plain identifiers are the words that need no quotes. -/
def isPlain : List Char → Bool
  | [] => false
  | c :: cs => isPlainStart c && cs.all isPlainRest

/-- The quotes that may stand around an identifier: the opening and the closing one. -/
def quotePairs : List (Char × Char) := [('"', '"'), ('\x60', '\x60'), ('[', ']')]

/-- The closing quote that belongs to an opening one. -/
def closingQuote? (c : Char) : Option Char := (quotePairs.find? (·.1 == c)).map (·.2)

/-- The text between quotes that stand around it. -/
def unquote? : List Char → Option (List Char)
  | [] => none
  | c :: cs =>
    match closingQuote? c with
    | some close => if cs.getLast? = some close then some cs.dropLast else none
    | none => none

/-- Reads an identifier with blanks around it. -/
def ofChars (raw : List Char) : Except Error Identifier :=
  let cs := trim raw
  match unquote? cs with
  | some [] => .error (.configuration "Empty quoted identifier")
  | some inner => .ok ⟨String.ofList inner, true⟩
  | none =>
    if isPlain cs then .ok ⟨String.ofList cs, false⟩
    else .error (.configuration s!"Invalid identifier '{String.ofList cs}'")

/-- Reads an identifier with blanks around it. -/
def ofText (raw : String) : Except Error Identifier := ofChars raw.toList

/-- The identifier in a statement: in the quotes of the dialect if it is quoted. -/
def render (d : Dialect) (i : Identifier) : String :=
  if i.quoted then s!"{d.openQuote}{i.text}{d.closeQuote}" else i.text

/-- The identifier in messages. -/
def display (i : Identifier) : String :=
  if i.quoted then "\"" ++ i.text ++ "\"" else i.text

/-- Identifiers are ordered by text; of two with one text the plain one comes first. -/
instance : Ord Identifier where
  compare a b := (compare a.text b.text).then (compare a.quoted b.quoted)

end Identifier

end CounterTable
