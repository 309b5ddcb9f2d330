import CounterTable.Json.Value

/-!
# Reading JSON

A text is one value with blanks around it: space, tab, line feed and carriage return. Arrays and
objects stand at most 127 deep in one another. Object keys may repeat.

* `Json.Reader.piecesUntilQuote`, `Json.Reader.number`: strings and numbers;
* `Json.Reader.value`: a value at the start of a text, and what follows it;
* `Json.ofText?`: the value of a text.
-/

namespace CounterTable.Json

namespace Reader

/-- The characters that may stand between tokens. -/
def isSpace (c : Char) : Bool := c == ' ' || c == '\t' || c == '\n' || c == '\r'

/-- The text without the spaces at its start. -/
def afterSpaces (cs : List Char) : List Char := cs.dropWhile isSpace

/-- The value of a hexadecimal digit. -/
def hexValue? (c : Char) : Option Nat :=
  if c.isDigit then some (c.toNat - '0'.toNat)
  else if 'a' ≤ c ∧ c ≤ 'f' then some (c.toNat - 'a'.toNat + 10)
  else if 'A' ≤ c ∧ c ≤ 'F' then some (c.toNat - 'A'.toNat + 10)
  else none

/-- The code unit that four hexadecimal digits spell. -/
def unit? (a b c d : Char) : Option Nat := do
  return 4096 * (← hexValue? a) + 256 * (← hexValue? b) + 16 * (← hexValue? c) + (← hexValue? d)

/-- The character that a backslash before this one stands for. -/
def escaped? : Char → Option Char
  | '"' => some '"'
  | '\\' => some '\\'
  | '/' => some '/'
  | 'b' => some '\x08'
  | 'f' => some '\x0c'
  | 'n' => some '\n'
  | 'r' => some '\r'
  | 't' => some '\t'
  | _ => none

/-- The string up to the closing quote, and what follows it; control characters have to be
escaped. -/
def piecesUntilQuote : List Char → Option (List JsonPiece × List Char)
  | [] => none
  | '"' :: rest => some ([], rest)
  | '\\' :: 'u' :: a :: b :: c :: d :: rest => do
    let n ← unit? a b c d
    let (ps, rest) ← piecesUntilQuote rest
    return (.unit n :: ps, rest)
  | '\\' :: e :: rest => do
    let c ← escaped? e
    let (ps, rest) ← piecesUntilQuote rest
    return (.char c :: ps, rest)
  | c :: rest =>
    if c.toNat < 32 then none
    else do
      let (ps, rest) ← piecesUntilQuote rest
      return (.char c :: ps, rest)

/-- One or more digits at the start of a text, and what follows them. -/
def digits? (cs : List Char) : Option (List Char × List Char) :=
  match cs.takeWhile Char.isDigit with
  | [] => none
  | ds => some (ds, cs.dropWhile Char.isDigit)

/-- The digits before the point, which have no needless zero in front, and what follows them. -/
def whole? : List Char → Option (List Char × List Char)
  | '0' :: rest => some (['0'], rest)
  | cs => digits? cs

/-- The point with the digits behind it, if there is one, and what follows. -/
def fraction? : List Char → Option (List Char × List Char)
  | '.' :: rest => (digits? rest).map fun (ds, rest) => ('.' :: ds, rest)
  | cs => some ([], cs)

/-- The exponent, if there is one, and what follows. -/
def exponent? : List Char → Option (List Char × List Char)
  | 'e' :: rest => (signed? rest).map fun (ds, rest) => ('e' :: ds, rest)
  | 'E' :: rest => (signed? rest).map fun (ds, rest) => ('E' :: ds, rest)
  | cs => some ([], cs)
where
  /-- Digits behind an optional sign. -/
  signed? : List Char → Option (List Char × List Char)
    | '+' :: rest => (digits? rest).map fun (ds, rest) => ('+' :: ds, rest)
    | '-' :: rest => (digits? rest).map fun (ds, rest) => ('-' :: ds, rest)
    | cs => digits? cs

/-- A number without a sign, and what follows it. -/
def unsigned? (cs : List Char) : Option (List Char × List Char) := do
  let (w, cs) ← whole? cs
  let (f, cs) ← fraction? cs
  let (e, cs) ← exponent? cs
  return (w ++ f ++ e, cs)

/-- A number, and what follows it. -/
def number? : List Char → Option (List Char × List Char)
  | '-' :: rest => (unsigned? rest).map fun (text, rest) => ('-' :: text, rest)
  | cs => unsigned? cs

/-- What a reader finds at the start of a text, and what follows it. -/
abbrev Reads (α : Type) : Type := List Char → Option (α × List Char)

/-- At most so many things between commas, and the closing mark behind them. -/
def listed {α : Type} (item : Reads α) (close : Char) : Nat → Reads (List α)
  | 0, _ => none
  | n + 1, cs => do
    let (a, cs) ← item (afterSpaces cs)
    match afterSpaces cs with
    | ',' :: rest =>
      let (as, rest) ← listed item close n rest
      return (a :: as, rest)
    | c :: rest => if c = close then return ([a], rest) else none
    | [] => none

/-- Things between commas up to a closing mark, possibly none. -/
def enclosed {α : Type} (item : Reads α) (close : Char) : Reads (List α) := fun cs =>
  match afterSpaces cs with
  | [] => none
  | c :: rest => if c = close then some ([], rest) else listed item close cs.length cs

/-- A member of an object. -/
def member (value : Reads Json) : Reads (List JsonPiece × Json)
  | '"' :: rest => do
    let (key, rest) ← piecesUntilQuote rest
    match afterSpaces rest with
    | ':' :: rest =>
      let (j, rest) ← value (afterSpaces rest)
      return ((key, j), rest)
    | _ => none
  | _ => none

/-- A value at the start of a text, with arrays and objects at most `depth` deep, and what follows
it. -/
def value : Nat → Reads Json
  | depth, cs =>
    match cs with
    | 'n' :: 'u' :: 'l' :: 'l' :: rest => some (.null, rest)
    | 't' :: 'r' :: 'u' :: 'e' :: rest => some (.bool true, rest)
    | 'f' :: 'a' :: 'l' :: 's' :: 'e' :: rest => some (.bool false, rest)
    | '"' :: rest => (piecesUntilQuote rest).map fun (ps, rest) => (.string ps, rest)
    | '[' :: rest =>
      match depth with
      | 0 => none
      | depth + 1 => (enclosed (value depth) ']' rest).map fun (js, rest) => (.array js, rest)
    | '\x7b' :: rest =>
      match depth with
      | 0 => none
      | depth + 1 =>
        (enclosed (member (value depth)) '\x7d' rest).map fun (ms, rest) => (.object ms, rest)
    | cs => (number? cs).map fun (text, rest) => (.number text, rest)

/-- How deep arrays and objects may stand in one another. -/
def depthLimit : Nat := 127

end Reader

/-- The value of a text. -/
def ofText? (text : String) : Option Json :=
  match Reader.value Reader.depthLimit (Reader.afterSpaces text.toList) with
  | some (j, rest) => if Reader.afterSpaces rest = [] then some j else none
  | none => none

end CounterTable.Json
