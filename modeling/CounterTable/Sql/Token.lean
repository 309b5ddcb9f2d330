import CounterTable.Sql.Keyword
import CounterTable.Text.Blank
import CounterTable.Text.Letter

/-!
# Tokens of statements

A statement is a sequence of words, literals, placeholders and symbols; blanks and comments only
separate them. A word that has a meaning in the grammar is a keyword, in any case of its letters,
unless it stands in quotes.

* `Token`: the tokens;
* `Token.ofWord`: the token of a bare word;
* `tokenize`: the tokens of a text, none if a quote or a comment is left open.
-/

namespace CounterTable.Sql

open CounterTable.Text

/-- How a string literal is written. -/
inductive StringStyle where
  | plain
  | national
  | hexadecimal
  | escaped
  | unicode
  /-- After a letter, between quotes of the given kind. -/
  | lettered (letter quote : Char)
  /-- Between dollar signs with a tag. -/
  | dollar (tag : String)
deriving DecidableEq, Repr

/-- The tokens of a statement. -/
inductive Token where
  /-- A bare word without a meaning in the grammar. -/
  | name (text : String)
  /-- A bare word with a meaning: the keyword, and the word as it was written. -/
  | keyword (word : String) (text : String)
  | quoted (text : String) (quote : Char)
  | number (text : String) (long : Bool)
  | string (style : StringStyle) (text : String)
  | placeholder (text : String)
  | symbol (text : String)
deriving DecidableEq, Repr

namespace Token

/-- The token of a bare word. -/
def ofWord (cs : List Char) : Token :=
  let word := String.ofList (upper cs)
  if isKeyword word then keyword word (String.ofList cs) else name (String.ofList cs)

/-- Words of all kinds. -/
def isWord : Token → Bool
  | name _ | keyword _ _ | quoted _ _ => true
  | _ => false

end Token

/-- How many placeholders without a position there are. -/
def questions (ts : List Token) : Nat := ts.count (.placeholder "?")

namespace Lexer

/-- Bare words begin with a letter of any script or one of three signs. -/
def isWordStart (c : Char) : Bool := isLetter c || c == '_' || c == '#' || c == '@'

/-- Bare words go on with letters, ASCII digits and four signs. -/
def isWordRest (c : Char) : Bool :=
  isLetter c || c.isDigit || c == '_' || c == '#' || c == '@' || c == '$'

/-- Digits of hexadecimal literals. -/
def isHexDigit (c : Char) : Bool :=
  c.isDigit || ('a' ≤ c && c ≤ 'f') || ('A' ≤ c && c ≤ 'F')

/-- A token, or nothing for what only separates tokens, and the text behind it. -/
abbrev Step : Type := Option (Option Token × List Char)

/-- The text up to a closing quote, which may stand for itself when doubled, and what follows. -/
def untilQuote (quote : Char) : List Char → Option (List Char × List Char)
  | [] => none
  | [c] => if c = quote then some ([], []) else none
  | c :: d :: rest =>
    if c = quote then
      if d = quote then (untilQuote quote rest).map fun (s, r) => (quote :: s, r)
      else some ([], d :: rest)
    else (untilQuote quote (d :: rest)).map fun (s, r) => (c :: s, r)

/-- The text up to a closing apostrophe, in which a backslash gives the next character a meaning of
its own, and what follows. -/
def untilEscaped : List Char → Option (List Char × List Char)
  | [] => none
  | [c] => if c = '\x27' then some ([], []) else none
  | c :: d :: rest =>
    if c = '\x27' then
      if d = '\x27' then (untilEscaped rest).map fun (s, r) => ('\x27' :: s, r)
      else some ([], d :: rest)
    else if c = '\\' then
      let meant := match d with
        | 'b' => '\x08'
        | 'f' => '\x0c'
        | 'n' => '\n'
        | 'r' => '\r'
        | 't' => '\t'
        | d => d
      (untilEscaped rest).map fun (s, r) => (meant :: s, r)
    else (untilEscaped (d :: rest)).map fun (s, r) => (c :: s, r)

/-- What follows a block comment that is open to the given depth; comments nest. -/
def afterComment : Nat → List Char → Option (List Char)
  | 0, cs => some cs
  | _ + 1, [] => none
  | _ + 1, [_] => none
  | depth + 1, '*' :: '/' :: rest => afterComment depth rest
  | depth + 1, '/' :: '*' :: rest => afterComment (depth + 2) rest
  | depth + 1, _ :: c :: rest => afterComment (depth + 1) (c :: rest)

/-- The text up to the end mark of a literal between dollar signs, and what follows. -/
def untilMark (mark : List Char) : List Char → Option (List Char × List Char)
  | [] => none
  | c :: rest =>
    if mark.isPrefixOf (c :: rest) then some ([], (c :: rest).drop mark.length)
    else (untilMark mark rest).map fun (s, r) => (c :: s, r)

/-- A literal between quotes. -/
def stringStep (style : StringStyle) (body : Option (List Char × List Char)) : Step :=
  body.map fun (s, rest) => (some (.string style (String.ofList s)), rest)

/-- A word that begins with the given characters. -/
def wordStep (start rest : List Char) : Step :=
  some (some (.ofWord (start ++ rest.takeWhile isWordRest)), rest.dropWhile isWordRest)

/-- A symbol. -/
def symbolStep (text : String) (rest : List Char) : Step := some (some (.symbol text), rest)

/-- The exponent of a number, if there is one, and what follows. -/
def exponent (cs : List Char) : List Char × List Char :=
  match cs with
  | e :: rest =>
    if e = 'e' ∨ e = 'E' then
      let sign := match rest with
        | c :: _ => if c = '+' ∨ c = '-' then [c] else []
        | [] => []
      let digits := (rest.drop sign.length).takeWhile Char.isDigit
      if digits = [] then ([], cs)
      else (e :: sign ++ digits, (rest.drop sign.length).dropWhile Char.isDigit)
    else ([], cs)
  | [] => ([], [])

/-- A number or a single point. A point before an underscore belongs to a name, and then only
directly behind a word. -/
def numberStep (afterWord : Bool) (cs : List Char) : Step :=
  match cs with
  | '.' :: '_' :: rest => if afterWord then symbolStep "." ('_' :: rest) else none
  | '0' :: 'x' :: rest =>
    some (some (.string .hexadecimal (String.ofList (rest.takeWhile isHexDigit))),
      rest.dropWhile isHexDigit)
  | _ =>
    let whole := cs.takeWhile Char.isDigit
    let point := match cs.dropWhile Char.isDigit with
      | '.' :: _ => ['.']
      | _ => []
    let afterPoint := (cs.dropWhile Char.isDigit).drop point.length
    let fraction := afterPoint.takeWhile Char.isDigit
    let rest := afterPoint.dropWhile Char.isDigit
    let mantissa := whole ++ point ++ fraction
    if mantissa = ['.'] then symbolStep "." rest
    else
      let (e, rest) := exponent rest
      let long := rest.head? = some 'L'
      some (some (.number (String.ofList (mantissa ++ e)) long), if long then rest.drop 1 else rest)

/-- What begins with a dollar sign: a literal between dollar signs, or a placeholder. -/
def dollarStep (rest : List Char) : Step :=
  let isTag (c : Char) : Bool := isLetter c || isNumeric c || c == '_'
  let tag := rest.takeWhile isTag
  match rest.dropWhile isTag with
  | '$' :: body => stringStep (.dollar (String.ofList tag)) (untilMark ('$' :: tag ++ ['$']) body)
  | rest => some (some (.placeholder (String.ofList ('$' :: tag))), rest)

/-- The symbols, longest first among those that begin alike. -/
def symbols : List String :=
  ["->>", "->", "-", "//", "/", "+", "*", "%", "|/", "||/", "||", "|", "=>", "==", "=", "!=", "!!",
    "!~~*", "!~~", "!~*", "!~", "!", "<=>", "<=", "<>", "<<", "<@", "<", ">=", ">>", ">", "::",
    ":=", ":", ";", "\\", "[", "]", "&&", "&", "^@", "^", "\x7b", "\x7d", "~~*", "~~", "~*", "~",
    "#-", "#>>", "#>", "#", "@>", "@?", "@@", "@", "(", ")", ","]

/-- The longest symbol at the start of a text. -/
def symbolAt? (cs : List Char) : Option String := symbols.find? (·.toList.isPrefixOf cs)

/-- One token at the start of a text; `afterWord` says whether a word stands directly before it. -/
def step (afterWord : Bool) : List Char → Step
  | [] => none
  | c :: rest =>
    if isBlank c then some (none, rest)
    else if c = '\x27' then stringStep .plain (untilQuote '\x27' rest)
    else if c = '"' ∨ c = '\x60' then
      (untilQuote c rest).map fun (s, rest) => (some (.quoted (String.ofList s) c), rest)
    else if c.isDigit ∨ c = '.' then numberStep afterWord (c :: rest)
    else if c = '?' then
      some (some (.placeholder (String.ofList ('?' :: rest.takeWhile isNumeric))),
        rest.dropWhile isNumeric)
    else if c = '$' then dollarStep rest
    else match c, rest with
      | '-', '-' :: rest => some (none, rest.dropWhile (· != '\n'))
      | '/', '*' :: rest => (afterComment 1 rest).map fun rest => (none, rest)
      | _, '\x27' :: body =>
        match c.toUpper with
        | 'N' => stringStep .national (untilQuote '\x27' body)
        | 'X' => stringStep .hexadecimal (untilQuote '\x27' body)
        | 'E' => stringStep .escaped (untilEscaped body)
        | 'B' => stringStep (.lettered 'B' '\x27') (untilQuote '\x27' body)
        | 'R' => stringStep (.lettered 'R' '\x27') (untilQuote '\x27' body)
        | _ => other c rest
      | _, '"' :: body =>
        match c.toUpper with
        | 'B' => stringStep (.lettered 'B' '"') (untilQuote '"' body)
        | 'R' => stringStep (.lettered 'R' '"') (untilQuote '"' body)
        | _ => other c rest
      | _, '&' :: '\x27' :: body =>
        if c.toUpper = 'U' then stringStep .unicode (untilQuote '\x27' body) else other c rest
      | _, _ => other c rest
where
  /-- Words, then symbols; any other character is a symbol that the grammar does not know. -/
  other (c : Char) (rest : List Char) : Step :=
    let wordFollows := rest.head?.any fun d => isWordRest d && d != '@'
    if isWordStart c ∧ ((c ≠ '#' ∧ c ≠ '@') ∨ wordFollows) then wordStep [c] rest
    else if c = ':' ∧ wordFollows then
      some (some (.placeholder (String.ofList (c :: rest.takeWhile isWordRest))),
        rest.dropWhile isWordRest)
    else match symbolAt? (c :: rest) with
      | some s => symbolStep s ((c :: rest).drop s.length)
      | none => symbolStep (String.ofList [c]) rest

/-- The tokens of a text, by at most as many steps as it has characters. -/
def tokensWithin : Nat → Bool → List Char → Option (List Token)
  | _, _, [] => some []
  | 0, _, _ :: _ => none
  | steps + 1, afterWord, cs =>
    match step afterWord cs with
    | none => none
    | some (none, rest) => tokensWithin steps false rest
    | some (some token, rest) => (tokensWithin steps token.isWord rest).map (token :: ·)

end Lexer

/-- The tokens of a text; none if it has a quote or a comment that is left open. -/
def tokenize (cs : List Char) : Option (List Token) := Lexer.tokensWithin cs.length false cs

end CounterTable.Sql
