import CounterTable.Number.Decimal
import CounterTable.Text.Numeral

/-!
# JSON values

A value as its text says it: numbers keep their digits, and strings keep the code units that are
written as escapes, which need not form characters.

* `Json`: the values;
* `Json.string?`, `Json.integer?`: what strings and numbers stand for;
* `Json.sound`: every string stands for a text, and every number for a finite double;
* `Json.render`: the compact text of a value.
-/

namespace CounterTable

open CounterTable.Text

/-- A part of a string: a character, or a UTF-16 code unit that is written as an escape. -/
inductive JsonPiece where
  | char (c : Char)
  | unit (n : Nat)
deriving DecidableEq, Repr

namespace JsonPiece

/-- The code units that begin a pair. -/
def isHigh (n : Nat) : Bool := 0xD800 ≤ n && n < 0xDC00

/-- The code units that end a pair. -/
def isLow (n : Nat) : Bool := 0xDC00 ≤ n && n < 0xE000

/-- The character that a pair of code units forms. -/
def paired (high low : Nat) : Char :=
  Char.ofNat (0x10000 + (high - 0xD800) * 0x400 + (low - 0xDC00))

/-- The characters of a string; none if a code unit of a pair stands alone. -/
def chars? : List JsonPiece → Option (List Char)
  | [] => some []
  | char c :: ps => (chars? ps).map (c :: ·)
  | unit m :: unit n :: ps =>
    if isHigh m then
      if isLow n then (chars? ps).map (paired m n :: ·) else none
    else if isLow m then none
    else (chars? (unit n :: ps)).map (Char.ofNat m :: ·)
  | unit m :: ps =>
    if isHigh m || isLow m then none else (chars? ps).map (Char.ofNat m :: ·)

end JsonPiece

/-- A value. -/
inductive Json where
  | null
  | bool (b : Bool)
  /-- A number as it is written. -/
  | number (text : List Char)
  | string (pieces : List JsonPiece)
  | array (items : List Json)
  | object (members : List (List JsonPiece × Json))
deriving Repr, Inhabited

namespace Json

/-- The text that a string stands for. -/
def string? : Json → Option String
  | string ps => (JsonPiece.chars? ps).map String.ofList
  | _ => none

/-- The integer that a number stands for that is written without a point and an exponent; zero has
no sign. -/
def integer? : Json → Option Int
  | number ['-', '0'] => none
  | number text => readInt? text
  | _ => none

/-- The 64-bit word that a number stands for. -/
def word? (j : Json) : Option Int64 := j.integer?.bind Text.word?

/-- Whether a number lies in the range of doubles. -/
def isFinite (text : List Char) : Bool :=
  match (Number.Binary64.ofText? text).map Number.Binary64.decode with
  | some (.finite ..) => true
  | _ => false

mutual

/-- Whether every string stands for a text and every number for a finite double. -/
def sound : Json → Bool
  | null | bool _ => true
  | number text => isFinite text
  | string ps => (JsonPiece.chars? ps).isSome
  | array items => soundItems items
  | object members => soundMembers members

/-- Whether all items of an array are sound. -/
def soundItems : List Json → Bool
  | [] => true
  | j :: js => sound j && soundItems js

/-- Whether all members of an object are sound. -/
def soundMembers : List (List JsonPiece × Json) → Bool
  | [] => true
  | (key, j) :: ms => (JsonPiece.chars? key).isSome && sound j && soundMembers ms

end

/-- A text as a string. -/
def ofString (s : String) : Json := string (s.toList.map .char)

/-- An integer as a number. -/
def ofInt (n : Int) : Json := number (renderInt n).toList

/-- A text as a string, or null. -/
def ofOption : Option String → Json
  | none => null
  | some s => ofString s

/-- A digit of hexadecimal escapes. -/
def hexDigit (n : Nat) : Char := Char.ofNat (if n < 10 then '0'.toNat + n else 'a'.toNat + (n - 10))

/-- The escape of a code unit. -/
def unitText (n : Nat) : List Char :=
  ['\\', 'u', hexDigit (n / 4096 % 16), hexDigit (n / 256 % 16), hexDigit (n / 16 % 16),
    hexDigit (n % 16)]

/-- A part of a string as it is written: quotes, backslashes and control characters are escaped. -/
def pieceText : JsonPiece → List Char
  | .unit n => unitText n
  | .char c =>
    match c with
    | '"' => ['\\', '"']
    | '\\' => ['\\', '\\']
    | '\n' => ['\\', 'n']
    | '\r' => ['\\', 'r']
    | '\t' => ['\\', 't']
    | '\x08' => ['\\', 'b']
    | '\x0c' => ['\\', 'f']
    | c => if c.toNat < 32 then unitText c.toNat else [c]

/-- A string as it is written. -/
def stringText (ps : List JsonPiece) : List Char := '"' :: (ps.flatMap pieceText ++ ['"'])

mutual

/-- The compact text of a value. -/
def chars : Json → List Char
  | null => "null".toList
  | bool b => if b then "true".toList else "false".toList
  | number text => text
  | string ps => stringText ps
  | array items => '[' :: (itemsText items ++ [']'])
  | object members => '\x7b' :: (membersText members ++ ['\x7d'])

/-- The items of an array, with commas between them. -/
def itemsText : List Json → List Char
  | [] => []
  | [j] => chars j
  | j :: js => chars j ++ ',' :: itemsText js

/-- The members of an object, with commas between them. -/
def membersText : List (List JsonPiece × Json) → List Char
  | [] => []
  | [(key, j)] => stringText key ++ ':' :: chars j
  | (key, j) :: ms => stringText key ++ ':' :: chars j ++ ',' :: membersText ms

end

/-- The compact text of a value. -/
def render (j : Json) : String := String.ofList (chars j)

end Json

end CounterTable
