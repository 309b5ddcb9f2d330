import CounterTable.Name.Identifier

/-!
# Qualified names

The name of a table with up to two qualifiers: `catalog.schema.object`. A dot between quotes
belongs to a segment, all others separate segments.

* `Segments.split`: the segments of a text;
* `QualifiedName.ofText`: reads a name;
* `QualifiedName.render`, `QualifiedName.display`: a name in a statement, in messages.
-/

namespace CounterTable

open CounterTable.Text

/-- Segments of a dotted text while it is read: the finished ones, the current one, and the quote
that has to close before a dot separates again. -/
structure Segments where
  finished : List (List Char)
  current : List Char
  closing : Option Char
deriving DecidableEq, Repr

namespace Segments

/-- One more character. -/
def push (s : Segments) (c : Char) : Segments :=
  match s.closing with
  | some close =>
    { s with current := s.current ++ [c], closing := if c = close then none else some close }
  | none =>
    if c = '.' then { s with finished := s.finished ++ [s.current], current := [] }
    else { s with current := s.current ++ [c], closing := Identifier.closingQuote? c }

/-- All characters of a text. -/
def ofChars (cs : List Char) : Segments := cs.foldl push ⟨[], [], none⟩

/-- The segments of a text. Every quote has to be closed and no segment may be blank. -/
def split (raw : String) : Except Error (List (List Char)) :=
  let s := ofChars (trim raw.toList)
  if s.closing.isSome then
    .error (.configuration s!"Unterminated quoted identifier in '{raw}'")
  else
    let segments := s.finished ++ [s.current]
    if segments.any (fun segment => (trim segment).isEmpty) then
      .error (.configuration s!"Empty name segment in '{raw}'")
    else .ok segments

end Segments

/-- The name of a table, with its qualifiers. -/
structure QualifiedName where
  catalog : Option Identifier
  schema : Option Identifier
  object : Identifier
deriving DecidableEq, Repr, Inhabited

namespace QualifiedName

/-- Reads a name of one to three segments. -/
def ofText (raw : String) : Except Error QualifiedName := do
  let segments ← Segments.split raw
  match ← segments.mapM Identifier.ofChars with
  | [object] => return ⟨none, none, object⟩
  | [schema, object] => return ⟨none, some schema, object⟩
  | [catalog, schema, object] => return ⟨some catalog, some schema, object⟩
  | parts => throw (.configuration
      s!"Qualified name '{raw}' has {parts.length} parts, expected at most 3")

/-- The identifiers that the name has, from the outermost one. -/
def parts (q : QualifiedName) : List Identifier :=
  q.catalog.toList ++ q.schema.toList ++ [q.object]

/-- The name in a statement of a dialect. -/
def render (d : Dialect) (q : QualifiedName) : String :=
  ".".intercalate (q.parts.map (Identifier.render d))

/-- The name in messages. -/
def display (q : QualifiedName) : String := ".".intercalate (q.parts.map Identifier.display)

/-- Names are ordered by catalog, then schema, then object; a missing qualifier comes first. -/
instance : Ord QualifiedName where
  compare a b :=
    ((compare a.catalog b.catalog).then (compare a.schema b.schema)).then
      (compare a.object b.object)

end QualifiedName

end CounterTable
