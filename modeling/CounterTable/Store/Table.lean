import CounterTable.Error
import CounterTable.Keyed
import CounterTable.Sql.QueryResult

/-!
# Tables of integers

A table has one lock. While a connection holds it, the table keeps the rows as they were when the
lock was taken: other connections read those, and the owner can go back to them. The holder and the
saved rows are two fields, and that they come and go together is a fact about histories.

* `Table`, `Table.visibleRows`: a table, and its rows as a connection sees them;
* `Table.acquire`, `Table.release`: the lock;
* `Storage`: tables by name;
* `Undo`: changes of the storage that a transaction can take back.
-/

namespace CounterTable

/-- One integer for each column. -/
abbrev Row : Type := List Int64

/-- A table of integers. -/
structure Table where
  columns : List String
  rows : List Row := []
  /-- The connection that holds the lock. -/
  lockedBy? : Option Nat := none
  /-- While the lock is held, the rows as they were when it was taken. -/
  saved? : Option (List Row) := none
deriving DecidableEq, Repr

namespace Table

/-- The position of the first column of a name, in any case. -/
def columnIndex (t : Table) (name : String) : Except Error Nat :=
  match t.columns.findIdx? (sameName · name) with
  | some i => .ok i
  | none => .error (.unsupported s!"unknown column {name}")

/-- The rows as a connection sees them. -/
def visibleRows (t : Table) (reader : Nat) : List Row :=
  match t.saved?, t.lockedBy? with
  | some saved, some owner => if owner = reader then t.rows else saved
  | _, _ => t.rows

/-- Takes the lock, if it is free. -/
def acquire (t : Table) (owner : Nat) : Table :=
  match t.lockedBy? with
  | some _ => t
  | none => { t with lockedBy? := some owner, saved? := some t.rows }

/-- Gives the lock back, if `owner` holds it; the changes since are kept or undone. -/
def release (t : Table) (owner : Nat) (keep : Bool) : Table :=
  if t.lockedBy? = some owner then
    { t with
      rows := if keep then t.rows else t.saved?.getD t.rows
      lockedBy? := none
      saved? := none }
  else t

end Table

/-- Tables by name. -/
structure Storage where
  tables : Keyed String Table := []
deriving DecidableEq, Repr, Inhabited

/-- A change of the storage that a transaction can take back. -/
inductive Undo where
  | created (name : String)
  /-- The dropped table, as it was when it was dropped. -/
  | dropped (name : String) (table : Table)
deriving DecidableEq, Repr

namespace Storage

/-- Whether there is a table of a name. -/
def contains (s : Storage) (name : String) : Bool := s.tables.contains name

/-- The table of a name. -/
def table (s : Storage) (name : String) : Except Error Table :=
  match s.tables.get? name with
  | some t => .ok t
  | none => .error (.tableNotFound name)

/-- The names of the tables, sorted. -/
def names (s : Storage) : List String := s.tables.keys.mergeSort (fun a b => decide (a ≤ b))

/-- Puts a table in the place of the one of its name. -/
def put (s : Storage) (name : String) (t : Table) : Storage := ⟨s.tables.set name t⟩

/-- Adds an empty table. -/
def create (s : Storage) (name : String) (columns : List String) : Except Error Storage :=
  if s.contains name then .error (.tableExists name) else .ok (s.put name { columns })

/-- Removes a table, and answers it. -/
def drop (s : Storage) (name : String) : Except Error (Table × Storage) :=
  (s.table name).map fun t => (t, ⟨s.tables.erase name⟩)

/-- Takes a change back. -/
def undo (s : Storage) : Undo → Storage
  | .created name => ⟨s.tables.erase name⟩
  | .dropped name t => s.put name t

/-- Gives the lock of a table back, if there is such a table. -/
def release (s : Storage) (owner : Nat) (keep : Bool) (name : String) : Storage :=
  match s.tables.get? name with
  | some t => s.put name (t.release owner keep)
  | none => s

/-- Takes the lock of a table for a connection if it is free and is to be held, and says whether it
was taken. The lock of another connection is not waited for. -/
def acquire (s : Storage) (name : String) (owner : Nat) (hold : Bool) :
    Except Error (Bool × Storage) :=
  match s.table name with
  | .error e => .error e
  | .ok t =>
    match t.lockedBy? with
    | some holder =>
      if holder = owner then .ok (false, s)
      else .error (.lock
        s!"timed out waiting for the lock on {name} held by connection {holder}")
    | none => .ok (hold, if hold then s.put name (t.acquire owner) else s)

end Storage

end CounterTable
