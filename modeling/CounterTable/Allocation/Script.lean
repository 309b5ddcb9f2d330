import CounterTable.Allocation.Connection

/-!
# Scripted connections

A connection whose answers are written down beforehand, one list for each kind of call. Beginning,
ending, preparing and binding succeed once their list is used up; queries and updates fail.
-/

namespace CounterTable

/-- The answers that are left, by kind of call. -/
structure Script where
  inTransaction : Bool := false
  begins : List (Except Error Unit) := []
  commits : List (Except Error Unit) := []
  rollbacks : List (Except Error Unit) := []
  prepares : List (Except Error Unit) := []
  binds : List (Except Error Unit) := []
  queries : List (Except Error QueryResult) := []
  updates : List (Except Error Nat) := []

namespace Script

/-- The failure of a list of answers that is used up. -/
def exhausted : Error := .connection "script exhausted"

/-- The first answer of a list, or the one given if it is used up, and the answers after it. -/
def next {α : Type} (default : Except Error α) : List (Except Error α) →
    Except Error α × List (Except Error α)
  | [] => (default, [])
  | a :: rest => (a, rest)

/-- Takes the answer to a call from its list. -/
def answer : (c : Call) → Action Script c.Answer
  | .begin => fun s => let (r, l) := next (.ok ()) s.begins; (r, { s with begins := l })
  | .commit => fun s => let (r, l) := next (.ok ()) s.commits; (r, { s with commits := l })
  | .rollback => fun s => let (r, l) := next (.ok ()) s.rollbacks; (r, { s with rollbacks := l })
  | .prepare _ => fun s => let (r, l) := next (.ok ()) s.prepares; (r, { s with prepares := l })
  | .bind _ _ => fun s => let (r, l) := next (.ok ()) s.binds; (r, { s with binds := l })
  | .query => fun s =>
    let (r, l) := next (.error exhausted) s.queries; (r, { s with queries := l })
  | .update => fun s =>
    let (r, l) := next (.error exhausted) s.updates; (r, { s with updates := l })

/-- The connection that answers from the script. -/
def connection : Connection Script where
  inTransaction := Script.inTransaction
  call := answer

end Script

end CounterTable
