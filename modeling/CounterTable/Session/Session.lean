import CounterTable.Allocation.Connection
import CounterTable.Text.Blank
import CounterTable.Text.Printable

/-!
# Sessions

The context an allocation runs in: the tenant it is for, and what is observed of its statements. A
session may print the statements that allocations prepare, and counts them.

* `Statistics`: how many statements were prepared and executed, and how long executing them took;
* `Text.layout`: a statement laid out for printing;
* `Logger`: whether and how statements are printed;
* `Journal`, `Connection.observed`: both together, kept beside the state of a connection;
* `Session`: who allocates, and how the statements are observed.
-/

namespace CounterTable

/-! ## Statistics -/

/-- Counts of statements, and the time their execution took in nanoseconds. All three are kept in
64-bit words, which start over when they are full; the time of one execution is at most a full
word. -/
structure Statistics where
  prepared : UInt64 := 0
  executed : UInt64 := 0
  nanoseconds : UInt64 := 0
deriving DecidableEq, Repr, Inhabited

namespace Statistics

/-- The greatest time of one execution. -/
def longest : Nat := UInt64.size - 1

/-- A statement has been prepared, or its preparation has failed. -/
def prepareEnded (s : Statistics) : Statistics := { s with prepared := s.prepared + 1 }

/-- A statement has been executed, or its execution has failed, after some nanoseconds. -/
def executeEnded (s : Statistics) (elapsed : Nat) : Statistics :=
  { s with
    executed := s.executed + 1
    nanoseconds := s.nanoseconds + UInt64.ofNat (min elapsed longest) }

/-- How many nanoseconds a second has. -/
def nanosecondsPerSecond : Nat := 1000000000

/-- The whole seconds of the time, and the nanoseconds of the next one. -/
def time (s : Statistics) : Nat × Nat :=
  (s.nanoseconds.toNat / nanosecondsPerSecond, s.nanoseconds.toNat % nanosecondsPerSecond)

end Statistics

/-! ## Statements in the log

A laid out statement begins on a line of its own, and each major clause begins another one; all
lines are indented, and the blanks between words become single spaces. -/

namespace Text

/-- The words that begin a line. -/
def clauseWords : List String := ["from", "where", "set", "values"]

/-- The start of an indented line. -/
def indent : String := "\n    "

/-- What stands before a word other than the first. -/
def separator (word : List Char) : String :=
  if String.ofList (lower word) ∈ clauseWords then indent else " "

/-- The statement with its major clauses on lines of their own. -/
def layout (sql : String) : String :=
  match words sql.toList with
  | [] => indent
  | first :: rest =>
    indent ++ String.ofList first ++
      String.join (rest.map fun word => separator word ++ String.ofList word)

end Text

/-- Whether statements are printed, and whether they are laid out. -/
structure Logger where
  print : Bool := false
  format : Bool := false
deriving DecidableEq, Repr, Inhabited

namespace Logger

/-- A statement as it is printed. -/
def statementText (l : Logger) (sql : String) : String :=
  if l.format then Text.layout sql else sql

/-- The lines printed for a statement: one, or none. -/
def lines (l : Logger) (sql : String) : List String :=
  if l.print then ["SQL: " ++ l.statementText sql] else []

end Logger

/-! ## Sessions -/

/-- What a session has observed: counts, and the lines it has printed. -/
structure Journal where
  statistics : Statistics := {}
  printed : List String := []
deriving DecidableEq, Repr, Inhabited

/-- The connection with a journal beside its state: a statement is printed before it is prepared,
and counted whether or not its preparation or execution succeeds. Time is not observed. -/
def Connection.observed {σ : Type} (conn : Connection σ) (logger : Logger) :
    Connection (σ × Journal) where
  inTransaction s := conn.inTransaction s.1
  call c := fun (s, journal) =>
    let (r, s) := conn.call c s
    (r, s, match c with
      | .prepare sql =>
        { statistics := journal.statistics.prepareEnded
          printed := journal.printed ++ logger.lines sql }
      | .query | .update => { journal with statistics := journal.statistics.executeEnded 0 }
      | _ => journal)

/-- Who allocates, and how the statements are observed. -/
structure Session where
  tenant : Option String := none
  logger : Logger := {}
deriving DecidableEq, Repr, Inhabited

/-- The text of a session for diagnostics; what it holds beyond this is left out (`..`). -/
def Session.describe (s : Session) : String :=
  let tenant := match s.tenant with
    | none => "None"
    | some t => s!"Some({Text.quoted t})"
  "Session \x7b tenant_identifier: " ++ tenant ++
    ", statement_logger: SqlStatementLogger \x7b log_to_stdout: " ++ toString s.logger.print ++
    ", format_sql: " ++ toString s.logger.format ++ " \x7d, .. \x7d"

end CounterTable
