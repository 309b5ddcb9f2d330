/-!
# Failures

Everything that can go wrong when a counter is configured, allocated from or stored, one
constructor for a cause. The words of a cause are in `Error.message`, and nowhere else.

* `Error`: the causes;
* `Error.message`: the text shown for one;
* `Error.source?`: the failure behind a failed statement;
* `Error.isConfiguration`: the failures that a correct setup avoids.
-/

namespace CounterTable

/-- The causes of a failure. -/
inductive Error where
  /-- The counter table has no row. -/
  | tableNotInitialized (table : String)
  /-- A statement failed. -/
  | sql (statement : String) (source : Error)
  | connection (detail : String)
  | transaction (detail : String)
  | configuration (detail : String)
  /-- A value left the range of its number type. -/
  | overflow (detail : String)
  /-- A value is not of the expected type. -/
  | typeMismatch (detail : String)
  /-- Every allowed attempt to advance the counter lost its race. -/
  | retriesExhausted (table : String) (attempts : Nat)
  | parse (detail : String)
  | tableExists (table : String)
  | tableNotFound (table : String)
  | unsupported (detail : String)
  | lock (detail : String)
deriving DecidableEq, Repr, Inhabited

namespace Error

/-- The text shown for a failure. -/
def message : Error → String
  | tableNotInitialized table =>
    s!"could not read a hi value - you need to populate the table: {table}"
  | sql statement source => s!"SQL error executing [{statement}]: {source.message}"
  | connection detail => s!"Connection error: {detail}"
  | transaction detail => s!"Transaction error: {detail}"
  | configuration detail => s!"Configuration error: {detail}"
  | overflow detail => s!"Integral overflow: {detail}"
  | typeMismatch detail => s!"Type mismatch: {detail}"
  | retriesExhausted table attempts =>
    s!"Gave up allocating from '{table}' after {attempts} attempts"
  | parse detail => s!"Parse error: {detail}"
  | tableExists table => s!"Table '{table}' already exists"
  | tableNotFound table => s!"Table '{table}' not found"
  | unsupported detail => s!"Unsupported operation: {detail}"
  | lock detail => s!"Lock error: {detail}"

/-- The failure behind a failed statement. -/
def source? : Error → Option Error
  | sql _ source => some source
  | _ => none

/-- The failures of the setup: no seed row, or settings that make no sense. -/
def isConfiguration : Error → Bool
  | tableNotInitialized _ | configuration _ => true
  | _ => false

/-- The texts of a failure and of the failures behind it, outermost first. -/
def chain : Error → List String
  | sql statement source => (sql statement source).message :: source.chain
  | e => [e.message]

end Error

end CounterTable
