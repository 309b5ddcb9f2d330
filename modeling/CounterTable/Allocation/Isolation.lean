import CounterTable.Allocation.Connection

/-!
# Isolated work

A delegate decides when a unit of work runs and how its transaction ends. It is a strategy: from
the outcomes of the runs so far and its state it either runs the work (again) or returns.

* `Delegate`: the strategies;
* `Delegate.isolated`: begin, run once, then commit on success and roll back on failure;
* `Delegated`, `Delegate.delegated`: a unit of work under a delegate, as a unit of work. Its result
  is the value of the last run that succeeded, provided that the delegate returns success.
-/

namespace CounterTable

/-- A strategy for running a unit of work: from the outcomes of its runs so far, oldest first, run
it once more (`none`) or return (`some`). -/
structure Delegate (σ : Type) where
  next : List (Except Error Unit) → σ → Option (Except Error Unit) × σ

/-- A unit of work under a delegate: the delegate is to decide, or the work runs. It keeps the
outcomes of the finished runs and the value of the last one that succeeded. -/
inductive Delegated (ω α : Type) where
  | deciding (outcomes : List (Except Error Unit)) (value : Option α)
  | working (outcomes : List (Except Error Unit)) (value : Option α) (work : ω)

namespace Delegate

variable {σ ω α : Type}

/-- Returns success without running the work. -/
def idle : Delegate σ where
  next _ s := (some (.ok ()), s)

/-- Runs the work once in a transaction of its own: the transaction is committed if the work
succeeds and rolled back if it fails, and the failure of the work is returned whatever becomes of
the rollback. A connection that is in a transaction already is refused. Without `transacted` the
work just runs. -/
def isolated (conn : Connection σ) (transacted : Bool) : Delegate σ where
  next outcomes s :=
    match transacted, outcomes.getLast? with
    | false, last => (last, s)
    | true, none =>
      if conn.inTransaction s then
        (some (.error (.transaction
          "isolated work needs a connection without an active transaction")), s)
      else match conn.call .begin s with
        | (.ok _, s) => (none, s)
        | (.error e, s) => (some (.error e), s)
    | true, some (.ok _) =>
      let (r, s) := conn.call .commit s
      (some r, s)
    | true, some (.error e) =>
      let (_, s) := conn.call .rollback s
      (some (.error e), s)

/-- The result of delegated work once the delegate has returned. -/
def result (returned : Except Error Unit) (value : Option α) : Except Error α :=
  match returned, value with
  | .error e, _ => .error e
  | .ok _, some a => .ok a
  | .ok _, none => .error (.transaction "isolated work did not run")

/-- Runs a unit of work, which starts at `start`, under the delegate. -/
def delegated (d : Delegate σ) (work : Work σ ω α) (start : ω) : Work σ (Delegated ω α) α
  | .deciding outcomes value, s =>
    match d.next outcomes s with
    | (none, s) => (.running (.working outcomes value start), s)
    | (some r, s) => (.finished (result r value), s)
  | .working outcomes value w, s =>
    match work w s with
    | (.running w, s) => (.running (.working outcomes value w), s)
    | (.finished (.ok a), s) => (.running (.deciding (outcomes ++ [.ok ()]) (some a)), s)
    | (.finished (.error e), s) => (.running (.deciding (outcomes ++ [.error e]) value), s)

/-- Where delegated work starts. -/
def start : Delegated ω α := .deciding [] none

/-- Runs an action in a transaction of its own: the delegate decides, the action is done, and the
delegate decides again. -/
def perform (d : Delegate σ) (act : Action σ α) (s : σ) : Except Error α × σ :=
  match Work.run (d.delegated (Work.once act) ()) Work.manySteps start s with
  | (some r, s) => (r, s)
  | (none, s) => (result (.ok ()) none, s)

end Delegate

end CounterTable
