import CounterTable.Allocation.Connection
import CounterTable.Allocation.Counter

/-!
# Allocations

An allocation claims the value of the row: it reads the row and then writes the advanced value over
the value it has read. If no row holds that value any more, another allocation was faster, and the
attempt is lost and made again. Every step is one call on the connection.

* `Allocation`: where an allocation stands;
* `Counter.allocation`: an allocation as a unit of work.
-/

namespace CounterTable

/-- Where an attempt stands, by the call it makes next. -/
inductive Attempt where
  | preparingRead
  | reading
  | preparingWrite (current advanced : Integral)
  | bindingAdvanced (current advanced : Integral)
  | bindingCurrent (current : Integral)
  | writing (current : Integral)
deriving DecidableEq, Repr

/-- Where an allocation stands: the number of the attempt, and where that stands. -/
structure Allocation where
  number : Nat := 1
  attempt : Attempt := .preparingRead
deriving DecidableEq, Repr, Inhabited

namespace Counter

/-- The value that the rows of the read hold, and the value after it. -/
def readRow (c : Counter) (rows : QueryResult) : Except Error (Integral × Integral) :=
  match rows.firstValue? with
  | none => .error (.tableNotInitialized c.table)
  | some value =>
    match Integral.ofValue value c.numberType with
    | .error e => .error e
    | .ok current =>
      match current.add c.step with
      | .error e => .error e
      | .ok advanced => .ok (current, advanced)

/-- An allocation. A failed call of the read or of the write ends it with the statement and the
failure; a row that cannot be read or advanced ends it with the failure itself. -/
def allocation {σ : Type} (c : Counter) (conn : Connection σ) : Work σ Allocation Integral :=
  fun a s =>
    let goOn (attempt : Attempt) (s : σ) : Progress Allocation Integral × σ :=
      (.running { a with attempt }, s)
    let fail (e : Error) (s : σ) : Progress Allocation Integral × σ := (.finished (.error e), s)
    match a.attempt with
    | .preparingRead =>
      match conn.call (.prepare c.selectText) s with
      | (.error e, s) => fail (.sql c.selectText e) s
      | (.ok _, s) => goOn .reading s
    | .reading =>
      match conn.call .query s with
      | (.error e, s) => fail (.sql c.selectText e) s
      | (.ok rows, s) =>
        match c.readRow rows with
        | .error e => fail e s
        | .ok (current, advanced) => goOn (.preparingWrite current advanced) s
    | .preparingWrite current advanced =>
      match conn.call (.prepare c.updateText) s with
      | (.error e, s) => fail (.sql c.updateText e) s
      | (.ok _, s) => goOn (.bindingAdvanced current advanced) s
    | .bindingAdvanced current advanced =>
      match conn.call (.bind 1 advanced.toValue) s with
      | (.error e, s) => fail (.sql c.updateText e) s
      | (.ok _, s) => goOn (.bindingCurrent current) s
    | .bindingCurrent current =>
      match conn.call (.bind 2 current.toValue) s with
      | (.error e, s) => fail (.sql c.updateText e) s
      | (.ok _, s) => goOn (.writing current) s
    | .writing current =>
      match conn.call .update s with
      | (.error e, s) => fail (.sql c.updateText e) s
      | (.ok 0, s) =>
        match c.retry.afterLoss c.table a.number with
        | .error e => fail e s
        | .ok number => (.running { number }, s)
      | (.ok _, s) => (.finished (.ok current), s)

end Counter

end CounterTable
