import CounterTable.Sequence.Generator
import CounterTable.Store.Rehearsal

/-!
# Simulations

Workers that share one generator draw identifiers from a fresh database, one call after another, in
the order of a schedule. A worker whose call fails makes no more calls.

* `Simulation`: the database and the generator, and what the workers have drawn;
* `Simulation.workerByWorker`: the schedule in which each worker makes all its calls at once;
* `Simulation.calls`: the calls of a schedule;
* `SimulationReport`, `Simulation.run`: what they come to.
-/

namespace CounterTable

open CounterTable.Text

/-- What the workers share, what they have drawn, and which of them have failed. -/
structure Simulation where
  shared : Accessed Database × Optimizer
  /-- The drawn values with their workers, the latest first. -/
  drawn : List (Nat × Int) := []
  failed : List (Nat × Error) := []

namespace Simulation

/-- The schedule in which each worker makes all its calls at once. -/
def workerByWorker (workers calls : Nat) : List Nat :=
  (List.range workers).flatMap fun w => List.replicate calls w

/-- The next call of a worker. -/
def call (g : Generator) (s : Simulation) (worker : Nat) : Simulation :=
  if s.failed.any (·.1 == worker) then s
  else
    let work := g.generation Database.backend {} none
    match Work.run work Work.manySteps .opening s.shared with
    | (some (.ok a), shared) => { s with shared, drawn := (worker, a.val) :: s.drawn }
    | (some (.error e), shared) => { s with shared, failed := (worker, e) :: s.failed }
    | (none, shared) => { s with shared }

/-- The calls of a schedule, one after another. -/
def calls (g : Generator) (schedule : List Nat) (s : Simulation) : Simulation :=
  schedule.foldl (call g) s

/-- The failure of the first worker, by its number, that has failed. -/
def failure? (s : Simulation) : Option Error :=
  (s.failed.mergeSort (fun a b => decide (a.1 ≤ b.1))).head?.map (·.2)

end Simulation

/-- How many different numbers a list holds. -/
def distinctCount (ns : List Int) : Nat :=
  go (ns.mergeSort (fun a b => decide (a ≤ b)))
where
  /-- The number of runs in a sorted list. -/
  go : List Int → Nat
    | [] => 0
    | [_] => 1
    | m :: n :: rest => if m = n then go (n :: rest) else go (n :: rest) + 1

/-- What a simulation has come to. -/
structure SimulationReport where
  table : String
  optimizer : OptimizerKind
  allocated : Nat
  unique : Nat
  first : Option Int
  last : Option Int
  rowValue : Option Int64
  accesses : UInt64
deriving DecidableEq, Repr

namespace SimulationReport

/-- How many identifiers were drawn more than once. -/
def duplicates (r : SimulationReport) : Nat := r.allocated - r.unique

/-- The lines of the report. -/
def lines (r : SimulationReport) : List String :=
  [s!"table:          {r.table}", s!"optimizer:      {r.optimizer.name}",
    s!"allocated:      {r.allocated}", s!"unique:         {r.unique}"] ++
  (match r.first, r.last with
    | some first, some last => [s!"range:          {renderInt first}..={renderInt last}"]
    | _, _ => []) ++
  [match r.rowValue with
    | some v => s!"row value:      {renderInt v.toInt}"
    | none => "row value:      <missing>",
    s!"table accesses: {r.accesses}"]

end SimulationReport

/-- The report on a simulation that no worker has failed in. -/
def Simulation.report (g : Generator) (s : Simulation) : Except Error SimulationReport := do
  let values := s.drawn.map (·.2)
  let ((database, _), accesses) := s.shared.1
  let row ← database.columnValues g.counter.table
  return {
    table := g.counter.table
    optimizer := g.kind
    allocated := values.length
    unique := distinctCount values
    first := values.min?
    last := values.max?
    rowValue := row.head?
    accesses }

/-- A fresh database with the table of a generator. -/
def Generator.freshDatabase (g : Generator) (d : Dialect) : Except Error Database :=
  let (id, db) := Database.connect {}
  match (Database.connection id).executeAll (g.createScript d) db with
  | (.ok _, db) => .ok (db.disconnect id)
  | (.error e, _) => .error e

/-- The report on the calls of a schedule, which nobody has called before. -/
def Simulation.run (g : Generator) (db : Database) (schedule : List Nat) :
    Except Error SimulationReport :=
  let s := Simulation.calls g schedule { shared := (((db, {}), 0), g.optimizer) }
  match s.failure? with
  | some e => .error e
  | none => s.report g

end CounterTable
