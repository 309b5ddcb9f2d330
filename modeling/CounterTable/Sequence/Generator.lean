import CounterTable.Allocation.Backend
import CounterTable.Export.Registry
import CounterTable.Sequence.Settings

/-!
# Generators

A generator draws identifiers in blocks from a counter table.

* `Generator.configure`: the generator of some settings, in a dialect;
* `Generator.generation`: a call of a tenant, as a unit of work;
* `Generator.createScript`, `Generator.dropScript`: the statements for its table.
-/

namespace CounterTable

/-- A counter with the block policy that draws from it. -/
structure Generator where
  counter : Counter
  kind : OptimizerKind
  /-- The block policy while nobody holds a block. -/
  optimizer : Optimizer

namespace Counter

/-- The counter as an optimizer needs it: an allocation advances the row by the whole increment if
the optimizer asks for that. -/
def prepare (c : Counter) (o : Optimizer) : Counter :=
  { c with appliesIncrement := o.appliesIncrement }

end Counter

namespace Generator

/-- The generator of some settings, in a dialect. -/
def configure (s : Settings) (d : Dialect) : Except Error Generator := do
  s.validate
  let name ← s.qualifiedName
  let column ← s.columnName
  let counter ← Counter.define d name column s.initialValue s.incrementSize s.numberType
  let optimizer ← s.optimizerKind.build s.incrementSize.toInt (some s.initialValue.toInt)
  return {
    counter := { counter with retry := s.retry }.prepare optimizer
    kind := s.optimizerKind
    optimizer }

/-- Where a call of a generator stands. -/
abbrev Call : Type := Generation Counter.NextValue

/-- A call of a tenant. Each value of the counter is allocated in a transaction and on a connection
of its own. -/
def generation {σ : Type} (g : Generator) (b : Backend σ) (session : Logger) (t : Tenant) :
    Work (Accessed σ × Optimizer) Call Integral :=
  Optimizer.generation (g.counter.nextValue b session) .connecting t

/-- The statements that create the table and fill it. -/
def createScript (g : Generator) (d : Dialect) : List String := g.counter.createScript d

/-- The statement that drops the table. -/
def dropScript (g : Generator) (d : Dialect) : List String := g.counter.dropScript d

end Generator

end CounterTable
