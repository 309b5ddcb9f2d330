import CounterTable.Allocation.Work
import CounterTable.Blocks.HiLo
import CounterTable.Blocks.Pooled

/-!
# Optimizers

An optimizer is one of the three block policies. It decides how many identifiers one value of the
counter yields, and so how far the counter moves.

* `OptimizerKind`: the policies by name;
* `Optimizer`: a policy with what its tenants hold;
* `Optimizer.generation`: a call of an optimizer as a unit of work over the source of its values.
-/

namespace CounterTable

open CounterTable.Text

/-- The block policies. -/
inductive OptimizerKind where
  | plain
  | hilo
  | pooled
deriving DecidableEq, Repr, Inhabited

/-- A block policy with what its tenants hold. -/
inductive Optimizer where
  | plain (policy : Plain)
  | hilo (policy : HiLo)
  | pooled (policy : Pooled)

namespace OptimizerKind

/-- Pools, unless the increment leaves nothing to pool. -/
def defaultFor (increment : Int) : OptimizerKind := if increment ≤ 1 then plain else pooled

/-- The name that a kind is shown by. -/
def name : OptimizerKind → String
  | plain => "none"
  | hilo => "hilo"
  | pooled => "pooled"

/-- The policy that a name or its alias stands for. -/
def ofName? (name : String) : Option OptimizerKind :=
  if name ∈ ["none", "noop"] then some plain
  else if name = "hilo" then some hilo
  else if name = "pooled" then some pooled
  else none

/-- Reads a policy from its name in any case, with blanks around it. -/
def ofText (text : String) : Except Error OptimizerKind :=
  let name := String.ofList (lower (trim text.toList))
  match ofName? name with
  | some k => .ok k
  | none => .error (.configuration s!"Unknown optimizer '{name}'")

/-- An optimizer of which no tenant holds anything. The initial value of the table, if it is known,
tells a pool whether the table is unused. -/
def build (k : OptimizerKind) (increment : Int) (initial : Option Int) : Except Error Optimizer :=
  if h : 1 ≤ increment then
    .ok (match k with
      | plain => .plain { increment, increment_pos := h }
      | hilo => .hilo { increment, increment_pos := h }
      | pooled => .pooled { increment, increment_pos := h, initial })
  else .error (.configuration
    s!"{k.name} optimizer needs a positive increment size, got {renderInt increment}")

theorem ofName?_name (k : OptimizerKind) : ofName? k.name = some k := by
  cases k <;> decide

end OptimizerKind

/-- Where a call of an optimizer stands: it opens, or it draws a value. -/
inductive Generation (ω : Type) where
  | opening
  | drawing (held : Option Integral) (draw : ω)
deriving DecidableEq, Repr

namespace Optimizer

/-- What a call of a tenant comes to before it has drawn anything. -/
def opening (o : Optimizer) (t : Tenant) : Outcome Optimizer :=
  match o with
  | plain p => (p.opening t).map plain
  | hilo p => (p.opening t).map hilo
  | pooled p => (p.opening t).map pooled

/-- What a call comes to with one more value of the counter. -/
def take (o : Optimizer) (t : Tenant) (held : Option Integral) (drawn : Integral) :
    Outcome Optimizer :=
  match o with
  | plain p => (p.take t drawn).map plain
  | hilo p => (p.take t drawn).map hilo
  | pooled p => (p.take t held drawn).map pooled

/-- The last value of the counter that a tenant works with. -/
def lastSource? (o : Optimizer) (t : Tenant) : Option Integral :=
  match o with
  | plain p => p.last.get? t
  | hilo p => (p.blocks.get? t).map HiLoBlock.source
  | pooled p => (p.pools.get? t).map Pool.hi

/-- How far apart the values of the counter are meant to be. -/
def increment : Optimizer → Int
  | plain p => p.increment
  | hilo p => p.increment
  | pooled p => p.increment

/-- Whether the counter moves by the whole increment: always for pools, for blocks never, and for
plain values if it makes a difference. -/
def appliesIncrement : Optimizer → Bool
  | plain p => 1 < p.increment
  | hilo _ => false
  | pooled _ => true

variable {σ ω : Type}

/-- Goes on with an outcome: draws, starting the draw at `start`, or finishes. -/
def proceed (start : ω) (o : Optimizer) (s : σ) : Outcome Optimizer →
    Progress (Generation ω) Integral × (σ × Optimizer)
  | .draw held => (.running (.drawing held start), (s, o))
  | .answer r o => (.finished r, (s, o))

/-- A call of a tenant. Its values come from a unit of work that starts at `start`; if that fails,
so does the call, and no tenant loses anything. -/
def generation (source : Work σ ω Integral) (start : ω) (t : Tenant) :
    Work (σ × Optimizer) (Generation ω) Integral
  | .opening, (s, o) => proceed start o s (o.opening t)
  | .drawing held w, (s, o) =>
    match source w s with
    | (.running w, s) => (.running (.drawing held w), (s, o))
    | (.finished (.error e), s) => (.finished (.error e), (s, o))
    | (.finished (.ok drawn), s) => proceed start o s (o.take t held drawn)

end Optimizer

end CounterTable
