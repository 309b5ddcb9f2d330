import CounterTable.Blocks.Draw

/-!
# Pools below values

A value of the counter, which moves by the whole increment, is the greatest identifier of its pool.
The first pool of a tenant is special: on a table that nobody has used yet the first value is the
least identifier, and a second value is drawn at once for the upper end.
-/

namespace CounterTable

/-- The identifiers that a tenant hands out: up to `hi`, from `next` on. -/
structure Pool where
  hi : Integral
  next : Integral
deriving DecidableEq, Repr

/-- The policy of pools, with the pool of each tenant. -/
structure Pooled where
  increment : Int
  increment_pos : 1 ≤ increment
  /-- The value that the table was filled with, if it is known. -/
  initial : Option Int
  pools : Tenants Pool := []

namespace Pooled

/-- Hands out the next identifier of a pool. -/
def serve (p : Pooled) (t : Tenant) (pool : Pool) : Outcome Pooled :=
  match pool.next.increment with
  | .ok next => .answer (.ok pool.next) { p with pools := p.pools.set t { pool with next } }
  | .error e => .answer (.error e) p

/-- A call draws unless the tenant has a pool that is not used up. -/
def opening (p : Pooled) (t : Tenant) : Outcome Pooled :=
  match p.pools.get? t with
  | some pool => if pool.hi.val < pool.next.val then .draw none else p.serve t pool
  | none => .draw none

/-- Whether a first value shows that nobody has used the table yet. -/
def isFresh (p : Pooled) (first : Integral) : Bool :=
  match p.initial with
  | some initial => first.val == initial
  | none => first.val < p.increment

/-- The pool whose greatest identifier is this value. -/
def poolBelow (p : Pooled) (hi : Integral) : Except Error Pool := do
  let next ← hi.subtract (p.increment - 1)
  return { hi, next }

/-- The pool of two first values: all from the first one on if they follow each other, and else,
since another one has drawn in between, only the pool below the second. -/
def poolFrom (p : Pooled) (first hi : Integral) : Except Error Pool :=
  match first.add p.increment with
  | .ok expected => if expected = hi then .ok { hi, next := first } else p.poolBelow hi
  | .error _ => p.poolBelow hi

/-- Serves from a new pool. -/
def serveNew (p : Pooled) (t : Tenant) : Except Error Pool → Outcome Pooled
  | .ok pool => p.serve t pool
  | .error e => .answer (.error e) p

/-- The first value of a tenant that shows an unused table is held, and a second one drawn; any
other value makes the pool, which is served. -/
def take (p : Pooled) (t : Tenant) (held : Option Integral) (drawn : Integral) : Outcome Pooled :=
  match held with
  | some first => p.serveNew t (p.poolFrom first drawn)
  | none =>
    if (p.pools.get? t).isNone && p.isFresh drawn then .draw (some drawn)
    else p.serveNew t (p.poolBelow drawn)

end Pooled

end CounterTable
