import CounterTable.Allocation.Allocation
import CounterTable.Allocation.Isolation
import CounterTable.Session.Session

/-!
# Connections of one's own

A unit of work that must not share the transaction of its caller gets a connection of its own, which
is opened before its first step and closed after its last.

* `Backend`: anything that opens and closes connections;
* `Backend.fresh`: a unit of work on a connection of its own;
* `Counter.nextValue`: an allocation in a transaction and on a connection of its own, observed by
  its session and counted if it succeeds.
-/

namespace CounterTable

variable {σ τ ω α : Type}

/-- The connection with something beside its state that it does not touch. -/
def Connection.beside (conn : Connection σ) (τ : Type) : Connection (σ × τ) where
  inTransaction s := conn.inTransaction s.1
  call c := fun (s, t) =>
    let (r, s) := conn.call c s
    (r, (s, t))

/-- Anything that opens connections, which have numbers, and closes them. -/
structure Backend (σ : Type) where
  connect : σ → Nat × σ
  connection : Nat → Connection σ
  disconnect : Nat → σ → σ

/-- Where work on a connection of its own stands. -/
inductive Fresh (ω : Type) where
  | connecting
  | connected (id : Nat) (work : ω)
deriving DecidableEq, Repr

namespace Backend

/-- The backend with something beside its state that it does not touch. -/
def beside (b : Backend σ) (τ : Type) : Backend (σ × τ) where
  connect := fun (s, t) =>
    let (id, s) := b.connect s
    (id, (s, t))
  connection id := (b.connection id).beside τ
  disconnect id := fun (s, t) => (b.disconnect id s, t)

/-- A unit of work, which starts at `start`, on a connection of its own. -/
def fresh (b : Backend σ) (work : Nat → Work σ ω α) (start : ω) : Work σ (Fresh ω) α
  | .connecting, s =>
    let (id, s) := b.connect s
    (.running (.connected id start), s)
  | .connected id w, s =>
    match work id w s with
    | (.running w, s) => (.running (.connected id w), s)
    | (.finished r, s) => (.finished r, b.disconnect id s)

end Backend

/-- What allocations work on: a state, the journal of the session, and how many of them have
succeeded, which a 64-bit word counts. -/
abbrev Accessed (σ : Type) : Type := (σ × Journal) × UInt64

namespace Counter

/-- An allocation on a connection, observed by its session and counted if it succeeds. -/
def observedAllocation (c : Counter) (conn : Connection σ) (logger : Logger) :
    Work (Accessed σ) Allocation Integral :=
  Work.counting (c.allocation (conn.observed logger))

/-- Where the allocation of the next value stands. -/
abbrev NextValue : Type := Fresh (Delegated Allocation Integral)

/-- An allocation in a transaction and on a connection of its own. -/
def nextValue (c : Counter) (b : Backend σ) (logger : Logger) :
    Work (Accessed σ) NextValue Integral :=
  let backend := (b.beside Journal).beside UInt64
  backend.fresh
    (fun id => (Delegate.isolated (backend.connection id) true).delegated
      (c.observedAllocation (b.connection id) logger) {})
    Delegate.start

end Counter

end CounterTable
