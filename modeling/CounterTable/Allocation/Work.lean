import CounterTable.Error

/-!
# Units of work

A unit of work is a machine: it stands somewhere, takes one step on a shared state, and either goes
on from a new place or is finished. Machines that share a state can take their steps in any order,
which is how several allocations race.

* `Action`: something done on a state at once, which may fail;
* `Progress`, `Work`: one step of a unit of work;
* `Work.run`: a unit of work that runs alone, for a bounded number of steps;
* **`Work.run_add`**: more steps keep a finished result.
-/

namespace CounterTable

/-- Something done on a state at once; a failure keeps what was done before it. -/
abbrev Action (σ α : Type) : Type := σ → Except Error α × σ

namespace Action

/-- Does nothing, and answers a value. -/
def succeed {σ α : Type} (a : α) : Action σ α := fun s => (.ok a, s)

/-- Does nothing, and fails. -/
def fail {σ α : Type} (e : Error) : Action σ α := fun s => (.error e, s)

/-- One action after another, which sees the result of the first; a failure ends both. -/
def andThen {σ α β : Type} (x : Action σ α) (f : α → Action σ β) : Action σ β := fun s =>
  match x s with
  | (.ok a, s) => f a s
  | (.error e, s) => (.error e, s)

end Action

/-- Where a unit of work is after a step. -/
inductive Progress (ω α : Type) where
  | running (work : ω)
  | finished (result : Except Error α)

/-- A unit of work: from where it stands, one step on the shared state. -/
abbrev Work (σ ω α : Type) : Type := ω → σ → Progress ω α × σ

namespace Work

variable {σ ω α : Type}

/-- Runs a unit of work alone for at most the given number of steps. -/
def run (work : Work σ ω α) : Nat → ω → σ → Option (Except Error α) × σ
  | 0, _, s => (none, s)
  | steps + 1, w, s =>
    match work w s with
    | (.running w, s) => run work steps w s
    | (.finished r, s) => (some r, s)

/-- An action as a unit of work of one step. -/
def once (act : Action σ α) : Work σ Unit α := fun _ s =>
  let (r, s) := act s
  (.finished r, s)

/-- A unit of work that counts in a 64-bit word beside the state how often it succeeded. -/
def counting (work : Work σ ω α) : Work (σ × UInt64) ω α := fun w (s, count) =>
  match work w s with
  | (.finished (.ok a), s) => (.finished (.ok a), (s, count + 1))
  | (p, s) => (p, (s, count))

/-- More steps than any unit of work takes that is not disturbed for ever. -/
def manySteps : Nat := 64 * UInt64.size

theorem run_add {work : Work σ ω α} {steps : Nat} {w : ω} {s s' : σ} {r : Except Error α}
    (h : run work steps w s = (some r, s')) (more : Nat) :
    run work (steps + more) w s = (some r, s') := by
  induction steps generalizing w s with
  | zero => simp [run] at h
  | succ steps ih =>
    rw [Nat.succ_add]
    simp only [run] at h ⊢
    split
    · next hw => rw [hw] at h; exact ih h
    · next hw => rw [hw] at h; exact h

end Work

end CounterTable
