import CounterTable.Allocation.Work

/-!
# Retrying after a lost race

An attempt to advance the counter yields a value, fails, or loses a race. A lost attempt is made
again, for ever or up to a bound.

* `RetryPolicy`: the bound;
* `RetryPolicy.afterLoss`: what follows a lost attempt;
* `RetryPolicy.retrying`: attempts one after another, as a unit of work.
-/

namespace CounterTable

/-- How often a lost attempt may be made. -/
inductive RetryPolicy where
  | unbounded
  /-- Give up when so many attempts are lost. -/
  | bounded (maxAttempts : UInt32)
deriving DecidableEq, Repr, Inhabited

namespace RetryPolicy

/-- A bound of zero would give up before it tries. -/
def validate : RetryPolicy → Except Error Unit
  | bounded 0 => .error (.configuration "retry policy needs at least one attempt")
  | _ => .ok ()

/-- The greatest number of an attempt; attempts after it keep this number. -/
def lastAttempt : Nat := UInt32.size - 1

/-- The number of the attempt after the one of this number. -/
def nextAttempt (attempt : Nat) : Nat := min (attempt + 1) lastAttempt

/-- What follows the loss of an attempt: the number of the next one, or giving up. -/
def afterLoss (policy : RetryPolicy) (table : String) (attempt : Nat) : Except Error Nat :=
  match policy with
  | unbounded => .ok (nextAttempt attempt)
  | bounded maxAttempts =>
    if maxAttempts.toNat ≤ attempt then .error (.retriesExhausted table attempt)
    else .ok (nextAttempt attempt)

/-- Makes attempts from number 1 on until one yields a value or fails, or the policy gives up; the
unit of work stands at the number of the attempt it makes next. -/
def retrying {σ α : Type} (policy : RetryPolicy) (table : String)
    (attempt : Nat → Action σ (Option α)) : Work σ Nat α := fun n s =>
  match attempt n s with
  | (.ok (some a), s) => (.finished (.ok a), s)
  | (.ok none, s) =>
    match policy.afterLoss table n with
    | .ok n => (.running n, s)
    | .error e => (.finished (.error e), s)
  | (.error e, s) => (.finished (.error e), s)

end RetryPolicy

end CounterTable
