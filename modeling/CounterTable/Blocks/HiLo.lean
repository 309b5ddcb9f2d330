import CounterTable.Blocks.Draw

/-!
# Blocks below multiples

A value `s` of the counter stands for the block of the `increment` identifiers up to
`s * increment`. Values below 1 stand for no block and are skipped.
-/

namespace CounterTable

/-- The block that a tenant hands out: the value it was drawn with, the first identifier beyond
the block, and the next one to hand out. -/
structure HiLoBlock where
  source : Integral
  limit : Integral
  next : Integral
deriving DecidableEq, Repr

/-- The policy of blocks below multiples, with the block of each tenant. -/
structure HiLo where
  increment : Int
  increment_pos : 1 ≤ increment
  blocks : Tenants HiLoBlock := []

namespace HiLo

/-- Hands out the next identifier of a block. -/
def serve (p : HiLo) (t : Tenant) (b : HiLoBlock) : Outcome HiLo :=
  match b.next.increment with
  | .ok next => .answer (.ok b.next) { p with blocks := p.blocks.set t { b with next } }
  | .error e => .answer (.error e) p

/-- A call draws unless the tenant has a block that is not used up. -/
def opening (p : HiLo) (t : Tenant) : Outcome HiLo :=
  match p.blocks.get? t with
  | some b => if b.next.val < b.limit.val then p.serve t b else .draw none
  | none => .draw none

/-- The block of a value of the counter. -/
def block (p : HiLo) (source : Integral) : Except Error HiLoBlock := do
  let limit ← (← source.multiply p.increment).increment
  let next ← limit.subtract p.increment
  return { source, limit, next }

/-- A value below 1 is skipped; any other gives the tenant its block, which is served. -/
def take (p : HiLo) (t : Tenant) (drawn : Integral) : Outcome HiLo :=
  if drawn.val < 1 then .draw none
  else match p.block drawn with
    | .ok b => p.serve t b
    | .error e => .answer (.error e) p

end HiLo

end CounterTable
