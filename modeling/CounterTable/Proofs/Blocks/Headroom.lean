import CounterTable.Proofs.Blocks.Supply

/-!
# Pools of a counter that ascends

The values of a counter begin at its initial value and ascend by the increment of the pools. One is
drawn only if the next one is in the range of the number type as well. So the identifiers of a pool,
and the one after them, lie between the initial value and the value that the counter has come to,
and no arithmetic of a pool leaves the range.

* `Ascent`: where the values of a counter begin, how far apart they are, and what type they have;
* `Ascent.Reached`, `Ascent.Passed`: the value that the counter has come to, and values below it;
* `Pooled.Within`: pools that end at values which have been passed;
* **`Pooled.opening_succeeds`**, **`Pooled.take_succeeds`**: no call fails by its arithmetic.
-/

namespace CounterTable

/-- How the values of a counter ascend: they begin at an initial value of their type, and are an
increment apart. -/
structure Ascent where
  type : NumberType
  initial : Int
  increment : Int
  contains_initial : type.Contains initial
  increment_pos : 1 ≤ increment

namespace Ascent

/-- The counter may have come to this value. -/
structure Reached (a : Ascent) (v : Int) : Prop where
  contains : a.type.Contains v
  ascended : v = a.initial ∨ a.initial + a.increment ≤ v

/-- A value that has been drawn, and which the counter has left behind. -/
structure Passed (a : Ascent) (v : Int) (drawn : Integral) : Prop where
  type_eq : drawn.type = a.type
  initial_le : a.initial ≤ drawn.val
  le : drawn.val + a.increment ≤ v

variable {a : Ascent} {v w : Int} {drawn : Integral}

theorem Passed.mono (h : a.Passed v drawn) (hle : v ≤ w) : a.Passed w drawn where
  type_eq := h.type_eq
  initial_le := h.initial_le
  le := Int.le_trans h.le hle

theorem Reached.passed (h : a.Reached drawn.val) (htype : drawn.type = a.type) :
    a.Passed (drawn.val + a.increment) drawn where
  type_eq := htype
  initial_le := by
    have hpos := a.increment_pos
    have hascended := h.ascended
    omega
  le := Int.le_refl _

theorem Reached.next (h : a.Reached v) (hfit : a.type.Contains (v + a.increment)) :
    a.Reached (v + a.increment) where
  contains := hfit
  ascended := by
    have hpos := a.increment_pos
    have hascended := h.ascended
    omega

end Ascent

variable {a : Ascent} {v w : Int} {t : Tenant}

/-- The pool ends at a value that has been passed, and has handed out no identifier above it. -/
structure Pool.Within (a : Ascent) (v : Int) (pool : Pool) : Prop where
  hi : a.Passed v pool.hi
  next_type : pool.next.type = a.type
  next_le : pool.next.val ≤ pool.hi.val + 1

theorem Pool.Within.mono {pool : Pool} (h : pool.Within a v) (hle : v ≤ w) : pool.Within a w where
  hi := h.hi.mono hle
  next_type := h.next_type
  next_le := h.next_le

theorem Pool.Within.exists_increment {pool : Pool} (h : pool.Within a v)
    (hv : a.type.Contains v) (hle : pool.next.val ≤ pool.hi.val) :
    ∃ next, pool.next.increment = .ok next ∧ { pool with next }.Within a v := by
  have hpos := a.increment_pos
  have hpassed := h.hi.le
  have hlow : pool.next.type.min ≤ pool.next.val := pool.next.inRange.1
  have hhigh : v ≤ pool.next.type.max := h.next_type ▸ hv.2
  obtain ⟨next, hnext, htype, hval⟩ : ∃ b, pool.next.increment = .ok b ∧
      b.type = pool.next.type ∧ b.val = pool.next.val + 1 :=
    Integral.exists_checked ⟨by omega, by omega⟩
  refine ⟨next, hnext, h.hi, htype.trans h.next_type, ?_⟩
  show next.val ≤ pool.hi.val + 1
  omega

namespace Pooled

/-- The policy pools the values of the ascent, and all its pools end at values that have been
passed. -/
structure Within (a : Ascent) (v : Int) (p : Pooled) : Prop where
  increment_eq : p.increment = a.increment
  initial_eq : p.initial = some a.initial
  pools : ∀ t pool, p.pools.get? t = some pool → pool.Within a v

/-- An outcome that is no failure: what it holds and what the pools end at has been passed. -/
def Succeeds (a : Ascent) (v : Int) : Outcome Pooled → Prop
  | .draw held => ∀ first, held = some first → a.Passed v first
  | .answer (.ok _) p => p.Within a v
  | .answer (.error _) _ => False

theorem not_succeeds_of_error {outcome : Outcome Pooled} {e : Error} {o : Optimizer}
    (h : outcome.map Optimizer.pooled = .answer (.error e) o) : ¬ Succeeds a v outcome := by
  rcases outcome with held | ⟨e' | b, q⟩
  · cases h
  · exact id
  · cases h

variable {p : Pooled} {pool : Pool} {first drawn : Integral} {held : Option Integral}

theorem Within.mono (h : p.Within a v) (hle : v ≤ w) : p.Within a w where
  increment_eq := h.increment_eq
  initial_eq := h.initial_eq
  pools t pool hpool := (h.pools t pool hpool).mono hle

theorem Within.exists_serve (h : p.Within a v) (hv : a.type.Contains v) (hpool : pool.Within a v)
    (hle : pool.next.val ≤ pool.hi.val) :
    ∃ q, p.serve t pool = .answer (.ok pool.next) q ∧ q.Within a v := by
  obtain ⟨next, hnext, hwithin⟩ := hpool.exists_increment hv hle
  refine ⟨{ p with pools := p.pools.set t { pool with next } }, by simp only [serve, hnext],
    h.increment_eq, h.initial_eq, fun u pool' hpool' => ?_⟩
  rw [Keyed.get?_set] at hpool'
  split at hpool'
  · cases hpool'
    exact hwithin
  · exact h.pools u pool' hpool'

/-- **A call of a tenant whose pool is not used up** is answered at once. -/
theorem Within.exists_opening (h : p.Within a v) (hv : a.type.Contains v)
    (hpool : p.pools.get? t = some pool) (hle : pool.next.val ≤ pool.hi.val) :
    ∃ q, p.opening t = .answer (.ok pool.next) q ∧ q.Within a v := by
  obtain ⟨q, hserve, hq⟩ := h.exists_serve (t := t) hv (h.pools t pool hpool) hle
  refine ⟨q, ?_, hq⟩
  rw [← hserve]
  simp only [opening, hpool]
  exact if_neg (Int.not_lt.mpr hle)

/-- **What a call does at first** does not fail. -/
theorem opening_succeeds (h : p.Within a v) (hv : a.type.Contains v) :
    Succeeds a v (p.opening t) := by
  cases hpool : p.pools.get? t with
  | none =>
    simp only [opening, hpool]
    exact fun _ hfirst => nomatch hfirst
  | some pool =>
    by_cases hlt : pool.hi.val < pool.next.val
    · simp only [opening, hpool, if_pos hlt]
      exact fun _ hfirst => nomatch hfirst
    · obtain ⟨q, hopening, hq⟩ := h.exists_opening hv hpool (Int.not_lt.mp hlt)
      rw [hopening]
      exact hq

theorem Within.exists_poolBelow (h : p.Within a w) (hdrawn : a.Passed v drawn)
    (hlow : a.initial + a.increment ≤ drawn.val) : ∃ pool, p.poolBelow drawn = .ok pool ∧
      pool.Within a v ∧ pool.next.val ≤ pool.hi.val := by
  have hpos := a.increment_pos
  have hincrement := h.increment_eq
  have hmin := a.contains_initial.1
  have hmax : drawn.val ≤ a.type.max := hdrawn.type_eq ▸ drawn.inRange.2
  have hcontains : drawn.type.Contains (drawn.val - (p.increment - 1)) := by
    rw [hdrawn.type_eq]
    exact ⟨by omega, by omega⟩
  obtain ⟨next, hnext, htype, hval⟩ : ∃ b, drawn.subtract (p.increment - 1) = .ok b ∧
      b.type = drawn.type ∧ b.val = drawn.val - (p.increment - 1) :=
    Integral.exists_checked hcontains
  refine ⟨{ hi := drawn, next }, ?_, ⟨hdrawn, htype.trans hdrawn.type_eq, ?_⟩, ?_⟩
  · rw [poolBelow, hnext]
    rfl
  · show next.val ≤ drawn.val + 1
    omega
  · show next.val ≤ drawn.val
    omega

theorem Within.exists_poolFrom (h : p.Within a w) (hfirst : a.Passed drawn.val first)
    (hdrawn : a.Passed v drawn) : ∃ pool, p.poolFrom first drawn = .ok pool ∧
      pool.Within a v ∧ pool.next.val ≤ pool.hi.val := by
  have hpos := a.increment_pos
  have hle := hfirst.le
  have hlow := hfirst.initial_le
  by_cases hfollows : drawn.val = first.val + p.increment
  · refine ⟨_, poolFrom_eq (hfirst.type_eq.trans hdrawn.type_eq.symm) hfollows,
      ⟨hdrawn, hfirst.type_eq, ?_⟩, ?_⟩
    · show first.val ≤ drawn.val + 1
      omega
    · show first.val ≤ drawn.val
      omega
  · rw [poolFrom_of_ne hfollows]
    exact h.exists_poolBelow hdrawn (by omega)

theorem Within.serveNew_succeeds (h : p.Within a v) (hv : a.type.Contains v)
    {pool? : Except Error Pool} (hpool : ∃ pool, pool? = .ok pool ∧ pool.Within a v ∧
      pool.next.val ≤ pool.hi.val) : Succeeds a v (p.serveNew t pool?) := by
  obtain ⟨pool, rfl, hwithin, hle⟩ := hpool
  obtain ⟨q, hserve, hq⟩ := h.exists_serve (t := t) hv hwithin hle
  rw [serveNew, hserve]
  exact hq

/-- **What a call does with a value** of the counter does not fail. A value that is not held for the
second one makes the pool below it. It is not the initial value then, since that one would be held,
or has been passed by the pool before. -/
theorem take_succeeds (h : p.Within a drawn.val) (hreached : a.Reached drawn.val)
    (htype : drawn.type = a.type) (hfit : a.type.Contains (drawn.val + a.increment))
    (hheld : ∀ first, held = some first → a.Passed drawn.val first) :
    Succeeds a (drawn.val + a.increment) (p.take t held drawn) := by
  have hpos := a.increment_pos
  have hnext : p.Within a (drawn.val + a.increment) := h.mono (by omega)
  have hpassed := hreached.passed htype
  cases held with
  | some first => exact hnext.serveNew_succeeds hfit (h.exists_poolFrom (hheld first rfl) hpassed)
  | none =>
    by_cases hfresh : ((p.pools.get? t).isNone && p.isFresh drawn) = true
    · simp only [take, hfresh, if_true]
      rintro _ ⟨⟩
      exact hpassed
    · simp only [take, hfresh]
      refine hnext.serveNew_succeeds hfit (h.exists_poolBelow hpassed ?_)
      cases hpool : p.pools.get? t with
      | none =>
        have hne : drawn.val ≠ a.initial := fun heq => hfresh (by
          rw [hpool, isFresh, h.initial_eq]
          simpa using heq)
        exact hreached.ascended.resolve_left hne
      | some pool =>
        have hhi := (h.pools t pool hpool).hi
        have hle := hhi.le
        have hlow := hhi.initial_le
        omega

end Pooled

end CounterTable
