import CounterTable.Proofs.Blocks.Outcomes
import Mathlib.Tactic.Linarith
import Mathlib.Tactic.LinearCombination
import Mathlib.Tactic.Ring

/-!
# What a block policy yields from an undisturbed counter

Where nobody else draws from a counter, its values follow each other, and the number of identifiers
that a tenant has been answered determines the next one. It also determines how many values the
counter has yielded: a block is drawn when the one before is used up, and not earlier.

* `OptimizerKind.identifier`, `OptimizerKind.accesses`: the identifiers in their order, and how many
  values they take;
* `Optimizer.Rests`, `Optimizer.Awaits`: where the tenant stands between two calls and where a call
  draws, after so many answers and so many values;
* `Outcome.Supplies`: an outcome that answers the next identifier, or draws the next value;
* **`Optimizer.opening_supplies`**, **`Optimizer.take_supplies`**: all outcomes do;
* **`Optimizer.Rests.draws_eq`**: how many values were drawn.
-/

namespace CounterTable

/-! ## The identifiers -/

/-- The quotient of two integers, rounded up. -/
def ceilQuotient (a b : Int) : Int := (a + (b - 1)) / b

theorem ceilQuotient_eq {a b q : Int} (hlow : (q - 1) * b < a) (hhigh : a ≤ q * b) :
    ceilQuotient a b = q := by
  have hsplit : (q - 1) * b = q * b - b := by rw [Int.sub_mul, Int.one_mul]
  have hpos : 0 < b := by omega
  refine le_antisymm (Int.lt_add_one_iff.mp (Int.ediv_lt_of_lt_mul hpos ?_))
    ((Int.le_ediv_iff_mul_le hpos).mpr (by omega))
  rw [Int.add_mul, Int.one_mul]
  omega

namespace OptimizerKind

/-- The identifiers that an undisturbed counter yields from its initial value on. -/
def identifier (k : OptimizerKind) (increment initial : Int) (j : Nat) : Int :=
  match k with
  | plain => initial + j * increment
  | hilo => (max initial 1 - 1) * increment + 1 + j
  | pooled => initial + j

/-- How many values of the counter so many identifiers take. -/
def accesses (k : OptimizerKind) (increment initial : Int) (calls : Nat) : Int :=
  if calls = 0 then 0
  else match k with
    | plain => calls
    | hilo => (max initial 1 - initial) + ceilQuotient calls increment
    | pooled =>
      if calls ≤ increment + 1 then 2 else 2 + ceilQuotient (calls - increment - 1) increment

end OptimizerKind

/-! ## Between calls, and while one draws -/

/-- A block of which identifiers have been handed out, the last value drawn being its own. -/
structure HiLoBlock.At (b : HiLoBlock) (increment initial : Int) (calls draws : Nat) : Prop where
  answered : 0 < calls
  next : b.next.val = OptimizerKind.hilo.identifier increment initial calls
  limit : b.limit.val = (initial + draws - 1) * increment + 1
  begun : b.limit.val - increment < b.next.val
  next_le : b.next.val ≤ b.limit.val

/-- A pool of which identifiers have been handed out, the last value drawn being its own. The first
pool takes two values. -/
structure Pool.At (b : Pool) (increment initial : Int) (calls draws : Nat) : Prop where
  answered : 0 < calls
  next : b.next.val = OptimizerKind.pooled.identifier increment initial calls
  hi : b.hi.val = initial + (draws - 1) * increment
  begun : draws = 2 ∨ 2 < draws ∧ b.hi.val - increment + 1 < b.next.val
  next_le : b.next.val ≤ b.hi.val + 1

namespace Optimizer

/-- Where a tenant stands that has been answered and has drawn so often, and makes no call. -/
def Rests (o : Optimizer) (t : Tenant) (initial : Int) (calls draws : Nat) : Prop :=
  match o with
  | plain _ => draws = calls
  | hilo p => (p.blocks.get? t = none ∧ calls = 0 ∧ draws = 0) ∨
    ∃ b, p.blocks.get? t = some b ∧ b.At p.increment initial calls draws
  | pooled p => p.initial = some initial ∧ ((p.pools.get? t = none ∧ calls = 0 ∧ draws = 0) ∨
    ∃ b, p.pools.get? t = some b ∧ b.At p.increment initial calls draws)

/-- Where a tenant stands whose call draws one more value, and what the call holds: values below 1
are skipped before the first block, and the first pool holds the first value. -/
def Awaits (o : Optimizer) (t : Tenant) (type : NumberType) (initial : Int) (calls draws : Nat)
    (held : Option Integral) : Prop :=
  match o with
  | plain _ => draws = calls
  | hilo p => (p.blocks.get? t = none ∧ calls = 0 ∧ (draws = 0 ∨ initial + draws ≤ 1)) ∨
    ∃ b, p.blocks.get? t = some b ∧ b.At p.increment initial calls draws ∧
      b.next.val = b.limit.val
  | pooled p => p.initial = some initial ∧
    ((p.pools.get? t = none ∧ calls = 0 ∧ draws = 0 ∧ held = none) ∨
      (p.pools.get? t = none ∧ calls = 0 ∧ draws = 1 ∧
        ∃ first, held = some first ∧ first.type = type ∧ first.val = initial) ∨
      ∃ b, p.pools.get? t = some b ∧ held = none ∧ b.At p.increment initial calls draws ∧
        b.next.val = b.hi.val + 1)

end Optimizer

/-- An outcome for a tenant that has been answered and has drawn so often: it answers the next
identifier, or it draws the next value. -/
def Outcome.Supplies (o : Optimizer) (t : Tenant) (type : NumberType) (initial : Int)
    (calls draws : Nat) : Outcome Optimizer → Prop
  | .draw held => o.Awaits t type initial calls draws held
  | .answer (.error _) _ => True
  | .answer (.ok a) o' => (o'.kind = o.kind ∧ o'.increment = o.increment) ∧
    a.val = o.kind.identifier o.increment initial calls ∧ o'.Rests t initial (calls + 1) draws

/-! ## Outcomes -/

variable {t : Tenant} {type : NumberType} {initial : Int} {calls draws : Nat}

namespace HiLo

variable {p : HiLo}

theorem serve_supplies {b : HiLoBlock}
    (hnext : b.next.val = OptimizerKind.hilo.identifier p.increment initial calls)
    (hlimit : b.limit.val = (initial + draws - 1) * p.increment + 1)
    (hlow : b.limit.val - p.increment ≤ b.next.val) (hlt : b.next.val < b.limit.val) :
    ((p.serve t b).map Optimizer.hilo).Supplies (.hilo p) t type initial calls draws := by
  unfold serve
  cases hn : b.next.increment with
  | error e => trivial
  | ok next =>
    have hval := Integral.val_increment hn
    refine ⟨⟨rfl, rfl⟩, hnext, .inr ⟨{ b with next }, by simp, ?_⟩⟩
    refine ⟨Nat.succ_pos _, ?_, hlimit, ?_, ?_⟩
    · show next.val = _
      rw [hval, hnext]
      simp only [OptimizerKind.identifier]
      omega
    · show b.limit.val - p.increment < next.val
      omega
    · show next.val ≤ b.limit.val
      omega

theorem opening_supplies (h : (Optimizer.hilo p).Rests t initial calls draws) :
    ((p.opening t).map Optimizer.hilo).Supplies (.hilo p) t type initial calls draws := by
  unfold opening
  obtain ⟨hb, hcalls, hdraws⟩ | ⟨b, hb, hat⟩ := h
  · simp only [hb]
    exact .inl ⟨hb, hcalls, .inl hdraws⟩
  · simp only [hb]
    split
    · next hlt => exact serve_supplies hat.next hat.limit (Int.le_of_lt hat.begun) hlt
    · next hlt =>
      have hle := hat.next_le
      exact .inr ⟨b, hb, hat, by omega⟩

theorem take_supplies {held : Option Integral}
    (h : (Optimizer.hilo p).Awaits t type initial calls draws held) {drawn : Integral}
    (hval : drawn.val = initial + draws) :
    ((p.take t drawn).map Optimizer.hilo).Supplies (.hilo p) t type initial calls (draws + 1) := by
  have hpos := p.increment_pos
  unfold take
  split
  · next hskip =>
    obtain ⟨hb, hcalls, -⟩ | ⟨b, hb, hat, hend⟩ := h
    · exact .inl ⟨hb, hcalls, .inr (by push_cast; omega)⟩
    · -- The block that is used up ends at or above 1, so the value after its own does as well.
      have hnext := hat.next
      have hlimit := hat.limit
      have hbegun := hat.begun
      simp only [OptimizerKind.identifier] at hnext
      have hmax : 0 ≤ (max initial 1 - 1) * p.increment :=
        Int.mul_nonneg (by omega) (by omega)
      have hneg : (initial + draws - 1) * p.increment ≤ 0 :=
        Int.mul_nonpos_of_nonpos_of_nonneg (by omega) (by omega)
      have hanswered := hat.answered
      omega
  · next hskip =>
    cases hb : p.block drawn with
    | error e => trivial
    | ok b =>
      obtain ⟨hlimit, hnext⟩ := val_block hb
      have hbound : b.limit.val = (initial + (draws + 1 : Nat) - 1) * p.increment + 1 := by
        rw [hlimit, hval]
        push_cast
        ring
      refine serve_supplies ?_ hbound (by omega) (by omega)
      rw [hnext, hlimit, hval, OptimizerKind.identifier]
      obtain ⟨-, rfl, hdraws⟩ | ⟨b', -, hat, hend⟩ := h
      · have hfirst : max initial 1 = initial + draws := by omega
        rw [hfirst]
        push_cast
        ring
      · have hold := hat.next
        rw [hend, hat.limit, OptimizerKind.identifier] at hold
        linear_combination hold

end HiLo

namespace Pooled

variable {p : Pooled}

theorem serve_supplies {b : Pool} (hinitial : p.initial = some initial)
    (hnext : b.next.val = OptimizerKind.pooled.identifier p.increment initial calls)
    (hhi : b.hi.val = initial + (draws - 1) * p.increment)
    (hlow : draws = 2 ∨ 2 < draws ∧ b.hi.val - p.increment < b.next.val)
    (hle : b.next.val ≤ b.hi.val) :
    ((p.serve t b).map Optimizer.pooled).Supplies (.pooled p) t type initial calls draws := by
  unfold serve
  cases hn : b.next.increment with
  | error e => trivial
  | ok next =>
    have hval := Integral.val_increment hn
    refine ⟨⟨rfl, rfl⟩, hnext, hinitial, .inr ⟨{ b with next }, by simp, ?_⟩⟩
    refine ⟨Nat.succ_pos _, ?_, hhi, ?_, ?_⟩
    · show next.val = _
      rw [hval, hnext]
      simp only [OptimizerKind.identifier]
      omega
    · show draws = 2 ∨ 2 < draws ∧ b.hi.val - p.increment + 1 < next.val
      omega
    · show next.val ≤ b.hi.val + 1
      omega

theorem opening_supplies (h : (Optimizer.pooled p).Rests t initial calls draws) :
    ((p.opening t).map Optimizer.pooled).Supplies (.pooled p) t type initial calls draws := by
  obtain ⟨hinitial, h⟩ := h
  unfold opening
  obtain ⟨hb, hcalls, hdraws⟩ | ⟨b, hb, hat⟩ := h
  · simp only [hb]
    exact ⟨hinitial, .inl ⟨hb, hcalls, hdraws, rfl⟩⟩
  · simp only [hb]
    have hle := hat.next_le
    split
    · next hlt => exact ⟨hinitial, .inr (.inr ⟨b, hb, rfl, hat, by omega⟩)⟩
    · next hlt =>
      have hbegun := hat.begun
      exact serve_supplies hinitial hat.next hat.hi (by omega) (by omega)

theorem serveNew_supplies {b : Except Error Pool} (hinitial : p.initial = some initial)
    (hb : ∀ pool, b = .ok pool →
      pool.next.val = OptimizerKind.pooled.identifier p.increment initial calls ∧
      pool.hi.val = initial + (draws - 1) * p.increment ∧
      (draws = 2 ∨ 2 < draws ∧ pool.hi.val - p.increment < pool.next.val) ∧
      pool.next.val ≤ pool.hi.val) :
    ((p.serveNew t b).map Optimizer.pooled).Supplies (.pooled p) t type initial calls draws := by
  cases b with
  | error e => trivial
  | ok pool =>
    obtain ⟨hnext, hhi, hlow, hle⟩ := hb pool rfl
    exact serve_supplies hinitial hnext hhi hlow hle

theorem poolFrom_eq {first drawn : Integral} (htype : first.type = drawn.type)
    (hval : drawn.val = first.val + p.increment) :
    p.poolFrom first drawn = .ok { hi := drawn, next := first } := by
  have hadd : first.add p.increment = .ok drawn := by
    rw [Integral.add, Integral.checked,
      Integral.ofInt?_eq_some_iff.mpr ⟨htype.symm, hval⟩]
  rw [poolFrom, hadd]
  exact if_pos rfl

theorem poolFrom_of_ne {first second : Integral} (h : second.val ≠ first.val + p.increment) :
    p.poolFrom first second = p.poolBelow second := by
  unfold poolFrom
  cases hexpected : first.add p.increment with
  | error e => rfl
  | ok expected =>
    have hval := Integral.val_add hexpected
    refine if_neg fun heq => h ?_
    rw [← heq, hval]

theorem take_supplies {held : Option Integral}
    (h : (Optimizer.pooled p).Awaits t type initial calls draws held) {drawn : Integral}
    (htype : drawn.type = type) (hval : drawn.val = initial + p.increment * draws) :
    ((p.take t held drawn).map Optimizer.pooled).Supplies (.pooled p) t type initial calls
      (draws + 1) := by
  have hpos := p.increment_pos
  obtain ⟨hinitial, h⟩ := h
  unfold take
  obtain ⟨hb, rfl, rfl, rfl⟩ | ⟨hb, rfl, rfl, first, rfl, hfirst, hfirstVal⟩ |
    ⟨b, hb, rfl, hat, hend⟩ := h
  · -- The first value is the initial one, and is held.
    have hfresh : p.isFresh drawn = true := by
      rw [isFresh, hinitial]
      simpa using hval
    simp only [hb, hfresh, Option.isNone_none, Bool.and_self, if_true]
    refine ⟨hinitial, .inr (.inl ⟨hb, rfl, rfl, drawn, rfl, htype, by simpa using hval⟩)⟩
  · refine serveNew_supplies hinitial fun pool hpool => ?_
    have hnext : drawn.val = first.val + p.increment := by
      rw [hval, hfirstVal]
      simp
    rw [poolFrom_eq (hfirst.trans htype.symm) hnext] at hpool
    cases hpool
    refine ⟨by simp [hfirstVal, OptimizerKind.identifier], ?_, .inl rfl, ?_⟩
    · simpa using hval
    · show first.val ≤ drawn.val
      omega
  · have hsome : (p.pools.get? t).isNone = false := by rw [hb]; rfl
    simp only [hsome, Bool.false_and, Bool.false_eq_true, if_false]
    have hbegun := hat.begun
    refine serveNew_supplies hinitial fun pool hpool => ?_
    obtain ⟨hhi, hnext⟩ := val_poolBelow hpool
    have hold := hat.next
    rw [hend, hat.hi] at hold
    rw [hhi, hnext, hval]
    refine ⟨?_, by push_cast; ring, .inr ⟨by omega, by omega⟩, by omega⟩
    simp only [OptimizerKind.identifier] at hold ⊢
    linear_combination hold

end Pooled

namespace Optimizer

variable {o : Optimizer}

/-- **A call that does not draw** answers the next identifier. -/
theorem opening_supplies (h : o.Rests t initial calls draws) (type : NumberType) :
    (o.opening t).Supplies o t type initial calls draws := by
  cases o with
  | plain p => exact h
  | hilo p => exact HiLo.opening_supplies h
  | pooled p => exact Pooled.opening_supplies h

/-- **A call that has drawn** the next value answers the next identifier, or draws again. -/
theorem take_supplies {held : Option Integral} (h : o.Awaits t type initial calls draws held)
    {drawn : Integral} (htype : drawn.type = type)
    (hval : drawn.val = initial + o.kind.stride o.increment * draws) :
    (o.take t held drawn).Supplies o t type initial calls (draws + 1) := by
  cases o with
  | plain p =>
    have hdraws : draws = calls := h
    refine ⟨⟨rfl, rfl⟩, ?_, congrArg (· + 1) hdraws⟩
    rw [hval, hdraws]
    simp only [OptimizerKind.identifier, OptimizerKind.stride, kind, increment]
    ring
  | hilo p =>
    refine HiLo.take_supplies h ?_
    rw [hval]
    simp [OptimizerKind.stride, kind]
  | pooled p => exact Pooled.take_supplies h htype hval

theorem rests_of_build {k : OptimizerKind} {increment : Int}
    (h : k.build increment (some initial) = .ok o) (t : Tenant) : o.Rests t initial 0 0 := by
  unfold OptimizerKind.build at h
  split at h
  · cases h
    cases k with
    | plain => rfl
    | hilo => exact .inl ⟨rfl, rfl, rfl⟩
    | pooled => exact ⟨rfl, .inl ⟨rfl, rfl, rfl⟩⟩
  · cases h

/-- **How many values were drawn** for the identifiers that a tenant has been answered. -/
theorem Rests.draws_eq (h : o.Rests t initial calls draws) :
    (draws : Int) = o.kind.accesses o.increment initial calls := by
  unfold OptimizerKind.accesses
  cases o with
  | plain p =>
    have hdraws : draws = calls := h
    subst hdraws
    split
    · next hzero => simp [hzero]
    · rfl
  | hilo p =>
    obtain ⟨-, rfl, rfl⟩ | ⟨b, -, hat⟩ := h
    · rfl
    · have hnext := hat.next
      have hlimit := hat.limit
      have hbegun := hat.begun
      have hle := hat.next_le
      rw [if_neg (Nat.ne_of_gt hat.answered)]
      simp only [OptimizerKind.identifier] at hnext
      -- So many blocks have been begun since the first one.
      have hblocks : (initial + draws - max initial 1) * p.increment =
          (initial + draws - 1) * p.increment - (max initial 1 - 1) * p.increment := by ring
      have hceil : ceilQuotient calls p.increment = initial + draws - max initial 1 := by
        refine ceilQuotient_eq ?_ (by linarith)
        rw [Int.sub_mul, Int.one_mul]
        linarith
      show (draws : Int) = max initial 1 - initial + ceilQuotient calls p.increment
      rw [hceil]
      omega
  | pooled p =>
    obtain ⟨-, ⟨-, rfl, rfl⟩ | ⟨b, -, hat⟩⟩ := h
    · rfl
    · have hpos := p.increment_pos
      have hnext := hat.next
      have hhi := hat.hi
      have hle := hat.next_le
      rw [if_neg (Nat.ne_of_gt hat.answered)]
      simp only [OptimizerKind.identifier] at hnext
      show (draws : Int) = if (calls : Int) ≤ p.increment + 1 then 2
        else 2 + ceilQuotient (calls - p.increment - 1) p.increment
      obtain rfl | ⟨hdraws, hbegun⟩ := hat.begun
      · rw [if_pos (by norm_num at hhi; linarith)]
        rfl
      · -- So many pools have been begun after the first one.
        have hpools : ((draws : Int) - 2) * p.increment =
            (draws - 1) * p.increment - p.increment := by ring
        have hone : 1 * p.increment ≤ ((draws : Int) - 2) * p.increment :=
          Int.mul_le_mul_of_nonneg_right (by omega) (by omega)
        have hceil : ceilQuotient (calls - p.increment - 1) p.increment = draws - 2 := by
          refine ceilQuotient_eq ?_ (by linarith)
          rw [Int.sub_mul, Int.one_mul]
          linarith
        rw [if_neg (by linarith), hceil]
        omega

end Optimizer

end CounterTable
