import CounterTable.Blocks.Optimizer
import CounterTable.Proofs.Number.Integral

/-!
# What block policies hand out

A tenant of an optimizer holds the identifiers of its block that are left. A call hands out one of
them, or one that a value of the counter stands for, and the tenant then holds the rest. What a value
stands for depends on the policy only: the identifiers between two marks that the value and the next
one set.

* `OptimizerKind.stride`, `OptimizerKind.reach`: how the counter moves, and the marks;
* `Optimizer.Holds`: the identifiers that a tenant holds;
* `Outcome.Serves`: an outcome that hands out what a tenant holds or what is new;
* **`Optimizer.opening_serves`**, **`Optimizer.take_serves`**: all outcomes do.
-/

namespace CounterTable

/-! ## Policies -/

namespace OptimizerKind

/-- How far an allocation moves the row. -/
def stride (k : OptimizerKind) (increment : Int) : Int :=
  match k with
  | plain => increment
  | hilo => 1
  | pooled => increment

/-- The mark of a value: all identifiers that earlier values stand for lie at or below it. -/
def reach (k : OptimizerKind) (increment v : Int) : Int :=
  match k with
  | plain => v - 1
  | hilo => (v - 1) * increment
  | pooled => v - increment

/-- The identifiers that a value stands for. -/
def Block (k : OptimizerKind) (increment v n : Int) : Prop :=
  k.reach increment v < n ∧ n ≤ k.reach increment (v + k.stride increment)

theorem reach_le (k : OptimizerKind) {increment : Int} (h : 1 ≤ increment) (v : Int) :
    k.reach increment v ≤ k.reach increment (v + k.stride increment) := by
  cases k with
  | plain =>
    simp only [reach, stride]
    omega
  | hilo =>
    simp only [reach, stride]
    have hsplit : (v + 1 - 1) * increment = (v - 1) * increment + increment := by
      rw [show v + 1 - 1 = (v - 1) + 1 by omega, Int.add_mul, Int.one_mul]
    omega
  | pooled =>
    simp only [reach, stride]
    omega

end OptimizerKind

/-! ## Holdings -/

/-- The identifiers of its block that a tenant has left. -/
def HiLo.Holds (p : HiLo) (t : Tenant) (n : Int) : Prop :=
  ∃ b, p.blocks.get? t = some b ∧ b.next.val ≤ n ∧ n < b.limit.val

/-- The identifiers of its pool that a tenant has left. -/
def Pooled.Holds (p : Pooled) (t : Tenant) (n : Int) : Prop :=
  ∃ b, p.pools.get? t = some b ∧ b.next.val ≤ n ∧ n ≤ b.hi.val

namespace Optimizer

/-- The identifiers that a tenant has left. -/
def Holds (o : Optimizer) (t : Tenant) (n : Int) : Prop :=
  match o with
  | plain _ => False
  | hilo p => p.Holds t n
  | pooled p => p.Holds t n

/-- The policy of the optimizer. -/
def kind : Optimizer → OptimizerKind
  | plain _ => .plain
  | hilo _ => .hilo
  | pooled _ => .pooled

end Optimizer

/-- An outcome for a tenant hands out an identifier that the tenant holds or that comes from a source;
then the tenant holds what it held or what comes from the source, but for the identifier, and the
others hold what they held. A call that draws again may keep something from the source. -/
def Outcome.Serves (o : Optimizer) (t : Tenant) (source : Int → Prop) : Outcome Optimizer → Prop
  | .draw held => ∀ h, held = some h → source h.val
  | .answer (.error _) o' => o' = o
  | .answer (.ok a) o' =>
    (o'.kind = o.kind ∧ o'.increment = o.increment) ∧ (o.Holds t a.val ∨ source a.val) ∧
      ∀ u n, o'.Holds u n → (u ≠ t ∧ o.Holds u n) ∨
        (u = t ∧ n ≠ a.val ∧ (o.Holds t n ∨ source n))

/-! ## Outcomes -/

variable {t : Tenant} {source : Int → Prop}

namespace HiLo

variable {p : HiLo}

theorem serve_serves {b : HiLoBlock} (hlt : b.next.val < b.limit.val)
    (hb : ∀ n, b.next.val ≤ n → n < b.limit.val → p.Holds t n ∨ source n) :
    ((p.serve t b).map Optimizer.hilo).Serves (.hilo p) t source := by
  unfold serve
  cases hn : b.next.increment with
  | error e => rfl
  | ok next =>
    have hnext := Integral.val_increment hn
    refine ⟨⟨rfl, rfl⟩, hb _ (Int.le_refl _) hlt, fun u n hold => ?_⟩
    obtain ⟨b', hb', hlow, hhigh⟩ := hold
    rw [Keyed.get?_set] at hb'
    by_cases hu : u = t
    · subst hu
      rw [if_pos (beq_self_eq_true u), Option.some.injEq] at hb'
      subst hb'
      have hlow' : next.val ≤ n := hlow
      exact .inr ⟨rfl, by omega, hb n (by omega) hhigh⟩
    · rw [if_neg (by simpa using hu)] at hb'
      exact .inl ⟨hu, b', hb', hlow, hhigh⟩

theorem opening_serves : ((p.opening t).map Optimizer.hilo).Serves (.hilo p) t source := by
  unfold opening
  cases hb : p.blocks.get? t with
  | none => exact fun h hh => nomatch hh
  | some b =>
    dsimp only
    split
    · next hlt => exact serve_serves hlt fun n hlow hhigh => .inl ⟨b, hb, hlow, hhigh⟩
    · exact fun h hh => nomatch hh

theorem val_block {drawn : Integral} {b : HiLoBlock} (h : p.block drawn = .ok b) :
    b.limit.val = drawn.val * p.increment + 1 ∧ b.next.val = b.limit.val - p.increment := by
  obtain ⟨product, hproduct, h⟩ := exists_of_bind_eq_ok h
  obtain ⟨limit, hlimit, h⟩ := exists_of_bind_eq_ok h
  obtain ⟨next, hnext, h⟩ := exists_of_bind_eq_ok h
  cases h
  refine ⟨?_, Integral.val_subtract hnext⟩
  rw [Integral.val_increment hlimit, Integral.val_multiply hproduct]

theorem take_serves {drawn : Integral}
    (hs : ∀ n, OptimizerKind.hilo.Block p.increment drawn.val n → source n) :
    ((p.take t drawn).map Optimizer.hilo).Serves (.hilo p) t source := by
  unfold take
  split
  · exact fun h hh => nomatch hh
  · cases hb : p.block drawn with
    | error e => rfl
    | ok b =>
      obtain ⟨hlimit, hnext⟩ := val_block hb
      have hpos := p.increment_pos
      refine serve_serves (by omega) fun n hlow hhigh => .inr (hs n ?_)
      have hsplit : (drawn.val - 1) * p.increment = drawn.val * p.increment - p.increment := by
        rw [Int.sub_mul, Int.one_mul]
      simp only [OptimizerKind.Block, OptimizerKind.reach, OptimizerKind.stride,
        Int.add_sub_cancel]
      omega

end HiLo

namespace Pooled

variable {p : Pooled}

theorem serve_serves {b : Pool} (hle : b.next.val ≤ b.hi.val)
    (hb : ∀ n, b.next.val ≤ n → n ≤ b.hi.val → p.Holds t n ∨ source n) :
    ((p.serve t b).map Optimizer.pooled).Serves (.pooled p) t source := by
  unfold serve
  cases hn : b.next.increment with
  | error e => rfl
  | ok next =>
    have hnext := Integral.val_increment hn
    refine ⟨⟨rfl, rfl⟩, hb _ (Int.le_refl _) hle, fun u n hold => ?_⟩
    obtain ⟨b', hb', hlow, hhigh⟩ := hold
    rw [Keyed.get?_set] at hb'
    by_cases hu : u = t
    · subst hu
      rw [if_pos (beq_self_eq_true u), Option.some.injEq] at hb'
      subst hb'
      have hlow' : next.val ≤ n := hlow
      exact .inr ⟨rfl, by omega, hb n (by omega) hhigh⟩
    · rw [if_neg (by simpa using hu)] at hb'
      exact .inl ⟨hu, b', hb', hlow, hhigh⟩

theorem opening_serves : ((p.opening t).map Optimizer.pooled).Serves (.pooled p) t source := by
  unfold opening
  cases hb : p.pools.get? t with
  | none => exact fun h hh => nomatch hh
  | some b =>
    dsimp only
    split
    · exact fun h hh => nomatch hh
    · next hlt =>
      exact serve_serves (by omega) fun n hlow hhigh => .inl ⟨b, hb, hlow, hhigh⟩

theorem val_poolBelow {drawn : Integral} {b : Pool} (h : p.poolBelow drawn = .ok b) :
    b.hi = drawn ∧ b.next.val = drawn.val - (p.increment - 1) := by
  obtain ⟨next, hnext, h⟩ := exists_of_bind_eq_ok h
  cases h
  exact ⟨rfl, Integral.val_subtract hnext⟩

theorem val_poolFrom {first drawn : Integral} {b : Pool} (h : p.poolFrom first drawn = .ok b) :
    b.hi = drawn ∧ (b.next.val = drawn.val - (p.increment - 1) ∨
      b.next = first ∧ first.val = drawn.val - p.increment) := by
  unfold poolFrom at h
  cases hexpected : first.add p.increment with
  | error e =>
    rw [hexpected] at h
    obtain ⟨hhi, hnext⟩ := val_poolBelow h
    exact ⟨hhi, .inl hnext⟩
  | ok expected =>
    rw [hexpected] at h
    have hval := Integral.val_add hexpected
    dsimp only at h
    split at h
    · next heq =>
      cases h
      exact ⟨rfl, .inr ⟨rfl, by rw [← heq]; omega⟩⟩
    · obtain ⟨hhi, hnext⟩ := val_poolBelow h
      exact ⟨hhi, .inl hnext⟩

theorem serveNew_serves {b : Except Error Pool}
    (hb : ∀ pool, b = .ok pool → pool.next.val ≤ pool.hi.val ∧
      ∀ n, pool.next.val ≤ n → n ≤ pool.hi.val → source n) :
    ((p.serveNew t b).map Optimizer.pooled).Serves (.pooled p) t source := by
  cases b with
  | error e => rfl
  | ok pool =>
    obtain ⟨hle, hsource⟩ := hb pool rfl
    exact serve_serves hle fun n hlow hhigh => .inr (hsource n hlow hhigh)

theorem take_serves {held : Option Integral} {drawn : Integral}
    (hh : ∀ first, held = some first → source first.val)
    (hs : ∀ n, OptimizerKind.pooled.Block p.increment drawn.val n → source n) :
    ((p.take t held drawn).map Optimizer.pooled).Serves (.pooled p) t source := by
  have hpos := p.increment_pos
  simp only [OptimizerKind.Block, OptimizerKind.reach, OptimizerKind.stride,
    Int.add_sub_cancel] at hs
  unfold take
  cases held with
  | some first =>
    refine serveNew_serves fun pool hpool => ?_
    obtain ⟨hhi, hnext | ⟨hnext, hfirst⟩⟩ := val_poolFrom hpool
    · rw [hhi]
      exact ⟨by omega, fun n hlow hhigh => hs n (by omega)⟩
    · rw [hhi, hnext]
      refine ⟨by omega, fun n hlow hhigh => ?_⟩
      by_cases hn : n = first.val
      · rw [hn]
        exact hh first rfl
      · exact hs n (by omega)
  | none =>
    dsimp only
    split
    · intro h hd
      cases hd
      exact hs _ (by omega)
    · refine serveNew_serves fun pool hpool => ?_
      obtain ⟨hhi, hnext⟩ := val_poolBelow hpool
      rw [hhi]
      exact ⟨by omega, fun n hlow hhigh => hs n (by omega)⟩

end Pooled

namespace Optimizer

variable {o : Optimizer}

/-- **A call that does not draw** hands out what the tenant holds. -/
theorem opening_serves (o : Optimizer) (t : Tenant) (source : Int → Prop) :
    (o.opening t).Serves o t source := by
  cases o with
  | plain p => exact fun h hh => nomatch hh
  | hilo p => exact HiLo.opening_serves
  | pooled p => exact Pooled.opening_serves

/-- **A call that has drawn** hands out what the value stands for, or what the call has kept from an
earlier draw. -/
theorem take_serves (o : Optimizer) (t : Tenant) {held : Option Integral} {drawn : Integral}
    (hh : ∀ first, held = some first → source first.val)
    (hs : ∀ n, o.kind.Block o.increment drawn.val n → source n) :
    (o.take t held drawn).Serves o t source := by
  cases o with
  | plain p =>
    have hpos := p.increment_pos
    refine ⟨⟨rfl, rfl⟩, .inr (hs _ ?_), fun u n hold => hold.elim⟩
    simp only [OptimizerKind.Block, OptimizerKind.reach, OptimizerKind.stride, kind, increment]
    omega
  | hilo p => exact HiLo.take_serves hs
  | pooled p => exact Pooled.take_serves hh hs

end Optimizer

end CounterTable
