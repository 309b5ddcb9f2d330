import CounterTable.Allocation.Backend

/-!
# Allocations without observers

The journal of a session and the count of the allocations stand beside the state of a connection,
and nothing that an allocation does depends on them.

* `Work.Projects`, `Connection.Projects`: doing the same on a part of the state;
* `Counter.unobserved`: the next value, without journal and count;
* **`Counter.nextValue_projects`**: the next value does on the database what this does.
-/

namespace CounterTable

variable {σ τ ω α : Type}

/-- The work `v` does on a part of its state what `w` does, and looks at nothing else. -/
def Work.Projects (π : σ → τ) (v : Work σ ω α) (w : Work τ ω α) : Prop :=
  ∀ x s, (v x s).1 = (w x (π s)).1 ∧ π (v x s).2 = (w x (π s)).2

namespace Connection

/-- A connection does on a part of its state what another one does, and looks at nothing else. -/
structure Projects (π : σ → τ) (conn : Connection σ) (part : Connection τ) : Prop where
  inTransaction : ∀ s, conn.inTransaction s = part.inTransaction (π s)
  call : ∀ c s, (conn.call c s).1 = (part.call c (π s)).1 ∧
    π (conn.call c s).2 = (part.call c (π s)).2

variable {π : σ → τ} {conn : Connection σ} {part : Connection τ}

theorem Projects.call_eq (h : Projects π conn part) (c : Call) (s : σ) :
    ∃ s', conn.call c s = ((part.call c (π s)).1, s') ∧ π s' = (part.call c (π s)).2 :=
  ⟨_, Prod.ext (h.call c s).1 rfl, (h.call c s).2⟩

theorem observed_projects (conn : Connection σ) (logger : Logger) :
    Projects Prod.fst (conn.observed logger) conn := ⟨fun _ => rfl, fun _ _ => ⟨rfl, rfl⟩⟩

end Connection

section Machines

variable {π : σ → τ} {conn : Connection σ} {part : Connection τ}

theorem Connection.Projects.allocation (h : conn.Projects π part) (c : Counter) :
    Work.Projects π (c.allocation conn) (c.allocation part) := by
  rintro ⟨n, attempt⟩ s
  cases attempt with
  | preparingRead =>
    obtain ⟨s', hs, hp⟩ := h.call_eq (.prepare c.selectText) s
    simp only [Counter.allocation, hs]
    rcases hr : part.call (.prepare c.selectText) (π s) with ⟨r, t⟩
    rw [hr] at hp
    cases r <;> exact ⟨rfl, hp⟩
  | reading =>
    obtain ⟨s', hs, hp⟩ := h.call_eq .query s
    simp only [Counter.allocation, hs]
    rcases hr : part.call .query (π s) with ⟨r, t⟩
    rw [hr] at hp
    cases r with
    | error e => exact ⟨rfl, hp⟩
    | ok rows =>
      cases hrow : c.readRow rows <;> simp only [hrow] <;> exact ⟨trivial, hp⟩
  | preparingWrite current advanced =>
    obtain ⟨s', hs, hp⟩ := h.call_eq (.prepare c.updateText) s
    simp only [Counter.allocation, hs]
    rcases hr : part.call (.prepare c.updateText) (π s) with ⟨r, t⟩
    rw [hr] at hp
    cases r <;> exact ⟨rfl, hp⟩
  | bindingAdvanced current advanced =>
    obtain ⟨s', hs, hp⟩ := h.call_eq (.bind 1 advanced.toValue) s
    simp only [Counter.allocation, hs]
    rcases hr : part.call (.bind 1 advanced.toValue) (π s) with ⟨r, t⟩
    rw [hr] at hp
    cases r <;> exact ⟨rfl, hp⟩
  | bindingCurrent current =>
    obtain ⟨s', hs, hp⟩ := h.call_eq (.bind 2 current.toValue) s
    simp only [Counter.allocation, hs]
    rcases hr : part.call (.bind 2 current.toValue) (π s) with ⟨r, t⟩
    rw [hr] at hp
    cases r <;> exact ⟨rfl, hp⟩
  | writing current =>
    obtain ⟨s', hs, hp⟩ := h.call_eq .update s
    simp only [Counter.allocation, hs]
    rcases hr : part.call .update (π s) with ⟨r, t⟩
    rw [hr] at hp
    rcases r with e | _ | n
    · exact ⟨rfl, hp⟩
    · cases c.retry.afterLoss c.table n <;> exact ⟨rfl, hp⟩
    · exact ⟨rfl, hp⟩

theorem Work.Projects.run {v : Work σ ω α} {w : Work τ ω α} (h : Work.Projects π v w) (steps : Nat)
    (x : ω) (s : σ) : (v.run steps x s).1 = (w.run steps x (π s)).1 ∧
      π (v.run steps x s).2 = (w.run steps x (π s)).2 := by
  induction steps generalizing x s with
  | zero => exact ⟨rfl, rfl⟩
  | succ steps ih =>
    obtain ⟨h₁, h₂⟩ := h x s
    rw [Work.run, Work.run]
    rcases hv : v x s with ⟨p, s'⟩
    rcases hw : w x (π s) with ⟨q, t'⟩
    rw [hv, hw] at h₁ h₂
    cases h₁
    cases h₂
    cases p with
    | running x' => exact ih x' s'
    | finished r => exact ⟨rfl, rfl⟩

theorem Work.Projects.counting {v : Work σ ω α} {w : Work τ ω α} (h : Work.Projects π v w) :
    Work.Projects (fun s : σ × UInt64 => π s.1) (Work.counting v) w := by
  rintro x ⟨s, n⟩
  obtain ⟨h₁, h₂⟩ := h x s
  simp only [Work.counting]
  rcases hv : v x s with ⟨p, s'⟩
  rw [hv] at h₁ h₂
  rcases p with x' | e | a <;> exact ⟨h₁, h₂⟩

theorem Connection.Projects.isolated (h : conn.Projects π part) (transacted : Bool)
    (outcomes : List (Except Error Unit)) (s : σ) :
    ((Delegate.isolated conn transacted).next outcomes s).1 =
        ((Delegate.isolated part transacted).next outcomes (π s)).1 ∧
      π ((Delegate.isolated conn transacted).next outcomes s).2 =
        ((Delegate.isolated part transacted).next outcomes (π s)).2 := by
  simp only [Delegate.isolated]
  cases transacted with
  | false => exact ⟨rfl, rfl⟩
  | true =>
    cases outcomes.getLast? with
    | none =>
      simp only [h.inTransaction s]
      cases part.inTransaction (π s) with
      | true => exact ⟨rfl, rfl⟩
      | false =>
        obtain ⟨s', hs, hp⟩ := h.call_eq .begin s
        simp only [hs, Bool.false_eq_true, if_false]
        rcases hr : part.call .begin (π s) with ⟨r, t⟩
        rw [hr] at hp
        cases r <;> exact ⟨rfl, hp⟩
    | some last =>
      cases last with
      | ok _ =>
        obtain ⟨s', hs, hp⟩ := h.call_eq .commit s
        simp only [hs]
        exact ⟨trivial, hp⟩
      | error e =>
        obtain ⟨s', hs, hp⟩ := h.call_eq .rollback s
        simp only [hs]
        exact ⟨trivial, hp⟩

theorem Work.Projects.delegated {v : Work σ ω α} {w : Work τ ω α} (h : Work.Projects π v w)
    {d : Delegate σ} {e : Delegate τ} (hd : ∀ outcomes s,
      (d.next outcomes s).1 = (e.next outcomes (π s)).1 ∧
        π (d.next outcomes s).2 = (e.next outcomes (π s)).2) (start : ω) :
    Work.Projects π (d.delegated v start) (e.delegated w start) := by
  rintro (⟨outcomes, value⟩ | ⟨outcomes, value, x⟩) s
  · obtain ⟨h₁, h₂⟩ := hd outcomes s
    simp only [Delegate.delegated]
    rcases hv : d.next outcomes s with ⟨r, s'⟩
    rcases hw : e.next outcomes (π s) with ⟨r', t⟩
    rw [hv, hw] at h₁ h₂
    cases h₁
    cases r <;> exact ⟨rfl, h₂⟩
  · obtain ⟨h₁, h₂⟩ := h x s
    simp only [Delegate.delegated]
    rcases hv : v x s with ⟨p, s'⟩
    rcases hw : w x (π s) with ⟨p', t⟩
    rw [hv, hw] at h₁ h₂
    cases h₁
    rcases p with x' | e | a <;> exact ⟨rfl, h₂⟩

theorem Work.Projects.fresh {b : Backend σ} {b' : Backend τ} {v : Nat → Work σ ω α}
    {w : Nat → Work τ ω α} (h : ∀ id, Work.Projects π (v id) (w id))
    (hc : ∀ s, (b.connect s).1 = (b'.connect (π s)).1 ∧ π (b.connect s).2 = (b'.connect (π s)).2)
    (hd : ∀ id s, π (b.disconnect id s) = b'.disconnect id (π s)) (start : ω) :
    Work.Projects π (b.fresh v start) (b'.fresh w start) := by
  rintro (_ | ⟨id, x⟩) s
  · obtain ⟨h₁, h₂⟩ := hc s
    simp only [Backend.fresh, h₁]
    exact ⟨trivial, h₂⟩
  · obtain ⟨h₁, h₂⟩ := h id x s
    simp only [Backend.fresh]
    rcases hv : v id x s with ⟨p, s'⟩
    rcases hw : w id x (π s) with ⟨p', t⟩
    rw [hv, hw] at h₁ h₂
    cases h₁
    cases p with
    | running y => exact ⟨rfl, h₂⟩
    | finished r => exact ⟨rfl, (hd id s').trans (congrArg (b'.disconnect id) h₂)⟩

end Machines

namespace Counter

/-- An allocation in a transaction and on a connection of its own, which nobody observes. -/
def unobserved (c : Counter) (b : Backend σ) : Work σ NextValue Integral :=
  b.fresh (fun id => (Delegate.isolated (b.connection id) true).delegated
    (c.allocation (b.connection id)) {}) Delegate.start

/-- **The next value** is allocated as if nobody observed it. -/
theorem nextValue_projects (c : Counter) (b : Backend σ) (logger : Logger) :
    Work.Projects (fun s : Accessed σ => s.1.1) (c.nextValue b logger) (c.unobserved b) := by
  refine Work.Projects.fresh (π := fun s : Accessed σ => s.1.1) (fun id => ?_)
    (fun _ => ⟨rfl, rfl⟩) (fun _ _ => rfl) Delegate.start
  have hconn : (((b.beside Journal).beside UInt64).connection id).Projects
      (fun s : Accessed σ => s.1.1) (b.connection id) :=
    ⟨fun _ => rfl, fun _ _ => ⟨rfl, rfl⟩⟩
  have hwork : Work.Projects (fun s : Accessed σ => s.1.1)
      (c.observedAllocation (b.connection id) logger) (c.allocation (b.connection id)) :=
    ((Connection.observed_projects (b.connection id) logger).allocation c).counting
  exact hwork.delegated (hconn.isolated true) {}

end Counter

end CounterTable
