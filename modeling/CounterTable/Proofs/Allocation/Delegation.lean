import CounterTable.Allocation.Script
import CounterTable.Proofs.Allocation.Exchanges

/-!
# What delegates return

A delegate runs a unit of work any number of times, and then returns. The delegated work comes to
the value of the last run that succeeded, if the delegate returns success. A delegate that isolates
the work runs it at most once, in a transaction that it commits or rolls back.

* `Delegate.Decides`, `Delegate.Returns`: how a delegate goes on, run by run;
* **`Delegate.run_delegated_iff`**: what delegated work comes to;
* `Delegate.Isolation`, **`Delegate.returns_isolated_iff`**: how isolated work goes;
* `Delegate.Isolated`: what a delegate that isolates the work asks of the connection;
* `Delegate.Proceeds`, `Delegate.Isolates`: delegates that return what isolated work has returned;
* `Delegate.Yields`: the run that a value comes from, and the transaction around it;
* **`Delegate.isolates`**: all of this for every unit of work;
* **`Backend.run_fresh_isolated_iff`**: a value that comes out on a connection of one's own.
-/

namespace CounterTable

variable {σ τ ω α : Type}

/-- Work that leaves alone what is beside its state. -/
def Work.beside (work : Work σ ω α) (τ : Type) : Work (σ × τ) ω α := fun w (s, t) =>
  let (p, s) := work w s
  (p, (s, t))

theorem Work.run_beside (work : Work σ ω α) (steps : Nat) (w : ω) (s : σ) (t : τ) :
    (work.beside τ).run steps w (s, t) = ((work.run steps w s).1, (work.run steps w s).2, t) := by
  induction steps generalizing w s with
  | zero => rfl
  | succ steps ih =>
    rw [Work.run, Work.run, Work.beside]
    rcases work w s with ⟨w' | r, s'⟩
    · exact ih w' s'
    · rfl

namespace Delegate

/-! ## Runs of the work -/

/-- What a delegate learns of a run of the work. -/
def outcome (r : Except Error α) : Except Error Unit := r.map fun _ => ()

/-- The value of the last run that succeeded. -/
def lastValue? (results : List (Except Error α)) : Option α :=
  (results.filterMap Except.toOption).getLast?

theorem lastValue?_concat (results : List (Except Error α)) (r : Except Error α) :
    lastValue? (results ++ [r]) = r.toOption.or (lastValue? results) := by
  rw [lastValue?, List.filterMap_append, List.getLast?_append]
  cases r <;> rfl

/-- The delegate is to decide, after runs of the work with these results. -/
inductive Decides (d : Delegate σ) (work : Work σ ω α) (start : ω) (s₀ : σ) :
    List (Except Error α) → σ → Prop
  | first : Decides d work start s₀ [] s₀
  | again {results : List (Except Error α)} {s s' s'' : σ} {steps : Nat} {r : Except Error α}
      (h : Decides d work start s₀ results s)
      (hnext : d.next (results.map outcome) s = (none, s'))
      (hrun : work.run steps start s' = (some r, s'')) :
      Decides d work start s₀ (results ++ [r]) s''

/-- The delegate runs the work, with these results, and then returns. -/
def Returns (d : Delegate σ) (work : Work σ ω α) (start : ω) (s : σ)
    (results : List (Except Error α)) (returned : Except Error Unit) (s' : σ) : Prop :=
  ∃ s₁, d.Decides work start s results s₁ ∧
    d.next (results.map outcome) s₁ = (some returned, s')

variable {d : Delegate σ} {work : Work σ ω α} {start w : ω} {s s' : σ} {steps : Nat}
  {outcomes : List (Except Error Unit)} {value : Option α} {x : Except Error α}

theorem run_working {r : Except Error α} (h : work.run steps w s = (some r, s')) :
    ∃ n, ∀ more, (d.delegated work start).run (n + more) (.working outcomes value w) s =
      (d.delegated work start).run more
        (.deciding (outcomes ++ [outcome r]) (r.toOption.or value)) s' := by
  induction steps generalizing w s with
  | zero => cases h
  | succ steps ih =>
    rw [Work.run] at h
    rcases hw : work w s with ⟨w' | r', s₁⟩ <;> rw [hw] at h
    · obtain ⟨n, hn⟩ := ih h
      refine ⟨n + 1, fun more => ?_⟩
      rw [Nat.add_right_comm, Work.run, ← hn more]
      simp only [delegated, hw]
    · cases h
      refine ⟨1, fun more => ?_⟩
      rw [Nat.add_comm, Work.run]
      cases r <;> simp only [delegated, hw] <;> rfl

theorem exists_of_run_working
    (h : (d.delegated work start).run steps (.working outcomes value w) s = (some x, s')) :
    ∃ n more r s₁, more < steps ∧ work.run n w s = (some r, s₁) ∧
      (d.delegated work start).run more
        (.deciding (outcomes ++ [outcome r]) (r.toOption.or value)) s₁ = (some x, s') := by
  induction steps generalizing w s with
  | zero => cases h
  | succ steps ih =>
    rw [Work.run] at h
    rcases hw : work w s with ⟨w' | e | a, s₁⟩ <;> simp only [delegated, hw] at h
    · obtain ⟨n, more, r, s₂, hmore, hrun, hrest⟩ := ih h
      refine ⟨n + 1, more, r, s₂, Nat.lt_succ_of_lt hmore, ?_, hrest⟩
      rw [Work.run, hw]
      exact hrun
    · refine ⟨1, steps, .error e, s₁, Nat.lt_succ_self _, ?_, h⟩
      rw [Work.run, hw]
    · refine ⟨1, steps, .ok a, s₁, Nat.lt_succ_self _, ?_, h⟩
      rw [Work.run, hw]

theorem Decides.run {results : List (Except Error α)} (h : d.Decides work start s results s') :
    ∃ n, ∀ more, (d.delegated work start).run (n + more) Delegate.start s =
      (d.delegated work start).run more
        (.deciding (results.map outcome) (lastValue? results)) s' := by
  induction h with
  | first => exact ⟨0, fun more => by rw [Nat.zero_add]; rfl⟩
  | @again results s₁ s₂ s₃ steps r _ hnext hrun ih =>
    obtain ⟨n, hn⟩ := ih
    obtain ⟨m, hm⟩ : ∃ m, ∀ more, (d.delegated work start).run (m + more)
        (.working (results.map outcome) (lastValue? results) start) s₂ =
          (d.delegated work start).run more (.deciding (results.map outcome ++ [outcome r])
            (r.toOption.or (lastValue? results))) s₃ := run_working hrun
    refine ⟨n + (m + 1), fun more => ?_⟩
    rw [Nat.add_assoc, hn, Nat.add_right_comm, Work.run, List.map_append, List.map_singleton,
      lastValue?_concat, ← hm more]
    simp only [delegated, hnext]

theorem Decides.exists_returns {results : List (Except Error α)} {s₁ : σ}
    (h : d.Decides work start s results s₁)
    (hrun : (d.delegated work start).run steps
      (.deciding (results.map outcome) (lastValue? results)) s₁ = (some x, s')) :
    ∃ results returned, d.Returns work start s results returned s' ∧
      x = result returned (lastValue? results) := by
  -- Between two decisions a whole run of the work takes place, so the steps left drop by several.
  induction steps using Nat.strong_induction_on generalizing results s₁ with
  | _ steps ih =>
    cases steps with
    | zero => cases hrun
    | succ steps =>
      rw [Work.run] at hrun
      rcases hnext : d.next (results.map outcome) s₁ with ⟨_ | returned, s₂⟩ <;>
        simp only [delegated, hnext] at hrun
      · obtain ⟨n, more, r, s₃, hmore, hwork, hrest⟩ := exists_of_run_working hrun
        rw [← lastValue?_concat] at hrest
        have hmap : results.map outcome ++ [outcome r] = (results ++ [r]).map outcome := by
          rw [List.map_append, List.map_singleton]
        rw [hmap] at hrest
        exact ih more (Nat.lt_succ_of_lt hmore) (h.again hnext hwork) hrest
      · cases hrun
        exact ⟨results, returned, ⟨s₁, h, hnext⟩, rfl⟩

/-- **What delegated work comes to**: the delegate runs the work, with some results, and returns. -/
theorem run_delegated_iff :
    (∃ steps, (d.delegated work start).run steps Delegate.start s = (some x, s')) ↔
      ∃ results returned, d.Returns work start s results returned s' ∧
        x = result returned (lastValue? results) := by
  constructor
  · rintro ⟨steps, hrun⟩
    exact Decides.first.exists_returns hrun
  · rintro ⟨results, returned, ⟨s₁, hdecides, hnext⟩, rfl⟩
    obtain ⟨n, hn⟩ := hdecides.run
    refine ⟨n + 1, ?_⟩
    rw [hn, Work.run]
    simp only [delegated, hnext]

/-! ## Isolated work -/

section Isolated

variable {conn : Connection σ} {results : List (Except Error α)} {returned : Except Error Unit}

theorem next_isolated_start : (isolated conn true).next [] s = (none, s') ↔
    conn.inTransaction s = false ∧ conn.call .begin s = (.ok (), s') := by
  simp only [isolated, List.getLast?_nil]
  cases conn.inTransaction s with
  | true => simp
  | false =>
    rcases conn.call .begin s with ⟨e | u, s₁⟩
    · simp
    · simp

theorem next_isolated_ok : (isolated conn true).next [.ok ()] s =
    (some (conn.call .commit s).1, (conn.call .commit s).2) := rfl

theorem next_isolated_error (e : Error) : (isolated conn true).next [.error e] s =
    (some (.error e), (conn.call .rollback s).2) := rfl

/-- How isolated work goes on a connection: the results of its runs, what is returned, and the state
that is left. -/
inductive Isolation (conn : Connection σ) (work : Work σ ω α) (start : ω) (s : σ) :
    List (Except Error α) → Except Error Unit → σ → Prop
  | refused (h : conn.inTransaction s = true) :
      Isolation conn work start s [] (.error (.transaction
        "isolated work needs a connection without an active transaction")) s
  | unbegun {e : Error} {s' : σ} (h : conn.inTransaction s = false)
      (hbegin : conn.call .begin s = (.error e, s')) :
      Isolation conn work start s [] (.error e) s'
  | succeeded {s₁ s₂ s₃ : σ} {steps : Nat} {a : α} {r : Except Error Unit}
      (h : conn.inTransaction s = false) (hbegin : conn.call .begin s = (.ok (), s₁))
      (hrun : work.run steps start s₁ = (some (.ok a), s₂))
      (hcommit : conn.call .commit s₂ = (r, s₃)) : Isolation conn work start s [.ok a] r s₃
  | failed {s₁ s₂ s₃ : σ} {steps : Nat} {e : Error} {r : Except Error Unit}
      (h : conn.inTransaction s = false) (hbegin : conn.call .begin s = (.ok (), s₁))
      (hrun : work.run steps start s₁ = (some (.error e), s₂))
      (hrollback : conn.call .rollback s₂ = (r, s₃)) :
      Isolation conn work start s [.error e] (.error e) s₃

theorem decides_isolated (h : (isolated conn true).Decides work start s results s') :
    (results = [] ∧ s' = s) ∨ ∃ r s₁ steps, results = [r] ∧ conn.inTransaction s = false ∧
      conn.call .begin s = (.ok (), s₁) ∧ work.run steps start s₁ = (some r, s') := by
  induction h with
  | first => exact .inl ⟨rfl, rfl⟩
  | @again results s₁ s₂ s₃ steps r _ hnext hrun ih =>
    rcases ih with ⟨rfl, rfl⟩ | ⟨r', s₀, n, rfl, -⟩
    · obtain ⟨hfree, hbegin⟩ := next_isolated_start.mp hnext
      exact .inr ⟨r, s₂, steps, rfl, hfree, hbegin, hrun⟩
    · cases r' <;> cases hnext

/-- **How isolated work goes.** -/
theorem returns_isolated_iff : (isolated conn true).Returns work start s results returned s' ↔
    Isolation conn work start s results returned s' := by
  constructor
  · rintro ⟨s₂, hdecides, hnext⟩
    -- The delegate returns either at once, without a transaction, or after its only run.
    rcases decides_isolated hdecides with ⟨rfl, rfl⟩ | ⟨r, s₁, steps, rfl, hfree, hbegin, hrun⟩
    · simp only [isolated, List.map_nil, List.getLast?_nil] at hnext
      cases hfree : conn.inTransaction s₂ with
      | true =>
        rw [hfree, if_pos rfl] at hnext
        cases hnext
        exact .refused hfree
      | false =>
        rw [hfree, if_neg Bool.false_ne_true] at hnext
        rcases hbegin : conn.call .begin s₂ with ⟨e | u, s₁⟩ <;> rw [hbegin] at hnext <;>
          cases hnext
        exact .unbegun hfree hbegin
    · cases r with
      | ok a =>
        cases hnext
        exact .succeeded hfree hbegin hrun rfl
      | error e =>
        cases hnext
        exact .failed hfree hbegin hrun rfl
  · intro h
    cases h with
    | refused h =>
      refine ⟨s, .first, ?_⟩
      simp only [isolated, List.map_nil, List.getLast?_nil, h, if_true]
    | unbegun h hbegin =>
      refine ⟨s, .first, ?_⟩
      simp only [isolated, List.map_nil, List.getLast?_nil, h, hbegin, Bool.false_eq_true, if_false]
    | succeeded h hbegin hrun hcommit =>
      refine ⟨_, .again .first (next_isolated_start.mpr ⟨h, hbegin⟩) hrun, ?_⟩
      exact next_isolated_ok.trans (by rw [hcommit])
    | failed h hbegin hrun hrollback =>
      refine ⟨_, .again .first (next_isolated_start.mpr ⟨h, hbegin⟩) hrun, ?_⟩
      exact (next_isolated_error _).trans (by rw [hrollback])

theorem exists_returns_isolated_iff :
    (∃ results returned s', (isolated conn true).Returns work start s results returned s') ↔
      ∀ s₁, conn.inTransaction s = false → conn.call .begin s = (.ok (), s₁) →
        ∃ steps r s₂, work.run steps start s₁ = (some r, s₂) := by
  simp only [returns_isolated_iff]
  constructor
  · rintro ⟨results, returned, s', h⟩ s₁ hfree hbegin
    cases h with
    | refused h => rw [h] at hfree; cases hfree
    | unbegun _ hbegin' => rw [hbegin'] at hbegin; cases hbegin
    | succeeded _ hbegin' hrun | failed _ hbegin' hrun =>
      rw [hbegin'] at hbegin
      cases hbegin
      exact ⟨_, _, _, hrun⟩
  · intro hends
    cases hfree : conn.inTransaction s with
    | true => exact ⟨_, _, _, .refused hfree⟩
    | false =>
      rcases hbegin : conn.call .begin s with ⟨e | ⟨⟩, s₁⟩
      · exact ⟨_, _, _, .unbegun hfree hbegin⟩
      · obtain ⟨steps, e | a, s₂, hrun⟩ := hends s₁ hfree hbegin
        · exact ⟨_, _, _, .failed hfree hbegin hrun rfl⟩
        · exact ⟨_, _, _, .succeeded hfree hbegin hrun rfl⟩

/-- What a delegate that isolates the work asks of the connection, from the results of its runs, the
exchanges of the delegate, and what it returns. -/
structure Isolated (conn : Connection σ) (s : σ) (results : List (Except Error α))
    (exchanges : List Exchange) (returned : Except Error Unit) : Prop where
  ran_iff : results ≠ [] ↔
    conn.inTransaction s = false ∧ ∃ s₁, conn.call .begin s = (.ok (), s₁)
  once : results.length ≤ 1
  commits : (exchanges.map Exchange.call).count .commit = results.countP Except.isOk
  rollbacks : (exchanges.map Exchange.call).count .rollback = results.countP (! ·.isOk)
  not_both : ¬ (.commit ∈ exchanges.map Exchange.call ∧ .rollback ∈ exchanges.map Exchange.call)
  ok_iff : returned = .ok () ↔ ⟨.begin, .ok ()⟩ ∈ exchanges ∧ (∃ a, results = [.ok a]) ∧
    ⟨.commit, .ok ()⟩ ∈ exchanges
  /-- A failure of the work is returned, also if the rollback fails. -/
  error : ∀ e, results = [.error e] → returned = .error e

theorem answered_call_iff {x : Call} {r : Except Error x.Answer} {exchanges after : List Exchange} :
    conn.answered.call x (s, exchanges) = (r, s', after) ↔
      conn.call x s = (r, s') ∧ after = exchanges ++ [⟨x, r⟩] := by
  rw [Connection.answered_call]
  constructor
  · intro h
    cases h
    exact ⟨rfl, rfl⟩
  · rintro ⟨h, rfl⟩
    rw [h]

theorem run_beside_iff {t t' : τ} :
    (work.beside τ).run steps w (s, t) = (some x, s', t') ↔
      work.run steps w s = (some x, s') ∧ t' = t := by
  rw [Work.run_beside]
  constructor
  · intro h
    cases hrun : work.run steps w s
    rw [hrun] at h
    cases h
    exact ⟨rfl, rfl⟩
  · rintro ⟨h, rfl⟩
    rw [h]

/-- **What isolated work asks of the connection.** -/
theorem Isolation.isolated {exchanges : List Exchange}
    (h : Isolation conn.answered (work.beside (List Exchange)) start (s, []) results returned
      (s', exchanges)) : Isolated conn s results exchanges returned := by
  cases h with
  | refused h =>
    have hbusy : conn.inTransaction s = true := h
    constructor <;> simp [hbusy]
  | unbegun h hbegin =>
    have hfree : conn.inTransaction s = false := h
    obtain ⟨hfailed, rfl⟩ := answered_call_iff.mp hbegin
    clear hbegin
    constructor <;> simp [hfree, hfailed]
  | @succeeded s₁ s₂ _ steps a r h hbegin hrun hcommit =>
    obtain ⟨s₁, exchanges₁⟩ := s₁
    obtain ⟨s₂, exchanges₂⟩ := s₂
    have hfree : conn.inTransaction s = false := h
    obtain ⟨hbegun, rfl⟩ := answered_call_iff.mp hbegin
    obtain ⟨-, rfl⟩ := run_beside_iff.mp hrun
    obtain ⟨-, rfl⟩ := answered_call_iff.mp hcommit
    -- What is returned is the answer to the commit, so both sides of `ok_iff` ask for its success.
    constructor <;> simp [hfree, hbegun, Except.isOk, Except.toBool, eq_comm]
  | @failed s₁ s₂ _ steps e r h hbegin hrun hrollback =>
    obtain ⟨s₁, exchanges₁⟩ := s₁
    obtain ⟨s₂, exchanges₂⟩ := s₂
    have hfree : conn.inTransaction s = false := h
    obtain ⟨hbegun, rfl⟩ := answered_call_iff.mp hbegin
    obtain ⟨-, rfl⟩ := run_beside_iff.mp hrun
    obtain ⟨-, rfl⟩ := answered_call_iff.mp hrollback
    constructor <;> simp [hfree, hbegun, Except.isOk, Except.toBool]

theorem isolation_answered_iff : Isolation conn work start s results returned s' ↔
    ∃ exchanges, Isolation conn.answered (work.beside (List Exchange)) start (s, []) results
      returned (s', exchanges) := by
  constructor
  · intro h
    cases h with
    | refused h => exact ⟨_, .refused h⟩
    | unbegun h hbegin => exact ⟨_, .unbegun h (answered_call_iff.mpr ⟨hbegin, rfl⟩)⟩
    | succeeded h hbegin hrun hcommit =>
      exact ⟨_, .succeeded h (answered_call_iff.mpr ⟨hbegin, rfl⟩)
        (run_beside_iff.mpr ⟨hrun, rfl⟩) (answered_call_iff.mpr ⟨hcommit, rfl⟩)⟩
    | failed h hbegin hrun hrollback =>
      exact ⟨_, .failed h (answered_call_iff.mpr ⟨hbegin, rfl⟩)
        (run_beside_iff.mpr ⟨hrun, rfl⟩) (answered_call_iff.mpr ⟨hrollback, rfl⟩)⟩
  · rintro ⟨exchanges, h⟩
    cases h with
    | refused h => exact .refused h
    | unbegun h hbegin => exact .unbegun h (answered_call_iff.mp hbegin).1
    | @succeeded s₁ s₂ _ _ _ _ h hbegin hrun hcommit =>
      obtain ⟨s₁, exchanges₁⟩ := s₁
      obtain ⟨s₂, exchanges₂⟩ := s₂
      exact .succeeded h (answered_call_iff.mp hbegin).1 (run_beside_iff.mp hrun).1
        (answered_call_iff.mp hcommit).1
    | @failed s₁ s₂ _ _ _ _ h hbegin hrun hrollback =>
      obtain ⟨s₁, exchanges₁⟩ := s₁
      obtain ⟨s₂, exchanges₂⟩ := s₂
      exact .failed h (answered_call_iff.mp hbegin).1 (run_beside_iff.mp hrun).1
        (answered_call_iff.mp hrollback).1

end Isolated

/-! ## Delegates that return what isolated work returns -/

/-- The work comes to a value in a transaction on the connection, which is committed. -/
def Commits (conn : Connection σ) (work : Work σ ω α) (start : ω) (s : σ) (v : α) (s' : σ) :
    Prop :=
  ∃ s₁ s₂ steps, conn.inTransaction s = false ∧ conn.call .begin s = (.ok (), s₁) ∧
    work.run steps start s₁ = (some (.ok v), s₂) ∧ conn.call .commit s₂ = (.ok (), s')

theorem isolation_ok_iff {conn : Connection σ} {results : List (Except Error α)} :
    Isolation conn work start s results (.ok ()) s' ↔
      ∃ v, results = [.ok v] ∧ Commits conn work start s v s' := by
  constructor
  · intro h
    cases h with
    | succeeded h hbegin hrun hcommit => exact ⟨_, rfl, _, _, _, h, hbegin, hrun, hcommit⟩
  · rintro ⟨v, rfl, s₁, s₂, steps, h, hbegin, hrun, hcommit⟩
    exact .succeeded h hbegin hrun hcommit

theorem run_delegated_ok_iff {v : α} :
    (∃ steps, (d.delegated work start).run steps Delegate.start s = (some (.ok v), s')) ↔
      ∃ results, d.Returns work start s results (.ok ()) s' ∧ lastValue? results = some v := by
  rw [run_delegated_iff]
  constructor
  · rintro ⟨results, e | ⟨⟩, hreturns, hvalue⟩
    · cases hvalue
    · refine ⟨results, hreturns, ?_⟩
      cases hlast : lastValue? results <;> rw [hlast] at hvalue <;> cases hvalue
      rfl
  · rintro ⟨results, hreturns, hlast⟩
    exact ⟨results, .ok (), hreturns, by rw [hlast]; rfl⟩

/-- What a delegate can decide that leaves the work to isolated work on a connection, where `last` is
what this has returned last, if it has. Beside that the delegate takes steps of its own: it may open
and close connections, and then `conn` is the one that the state holds open. -/
inductive Proceeds (conn : Connection σ) (own : σ → σ → Prop) :
    Option (Except Error Unit) → σ → Option (Except Error Unit) × σ → Prop
  | returned {r : Except Error Unit} {s s' : σ} (h : own s s') :
      Proceeds conn own (some r) s (some r, s')
  | begun {last : Option (Except Error Unit)} {s s₁ s' : σ} (h : own s s₁)
      (hnext : (isolated conn true).next [] s₁ = (none, s')) : Proceeds conn own last s (none, s')
  | refused {last : Option (Except Error Unit)} {r : Except Error Unit} {s s₁ s₂ : σ}
      {decided : Option (Except Error Unit) × σ} (h : own s s₁)
      (hnext : (isolated conn true).next [] s₁ = (some r, s₂))
      (hrest : Proceeds conn own (some r) s₂ decided) : Proceeds conn own last s decided

/-- The delegate runs the work in isolated work on the connection only, however often, and returns
what this has returned last. -/
structure Isolates (d : Delegate σ) (conn : Connection σ) (own : σ → σ → Prop) : Prop where
  first : ∀ s, Proceeds conn own none s (d.next [] s)
  again : ∀ outcomes o s, ∃ r s₁, (isolated conn true).next [o] s = (some r, s₁) ∧
    Proceeds conn own (some r) s₁ (d.next (outcomes ++ [o]) s)

variable {conn : Connection σ} {own : σ → σ → Prop} {last : Option (Except Error Unit)}

theorem next_isolated_ne_ok : (isolated conn true).next [] s ≠ (some (.ok ()), s') := by
  simp only [isolated, List.getLast?_nil]
  cases conn.inTransaction s with
  | true => simp
  | false => rcases conn.call .begin s with ⟨e | u, s₁⟩ <;> simp

theorem Proceeds.begins (h : Proceeds conn own last s (none, s')) :
    ∃ s₁, conn.inTransaction s₁ = false ∧ conn.call .begin s₁ = (.ok (), s') := by
  generalize hdecided : ((none : Option (Except Error Unit)), s') = decided at h
  induction h with
  | returned => cases hdecided
  | begun _ hnext =>
    cases hdecided
    exact ⟨_, next_isolated_start.mp hnext⟩
  | refused _ _ _ ih => exact ih hdecided

theorem Proceeds.ok (h : Proceeds conn own last s (some (.ok ()), s')) :
    last = some (.ok ()) ∧ own s s' := by
  generalize hdecided : (some (.ok () : Except Error Unit), s') = decided at h
  induction h with
  | returned h =>
    cases hdecided
    exact ⟨rfl, h⟩
  | begun => cases hdecided
  | refused _ hnext _ ih =>
    obtain ⟨hok, -⟩ := ih hdecided
    cases hok
    exact absurd hnext next_isolated_ne_ok

theorem Isolates.begins (h : d.Isolates conn own) {outcomes : List (Except Error Unit)}
    (hnext : d.next outcomes s = (none, s')) :
    ∃ s₁, conn.inTransaction s₁ = false ∧ conn.call .begin s₁ = (.ok (), s') := by
  rcases List.eq_nil_or_concat outcomes with rfl | ⟨earlier, o, rfl⟩
  · have hfirst := h.first s
    rw [hnext] at hfirst
    exact hfirst.begins
  · rw [List.concat_eq_append] at hnext
    obtain ⟨r, s₁, -, hproceeds⟩ := h.again earlier o s
    rw [hnext] at hproceeds
    exact hproceeds.begins

theorem Isolates.commits (h : d.Isolates conn own) {earlier : List (Except Error α)}
    {r : Except Error α}
    (hnext : d.next ((earlier ++ [r]).map outcome) s = (some (.ok ()), s')) :
    ∃ s₁, r.isOk ∧ conn.call .commit s = (.ok (), s₁) ∧ own s₁ s' := by
  rw [List.map_append, List.map_singleton] at hnext
  obtain ⟨q, s₁, hisolated, hproceeds⟩ := h.again (earlier.map outcome) (outcome r) s
  rw [hnext] at hproceeds
  obtain ⟨hq, hown⟩ := hproceeds.ok
  cases hq
  cases r with
  | error e => cases hisolated
  | ok a =>
    have hcommit : conn.call .commit s = (.ok (), s₁) := by
      rw [outcome, Except.map, next_isolated_ok] at hisolated
      cases hcall : conn.call .commit s
      rw [hcall] at hisolated
      cases hisolated
      rfl
    exact ⟨s₁, rfl, hcommit, hown⟩

/-- The value is the one of the last run of the work under the delegate: the delegate has begun a
transaction on the connection, the work has come to the value in it, the transaction has been
committed, and the delegate has then taken one more step of its own. -/
def Yields (d : Delegate σ) (conn : Connection σ) (own : σ → σ → Prop) (work : Work σ ω α)
    (start : ω) (s : σ) (v : α) (s' : σ) : Prop :=
  ∃ earlier s₀ s₁ s₂ s₃ s₄ steps, d.Decides work start s earlier s₀ ∧
    d.next (earlier.map outcome) s₀ = (none, s₂) ∧
    conn.inTransaction s₁ = false ∧ conn.call .begin s₁ = (.ok (), s₂) ∧
    work.run steps start s₂ = (some (.ok v), s₃) ∧ conn.call .commit s₃ = (.ok (), s₄) ∧ own s₄ s'

/-- **No value escapes** a delegate that isolates the work unless its transaction is committed. -/
theorem Isolates.yields (h : d.Isolates conn own) {v : α}
    (hrun : (d.delegated work start).run steps Delegate.start s = (some (.ok v), s')) :
    d.Yields conn own work start s v s' := by
  obtain ⟨results, ⟨s₃, hdecides, hreturned⟩, hlast⟩ := run_delegated_ok_iff.mp ⟨steps, hrun⟩
  cases hdecides with
  | first => cases hlast
  | @again earlier s₀ s₂ _ n r hearlier hnext hwork =>
    obtain ⟨s₄, hok, hcommit, hown⟩ := h.commits hreturned
    obtain ⟨s₁, hfree, hbegin⟩ := h.begins hnext
    cases r with
    | error e => cases hok
    | ok a =>
      rw [lastValue?_concat] at hlast
      cases hlast
      exact ⟨earlier, s₀, s₁, s₂, s₃, s₄, n, hearlier, hnext, hfree, hbegin, hwork, hcommit, hown⟩

theorem Yields.exchanges {d : Delegate (σ × List Exchange)} {own : σ × List Exchange → _ → Prop}
    (hown : ∀ x y, own x y → y.2 = x.2) {v : α} {t t' : σ × List Exchange}
    (h : d.Yields conn.answered own (work.beside (List Exchange)) start t v t') :
    ∃ before, t'.2 = before ++ [⟨.begin, .ok ()⟩, ⟨.commit, .ok ()⟩] := by
  obtain ⟨-, -, ⟨s₁, before⟩, ⟨s₂, l₂⟩, ⟨s₃, l₃⟩, ⟨s₄, l₄⟩, n, -, -, -, hbegin, hrun, hcommit,
    hstep⟩ := h
  obtain ⟨-, rfl⟩ := answered_call_iff.mp hbegin
  obtain ⟨-, rfl⟩ := run_beside_iff.mp hrun
  obtain ⟨-, rfl⟩ := answered_call_iff.mp hcommit
  refine ⟨before, ?_⟩
  rw [hown _ _ hstep, List.append_assoc]
  rfl

/-- **What delegates return.** On every connection, isolated work is run, once, exactly when the
connection is not in a transaction and one begins. It returns unless the work never ends, and has
asked the connection for the commits and rollbacks that the result of the work calls for. Delegated
work comes to a value exactly when its delegate returns success, and then to the one of the last run
that succeeded. If the delegate returns what isolated work has returned, then this last run took
place in a transaction that was begun just before it and committed just after it; so the last two
exchanges of the delegate on the connection are this begin and this commit, both successful. -/
theorem isolates (work : Work σ ω α) (start : ω) :
    (∀ (conn : Connection σ) (s : σ),
      (∀ s', (isolated conn true).next [] s = (none, s') ↔
        conn.inTransaction s = false ∧ conn.call .begin s = (.ok (), s')) ∧
      ((∃ results returned s', (isolated conn true).Returns work start s results returned s') ↔
        ∀ s₁, conn.inTransaction s = false → conn.call .begin s = (.ok (), s₁) →
          ∃ steps r s₂, work.run steps start s₁ = (some r, s₂)) ∧
      ∀ results returned s',
        (isolated conn true).Returns work start s results returned s' ↔
          ∃ exchanges, (isolated conn.answered true).Returns (work.beside (List Exchange)) start
              (s, []) results returned (s', exchanges) ∧
            Isolated conn s results exchanges returned) ∧
    (∀ (d : Delegate σ) (s s' : σ) (v : α),
      (∃ steps, (d.delegated work start).run steps Delegate.start s = (some (.ok v), s')) ↔
        ∃ results, d.Returns work start s results (.ok ()) s' ∧ lastValue? results = some v) ∧
    (∀ (d : Delegate σ) (conn : Connection σ) (own : σ → σ → Prop), d.Isolates conn own →
      ∀ s s' v steps,
        (d.delegated work start).run steps Delegate.start s = (some (.ok v), s') →
          d.Yields conn own work start s v s') ∧
    ∀ (d : Delegate (σ × List Exchange)) (conn : Connection σ)
      (own : σ × List Exchange → σ × List Exchange → Prop), (∀ x y, own x y → y.2 = x.2) →
      d.Isolates conn.answered own → ∀ s s' v steps,
        (d.delegated (work.beside (List Exchange)) start).run steps Delegate.start s =
            (some (.ok v), s') →
          ∃ before, s'.2 = before ++ [⟨.begin, .ok ()⟩, ⟨.commit, .ok ()⟩] := by
  refine ⟨fun conn s => ⟨fun _ => next_isolated_start, exists_returns_isolated_iff, ?_⟩,
    fun _ _ _ _ => run_delegated_ok_iff, fun _ _ _ h _ _ _ _ hrun => h.yields hrun,
    fun _ _ _ hown h _ _ _ _ hrun => (h.yields hrun).exchanges hown⟩
  intro results returned s'
  rw [returns_isolated_iff, isolation_answered_iff]
  refine exists_congr fun exchanges => ?_
  rw [returns_isolated_iff]
  exact ⟨fun h => ⟨h, h.isolated⟩, And.left⟩

theorem not_isolates_bare {own : σ × List Exchange → σ × List Exchange → Prop} (s : σ) :
    ¬ (isolated conn.answered false).Isolates conn.answered own := by
  intro h
  obtain ⟨⟨s₁, before⟩, -, hbegin⟩ := (h.first (s, [])).begins
  obtain ⟨-, hlist⟩ := answered_call_iff.mp hbegin
  simp at hlist

/-- Isolated work that is begun again when it has failed, at most so many times. -/
def insisting (conn : Connection σ) (times : Nat) : Delegate σ where
  next outcomes s :=
    match outcomes.getLast? with
    | none => (isolated conn true).next [] s
    | some o =>
      match (isolated conn true).next [o] s with
      | (some (.error e), s) =>
        if outcomes.length < times then (isolated conn true).next [] s else (some (.error e), s)
      | decided => decided

theorem proceeds_isolated : Proceeds conn Eq last s ((isolated conn true).next [] s) := by
  rcases h : (isolated conn true).next [] s with ⟨_ | r, s'⟩
  · exact .begun rfl h
  · exact .refused rfl h (.returned rfl)

theorem isolates_insisting (conn : Connection σ) (times : Nat) :
    (insisting conn times).Isolates conn Eq where
  first s := proceeds_isolated
  again outcomes o s := by
    have hreturns : ∃ r s₁, (isolated conn true).next [o] s = (some r, s₁) := by
      cases o with
      | error e => exact ⟨_, _, next_isolated_error e⟩
      | ok u => exact ⟨_, _, next_isolated_ok⟩
    obtain ⟨r, s₁, hr⟩ := hreturns
    refine ⟨r, s₁, hr, ?_⟩
    simp only [insisting, List.getLast?_concat, hr]
    cases r with
    | ok u => exact .returned rfl
    | error e =>
      by_cases hlt : (outcomes ++ [o]).length < times
      · simp only [hlt, if_true]
        exact proceeds_isolated
      · simp only [hlt, if_false]
        exact .returned rfl

/-- The failure of work is returned though the rollback fails as well, and the value of work that is
isolated again after a lost commit has been committed. -/
theorem isolates_scripted :
    (∃ exchanges, (isolated Script.connection.answered true).Returns
        ((Work.once (Action.fail (.overflow "work"))).beside (List Exchange)) ()
        ({ rollbacks := [.error (.connection "lost")] }, [])
        [(.error (.overflow "work") : Except Error Nat)] (.error (.overflow "work"))
        ({}, exchanges) ∧
      Isolated Script.connection { rollbacks := [.error (.connection "lost")] }
        [(.error (.overflow "work") : Except Error Nat)] exchanges (.error (.overflow "work"))) ∧
    (insisting Script.connection 2).Yields Script.connection Eq (Work.once (Action.succeed 7)) ()
      { commits := [.error (.connection "lost")] } 7 {} ∧
    ∃ before, [⟨.begin, .ok ()⟩, ⟨.commit, .error (.connection "lost")⟩, ⟨.begin, .ok ()⟩,
      ⟨.commit, .ok ()⟩] = before ++ [(⟨.begin, .ok ()⟩ : Exchange), ⟨.commit, .ok ()⟩] := by
  refine ⟨(((isolates _ ()).1 Script.connection _).2.2 _ _ _).mp ?_, ?_, ?_⟩
  · exact returns_isolated_iff.mpr (.failed rfl rfl (@rfl _ (Work.run _ 1 _ _)) rfl)
  · exact (isolates _ ()).2.2.1 _ _ _ (isolates_insisting Script.connection 2) _ _ 7 5 rfl
  · exact (isolates (Work.once (Action.succeed 7)) ()).2.2.2 _ Script.connection Eq
      (fun _ _ h => congrArg Prod.snd h.symm) (isolates_insisting Script.connection.answered 2)
      ({ commits := [.error (.connection "lost")] }, []) ({}, _) 7 5 rfl

end Delegate

/-! ## Connections of one's own -/

namespace Backend

variable {b : Backend σ} {work : Nat → Work σ ω α} {start w : ω} {s s' : σ} {id : Nat}
  {x : Except Error α}

theorem run_connected_iff :
    (∃ steps, (b.fresh work start).run steps (.connected id w) s = (some x, s')) ↔
      ∃ s₁, (∃ steps, (work id).run steps w s = (some x, s₁)) ∧ s' = b.disconnect id s₁ := by
  constructor
  · rintro ⟨steps, h⟩
    induction steps generalizing w s with
    | zero => cases h
    | succ steps ih =>
      rw [Work.run] at h
      rcases hw : work id w s with ⟨w' | r, s₁⟩ <;> simp only [fresh, hw] at h
      · obtain ⟨s₂, ⟨n, hrun⟩, rfl⟩ := ih h
        refine ⟨s₂, ⟨n + 1, ?_⟩, rfl⟩
        rw [Work.run, hw]
        exact hrun
      · cases h
        refine ⟨s₁, ⟨1, ?_⟩, rfl⟩
        rw [Work.run, hw]
  · rintro ⟨s₁, ⟨steps, h⟩, rfl⟩
    refine ⟨steps, ?_⟩
    induction steps generalizing w s with
    | zero => cases h
    | succ steps ih =>
      rw [Work.run] at h ⊢
      rcases hw : work id w s with ⟨w' | r, s₂⟩ <;> rw [hw] at h <;> simp only [fresh, hw]
      · exact ih h
      · cases h
        rfl

theorem run_connecting_iff :
    (∃ steps, (b.fresh work start).run steps .connecting s = (some x, s')) ↔
      ∃ steps, (b.fresh work start).run steps (.connected (b.connect s).1 start) (b.connect s).2 =
        (some x, s') := by
  constructor
  · rintro ⟨_ | steps, h⟩
    · cases h
    · exact ⟨steps, h⟩
  · rintro ⟨steps, h⟩
    exact ⟨steps + 1, h⟩

/-- **A value that comes out of isolated work on a connection of its own** has been committed on
that connection before it was closed. -/
theorem run_fresh_isolated_iff {v : α} :
    (∃ steps, (b.fresh (fun id => (Delegate.isolated (b.connection id) true).delegated (work id)
        start) Delegate.start).run steps .connecting s = (some (.ok v), s')) ↔
      ∃ s₁, Delegate.Commits (b.connection (b.connect s).1) (work (b.connect s).1) start
        (b.connect s).2 v s₁ ∧ s' = b.disconnect (b.connect s).1 s₁ := by
  rw [run_connecting_iff, run_connected_iff]
  refine exists_congr fun s₁ => and_congr_left fun _ => ?_
  rw [Delegate.run_delegated_ok_iff]
  simp only [Delegate.returns_isolated_iff, Delegate.isolation_ok_iff]
  constructor
  · rintro ⟨results, ⟨v', rfl, hcommits⟩, hlast⟩
    cases hlast
    exact hcommits
  · intro hcommits
    exact ⟨_, ⟨v, rfl, hcommits⟩, rfl⟩

end Backend

end CounterTable
