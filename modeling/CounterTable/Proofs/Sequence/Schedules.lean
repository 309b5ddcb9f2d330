import CounterTable.Proofs.Sequence.Solitary
import CounterTable.Proofs.Success
import CounterTable.Sequence.Simulation
import Mathlib.Data.List.Range

/-!
# Calls of a schedule

Which worker makes a call does not matter to the call, and a worker that fails makes the whole
simulation fail. So where no worker fails, all that a schedule determines is the number of the
calls. On a database with nothing but the table of the generator the drawn values are then the
identifiers from the initial value on, which are all different.

* `OptimizerKind.identifier_injective`, `distinctCount_eq_length`: counting different identifiers;
* `Simulation.Alike`, **`Simulation.Alike.calls`**: schedules with the same number of calls;
* **`Simulation.run_of_length`**: what they come to;
* `Simulation.Supplied`, **`Simulation.Supplied.calls`**: what the workers have drawn.
-/

namespace CounterTable

/-! ## Different identifiers -/

theorem OptimizerKind.identifier_injective (k : OptimizerKind) {increment : Int}
    (h : 1 ≤ increment) (initial : Int) : Function.Injective (k.identifier increment initial) := by
  intro i j hij
  cases k with
  | plain =>
    simp only [identifier, Int.add_right_inj] at hij
    exact_mod_cast Int.eq_of_mul_eq_mul_right (by omega) hij
  | hilo =>
    simp only [identifier] at hij
    omega
  | pooled =>
    simp only [identifier] at hij
    omega

theorem distinctCount_go_eq_length {ns : List Int} (h : ns.Nodup) :
    distinctCount.go ns = ns.length := by
  induction ns using distinctCount.go.induct with
  | case1 => rfl
  | case2 n => rfl
  | case3 m rest ih =>
    rw [List.nodup_cons] at h
    exact absurd List.mem_cons_self h.1
  | case4 m n rest hne ih =>
    rw [distinctCount.go, if_neg hne, ih h.of_cons]
    rfl

theorem distinctCount_eq_length {ns : List Int} (h : ns.Nodup) : distinctCount ns = ns.length := by
  have hperm := List.mergeSort_perm ns (fun a b => decide (a ≤ b))
  rw [distinctCount, distinctCount_go_eq_length (hperm.nodup_iff.mpr h), hperm.length_eq]

namespace Simulation

variable {g : Generator} {s s' : Simulation} {worker worker' : Nat} {schedule schedule' : List Nat}

/-! ## The number of calls -/

theorem failure?_eq_none : s.failure? = none ↔ s.failed = [] := by
  have hperm := List.mergeSort_perm s.failed (fun a b => decide (a.1 ≤ b.1))
  rw [failure?, Option.map_eq_none_iff, List.head?_eq_none_iff]
  exact ⟨fun h => List.nil_perm.mp (h ▸ hperm), fun h => List.perm_nil.mp (h ▸ hperm)⟩

/-- What a call of a worker comes to, from its result and from what is shared after it. -/
def next (s : Simulation) (worker : Nat) :
    Option (Except Error Integral) × Accessed Database × Optimizer → Simulation
  | (some (.ok a), shared) => { s with shared, drawn := (worker, a.val) :: s.drawn }
  | (some (.error e), shared) => { s with shared, failed := (worker, e) :: s.failed }
  | (none, shared) => { s with shared }

theorem call_of_failed_nil (h : s.failed = []) (worker : Nat) :
    call g s worker = s.next worker
      (Work.run (g.generation Database.backend {} none) Work.manySteps .opening s.shared) := by
  have hnone : s.failed.any (·.1 == worker) = false := by rw [h]; rfl
  unfold call
  rw [hnone, if_neg Bool.false_ne_true]
  rfl

theorem failed_call (h : s.failed ≠ []) (worker : Nat) : (call g s worker).failed ≠ [] := by
  unfold call
  split
  · exact h
  · dsimp only
    split
    · exact h
    · exact List.cons_ne_nil _ _
    · exact h

theorem failed_calls (h : s.failed ≠ []) (schedule : List Nat) :
    (calls g schedule s).failed ≠ [] := by
  induction schedule generalizing s with
  | nil => exact h
  | cons worker schedule ih => exact ih (failed_call h worker)

/-- The same has been drawn from the same, by whatever workers, and nobody has failed. -/
structure Alike (s s' : Simulation) : Prop where
  shared : s'.shared = s.shared
  drawn : s'.drawn.map (·.2) = s.drawn.map (·.2)
  failed : s.failed = []
  failed' : s'.failed = []

theorem Alike.call (h : Alike s s') (worker worker' : Nat)
    (hok : (Simulation.call g s worker).failed = []) :
    Alike (Simulation.call g s worker) (Simulation.call g s' worker') := by
  rw [call_of_failed_nil h.failed] at hok ⊢
  rw [call_of_failed_nil h.failed', h.shared]
  rcases hrun : Work.run (g.generation Database.backend {} none) Work.manySteps .opening s.shared
    with ⟨_ | e | a, shared⟩
  · exact ⟨rfl, h.drawn, h.failed, h.failed'⟩
  · rw [hrun] at hok
    exact absurd hok (List.cons_ne_nil _ _)
  · exact ⟨rfl, congrArg (a.val :: ·) h.drawn, h.failed, h.failed'⟩

/-- **Schedules with the same number of calls** come to the same, unless a worker fails. -/
theorem Alike.calls (h : Alike s s') (hlength : schedule.length = schedule'.length)
    (hok : (Simulation.calls g schedule s).failed = []) :
    Alike (Simulation.calls g schedule s) (Simulation.calls g schedule' s') := by
  induction schedule generalizing s s' schedule' with
  | nil =>
    obtain rfl := List.length_eq_zero_iff.mp hlength.symm
    exact h
  | cons worker schedule ih =>
    obtain ⟨worker', schedule', rfl⟩ := List.exists_cons_of_length_eq_add_one hlength.symm
    have hcall : (Simulation.call g s worker).failed = [] :=
      not_not.mp fun hne => failed_calls hne schedule hok
    have hrest : schedule.length = schedule'.length := Nat.succ.inj hlength
    have hcalls := ih (h.call worker worker' hcall) hrest hok
    exact hcalls

/-! ## The report -/

variable {db : Database} {r : SimulationReport}

theorem report_eq_ok_iff : s.report g = .ok r ↔
    ∃ row, s.shared.1.1.1.columnValues g.counter.table = .ok row ∧ r =
      { table := g.counter.table
        optimizer := g.kind
        allocated := s.drawn.length
        unique := distinctCount (s.drawn.map (·.2))
        first := (s.drawn.map (·.2)).min?
        last := (s.drawn.map (·.2)).max?
        rowValue := row.head?
        accesses := s.shared.1.2 } := by
  rw [← List.length_map (fun p : Nat × Int => p.2)]
  constructor
  · intro h
    obtain ⟨row, hrow, h⟩ := exists_of_bind_eq_ok h
    cases h
    exact ⟨row, hrow, rfl⟩
  · rintro ⟨row, hrow, rfl⟩
    unfold report
    dsimp only
    rw [hrow]
    rfl

theorem run_eq_ok_iff : run g db schedule = .ok r ↔
    (calls g schedule { shared := (((db, {}), 0), g.optimizer) }).failed = [] ∧
      (calls g schedule { shared := (((db, {}), 0), g.optimizer) }).report g = .ok r := by
  unfold run
  dsimp only
  rw [← failure?_eq_none]
  split
  · next h => simp [h]
  · next h => simp [h]

/-- **The report** is the same for all schedules with the same number of calls. -/
theorem run_of_length (h : run g db schedule = .ok r)
    (hlength : schedule.length = schedule'.length) : run g db schedule' = .ok r := by
  obtain ⟨hfailed, hreport⟩ := run_eq_ok_iff.mp h
  have halike := Alike.calls ⟨rfl, rfl, rfl, rfl⟩ hlength hfailed
  refine run_eq_ok_iff.mpr ⟨halike.failed', ?_⟩
  rw [← hreport]
  unfold report
  rw [halike.shared, halike.drawn]

/-! ## What is drawn -/

/-- The database and the optimizer. -/
def state (s : Simulation) : Database × Optimizer := (s.shared.1.1.1, s.shared.2)

theorem run_generation (g : Generator) (s : Simulation) :
    let r := Work.run (g.generation Database.backend {} none) Work.manySteps .opening s.shared
    let r' := Work.run (g.unobserved Database.backend none) Work.manySteps .opening s.state
    r.1 = r'.1 ∧ (r.2.1.1.1, r.2.2) = r'.2 :=
  (g.generation_projects Database.backend {} none).run Work.manySteps .opening s.shared

/-- The workers have drawn the identifiers from the initial value on, and nobody has failed. -/
structure Supplied (g : Generator) (column : String) (s : Simulation) : Prop where
  rests : ∃ draws, g.At column draws s.state ∧
    s.shared.2.Rests none g.counter.initial.toInt s.drawn.length draws
  drawn : s.drawn.map (·.2) = ((List.range s.drawn.length).map
    (g.kind.identifier g.counter.increment.toInt g.counter.initial.toInt)).reverse
  failed : s.failed = []

variable {column : String}

/-- **A call** draws the next identifier, or its worker fails. -/
theorem Supplied.call (h : s.Supplied g column) (hg : g.Solitary column) (worker : Nat)
    (hok : (Simulation.call g s worker).failed = []) :
    (Simulation.call g s worker).Supplied g column ∧
      (Simulation.call g s worker).drawn.length = s.drawn.length + 1 := by
  obtain ⟨draws, hat, hrests⟩ := h.rests
  have hanswers : g.Answers column s.drawn.length
      (Work.run (g.unobserved Database.backend none) Work.manySteps .opening s.state) :=
    Generator.answers_opening hg hat hrests
  obtain ⟨hresult, hstate⟩ := run_generation g s
  rw [call_of_failed_nil h.failed] at hok ⊢
  rcases hrun : Work.run (g.generation Database.backend {} none) Work.manySteps .opening s.shared
    with ⟨r, shared⟩
  rw [hrun] at hresult hstate hok
  dsimp only at hresult
  rcases hanswers with ⟨e, he⟩ | ⟨a, draws', ha, hval, hat', hrests'⟩
  · rw [hresult.trans he] at hok
    exact absurd hok (List.cons_ne_nil _ _)
  · rw [hresult.trans ha]
    rw [← hstate] at hat' hrests'
    refine ⟨⟨⟨draws', hat', hrests'⟩, ?_, h.failed⟩, rfl⟩
    show a.val :: s.drawn.map (·.2) = ((List.range (s.drawn.length + 1)).map _).reverse
    rw [List.range_succ, List.map_append, List.reverse_append, h.drawn, hval]
    rfl

/-- **The calls of a schedule** draw as many identifiers, unless a worker fails. -/
theorem Supplied.calls (h : s.Supplied g column) (hg : g.Solitary column)
    (hok : (Simulation.calls g schedule s).failed = []) :
    (Simulation.calls g schedule s).Supplied g column ∧
      (Simulation.calls g schedule s).drawn.length = s.drawn.length + schedule.length := by
  induction schedule generalizing s with
  | nil => exact ⟨h, rfl⟩
  | cons worker schedule ih =>
    have hcall : (Simulation.call g s worker).failed = [] :=
      not_not.mp fun hne => failed_calls hne schedule hok
    obtain ⟨hnext, hlength⟩ := h.call hg worker hcall
    obtain ⟨hlast, hall⟩ := ih hnext hok
    refine ⟨hlast, hall.trans ?_⟩
    rw [hlength, List.length_cons]
    omega

theorem Supplied.nodup (h : s.Supplied g column) (hg : 1 ≤ g.counter.increment.toInt) :
    (s.drawn.map (·.2)).Nodup := by
  rw [h.drawn, List.nodup_reverse]
  exact List.nodup_range.map (g.kind.identifier_injective hg _)

end Simulation

end CounterTable
