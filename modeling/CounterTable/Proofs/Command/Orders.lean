import CounterTable.Command.Run
import CounterTable.Proofs.Sequence.Created

/-!
# The order of the calls in a simulation

The command that simulates workers lets each worker make all its calls at once. In any other order
of the same calls, and with the calls shared out among any other number of workers, it comes to the
same report, and no identifier in it is drawn twice.

* `SimulateArguments.reportBy`: the report on the calls of a schedule;
* `SimulateArguments.reportBy_eq_ok_iff`: the parts of the command that have to succeed;
* **`SimulateArguments.reportBy_congr`**: all orders and all numbers of workers;
* **`SimulateArguments.reportBy_all_orders`**: what the report says of them.
-/

namespace CounterTable

theorem mapError_eq_ok_iff {ε ε' α : Type} {f : ε → ε'} {x : Except ε α} {a : α} :
    x.mapError f = .ok a ↔ x = .ok a := by
  cases x with
  | error e => exact ⟨nofun, nofun⟩
  | ok b => exact ⟨fun h => by cases h; rfl, fun h => by cases h; rfl⟩

theorem Dialect.mem_all_of_ofText {text : String} {d : Dialect} (h : ofText text = .ok d) :
    d ∈ all := by
  unfold ofText at h
  split at h
  · next hname =>
    cases h
    unfold ofName? at hname
    grind [all]
  · cases h

theorem Simulation.length_workerByWorker (workers calls : Nat) :
    (workerByWorker workers calls).length = workers * calls := by
  simp [workerByWorker]

namespace SimulateArguments

open Failure

/-- The report on a simulation whose calls are those of a schedule. -/
def reportBy (a : SimulateArguments) (file : Except String String) (schedule : List Nat) :
    Except Failure SimulationReport := do
  if a.threads = 0 then throw { cause := .text "--threads must be at least 1" }
  let settings ← settings a file
  let d ← plainly (Dialect.ofText a.dialect)
  let g ← plainly (Generator.configure settings d)
  let db ← during "Failed to create the counter table" (g.freshDatabase d)
  plainly (Simulation.run g db schedule)

variable {a : SimulateArguments} {file : Except String String} {schedule schedule' : List Nat}
  {r : SimulationReport} {threads allocations : Nat}

theorem report_eq_reportBy (a : SimulateArguments) (file : Except String String) :
    a.report file = a.reportBy file (Simulation.workerByWorker a.threads a.allocations) := rfl

/-- **A report is made** if there are workers, the settings are valid, the table can be created and
the calls succeed. -/
theorem reportBy_eq_ok_iff : a.reportBy file schedule = .ok r ↔ a.threads ≠ 0 ∧
    ∃ settings d g db, a.settings file = .ok settings ∧ Dialect.ofText a.dialect = .ok d ∧
      Generator.configure settings d = .ok g ∧ g.freshDatabase d = .ok db ∧
        Simulation.run g db schedule = .ok r := by
  constructor
  · intro h
    unfold reportBy at h
    split at h
    · cases h
    · next hthreads =>
      obtain ⟨settings, hsettings, h⟩ := exists_of_bind_eq_ok h
      obtain ⟨d, hd, h⟩ := exists_of_bind_eq_ok h
      obtain ⟨g, hg, h⟩ := exists_of_bind_eq_ok h
      obtain ⟨db, hdb, h⟩ := exists_of_bind_eq_ok h
      exact ⟨hthreads, settings, d, g, db, hsettings, mapError_eq_ok_iff.mp hd,
        mapError_eq_ok_iff.mp hg, mapError_eq_ok_iff.mp hdb, mapError_eq_ok_iff.mp h⟩
  · rintro ⟨hthreads, settings, d, g, db, hsettings, hd, hg, hdb, hrun⟩
    simp only [reportBy, if_neg hthreads, hsettings, hd, hg, hdb, hrun, plainly, during,
      Except.mapError, bind, Except.bind]

/-- **The same report** comes of as many calls in any order, by any number of workers. -/
theorem reportBy_congr (h : a.reportBy file schedule = .ok r) (hthreads : threads ≠ 0)
    (hlength : schedule.length = schedule'.length) :
    reportBy { a with threads, allocations } file schedule' = .ok r := by
  obtain ⟨-, settings, d, g, db, hsettings, hd, hg, hdb, hrun⟩ := reportBy_eq_ok_iff.mp h
  exact reportBy_eq_ok_iff.mpr ⟨hthreads, settings, d, g, db, hsettings, hd, hg, hdb,
    Simulation.run_of_length hrun hlength⟩

theorem counts_of_reportBy (h : a.reportBy file schedule = .ok r) :
    r.allocated = schedule.length ∧ r.unique = schedule.length := by
  obtain ⟨-, settings, d, g, db, -, hd, hg, hdb, hrun⟩ := reportBy_eq_ok_iff.mp h
  exact Simulation.counts_of_run (Dialect.mem_all_of_ofText hd) hg hdb hrun

/-- **All orders.** If the calls of the workers come to a report in some order, all of them have
drawn different identifiers, the command succeeds with that report, and the report is the same in
every order of the calls, also if they are shared out differently. -/
theorem reportBy_all_orders
    (horder : schedule.Perm (Simulation.workerByWorker a.threads a.allocations))
    (h : a.reportBy file schedule = .ok r) :
    r.allocated = a.threads * a.allocations ∧ r.unique = a.threads * a.allocations ∧
      Command.run file (.simulate a) = { output := Command.printed r.lines } ∧
        ∀ threads allocations schedule', threads ≠ 0 →
          threads * allocations = a.threads * a.allocations →
            schedule'.Perm (Simulation.workerByWorker threads allocations) →
              reportBy { a with threads, allocations } file schedule' = .ok r := by
  have hlength : schedule.length = a.threads * a.allocations :=
    horder.length_eq.trans (Simulation.length_workerByWorker ..)
  obtain ⟨hallocated, hunique⟩ := counts_of_reportBy h
  have hthreads := (reportBy_eq_ok_iff.mp h).1
  refine ⟨hallocated.trans hlength, hunique.trans hlength, ?_,
    fun threads allocations schedule' hne hproduct horder' => ?_⟩
  · have hreport : a.report file = .ok r := reportBy_congr h hthreads horder.length_eq
    have hduplicates : r.duplicates = 0 := by
      rw [SimulationReport.duplicates, hallocated, hunique, Nat.sub_self]
    rw [Command.run, hreport]
    dsimp only
    rw [if_pos hduplicates]
  · refine reportBy_congr h hne ?_
    rw [hlength, horder'.length_eq, Simulation.length_workerByWorker, hproduct]

/-- Two workers with two calls each, on pools of three identifiers. -/
def twoByTwo : SimulateArguments :=
  { threads := 2, allocations := 2, increment := 3, optimizer := some .pooled, table := "t" }

/-- Their generator. -/
def twoByTwoGenerator : Generator := { Participants.threesIn .generic with
  counter := { (Participants.threesIn .generic).counter with
    column := "next_val"
    selectText := Counter.selectStatement .generic "t" "next_val"
    updateText := Counter.updateStatement "t" "next_val" } }

/-- Their database. -/
def twoByTwoDatabase : Database :=
  ((Database.connection 1).executeAll (twoByTwoGenerator.createScript .generic)
    (Database.connect {}).2).2.disconnect 1

/-- What they come to. -/
def twoByTwoReport : SimulationReport where
  table := "t"
  optimizer := .pooled
  allocated := 4
  unique := 4
  first := some 1
  last := some 4
  rowValue := some 7
  accesses := 2

theorem twoByTwoDatabase_eq :
    twoByTwoGenerator.freshDatabase .generic = .ok twoByTwoDatabase :=
  Generator.freshDatabase_of_ok (by decide +kernel)

theorem run_twoByTwo : Simulation.run twoByTwoGenerator twoByTwoDatabase [1, 0, 0, 1] =
    .ok twoByTwoReport := by
  obtain ⟨hfailed, hdrawn, haccesses, hrow⟩ :
      let s := Simulation.calls twoByTwoGenerator [1, 0, 0, 1]
        { shared := (((twoByTwoDatabase, {}), 0), twoByTwoGenerator.optimizer) }
      s.failed = [] ∧ s.drawn = [(1, 4), (0, 3), (0, 2), (1, 1)] ∧ s.shared.1.2 = 2 ∧
        s.shared.1.1.1.columnValues twoByTwoGenerator.counter.table = .ok [7] := by decide +kernel
  refine Simulation.run_eq_ok_iff.mpr ⟨hfailed, Simulation.report_eq_ok_iff.mpr ⟨_, hrow, ?_⟩⟩
  have hunique : distinctCount [4, 3, 2, 1] = 4 := distinctCount_eq_length (by decide)
  rw [hdrawn, haccesses]
  simp only [List.map_cons, List.map_nil, hunique]
  rfl

theorem reportBy_all_orders_twoByTwo :
    twoByTwo.reportBy (.error "") [1, 0, 0, 1] = .ok twoByTwoReport ∧
      twoByTwoReport.allocated = 2 * 2 ∧ twoByTwoReport.unique = 2 * 2 ∧
        reportBy { twoByTwo with threads := 4, allocations := 1 } (.error "") [3, 1, 0, 2] =
          .ok twoByTwoReport := by
  have hreport : twoByTwo.reportBy (.error "") [1, 0, 0, 1] = .ok twoByTwoReport :=
    reportBy_eq_ok_iff.mpr ⟨by decide,
      { tableName := "t", incrementSize := 3, optimizer := some .pooled }, .generic,
      twoByTwoGenerator, twoByTwoDatabase, rfl, rfl, rfl, twoByTwoDatabase_eq, run_twoByTwo⟩
  obtain ⟨hallocated, hunique, -, horders⟩ := reportBy_all_orders (by decide) hreport
  exact ⟨hreport, hallocated, hunique, horders 4 1 [3, 1, 0, 2] (by decide) rfl (by decide)⟩

end SimulateArguments

end CounterTable
