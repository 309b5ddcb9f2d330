import CounterTable.Proofs.Name.ReadBack
import CounterTable.Proofs.Sequence.Configured
import CounterTable.Proofs.Sequence.Schedules
import CounterTable.Proofs.Sql.Verbs
import CounterTable.Proofs.Store.Absence
import CounterTable.Proofs.Store.Scripts

/-!
# The fresh database of a generator

The name of a table may be such that the statement that creates it is understood as creating another
one. Otherwise the fresh database of a configured generator has the table with its first value and
nothing else; and if it is not there at first, no call of the generator creates it.

* `Work.Keeps`: what all steps of some work keep;
* `Counter.onRows_of_texts`: the statements of a counter are on rows;
* `Generator.unobserved_lacks`: calls do not create a table;
* **`Generator.created`**: the fresh database;
* **`Simulation.counts_of_run`**: how much the workers of a simulation on it draw.
-/

namespace CounterTable

open CounterTable.Text

/-! ## What work keeps -/

namespace Work

variable {σ ω α : Type} {P : σ → Prop} {work : Work σ ω α}

/-- No step of the work ends what the state is like. -/
def Keeps (P : σ → Prop) (work : Work σ ω α) : Prop := ∀ w s, P s → P (work w s).2

namespace Keeps

theorem run (h : Keeps P work) (n : Nat) (w : ω) {s : σ} (hs : P s) : P (work.run n w s).2 := by
  induction n generalizing w s with
  | zero => exact hs
  | succ n ih =>
    have hstep := h w s hs
    rw [Work.run]
    rcases hw : work w s with ⟨w' | r, s'⟩ <;> rw [hw] at hstep
    · exact ih w' hstep
    · exact hstep

theorem delegated (h : Keeps P work) {d : Delegate σ}
    (hd : ∀ outcomes s, P s → P (d.next outcomes s).2) (start : ω) :
    Keeps P (d.delegated work start) := by
  rintro (⟨outcomes, value⟩ | ⟨outcomes, value, w⟩) s hs
  · have hnext := hd outcomes s hs
    simp only [Delegate.delegated]
    rcases hr : d.next outcomes s with ⟨_ | r, s'⟩ <;> rw [hr] at hnext <;> exact hnext
  · have hstep := h w s hs
    simp only [Delegate.delegated]
    rcases hw : work w s with ⟨w' | e | a, s'⟩ <;> rw [hw] at hstep <;> exact hstep

theorem fresh {b : Backend σ} {work : Nat → Work σ ω α} (h : ∀ id, Keeps P (work id))
    (hc : ∀ s, P s → P (b.connect s).2) (hd : ∀ id s, P s → P (b.disconnect id s)) (start : ω) :
    Keeps P (b.fresh work start) := by
  rintro (_ | ⟨id, w⟩) s hs
  · exact hc s hs
  · have hstep := h id w s hs
    simp only [Backend.fresh]
    rcases hw : work id w s with ⟨w' | r, s'⟩ <;> rw [hw] at hstep
    · exact hstep
    · exact hd id s' hstep

theorem generation {source : Work σ ω Integral} (h : Keeps P source) (start : ω) (t : Tenant) :
    Keeps (fun s => P s.1) (Optimizer.generation source start t) := by
  have hproceed : ∀ o s outcome, P s → P (Optimizer.proceed start o s outcome).2.1 := by
    intro o s outcome hs
    cases outcome <;> exact hs
  rintro (_ | ⟨held, w⟩) ⟨s, o⟩ hs
  · exact hproceed o s _ hs
  · have hstep := h w s hs
    simp only [Optimizer.generation]
    rcases hw : source w s with ⟨w' | e | drawn, s'⟩ <;> rw [hw] at hstep
    · exact hstep
    · exact hstep
    · exact hproceed o s' _ hstep

end Keeps

end Work

/-! ## Calls without the table -/

namespace Counter

variable {c : Counter} {d : Dialect} {qualified : QualifiedName} {column : Identifier}
  {initial increment : Int64} {type : NumberType} {name : String}

theorem texts_of_define (h : define d qualified column initial increment type = .ok c) :
    c.selectText = selectStatement d c.table c.column ∧
      c.updateText = updateStatement c.table c.column := by
  unfold define at h
  split at h
  · cases h
  · split at h
    · cases h
    · cases h
      exact ⟨rfl, rfl⟩

theorem onRows_of_seed (c : Counter) {s : Statement}
    (h : Statement.ofText c.seedStatement = .ok s) : s.OnRows :=
  Statement.onRows_of_ofText ⟨_, toList_seedStatement c⟩ (.head _) h

theorem onRows_of_texts (hselect : c.selectText = selectStatement d c.table c.column)
    (hupdate : c.updateText = updateStatement c.table c.column) : c.OnRows := by
  rintro s (h | h)
  · rw [hselect] at h
    exact Statement.onRows_of_ofText ⟨_, toList_selectStatement ..⟩ (.tail _ (.head _)) h
  · rw [hupdate] at h
    exact Statement.onRows_of_ofText ⟨_, toList_updateStatement ..⟩ (.tail _ (.tail _ (.head _))) h

theorem unobserved_lacks (hc : c.OnRows) (name : String) :
    Work.Keeps (·.Lacks name) (c.unobserved Database.backend) := by
  have hcall : ∀ (db : Database) (id : Nat) (call : Call), (∀ sql, call ≠ .prepare sql) →
      db.Lacks name → (db.after (.call id call)).Lacks name := by
    intro db id call hne h
    refine h.after ?_
    rintro _ sql _ ⟨⟩
    exact absurd rfl (hne sql)
  refine Work.Keeps.fresh (fun id => Work.Keeps.delegated ?_ ?_ _)
    (fun db h => h.after (e := .connect) (by rintro _ _ _ ⟨⟩))
    (fun id db h => h.after (e := .disconnect id) (by rintro _ _ _ ⟨⟩)) _
  · intro a db h
    show (c.allocation (Database.connection id) a db).2.Lacks name
    rw [allocation_after]
    refine h.after ?_
    rintro _ sql s he hs -
    cases ha : a.attempt <;> rw [ha] at he <;> cases he
    · exact hc s (.inl hs)
    · exact hc s (.inr hs)
  · intro outcomes db h
    simp only [Delegate.isolated]
    cases outcomes.getLast? with
    | none =>
      dsimp only
      split
      · exact h
      · have hbegin := hcall db id .begin (by rintro _ ⟨⟩) h
        rcases hr : (Database.backend.connection id).call .begin db with ⟨e | u, db'⟩
        all_goals
          have hdb : db.after (.call id .begin) = db' := congrArg Prod.snd hr
          exact hdb ▸ hbegin
    | some last =>
      cases last with
      | ok u => exact hcall db id .commit (by rintro _ ⟨⟩) h
      | error e => exact hcall db id .rollback (by rintro _ ⟨⟩) h

end Counter

namespace Generator

/-- **A call** creates no table. -/
theorem unobserved_lacks {g : Generator} (hg : g.counter.OnRows) (name : String) (t : Tenant) :
    Work.Keeps (fun s => s.1.Lacks name) (g.unobserved Database.backend t) :=
  (Counter.unobserved_lacks hg name).generation .connecting t

end Generator

/-! ## The script -/

namespace Database

variable {name : String} {v : Int64} {db : Database}

/-- **A script that creates a table and inserts one value** leaves the value in its only cell. -/
theorem cell_of_script {create seed : String} {columns : List String} {spared : Bool}
    (hcreate : Statement.ofText create = .ok (.createTable name columns spared))
    (hseed : ∀ s, Statement.ofText seed = .ok s → s = .insert name [[.literal v]])
    (h : (connection 1).executeAll [create, seed] (linked ⟨{}, none⟩ 1 none) = (.ok (), db)) :
    ∃ column, columns = [column] ∧ db.disconnect 1 = cell name column v 1 := by
  obtain ⟨_, db₁, h₁, h⟩ := of_executeAll_cons h
  obtain ⟨_, db₂, h₂, h⟩ := of_executeAll_cons h
  cases h
  obtain ⟨s, r, t, hs, -, ht, rfl⟩ := of_execute_linked h₁
  cases hcreate.symm.trans hs
  have hcreated : Turn.execute 1 [] (.createTable name columns spared) ⟨{}, none⟩ =
      (.ok (.count 0), ⟨.lone name { columns }, none⟩) :=
    Turn.createTable_of_none rfl columns spared
  cases hcreated.symm.trans ht
  obtain ⟨s, r, t, hs, -, ht, rfl⟩ := of_execute_linked h₂
  cases hseed s hs
  have hget : (Storage.lone name { columns }).get? name = some ({ columns } : Table) :=
    Storage.get?_lone
  rw [Turn.execute, Turn.insert_of_free (t := ⟨.lone name { columns }, none⟩) hget (.inl rfl)] at ht
  -- Only a table of one column takes a row of one value.
  obtain ⟨column, rfl⟩ : ∃ column, columns = [column] := by
    cases columns with
    | nil => cases ht
    | cons column columns =>
      cases columns with
      | nil => exact ⟨column, rfl⟩
      | cons => cases ht
  cases ht
  have hput : (Storage.lone name { columns := [column] }).put name (.cell column v) =
      .lone name (.cell column v) := Storage.put_lone
  have hdisconnect := @after_disconnect_cell name column v 1
    (some ⟨seed, .insert name [[.literal v]], []⟩)
  rw [← hput] at hdisconnect
  exact ⟨column, rfl, hdisconnect⟩

end Database

namespace Generator

variable {g : Generator} {s : Settings} {d : Dialect} {db : Database}

theorem freshDatabase_eq_ok_iff : g.freshDatabase d = .ok db ↔ ∃ db',
    (Database.connection 1).executeAll (g.createScript d) (Database.connect {}).2 =
      (.ok (), db') ∧ db = db'.disconnect 1 := by
  have hid : (Database.connect {}).1 = 1 := rfl
  unfold freshDatabase
  dsimp only
  rw [hid]
  constructor
  · intro h
    split at h
    · next u db' hscript =>
      cases h
      exact ⟨db', hscript, rfl⟩
    · cases h
  · rintro ⟨db', hscript, rfl⟩
    rw [hscript]

theorem freshDatabase_of_ok (h : ((Database.connection 1).executeAll (g.createScript d)
    (Database.connect {}).2).1 = .ok ()) : g.freshDatabase d =
      .ok (((Database.connection 1).executeAll (g.createScript d)
        (Database.connect {}).2).2.disconnect 1) :=
  freshDatabase_eq_ok_iff.mpr ⟨_, Database.executeAll_of_ok h, rfl⟩

/-- **The fresh database** of a configured generator has nothing but its table, of one cell with the
first value, unless the table is not there at all. -/
theorem created (hd : d ∈ Dialect.all) (hg : configure s d = .ok g)
    (h : g.freshDatabase d = .ok db) :
    (∃ column, g.Solitary column ∧ db = .cell g.counter.table column g.counter.initial 1) ∨
      g.counter.OnRows ∧ db.Lacks g.counter.table := by
  obtain ⟨qualified, column, counter, optimizer, -, hcolumn, hcounter, hoptimizer, hg'⟩ :=
    of_configure hg
  obtain ⟨htable, hshown, hinitial, hincrement, hpos⟩ := Counter.of_define hcounter
  obtain ⟨hselect, hupdate⟩ := Counter.texts_of_define hcounter
  have hrows : counter.OnRows := Counter.onRows_of_texts hselect hupdate
  obtain ⟨db', hscript, rfl⟩ := freshDatabase_eq_ok_iff.mp h
  have hsame : g.createScript d = counter.createScript d := by rw [hg']; rfl
  have hconnect : (Database.connect {}).2 = .linked ⟨{}, none⟩ 1 none := rfl
  rw [hsame, hconnect] at hscript
  subst hg'
  obtain ⟨_, db₁, hexecute, -⟩ := Database.of_executeAll_cons hscript
  obtain ⟨statement, r, t, hcreate, -⟩ := Database.of_execute_linked hexecute
  obtain ⟨name, columns, spared, rfl, hcreated⟩ := Counter.statements_of_created hd
    (Identifier.wellFormed_of_ofChars hcolumn).plain hshown hupdate hcreate
  by_cases hname : name = counter.table
  · subst hname
    obtain ⟨hseed, hreplaces⟩ := hcreated rfl
    obtain ⟨shown, hcolumns, hdb⟩ := Database.cell_of_script hcreate hseed hscript
    have hstep := OptimizerKind.step_prepare { counter with retry := s.retry }
      (congrArg Int64.toInt hincrement) hoptimizer
    exact .inl ⟨shown, ⟨hreplaces shown hcolumns, hstep.trans
      (congrArg (fun n : Int64 => s.optimizerKind.stride n.toInt) hincrement.symm)⟩, hdb⟩
  · refine .inr ⟨hrows, ?_⟩
    have hopened := (Database.Lacks.new counter.table).after (e := .connect) nofun
    have hothers : ∀ sql ∈ counter.createScript d, ∀ statement,
        Statement.ofText sql = .ok statement → statement.target = counter.table →
          statement.OnRows := by
      intro sql hsql statement hs htarget
      simp only [Counter.createScript, List.mem_cons, List.not_mem_nil, or_false] at hsql
      rcases hsql with rfl | rfl
      · cases hcreate.symm.trans hs
        exact absurd htarget hname
      · exact counter.onRows_of_seed hs
    have hlacks := hopened.executeAll 1 hothers
    rw [show Database.after {} .connect = .linked ⟨{}, none⟩ 1 none from rfl, hscript] at hlacks
    exact hlacks.after (e := .disconnect 1) nofun

theorem increment_pos_of_configure (hg : configure s d = .ok g) :
    1 ≤ g.counter.increment.toInt := by
  obtain ⟨_, _, counter, optimizer, -, -, hcounter, -, rfl⟩ := of_configure hg
  obtain ⟨-, -, -, hincrement, hpos⟩ := Counter.of_define hcounter
  exact hincrement ▸ hpos

theorem supplied_of_configure (hg : configure s d = .ok g) (column : String) :
    Simulation.Supplied g column
      { shared := (((.cell g.counter.table column g.counter.initial 1, {}), 0), g.optimizer) } := by
  obtain ⟨_, _, counter, optimizer, -, -, hcounter, hoptimizer, rfl⟩ := of_configure hg
  obtain ⟨-, -, hinitial, hincrement, -⟩ := Counter.of_define hcounter
  obtain ⟨hkind, hsize, -⟩ := OptimizerKind.of_build hoptimizer
  refine ⟨⟨0, ⟨hkind, ?_, _, 1, rfl, ?_⟩, ?_⟩, rfl, rfl⟩
  · exact hsize.trans (congrArg Int64.toInt hincrement.symm)
  · rw [Nat.cast_zero, Int.mul_zero, Int.add_zero]
  · have hrests := Optimizer.rests_of_build hoptimizer none
    rw [← hinitial] at hrests
    exact hrests

end Generator

/-! ## Simulations -/

namespace Simulation

variable {g : Generator} {s : Simulation} {name : String}

theorem lacks_calls (hg : g.counter.OnRows) (h : s.shared.1.1.1.Lacks name) (schedule : List Nat) :
    (calls g schedule s).shared.1.1.1.Lacks name := by
  induction schedule generalizing s with
  | nil => exact h
  | cons worker schedule ih =>
    refine ih ?_
    have hrun : (Work.run (g.generation Database.backend {} none) Work.manySteps .opening
        s.shared).2.1.1.1.Lacks name := by
      have hkept := (Generator.unobserved_lacks hg name none).run Work.manySteps .opening
        (s := s.state) h
      rwa [← (run_generation g s).2] at hkept
    unfold call
    split
    · exact h
    · dsimp only
      split <;> next hresult => rw [hresult] at hrun; exact hrun

/-- **Every call of a simulation** that comes to a report has drawn a value of its own. -/
theorem counts_of_run {settings : Settings} {d : Dialect} {db : Database} {schedule : List Nat}
    {r : SimulationReport} (hd : d ∈ Dialect.all) (hg : Generator.configure settings d = .ok g)
    (hdb : g.freshDatabase d = .ok db) (h : run g db schedule = .ok r) :
    r.allocated = schedule.length ∧ r.unique = schedule.length := by
  obtain ⟨hfailed, hreport⟩ := run_eq_ok_iff.mp h
  obtain ⟨row, hrow, rfl⟩ := report_eq_ok_iff.mp hreport
  rcases Generator.created hd hg hdb with ⟨column, hsolitary, rfl⟩ | ⟨hrows, hlacks⟩
  · obtain ⟨hsupplied, hlength⟩ :=
      (Generator.supplied_of_configure hg column).calls hsolitary hfailed
    have hnodup := hsupplied.nodup (Generator.increment_pos_of_configure hg)
    have hdrawn := hlength.trans (Nat.zero_add schedule.length)
    have hunique := (distinctCount_eq_length hnodup).trans (List.length_map _)
    exact ⟨hdrawn, hunique.trans hdrawn⟩
  · have hmissing := (lacks_calls hrows
      (s := { shared := (((db, {}), 0), g.optimizer) }) hlacks schedule).missing
    rw [Database.columnValues, Storage.table_of_get?_none hmissing] at hrow
    cases hrow

end Simulation

end CounterTable
