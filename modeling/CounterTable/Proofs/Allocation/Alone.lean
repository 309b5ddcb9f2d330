import CounterTable.Proofs.Allocation.Answers
import CounterTable.Proofs.Allocation.Attempts
import CounterTable.Proofs.Store.OneCell

/-!
# An allocation that is alone

On a database with nothing but a table of one cell, and without other connections, an allocation
fails, or it draws the value of the cell and moves it on by its step, in nine steps at most.

* `Counter.Draws`: failing, or drawing;
* `Counter.draws_writing`, `Counter.draws_reading`: from the update on, and from the selection on;
* **`Counter.draws`**: a whole allocation.
-/

namespace CounterTable

namespace Work

variable {σ ω α : Type} {work : Work σ ω α} {w w' : ω} {s s' : σ}

theorem run_of_running (h : work w s = (.running w', s')) (n : Nat) :
    run work (n + 1) w s = run work n w' s' := by
  rw [run, h]

theorem run_of_finished {r : Except Error α} (h : work w s = (.finished r, s')) (n : Nat) :
    run work (n + 1) w s = (some r, s') := by
  rw [run, h]

end Work

namespace Counter

variable {c : Counter} {name column : String} {v w : Int64} {id : Nat} {held : Bool}
  {p? : Option Prepared} {a : Allocation} {db : Database}

open Database

/-- What an allocation on a table of one cell comes to: it fails, or it moves the value on. -/
def Draws (c : Counter) (name column : String) (v : Int64) (opened : Nat)
    (r : Option (Except Error Integral) × Database) : Prop :=
  (∃ e, r.1 = some (.error e)) ∨ ∃ a w, r = (some (.ok a), cell name column w opened) ∧
    a.type = c.numberType ∧ a.val = v.toInt ∧ w.toInt = v.toInt + c.step

/-- The value of the row as an allocation holds it. -/
structure Read (c : Counter) (v : Int64) (current : Integral) : Prop where
  type : current.type = c.numberType
  val : current.val = v.toInt

theorem run_rollback (c : Counter) (n id : Nat) (e : Error) (db : Database) :
    ((c.unobserved Database.backend).run (n + 1) (.connected id (.deciding [.error e] none)) db).1 =
      some (.error e) := by
  rw [Work.run, unobserved_rollback]

theorem draws_of_error {n : Nat} {e : Error} {db' : Database}
    (h : c.allocation (Database.connection id) a db = (.finished (.error e), db')) :
    c.Draws name column v id ((c.unobserved Database.backend).run (n + 2)
      (.connected id (.working [] none a)) db) := by
  refine .inl ⟨e, ?_⟩
  rw [Work.run, unobserved_working, h]
  exact run_rollback c n id e db'

theorem draws_of_running {n : Nat} (a' : Allocation) {db' : Database}
    (h : c.allocation (Database.connection id) a db = (.running a', db'))
    (hd : c.Draws name column v id ((c.unobserved Database.backend).run n
      (.connected id (.working [] none a')) db')) :
    c.Draws name column v id ((c.unobserved Database.backend).run (n + 1)
      (.connected id (.working [] none a)) db) := by
  rw [Work.run, unobserved_working, h]
  exact hd

theorem run_commit (c : Counter) (n : Nat) (a : Integral) :
    (c.unobserved Database.backend).run (n + 1) (.connected id (.deciding [.ok ()] (some a)))
      (linked ⟨.lone name { (Table.cell column v).acquire id with rows := [[w]] },
        some { locked := [name] }⟩ id p?) = (some (.ok a), cell name column w id) := by
  rw [Work.run, unobserved_commit _ (links_linked ..) rfl, after_commit_cell, after_disconnect_cell]

theorem draws_writing (n : Nat) {number : Nat} {current : Integral} {s : Statement} {b : Bindings}
    (hs : s.Replaces name column) (hb₁ : b.get? 1 = some (.integer w))
    (hb₂ : b.get? 2 = some (.integer v)) (hcurrent : c.Read v current)
    (hw : w.toInt = v.toInt + c.step) (sql : String) :
    c.Draws name column v id ((c.unobserved Database.backend).run (n + 2)
      (.connected id (.working [] none ⟨number, .writing current⟩))
      (linked (.cell name column v id held) id (some ⟨sql, s, b⟩))) := by
  have hreturns : s.returnsRows = false := by
    obtain ⟨x, value, others, filter, rfl, -⟩ := hs
    rfl
  have hupdate : (Database.connection id).call .update _ = _ :=
    update_linked hreturns sql b (.cell name column v id held)
  rcases Turn.update_cell hs hb₁ hb₂ held with ⟨e, t, ht⟩ | ht
  · rw [ht] at hupdate
    exact draws_of_error (e := .sql c.updateText e) (by simp only [allocation, hupdate]; rfl)
  · rw [ht] at hupdate
    refine .inr ⟨current, w, ?_, hcurrent.type, hcurrent.val, hw⟩
    rw [Work.run, unobserved_working]
    simp only [allocation, hupdate]
    exact run_commit c n current

variable {number : Nat} {current advanced : Integral}

theorem draws_bindingCurrent (n : Nat) {s : Statement} {b : Bindings}
    (hs : s.Replaces name column) (hb : b.get? 1 = some (.integer w))
    (hcurrent : c.Read v current) (hw : w.toInt = v.toInt + c.step) (sql : String) :
    c.Draws name column v id ((c.unobserved Database.backend).run (n + 3)
      (.connected id (.working [] none ⟨number, .bindingCurrent current⟩))
      (linked (.cell name column v id held) id (some ⟨sql, s, b⟩))) := by
  have hword : current.word = v := by rw [← Int64.toInt_inj, Integral.toInt_word, hcurrent.val]
  have hbind : (Database.connection id).call (.bind 2 current.toValue) _ = _ :=
    bind_linked (Nat.succ_ne_zero 1) current.toValue ⟨sql, s, b⟩ (.cell name column v id held)
  refine draws_of_running ⟨number, .writing current⟩
    (by simp only [allocation, hbind]; rfl) ?_
  refine draws_writing n hs (w := w) ?_ ?_ hcurrent hw sql
  · simpa using hb
  · simp [Integral.toValue, hword]

theorem draws_preparingWrite (n : Nat)
    (hs : ∀ s, Statement.ofText c.updateText = .ok s → s.Replaces name column)
    (hcurrent : c.Read v current) (hadvanced : advanced.val = current.val + c.step) :
    c.Draws name column v id ((c.unobserved Database.backend).run (n + 5)
      (.connected id (.working [] none ⟨number, .preparingWrite current advanced⟩))
      (linked (.cell name column v id held) id p?)) := by
  cases hsql : Statement.ofText c.updateText with
  | error e =>
    have hprepare : (Database.connection id).call (.prepare c.updateText) _ = _ :=
      prepare_linked_of_error hsql (.cell name column v id held) id p?
    exact draws_of_error (n := n + 3) (e := .sql c.updateText e)
      (by simp only [allocation, hprepare]; rfl)
  | ok s =>
    have hprepare : (Database.connection id).call (.prepare c.updateText) _ = _ :=
      prepare_linked hsql (.cell name column v id held) id p?
    refine draws_of_running ⟨number, .bindingAdvanced current advanced⟩
      (by simp only [allocation, hprepare]; rfl) ?_
    have hbind : (Database.connection id).call (.bind 1 advanced.toValue) _ = _ :=
      bind_linked Nat.one_ne_zero advanced.toValue ⟨c.updateText, s, []⟩
        (.cell name column v id held)
    refine draws_of_running ⟨number, .bindingCurrent current⟩
      (by simp only [allocation, hbind]; rfl) ?_
    refine draws_bindingCurrent n (hs s hsql) (w := advanced.word) ?_ hcurrent ?_ _
    · simp [Integral.toValue]
    · rw [Integral.toInt_word, hadvanced, hcurrent.val]

theorem draws_reading (n : Nat)
    (hs : ∀ s, Statement.ofText c.updateText = .ok s → s.Replaces name column) (sql : String)
    (s : Statement) (b : Bindings) :
    c.Draws name column v id ((c.unobserved Database.backend).run (n + 6)
      (.connected id (.working [] none ⟨number, .reading⟩))
      (linked (.cell name column v id false) id (some ⟨sql, s, b⟩))) := by
  have hquery : (Database.connection id).call .query _ = _ :=
    query_linked sql s b (.cell name column v id false)
  rcases hexecute : Turn.execute id b s (.cell name column v id false) with ⟨e | q | m, t⟩ <;>
    rw [hexecute] at hquery
  · exact draws_of_error (n := n + 4) (e := .sql c.selectText e)
      (by simp only [allocation, hquery]; rfl)
  · obtain ⟨m, items, filter, forUpdate, rfl⟩ : ∃ m items filter forUpdate,
        s = .select m items filter forUpdate := by
      have hrows := (Turn.isRows_of_execute (congrArg Prod.fst hexecute)).mp ⟨q, rfl⟩
      cases s with
      | select m items filter forUpdate => exact ⟨_, _, _, _, rfl⟩
      | createTable | dropTable | insert | update => cases hrows
    obtain ⟨_, ⟨⟩, rfl, hfirst⟩ := Turn.select_cell hexecute
    cases hrow : c.readRow q with
    | error e =>
      exact draws_of_error (n := n + 4) (e := e) (by simp only [allocation, hquery, hrow]; rfl)
    | ok row =>
      obtain ⟨current, advanced⟩ := row
      obtain ⟨value, hvalue, hword⟩ := word_of_readRow hrow
      have hseen : q.firstValue? = [v].head?.map .integer := by
        rw [hvalue, hfirst value hvalue]
        rfl
      have hcurrent : c.Read v current :=
        ⟨type_of_readRow hrow, by rw [hword v (hfirst value hvalue), Integral.toInt_word]⟩
      exact draws_of_running ⟨number, .preparingWrite current advanced⟩
        (by simp only [allocation, hquery, hrow]; rfl)
        (draws_preparingWrite n hs hcurrent (Seen.of_readRow hseen hrow).2)
  · exact draws_of_error (n := n + 4) (e := .sql c.selectText _)
      (by simp only [allocation, hquery]; rfl)

/-- **An allocation on a database with nothing but a table of one cell** fails, or it draws the
value of the cell and moves it on. -/
theorem draws (n : Nat)
    (hs : ∀ s, Statement.ofText c.updateText = .ok s → s.Replaces name column)
    (v : Int64) (opened : Nat) :
    c.Draws name column v (opened + 1)
      ((c.unobserved Database.backend).run (n + 9) .connecting (.cell name column v opened)) := by
  have hstart := unobserved_start c
    (links_linked ⟨.lone name (.cell column v), none⟩ (opened + 1) none) rfl
  rw [after_begin_cell] at hstart
  rw [Work.run_of_running (unobserved_connecting c _), after_connect_cell]
  change c.Draws name column v (opened + 1) ((c.unobserved Database.backend).run (n + 8)
    (.connected (opened + 1) (.deciding [] none)) _)
  rw [Work.run_of_running hstart]
  cases hsql : Statement.ofText c.selectText with
  | error e =>
    have hprepare : (Database.connection (opened + 1)).call (.prepare c.selectText) _ = _ :=
      prepare_linked_of_error hsql (.cell name column v (opened + 1) false) _ none
    exact draws_of_error (n := n + 5) (e := .sql c.selectText e)
      (by simp only [allocation, hprepare]; rfl)
  | ok s =>
    have hprepare : (Database.connection (opened + 1)).call (.prepare c.selectText) _ = _ :=
      prepare_linked hsql (.cell name column v (opened + 1) false) _ none
    exact draws_of_running ⟨1, .reading⟩ (by simp only [allocation, hprepare])
      (draws_reading n hs c.selectText s [])

end Counter

end CounterTable
