import CounterTable.Proofs.Store.Agreement

/-!
# What a lock keeps others from

While a connection holds the lock of a table, nothing that another connection does changes the
table, not even its rows, its lock or its saved rows, unless the other one can take back that it has
created or dropped a table of this name.

* `Database.Happens`: what an event can be;
* `Database.Reshapes`, `Database.spares_after`: events that create or drop a table, and all others;
* `Database.Locked`: the connection holds the lock;
* **`Database.Locked.shields`**: nobody else changes the table;
* `Database.Locked.keeps`: how long it goes on.
-/

namespace CounterTable

namespace Turn

variable {id : Nat} {b : Bindings} {s : Statement} {name : String} {t : Turn} {table : Table}

theorem get?_execute_of_other (hs : ∀ m table, t.storage.get? m = some table → table.Sound)
    (hg : t.storage.get? name = some table) {holder : Nat} (hl : table.lockedBy? = some holder)
    (hne : holder ≠ id) (b : Bindings) (s : Statement) :
    (execute id b s t).2.storage.get? name = t.storage.get? name := by
  have hworks : ∀ {t'}, Works id s.target t t' → t'.storage.get? name = t.storage.get? name := by
    intro t' hw
    by_cases hn : name = s.target
    · exact absurd ((hw.before table (hn ▸ hg)).eq_of_locked hl) hne
    · exact hw.others name hn
  cases execute_course (hs s.target) id b with
  | idle h _ => rw [h]
  | failed h _ _ => exact hworks h
  | done h _ _ => exact hworks h

theorem undo_execute (hs : ∀ table, t.storage.get? s.target = some table → table.Sound)
    (hr : s.OnRows) (id : Nat) (b : Bindings) :
    (execute id b s t).2.transaction.map Transaction.undo = t.transaction.map Transaction.undo := by
  have hwritten : ∀ {t' name table rows}, Written id name table rows t t' →
      t'.transaction.map Transaction.undo = t.transaction.map Transaction.undo := by
    intro t' name table rows hw
    cases hx : t.transaction with
    | none => rw [hw.transaction_outside hx]
    | some x =>
      obtain ⟨y, hy, hu⟩ := hw.transaction_inside hx
      rw [hy, Option.map_some, Option.map_some, hu]
  cases execute_cases hs hr id b with
  | idle h _ => rw [h]
  | failed _ _ _ hw => exact hwritten hw
  | done _ _ _ _ hw => exact hwritten hw

theorem spares_execute_of_ne (hs : ∀ table, t.storage.get? s.target = some table → table.Sound)
    (hn : name ≠ s.target) (id : Nat) (b : Bindings) :
    Transaction.Spares name (execute id b s t).2.transaction ↔
      Transaction.Spares name t.transaction := by
  cases execute_course hs id b with
  | idle h _ => rw [h]
  | failed h _ _ => exact (h.elsewhere hn).1
  | done h _ _ => exact (h.elsewhere hn).1

theorem locked_execute (hs : ∀ m table, t.storage.get? m = some table → table.Sound)
    (hg : t.storage.get? name = some table) (hl : table.lockedBy? = some id) (hr : s.OnRows)
    (b : Bindings) :
    ∃ table', (execute id b s t).2.storage.get? name = some table' ∧
      table'.lockedBy? = some id := by
  have hwritten : ∀ {t' u rows}, t.storage.get? s.target = some u →
      Written id s.target u rows t t' →
        ∃ table', t'.storage.get? name = some table' ∧ table'.lockedBy? = some id := by
    intro t' u rows hu hw
    by_cases hn : name = s.target
    · obtain rfl : u = table := Option.some.inj (hu.symm.trans (hn ▸ hg))
      have : t.claimed id u = u := by
        unfold claimed
        rw [Table.acquire_of_locked hl, ite_self]
      exact ⟨_, (hw.get? name).trans (if_pos hn), by rw [this]; exact hl⟩
    · exact ⟨table, ((hw.get? name).trans (if_neg hn)).trans hg, hl⟩
  cases execute_cases (hs s.target) hr id b with
  | idle h _ => exact ⟨table, by rw [h, hg], hl⟩
  | failed hu _ _ hw => exact hwritten hu hw
  | done hu _ _ _ hw => exact hwritten hu hw

end Turn

theorem Transaction.Spares.of_undo {name : String} {x y : Option Transaction}
    (h : Spares name x) (hu : y.map Transaction.undo = x.map Transaction.undo) : Spares name y := by
  rintro z rfl u hin
  obtain ⟨z', hz, he⟩ := Option.map_eq_some_iff.mp hu.symm
  exact h z' hz u (by rw [he]; exact hin)

namespace Database

variable {db : Database} {id : Nat} {name : String}

/-- The event executes a statement that creates or drops the table. -/
def Reshapes (name : String) (db : Database) : Event → Prop
  | .call id .query | .call id .update => ∃ link p, db.prepared? id = .ok (link, p) ∧
    p.statement.target = name ∧ ¬ p.statement.OnRows
  | _ => False

/-- All that an event can be: one that leaves the storage alone, the execution of a prepared
statement, or the end of a transaction. -/
inductive Happens (db : Database) (e : Event) : Prop
  | rested (h : Rested (db.actor e) db (db.after e))
  | executed {link : Link} {p : Prepared} (hp : db.prepared? (db.actor e) = .ok (link, p))
      (hs : ¬ p.statement.OnRows → db.Reshapes p.statement.target e)
      (h : db.after e = db.settle (db.actor e) link (db.executed (db.actor e) link p).2)
  | ended (keep : Bool) (he : Ending (db.actor e) e)
      (hs : (db.after e).storage = (finish (db.actor e) keep db).2.storage)

theorem happens (h : db.Numbered) (e : Event) : db.Happens e := by
  cases e with
  | connect => exact .rested (rested_connect h)
  | disconnect id =>
    exact .ended false .closed (storage_disconnect id db)
  | call id c =>
    cases c with
    | begin => exact .rested (rested_begin id db)
    | commit => exact .ended true .committed rfl
    | rollback => exact .ended false .rolledBack (storage_rollback id db)
    | prepare sql => exact .rested (rested_prepare id sql db)
    | bind position value => exact .rested (rested_bind id position value db)
    | query =>
      cases hp : db.prepared? id with
      | error e =>
        refine .rested (.idle ?_ ?_) <;>
          rw [show db.after (.call id .query) = db from congrArg Prod.snd (query_after_error hp)]
      | ok lp => exact .executed hp (fun hs => ⟨_, _, hp, rfl, hs⟩) (query_after hp)
    | update =>
      cases hp : db.prepared? id with
      | error e =>
        refine .rested (.idle ?_ ?_) <;>
          rw [show db.after (.call id .update) = db from congrArg Prod.snd (update_after_error hp)]
      | ok lp =>
        have hafter : db.after (.call id .update) = _ := update_after hp
        cases hs : lp.2.statement.returnsRows with
        | true =>
          rw [hs, if_pos rfl] at hafter
          exact .rested (.idle (by rw [hafter]) (by rw [hafter]))
        | false =>
          rw [hs, if_neg Bool.false_ne_true] at hafter
          exact .executed hp (fun hs => ⟨_, _, hp, rfl, hs⟩) hafter

theorem spares_after (hr : Reachable db) {e : Event} (he : ¬ db.Reshapes name e)
    (hs : ∀ c, Transaction.Spares name (db.transaction? c)) (c : Nat) :
    Transaction.Spares name ((db.after e).transaction? c) := by
  by_cases hc : c = db.actor e
  · subst hc
    cases db.happens hr.numbered e with
    | rested h =>
      cases h with
      | idle _ hx =>
        rw [hx]
        exact hs _
      | began _ _ hx =>
        rw [hx]
        intro y hy u hu
        cases hy
        cases hu
    | @executed link p hp hreshapes h =>
      rw [h, transaction?_settle, if_pos rfl]
      have hs := hs (db.actor e)
      rw [transaction?_of_link (prepared?_eq_ok.mp hp).1] at hs
      by_cases hrows : p.statement.OnRows
      · exact hs.of_undo (Turn.undo_execute (fun _ hg => hr.sound hg) hrows _ _)
      · have hn : name ≠ p.statement.target := fun hn => he (hn ▸ hreshapes hrows)
        exact (Turn.spares_execute_of_ne (fun _ hg => hr.sound hg) hn _ _).mpr hs
    | ended _ hending _ => exact .of_none (hending.transaction?_after db) name
  · rw [transaction?_after e hc]
    exact hs c

/-- The connection holds the lock of the table. -/
def Locked (db : Database) (name : String) (id : Nat) : Prop :=
  ∃ table, db.storage.get? name = some table ∧ table.lockedBy? = some id

/-- **While a connection holds the lock** of a table, no event of another one changes the table. -/
theorem Locked.shields (h : db.Locked name id) (hr : Reachable db) {e : Event}
    (hne : db.actor e ≠ id) (hs : Transaction.Spares name (db.transaction? (db.actor e))) :
    (db.after e).storage.get? name = db.storage.get? name := by
  obtain ⟨table, hg, hl⟩ := h
  cases db.happens hr.numbered e with
  | rested h =>
    cases h with
    | idle hst _ => rw [hst]
    | began hst _ _ => rw [hst]
  | executed _ _ h =>
    rw [h, storage_settle]
    exact Turn.get?_execute_of_other (fun _ _ hm => hr.sound hm) hg hl (Ne.symm hne) _ _
  | ended keep _ hst =>
    rw [hst]
    refine hr.accounted.get?_finish_of_not_holds ?_ keep
    rintro (hx | ⟨u, hu, hlu⟩)
    · exact hx hs
    · cases hg.symm.trans hu
      exact hne (Option.some.inj (hlu.symm.trans hl))

theorem Locked.keeps (h : db.Locked name id) (hr : Reachable db) {e : Event}
    (hid : db.actor e = id) (he : ¬ Ending id e) (hn : ∀ m, ¬ db.Reshapes m e) :
    (db.after e).Locked name id := by
  subst hid
  cases db.happens hr.numbered e with
  | rested h' =>
    cases h' with
    | idle hst _ =>
      rw [Locked, hst]
      exact h
    | began hst _ _ =>
      rw [Locked, hst]
      exact h
  | @executed link p _ hreshapes h' =>
    have hrows : p.statement.OnRows := by
      by_contra hs
      exact hn _ (hreshapes hs)
    obtain ⟨table, hg, hl⟩ := h
    rw [Locked, h', storage_settle]
    exact Turn.locked_execute (fun _ _ hm => hr.sound hm) hg hl hrows _
  | ended _ hending _ => exact absurd hending he

end Database

end CounterTable
