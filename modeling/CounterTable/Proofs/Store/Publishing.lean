import CounterTable.Proofs.Store.Isolation
import CounterTable.Proofs.Store.Exclusion

/-!
# When others see other rows

What the other connections see of a table changes only when somebody commits what he has written, or
writes outside of a transaction. Everything else that happens to the table is a lock, a change that
is not committed yet, or one that is taken back.

* `Database.publishes`: the events that commit a change of the rows of a table;
* **`Database.base_after`**: all other events leave what is committed as it is.
-/

namespace CounterTable

namespace Database

variable {db : Database} {id : Nat} {name : String} {link : Link} {p : Prepared}

/-- The event commits a change of the rows of the table: it ends a transaction that has changed
them, or executes a statement outside of one that writes some of them. -/
def publishes (name : String) (db : Database) : Event → Bool
  | .call id .commit =>
    (db.storage.get? name).any fun t => t.lockedBy? == some id && t.rows != t.committed
  | e => !db.inTransaction (db.actor e) && (db.done? e).any fun d => d.target == name && d.changes

theorem inTransaction_of_prepared (hp : db.prepared? id = .ok (link, p)) :
    db.inTransaction id = link.transaction.isSome := by
  rw [inTransaction_eq, transaction?_of_link (prepared?_eq_ok.mp hp).1]

theorem base_settle (hr : Reachable db) (hrows : p.statement.target = name → p.statement.OnRows)
    (hw : link.transaction = none → ∀ d ∈ db.deedOf id link p, d.target = name →
      d.changes = false) :
    ((db.settle id link (db.executed id link p).2).storage.get? name).map Table.base =
      (db.storage.get? name).map Table.base := by
  let t : Turn := ⟨db.storage, link.transaction⟩
  change ((Turn.execute id p.bindings p.statement t).2.storage.get? name).map Table.base =
    (t.storage.get? name).map Table.base
  have hsound : ∀ m table, t.storage.get? m = some table → table.Sound := fun _ _ => hr.sound
  by_cases hn : name = p.statement.target
  · subst hn
    -- In a transaction the saved rows stay; outside of one the rows do.
    have hwritten : ∀ {table rows t'}, t.storage.get? p.statement.target = some table →
        table.Free id → Turn.Written id p.statement.target table rows t t' →
          (t.transaction = none → rows = table.rows) →
            (t'.storage.get? p.statement.target).map Table.base =
              (t.storage.get? p.statement.target).map Table.base := by
      intro table rows t' hg hf hwr hsame
      cases hx : t.transaction with
      | none =>
        rw [hwr.get?_outside hx, if_pos rfl, hsame hx, hg]
      | some x =>
        rw [hwr.get?_inside hx, if_pos rfl, hg]
        exact congrArg some ((hsound _ _ hg).base_acquire hf rows)
    cases Turn.execute_cases (t := t) (hsound _) (hrows rfl) id p.bindings with
    | idle h _ => rw [h]
    | failed hg hf _ hwr => exact hwritten hg hf hwr fun _ => rfl
    | @done table r rows hg hf hok hrun hwr =>
      refine hwritten hg hf hwr fun hx => Table.rows_of_run hrun (hw hx _ ?_ rfl)
      rw [deedOf, executed, hok]
      rfl
  · cases Turn.execute_course (t := t) (hsound _) id p.bindings with
    | idle h _ => rw [h]
    | failed h _ _ => rw [h.others name hn]
    | done h _ _ => rw [h.others name hn]

theorem base_commit (hr : Reachable db) (hw : db.publishes name (.call id .commit) = false) :
    ((finish id true db).2.storage.get? name).map Table.base =
      (db.storage.get? name).map Table.base := by
  rw [hr.accounted.get?_finish fun _ _ => .inl rfl]
  cases hg : db.storage.get? name with
  | none => rfl
  | some table =>
    refine congrArg some ?_
    by_cases hl : table.lockedBy? = some id
    · rw [publishes, hg] at hw
      have hrows : table.rows = table.committed := by simpa [hl] using hw
      rw [Table.base_release_true hl, Table.plain, Table.base, hrows]
    · exact congrArg Table.base (Table.release_of_ne hl true)

theorem Rested.storage_eq {db' : Database} (h : Rested id db db') : db'.storage = db.storage := by
  cases h with
  | idle hs _ => exact hs
  | began hs _ _ => exact hs

/-- **Nothing else is seen.** Where nobody creates or drops the table, an event that does not commit
a change of its rows leaves what is committed of it as it is. -/
theorem base_after (hr : Reachable db) (hs : ∀ c, Transaction.Spares name (db.transaction? c))
    {e : Event} (hn : ¬ db.Reshapes name e) (hw : db.publishes name e = false) :
    ((db.after e).storage.get? name).map Table.base = (db.storage.get? name).map Table.base := by
  cases e with
  | connect => rfl
  | disconnect id => exact base_after_withdrawal hr .closed (hs id)
  | call id c =>
    cases c with
    | begin =>
      rw [show (db.after (.call id .begin)).storage = _ from (rested_begin id db).storage_eq]
    | commit => exact base_commit hr hw
    | rollback => exact base_after_withdrawal hr .rolledBack (hs id)
    | prepare sql =>
      rw [show (db.after (.call id (.prepare sql))).storage = _ from
        (rested_prepare id sql db).storage_eq]
    | bind position value =>
      rw [show (db.after (.call id (.bind position value))).storage = _ from
        (rested_bind id position value db).storage_eq]
    | query =>
      cases hp : db.prepared? id with
      | error e =>
        rw [show db.after (.call id .query) = db from congrArg Prod.snd (query_after_error hp)]
      | ok lp =>
        rw [show db.after (.call id .query) = _ from query_after hp]
        refine base_settle hr (fun htarget => ?_) fun hx d hd htarget => ?_
        · by_contra hrows
          exact hn ⟨_, _, hp, htarget, hrows⟩
        · have hdone : db.done? (.call id .query) = some d := by rw [done?, hp]; exact hd
          simpa [publishes, hdone, actor, inTransaction_of_prepared hp, hx, htarget] using hw
    | update =>
      cases hp : db.prepared? id with
      | error e =>
        rw [show db.after (.call id .update) = db from congrArg Prod.snd (update_after_error hp)]
      | ok lp =>
        rw [show db.after (.call id .update) = _ from update_after hp]
        split
        · rfl
        · next hreturns =>
          refine base_settle hr (fun htarget => ?_) fun hx d hd htarget => ?_
          · by_contra hrows
            exact hn ⟨_, _, hp, htarget, hrows⟩
          · have hdone : db.done? (.call id .update) = some d := by
              rw [done?, hp]
              exact (if_neg hreturns).trans hd
            simpa [publishes, hdone, actor, inTransaction_of_prepared hp, hx, htarget] using hw

end Database

end CounterTable
