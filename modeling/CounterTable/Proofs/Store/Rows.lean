import CounterTable.Proofs.Store.Turns

/-!
# Statements on the rows of one table

Without locks, a statement is a function of the columns and the rows of its table. A connection for
which the table is free executes exactly this function, and otherwise nothing happens.

* `Table.run`: the answer of a statement on a table, and the rows it leaves;
* `Turn.Written`: a turn in which one table was claimed and has these rows;
* **`Turn.execute_of_run`**: what has an effect is executed as `Table.run` says;
* **`Turn.execute_cases`**: all that executing a statement on rows can come to.
-/

namespace CounterTable

namespace Statement

/-- The table that a statement works on. -/
def target : Statement → String
  | createTable name _ _ | dropTable name _ | insert name _ | select name _ _ _
  | update name _ _ => name

/-- The statement leaves the schema alone. -/
def OnRows : Statement → Prop
  | createTable .. | dropTable .. => False
  | _ => True

end Statement

/-- A statement that was executed, with the values bound to it and its answer. -/
structure Deed where
  statement : Statement
  bindings : Bindings
  reply : Reply

namespace Deed

/-- The table that was worked on. -/
def target (d : Deed) : String := d.statement.target

/-- Whether rows were written. -/
def changes (d : Deed) : Bool :=
  match d.reply with
  | .count n => decide (0 < n)
  | .rows _ => false

/-- Whether rows were written, or were read for update. -/
def kept (d : Deed) : Bool :=
  match d.statement with
  | .select _ _ _ forUpdate => forUpdate
  | _ => d.changes

end Deed

namespace Table

variable {t u : Table} {b : Bindings} {s : Statement} {id : Nat}

/-- The table as if nobody had locked it. -/
def plain (t : Table) : Table := { columns := t.columns, rows := t.rows }

/-- The table as the connections see it which do not hold its lock. -/
def base (t : Table) : Table := { columns := t.columns, rows := t.committed }

theorem Sound.plain_of_free (h : t.Sound) (hl : t.lockedBy? = none) : t.plain = t := by
  have hs := h.saved_eq_none hl
  obtain ⟨columns, rows, owner, saved⟩ := t
  cases hl
  cases hs
  rfl

theorem Sound.base_of_free (h : t.Sound) (hl : t.lockedBy? = none) : t.base = t.plain := by
  rw [base, h.committed_eq_rows hl, plain]

theorem base_release_true (hl : t.lockedBy? = some id) : (t.release id true).base = t.plain := by
  rw [release, if_pos hl]
  rfl

theorem base_release_false (t : Table) (id : Nat) : (t.release id false).base = t.base := by
  unfold release
  split <;> rfl

theorem Sound.base_acquire (h : t.Sound) (hf : t.Free id) (rows : List Row) :
    ({ t.acquire id with rows } : Table).base = t.base := by
  rw [base, h.committed_acquire hf, columns_acquire, base]

/-- What a statement answers on a table, and the rows it leaves. Locks play no part. -/
def run (t : Table) (b : Bindings) : Statement → Except Error (Reply × List Row)
  | .insert name rows => (t.newRows name b rows).map fun new => (.count new.length, t.rows ++ new)
  | .select _ items filter _ => (t.plain.select 0 items filter b).map fun r => (.rows r, t.rows)
  | .update _ assignments filter =>
    match t.changes b assignments, t.condition b filter with
    | .error e, _ => .error e
    | .ok _, .error e => .error e
    | .ok changes, .ok condition =>
      .ok (.count (t.rows.countP (Row.meets · condition)), t.changed changes condition)
  | .createTable name .. | .dropTable name _ => .error (.tableNotFound name)

theorem run_congr (hc : t.columns = u.columns) (hr : t.rows = u.rows) (b : Bindings)
    (s : Statement) : t.run b s = u.run b s := by
  obtain ⟨tc, tr, _, _⟩ := t
  obtain ⟨uc, ur, _, _⟩ := u
  cases hc
  cases hr
  rfl

theorem select_eq_plain (h : t.Sound) (hf : t.Free id) (items : List Projection)
    (filter : Option Filter) (b : Bindings) :
    t.select id items filter b = t.plain.select 0 items filter b := by
  have hv : t.plain.visibleRows 0 = t.visibleRows id := (visibleRows_eq_rows h hf).symm
  unfold select
  rw [hv]
  rfl

theorem changed_of_countP_eq_zero {changes : List (Nat × Int64)} {condition : Condition}
    (h : t.rows.countP (Row.meets · condition) = 0) : t.changed changes condition = t.rows := by
  rw [List.countP_eq_zero] at h
  exact (List.map_congr_left fun row hrow => if_neg (h row hrow)).trans (List.map_id t.rows)

theorem rows_of_run {r : Reply} {rows : List Row} (h : t.run b s = .ok (r, rows))
    (hk : Deed.changes ⟨s, b, r⟩ = false) : rows = t.rows := by
  cases s with
  | createTable name columns ifNotExists => cases h
  | dropTable name ifExists => cases h
  | insert name values =>
    simp only [run] at h
    cases hn : t.newRows name b values with
    | error e => rw [hn] at h; cases h
    | ok new =>
      rw [hn] at h
      cases h
      have : new = [] := by simpa [Deed.changes, List.length_pos_iff] using hk
      rw [this, List.append_nil]
  | select name items filter forUpdate =>
    simp only [run] at h
    cases hn : t.plain.select 0 items filter b with
    | error e => rw [hn] at h; cases h
    | ok result => rw [hn] at h; cases h; rfl
  | update name assignments filter =>
    simp only [run] at h
    split at h
    · cases h
    · cases h
    · cases h
      exact changed_of_countP_eq_zero (by simpa [Deed.changes] using hk)

theorem changes_of_not_kept {r : Reply} {rows : List Row} (h : t.run b s = .ok (r, rows))
    (hk : Deed.kept ⟨s, b, r⟩ = false) : Deed.changes ⟨s, b, r⟩ = false := by
  cases s with
  | select name items filter forUpdate =>
    simp only [run] at h
    cases hn : t.plain.select 0 items filter b with
    | error e => rw [hn] at h; cases h
    | ok result => rw [hn] at h; cases h; rfl
  | _ => exact hk

end Table

namespace Turn

variable {id : Nat} {b : Bindings} {s : Statement} {t t' : Turn} {table : Table} {rows : List Row}

/-- A turn after one table was claimed and has come to these rows. -/
structure Written (id : Nat) (name : String) (table : Table) (rows : List Row) (t t' : Turn) :
    Prop where
  get? : ∀ m, t'.storage.get? m =
    if m = name then some { t.claimed id table with rows } else t.storage.get? m
  transaction : t'.transaction = (t.hold id name table).transaction

section Written

variable {name : String} (hw : Written id name table rows t t')

include hw

theorem Written.get?_inside {x : Transaction} (hx : t.transaction = some x) (m : String) :
    t'.storage.get? m =
      if m = name then some { table.acquire id with rows } else t.storage.get? m := by
  have : t.claimed id table = table.acquire id := by rw [claimed, hx]; rfl
  rw [hw.get? m, this]

theorem Written.get?_outside (hx : t.transaction = none) (m : String) :
    t'.storage.get? m = if m = name then some { table with rows } else t.storage.get? m := by
  have : t.claimed id table = table := by rw [claimed, hx]; rfl
  rw [hw.get? m, this]

theorem Written.transaction_inside {x : Transaction} (hx : t.transaction = some x) :
    ∃ y, t'.transaction = some y ∧ y.undo = x.undo := by
  rw [hw.transaction, hold, hx]
  split
  · next y _ hy _ =>
    cases hy
    exact ⟨_, rfl, rfl⟩
  · exact ⟨x, hx, rfl⟩

theorem Written.transaction_outside (hx : t.transaction = none) : t'.transaction = none := by
  rw [hw.transaction, hold, hx]
  exact hx

end Written

theorem claimed_setRows (t : Turn) (id : Nat) (table : Table) :
    { t.claimed id table with rows := table.rows } = t.claimed id table := by
  rw [← claimed_rows t id table]

theorem written_hold {name : String} (h : t.storage.get? name = some table) :
    Written id name table table.rows t (t.hold id name table) where
  get? m := by rw [get?_hold h, claimed_setRows]
  transaction := rfl

theorem written_setRows {name : String} (h : t.storage.get? name = some table) (rows : List Row) :
    Written id name table rows t (t.setRows id name table rows) where
  get? m := by
    rw [setRows, Storage.get?_put]
    split
    · rfl
    · next hm => rw [get?_hold h, if_neg hm]
  transaction := rfl

/-- **What has an effect** is executed as if there were no locks, and claims its table. -/
theorem execute_of_run (h : t.storage.get? s.target = some table) (hs : table.Sound)
    (hf : table.Free id) {r : Reply} (hr : table.run b s = .ok (r, rows))
    (hk : Deed.kept ⟨s, b, r⟩ = true) :
    (execute id b s t).1 = .ok r ∧ Written id s.target table rows t (execute id b s t).2 := by
  cases s with
  | createTable name columns ifNotExists => cases hr
  | dropTable name ifExists => cases hr
  | insert name values =>
    simp only [Table.run] at hr
    cases hn : table.newRows name b values with
    | error e => rw [hn] at hr; cases hr
    | ok new =>
      rw [hn] at hr
      cases hr
      have hx : execute id b (.insert name values) t = _ := insert_of_free h hf
      rw [hn] at hx
      rw [hx]
      exact ⟨rfl, written_setRows h _⟩
  | select name items filter forUpdate =>
    change forUpdate = true at hk
    subst hk
    simp only [Table.run, ← Table.select_eq_plain hs hf] at hr
    have hx : execute id b (.select name items filter true) t = _ :=
      select_forUpdate_of_free h hs hf
    cases hn : table.select id items filter b with
    | error e => rw [hn] at hr; cases hr
    | ok result =>
      rw [hn] at hr hx
      cases hr
      rw [hx]
      exact ⟨rfl, written_hold h⟩
  | update name assignments filter =>
    simp only [Table.run] at hr
    have hx : execute id b (.update name assignments filter) t = _ := update_of_free h hs hf
    split at hr
    · cases hr
    · cases hr
    · next changes condition hc hd =>
      cases hr
      have hpos : 0 < table.rows.countP (Row.meets · condition) := by
        simpa [Deed.kept, Deed.changes] using hk
      have hany : table.rows.any (Row.meets · condition) = true := by
        simpa [List.countP_pos_iff] using hpos
      simp only [hc, hd, hany, if_true] at hx
      rw [hx]
      exact ⟨rfl, written_setRows h _⟩

/-- All that executing a statement on rows can come to. -/
inductive Outcome (id : Nat) (b : Bindings) (s : Statement) (t : Turn) : Prop
  /-- Nothing was changed or claimed. -/
  | idle (h : (execute id b s t).2 = t)
      (hk : ∀ r, (execute id b s t).1 = .ok r → Deed.kept ⟨s, b, r⟩ = false)
  /-- The table was claimed before the statement failed. -/
  | failed {table : Table} {e : Error} (h : t.storage.get? s.target = some table)
      (hf : table.Free id) (hr : (execute id b s t).1 = .error e)
      (hw : Written id s.target table table.rows t (execute id b s t).2)
  | done {table : Table} {r : Reply} {rows : List Row} (h : t.storage.get? s.target = some table)
      (hf : table.Free id) (hr : (execute id b s t).1 = .ok r) (ht : table.run b s = .ok (r, rows))
      (hw : Written id s.target table rows t (execute id b s t).2)

theorem Outcome.of_error {e : Error} (h : execute id b s t = (.error e, t)) : Outcome id b s t :=
  .idle (by rw [h]) fun r hr => by rw [h] at hr; cases hr

theorem insert_outcome {name : String} {values : List (List Operand)} (id : Nat) (b : Bindings)
    (t : Turn) : Outcome id b (.insert name values) t := by
  rcases claim_cases id name t with ⟨e, hc⟩ | ⟨table, h, hf, -⟩
  · exact .of_error (e := e) (by simp only [execute, insert, hc])
  · have hi : execute id b (.insert name values) t = _ := insert_of_free h hf
    cases hn : table.newRows name b values with
    | error e =>
      rw [hn] at hi
      exact .failed h hf (by rw [hi]) (by rw [hi]; exact written_hold h)
    | ok new =>
      rw [hn] at hi
      exact .done h hf (by rw [hi]) (by rw [Table.run, hn]; rfl) (by rw [hi]; exact written_setRows h _)

theorem select_outcome {name : String} {items : List Projection} {filter : Option Filter}
    {forUpdate : Bool} (hs : ∀ table, t.storage.get? name = some table → table.Sound) (id : Nat)
    (b : Bindings) : Outcome id b (.select name items filter forUpdate) t := by
  cases forUpdate with
  | false =>
    refine .idle ?_ fun _ _ => rfl
    simp only [execute, select, Bool.false_eq_true, if_false]
    split <;> rfl
  | true =>
    rcases claim_cases id name t with ⟨e, hc⟩ | ⟨table, h, hf, -⟩
    · exact .of_error (e := e) (by simp only [execute, select, hc, if_true])
    · have hx : execute id b (.select name items filter true) t = _ :=
        select_forUpdate_of_free h (hs table h) hf
      cases hn : table.select id items filter b with
      | error e =>
        rw [hn] at hx
        exact .failed h hf (by rw [hx]; rfl) (by rw [hx]; exact written_hold h)
      | ok result =>
        rw [hn] at hx
        refine .done (r := .rows result) h hf (by rw [hx]; rfl) ?_ (by rw [hx]; exact written_hold h)
        rw [Table.run, ← Table.select_eq_plain (hs table h) hf, hn]
        rfl

theorem update_outcome {name : String} {assignments : List (String × Operand)}
    {filter : Option Filter} (hs : ∀ table, t.storage.get? name = some table → table.Sound) (id : Nat)
    (b : Bindings) : Outcome id b (.update name assignments filter) t := by
  cases h : t.storage.get? name with
  | none => exact .of_error (update_of_none h)
  | some table =>
    by_cases hf : table.Free id
    · have hx : execute id b (.update name assignments filter) t = _ :=
        update_of_free h (hs table h) hf
      cases hc : table.changes b assignments with
      | error e => exact .of_error (e := e) (by rw [hx, hc])
      | ok changes =>
        cases hd : table.condition b filter with
        | error e => exact .of_error (e := e) (by rw [hx, hc, hd])
        | ok condition =>
          rw [hc, hd] at hx
          by_cases hany : table.rows.any (Row.meets · condition) = true
          · simp only [hany, if_true] at hx
            exact .done h hf (by rw [hx]) (by rw [Table.run, hc, hd])
              (by rw [hx]; exact written_setRows h _)
          · simp only [hany] at hx
            refine .idle (by rw [hx]; rfl) fun r hr => ?_
            rw [hx] at hr
            cases hr
            rfl
    · obtain ⟨holder, hl, hne⟩ := Table.exists_holder hf
      exact .of_error (update_of_other h hl hne)

/-- **Executing a statement on rows** does nothing, or claims the table of the statement and leaves
the rows that it has on them without locks. -/
theorem execute_cases (hs : ∀ table, t.storage.get? s.target = some table → table.Sound)
    (hr : s.OnRows) (id : Nat) (b : Bindings) : Outcome id b s t := by
  cases s with
  | createTable => exact hr.elim
  | dropTable => exact hr.elim
  | insert name values => exact insert_outcome id b t
  | select name items filter forUpdate => exact select_outcome hs id b
  | update name assignments filter => exact update_outcome hs id b

end Turn

end CounterTable
