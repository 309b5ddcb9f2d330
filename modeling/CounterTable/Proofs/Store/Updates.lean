import CounterTable.Proofs.Store.Failures

/-!
# Updates

An update looks for rows that satisfy its filter before it takes a lock, and changes them once it
has the lock. What it looks at and what it changes are the same rows, those that its connection
sees, whether or not the table was locked before.

* `Table.satisfies`, `Table.assigned`: filters and assignments, read off a row;
* `Table.Covers`: the columns exist, and the operands have values;
* `Turn.update_cases`: an update that finds nothing, and one that does;
* `Table.Updated`: what becomes of the table for each connection;
* **`Database.update_exact`**: what an update answers and leaves.
-/

namespace CounterTable

/-! ## Filters and assignments -/

namespace Table

/-- Whether a row satisfies a filter: its cell in the column has the value. -/
def satisfies (t : Table) (b : Bindings) (filter : Option Filter) (row : Row) : Bool :=
  match filter with
  | none => true
  | some f =>
    match t.columnIndex f.column, b.resolve f.value with
    | .ok i, .ok v => row[i]? == some v
    | _, _ => false

/-- A row after an assignment. -/
def assignedOne (t : Table) (b : Bindings) (row : Row) (assignment : String × Operand) : Row :=
  match t.columnIndex assignment.1, b.resolve assignment.2 with
  | .ok i, .ok v => row.set i v
  | _, _ => row

/-- A row after assignments, from left to right. -/
def assigned (t : Table) (b : Bindings) (assignments : List (String × Operand)) (row : Row) : Row :=
  assignments.foldl (t.assignedOne b) row

/-- The columns of an update exist, and its operands have values. -/
structure Covers (t : Table) (b : Bindings) (assignments : List (String × Operand))
    (filter : Option Filter) : Prop where
  assigned : ∀ a ∈ assignments, ∃ i v, t.columnIndex a.1 = .ok i ∧ b.resolve a.2 = .ok v
  filtered : ∀ f ∈ filter, ∃ i v, t.columnIndex f.column = .ok i ∧ b.resolve f.value = .ok v

variable {t : Table} {b : Bindings} {assignments : List (String × Operand)} {filter : Option Filter}

theorem exists_condition
    (h : ∀ f ∈ filter, ∃ i v, t.columnIndex f.column = .ok i ∧ b.resolve f.value = .ok v) :
    ∃ condition, t.condition b filter = .ok condition ∧
      (Row.meets · condition) = t.satisfies b filter := by
  cases filter with
  | none => exact ⟨none, rfl, rfl⟩
  | some f =>
    obtain ⟨i, v, hi, hv⟩ := h f rfl
    refine ⟨some (i, v), ?_, funext fun row => ?_⟩
    · rw [condition, hi, hv]
      rfl
    · simp only [Row.meets, satisfies, hi, hv]

theorem exists_changes
    (h : ∀ a ∈ assignments, ∃ i v, t.columnIndex a.1 = .ok i ∧ b.resolve a.2 = .ok v) :
    ∃ changes, t.changes b assignments = .ok changes ∧
      (Row.assign · changes) = t.assigned b assignments := by
  induction assignments with
  | nil => exact ⟨[], rfl, rfl⟩
  | cons a assignments ih =>
    obtain ⟨⟨i, v, hi, hv⟩, hrest⟩ := List.forall_mem_cons.mp h
    obtain ⟨changes, hchanges, hassign⟩ := ih hrest
    refine ⟨(i, v) :: changes, ?_, funext fun row => ?_⟩
    · rw [Table.changes] at hchanges
      rw [Table.changes, List.mapM_cons, hchanges]
      simp only [hi, hv]
      rfl
    · have hone : t.assignedOne b row a = row.set i v := by rw [assignedOne, hi, hv]
      rw [assigned, List.foldl_cons, hone]
      exact congrFun hassign (row.set i v)

/-- What becomes of a table by an update of a connection. -/
structure Updated (id : Nat) (inside : Bool) (rows : List Row) (count : Nat) (t t' : Table) :
    Prop where
  columns : t'.columns = t.columns
  /-- The connection sees the new rows. -/
  own : t'.visibleRows id = rows
  /-- The others see them unless it is in a transaction, and else what they have seen. -/
  others : ∀ c, c ≠ id → t'.visibleRows c = if inside then t.visibleRows c else rows
  /-- A transaction holds the lock if it has held it, or if a row was found. -/
  locked : inside → (t'.lockedBy? = some id ↔ t.lockedBy? = some id ∨ 0 < count)

end Table

/-! ## Turns -/

namespace Turn

variable {id : Nat} {b : Bindings} {name : String} {assignments : List (String × Operand)}
  {filter : Option Filter} {t : Turn} {table : Table}

/-- **An update** counts the rows that satisfy its filter. It leaves the turn alone if there are
none, and else it claims the table and changes them. -/
theorem update_cases (h : t.storage.get? name = some table) (hs : table.Sound)
    (hf : table.Free id) (hc : table.Covers b assignments filter) :
    let count := table.rows.countP (table.satisfies b filter)
    let rows := table.rows.map fun row =>
      if table.satisfies b filter row then table.assigned b assignments row else row
    (update id b name assignments filter t).1 = .ok (.count count) ∧
      (count = 0 ∧ rows = table.rows ∧ (update id b name assignments filter t).2 = t ∨
        0 < count ∧ Written id name table rows t (update id b name assignments filter t).2) := by
  intro count rows
  obtain ⟨changes, hchanges, hassign⟩ := Table.exists_changes hc.assigned
  obtain ⟨condition, hcondition, hmeets⟩ := Table.exists_condition hc.filtered
  have hcount : table.rows.countP (Row.meets · condition) = count := by rw [hmeets]
  have hrows : table.changed changes condition = rows := by
    rw [Table.changed]
    exact List.map_congr_left fun row _ => by
      rw [show row.meets condition = _ from congrFun hmeets row,
        show row.assign changes = _ from congrFun hassign row]
  rw [update_of_free h hs hf, hchanges, hcondition]
  dsimp only
  split
  · next hany =>
    have hpos : 0 < count := by
      rw [← hcount]
      simpa [List.countP_pos_iff] using hany
    rw [hcount, hrows]
    exact ⟨rfl, .inr ⟨hpos, written_setRows h rows⟩⟩
  · next hany =>
    have hzero : count = 0 := by
      rw [← hcount, List.countP_eq_zero]
      simpa using hany
    have hsame : rows = table.rows := by
      rw [← hrows]
      exact Table.changed_of_countP_eq_zero (hcount.trans hzero)
    rw [hzero]
    exact ⟨rfl, .inl ⟨rfl, hsame, rfl⟩⟩

theorem Written.updated {t' : Turn} {rows : List Row} {count : Nat} (hs : table.Sound)
    (hf : table.Free id) (hfree : t.transaction = none → table.lockedBy? = none)
    (hpos : 0 < count) (hw : Written id name table rows t t') :
    ∃ table', t'.storage.get? name = some table' ∧
      table.Updated id t.transaction.isSome rows count table' := by
  cases hx : t.transaction with
  | none =>
    have hl := hfree hx
    have hall : ∀ c, ({ table with rows } : Table).visibleRows c = rows := fun c => by
      simp [Table.visibleRows, hl]
    exact ⟨_, (hw.get?_outside hx name).trans (if_pos rfl),
      ⟨rfl, hall id, fun c _ => hall c, fun h => by cases h⟩⟩
  | some x =>
    have hheld : ({ table.acquire id with rows } : Table).lockedBy? = some id :=
      hf.lockedBy?_acquire
    have hsound : ({ table.acquire id with rows } : Table).Sound := hs.acquire id
    refine ⟨_, (hw.get?_inside hx name).trans (if_pos rfl),
      ⟨Table.columns_acquire table id, Table.visibleRows_eq_rows hsound (.inr hheld),
        fun c hc => ?_, fun _ => iff_of_true hheld (.inr hpos)⟩⟩
    have hne : ({ table.acquire id with rows } : Table).lockedBy? ≠ some c := by
      rw [hheld]
      exact fun h => hc (Option.some.inj h).symm
    have hne' : table.lockedBy? ≠ some c := fun h => hc (hf.eq_of_locked h)
    rw [Table.visibleRows_eq_committed hsound hne, hs.committed_acquire hf,
      Table.visibleRows_eq_committed hs hne', Option.isSome_some, if_pos rfl]

theorem updated_self {inside : Bool} (hs : table.Sound) (hf : table.Free id)
    (hfree : inside = false → table.lockedBy? = none) :
    table.Updated id inside table.rows 0 table where
  columns := rfl
  own := Table.visibleRows_eq_rows hs hf
  others c _ := by
    cases hi : inside with
    | true => rfl
    | false => exact Table.visibleRows_eq_rows hs (.inl (hfree hi))
  locked _ := by simp

end Turn

namespace Database

variable {db : Database} {id : Nat} {link : Link} {b : Bindings} {name : String}
  {assignments : List (String × Operand)} {filter : Option Filter} {table : Table}

/-- **Updates are exact.** If no other connection has locked the table, the columns exist and the
operands have values, an update answers the number of rows that its connection sees and that satisfy
the filter. It changes these rows by its assignments, one after another, and nothing else: others
see the new rows unless the connection is in a transaction, which holds the lock if a row was
changed. -/
theorem update_exact (h : Reachable db) (hl : db.links.get? id = some link)
    (hg : db.storage.get? name = some table) (hf : table.Free id)
    (hc : table.Covers b assignments filter) :
    let count := (table.visibleRows id).countP (table.satisfies b filter)
    let rows := (table.visibleRows id).map fun row =>
      if table.satisfies b filter row then table.assigned b assignments row else row
    let (answer, db') := run id b (.update name assignments filter) db
    answer = .ok (.count count) ∧
      (∃ table', db'.storage.get? name = some table' ∧
        table.Updated id (db.inTransaction id) rows count table') ∧
      (∀ m, m ≠ name → db'.storage.get? m = db.storage.get? m) ∧
      ∀ c, c ≠ id → db'.links.get? c = db.links.get? c := by
  have hs := h.sound hg
  have hx := transaction?_of_link hl
  have hfree : link.transaction = none → table.lockedBy? = none := fun hnone =>
    hf.resolve_right (h.accounted.lockedBy?_ne (hx.trans hnone) hg)
  obtain ⟨hanswer, hcases⟩ :=
    Turn.update_cases (t := ⟨db.storage, link.transaction⟩) hg hs hf hc
  rw [Table.visibleRows_eq_rows hs hf, run_eq hl, withTurn_eq, inTransaction_eq, hx]
  refine ⟨hanswer, ?_, fun m hm => ?_, fun c hc => by rw [links_settle, if_neg hc]⟩
  · rcases hcases with ⟨hcount, hrows, hidle⟩ | ⟨hpos, hw⟩
    · refine ⟨table, by rw [storage_settle]; exact (congrArg (·.storage.get? name) hidle).trans hg,
        ?_⟩
      rw [hcount, hrows]
      exact Turn.updated_self hs hf fun hinside => hfree (by simpa using hinside)
    · exact hw.updated hs hf hfree hpos
  · rcases hcases with ⟨-, -, hidle⟩ | ⟨-, hw⟩
    · exact congrArg (·.storage.get? m) hidle
    · exact (hw.get? m).trans (if_neg hm)

/-- A connection with a committed row, in a transaction. -/
def five : Database := (ready.after (.call 1 .update)).after (.call 1 .begin)

/-- The column is assigned twice. Its last value is seen by the connection, and by no other. -/
theorem update_exact_five :
    let assignments : List (String × Operand) := [("v", .literal 6), ("V", .literal 7)]
    let (answer, db) := run 1 [] (.update "t" assignments (some ⟨"v", .literal 5⟩)) five
    answer = .ok (.count 1) ∧ ∃ table, db.storage.get? "t" = some table ∧
      table.visibleRows 1 = [[7]] ∧ table.visibleRows 2 = [[5]] ∧ table.lockedBy? = some 1 := by
  intro assignments
  have hreachable : Reachable five := (ready_reachable.after (.call 1 .update)).after _
  obtain ⟨link, hopen⟩ : ∃ link, five.links.get? 1 = some link :=
    Option.isSome_iff_exists.mp (by decide +kernel)
  have hfive : five.storage.get? "t" = some ⟨["v"], [[5]], none, none⟩ := by decide +kernel
  have hcovers : Table.Covers ⟨["v"], [[5]], none, none⟩ [] assignments
      (some ⟨"v", .literal 5⟩) := by
    refine ⟨List.forall_mem_cons.mpr ⟨⟨0, 6, by decide, rfl⟩, ?_⟩, ?_⟩
    · exact List.forall_mem_singleton.mpr ⟨0, 7, by decide, rfl⟩
    · rintro f ⟨⟩
      exact ⟨0, 5, by decide, rfl⟩
  obtain ⟨hanswer, ⟨table, hg, hupdated⟩, -⟩ :=
    update_exact hreachable hopen hfive (.inl rfl) hcovers
  exact ⟨hanswer, table, hg, hupdated.own, hupdated.others 2 (by decide),
    (hupdated.locked rfl).mpr (.inr (by decide))⟩

end Database

end CounterTable
