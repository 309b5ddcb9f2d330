import CounterTable.Proofs.Store.Locks
import CounterTable.Proofs.Store.Rows

/-!
# Statements without an effect

A statement that fails leaves every table, and what each connection sees of it, as it is. Only a
lock may stay behind that the statement has taken inside a transaction before it failed. A statement
that is executed for rows that it does not answer fails as well, but too late for this.

* `Turn.OnlyLocks`: a turn that has taken one lock at most;
* `Turn.onlyLocks_of_error`: what a statement that fails comes to;
* `Database.run`, `Database.query_eq_run`, `Database.update_eq_run`: a statement on a connection;
* `Database.Unaffected`: what stays as it is;
* **`Database.failures_atomic`**: statements that fail;
* **`Database.query_keeps_effect`**: statements that are executed for rows they do not answer.
-/

namespace CounterTable

theorem Table.visibleRows_acquire {table : Table} (hl : table.lockedBy? = none) (id reader : Nat) :
    (table.acquire id).visibleRows reader = table.visibleRows reader := by
  simp [Table.acquire_of_free hl, Table.visibleRows, hl]

/-! ## Turns -/

namespace Turn

variable {id : Nat} {b : Bindings} {s : Statement} {t t' : Turn} {table : Table} {e : Error}

/-- A turn in which nothing has changed, but that a transaction may have taken a free lock. -/
inductive OnlyLocks (id : Nat) (t t' : Turn) : Prop
  | nothing (hs : ∀ m, t'.storage.get? m = t.storage.get? m) (hx : t'.transaction = t.transaction)
  | lock {name : String} {table : Table} {x : Transaction} (h : t.storage.get? name = some table)
      (hl : table.lockedBy? = none) (hx : t.transaction = some x)
      (hs : ∀ m, t'.storage.get? m =
        if m = name then some (table.acquire id) else t.storage.get? m)
      (hx' : t'.transaction = some { x with locked := name :: x.locked })

theorem OnlyLocks.refl (id : Nat) (t : Turn) : OnlyLocks id t t := .nothing (fun _ => rfl) rfl

theorem Written.onlyLocks {name : String} (h : t.storage.get? name = some table)
    (hf : table.Free id) (hw : Written id name table table.rows t t') : OnlyLocks id t t' := by
  have hsame : { t.claimed id table with rows := table.rows } = t.claimed id table :=
    claimed_setRows t id table
  rcases hf with hl | hl
  · cases hx : t.transaction with
    | none =>
      refine .nothing (fun m => ?_) (by rw [hw.transaction_outside hx, hx])
      rw [hw.get?_outside hx]
      split
      · next hm => rw [hm, h]
      · rfl
    | some x =>
      refine .lock h hl hx (fun m => ?_) ?_
      · rw [hw.get? m, hsame, claimed, hx]
        rfl
      · rw [hw.transaction, hold, hx, hl]
  · have hclaimed : t.claimed id table = table := by
      rw [claimed, Table.acquire_of_locked hl, ite_self]
    refine .nothing (fun m => ?_) ?_
    · rw [hw.get? m, hsame, hclaimed]
      split
      · next hm => rw [hm, h]
      · rfl
    · have hhold : t.hold id name table = t := by
        unfold hold
        rw [hl]
        split
        · next hnone => cases hnone
        · rfl
      rw [hw.transaction, hhold]

theorem OnlyLocks.get?_cases (h : OnlyLocks id t t') (m : String) :
    t'.storage.get? m = t.storage.get? m ∨ ∃ table, t.storage.get? m = some table ∧
      table.lockedBy? = none ∧ t'.storage.get? m = some (table.acquire id) := by
  cases h with
  | nothing hs _ => exact .inl (hs m)
  | @lock name table x hg hl hx hs hx' =>
    by_cases hm : m = name
    · subst hm
      exact .inr ⟨table, hg, hl, (hs m).trans (if_pos rfl)⟩
    · exact .inl ((hs m).trans (if_neg hm))

theorem OnlyLocks.undo (h : OnlyLocks id t t') :
    t'.transaction.map Transaction.undo = t.transaction.map Transaction.undo := by
  cases h with
  | nothing _ hx => rw [hx]
  | lock _ _ hx _ hx' =>
    rw [hx, hx']
    rfl

theorem createTable_of_error {name : String} {columns : List String} {ifNotExists : Bool}
    (h : (createTable name columns ifNotExists t).1 = .error e) :
    (createTable name columns ifNotExists t).2 = t := by
  unfold createTable at h ⊢
  split
  · rfl
  · next hexists =>
    rw [if_neg hexists] at h
    cases hc : t.storage.create name columns with
    | error e => rfl
    | ok storage =>
      rw [hc] at h
      cases h

theorem dropTable_of_error {name : String} {ifExists : Bool}
    (h : (dropTable id name ifExists t).1 = .error e) : (dropTable id name ifExists t).2 = t := by
  unfold dropTable at h ⊢
  split
  · next hexists =>
    rw [if_pos hexists] at h
    obtain ⟨e, hc⟩ | ⟨table, hg, -, hc⟩ := claim_cases id name t
    · rw [hc]
    · -- The table that was claimed is there, so that it can be dropped.
      rw [hc] at h
      dsimp only at h
      rw [Storage.drop_of_get? (get?_hold_self hg)] at h
      cases h
  · split <;> rfl

/-- **A statement that fails** has taken one lock at most. -/
theorem onlyLocks_of_error (hs : ∀ table, t.storage.get? s.target = some table → table.Sound)
    (h : (execute id b s t).1 = .error e) : OnlyLocks id t (execute id b s t).2 := by
  have hrows : s.OnRows → OnlyLocks id t (execute id b s t).2 := by
    intro hr
    cases execute_cases hs hr id b with
    | idle hidle _ =>
      rw [hidle]
      exact .refl id t
    | failed hg hf _ hw => exact hw.onlyLocks hg hf
    | done _ _ hr _ _ => cases h.symm.trans hr
  cases s with
  | createTable name columns ifNotExists =>
    rw [show (execute id b (.createTable name columns ifNotExists) t).2 = t from
      createTable_of_error h]
    exact .refl id t
  | dropTable name ifExists =>
    rw [show (execute id b (.dropTable name ifExists) t).2 = t from dropTable_of_error h]
    exact .refl id t
  | insert | select | update => exact hrows trivial

theorem onlyLocks_of_count_zero
    (hs : ∀ table, t.storage.get? s.target = some table → table.Sound) (hr : s.OnRows)
    (h : (execute id b s t).1 = .ok (.count 0)) : OnlyLocks id t (execute id b s t).2 := by
  cases execute_cases hs hr id b with
  | idle hidle _ =>
    rw [hidle]
    exact .refl id t
  | failed hg hf _ hw => exact hw.onlyLocks hg hf
  | done hg hf hr' ht hw =>
    cases Except.ok.inj (h.symm.trans hr')
    rw [Table.rows_of_run ht rfl] at hw
    exact hw.onlyLocks hg hf

theorem execute_ne_rows (hs : s.returnsRows = false) {result : QueryResult} :
    (execute id b s t).1 ≠ .ok (.rows result) := fun h =>
  absurd ((isRows_of_execute h).mp ⟨result, rfl⟩) (by rw [hs]; exact Bool.false_ne_true)

end Turn

/-! ## Databases -/

namespace Database

/-- Runs a statement on a connection. -/
def run (id : Nat) (b : Bindings) (s : Statement) : Action Database Reply := fun db =>
  match db.links.get? id with
  | none => (.error (closed id), db)
  | some link => withTurn id link (Turn.execute id b s) db

variable {db db' : Database} {id : Nat} {link : Link} {p : Prepared} {b : Bindings} {s : Statement}
  {e : Error}

theorem run_eq (hl : db.links.get? id = some link) (b : Bindings) (s : Statement) :
    run id b s db = withTurn id link (Turn.execute id b s) db := by
  rw [run, hl]

theorem query_eq_run (h : db.prepared? id = .ok (link, p)) :
    query id db =
      ((run id p.bindings p.statement db).1.bind fun
        | .rows result => .ok result
        | .count _ => .error (.unsupported s!"statement does not return rows: {p.sql}"),
      (run id p.bindings p.statement db).2) := by
  simp only [query, h, run_eq (prepared?_eq_ok.mp h).1]
  rcases withTurn id link (Turn.execute id p.bindings p.statement) db with ⟨_ | _ | _, db⟩ <;> rfl

theorem update_eq_run (h : db.prepared? id = .ok (link, p)) :
    update id db =
      if p.statement.returnsRows then
        (.error (.unsupported s!"query passed to execute_update: {p.sql}"), db)
      else
        ((run id p.bindings p.statement db).1.map fun
          | .count n => n
          | .rows result => result.rowCount,
        (run id p.bindings p.statement db).2) := by
  simp only [update, h, run_eq (prepared?_eq_ok.mp h).1]
  split
  · rfl
  · rcases withTurn id link (Turn.execute id p.bindings p.statement) db with
      ⟨_ | _ | _, db⟩ <;> rfl

/-- Nothing has happened to the database, but that a connection may have taken a free lock inside
its transaction. -/
structure Unaffected (id : Nat) (db db' : Database) : Prop where
  /-- The tables are the same, with the same columns, -/
  columns : ∀ name, (db'.storage.get? name).map Table.columns =
    (db.storage.get? name).map Table.columns
  /-- each connection sees the same rows of them, -/
  visibleRows : ∀ reader name, (db'.storage.get? name).map (Table.visibleRows · reader) =
    (db.storage.get? name).map (Table.visibleRows · reader)
  /-- can take the same changes back, -/
  undo : ∀ c, (db'.transaction? c).map Transaction.undo = (db.transaction? c).map Transaction.undo
  /-- and holds the same locks, unless it is the connection itself. -/
  locks : ∀ c, c ≠ id → ∀ name, (db'.storage.get? name).any (·.lockedBy? = some c) =
    (db.storage.get? name).any (·.lockedBy? = some c)
  others : ∀ c, c ≠ id → db'.links.get? c = db.links.get? c
  prepared : (db'.links.get? id).map Link.prepared = (db.links.get? id).map Link.prepared
  own : Turn.OnlyLocks id ⟨db.storage, db.transaction? id⟩ ⟨db'.storage, db'.transaction? id⟩

theorem Unaffected.of_onlyLocks
    (own : Turn.OnlyLocks id ⟨db.storage, db.transaction? id⟩ ⟨db'.storage, db'.transaction? id⟩)
    (others : ∀ c, c ≠ id → db'.links.get? c = db.links.get? c)
    (prepared : (db'.links.get? id).map Link.prepared = (db.links.get? id).map Link.prepared) :
    Unaffected id db db' where
  columns name := by
    obtain hsame | ⟨table, hg, -, hg'⟩ := own.get?_cases name
    · exact congrArg _ hsame
    · simp only at hg hg'
      rw [hg, hg', Option.map_some, Option.map_some, Table.columns_acquire]
  visibleRows reader name := by
    obtain hsame | ⟨table, hg, hl, hg'⟩ := own.get?_cases name
    · exact congrArg _ hsame
    · simp only at hg hg'
      rw [hg, hg', Option.map_some, Option.map_some, Table.visibleRows_acquire hl]
  undo c := by
    by_cases hc : c = id
    · rw [hc]
      exact own.undo
    · rw [transaction?, others c hc, transaction?]
  locks c hc name := by
    obtain hsame | ⟨table, hg, hl, hg'⟩ := own.get?_cases name
    · exact congrArg _ hsame
    · simp only at hg hg'
      simp [hg, hg', hl, Table.acquire_of_free hl, Ne.symm hc]
  others := others
  prepared := prepared
  own := own

theorem Unaffected.refl (id : Nat) (db : Database) : Unaffected id db db :=
  .of_onlyLocks (.refl id _) (fun _ _ => rfl) rfl

theorem unaffected_settle {t : Turn} (hl : db.links.get? id = some link)
    (h : Turn.OnlyLocks id ⟨db.storage, link.transaction⟩ t) :
    Unaffected id db (db.settle id link t) := by
  refine .of_onlyLocks ?_ (fun c hc => by rw [links_settle, if_neg hc]) ?_
  · rw [transaction?_settle, if_pos rfl, transaction?_of_link hl]
    exact h
  · rw [links_settle, if_pos rfl, hl]
    rfl

/-- **Statements are atomic.** A statement that fails leaves the tables, their columns, the rows
that each connection sees, what transactions can take back and what others have locked as they are;
its connection may at most have locked the table, if it is in a transaction. -/
theorem failures_atomic (h : Reachable db) (id : Nat) (b : Bindings) (s : Statement)
    (he : (run id b s db).1 = .error e) : Unaffected id db (run id b s db).2 := by
  cases hl : db.links.get? id with
  | none =>
    rw [run, hl]
    exact .refl id db
  | some link =>
    rw [run_eq hl, withTurn_eq] at he ⊢
    exact unaffected_settle hl (Turn.onlyLocks_of_error (fun _ hg => h.sound hg) he)

/-- The second row is too wide, and the statement fails once it has locked the table. -/
theorem failures_atomic_wide :
    let db := ready.after (.call 1 .begin)
    let wide : Statement := .insert "t" [[.literal 5], [.literal 5, .literal 6]]
    (run 1 [] wide db).1 = .error (.unsupported "t has 1 columns but 2 values were given") ∧
      (run 1 [] wide db).2.storage.get? "t" = some ⟨["v"], [], some 1, some []⟩ ∧
      Unaffected 1 db (run 1 [] wide db).2 := by
  intro db wide
  have he : (run 1 [] wide db).1 =
      .error (.unsupported "t has 1 columns but 2 values were given") := by decide +kernel
  exact ⟨he, by decide +kernel,
    failures_atomic (ready_reachable.after (.call 1 .begin)) 1 [] wide he⟩

/-! ## Statements that are executed for rows -/

theorem query_of_count (hp : db.prepared? id = .ok (link, p))
    (hs : p.statement.returnsRows = false) :
    query id db =
      (.error (match (update id db).1 with
        | .error e => e
        | .ok _ => .unsupported s!"statement does not return rows: {p.sql}"),
      (update id db).2) := by
  rw [query_eq_run hp, update_eq_run hp, hs, if_neg Bool.false_ne_true]
  refine Prod.ext ?_ rfl
  cases hr : (run id p.bindings p.statement db).1 with
  | error e => rfl
  | ok r =>
    cases r with
    | count n => rfl
    | rows result =>
      rw [run_eq (prepared?_eq_ok.mp hp).1] at hr
      exact absurd hr (Turn.execute_ne_rows hs)

theorem unaffected_update (h : Reachable db) (hp : db.prepared? id = .ok (link, p))
    (hs : p.statement.returnsRows = false)
    (hn : ∀ n, (update id db).1 = .ok n → n = 0 ∧ p.statement.OnRows) :
    Unaffected id db (update id db).2 := by
  have hsound : ∀ table, db.storage.get? p.statement.target = some table → table.Sound :=
    fun _ hg => h.sound hg
  rw [update_after hp, hs, if_neg Bool.false_ne_true]
  refine unaffected_settle (prepared?_eq_ok.mp hp).1 ?_
  cases hx : (db.executed id link p).1 with
  | error e => exact Turn.onlyLocks_of_error hsound hx
  | ok r =>
    cases r with
    | rows result => exact absurd hx (Turn.execute_ne_rows hs)
    | count n =>
      obtain ⟨rfl, hrows⟩ := hn n (by rw [update_answer hp hs, hx])
      exact Turn.onlyLocks_of_count_zero hsound hrows hx

theorem calls_of_ofText {sql : String} (hl : db.links.get? id = some link)
    (htext : Statement.ofText sql = .ok s) :
    let db' := db.after (.call id (.prepare sql))
    db'.prepared? id = .ok ({ link with prepared := some ⟨sql, s, []⟩ }, ⟨sql, s, []⟩) ∧
      (connection id).query sql db = query id db' ∧
      (connection id).execute sql db = update id db' := by
  have hprepare := prepare_of_ofText hl htext
  rw [after_prepare hl htext]
  refine ⟨?_, ?_, ?_⟩
  · rw [prepared?_eq_ok]
    simp
  · simp only [Connection.query, Action.andThen, connection, hprepare]
  · simp only [Connection.execute, Action.andThen, connection, hprepare]

/-- **Executing for rows what answers none** fails, but leaves what the statement has done. A
selection that is executed for a count is refused before it is run. -/
theorem query_keeps_effect (h : Reachable db) (id : Nat) :
    (∀ link p, db.prepared? id = .ok (link, p) → p.statement.returnsRows = true →
      update id db = (.error (.unsupported s!"query passed to execute_update: {p.sql}"), db)) ∧
    (∀ link p, db.prepared? id = .ok (link, p) → p.statement.returnsRows = false →
      (∃ e, (query id db).1 = .error e) ∧ (query id db).2 = (update id db).2 ∧
        ((∀ n, (update id db).1 = .ok n → n = 0 ∧ p.statement.OnRows) →
          Unaffected id db (query id db).2)) ∧
    ∀ link sql s, db.links.get? id = some link → Statement.ofText sql = .ok s →
      s.returnsRows = false → (∃ e, ((connection id).query sql db).1 = .error e) ∧
        ((connection id).query sql db).2 = ((connection id).execute sql db).2 := by
  refine ⟨fun link p hp hs => ?_, fun link p hp hs => ?_, fun link sql s hl htext hs => ?_⟩
  · rw [update_eq_run hp, hs, if_pos rfl]
  · rw [query_of_count hp hs]
    exact ⟨⟨_, rfl⟩, rfl, unaffected_update h hp hs⟩
  · obtain ⟨hp, hquery, hexecute⟩ := calls_of_ofText hl htext
    rw [hquery, hexecute, query_of_count hp hs]
    exact ⟨⟨_, rfl⟩, rfl⟩

/-- The insertion that is executed for rows has inserted its row. -/
theorem query_inserts : Reachable ready ∧
    (∃ link p, ready.prepared? 1 = .ok (link, p) ∧ p.statement = .insert "t" [[.literal 5]]) ∧
    (query 1 ready).1 =
      .error (.unsupported "statement does not return rows: insert into t values (5)") ∧
    ready.storage.get? "t" = some ⟨["v"], [], none, none⟩ ∧
    (query 1 ready).2.storage.get? "t" = some ⟨["v"], [[5]], none, none⟩ :=
  ⟨ready_reachable, ⟨_, _, rfl, rfl⟩, by decide +kernel, rfl, by decide +kernel⟩

theorem query_keeps_effect_ready :
    (query 1 ready).2.storage = (update 1 ready).2.storage ∧
      (update 1 ready).2.storage.get? "t" = some ⟨["v"], [[5]], none, none⟩ :=
  ⟨congrArg Database.storage ((query_keeps_effect ready_reachable 1).2.1 _ _ rfl rfl).2.1,
    by decide +kernel⟩

end Database

end CounterTable
