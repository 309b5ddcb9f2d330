import CounterTable.Proofs.Store.Tables
import CounterTable.Proofs.Success
import CounterTable.Store.Execution
import Mathlib.Logic.Relation

/-!
# What statements do to a turn

Executing a statement takes at most a lock and then changes at most one table. The equations say so
for each kind of statement, and `Turn.Move` lists the changes that there are at all.

* `Turn.hold`: the lock that a transaction takes on a free table;
* `Turn.select_forUpdate_of_free`, `Turn.insert_of_free`, `Turn.update_of_free` and their companions
  for tables that are missing or locked by another connection;
* **`Turn.execute_moves`**: every execution is a sequence of moves;
* `Turn.finish_of_transaction`: the end of a transaction.
-/

namespace CounterTable

/-- The rows of a table after the changes of an update. -/
def Table.changed (t : Table) (changes : List (Nat × Int64)) (condition : Condition) : List Row :=
  t.rows.map fun row => if Row.meets row condition then Row.assign row changes else row

theorem Row.length_assign (row : Row) (changes : List (Nat × Int64)) :
    (row.assign changes).length = row.length := by
  induction changes generalizing row with
  | nil => rfl
  | cons c changes ih => exact (ih _).trans List.length_set

namespace Table

variable {t : Table}

theorem Fits.changed (h : t.Fits t.rows) (changes : List (Nat × Int64)) (condition : Condition) :
    t.Fits (t.changed changes condition) := by
  intro row hrow
  obtain ⟨old, hold, rfl⟩ := List.mem_map.mp hrow
  split
  · exact (Row.length_assign old changes).trans (h old hold)
  · exact h old hold

theorem fits_newRows {name : String} {b : Bindings} {rows : List (List Operand)} {new : List Row}
    (h : t.newRows name b rows = .ok new) : t.Fits new := by
  intro row hrow
  obtain ⟨operands, -, hoperands⟩ := exists_of_mapM h hrow
  split at hoperands
  · next hlength => exact (forall₂_of_mapM hoperands).length_eq.symm.trans hlength
  · cases hoperands

end Table

/-- The table that executing a statement may change, create or drop. -/
def Statement.written? : Statement → Option String
  | .createTable name _ _ | .dropTable name _ | .insert name _ | .update name _ _ => some name
  | .select .. => none

namespace Turn

variable {id : Nat} {name : String} {t : Turn} {table : Table} {b : Bindings}

/-- The connection may change the table: it holds the lock, or it needs none. -/
def MayWrite (id : Nat) (t : Turn) (table : Table) : Prop :=
  table.lockedBy? = some id ∨ table.lockedBy? = none ∧ t.transaction = none

/-! ## Locks -/

/-- A table once the connection has claimed it: locked in a transaction. -/
def claimed (t : Turn) (id : Nat) (table : Table) : Table :=
  if t.transaction.isSome then table.acquire id else table

/-- The turn after a free table was claimed. -/
def hold (t : Turn) (id : Nat) (name : String) (table : Table) : Turn :=
  match t.transaction, table.lockedBy? with
  | some x, none =>
    ⟨t.storage.put name (table.acquire id), some { x with locked := name :: x.locked }⟩
  | _, _ => t

theorem claim_of_none (h : t.storage.get? name = none) :
    claim id name t = (.error (.tableNotFound name), t) := by
  rw [claim, Storage.acquire_of_get?_none h]

theorem claim_of_other (h : t.storage.get? name = some table) {holder : Nat}
    (hl : table.lockedBy? = some holder) (hne : holder ≠ id) :
    claim id name t = (.error (Storage.lockHeld name holder), t) := by
  rw [claim, Storage.acquire_of_other h hl hne]

theorem claim_of_free (h : t.storage.get? name = some table) (hf : table.Free id) :
    claim id name t = (.ok (), t.hold id name table) := by
  obtain ⟨storage, transaction⟩ := t
  rcases hf with hl | hl
  · rw [claim, Storage.acquire_of_free h hl]
    cases transaction <;> simp [hold, hl]
  · rw [claim, Storage.acquire_of_own h hl]
    cases transaction <;> simp [hold, hl]

theorem get?_hold (h : t.storage.get? name = some table) (m : String) :
    (t.hold id name table).storage.get? m =
      if m = name then some (t.claimed id table) else t.storage.get? m := by
  unfold hold claimed
  cases t.transaction with
  | none => by_cases hm : m = name <;> simp [hm, h]
  | some x =>
    cases hl : table.lockedBy? with
    | none => simp
    | some owner =>
      by_cases hm : m = name <;> simp [hm, h, Table.acquire_of_locked hl]

theorem get?_hold_self (h : t.storage.get? name = some table) :
    (t.hold id name table).storage.get? name = some (t.claimed id table) := by
  rw [get?_hold h, if_pos rfl]

theorem claimed_rows (t : Turn) (id : Nat) (table : Table) :
    (t.claimed id table).rows = table.rows := by
  unfold claimed Table.acquire
  split
  · split <;> rfl
  · rfl

theorem claimed_columns (t : Turn) (id : Nat) (table : Table) :
    (t.claimed id table).columns = table.columns := by
  unfold claimed
  split
  · exact Table.columns_acquire table id
  · rfl

theorem claimed_free (hf : table.Free id) : (t.claimed id table).Free id := by
  unfold claimed
  split
  · rcases hf with hl | hl
    · exact .inr (by rw [Table.acquire_of_free hl])
    · exact .inr (by rw [Table.acquire_of_locked hl, hl])
  · exact hf

theorem claimed_sound (h : table.Sound) : (t.claimed id table).Sound := by
  unfold claimed
  split
  · exact h.acquire id
  · exact h

theorem mayWrite_hold (hf : table.Free id) :
    (t.hold id name table).MayWrite id (t.claimed id table) := by
  rcases ht : t.transaction with _ | x
  · have h₁ : t.hold id name table = t := by rw [hold, ht]
    have h₂ : t.claimed id table = table := by rw [claimed, ht]; rfl
    rw [h₁, h₂]
    rcases hf with hl | hl
    · exact .inr ⟨hl, ht⟩
    · exact .inl hl
  · left
    have h₂ : t.claimed id table = table.acquire id := by rw [claimed, ht]; rfl
    rw [h₂]
    rcases hf with hl | hl
    · rw [Table.acquire_of_free hl]
    · rw [Table.acquire_of_locked hl, hl]

/-! ## Selections, insertions, updates -/

theorem select_claimed (h : table.Sound) (hf : table.Free id) (items : List Projection)
    (filter : Option Filter) :
    (t.claimed id table).select id items filter b = table.select id items filter b := by
  have hr := Table.visibleRows_eq_rows (claimed_sound (t := t) h) (claimed_free hf)
  rw [claimed_rows] at hr
  have hc := claimed_columns t id table
  unfold Table.select Table.selected Table.condition Table.columnIndex
  simp only [hr, hc, Table.visibleRows_eq_rows h hf]

section Select

variable {items : List Projection} {filter : Option Filter} {forUpdate : Bool}

theorem select_of_none (h : t.storage.get? name = none) :
    select id b name items filter forUpdate t = (.error (.tableNotFound name), t) := by
  cases forUpdate
  · simp [select, Storage.table_of_get?_none h]
  · simp [select, claim_of_none h]

theorem select_plain (h : t.storage.get? name = some table) :
    select id b name items filter false t =
      ((table.select id items filter b).map .rows, t) := by
  simp [select, Storage.table_of_get? h]

theorem select_forUpdate_of_other (h : t.storage.get? name = some table) {holder : Nat}
    (hl : table.lockedBy? = some holder) (hne : holder ≠ id) :
    select id b name items filter true t = (.error (Storage.lockHeld name holder), t) := by
  simp [select, claim_of_other h hl hne]

theorem select_forUpdate_of_free (h : t.storage.get? name = some table) (hs : table.Sound)
    (hf : table.Free id) :
    select id b name items filter true t =
      ((table.select id items filter b).map .rows, t.hold id name table) := by
  rw [← select_claimed (t := t) hs hf]
  simp [select, claim_of_free h hf, Storage.table_of_get? (get?_hold_self h)]

end Select

section Insert

variable {rows : List (List Operand)}

/-- A turn with other rows in a table that was claimed. -/
def setRows (t : Turn) (id : Nat) (name : String) (table : Table) (rows : List Row) : Turn :=
  { t.hold id name table with
    storage := (t.hold id name table).storage.put name { t.claimed id table with rows } }

theorem insert_of_free (h : t.storage.get? name = some table) (hf : table.Free id) :
    insert id b name rows t =
      match table.newRows name b rows with
      | .error e => (.error e, t.hold id name table)
      | .ok new => (.ok (.count new.length), t.setRows id name table (table.rows ++ new)) := by
  have hn : (t.claimed id table).newRows name b rows = table.newRows name b rows := by
    unfold Table.newRows
    rw [claimed_columns]
  simp only [insert, claim_of_free h hf, Storage.table_of_get? (get?_hold_self h), hn, claimed_rows]
  rfl

end Insert

section Update

variable {assignments : List (String × Operand)} {filter : Option Filter}

theorem update_of_none (h : t.storage.get? name = none) :
    update id b name assignments filter t = (.error (.tableNotFound name), t) := by
  simp [update, Storage.acquire_of_get?_none h]

theorem update_of_other (h : t.storage.get? name = some table) {holder : Nat}
    (hl : table.lockedBy? = some holder) (hne : holder ≠ id) :
    update id b name assignments filter t = (.error (Storage.lockHeld name holder), t) := by
  simp [update, Storage.acquire_of_other h hl hne]

theorem acquire_of_unheld (h : t.storage.get? name = some table) (hf : table.Free id) :
    t.storage.acquire name id false = .ok (false, t.storage) := by
  rcases hf with hl | hl
  · rw [Storage.acquire_of_free h hl]
    rfl
  · rw [Storage.acquire_of_own h hl]

theorem update_of_free (h : t.storage.get? name = some table) (hs : table.Sound)
    (hf : table.Free id) :
    update id b name assignments filter t =
      match table.changes b assignments, table.condition b filter with
      | .error e, _ => (.error e, t)
      | .ok _, .error e => (.error e, t)
      | .ok changes, .ok condition =>
        if table.rows.any (Row.meets · condition) then
          (.ok (.count (table.rows.countP (Row.meets · condition))),
            t.setRows id name table (table.changed changes condition))
        else (.ok (.count 0), t) := by
  have hacquire := acquire_of_unheld h hf
  have htable := Storage.table_of_get? h
  have hrows := Table.visibleRows_eq_rows hs hf
  cases hc : table.changes b assignments with
  | error e => simp only [update, hacquire, htable, hc]
  | ok changes =>
    cases hd : table.condition b filter with
    | error e => simp only [update, hacquire, htable, hc, hd]
    | ok condition =>
      simp only [update, hacquire, htable, hrows, hc, hd]
      split
      · simp only [claim_of_free h hf, Storage.table_of_get? (get?_hold_self h), claimed_rows]
        rfl
      · rfl

end Update

/-! ## Every execution is a sequence of moves -/

/-- A single change of a turn. Rows and tables change under the names in `W` only. -/
inductive Move (id : Nat) (W : String → Prop) (t : Turn) : Turn → Prop
  | lock {name : String} {table : Table} {x : Transaction} (h : t.storage.get? name = some table)
      (hl : table.lockedBy? = none) (hx : t.transaction = some x) :
      Move id W t
        ⟨t.storage.put name (table.acquire id), some { x with locked := name :: x.locked }⟩
  | write {name : String} {table : Table} (rows : List Row) (hn : W name)
      (h : t.storage.get? name = some table) (hw : t.MayWrite id table)
      (hr : table.Fits table.rows → table.Fits rows) :
      Move id W t { t with storage := t.storage.put name { table with rows } }
  | create {name : String} (columns : List String) (hn : W name)
      (h : t.storage.get? name = none) :
      Move id W t ({ t with storage := t.storage.put name { columns } }.note (.created name))
  | drop {name : String} {table : Table} (hn : W name) (h : t.storage.get? name = some table)
      (hw : t.MayWrite id table) :
      Move id W t
        ({ t with storage := ⟨t.storage.tables.erase name⟩ }.note (.dropped name table))

/-- Changes of a turn, one after another. -/
abbrev Moves (id : Nat) (W : String → Prop) : Turn → Turn → Prop :=
  Relation.ReflTransGen (Move id W)

variable {W : String → Prop}

theorem hold_moves (h : t.storage.get? name = some table) : Moves id W t (t.hold id name table) := by
  unfold hold
  split
  · next x hx hl => exact .single (.lock h hl hx)
  · exact .refl

theorem claim_cases (id : Nat) (name : String) (t : Turn) :
    (∃ e, claim id name t = (.error e, t)) ∨
      ∃ table, t.storage.get? name = some table ∧ table.Free id ∧
        claim id name t = (.ok (), t.hold id name table) := by
  cases h : t.storage.get? name with
  | none => exact .inl ⟨_, claim_of_none h⟩
  | some table =>
    cases hl : table.lockedBy? with
    | none => exact .inr ⟨table, rfl, .inl hl, claim_of_free h (.inl hl)⟩
    | some holder =>
      by_cases hne : holder = id
      · have hf : table.Free id := .inr (by rw [hl, hne])
        exact .inr ⟨table, rfl, hf, claim_of_free h hf⟩
      · exact .inl ⟨_, claim_of_other h hl hne⟩

theorem setRows_moves (h : t.storage.get? name = some table) (hf : table.Free id) (hn : W name)
    {rows : List Row} (hr : table.Fits table.rows → table.Fits rows) :
    Moves id W t (t.setRows id name table rows) := by
  refine (hold_moves h).tail (.write rows hn (get?_hold_self h) (mayWrite_hold hf) ?_)
  unfold Table.Fits
  rw [claimed_rows, claimed_columns]
  exact hr

theorem select_moves (id : Nat) (b : Bindings) (name : String) (items : List Projection)
    (filter : Option Filter) (forUpdate : Bool) (t : Turn) :
    Moves id W t (select id b name items filter forUpdate t).2 := by
  cases forUpdate with
  | false =>
    unfold select
    simp only [Bool.false_eq_true, if_false]
    split <;> exact .refl
  | true =>
    rcases claim_cases id name t with ⟨e, hc⟩ | ⟨table, h, -, hc⟩
    · simp only [select, if_true, hc]
      exact .refl
    · simp only [select, if_true, hc, Storage.table_of_get? (get?_hold_self h)]
      exact hold_moves h

theorem insert_moves (id : Nat) (b : Bindings) (name : String) (rows : List (List Operand))
    (t : Turn) (hn : W name) : Moves id W t (insert id b name rows t).2 := by
  rcases claim_cases id name t with ⟨e, hc⟩ | ⟨table, h, hf, -⟩
  · simp only [insert, hc]
    exact .refl
  · rw [insert_of_free h hf]
    split
    · exact hold_moves h
    · next new hnew =>
      refine setRows_moves h hf hn fun hfit row hrow => ?_
      rcases List.mem_append.mp hrow with hrow | hrow
      · exact hfit row hrow
      · exact Table.fits_newRows hnew row hrow

theorem update_moves (id : Nat) (b : Bindings) (name : String)
    (assignments : List (String × Operand)) (filter : Option Filter) (t : Turn) (hn : W name) :
    Moves id W t (update id b name assignments filter t).2 := by
  unfold update
  split
  · exact .refl
  split
  · exact .refl
  split
  · exact .refl
  · exact .refl
  split
  · rcases claim_cases id name t with ⟨e, hc⟩ | ⟨table, h, hf, hc⟩
    · simp only [hc]
      exact .refl
    · simp only [hc, Storage.table_of_get? (get?_hold_self h), claimed_rows]
      exact setRows_moves h hf hn fun hfit => hfit.changed _ _
  · exact .refl

theorem createTable_moves (id : Nat) (name : String) (columns : List String) (ifNotExists : Bool)
    (t : Turn) (hn : W name) : Moves id W t (createTable name columns ifNotExists t).2 := by
  unfold createTable
  split
  · exact .refl
  cases h : t.storage.get? name with
  | none =>
    rw [Storage.create_of_get?_none h]
    exact .single (.create columns hn h)
  | some table =>
    rw [Storage.create_of_get? h]

theorem dropTable_moves (id : Nat) (name : String) (ifExists : Bool) (t : Turn) (hn : W name) :
    Moves id W t (dropTable id name ifExists t).2 := by
  unfold dropTable
  split
  · rcases claim_cases id name t with ⟨e, hc⟩ | ⟨table, h, hf, hc⟩
    · simp only [hc]
      exact .refl
    · have h' : (t.hold id name table).storage.get? name = some (t.claimed id table) :=
        get?_hold_self h
      simp only [hc, Storage.drop_of_get? h']
      exact (hold_moves h).tail (.drop hn h' (mayWrite_hold hf))
  · split <;> exact .refl

/-- **Executing a statement** takes locks, and changes at most the table that it writes. -/
theorem execute_moves (id : Nat) (b : Bindings) (s : Statement) (t : Turn)
    (hW : ∀ name ∈ s.written?, W name) : Moves id W t (execute id b s t).2 := by
  cases s with
  | createTable name columns ifNotExists =>
    exact createTable_moves id name columns ifNotExists t (hW name rfl)
  | dropTable name ifExists => exact dropTable_moves id name ifExists t (hW name rfl)
  | insert name rows => exact insert_moves id b name rows t (hW name rfl)
  | select name items filter forUpdate =>
    exact select_moves id b name items filter forUpdate t
  | update name assignments filter =>
    exact update_moves id b name assignments filter t (hW name rfl)

theorem Moves.transaction_isSome {t' : Turn} (h : Moves id W t t') :
    t'.transaction.isSome = t.transaction.isSome := by
  induction h with
  | refl => rfl
  | tail _ hm ih =>
    rw [← ih]
    cases hm with
    | lock _ _ hx => simp [hx]
    | write => rfl
    | create => simp [note]
    | drop => simp [note]

/-! ## Answers -/

theorem exists_of_select {items : List Projection} {filter : Option Filter} {forUpdate : Bool}
    {r : Reply} (h : (select id b name items filter forUpdate t).1 = .ok r) :
    ∃ table : Table, ∃ result, table.select id items filter b = .ok result ∧ r = .rows result := by
  unfold select at h
  split at h
  · cases h
  · split at h
    · cases h
    · next table _ =>
      cases hs : table.select id items filter b with
      | error e =>
        rw [hs] at h
        cases h
      | ok result =>
        rw [hs] at h
        cases h
        exact ⟨table, result, hs, rfl⟩

theorem isRows_of_execute {s : Statement} {r : Reply} (h : (execute id b s t).1 = .ok r) :
    (∃ result, r = .rows result) ↔ s.returnsRows := by
  have hcount : ∀ n, r = .count n → ¬ ∃ result, r = .rows result := by
    rintro n rfl ⟨result, hr⟩
    cases hr
  cases s with
  | select name items filter forUpdate =>
    obtain ⟨table, result, -, hr⟩ := exists_of_select h
    exact iff_of_true ⟨result, hr⟩ rfl
  | insert name rows =>
    refine iff_of_false ?_ Bool.false_ne_true
    simp only [execute, insert] at h
    repeat' split at h
    all_goals first | cases h; done | exact hcount _ (Except.ok.inj h).symm
  | update name assignments filter =>
    refine iff_of_false ?_ Bool.false_ne_true
    simp only [execute, update] at h
    repeat' split at h
    all_goals first | cases h; done | exact hcount _ (Except.ok.inj h).symm
  | createTable name columns ifNotExists =>
    refine iff_of_false ?_ Bool.false_ne_true
    simp only [execute, createTable] at h
    repeat' split at h
    all_goals first | cases h; done | exact hcount _ (Except.ok.inj h).symm
  | dropTable name ifExists =>
    refine iff_of_false ?_ Bool.false_ne_true
    simp only [execute, dropTable] at h
    repeat' split at h
    all_goals first | cases h; done | exact hcount _ (Except.ok.inj h).symm

/-! ## The end of a transaction -/

theorem finish_of_none (h : t.transaction = none) (keep : Bool) :
    finish id keep t = (.error (.transaction "no active transaction"), t) := by
  simp only [finish, h]

/-- The storage once a transaction has ended: what it did to the schema is undone or kept, then its
locks are given back. -/
def ended (id : Nat) (keep : Bool) (s : Storage) (x : Transaction) : Storage :=
  x.locked.foldl (fun s name => s.release id keep name)
    (if keep then s else x.undo.foldl Storage.undo s)

theorem finish_of_transaction {x : Transaction} (h : t.transaction = some x) (keep : Bool) :
    finish id keep t = (.ok (), ⟨ended id keep t.storage x, none⟩) := by
  simp only [finish, h, ended]

theorem get?_ended (id : Nat) (keep : Bool) (s : Storage) (x : Transaction) (m : String) :
    (ended id keep s x).get? m =
      ((if keep then s else x.undo.foldl Storage.undo s).get? m).map fun t =>
        if m ∈ x.locked then t.release id keep else t :=
  Storage.get?_releases x.locked _ id keep m

end Turn

end CounterTable
