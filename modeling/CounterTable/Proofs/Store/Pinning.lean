import CounterTable.Proofs.Store.Exclusion
import CounterTable.Proofs.Store.OneColumn
import CounterTable.Proofs.Store.Widths

/-!
# Values under a lock

A locking read leaves the table locked, and what it answers first is in the table. As long as the
connection holds the lock, an update that looks for this value changes a row.

* `Table.Shows`, `Turn.update_of_shows`: a value of a column, and updates that look for it;
* `Database.Pinned`: a value of a table that a connection holds;
* **`Database.locked_of_query`**, **`Database.Pinned.update`**: what a locking read pins, and an
  update that looks for it.
-/

namespace CounterTable

namespace Table

variable {t : Table} {b : Bindings} {column : String} {id : Nat}

/-- Some row of the table holds the value in the column. -/
def Shows (t : Table) (column : String) (v : Int64) : Prop :=
  ∃ i, t.columnIndex column = .ok i ∧ ∃ row ∈ t.rows, row[i]? = some v

theorem shows_of_select (hs : t.Sound) (hf : t.Free id) (hfits : t.Fits t.rows)
    {shown : Option String} {q : QueryResult}
    (hq : t.select id [.column column shown] none b = .ok q) {value : Value}
    (hv : q.firstValue? = some value) : ∃ v, value = .integer v ∧ t.Shows column v := by
  rw [select_column, visibleRows_eq_rows hs hf] at hq
  cases hi : t.columnIndex column with
  | error e =>
    rw [hi] at hq
    cases hq
  | ok i =>
    rw [hi] at hq
    cases hq
    cases hrows : t.rows with
    | nil =>
      rw [hrows] at hv
      cases hv
    | cons row rest =>
      rw [hrows] at hv
      have hrow : row ∈ t.rows := hrows ▸ List.mem_cons_self
      have hlt : i < row.length := hfits row hrow ▸ columnIndex_lt hi
      refine ⟨row.getD i 0, (Option.some.inj hv).symm, i, hi, row, hrow, ?_⟩
      rw [List.getD_eq_getElem?_getD, List.getElem?_eq_getElem hlt, Option.getD_some]

end Table

/-- **An update that looks for a value of the column** changes a row, unless it assigns a column
that there is not. -/
theorem Turn.update_of_shows {id : Nat} {name column : String} {t : Turn} {table : Table}
    (hg : t.storage.get? name = some table) (hs : table.Sound) (hf : table.Free id) {v w : Int64}
    (hshows : table.Shows column v) {b : Bindings} (hw : b.resolve (.param 1) = .ok w)
    (hv : b.resolve (.param 2) = .ok v) (assigned : String) :
    ∃ k, (execute id b (.update name [(assigned, .param 1)] (some ⟨column, .param 2⟩)) t).1 =
      (table.columnIndex assigned).map fun _ => .count (k + 1) := by
  obtain ⟨i, hi, row, hrow, hcell⟩ := hshows
  have hcondition : table.condition b (some ⟨column, .param 2⟩) = .ok (some (i, v)) := by
    rw [Table.condition_column hv, hi]
    rfl
  have hmeets : Row.meets row (some (i, v)) = true := by simp [Row.meets, hcell]
  have hany : table.rows.any (Row.meets · (some (i, v))) = true :=
    List.any_eq_true.mpr ⟨row, hrow, hmeets⟩
  have hpos : 0 < table.rows.countP (Row.meets · (some (i, v))) :=
    List.countP_pos_iff.mpr ⟨row, hrow, hmeets⟩
  obtain ⟨k, hk⟩ := Nat.exists_eq_succ_of_ne_zero (Nat.pos_iff_ne_zero.mp hpos)
  refine ⟨k, ?_⟩
  rw [execute, update_of_free hg hs hf, Table.changes_column hw, hcondition]
  cases table.columnIndex assigned with
  | error e => rfl
  | ok j =>
    simp only [Except.map, hany, hk, if_true]

namespace Database

variable {db db' : Database} {id : Nat} {link : Link} {name column : String} {v : Int64}

/-- The connection holds the lock of the table, and some row of it holds the value in the column. -/
def Pinned (db : Database) (name column : String) (id : Nat) (v : Int64) : Prop :=
  ∃ table, db.storage.get? name = some table ∧ table.lockedBy? = some id ∧ table.Shows column v

theorem Pinned.locked (h : db.Pinned name column id v) : db.Locked name id := by
  obtain ⟨table, hg, hl, -⟩ := h
  exact ⟨table, hg, hl⟩

theorem Pinned.congr (h : db.Pinned name column id v)
    (hg : db'.storage.get? name = db.storage.get? name) : db'.Pinned name column id v := by
  rw [Pinned, hg]
  exact h

/-- **A locking read** that succeeds in a transaction leaves the table locked, and what it answers
first is in the table. -/
theorem locked_of_query (hr : Reachable db) (hl : db.links.get? id = some link)
    {x : Transaction} (hx : link.transaction = some x) {sql : String} {shown : Option String}
    {b : Bindings}
    (hp : link.prepared = some ⟨sql, .select name [.column column shown] none true, b⟩)
    {q : QueryResult} (hq : (query id db).1 = .ok q) :
    (db.after (.call id .query)).Locked name id ∧ ∀ value, q.firstValue? = some value →
      ∃ v, value = .integer v ∧ (db.after (.call id .query)).Pinned name column id v := by
  have hprep := prepared?_eq_ok.mpr ⟨hl, hp⟩
  have hafter : db.after (.call id .query) = _ := query_after hprep
  have hanswer := (query_answer hprep).symm.trans hq
  unfold executed at hafter hanswer
  rw [Turn.execute] at hafter hanswer
  cases hg : db.storage.get? name with
  | none =>
    rw [Turn.select_of_none hg] at hanswer
    cases hanswer
  | some table =>
    have hs := hr.sound hg
    by_cases hf : table.Free id
    · rw [Turn.select_forUpdate_of_free hg hs hf] at hafter hanswer
      have hclaimed : (⟨db.storage, link.transaction⟩ : Turn).claimed id table =
          table.acquire id := by
        unfold Turn.claimed
        rw [hx, Option.isSome_some, if_pos rfl]
      have hg' : (db.after (.call id .query)).storage.get? name = some (table.acquire id) := by
        rw [hafter, storage_settle, Turn.get?_hold_self hg, hclaimed]
      have hl' : (table.acquire id).lockedBy? = some id := hf.lockedBy?_acquire
      refine ⟨⟨_, hg', hl'⟩, fun value hv => ?_⟩
      cases hsel : table.select id [.column column shown] none b with
      | error e =>
        rw [hsel] at hanswer
        cases hanswer
      | ok q' =>
        rw [hsel] at hanswer
        cases hanswer
        have hfits := (hr.rectangular.tables name table hg).rows
        obtain ⟨v, rfl, hshows⟩ := Table.shows_of_select hs hf hfits hsel hv
        refine ⟨v, rfl, _, hg', hl', ?_⟩
        rw [← hclaimed, Table.Shows, Table.columnIndex, Turn.claimed_columns, Turn.claimed_rows]
        exact hshows
    · obtain ⟨holder, hh, hne⟩ := Table.exists_holder hf
      rw [Turn.select_forUpdate_of_other hg hh hne] at hanswer
      cases hanswer

/-- **An update that looks for a pinned value** changes a row, unless it assigns a column that there
is not. -/
theorem Pinned.update (h : db.Pinned name column id v) (hr : Reachable db)
    (hl : db.links.get? id = some link) {sql assigned : String} {b : Bindings}
    (hp : link.prepared = some
      ⟨sql, .update name [(assigned, .param 1)] (some ⟨column, .param 2⟩), b⟩) {w : Int64}
    (hb₁ : b.get? 1 = some (.integer w)) (hb₂ : b.get? 2 = some (.integer v)) :
    ∃ table k, db.storage.get? name = some table ∧ (∃ i, table.columnIndex column = .ok i) ∧
      (Database.update id db).1 = (table.columnIndex assigned).map fun _ => k + 1 := by
  obtain ⟨table, hg, hlock, hshows⟩ := h
  have hw : b.resolve (.param 1) = .ok w := by simp [Bindings.resolve, hb₁, Value.word?]
  have hv : b.resolve (.param 2) = .ok v := by simp [Bindings.resolve, hb₂, Value.word?]
  obtain ⟨k, hk⟩ := Turn.update_of_shows (t := ⟨db.storage, link.transaction⟩) hg (hr.sound hg)
    (.inr hlock) hshows hw hv assigned
  obtain ⟨i, hi, -⟩ := hshows
  refine ⟨table, k, hg, ⟨i, hi⟩, ?_⟩
  rw [update_answer (prepared?_eq_ok.mpr ⟨hl, hp⟩) rfl, executed, hk]
  cases table.columnIndex assigned <;> rfl

end Database

end CounterTable
